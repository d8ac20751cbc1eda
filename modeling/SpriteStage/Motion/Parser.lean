import SpriteStage.Motion.Command
import SpriteStage.Text.DecimalDigit
import SpriteStage.Text.Integer

/-!
# Reading motion commands

The grammar, in order of precedence:

* `Move Right N`, anywhere in the text,
* one of the four fixed commands, as the whole text,
* `Turn N degrees`, anywhere in the text,
* `Go to X: N, Y: M`, anywhere in the text.

`N` and `M` are maximal runs of decimal digits of any script; in the last two forms a minus sign
may precede them. The leftmost place where a form fits decides. If its numbers are not in ASCII or
do not fit a word of 32 bits the command is `idle`, and later forms are not tried. All other texts
are `idle` too.

* `firstMatch?` finds the leftmost place where a form fits.
* `Command.ofText` reads a command.
-/

namespace SpriteStage

namespace Motion

/-- What `form?` reads at the leftmost place of `text` where it fits. -/
def firstMatch? {α : Type} (form? : List Char → Option α) : List Char → Option α
  | [] => form? []
  | c :: text =>
    match form? (c :: text) with
    | some found => some found
    | none => firstMatch? form? text

/-- The longest run of decimal digits that `text` starts with, unless that is empty, and the rest.
-/
def digitRun? (text : List Char) : Option (List Char × List Char) :=
  match text.takeWhile isDecimalDigit with
  | [] => none
  | digits => some (digits, text.dropWhile isDecimalDigit)

/-- A run of digits that a minus sign may precede, and the rest. -/
def signedRun? : List Char → Option (List Char × List Char)
  | '-' :: text => (digitRun? text).map fun (digits, rest) => ('-' :: digits, rest)
  | text => digitRun? text

/-- The numeral of `Move Right N` at the start of `text`. -/
def moveRight? (text : List Char) : Option (List Char) := do
  let rest ← "Move Right ".toList.isPrefixOf? text
  let (amount, _) ← digitRun? rest
  return amount

/-- The numeral of `Turn N degrees` at the start of `text`. -/
def turn? (text : List Char) : Option (List Char) := do
  let rest ← "Turn ".toList.isPrefixOf? text
  let (degrees, rest) ← signedRun? rest
  let _ ← " degrees".toList.isPrefixOf? rest
  return degrees

/-- The two numerals of `Go to X: N, Y: M` at the start of `text`. -/
def goTo? (text : List Char) : Option (List Char × List Char) := do
  let rest ← "Go to X: ".toList.isPrefixOf? text
  let (x, rest) ← signedRun? rest
  let rest ← ", Y: ".toList.isPrefixOf? rest
  let (y, _) ← signedRun? rest
  return (x, y)

/-- The commands that are the whole text. -/
def fixed? (text : List Char) : Option Command :=
  if text = "Move Forward".toList then some .moveForward
  else if text = "Move Backward".toList then some .moveBackward
  else if text = "Turn Right".toList then some .turnRight
  else if text = "Turn Left".toList then some .turnLeft
  else none

/-- The position that two numerals give, if both fit. -/
def position? (x y : List Char) : Option Position := do
  return ⟨← Text.int32? x, ← Text.int32? y⟩

end Motion

open Motion in
/-- The command that a list of characters stands for. -/
def Command.ofChars (text : List Char) : Command :=
  match firstMatch? moveRight? text with
  | some amount => ((Text.int32? amount).map .moveRight).getD .idle
  | none =>
  match fixed? text with
  | some command => command
  | none =>
  match firstMatch? turn? text with
  | some degrees => ((Text.int32? degrees).map .turnBy).getD .idle
  | none =>
  match firstMatch? goTo? text with
  | some (x, y) => ((position? x y).map .goTo).getD .idle
  | none => .idle

/-- The command that `text` stands for. -/
def Command.ofText (text : String) : Command := ofChars text.toList

/-- The effect of a command given by its text. -/
def Transform.follow (t : Transform) (text : String) : Transform := (Command.ofText text).apply t

/-- The effect of commands given by their texts, one after the other. -/
def Transform.followAll (t : Transform) (texts : List String) : Transform := texts.foldl follow t

@[simp]
theorem Transform.followAll_cons (t : Transform) (text : String) (texts : List String) :
    t.followAll (text :: texts) = (t.follow text).followAll texts := by
  rfl

end SpriteStage
