/-!
# Control sequences

What a terminal obeys instead of showing it: control characters, and sequences of characters that
an escape character opens. Notes are read in files too, so they are written without them.

* `Text.withoutControls` leaves out control characters and control sequences.
* `Text.shown_eq_self` says that nothing else is left out, `Text.isShown_of_mem_shown` that none of
  them is left in.
-/

namespace SpriteStage.Text

/-- `c` is a control character that only sets what follows apart from what precedes. -/
def isSpacing (c : Char) : Bool := c = '\t' || c = '\n' || c = '\x0c' || c = '\r'

/-- `c` is shown and not obeyed. -/
def isShown (c : Char) : Bool := isSpacing c || (' ' ≤ c && c ≠ '\x7f')

/-- How far a control sequence has got. -/
inductive ControlSequence where
  /-- An escape character. -/
  | escape
  /-- An escape character and what selects a set of short sequences. -/
  | selection
  /-- A sequence with parameters, which a letter ends. -/
  | parameters
  /-- A command to the system around the terminal, which a bell ends. -/
  | systemCommand
  /-- A command to a device. -/
  | deviceCommand
  /-- A command to a device with parameters. -/
  | deviceParameters
  /-- A command to a device and what selects a set of them. -/
  | deviceSelection
  /-- A string that belongs to a command. -/
  | string
  deriving DecidableEq, Repr

namespace ControlSequence

/-- The sequence with one more character, or `none` if that character ends it. An escape character
opens the next sequence within any other, and two control characters cancel all of them. A string
ends with a byte that is also found inside the encoding of longer characters. -/
def next (sequence : ControlSequence) (c : Char) : Option ControlSequence :=
  if c = '\x1b' then some escape
  else if c = '\x18' || c = '\x1a' then none
  else match sequence with
    | escape =>
      if c = '[' then some parameters
      else if c = ']' then some systemCommand
      else if c = 'P' then some deviceCommand
      else if c = 'X' || c = '^' || c = '_' then some string
      else if ' ' ≤ c && c ≤ '/' then some selection
      else if '0' ≤ c && c ≤ '~' then none
      else some escape
    | selection => if '0' ≤ c && c ≤ '~' then none else some selection
    | parameters => if '@' ≤ c && c ≤ '~' then none else some parameters
    | systemCommand => if c = '\x07' then none else some systemCommand
    | deviceCommand =>
      if ' ' ≤ c && c ≤ '/' then some deviceSelection
      else if '0' ≤ c && c ≤ '?' then some deviceParameters
      else if '@' ≤ c && c ≤ '~' then some string
      else some deviceCommand
    | deviceParameters =>
      if ' ' ≤ c && c ≤ '/' then some deviceSelection
      else if '<' ≤ c && c ≤ '~' then some string
      else some deviceParameters
    | deviceSelection => if '0' ≤ c && c ≤ '~' then some string else some deviceSelection
    | string => if (String.utf8EncodeChar c).contains 0x9c then none else some string

/-- Spacing that stands in the sequence is shown. -/
def showsSpacing : ControlSequence → Bool
  | escape | selection | parameters => true
  | _ => false

end ControlSequence

/-- Where the reader of a text stands. -/
inductive Reading where
  /-- In plain text. -/
  | plain
  /-- Within a control sequence. -/
  | within (sequence : ControlSequence)
  /-- In plain text that spacing within a control sequence began. The next character that is obeyed
  takes the sequence up again, unless a character beyond ASCII comes first. -/
  | paused (sequence : ControlSequence)
  deriving DecidableEq, Repr

namespace Reading

/-- Within a sequence, or in plain text after its end. -/
def ofSequence : Option ControlSequence → Reading
  | some sequence => within sequence
  | none => plain

/-- Where the reader stands after a character, and whether the character is shown. -/
def next (reading : Reading) (c : Char) : Bool × Reading :=
  match reading with
  | plain => if isShown c then (true, plain) else
    (false, if c = '\x1b' then within .escape else plain)
  | within sequence => if sequence.showsSpacing && isSpacing c then (true, paused sequence) else
    (false, ofSequence (sequence.next c))
  | paused sequence => if isShown c then (true, if c ≤ '\x7f' then paused sequence else plain) else
    (false, ofSequence (sequence.next c))

/-- What is shown is no control character. -/
theorem isShown_of_next {reading : Reading} {c : Char} (h : (reading.next c).1 = true) :
    isShown c = true := by
  cases reading with
  | plain => by_cases hc : isShown c = true <;> simp_all [next]
  | within sequence => by_cases hc : isSpacing c = true <;> simp_all [next, isShown]
  | paused sequence => by_cases hc : isShown c = true <;> simp_all [next]

end Reading

/-- The characters of a text that are shown. -/
def shown (reading : Reading) : List Char → List Char
  | [] => []
  | c :: text =>
    let (keep, reading) := reading.next c
    if keep then c :: shown reading text else shown reading text

/-- Control characters are left out. -/
theorem isShown_of_mem_shown {reading : Reading} {text : List Char} {c : Char}
    (h : c ∈ shown reading text) : isShown c = true := by
  induction text generalizing reading with
  | nil => simp [shown] at h
  | cons d text ih =>
    by_cases hd : (reading.next d).1 = true
    · simp only [shown, hd, if_true, List.mem_cons] at h
      rcases h with rfl | h
      · exact Reading.isShown_of_next hd
      · exact ih h
    · simp only [shown, hd] at h
      exact ih h

/-- A text without control characters is shown as it is. -/
theorem shown_eq_self {text : List Char} (h : ∀ c ∈ text, isShown c = true) :
    shown .plain text = text := by
  induction text with
  | nil => rfl
  | cons c text ih =>
    have hc := h c (.head _)
    simp [shown, Reading.next, hc, ih fun d hd => h d (.tail _ hd)]

/-- The text without control characters and control sequences. -/
def withoutControls (text : String) : String := String.ofList (shown .plain text.toList)

end SpriteStage.Text
