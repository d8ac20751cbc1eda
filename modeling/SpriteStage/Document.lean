/-!
# JSON documents

JSON values and their text: two blanks of indentation for each level, an empty list or object
without a line break, and the fields of an object in the order in which they are given.
-/

namespace SpriteStage

/-- A JSON value. The text of a number is chosen by whoever builds it. -/
inductive Document where
  /-- A number, a truth value or `null`. -/
  | literal (token : String)
  /-- A text. -/
  | text (content : String)
  /-- A list. -/
  | list (items : List Document)
  /-- An object, with its keys in order. -/
  | object (fields : List (String × Document))

namespace Document

/-- A character inside a quoted text. -/
def escaped (c : Char) : List Char :=
  match c with
  | '"' => ['\\', '"']
  | '\\' => ['\\', '\\']
  | '\x08' => ['\\', 'b']
  | '\x0c' => ['\\', 'f']
  | '\n' => ['\\', 'n']
  | '\r' => ['\\', 'r']
  | '\t' => ['\\', 't']
  | c =>
    if c.toNat < 0x20 then
      let digits := Nat.toDigits 16 c.toNat
      '\\' :: 'u' :: List.replicate (4 - digits.length) '0' ++ digits
    else [c]

/-- A text between quotation marks. -/
def quoted (content : String) : String :=
  String.ofList ('"' :: content.toList.flatMap escaped ++ ['"'])

/-- The start of a line at a level of nesting. -/
def margin (level : Nat) : String := "\n" ++ String.ofList (List.replicate (2 * level) ' ')

/-- Items between two brackets, each on a line of its own. -/
def block (opening closing : String) (level : Nat) (items : List String) : String :=
  if items.isEmpty then opening ++ closing
  else
    opening ++ margin (level + 1) ++ ("," ++ margin (level + 1)).intercalate items
      ++ margin level ++ closing

mutual

/-- The text of a value at a level of nesting. -/
def render (level : Nat) : Document → String
  | literal token => token
  | text content => quoted content
  | list items => block "[" "]" level (renderItems (level + 1) items)
  | object fields => block "\x7b" "\x7d" level (renderFields (level + 1) fields)

/-- The texts of the items of a list. -/
def renderItems (level : Nat) : List Document → List String
  | [] => []
  | item :: items => render level item :: renderItems level items

/-- The texts of the fields of an object. -/
def renderFields (level : Nat) : List (String × Document) → List String
  | [] => []
  | (key, value) :: fields =>
    (quoted key ++ ": " ++ render level value) :: renderFields level fields

end

end Document

end SpriteStage
