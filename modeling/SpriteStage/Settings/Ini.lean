import SpriteStage.Text.Blank
import SpriteStage.Text.Cut

/-!
# INI files

The form in which settings are kept: headers in square brackets, and under them keys with values.

* Blanks at both ends of a line, of a name and of a value do not count.
* A semicolon or number sign starts a comment, anywhere in a line.
* A header is what stands between an opening bracket at the start of a line and the last closing
  one.
* A key and its value are separated by the first equals sign or colon; without one the key has no
  value.
* Names of headers and keys are compared without case. A later line overrides an earlier one.
* Keys before any header belong to the header `default`.

`Ini.read` reads the entries of a text in order, `Ini.value?` looks one up, and `Ini.write` writes a
text.
-/

namespace SpriteStage.Ini

/-- One key under its header. -/
structure Entry where
  /-- The header, folded. -/
  header : List Char
  /-- The key, folded. -/
  key : List Char
  /-- The value, if the line has one. -/
  value : Option (List Char)
  deriving DecidableEq, Repr

/-- Why a text is refused. Lines are counted from 1. -/
inductive Fault where
  /-- A header without a closing bracket. -/
  | unclosedHeader (line : Nat)
  /-- A line that starts with a separator. -/
  | emptyKey (line : Nat)
  deriving DecidableEq, Repr

/-- The message of a fault. -/
def Fault.message : Fault → String
  | unclosedHeader line =>
    "line " ++ toString line
      ++ ": Found opening bracket for section name but no closing bracket"
  | emptyKey line => "line " ++ toString line ++ ":0: Key cannot be empty"

/-- The lower case of a character, where that is a letter of ASCII; besides the capital letters this
concerns only the Kelvin sign. -/
def fold (c : Char) : Char := if c = '\u212a' then 'k' else c.toLower

/-- A name without case and without blanks at its ends. -/
def name (text : List Char) : List Char := (trimBlanks text).map fold

/-- `c` starts a comment. -/
def isComment (c : Char) : Bool := c = ';' || c = '#'

/-- `c` separates a key from its value. -/
def isSeparator (c : Char) : Bool := c = '=' || c = ':'

/-- A line without its comment and without blanks at its ends. -/
def content (line : List Char) : List Char :=
  trimBlanks ((trimBlanks line).takeWhile (!isComment ·))

/-- What a line says. -/
inductive Statement where
  /-- Nothing. -/
  | nothing
  /-- The following keys belong to this header. -/
  | header (name : List Char)
  /-- A key, and its value if there is one. -/
  | key (name : List Char) (value : Option (List Char))
  deriving DecidableEq, Repr

/-- What the line with a number says. -/
def statement (number : Nat) (line : List Char) : Except Fault Statement :=
  match content line with
  | [] => .ok .nothing
  | '[' :: rest =>
    match rest.reverse.dropWhile (· ≠ ']') with
    | [] => .error (.unclosedHeader number)
    | _ :: header => .ok (.header (name header.reverse))
  | text =>
    match Text.cutAt? isSeparator text with
    | none => .ok (.key (name text) none)
    | some (key, value) =>
      if (trimBlanks key).isEmpty then .error (.emptyKey number)
      else .ok (.key (name key) (some (trimBlanks value)))

/-- The entries of lines that follow a header. -/
def readLines (header : List Char) (number : Nat) : List (List Char) → Except Fault (List Entry)
  | [] => .ok []
  | line :: lines => do
    match ← statement number line with
    | .nothing => readLines header (number + 1) lines
    | .header header => readLines header (number + 1) lines
    | .key key value => return ⟨header, key, value⟩ :: (← readLines header (number + 1) lines)

/-- The entries of a text, in order. -/
def read (text : List Char) : Except Fault (List Entry) :=
  readLines "default".toList 1 (Text.lines text)

/-- The value of the last entry for a key, if that has one. -/
def value? (entries : List Entry) (header key : String) : Option (List Char) :=
  (entries.reverse.find? fun entry =>
    entry.header = header.toList && entry.key = key.toList).bind (·.value)

/-- A header and what stands under it. -/
structure Group where
  /-- The header. -/
  header : String
  /-- The keys with their values. -/
  values : List (String × String)
  deriving DecidableEq, Repr

/-- The lines of a group. -/
def Group.lines (group : Group) : List String :=
  ("[" ++ group.header ++ "]") :: group.values.map fun (key, value) => key ++ "=" ++ value

/-- The text of groups. -/
def write (groups : List Group) : String :=
  String.join ((groups.flatMap Group.lines).map (· ++ "\n"))

end SpriteStage.Ini
