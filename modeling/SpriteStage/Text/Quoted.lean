import SpriteStage.Text.GraphemeExtend
import SpriteStage.Text.Unprintable

/-!
# Quoted texts

How texts are shown in messages: between quotation marks, with everything that could not be told
apart on a screen written as an escape.
-/

namespace SpriteStage

namespace Text

/-- The escape of a character by its code point. -/
def codePointEscape (c : Char) : List Char :=
  ['\\', 'u', '\x7b'] ++ Nat.toDigits 16 c.toNat ++ ['\x7d']

/-- `c` is drawn onto the character before it and would attach itself to a quotation mark. The two
voicing marks of half the width extend a character too, but they have a place of their own. -/
def isAttached (c : Char) : Bool := extendsGrapheme c && c ≠ '\uff9e' && c ≠ '\uff9f'

/-- A character as it is shown between quotation marks. -/
def escaped (c : Char) : List Char :=
  match c with
  | '\x00' => ['\\', '0']
  | '\t' => ['\\', 't']
  | '\n' => ['\\', 'n']
  | '\r' => ['\\', 'r']
  | '"' => ['\\', '"']
  | '\\' => ['\\', '\\']
  | c => if isAttached c || isUnprintable c then codePointEscape c else [c]

/-- A text between quotation marks. -/
def quoted (text : String) : String :=
  String.ofList ('"' :: text.toList.flatMap escaped ++ ['"'])

/-- A list of texts in brackets, each between quotation marks. -/
def quotedList (texts : List String) : String :=
  "[" ++ ", ".intercalate (texts.map quoted) ++ "]"

end Text

end SpriteStage
