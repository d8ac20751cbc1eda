import SpriteStage.Text.Integer

/-!
# Reading numbers

A number is an optional sign and either one of the words `inf`, `infinity` and `nan`, in any case,
or a decimal with an optional point and an optional exponent and at least one digit before the
exponent. `readNumber?` rounds it to 64 bits, and `Float.narrow` rounds it once more, to 32 bits.
Halves go to the even neighbour both times.
-/

namespace SpriteStage

/-- The exponent that follows the digits of a decimal, zero if nothing does. -/
def readExponent? : List Char → Option Int
  | [] => some 0
  | c :: text => if c = 'e' ∨ c = 'E' then Text.integer? text else none

/-- A decimal without a sign, as a whole number and the power of ten it is multiplied by. -/
def readDecimal? (text : List Char) : Option (Nat × Int) :=
  let whole := text.takeWhile Char.isDigit
  let rest := text.dropWhile Char.isDigit
  let (places, rest) := match rest with
    | '.' :: rest => (rest.takeWhile Char.isDigit, rest.dropWhile Char.isDigit)
    | _ => ([], rest)
  if (whole ++ places).isEmpty then none
  else (readExponent? rest).map fun power =>
    (Nat.ofDigitChars 10 (whole ++ places) 0, power - (places.length : Nat))

/-- The word of 64 bits that is nearest to `c * 10 ^ power`. Numbers far outside the range of the
format are not computed: from 10^310 on all are infinite, and below 10^-330 all are zero. -/
def roundDecimal (c : Nat) (power : Int) : Float :=
  let top := (Nat.toDigits 10 c).length + power
  if c = 0 ∨ top < -330 then 0
  else if 310 < top then 1 / 0
  else Float.ofScientific c (power < 0) power.natAbs

/-- A number without a sign. -/
def readMagnitude? (text : List Char) : Option Float :=
  let word := text.map Char.toLower
  if word = "inf".toList ∨ word = "infinity".toList then some (1 / 0)
  else if word = "nan".toList then some (0 / 0)
  else (readDecimal? text).map fun (c, power) => roundDecimal c power

/-- A number, which a plus or minus sign may precede. -/
def readNumber? : List Char → Option Float
  | '-' :: text => (readMagnitude? text).map (-·)
  | '+' :: text => readMagnitude? text
  | text => readMagnitude? text

end SpriteStage

/-- A word of 64 bits rounded to 32 bits, which may be infinite then. -/
def Float.narrow (x : Float) : Float32 :=
  match x.toModel.unpack with
  | .finite sign mantissa exponent _ => ⟨.pack (.round .binary32 sign mantissa exponent)⟩
  | special => ⟨.pack special⟩
