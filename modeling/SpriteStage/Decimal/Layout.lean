import SpriteStage.Decimal.Shortest

/-!
# Writing numbers

Texts of floating point numbers. `plainText` writes the shortest decimal without an exponent,
however long that gets, `fixedText` a fixed number of places, of which the last is rounded half to
even.
-/

namespace SpriteStage

open Float.Model (Format UnpackedFloat)

/-- The digits of a number, at least `width` of them. -/
def paddedDigits (width n : Nat) : List Char :=
  let digits := Nat.toDigits 10 n
  List.replicate (width - digits.length) '0' ++ digits

/-- `n` divided by `10 ^ places`, written with a point and that many places behind it. -/
def pointed (places n : Nat) : String :=
  let digits := paddedDigits (places + 1) n
  let whole := digits.length - places
  String.ofList (digits.take whole ++ '.' :: digits.drop whole)

/-- A decimal without an exponent; whole numbers get no point. -/
def Decimal.plain (d : Decimal) : String :=
  if 0 ≤ d.exponent then
    String.ofList (Nat.toDigits 10 d.coefficient ++ List.replicate d.exponent.toNat '0')
  else pointed (-d.exponent).toNat d.coefficient

/-- The minus sign of a negative number. -/
def signText : UnpackedFloat.Sign → String
  | .negative => "-"
  | .positive => ""

/-- The shortest decimal of a number, without an exponent. -/
def plainText (format : Format) : UnpackedFloat → String
  | .notANumber => "NaN"
  | .infinity sign => signText sign ++ "inf"
  | .zero sign => signText sign ++ "0"
  | .finite sign mantissa exponent _ =>
    signText sign ++ ((Cell.of format mantissa exponent).shortest .up).plain

/-- A fraction rounded to the nearest whole number, a half to the even one. -/
def roundHalfEven (num den : Nat) : Nat :=
  let floor := num / den
  match compare (2 * (num % den)) den with
  | .lt => floor
  | .gt => floor + 1
  | .eq => floor + floor % 2

/-- A number with a fixed number of places. -/
def fixedText (places : Nat) : UnpackedFloat → String
  | .notANumber => "NaN"
  | .infinity sign => signText sign ++ "inf"
  | .zero sign => signText sign ++ pointed places 0
  | .finite sign mantissa exponent _ =>
    let scaled := mantissa * Nat.pow 10 places * Nat.pow 2 exponent.toNat
    signText sign ++ pointed places (roundHalfEven scaled (Nat.pow 2 (-exponent).toNat))

end SpriteStage

/-- The shortest decimal of a 32-bit number, without an exponent. -/
def Float32.plain (x : Float32) : String := SpriteStage.plainText .binary32 x.toModel.unpack

/-- A 32-bit number with a fixed number of places. -/
def Float32.fixed (x : Float32) (places : Nat) : String :=
  SpriteStage.fixedText places x.toModel.unpack

/-- The shortest decimal of a 64-bit number, without an exponent. -/
def Float.plain (x : Float) : String := SpriteStage.plainText .binary64 x.toModel.unpack
