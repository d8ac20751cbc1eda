/-!
# Shortest decimals

A floating point number stands for all reals that are rounded to it. Such a set is a `Cell`: an
interval around the number, which has its ends in it when the mantissa is even. The shortest decimal
of a number is the one with the fewest digits in its cell, and of these the nearest to the number.

* `Cell.of` is the cell of a mantissa and an exponent in a format.
* `Cell.shortest` is its shortest decimal. It looks for a multiple of a power of ten, coarse powers
  first. If a cell has a multiple at all, it has one of the two that enclose the number.
-/

namespace SpriteStage

/-- The number `coefficient * 10 ^ exponent`. -/
structure Decimal where
  /-- The digits, as a number. -/
  coefficient : Nat
  /-- The power of ten of the last digit. -/
  exponent : Int
  deriving DecidableEq, Repr

/-- Where a number halfway between two decimals goes. -/
inductive Tie where
  /-- To the greater one. -/
  | up
  /-- To the one whose last digit is even. -/
  | even
  deriving DecidableEq, Repr

/-- A positive number and the interval that is rounded to it, in units of a power of two. -/
structure Cell where
  /-- The number. -/
  value : Nat
  /-- The lower end. -/
  low : Nat
  /-- The upper end. -/
  high : Nat
  /-- The power of two that is the unit. -/
  exponent : Int
  /-- The ends belong to the cell. -/
  closed : Bool
  deriving Repr

namespace Cell

open Float.Model (Format)

/-- The cell of `mantissa * 2 ^ exponent`. The number below a power of two is only half as far away,
except at the least exponent. -/
def of (format : Format) (mantissa : Nat) (exponent : Int) : Cell :=
  let atPower :=
    mantissa = Nat.pow 2 format.mantissaBitsWithoutImplicit ∧ exponent ≠ format.minExponent
  { value := 4 * mantissa
    low := if atPower then 4 * mantissa - 1 else 4 * mantissa - 2
    high := 4 * mantissa + 2
    exponent := exponent - 2
    closed := mantissa % 2 = 0 }

section Parts

variable (format : Format) (mantissa : Nat) (exponent : Int)

@[simp] theorem value_of : (of format mantissa exponent).value = 4 * mantissa := by rfl

@[simp] theorem high_of : (of format mantissa exponent).high = 4 * mantissa + 2 := by rfl

@[simp] theorem exponent_of : (of format mantissa exponent).exponent = exponent - 2 := by rfl

end Parts

/-- The unit of the cell divided by `10 ^ power`, as a fraction. -/
def unit (cell : Cell) (power : Int) : Nat × Nat :=
  (Nat.pow 2 cell.exponent.toNat * Nat.pow 10 (-power).toNat,
    Nat.pow 2 (-cell.exponent).toNat * Nat.pow 10 power.toNat)

/-- `c * 10 ^ power` lies in the cell. -/
def holds (cell : Cell) (power : Int) (c : Nat) : Bool :=
  let (num, den) := cell.unit power
  if cell.closed then cell.low * num ≤ c * den && c * den ≤ cell.high * num
  else cell.low * num < c * den && c * den < cell.high * num

/-- The multiple of `10 ^ power` below the number or at it. -/
def floorAt (cell : Cell) (power : Int) : Nat :=
  let (num, den) := cell.unit power
  cell.value * num / den

/-- Of the two multiples of `10 ^ power` that enclose the number, the upper one is the better. -/
def prefersUpper (cell : Cell) (tie : Tie) (power : Int) : Bool :=
  let (num, den) := cell.unit power
  let c := cell.floorAt power
  match compare (2 * (cell.value * num)) ((2 * c + 1) * den) with
  | .lt => false
  | .gt => true
  | .eq => tie = .up || c % 2 = 1

/-- The multiple of `10 ^ power` in the cell that is nearest to the number. -/
def multiple? (cell : Cell) (tie : Tie) (power : Int) : Option Nat :=
  let c := cell.floorAt power
  match cell.holds power c, cell.holds power (c + 1) with
  | true, true => some (if cell.prefersUpper tie power then c + 1 else c)
  | true, false => some c
  | false, true => some (c + 1)
  | false, false => none

/-- A power of ten above the number: 30103 hundred-thousandths are the common logarithm of two. -/
def coarsest (cell : Cell) : Int :=
  (cell.high.log2 + 1 + cell.exponent) * 30103 / 100000 + 1

/-- The shortest decimal in the cell. Seventeen digits are always enough. -/
def shortest (cell : Cell) (tie : Tie) : Decimal :=
  let powers := (List.range 20).map fun i => cell.coarsest - (i : Nat)
  (powers.findSome? fun power => (cell.multiple? tie power).map (⟨·, power⟩)).getD ⟨0, 0⟩

end Cell

end SpriteStage
