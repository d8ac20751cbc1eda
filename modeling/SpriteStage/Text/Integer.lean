/-!
# Whole numbers in decimal

Reading a text that is one whole number and nothing else: a run of ASCII digits, with a sign where
one is allowed. Leading zeros do no harm. Numbers are written by `toString`: a minus sign if
negative, and no leading zeros.
-/

namespace SpriteStage.Text

/-- The number that `text` writes with ASCII digits alone. -/
def digits? (text : List Char) : Option Nat :=
  if !text.isEmpty && text.all Char.isDigit then some (Nat.ofDigitChars 10 text 0) else none

/-- A natural number, which a plus sign may precede. -/
def natural? : List Char → Option Nat
  | '+' :: text => digits? text
  | text => digits? text

/-- An integer, which a plus or minus sign may precede. -/
def integer? : List Char → Option Int
  | '-' :: text => (digits? text).map fun n => -(n : Int)
  | text => (natural? text).map Int.ofNat

/-- An integer of 32 bits; one that does not fit is refused. -/
def int32? (text : List Char) : Option Int32 := do
  let n ← integer? text
  if Int32.minValue.toInt ≤ n ∧ n ≤ Int32.maxValue.toInt then some (Int32.ofInt n) else none

theorem digits?_toDigits (n : Nat) : digits? (Nat.toDigits 10 n) = some n := by
  have hdigits : (Nat.toDigits 10 n).all Char.isDigit = true :=
    List.all_eq_true.mpr fun c hc => Nat.isDigit_of_mem_toDigits (by decide) (by decide) hc
  have hne : (Nat.toDigits 10 n).isEmpty = false := by
    simp [List.isEmpty_eq_false_iff, Nat.toDigits_ne_nil]
  simp [digits?, hdigits, hne, Nat.ofDigitChars_toDigits]

/-- No sign is written before a natural number. -/
theorem natural?_toDigits (n : Nat) : natural? (Nat.toDigits 10 n) = some n := by
  rw [natural?.eq_def]
  split
  · next heq =>
    have hdigit : Char.isDigit '+' = true :=
      Nat.isDigit_of_mem_toDigits (by decide) (by decide) (heq ▸ List.mem_cons_self)
    cases hdigit
  · exact digits?_toDigits n

end SpriteStage.Text
