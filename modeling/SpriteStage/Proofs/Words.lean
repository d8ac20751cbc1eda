import Mathlib.Algebra.Order.Group.Int
import SpriteStage.Transform

/-!
# Words as integers

Words of 32 bits are told in integers without bounds: `held k` is the integer that a sum or a
difference `k` of words comes to, and minimum and maximum are those of integers.
-/

namespace SpriteStage

/-- The integer, held at the ends of the range of words. -/
def held (k : Int) : Int := max (-2147483648) (min 2147483647 k)

/-- The integer is in the range of words. -/
def IsWord (k : Int) : Prop := -2147483648 ≤ k ∧ k ≤ 2147483647

theorem held_of_isWord {k : Int} (h : IsWord k) : held k = k := by
  obtain ⟨hlow, hhigh⟩ := h
  rw [held]
  omega

theorem isWord_toInt (a : Int32) : IsWord a.toInt := ⟨a.le_toInt, Int.le_of_lt_add_one a.toInt_lt⟩

/-- What is held in the range is the exact integer, or the end that it has passed. -/
theorem toInt_ofIntClamp (k : Int) : (Int32.ofIntClamp k).toInt = held k := by
  have hmin : Int32.minValue.toInt = -2147483648 := rfl
  have hmax : Int32.maxValue.toInt = 2147483647 := rfl
  rw [Int32.ofIntClamp, held]
  split
  · split
    · rw [Int32.toInt_ofIntLE]
      omega
    · omega
  · omega

/-- The sum of two words is the exact one, held at the ends of the range. -/
theorem toInt_addClamped_eq (a b : Int32) : (addClamped a b).toInt = held (a.toInt + b.toInt) :=
  toInt_ofIntClamp _

/-- The difference of two words is the exact one, held at the ends of the range. -/
theorem toInt_subClamped_eq (a b : Int32) : (subClamped a b).toInt = held (a.toInt - b.toInt) :=
  toInt_ofIntClamp _

theorem toInt_min (a b : Int32) : (min a b).toInt = min a.toInt b.toInt := by
  change (if a ≤ b then a else b).toInt = _
  rw [apply_ite Int32.toInt, min_def]
  exact if_congr Int32.le_iff_toInt_le rfl rfl

theorem toInt_max (a b : Int32) : (max a b).toInt = max a.toInt b.toInt := by
  change (if a ≤ b then b else a).toInt = _
  rw [apply_ite Int32.toInt, max_def]
  exact if_congr Int32.le_iff_toInt_le rfl rfl

/-- A word has an opposite, unless it is the least. -/
theorem toInt_neg_of_isWord {a : Int32} (h : IsWord (-a.toInt)) : (-a).toInt = -a.toInt := by
  obtain ⟨hlow, hhigh⟩ := h
  rw [Int32.toInt_neg, Int.bmod_eq_of_le_mul_two]
  · omega
  · omega

end SpriteStage
