import Mathlib.Algebra.Order.Group.Unbundled.Abs
import Mathlib.Algebra.Order.Group.Int
import Mathlib.Tactic.Tauto
import SpriteStage.Box
import SpriteStage.Proofs.Words

/-!
# Boxes over exact integers

What the overlap test says of boxes, told in integers without bounds. A box begins at the position
that anchors it and is held inside the range of words, so that one at the far edge of the plane is
flat and overlaps nothing, not even itself. The module introduces:

* `Position.IsNear`: the squares of side 50 at two points overlap on a plane without bounds;
* `Position.HasRoom`: the point lies at neither of the two far edges.

The main statement is `overlaps_standard_iff`.
-/

namespace SpriteStage

/-! ## Squares -/

namespace Position

/-- On a plane without bounds, the squares of side 50 that two points anchor overlap. -/
def IsNear (a b : Position) : Prop :=
  a.x.toInt < b.x.toInt + 50 ∧ a.x.toInt + 50 > b.x.toInt ∧
    a.y.toInt < b.y.toInt + 50 ∧ a.y.toInt + 50 > b.y.toInt

/-- The point lies at neither of the two edges where the coordinates end: a box that it anchors has
room to the right and downwards. -/
def HasRoom (p : Position) : Prop := p.x ≠ Int32.maxValue ∧ p.y ≠ Int32.maxValue

/-- Points are near each other if they are less than 50 apart on both axes. -/
theorem isNear_iff {a b : Position} :
    a.IsNear b ↔ |a.x.toInt - b.x.toInt| < 50 ∧ |a.y.toInt - b.y.toInt| < 50 := by
  rw [IsNear, abs_lt, abs_lt]
  omega

theorem isNear_self (a : Position) : a.IsNear a := by
  simp [IsNear]

end Position

namespace Box

/-- Boxes overlap if they do so on both axes, as intervals of integers. -/
theorem overlaps_iff {a b : Box} :
    a.overlaps b = true ↔
      (a.low.x.toInt < b.high.x.toInt ∧ b.low.x.toInt < a.high.x.toInt) ∧
        a.low.y.toInt < b.high.y.toInt ∧ b.low.y.toInt < a.high.y.toInt := by
  simp only [overlaps, Bool.and_eq_true, decide_eq_true_eq, Int32.lt_iff_toInt_lt, and_assoc]

/-- On one axis, two intervals of length 50 that are held inside the range overlap if they do
without being held there, and neither of them is a point at the upper end. -/
theorem interval_overlaps_iff (a b : Int32) :
    ((min a (addClamped a 50)).toInt < (max b (addClamped b 50)).toInt ∧
        (min b (addClamped b 50)).toInt < (max a (addClamped a 50)).toInt) ↔
      (a.toInt < b.toInt + 50 ∧ a.toInt + 50 > b.toInt) ∧
        a ≠ Int32.maxValue ∧ b ≠ Int32.maxValue := by
  have hside : (50 : Int32).toInt = 50 := rfl
  have hmax (c : Int32) : c ≠ Int32.maxValue ↔ c.toInt ≠ 2147483647 :=
    not_congr Int32.toInt_inj.symm
  have ha := a.toInt_le
  have hb := b.toInt_le
  have ha' := a.le_toInt
  have hb' := b.le_toInt
  have hlast : Int32.maxValue.toInt = 2147483647 := rfl
  rw [hmax, hmax, toInt_min, toInt_min, toInt_max, toInt_max, toInt_addClamped_eq,
    toInt_addClamped_eq, hside, held, held]
  omega

/-! ## Main statement -/

/-- Two boxes of the standard size overlap exactly if the points that anchor them are less than 50
apart on both axes and neither lies at an edge where the coordinates end. So the test is that of a
plane without bounds wherever both points have room, and a box overlaps itself unless its point has
none. -/
theorem overlaps_standard_iff (a b : Position) :
    ((spanned a .standard).overlaps (spanned b .standard) = true ↔
      a.IsNear b ∧ a.HasRoom ∧ b.HasRoom) ∧
    (a.IsNear b ↔ |a.x.toInt - b.x.toInt| < 50 ∧ |a.y.toInt - b.y.toInt| < 50) ∧
    ((spanned a .standard).overlaps (spanned a .standard) = true ↔ a.HasRoom) := by
  have htest (a b : Position) : (spanned a .standard).overlaps (spanned b .standard) = true ↔
      a.IsNear b ∧ a.HasRoom ∧ b.HasRoom := by
    rw [overlaps_iff]
    simp only [spanned, Size.standard, interval_overlaps_iff, Position.IsNear, Position.HasRoom]
    tauto
  refine ⟨htest a b, Position.isNear_iff, (htest a a).trans ?_⟩
  simp [Position.isNear_self]

/-- Two tabs at the same place at the right edge do not overlap, although they are near. -/
theorem not_overlaps_iff_isNear_at_edge :
    ¬ ∀ a b : Position,
      (spanned a .standard).overlaps (spanned b .standard) = true ↔ a.IsNear b := by
  intro h
  have hflat : (spanned ⟨Int32.maxValue, 0⟩ .standard).overlaps
      (spanned ⟨Int32.maxValue, 0⟩ .standard) = false := by decide
  exact Bool.false_ne_true (hflat.symm.trans ((h _ _).mpr (Position.isNear_self _)))

end Box

end SpriteStage
