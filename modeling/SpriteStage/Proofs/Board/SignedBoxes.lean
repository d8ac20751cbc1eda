import SpriteStage.Proofs.Board.Boxes

/-!
# Boxes of signed sizes

A box can reach from its anchor to either side on both axes, and the anchor is any of its corners.
The module introduces:

* `Box.IsFlat`: the box has no extent on one of the axes;
* `Box.Covers box i j`: the unit cell whose least corner is `(i, j)` lies inside the box;
* `Size.FitsAt`: a size can be told from either of two opposite corners;
* `Box.corner` and `Size.opposite`: the other one of these corners, and the size from there.

The main statement is `overlaps_spanned`.
-/

namespace SpriteStage

/-- The size from the opposite corner. -/
def Size.opposite (size : Size) : Size := ⟨-size.width, -size.height⟩

/-- The opposite corner and the size from there are in the range of words. -/
def Size.FitsAt (size : Size) (anchor : Position) : Prop :=
  (IsWord (anchor.x.toInt + size.width.toInt) ∧ IsWord (anchor.y.toInt + size.height.toInt)) ∧
    IsWord (-size.width.toInt) ∧ IsWord (-size.height.toInt)

namespace Box

/-- The corner of a box that lies opposite to its anchor. -/
def corner (anchor : Position) (size : Size) : Position :=
  ⟨addClamped anchor.x size.width, addClamped anchor.y size.height⟩

/-- The box has no extent on one of the axes. -/
def IsFlat (box : Box) : Prop := box.low.x = box.high.x ∨ box.low.y = box.high.y

/-- The square of side one with the least corner `(i, j)` lies inside the box. -/
def Covers (box : Box) (i j : Int) : Prop :=
  (box.low.x.toInt ≤ i ∧ i + 1 ≤ box.high.x.toInt) ∧ box.low.y.toInt ≤ j ∧ j + 1 ≤ box.high.y.toInt

/-! ## One axis -/

/-- A box does not end before it begins. -/
theorem low_le_high (a size : Int32) :
    min a (addClamped a size) ≤ max a (addClamped a size) := by
  rw [Int32.le_iff_toInt_le, toInt_min, toInt_max]
  exact min_le_max

/-- Two intervals that are no points overlap if and only if they have an interval of length one in
common: the one that begins where the later of them does. -/
theorem interval_overlaps_iff_exists {a b c d : Int} (hab : a < b) (hcd : c < d) :
    (a < d ∧ c < b) ↔ ∃ i, (a ≤ i ∧ i + 1 ≤ b) ∧ c ≤ i ∧ i + 1 ≤ d := by
  constructor
  · intro h
    exact ⟨max a c, by omega, by omega⟩
  · rintro ⟨i, h, h'⟩
    omega

/-- From the other end, the opposite length leads back. -/
theorem addClamped_addClamped_neg {a size : Int32} (hend : IsWord (a.toInt + size.toInt))
    (hsize : IsWord (-size.toInt)) : addClamped (addClamped a size) (-size) = a := by
  rw [← Int32.toInt_inj, toInt_addClamped_eq, toInt_addClamped_eq, held_of_isWord hend,
    toInt_neg_of_isWord hsize, Int.add_neg_cancel_right, held_of_isWord (isWord_toInt a)]

/-! ## Both axes -/

theorem lt_of_not_isFlat {anchor : Position} {size : Size} (h : ¬ (spanned anchor size).IsFlat) :
    (spanned anchor size).low.x.toInt < (spanned anchor size).high.x.toInt ∧
      (spanned anchor size).low.y.toInt < (spanned anchor size).high.y.toInt := by
  obtain ⟨hx, hy⟩ := not_or.mp h
  rw [← Int32.toInt_inj] at hx hy
  exact ⟨lt_of_le_of_ne (Int32.le_iff_toInt_le.mp (low_le_high _ _)) hx,
    lt_of_le_of_ne (Int32.le_iff_toInt_le.mp (low_le_high _ _)) hy⟩

/-- The box is the same from its opposite corner. -/
theorem spanned_corner {anchor : Position} {size : Size} (h : size.FitsAt anchor) :
    spanned (corner anchor size) size.opposite = spanned anchor size := by
  obtain ⟨⟨hx, hy⟩, hwidth, hheight⟩ := h
  have hmin (a b : Int32) : min a b = min b a := by
    rw [← Int32.toInt_inj, toInt_min, toInt_min, min_comm]
  have hmax (a b : Int32) : max a b = max b a := by
    rw [← Int32.toInt_inj, toInt_max, toInt_max, max_comm]
  simp only [spanned, corner, Size.opposite, addClamped_addClamped_neg hx hwidth,
    addClamped_addClamped_neg hy hheight]
  rw [hmin, hmin anchor.y, hmax, hmax anchor.y]

/-! ## Main statement -/

/-- Boxes of any sizes, positive, negative or zero:

* no box ends before it begins;
* of two boxes, the first overlaps the second if the second overlaps the first;
* boxes that both have an extent on both axes overlap exactly if some unit cell lies inside both;
* boxes of which one ends where the other one begins, on either axis, do not overlap;
* if the opposite corner of a box and its size from there are in the range of words, the box can be
  told from that corner: it is the same, and it overlaps the same boxes. -/
theorem overlaps_spanned (a b : Position) (s t : Size) :
    let A := spanned a s
    let B := spanned b t
    (A.low.x ≤ A.high.x ∧ A.low.y ≤ A.high.y) ∧
    A.overlaps B = B.overlaps A ∧
    (¬ A.IsFlat → ¬ B.IsFlat →
      (A.overlaps B = true ↔ ∃ i j, A.Covers i j ∧ B.Covers i j)) ∧
    (A.high.x = B.low.x ∨ A.high.y = B.low.y → A.overlaps B = false) ∧
    (s.FitsAt a →
      let A' := spanned (corner a s) s.opposite
      A' = A ∧ A'.overlaps B = A.overlaps B ∧ B.overlaps A' = B.overlaps A) := by
  intro A B
  refine ⟨⟨low_le_high _ _, low_le_high _ _⟩, overlaps_comm A B, fun hA hB => ?_, fun hedge => ?_,
    fun hfits => ?_⟩
  · obtain ⟨hAx, hAy⟩ := lt_of_not_isFlat hA
    obtain ⟨hBx, hBy⟩ := lt_of_not_isFlat hB
    rw [overlaps_iff, interval_overlaps_iff_exists hAx hBx, interval_overlaps_iff_exists hAy hBy]
    constructor
    · rintro ⟨⟨i, hAi, hBi⟩, j, hAj, hBj⟩
      exact ⟨i, j, ⟨hAi, hAj⟩, hBi, hBj⟩
    · rintro ⟨i, j, ⟨hAi, hAj⟩, hBi, hBj⟩
      exact ⟨⟨i, hAi, hBi⟩, j, hAj, hBj⟩
  · rw [← Bool.not_eq_true, overlaps_iff]
    rintro ⟨⟨-, hx⟩, -, hy⟩
    rcases hedge with hedge | hedge
    · exact hx.ne' (congrArg Int32.toInt hedge)
    · exact hy.ne' (congrArg Int32.toInt hedge)
  · intro A'
    have hsame : A' = A := spanned_corner hfits
    exact ⟨hsame, by rw [hsame], by rw [hsame]⟩

-- A flat box overlaps what it lies inside of, although it covers no cell.
example : (spanned ⟨10, 10⟩ ⟨0, 5⟩).overlaps (spanned ⟨0, 0⟩ .standard) = true := by decide

end Box

end SpriteStage
