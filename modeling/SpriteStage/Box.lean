import SpriteStage.Transform

/-!
# Boxes

The axis-parallel rectangle that a tab occupies, spanned by its tracked position and a signed size,
and the test whether two of them overlap.
-/

namespace SpriteStage

/-- The signed extent of a box from the position that anchors it. -/
structure Size where
  /-- Extent to the right. -/
  width : Int32
  /-- Extent downwards. -/
  height : Int32
  deriving DecidableEq, Repr

/-- The size of every tab's box on the stage. -/
def Size.standard : Size := ⟨50, 50⟩

/-- A rectangle by its corners with the least and the greatest coordinates. -/
structure Box where
  /-- The corner with the least coordinates. -/
  low : Position
  /-- The corner with the greatest coordinates. -/
  high : Position
  deriving DecidableEq, Repr

namespace Box

/-- The rectangle between `anchor` and the point that lies `size` away from it, which is held inside
the 32-bit range. -/
def spanned (anchor : Position) (size : Size) : Box :=
  let x := addClamped anchor.x size.width
  let y := addClamped anchor.y size.height
  { low := ⟨min anchor.x x, min anchor.y y⟩
    high := ⟨max anchor.x x, max anchor.y y⟩ }

/-- Each box begins strictly before the other one ends, on both axes. -/
def overlaps (a b : Box) : Bool :=
  a.low.x < b.high.x && b.low.x < a.high.x && a.low.y < b.high.y && b.low.y < a.high.y

theorem overlaps_comm (a b : Box) : a.overlaps b = b.overlaps a := by
  simp only [overlaps]
  ac_rfl

end Box

end SpriteStage
