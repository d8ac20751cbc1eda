/-!
# Positions and transforms

Where a sprite is and how far it is turned. Coordinates and angles are integers of 32 bits, and
sums that leave that range stop at its ends.
-/

namespace SpriteStage

/-- A point of the stage. The y axis points down. -/
structure Position where
  /-- Horizontal coordinate. -/
  x : Int32
  /-- Vertical coordinate. -/
  y : Int32
  deriving DecidableEq, Repr

/-- A position together with a rotation in degrees, which is never normalised. -/
structure Transform where
  /-- Where the sprite is. -/
  position : Position
  /-- Degrees turned to the right. -/
  rotation : Int32
  deriving DecidableEq, Repr

/-- The sum of two words, held at the ends of the 32-bit range. -/
def addClamped (a b : Int32) : Int32 := Int32.ofIntClamp (a.toInt + b.toInt)

/-- The difference of two words, held at the ends of the 32-bit range. -/
def subClamped (a b : Int32) : Int32 := Int32.ofIntClamp (a.toInt - b.toInt)

end SpriteStage
