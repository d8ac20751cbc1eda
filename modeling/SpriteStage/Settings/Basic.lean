import SpriteStage.Decimal.Layout

/-!
# Settings

What can be set about a stage and its runner, with the values that hold unless a file or the command
line says otherwise.
-/

namespace SpriteStage

/-- The settings of a stage and its runner. -/
structure Settings where
  /-- The stage starts with a cat that has one tab. -/
  starterSprite : Bool := true
  /-- Tabs are tracked at the positions of their sprites. -/
  followSprites : Bool := false
  /-- Ticks per second. -/
  tickRate : UInt32 := 60
  /-- Seconds of stage time per second. -/
  timeScale : Float32 := 1

/-- The length of a tick in seconds. A rate of zero counts as one. -/
def Settings.tickDelta (settings : Settings) : Float32 :=
  1 / (max settings.tickRate 1).toFloat32

end SpriteStage
