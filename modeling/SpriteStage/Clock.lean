/-!
# The clock

Stage time in seconds, as 32-bit floating point numbers. A tick of negative length, or of none that
is a number, takes no time.
-/

namespace SpriteStage

/-- The part of a duration that counts: itself if it is positive, and zero otherwise. -/
def positivePart (seconds : Float32) : Float32 := if 0 < seconds then seconds else 0

/-- The clock of a stage. -/
structure Clock where
  /-- Scaled seconds since the start. -/
  elapsed : Float32 := 0
  /-- The scaled length of the last tick. -/
  delta : Float32 := 0
  /-- Seconds of stage time per second. -/
  scale : Float32 := 1

/-- Let a tick of `dt` seconds pass. -/
def Clock.advance (clock : Clock) (dt : Float32) : Clock :=
  let delta := positivePart dt * clock.scale
  { clock with elapsed := clock.elapsed + delta, delta }

@[simp]
theorem Clock.delta_advance (clock : Clock) (dt : Float32) :
    (clock.advance dt).delta = positivePart dt * clock.scale := by
  rfl

end SpriteStage
