import SpriteStage.Playback.Tracker
import SpriteStage.Tab.ActionId

/-!
# Events

What a stage reports while it runs: lanes and playbacks that are over, and boxes that overlap.
-/

namespace SpriteStage

/-- The report that the boxes of two tabs overlap. -/
structure Collision where
  /-- The tab that was tested. -/
  first : ActionId
  /-- The tab that it was tested against. -/
  second : ActionId
  /-- The same pair was already reported the other way round. -/
  reversed : Bool
  deriving DecidableEq, Repr

/-- What a stage reports. -/
inductive Event where
  /-- A lane has applied all its commands and waited out the last interval. -/
  | laneFinished (playback : PlaybackId) (action : ActionId) (time : Float32)
  /-- All lanes of a playback have finished. -/
  | playbackFinished (playback : PlaybackId) (time : Float32)
  /-- The boxes of two tabs overlap. -/
  | collided (collision : Collision)

end SpriteStage
