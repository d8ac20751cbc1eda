import SpriteStage.Cast
import SpriteStage.Motion.Parser
import SpriteStage.Playback.Lane
import SpriteStage.Queues

/-!
# The performance

The half of a stage that moves: the clock, the cast, and the lanes that drive it. It sees queues
only as the scripts that are handed to it, and no tab at all.

* `Performance.start` opens a playback with one lane for each queue of a script.
* `Performance.tick` lets time pass. All lanes are visited, each moves its own sprite, and those
  that are finished are taken away.

In which order lanes are visited is left open: queues come out of a hash map when a playback is
opened, and lanes out of a table when they are visited. Here the lanes of a playback stand in the
order of their ids, behind those of older playbacks, which is one of the orders that are allowed.
`Stage.tick_of_perm` tells when the order does not matter.
-/

namespace SpriteStage

/-- The moving half of a stage. -/
structure Performance where
  /-- The time. -/
  clock : Clock := {}
  /-- The sprites. -/
  cast : Cast := {}
  /-- The running playbacks. -/
  tracker : Tracker := {}
  /-- The lanes that are still playing, in the order in which they are visited. -/
  lanes : List Lane := []

/-- Move a sprite, if there is one, by the commands that were due in a visit. -/
def Visit.drive (cast : Cast) (visit : Visit) : Cast :=
  match visit.lane.sprite with
  | none => cast
  | some sprite => cast.move sprite (·.followAll visit.due)

/-- Count off finished lanes, and report them and the playbacks whose last ones they were. -/
def Tracker.close (tracker : Tracker) (time : Float32) : List Lane → Tracker × List Event
  | [] => (tracker, [])
  | lane :: lanes =>
    let (last, tracker) := tracker.finishLane lane.playback
    let (tracker, events) := tracker.close time lanes
    let ended := if last then [.playbackFinished lane.playback time] else []
    (tracker, .laneFinished lane.playback lane.action time :: ended ++ events)

namespace Performance

/-- Open a playback of `script`. Each lane drives the sprite that its action id is bound to now. The
lanes stand in the order of their ids, where any other order is allowed as well. A playback without
lanes is over at once. -/
def start (performance : Performance) (script : Script) (spriteOf? : ActionId → Option SpriteId) :
    PlaybackId × Performance × List Event :=
  let (playback, tracker) := performance.tracker.begin script.size
  let lanes := script.toList.map fun (action, commands) =>
    { playback, action, sprite := spriteOf? action, commands }
  let events := if lanes.isEmpty then [.playbackFinished playback performance.clock.elapsed] else []
  (playback, { performance with tracker, lanes := performance.lanes ++ lanes }, events)

/-- Let a tick of `dt` seconds pass. -/
def tick (performance : Performance) (dt : Float32) : Performance × List Event :=
  let clock := performance.clock.advance dt
  let visits := performance.lanes.map (·.visit (positivePart clock.delta))
  let (tracker, events) :=
    performance.tracker.close clock.elapsed ((visits.filter (·.finished)).map (·.lane))
  let lanes := (visits.filter (!·.finished)).map (·.lane)
  ({ clock, cast := visits.foldl Visit.drive performance.cast, tracker, lanes }, events)

end Performance

end SpriteStage
