import SpriteStage.Proofs.Playback.Bookkeeping
import SpriteStage.Proofs.Playback.Order
import SpriteStage.Proofs.Stage.Isolation

/-!
# What the timing of playbacks depends on

When a lane applies its commands, and when it ends, depends on how many commands it has. What they
say, whether they can be read at all, which sprite they move, and whether it is there to be moved is
of no concern, and neither is any other lane. The module introduces:

* `Lane.Timing`: all of a lane that its timing depends on, and what a visit makes of that;
* `Performance.InTime`: two performances whose lanes have the same timings, in any order;
* `InTime.tick`: a tick keeps them so, and reports the same lanes and playbacks;
* `Stage.closings`: the lanes and playbacks that ticks report, tick by tick.

The main statement, `timing_depends_on_lengths`, is about any number of ticks.
-/

namespace SpriteStage

/-! ## Timings -/

/-- The timing of a lane: all of it but its sprite and what its commands say. -/
structure Lane.Timing where
  /-- The playback that the lane belongs to. -/
  playback : PlaybackId
  /-- The id of the queue. -/
  action : ActionId
  /-- The number of commands. -/
  length : Nat
  /-- The number of commands that were applied. -/
  cursor : Nat
  /-- Seconds until the next step is due. -/
  cooldown : Float32
  /-- The lane was visited before. -/
  started : Bool

namespace Lane

/-- The timing of a lane. -/
def timing (lane : Lane) : Timing where
  playback := lane.playback
  action := lane.action
  length := lane.commands.length
  cursor := lane.cursor
  cooldown := lane.cooldown
  started := lane.started

namespace Timing

/-- What tells a lane from all others. -/
def key (timing : Timing) : PlaybackId × ActionId := (timing.playback, timing.action)

/-- How far a lane with the timing gets in a tick. -/
def paceOf (timing : Timing) (seconds : Float32) : Pace :=
  pace (timing.length - timing.cursor)
    (if timing.started then timing.cooldown - seconds else timing.cooldown)

/-- The timing after a visit. -/
def visit (timing : Timing) (seconds : Float32) : Timing :=
  { timing with
    cursor := timing.cursor + (timing.paceOf seconds).steps
    cooldown := (timing.paceOf seconds).cooldown
    started := true }

/-- A visit ends a lane with the timing. -/
def endsIn (timing : Timing) (seconds : Float32) : Bool := (timing.paceOf seconds).finished

end Timing

@[simp]
theorem key_timing (lane : Lane) : lane.timing.key = lane.key := by rfl

/-- What a visit does to a lane is told by its timing, apart from the commands that are due. -/
@[simp]
theorem timing_visit (lane : Lane) (seconds : Float32) :
    (lane.visit seconds).lane.timing = lane.timing.visit seconds := by
  rfl

@[simp]
theorem endsIn_timing (lane : Lane) (seconds : Float32) :
    lane.timing.endsIn seconds = (lane.paceOf seconds).finished := by
  rfl

end Lane

namespace Performance

/-- The lanes that play on after a tick, by their timings. -/
theorem timings_tick (performance : Performance) (dt : Float32) :
    (performance.tick dt).1.lanes.map Lane.timing =
      ((performance.lanes.map Lane.timing).filter fun timing =>
        !timing.endsIn (performance.lapse dt)).map (·.visit (performance.lapse dt)) := by
  simp [lanes_tick, visits, List.filter_map, Function.comp_def]

/-- The lanes that end in a tick, by what tells them apart. -/
theorem keys_finishing (performance : Performance) (dt : Float32) :
    (performance.finishing dt).map Lane.key =
      ((performance.lanes.map Lane.timing).filter fun timing =>
        timing.endsIn (performance.lapse dt)).map Lane.Timing.key := by
  simp [finishing, visits, List.filter_map, Function.comp_def]

/-- The time, the books and the timings of lanes are the same on two performances. -/
structure InTime (performance performance' : Performance) : Prop where
  /-- The time is the same. -/
  clock : performance.clock = performance'.clock
  /-- The same lanes of the same playbacks are counted. -/
  tracker : performance.tracker = performance'.tracker
  /-- The lanes have the same timings. -/
  timings : (performance.lanes.map Lane.timing).Perm (performance'.lanes.map Lane.timing)

/-- A tick keeps two performances in time, and reports the same of lanes and playbacks in both. -/
theorem InTime.tick {performance performance' : Performance} (h : performance.InTime performance')
    (dt : Float32) :
    (performance.tick dt).1.InTime (performance'.tick dt).1 ∧
      (performance.tick dt).2.Perm (performance'.tick dt).2 := by
  have hlapse : performance.lapse dt = performance'.lapse dt := by rw [lapse, lapse, h.clock]
  have hkeys : ((performance.finishing dt).map Lane.key).Perm
      ((performance'.finishing dt).map Lane.key) := by
    rw [keys_finishing, keys_finishing, hlapse]
    exact (h.timings.filter _).map _
  have hclock : performance.clock.advance dt = performance'.clock.advance dt := by rw [h.clock]
  -- The lanes that end are counted off in different orders, with the same outcome.
  obtain ⟨htracker, hevents⟩ :=
    performance.tracker.close_perm (performance.clock.advance dt).elapsed hkeys
  have htick : (performance'.tick dt).1.tracker = (performance.tracker.close
        (performance.clock.advance dt).elapsed (performance'.finishing dt)).1 ∧
      (performance'.tick dt).2 = (performance.tracker.close
        (performance.clock.advance dt).elapsed (performance'.finishing dt)).2 := by
    rw [h.tracker, hclock]
    exact ⟨rfl, rfl⟩
  refine ⟨⟨hclock, htracker.trans htick.1.symm, ?_⟩, htick.2 ▸ hevents⟩
  rw [timings_tick, timings_tick, hlapse]
  exact (h.timings.filter _).map _

end Performance

namespace Stage

/-! ## Runs -/

/-- The lanes and playbacks that ticks of the given lengths report to be over, tick by tick. -/
def closings (stage : Stage) : List Float32 → List (List Event)
  | [] => []
  | dt :: dts => (stage.tick dt).2.filter (!·.isCollision) :: (stage.tick dt).1.closings dts

/-- Timing depends on the number of commands only. Take two stages on which the time and the tracker
are the same, and whose lanes correspond in playback, id, number of commands, cursor, cooldown and
whether they were visited; the commands themselves, the sprites that the lanes are bound to, and
what there is of these sprites may be any. After ticks of any lengths this is still so, and in each
of the ticks the same lanes and playbacks were reported to be over at the same time, although
perhaps not in the same order. -/
theorem timing_depends_on_lengths {stage stage' : Stage}
    (hclock : stage.performance.clock = stage'.performance.clock)
    (htracker : stage.performance.tracker = stage'.performance.tracker)
    (hlanes : (stage.performance.lanes.map Lane.timing).Perm
      (stage'.performance.lanes.map Lane.timing)) (dts : List Float32) :
    let next := (stage.performAll (dts.map .tick)).1
    let next' := (stage'.performAll (dts.map .tick)).1
    next.performance.clock = next'.performance.clock ∧
    next.performance.tracker = next'.performance.tracker ∧
    (next.performance.lanes.map Lane.timing).Perm (next'.performance.lanes.map Lane.timing) ∧
    List.Forall₂ List.Perm (stage.closings dts) (stage'.closings dts) := by
  -- By induction on the ticks: `Performance.InTime` is what each of them keeps.
  induction dts generalizing stage stage' with
  | nil => exact ⟨hclock, htracker, hlanes, .nil⟩
  | cons dt dts ih =>
    obtain ⟨hnext, hevents⟩ : (stage.tick dt).1.performance.InTime (stage'.tick dt).1.performance ∧
        (stage.performance.tick dt).2.Perm (stage'.performance.tick dt).2 :=
      Performance.InTime.tick ⟨hclock, htracker, hlanes⟩ dt
    obtain ⟨hclock, htracker, hlanes, hclosings⟩ := ih hnext.clock hnext.tracker hnext.timings
    refine ⟨hclock, htracker, hlanes, .cons ?_ hclosings⟩
    rwa [filter_events_tick, filter_events_tick]

/-- A lane that moves a cat ends when a lane does that moves nothing and has two texts that are no
commands: in the second of two ticks. -/
theorem unbound_lane_keeps_time :
    let bound := after {} [.start ((∅ : Script).insert ⟨"1"⟩ ["Turn Right", "Move Right 5"])]
    let unbound := after { starterSprite := false }
      [.start ((∅ : Script).insert ⟨"1"⟩ ["", "Move Right 99999999999"])]
    let dts : List Float32 := [1, 1]
    bound.performance.lanes.map (·.sprite) = [some ⟨1⟩] ∧
    unbound.performance.lanes.map (·.sprite) = [none] ∧
    bound.performance.clock = unbound.performance.clock ∧
    bound.performance.tracker = unbound.performance.tracker ∧
    (bound.performance.lanes.map Lane.timing).Perm (unbound.performance.lanes.map Lane.timing) ∧
    (bound.closings dts).map List.length = [0, 2] ∧
    List.Forall₂ List.Perm (bound.closings dts) (unbound.closings dts) := by
  intro bound unbound dts
  have hclock : bound.performance.clock = unbound.performance.clock := rfl
  have htracker : bound.performance.tracker = unbound.performance.tracker := rfl
  have hlanes : bound.performance.lanes.map Lane.timing =
      unbound.performance.lanes.map Lane.timing := rfl
  obtain ⟨-, -, -, hclosings⟩ := timing_depends_on_lengths hclock htracker (.of_eq hlanes) dts
  have hlengths : (bound.closings dts).map List.length = [0, 2] := by decide +kernel
  exact ⟨rfl, rfl, hclock, htracker, .of_eq hlanes, hlengths, hclosings⟩

end Stage

end SpriteStage
