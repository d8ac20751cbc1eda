import SpriteStage.Stage.Basic

/-!
# Runs

Many ticks of one length: a fixed number of them, or as many as it takes until no playback is
running.
-/

namespace SpriteStage

/-- A stage that is being run. -/
structure Run where
  /-- The stage now. -/
  stage : Stage
  /-- The ticks so far. -/
  ticks : Nat := 0
  /-- The events so far. -/
  events : Array Event := #[]

namespace Run

/-- One more tick of `dt` seconds. -/
def tick (run : Run) (dt : Float32) : Run :=
  let (stage, events) := run.stage.tick dt
  { stage, ticks := run.ticks + 1, events := run.events ++ events }

/-- A fixed number of ticks. -/
def advance (dt : Float32) : Nat → Run → Run
  | 0, run => run
  | n + 1, run => advance dt n (run.tick dt)

/-- Ticks until no playback is running, at most a given number of them. -/
def untilIdle (dt : Float32) : Nat → Run → Run
  | 0, run => run
  | n + 1, run => if run.stage.isIdle then run else untilIdle dt n (run.tick dt)

end Run

namespace Stage

/-- Let a number of ticks pass. -/
def tickTimes (stage : Stage) (dt : Float32) (times : Nat) : Run := Run.advance dt times { stage }

/-- Let ticks pass until no playback is running, at most a given number of them. -/
def runUntilIdle (stage : Stage) (dt : Float32) (limit : Nat) : Run :=
  Run.untilIdle dt limit { stage }

end Stage

end SpriteStage
