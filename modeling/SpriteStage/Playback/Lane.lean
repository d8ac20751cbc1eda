import SpriteStage.Event
import SpriteStage.Clock

/-!
# Lanes

A lane plays one queue: it walks through a copy of the commands, one every half second. Its first
visit takes no time off its cooldown, so the first command is due at once; a tick that spans several
intervals makes several commands due, in order. After the last command the lane waits out one more
interval and is then finished. A lane without commands finishes on its first visit.

When commands are due depends on their number alone: `pace` does not see them.
-/

namespace SpriteStage

/-- Seconds between two commands of a lane. -/
def pacingInterval : Float32 := 0.5

/-- How far a lane gets in one visit. -/
structure Pace where
  /-- The number of commands that are due. -/
  steps : Nat
  /-- The seconds to wait after them. -/
  cooldown : Float32
  /-- No command was left and the wait is over. -/
  finished : Bool

/-- How far a lane with `left` commands gets if it has to wait for `cooldown` seconds. -/
def pace : (left : Nat) → (cooldown : Float32) → Pace
  | 0, cooldown => ⟨0, cooldown, cooldown ≤ 0⟩
  | left + 1, cooldown =>
    if cooldown ≤ 0 then
      let rest := pace left (cooldown + pacingInterval)
      { rest with steps := rest.steps + 1 }
    else ⟨0, cooldown, false⟩

/-- No more commands are due than there are. -/
theorem steps_pace_le (left : Nat) (cooldown : Float32) : (pace left cooldown).steps ≤ left := by
  induction left generalizing cooldown with
  | zero => simp [pace]
  | succ left ih =>
    rw [pace]
    split
    · exact Nat.succ_le_succ (ih _)
    · exact Nat.zero_le _

/-- A lane finishes only when all its commands were due. -/
theorem steps_pace_of_finished {left : Nat} {cooldown : Float32}
    (h : (pace left cooldown).finished = true) : (pace left cooldown).steps = left := by
  induction left generalizing cooldown with
  | zero => simp [pace]
  | succ left ih =>
    rw [pace] at h ⊢
    split at h
    · next hdue => simpa [hdue] using ih h
    · simp at h

/-- One queue that is being played. -/
structure Lane where
  /-- The playback that it belongs to. -/
  playback : PlaybackId
  /-- The id of the queue. -/
  action : ActionId
  /-- The sprite that it drives; a lane without one keeps the pace and moves nothing. -/
  sprite : Option SpriteId
  /-- The queue as it stood when the playback started. -/
  commands : List String
  /-- The number of commands that were applied. -/
  cursor : Nat := 0
  /-- Seconds until the next step is due. -/
  cooldown : Float32 := 0
  /-- The lane was visited before. -/
  started : Bool := false

namespace Lane

/-- The command that is due next. -/
def current? (lane : Lane) : Option String := lane.commands[lane.cursor]?

/-- No command is left. -/
def isExhausted (lane : Lane) : Bool := lane.commands.length ≤ lane.cursor

/-- How far the lane gets in a tick of `dt` seconds. -/
def paceOf (lane : Lane) (dt : Float32) : Pace :=
  pace (lane.commands.length - lane.cursor)
    (if lane.started then lane.cooldown - dt else lane.cooldown)

/-- A tick takes time off the cooldown of a lane that was visited before. -/
theorem paceOf_of_started {lane : Lane} (h : lane.started = true) (dt : Float32) :
    lane.paceOf dt = pace (lane.commands.length - lane.cursor) (lane.cooldown - dt) := by
  rw [paceOf, if_pos h]

/-- The first visit takes no time off the cooldown. -/
theorem paceOf_of_not_started {lane : Lane} (h : lane.started = false) (dt : Float32) :
    lane.paceOf dt = pace (lane.commands.length - lane.cursor) lane.cooldown := by
  rw [paceOf, h, if_neg Bool.false_ne_true]

end Lane

/-- The outcome of a visit to a lane. -/
structure Visit where
  /-- The lane afterwards. -/
  lane : Lane
  /-- The commands that were due. -/
  due : List String
  /-- The lane is finished. -/
  finished : Bool

/-- Visit a lane in a tick of `dt` seconds. -/
def Lane.visit (lane : Lane) (dt : Float32) : Visit :=
  let pace := lane.paceOf dt
  { lane := { lane with
      cursor := lane.cursor + pace.steps, cooldown := pace.cooldown, started := true }
    due := (lane.commands.drop lane.cursor).take pace.steps
    finished := pace.finished }

namespace Lane

variable (lane : Lane) (dt : Float32)

@[simp]
theorem sprite_visit : (lane.visit dt).lane.sprite = lane.sprite := by rfl

@[simp]
theorem commands_visit : (lane.visit dt).lane.commands = lane.commands := by rfl

@[simp]
theorem cursor_visit : (lane.visit dt).lane.cursor = lane.cursor + (lane.paceOf dt).steps := by rfl

@[simp]
theorem cooldown_visit : (lane.visit dt).lane.cooldown = (lane.paceOf dt).cooldown := by rfl

@[simp]
theorem started_visit : (lane.visit dt).lane.started = true := by rfl

@[simp]
theorem finished_visit : (lane.visit dt).finished = (lane.paceOf dt).finished := by rfl

/-- The commands that are due in a visit are the next ones. -/
theorem due_visit :
    (lane.visit dt).due = (lane.commands.drop lane.cursor).take (lane.paceOf dt).steps := by
  rfl

end Lane

end SpriteStage
