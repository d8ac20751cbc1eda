import SpriteStage.Stage.Basic

/-!
# Calls

Everything that can be done to a stage, as data. `Stage.perform` does one call and answers it,
`Stage.performAll` a sequence of them. A call that is refused leaves the stage as it was.
-/

namespace SpriteStage

/-- Something that can be done to a stage. -/
inductive Call where
  /-- Put up a sprite. -/
  | addSprite (kind : SpriteKind)
  /-- Make a sprite current. -/
  | selectSprite (id : SpriteId)
  /-- Change the transform of a sprite. -/
  | updateSprite (id : SpriteId) (f : Transform → Transform)
  /-- Take a sprite off the stage. -/
  | takeOffSprite (id : SpriteId)
  /-- Take the rotation from a sprite. -/
  | dropRotation (id : SpriteId)
  /-- Add a tab for the current sprite. -/
  | addTab
  /-- Add a tab for a sprite. -/
  | addTabFor (sprite : SpriteId)
  /-- Select a tab. -/
  | selectTab (id : ActionId)
  /-- Set or clear the tracked position of a tab. -/
  | track (id : ActionId) (position : Option Position)
  /-- Take a tab off the board. -/
  | removeTab (id : ActionId)
  /-- Put a command at the end of a queue. -/
  | append (id : ActionId) (command : String)
  /-- Remove a command from a queue. -/
  | deleteAt (id : ActionId) (place : Nat)
  /-- Exchange two queues. -/
  | swap (a b : ActionId)
  /-- Open a playback of a script. -/
  | start (script : Script)
  /-- Play a script. -/
  | playScript (script : Script)
  /-- Play all queues. -/
  | play
  /-- Let a tick pass. -/
  | tick (dt : Float32)

/-- The answer to a call. -/
inductive Reply where
  /-- There is nothing to answer. -/
  | done
  /-- Whether the call was accepted. -/
  | verdict (accepted : Bool)
  /-- The sprite that was put up. -/
  | sprite (sprite : Sprite)
  /-- The tab that was added, if it was. -/
  | tab (id : Option ActionId)
  /-- The playback that was opened. -/
  | playback (id : PlaybackId)
  deriving DecidableEq, Repr

/-- The answer of a call that was refused. -/
def Reply.isRefusal : Reply → Bool
  | verdict accepted => !accepted
  | tab id => id.isNone
  | _ => false

/-- What a call leads to. -/
structure Outcome where
  /-- The answer. -/
  reply : Reply
  /-- The stage afterwards. -/
  stage : Stage
  /-- What was reported meanwhile, in order. -/
  events : List Event := []

namespace Stage

/-- A call that is accepted if it leads to another stage. -/
def attempt (stage : Stage) (next : Option Stage) : Outcome :=
  { reply := .verdict next.isSome, stage := next.getD stage }

/-- A call that adds a tab if it can. -/
def attemptTab (stage : Stage) (next : Option (ActionId × Stage)) : Outcome :=
  { reply := .tab (next.map (·.1)), stage := (next.map (·.2)).getD stage }

/-- A call that opens a playback. -/
def opened (next : PlaybackId × Stage × List Event) : Outcome :=
  { reply := .playback next.1, stage := next.2.1, events := next.2.2 }

/-- Do one call. -/
def perform (stage : Stage) : Call → Outcome
  | .addSprite kind =>
    let (sprite, stage) := stage.addSprite kind
    { reply := .sprite sprite, stage }
  | .selectSprite id => stage.attempt (stage.selectSprite? id)
  | .updateSprite id f => stage.attempt (stage.updateSprite? id f)
  | .takeOffSprite id => stage.attempt (stage.takeOffSprite? id)
  | .dropRotation id => stage.attempt (stage.dropRotation? id)
  | .addTab => stage.attemptTab stage.addTab?
  | .addTabFor sprite => stage.attemptTab (stage.addTabFor? sprite)
  | .selectTab id => stage.attempt (stage.selectTab? id)
  | .track id position => stage.attempt (stage.track? id position)
  | .removeTab id => stage.attempt (stage.removeTab? id)
  | .append id command => { reply := .done, stage := stage.append id command }
  | .deleteAt id place => stage.attempt (stage.deleteAt? id place)
  | .swap a b => stage.attempt (stage.swap? a b)
  | .start script => opened (stage.start script)
  | .playScript script => opened (stage.playScript script)
  | .play => opened stage.play
  | .tick dt =>
    let (stage, events) := stage.tick dt
    { reply := .done, stage, events }

/-! ### Outcomes -/

section Outcomes

variable (stage : Stage)

@[simp]
theorem stage_attempt (next : Option Stage) : (stage.attempt next).stage = next.getD stage := by rfl

@[simp]
theorem stage_perform_append (id : ActionId) (command : String) :
    (stage.perform (.append id command)).stage = stage.append id command := by
  rfl

@[simp]
theorem stage_perform_start (script : Script) :
    (stage.perform (.start script)).stage = (stage.start script).2.1 := by
  rfl

@[simp]
theorem events_perform_start (script : Script) :
    (stage.perform (.start script)).events = (stage.start script).2.2 := by
  rfl

@[simp]
theorem events_perform_tick (dt : Float32) :
    (stage.perform (.tick dt)).events = (stage.tick dt).2 := by
  rfl

end Outcomes

/-- Do calls one after the other: the stage afterwards, and everything that was reported. -/
def performAll (stage : Stage) : List Call → Stage × List Event
  | [] => (stage, [])
  | call :: calls =>
    let outcome := stage.perform call
    let (stage, events) := outcome.stage.performAll calls
    (stage, outcome.events ++ events)

@[simp]
theorem performAll_singleton (stage : Stage) (call : Call) :
    (stage.performAll [call]).1 = (stage.perform call).stage := by
  rfl

/-- Calls can be done in two goes. -/
theorem performAll_append (stage : Stage) (calls calls' : List Call) :
    (stage.performAll (calls ++ calls')).1 = ((stage.performAll calls).1.performAll calls').1 := by
  induction calls generalizing stage with
  | nil => rfl
  | cons call calls ih => exact ih _

end Stage

end SpriteStage
