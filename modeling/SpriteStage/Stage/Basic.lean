import SpriteStage.Board.Pass
import SpriteStage.Playback.Performance
import SpriteStage.Settings.Basic
import SpriteStage.Tab.Index

/-!
# The stage

A stage joins the performance, which moves sprites, to the board, which exchanges queues. They meet
in three places only: a playback copies the queues when it starts, a lane looks up the sprite that
its id is bound to, and tabs may be tracked at the positions of their sprites.

Operations that can be refused return an `Option`; a refused one leaves nothing behind. Those in
which time passes also return the events of that time, in order.
-/

namespace SpriteStage

/-- Everything about a stage at one moment. -/
structure Stage where
  /-- What it was set up with. -/
  settings : Settings
  /-- The moving half. -/
  performance : Performance
  /-- Where the tabs are. -/
  index : TabIndex
  /-- The watched half. -/
  board : Board

/-- A tab as it can be seen on a stage. -/
structure TabView where
  /-- Its id. -/
  id : ActionId
  /-- The sprite that it drives. -/
  sprite : SpriteId
  /-- What it is called. -/
  label : String
  /-- The position that is tested for overlaps, if there is one. -/
  tracked : Option Position
  deriving DecidableEq, Repr

namespace Stage

/-- A stage without sprites and tabs. -/
def bare (settings : Settings) : Stage where
  settings := settings
  performance := { clock := { scale := settings.timeScale } }
  index := {}
  board := { monitor := { followSprites := settings.followSprites } }

/-! ## Sprites -/

/-- The sprites of the stage. -/
def cast (stage : Stage) : Cast := stage.performance.cast

/-- Exchange the cast. -/
def withCast (stage : Stage) (cast : Cast) : Stage :=
  { stage with performance := { stage.performance with cast } }

/-- Put up a sprite and make it current. -/
def addSprite (stage : Stage) (kind : SpriteKind) : Sprite × Stage :=
  let (sprite, cast) := stage.cast.add kind
  (sprite, stage.withCast cast)

/-- Make a sprite current. -/
def selectSprite? (stage : Stage) (id : SpriteId) : Option Stage :=
  (stage.cast.select? id).map stage.withCast

/-- Change the transform of a sprite that has one. -/
def updateSprite? (stage : Stage) (id : SpriteId) (f : Transform → Transform) : Option Stage :=
  (stage.cast.move? id f).map stage.withCast

/-- Take a sprite off the stage. Its number stays in use. -/
def takeOffSprite? (stage : Stage) (id : SpriteId) : Option Stage :=
  (stage.cast.takeOff? id).map stage.withCast

/-- Take the rotation from a sprite. -/
def dropRotation? (stage : Stage) (id : SpriteId) : Option Stage :=
  (stage.cast.dropRotation? id).map stage.withCast

/-! ## Tabs -/

/-- The tab that an id is bound to. -/
def tab? (stage : Stage) (id : ActionId) : Option Tab := stage.index.slotOf? id >>= stage.board.tab?

/-- Add a tab for a sprite, make that sprite current and select the tab. The tab starts with an
empty queue, unless its id had one before, and with no tracked position. -/
def addTabFor? (stage : Stage) (sprite : SpriteId) : Option (ActionId × Stage) := do
  let stage ← stage.selectSprite? sprite
  let place := stage.index.nextIndex sprite
  let id := ActionId.forTab sprite place
  let tab : Tab :=
    { id, sprite, label := "Action " ++ toString place, order := stage.index.nextOrder }
  let board := stage.board.place tab
  return (id, { stage with
    index := stage.index.enter id ⟨sprite, stage.board.nextSlot⟩
    board := { board with queues := board.queues.ensure id } })

/-- Add a tab for the current sprite. -/
def addTab? (stage : Stage) : Option (ActionId × Stage) :=
  stage.cast.current >>= stage.addTabFor?

/-- Select a tab. -/
def selectTab? (stage : Stage) (id : ActionId) : Option Stage :=
  (stage.index.select? id).map fun index => { stage with index }

/-- Set or clear the tracked position of a tab. -/
def track? (stage : Stage) (id : ActionId) (position : Option Position) : Option Stage := do
  let slot ← stage.index.slotOf? id
  let board ← stage.board.modify? slot (·.track position)
  return { stage with board }

/-- Take a tab off the board. Its binding and its queue stay. -/
def removeTab? (stage : Stage) (id : ActionId) : Option Stage := do
  let slot ← stage.index.slotOf? id
  let board ← stage.board.remove? slot
  return { stage with board }

/-- The tabs in the order in which they were added. -/
def tabs (stage : Stage) : List TabView :=
  (stage.index.ids.filterMap stage.tab?).map fun tab =>
    { id := tab.id, sprite := tab.sprite, label := tab.label, tracked := tab.tracked }

/-- The tracked position of a tab. -/
def tracked? (stage : Stage) (id : ActionId) : Option Position := stage.tab? id >>= (·.tracked)

/-! ## Queues -/

/-- The motion queues. -/
def queues (stage : Stage) : Queues := stage.board.queues

/-- Exchange the queues. -/
def withQueues (stage : Stage) (queues : Queues) : Stage :=
  { stage with board := { stage.board with queues } }

/-- Put a command at the end of a queue. -/
def append (stage : Stage) (id : ActionId) (command : String) : Stage :=
  stage.withQueues (stage.queues.append id command)

/-- Remove a command from a queue. -/
def deleteAt? (stage : Stage) (id : ActionId) (place : Nat) : Option Stage :=
  (stage.queues.deleteAt? id place).map stage.withQueues

/-- Exchange two queues. -/
def swap? (stage : Stage) (a b : ActionId) : Option Stage :=
  (stage.queues.swap? a b).map stage.withQueues

/-! ## Time -/

/-- Let a tick of `dt` seconds pass: time and lanes first, then the tracked positions, then the
monitor. -/
def tick (stage : Stage) (dt : Float32) : Stage × List Event :=
  let (performance, events) := stage.performance.tick dt
  let board :=
    if stage.board.monitor.followSprites then stage.board.follow performance.cast.position?
    else stage.board
  let (board, collisions) := board.pass
  ({ stage with performance, board }, events ++ collisions.map .collided)

/-- Open a playback of a script, which moves nothing yet. -/
def start (stage : Stage) (script : Script) : PlaybackId × Stage × List Event :=
  let (playback, performance, events) := stage.performance.start script stage.index.spriteOf?
  (playback, { stage with performance }, events)

/-- Play a script. The first commands are applied at once. -/
def playScript (stage : Stage) (script : Script) : PlaybackId × Stage × List Event :=
  let (playback, stage, opening) := stage.start script
  let (stage, events) := stage.tick 0
  (playback, stage, opening ++ events)

/-- Play all queues as they stand now. -/
def play (stage : Stage) : PlaybackId × Stage × List Event := stage.playScript stage.queues.script

/-- A playback was opened and is over. -/
def isFinished (stage : Stage) (playback : PlaybackId) : Bool :=
  stage.performance.tracker.isFinished playback

/-- No playback is running. -/
def isIdle (stage : Stage) : Bool := stage.performance.tracker.isIdle

/-- The stage time in seconds. -/
def elapsed (stage : Stage) : Float32 := stage.performance.clock.elapsed

/-- A stage as its settings want it: bare, or with a cat and a tab for it. -/
def new (settings : Settings) : Stage :=
  let stage := bare settings
  if settings.starterSprite then
    let (_, stage) := stage.addSprite .cat
    (stage.addTab?.map (·.2)).getD stage
  else stage

/-! ## Parts -/

section Parts

variable (stage : Stage)

@[simp]
theorem cast_withCast (cast : Cast) : (stage.withCast cast).cast = cast := by rfl

@[simp]
theorem queues_append (id : ActionId) (command : String) :
    (stage.append id command).queues = stage.queues.append id command := by
  rfl

/-- An opening touches the moving half only. -/
@[simp]
theorem performance_start (script : Script) : (stage.start script).2.1.performance =
    (stage.performance.start script stage.index.spriteOf?).2.1 := by
  rfl

@[simp]
theorem tab?_start (script : Script) (id : ActionId) :
    (stage.start script).2.1.tab? id = stage.tab? id := by
  rfl

end Parts

end Stage

end SpriteStage
