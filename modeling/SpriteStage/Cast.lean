import SpriteStage.Roster

/-!
# The cast

The sprites that were ever put on a stage, each with the body that shows it. A body can be taken off
the stage, or lose its rotation; the sprite keeps its number and is never counted out. Only a body
with a rotation can be seen as a sprite and moved, but one without still has a position.
-/

namespace SpriteStage

/-- What stands on the stage for a sprite. -/
structure Body where
  /-- Its artwork. -/
  kind : SpriteKind
  /-- Where it is. -/
  position : Position
  /-- How far it is turned, unless it lost its rotation. -/
  rotation : Option Int32
  deriving DecidableEq, Repr

namespace Body

/-- Where new sprites appear. -/
def entrance : Transform := ⟨⟨100, 100⟩, 0⟩

/-- The body of a new sprite. -/
def new (kind : SpriteKind) : Body := ⟨kind, entrance.position, some entrance.rotation⟩

/-- Position and rotation, if it has both. -/
def transform? (body : Body) : Option Transform := body.rotation.map (⟨body.position, ·⟩)

/-- Put a body at another transform. -/
def place (body : Body) (t : Transform) : Body :=
  { body with position := t.position, rotation := some t.rotation }

/-- Change the transform of a body that has one. -/
def move (body : Body) (f : Transform → Transform) : Body :=
  match body.transform? with
  | none => body
  | some t => body.place (f t)

end Body

/-- The sprites of a stage; `none` stands for a body that was taken off. -/
abbrev Cast := Roster (Option Body)

namespace Cast

/-- The body of a sprite, if it is on the stage. -/
def body? (cast : Cast) (id : SpriteId) : Option Body := (cast.get? id).join

/-- Where the body of a sprite is. -/
def position? (cast : Cast) (id : SpriteId) : Option Position := (cast.body? id).map (·.position)

/-- The transform of a sprite whose body has one. -/
def transform? (cast : Cast) (id : SpriteId) : Option Transform :=
  (cast.body? id).bind (·.transform?)

/-- A sprite whose body has a transform. -/
def sprite? (cast : Cast) (id : SpriteId) : Option Sprite := do
  let body ← cast.body? id
  let t ← body.transform?
  return ⟨id, body.kind, t⟩

/-- All sprites that can be seen, in the order in which they were added. -/
def sprites (cast : Cast) : List Sprite := cast.ids.filterMap cast.sprite?

/-- Add a sprite at the entrance and make it current. -/
def add (cast : Cast) (kind : SpriteKind) : Sprite × Cast :=
  let (id, cast) := cast.reserve
  (⟨id, kind, Body.entrance⟩, cast.enter id (some (.new kind)))

@[simp]
theorem nextNumber_add (cast : Cast) (kind : SpriteKind) :
    (cast.add kind).2.nextNumber = cast.nextNumber + 1 := by
  rfl

/-- Move a sprite, which does nothing if it has no transform. -/
def move (cast : Cast) (id : SpriteId) (f : Transform → Transform) : Cast :=
  cast.modify id (·.map (·.move f))

/-- Move a sprite, if it has a transform. -/
def move? (cast : Cast) (id : SpriteId) (f : Transform → Transform) : Option Cast :=
  (cast.transform? id).map fun _ => cast.move id f

/-- Take the body of a sprite off the stage, if it is there. -/
def takeOff? (cast : Cast) (id : SpriteId) : Option Cast :=
  (cast.body? id).map fun _ => cast.modify id fun _ => none

/-- Take the rotation from a body, if it has one. -/
def dropRotation? (cast : Cast) (id : SpriteId) : Option Cast :=
  (cast.transform? id).map fun _ =>
    cast.modify id (·.map fun body => { body with rotation := none })

end Cast

end SpriteStage
