import SpriteStage.Transform

/-!
# Sprites

What a sprite is to someone who looks at the stage: its number, the artwork it is drawn with, and
its transform.
-/

namespace SpriteStage

/-- The number of a sprite. Numbers are handed out in ascending order, from 1 on. -/
structure SpriteId where
  /-- The number itself. -/
  number : Nat
  deriving DecidableEq, Repr

instance : ToString SpriteId := ⟨fun id => toString id.number⟩

@[simp] theorem SpriteId.toString_eq (id : SpriteId) : toString id = toString id.number := by rfl

/-- The artwork that a sprite is drawn with. -/
inductive SpriteKind where
  /-- A cat. -/
  | cat
  /-- The earth. -/
  | earth
  deriving DecidableEq, Repr

namespace SpriteKind

/-- The name of a kind, in lower case. -/
def name : SpriteKind → String
  | cat => "cat"
  | earth => "earth"

/-- The kind with a given name. The case of ASCII letters does not count. -/
def ofName? (text : String) : Option SpriteKind :=
  [cat, earth].find? fun kind => text.toList.map Char.toLower = kind.name.toList

theorem ofName?_name (kind : SpriteKind) : ofName? kind.name = some kind := by
  cases kind <;> decide

end SpriteKind

/-- A sprite as it stands on the stage. -/
structure Sprite where
  /-- Its number. -/
  id : SpriteId
  /-- Its artwork. -/
  kind : SpriteKind
  /-- Where it is and how far it is turned. -/
  transform : Transform
  deriving DecidableEq, Repr

/-- The line that describes a sprite. -/
def Sprite.text (sprite : Sprite) : String :=
  sprite.kind.name ++ " sprite #" ++ toString sprite.id
    ++ " at (" ++ toString sprite.transform.position.x.toInt
    ++ ", " ++ toString sprite.transform.position.y.toInt
    ++ ") rotated " ++ toString sprite.transform.rotation.toInt ++ "°"

end SpriteStage
