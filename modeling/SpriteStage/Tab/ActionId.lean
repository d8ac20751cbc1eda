import SpriteStage.Sprite

/-!
# Action ids

The key under which a tab and its motion queue are found. Any text can be one; the ids that the
stage itself makes are a sprite's number, and for its later tabs the number, a dash and a counter.
Ids are ordered by code point.
-/

namespace SpriteStage

/-- The key of a tab and of its queue. -/
structure ActionId where
  /-- The text of the key. -/
  text : String
  deriving DecidableEq, Repr

namespace ActionId

instance : ToString ActionId := ⟨text⟩

instance : Ord ActionId := ⟨compareOn text⟩

instance : Std.TransOrd ActionId := inferInstanceAs (Std.TransCmp (compareOn text))

instance : Std.LawfulEqOrd ActionId where
  eq_of_compare {a b} h := by
    cases a
    cases b
    exact congrArg mk (Std.LawfulEqOrd.eq_of_compare h)

/-- The id of the `index`-th tab of a sprite, counted from 1. -/
def forTab (sprite : SpriteId) (index : Nat) : ActionId :=
  if index ≤ 1 then ⟨toString sprite⟩ else ⟨toString sprite ++ "-" ++ toString index⟩

end ActionId

end SpriteStage
