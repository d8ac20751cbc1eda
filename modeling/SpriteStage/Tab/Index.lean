import SpriteStage.Tab.ActionId

/-!
# The index of tabs

Which sprite every tab drives and in which slot of the board it lies. Playback looks up here what a
queue moves. Entering an id again binds it anew, and lists it once more.
-/

namespace SpriteStage

/-- What is known about one tab. -/
structure TabBinding where
  /-- The sprite that the tab drives. -/
  sprite : SpriteId
  /-- Its slot on the board. -/
  slot : Nat
  deriving DecidableEq, Repr

/-- Tabs by id, with a selected one. -/
structure TabIndex where
  /-- The bindings, newest first. -/
  bindings : List (ActionId × TabBinding) := []
  /-- The tab that was entered or selected last. -/
  selected : Option ActionId := none

namespace TabIndex

/-- The ids in the order in which they were entered. -/
def ids (tabs : TabIndex) : List ActionId := tabs.bindings.reverse.map (·.1)

/-- The newest binding of `id`. -/
def get? (tabs : TabIndex) (id : ActionId) : Option TabBinding := tabs.bindings.lookup id

/-- `id` is bound. -/
def contains (tabs : TabIndex) (id : ActionId) : Bool := (tabs.get? id).isSome

/-- The sprite that `id` drives. -/
def spriteOf? (tabs : TabIndex) (id : ActionId) : Option SpriteId := (tabs.get? id).map (·.sprite)

/-- The slot of `id` on the board. -/
def slotOf? (tabs : TabIndex) (id : ActionId) : Option Nat := (tabs.get? id).map (·.slot)

/-- The place of the next tab among all tabs, counted from 0. -/
def nextOrder (tabs : TabIndex) : Nat := tabs.bindings.length

/-- The place of the next tab of `sprite` among its tabs, counted from 1. -/
def nextIndex (tabs : TabIndex) (sprite : SpriteId) : Nat :=
  tabs.bindings.countP (·.2.sprite = sprite) + 1

/-- The tabs of one sprite, in the order in which they were entered. -/
def tabsOf (tabs : TabIndex) (sprite : SpriteId) : List ActionId :=
  tabs.ids.filter fun id => tabs.spriteOf? id = some sprite

/-- Bind `id` and select it. -/
def enter (tabs : TabIndex) (id : ActionId) (binding : TabBinding) : TabIndex :=
  { bindings := (id, binding) :: tabs.bindings, selected := some id }

/-- Select `id`, if it is bound. -/
def select? (tabs : TabIndex) (id : ActionId) : Option TabIndex :=
  if tabs.contains id then some { tabs with selected := some id } else none

/-- A binding hides the older ones of its id, and nothing else. -/
theorem get?_enter (tabs : TabIndex) (a b : ActionId) (binding : TabBinding) :
    (tabs.enter a binding).get? b = if b = a then some binding else tabs.get? b := by
  grind [enter, get?]

theorem contains_enter (tabs : TabIndex) (a b : ActionId) (binding : TabBinding) :
    (tabs.enter a binding).contains b = true ↔ b = a ∨ tabs.contains b = true := by
  rw [contains, get?_enter]
  split
  · next heq => simp [heq]
  · next hne => simp [hne, contains]

/-- A binding counts for the sprite that it drives. -/
theorem nextIndex_enter (tabs : TabIndex) (id : ActionId) (binding : TabBinding)
    (sprite : SpriteId) :
    (tabs.enter id binding).nextIndex sprite =
      tabs.nextIndex sprite + if binding.sprite = sprite then 1 else 0 := by
  simp only [enter, nextIndex, List.countP_cons, decide_eq_true_eq]
  omega

end TabIndex

end SpriteStage
