import SpriteStage.Sprite

/-!
# Rosters

A `Roster` hands out the numbers of sprites, keeps what is entered under each of them, and remembers
the current sprite: the one that new tabs go to. What is entered is a parameter; entering a number
again hides what stood there before.
-/

namespace SpriteStage

/-- Sprites by number, with a current one. -/
structure Roster (α : Type) where
  /-- The entries, newest first. -/
  entries : List (SpriteId × α) := []
  /-- The number that the next sprite gets. -/
  nextNumber : Nat := 1
  /-- The sprite that was entered or selected last. -/
  current : Option SpriteId := none

namespace Roster

variable {α : Type}

/-- Hand out the next number. -/
def reserve (roster : Roster α) : SpriteId × Roster α :=
  (⟨roster.nextNumber⟩, { roster with nextNumber := roster.nextNumber + 1 })

/-- Enter a sprite and make it current. -/
def enter (roster : Roster α) (id : SpriteId) (a : α) : Roster α :=
  { roster with entries := (id, a) :: roster.entries, current := some id }

/-- What was entered last under `id`. -/
def get? (roster : Roster α) (id : SpriteId) : Option α := roster.entries.lookup id

/-- Something was entered under `id`. -/
def contains (roster : Roster α) (id : SpriteId) : Bool := (roster.get? id).isSome

/-- The numbers in the order in which they were entered. -/
def ids (roster : Roster α) : List SpriteId := roster.entries.reverse.map (·.1)

/-- Make `id` current, if it was entered. -/
def select? (roster : Roster α) (id : SpriteId) : Option (Roster α) :=
  if roster.contains id then some { roster with current := some id } else none

/-- Change what stands under `id`. -/
def modify (roster : Roster α) (id : SpriteId) (f : α → α) : Roster α :=
  { roster with entries := roster.entries.map fun entry =>
      if entry.1 = id then (entry.1, f entry.2) else entry }

/-- An entry hides what stood under its number, and nothing else. -/
theorem get?_enter (roster : Roster α) (a b : SpriteId) (x : α) :
    (roster.enter a x).get? b = if b = a then some x else roster.get? b := by
  grind [enter, get?]

theorem contains_enter (roster : Roster α) (a b : SpriteId) (x : α) :
    (roster.enter a x).contains b = true ↔ b = a ∨ roster.contains b = true := by
  rw [contains, get?_enter]
  split
  · next heq => simp [heq]
  · next hne => simp [hne, contains]

/-- An entry comes last in the order. -/
theorem ids_enter (roster : Roster α) (a : SpriteId) (x : α) :
    (roster.enter a x).ids = roster.ids ++ [a] := by
  simp [ids, enter]

/-- A change concerns one number only. -/
theorem get?_modify (roster : Roster α) (a b : SpriteId) (f : α → α) :
    (roster.modify a f).get? b = if b = a then (roster.get? b).map f else roster.get? b := by
  simp only [get?, modify]
  induction roster.entries with
  | nil => simp
  | cons entry entries ih =>
    obtain ⟨id, x⟩ := entry
    by_cases hb : b = id
    · subst hb
      by_cases ha : b = a <;> simp [ha]
    · have hskip (y : α) (rest : List (SpriteId × α)) :
          ((id, y) :: rest).lookup b = rest.lookup b := by
        rw [List.lookup_cons, beq_eq_false_iff_ne.mpr hb]
      have hhead : (if id = a then (id, f x) else (id, x)) = (id, if id = a then f x else x) := by
        split <;> rfl
      rw [List.map_cons, hhead, hskip, hskip, ih]

/-- A change keeps the numbers and their order. -/
theorem ids_modify (roster : Roster α) (a : SpriteId) (f : α → α) :
    (roster.modify a f).ids = roster.ids := by
  simp only [ids, modify]
  rw [← List.map_reverse, List.map_map]
  congr 1
  funext entry
  by_cases h : entry.1 = a <;> simp [h]

end Roster

end SpriteStage
