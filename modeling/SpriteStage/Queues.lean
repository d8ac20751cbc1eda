import SpriteStage.Tab.ActionId
import Std.Data.ExtTreeMap

/-!
# Motion queues

The store of all motion scripts: under each action id a list of command texts. A `Script` is what it
holds at one moment; equal contents are equal scripts, however they came about. `Queues` adds a
revision, which grows by one with each change and with nothing else, so that a change can be noticed
without looking at the contents.
-/

namespace SpriteStage

/-- Command texts by action id. -/
abbrev Script := Std.ExtTreeMap ActionId (List String)

/-- The store of motion scripts. -/
structure Queues where
  /-- The queues. -/
  script : Script := ∅
  /-- The number of changes so far. -/
  revision : Nat := 0

namespace Queues

/-- `id` has a queue, maybe an empty one. -/
def contains (queues : Queues) (id : ActionId) : Bool := queues.script.contains id

/-- The commands of `id`, none if it has no queue. -/
def get (queues : Queues) (id : ActionId) : List String := queues.script[id]?.getD []

/-- Write a new script, which is a change. -/
def write (queues : Queues) (script : Script) : Queues := ⟨script, queues.revision + 1⟩

/-- Give `id` an empty queue, unless it has one. -/
def ensure (queues : Queues) (id : ActionId) : Queues :=
  if queues.contains id then queues else queues.write (queues.script.insert id [])

/-- Put a command at the end of the queue of `id`, which is created if need be. -/
def append (queues : Queues) (id : ActionId) (command : String) : Queues :=
  queues.write (queues.script.insert id (queues.get id ++ [command]))

/-- Remove the command at a place of the queue of `id`, if there is one. -/
def deleteAt? (queues : Queues) (id : ActionId) (place : Nat) : Option Queues :=
  if place < (queues.get id).length then
    some (queues.write (queues.script.insert id ((queues.get id).eraseIdx place)))
  else none

/-- Exchange the queues of two ids, if they differ and both have one. -/
def swap? (queues : Queues) (a b : ActionId) : Option Queues :=
  if a ≠ b ∧ queues.contains a ∧ queues.contains b then
    some (queues.write ((queues.script.insert a (queues.get b)).insert b (queues.get a)))
  else none

/-- A new queue is empty, so creating one changes no commands. -/
theorem get_ensure (queues : Queues) (a b : ActionId) : (queues.ensure a).get b = queues.get b := by
  grind [ensure, contains, get, write]

@[simp]
theorem revision_append (queues : Queues) (id : ActionId) (command : String) :
    (queues.append id command).revision = queues.revision + 1 := by
  rfl

/-- A command is appended to its own queue and to no other. -/
theorem get_append (queues : Queues) (a b : ActionId) (command : String) :
    (queues.append a command).get b =
      if a = b then queues.get a ++ [command] else queues.get b := by
  grind [append, get, write]

/-- A command is removed from its own queue and from no other. -/
theorem get_of_deleteAt? {queues queues' : Queues} {a : ActionId} {place : Nat}
    (h : queues.deleteAt? a place = some queues') (b : ActionId) :
    queues'.get b = if a = b then (queues.get a).eraseIdx place else queues.get b := by
  grind [deleteAt?, get, write]

/-- An exchange moves two queues and no other. -/
theorem get_of_swap? {queues queues' : Queues} {a b : ActionId}
    (h : queues.swap? a b = some queues') (c : ActionId) :
    queues'.get c =
      if c = a then queues.get b else if c = b then queues.get a else queues.get c := by
  grind [swap?, get, write]

/-- An exchange neither creates nor loses a queue. -/
theorem contains_of_swap? {queues queues' : Queues} {a b : ActionId}
    (h : queues.swap? a b = some queues') (c : ActionId) :
    queues'.contains c = queues.contains c := by
  grind [swap?, contains, write]

end Queues

end SpriteStage
