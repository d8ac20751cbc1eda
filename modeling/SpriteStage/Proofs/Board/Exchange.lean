import Mathlib.Algebra.BigOperators.Group.List.Basic
import Mathlib.Algebra.Group.End
import Mathlib.Data.List.Nodup
import Mathlib.Data.List.Perm.Basic
import Mathlib.Logic.Relation
import SpriteStage.Queues

/-!
# Exchanges of queues

Exchanges of two queues at a time, one after the other, permute the queues. `exchange pairs` is that
permutation: it sends an id to the id whose queue it has in the end. The module proves:

* `exchange_of_not_mem`: ids in no pair keep their queue;
* `reflTransGen_exchange`: a queue goes only where a chain of pairs leads;
* `perm_queues_of_exchange`: the queues stay the same as a multiset.
-/

namespace SpriteStage

open Relation

/-- Where the queue of an id comes from when the queues of some pairs of ids are exchanged, one pair
after the other. -/
def exchange (pairs : List (ActionId × ActionId)) : Equiv.Perm ActionId :=
  (pairs.map fun pair => Equiv.swap pair.1 pair.2).prod

/-- The first exchange of a sequence is the last one on the way back to where a queue comes from. -/
@[simp]
theorem exchange_cons_apply (pair : ActionId × ActionId) (pairs : List (ActionId × ActionId))
    (id : ActionId) :
    exchange (pair :: pairs) id = Equiv.swap pair.1 pair.2 (exchange pairs id) := by
  rw [exchange, List.map_cons, List.prod_cons]
  rfl

/-- An id in no pair keeps its queue. -/
theorem exchange_of_not_mem {pairs : List (ActionId × ActionId)} {id : ActionId}
    (h : ∀ pair ∈ pairs, id ≠ pair.1 ∧ id ≠ pair.2) : exchange pairs id = id := by
  induction pairs with
  | nil => rfl
  | cons pair pairs ih =>
    obtain ⟨hfirst, hsecond⟩ := h pair (.head _)
    rw [exchange_cons_apply, ih fun pair hpair => h pair (.tail _ hpair),
      Equiv.swap_apply_of_ne_of_ne hfirst hsecond]

/-- Along a symmetric relation between the ids of each pair, the origin of a queue is joined to the
id that has it in the end. -/
theorem reflTransGen_exchange {pairs : List (ActionId × ActionId)}
    {joined : ActionId → ActionId → Prop}
    (h : ∀ pair ∈ pairs, joined pair.1 pair.2 ∧ joined pair.2 pair.1) (id : ActionId) :
    ReflTransGen joined (exchange pairs id) id := by
  induction pairs with
  | nil => exact .refl
  | cons pair pairs ih =>
    have hrest := ih fun pair hpair => h pair (.tail _ hpair)
    obtain ⟨hforth, hback⟩ := h pair (.head _)
    -- On the way back the first exchange comes last, so it lengthens the chain at its source.
    rw [exchange_cons_apply, Equiv.swap_apply_def]
    split
    · next heq => exact .head hback (heq ▸ hrest)
    · split
      · next heq => exact .head hforth (heq ▸ hrest)
      · exact hrest

namespace Queues

/-- An exchange of two queues, id by id. -/
theorem getElem?_of_swap? {queues queues' : Queues} {a b : ActionId}
    (h : queues.swap? a b = some queues') (id : ActionId) :
    queues'.script[id]? = queues.script[Equiv.swap a b id]? := by
  simp only [swap?, Option.ite_none_right_eq_some, Option.some.injEq] at h
  obtain ⟨⟨hne, ha, hb⟩, rfl⟩ := h
  -- Both queues exist, so what is written under the other id is what was found, not a default.
  have hget {c : ActionId} (hc : queues.contains c = true) :
      queues.script[c]? = some (queues.get c) := by
    grind [contains, get]
  rw [Equiv.swap_apply_def]
  split
  · next heq => subst heq; grind [write]
  · split
    · next heq => subst heq; grind [write]
    · grind [write]

/-- An exchange is a change. -/
theorem revision_of_swap? {queues queues' : Queues} {a b : ActionId}
    (h : queues.swap? a b = some queues') : queues'.revision = queues.revision + 1 := by
  simp only [swap?, Option.ite_none_right_eq_some, Option.some.injEq] at h
  obtain ⟨-, rfl⟩ := h
  rfl

/-- An exchange of two different queues that exist is always made. -/
theorem exists_swap? {queues : Queues} {a b : ActionId} (hne : a ≠ b)
    (ha : queues.contains a = true) (hb : queues.contains b = true) :
    ∃ queues', queues.swap? a b = some queues' :=
  ⟨_, if_pos ⟨hne, ha, hb⟩⟩

end Queues

/-- A script lists each of its queues once. -/
theorem Script.nodup_toList (script : Script) : script.toList.Nodup := by
  have hkeys : script.keys.Nodup := Std.ExtTreeMap.nodup_keys
  rw [← Std.ExtTreeMap.map_fst_toList_eq_keys] at hkeys
  exact hkeys.of_map

/-- A permutation of the ids loses no queue and doubles none. -/
theorem perm_queues_of_exchange {before after : Script} (origin : Equiv.Perm ActionId)
    (h : ∀ id, after[id]? = before[origin id]?) :
    (after.toList.map (·.2)).Perm (before.toList.map (·.2)) := by
  -- The entries afterwards are the ones before, each under the id that its queue has moved to.
  let move (entry : ActionId × List String) : ActionId × List String :=
    (origin.symm entry.1, entry.2)
  have hmove : Function.Injective move := by
    rintro ⟨a, commands⟩ ⟨b, commands'⟩ hab
    simpa [move] using hab
  have hentries : after.toList.Perm (before.toList.map move) := by
    refine (List.perm_ext_iff_of_nodup after.nodup_toList
      (before.nodup_toList.map hmove)).mpr ?_
    rintro ⟨id, commands⟩
    rw [Std.ExtTreeMap.mem_toList_iff_getElem?_eq_some, h, List.mem_map]
    constructor
    · intro hid
      exact ⟨(origin id, commands), Std.ExtTreeMap.mem_toList_iff_getElem?_eq_some.mpr hid,
        by simp [move]⟩
    · rintro ⟨⟨source, commands'⟩, hsource, heq⟩
      obtain ⟨rfl, rfl⟩ := Prod.mk.injEq .. ▸ heq
      simpa using Std.ExtTreeMap.mem_toList_iff_getElem?_eq_some.mp hsource
  have := hentries.map (·.2)
  rwa [List.map_map] at this

end SpriteStage
