import SpriteStage.Proofs.Board.Exchange

/-!
# The store of queues as a ledger

A ledger is the store without its map and its counter: a plain function from ids to the queues that
exist. The module carries out the same edits on both and proves that the store never leaves its
ledger. It introduces:

* `QueueEdit`, the operations on the store, and `Queues.edit`, which carries them out;
* `Ledger.Effective`, the edits that change anything, and `Ledger.edit`, what they change;
* `Ledger.changes`, `Ledger.removed` and `QueueEdit.appended`: what edits leave to account for.

One step is `ledger_edit`, `revision_edit` and `stored_edit_perm`; a run of edits is
`ledger_editAll`, `revision_editAll` and `stored_editAll_perm`. As the revision counts effective
edits, `editAll_eq_of_revision_eq` takes two moments of one revision to be alike.
-/

namespace SpriteStage

open scoped List

/-- An operation on the store of queues. -/
inductive QueueEdit where
  /-- Give an id an empty queue, unless it has one. -/
  | ensure (id : ActionId)
  /-- Put a command at the end of a queue. -/
  | append (id : ActionId) (command : String)
  /-- Remove the command at a place of a queue. -/
  | deleteAt (id : ActionId) (place : Nat)
  /-- Exchange two queues. -/
  | swap (a b : ActionId)
  deriving DecidableEq, Repr

/-- The commands that an edit puts into the store. -/
def QueueEdit.appended : QueueEdit → List String
  | append _ command => [command]
  | _ => []

/-- All commands of a script. -/
def Script.commands (script : Script) : List String := (script.toList.map (·.2)).flatten

namespace Queues

/-- Carry out an edit. One that is refused leaves the store as it was. -/
def edit (queues : Queues) : QueueEdit → Queues
  | .ensure id => queues.ensure id
  | .append id command => queues.append id command
  | .deleteAt id place => (queues.deleteAt? id place).getD queues
  | .swap a b => (queues.swap? a b).getD queues

/-- Carry out edits one after the other. -/
def editAll (queues : Queues) (edits : List QueueEdit) : Queues := edits.foldl edit queues

/-- All commands in the store. -/
def stored (queues : Queues) : List String := queues.script.commands

end Queues

/-! ## Ledgers -/

/-- The queues that exist, by their ids. -/
abbrev Ledger := ActionId → Option (List String)

namespace Ledger

/-- The ledger of a new store. -/
def empty : Ledger := fun _ => none

/-- The commands of an id, none if it has no queue. -/
def commands (ledger : Ledger) (id : ActionId) : List String := (ledger id).getD []

/-- The edit changes something: it creates a queue, appends a command, removes one that is there, or
exchanges two different queues that exist. -/
def Effective (ledger : Ledger) : QueueEdit → Prop
  | .ensure id => ledger id = none
  | .append _ _ => True
  | .deleteAt id place => place < (ledger.commands id).length
  | .swap a b => a ≠ b ∧ ledger a ≠ none ∧ ledger b ≠ none

instance (ledger : Ledger) (edit : QueueEdit) : Decidable (ledger.Effective edit) :=
  match edit with
  | .ensure id => inferInstanceAs (Decidable (ledger id = none))
  | .append _ _ => inferInstanceAs (Decidable True)
  | .deleteAt id place => inferInstanceAs (Decidable (place < (ledger.commands id).length))
  | .swap a b => inferInstanceAs (Decidable (a ≠ b ∧ ledger a ≠ none ∧ ledger b ≠ none))

/-- The ledger after an effective edit. -/
def write (ledger : Ledger) : QueueEdit → Ledger
  | .ensure id => Function.update ledger id (some [])
  | .append id command => Function.update ledger id (some (ledger.commands id ++ [command]))
  | .deleteAt id place => Function.update ledger id
      (some ((ledger.commands id).take place ++ (ledger.commands id).drop (place + 1)))
  | .swap a b => ledger ∘ Equiv.swap a b

/-- The ledger after an edit, which only effective ones change. -/
def edit (ledger : Ledger) (edit : QueueEdit) : Ledger :=
  if ledger.Effective edit then ledger.write edit else ledger

/-- The ledger after edits, one after the other. -/
def editAll (ledger : Ledger) (edits : List QueueEdit) : Ledger := edits.foldl edit ledger

/-- The command that an edit takes out of the ledger, if it does. -/
def removedBy (ledger : Ledger) : QueueEdit → List String
  | .deleteAt id place => (ledger.commands id)[place]?.toList
  | _ => []

/-- The commands that edits take out, one after the other. -/
def removed (ledger : Ledger) : List QueueEdit → List String
  | [] => []
  | edit :: edits => ledger.removedBy edit ++ (ledger.edit edit).removed edits

/-- The number of edits that are effective when their turn comes. -/
def changes (ledger : Ledger) : List QueueEdit → Nat
  | [] => 0
  | edit :: edits => (if ledger.Effective edit then 1 else 0) + (ledger.edit edit).changes edits

/-- A queue that exists is never lost. -/
theorem edit_ne_none {ledger : Ledger} {id : ActionId} (h : ledger id ≠ none) (edit : QueueEdit) :
    ledger.edit edit id ≠ none := by
  rw [Ledger.edit]
  split
  · next heffective =>
    cases edit with
    | swap a b =>
      obtain ⟨-, ha, hb⟩ := heffective
      simp only [write, Function.comp_apply, Equiv.swap_apply_def]
      split
      · exact hb
      · split
        · exact ha
        · exact h
    | ensure | append | deleteAt =>
      simp only [write, Function.update_apply]
      split
      · exact Option.some_ne_none _
      · exact h
  · exact h

end Ledger

namespace Queues

/-- The ledger of a store. -/
def ledger (queues : Queues) : Ledger := fun id => queues.script[id]?

/-! ## One edit -/

theorem contains_eq_true_iff {queues : Queues} {id : ActionId} :
    queues.contains id = true ↔ queues.ledger id ≠ none := by
  rw [contains, ledger, Std.ExtTreeMap.contains_eq_isSome_getElem?, Option.isSome_iff_ne_none]

/-- An effective edit writes one queue, or exchanges two. What it writes is the old queue with the
appended commands more and the removed ones less. -/
theorem edit_cases {queues : Queues} {edit : QueueEdit} (h : queues.ledger.Effective edit) :
    (∃ id commands, queues.edit edit = queues.write (queues.script.insert id commands) ∧
      queues.ledger.write edit = Function.update queues.ledger id (some commands) ∧
      commands ++ queues.ledger.removedBy edit ~ queues.get id ++ edit.appended) ∨
    ∃ a b, edit = .swap a b ∧ queues.swap? a b = some (queues.edit edit) := by
  cases edit with
  | ensure id =>
    refine .inl ⟨id, [], if_neg fun hold => contains_eq_true_iff.mp hold h, rfl, ?_⟩
    have hget : queues.get id = [] := congrArg (·.getD []) h
    rw [hget]
    exact .refl _
  | append id command =>
    refine .inl ⟨id, queues.get id ++ [command], rfl, rfl, ?_⟩
    simp [Ledger.removedBy, QueueEdit.appended]
  | deleteAt id place =>
    have hplace : place < (queues.get id).length := h
    have hdeleted : queues.deleteAt? id place =
        some (queues.write (queues.script.insert id ((queues.get id).eraseIdx place))) :=
      if_pos hplace
    refine .inl ⟨id, (queues.get id).eraseIdx place, ?_, ?_, ?_⟩
    · rw [edit, hdeleted, Option.getD_some]
    · rw [List.eraseIdx_eq_take_drop_succ]
      rfl
    · have hremoved : queues.ledger.removedBy (.deleteAt id place) = [(queues.get id)[place]] :=
        congrArg Option.toList (List.getElem?_eq_getElem hplace)
      have happended : (QueueEdit.deleteAt id place).appended = [] := rfl
      rw [hremoved, happended, List.append_nil]
      exact List.perm_append_comm.trans (List.getElem_cons_eraseIdx_perm hplace)
  | swap a b =>
    obtain ⟨hne, ha, hb⟩ := h
    obtain ⟨swapped, hswapped⟩ :=
      exists_swap? hne (contains_eq_true_iff.mpr ha) (contains_eq_true_iff.mpr hb)
    exact .inr ⟨a, b, rfl, by rw [edit, hswapped, Option.getD_some]⟩

/-- Writing one queue updates the ledger at its id. -/
theorem ledger_write_insert (queues : Queues) (id : ActionId) (commands : List String) :
    (queues.write (queues.script.insert id commands)).ledger =
      Function.update queues.ledger id (some commands) := by
  funext other
  simp only [ledger, write, Std.ExtTreeMap.getElem?_insert, Std.compare_eq_iff_eq]
  rw [Function.update_apply]
  exact if_congr eq_comm rfl rfl

/-- An effective edit writes what the ledger does, and counts. -/
theorem edit_of_effective {queues : Queues} {edit : QueueEdit} (h : queues.ledger.Effective edit) :
    (queues.edit edit).ledger = queues.ledger.write edit ∧
      (queues.edit edit).revision = queues.revision + 1 := by
  rcases edit_cases h with ⟨id, commands, hedit, hwrite, -⟩ | ⟨a, b, rfl, hswap⟩
  · rw [hedit, hwrite]
    exact ⟨queues.ledger_write_insert id commands, rfl⟩
  · exact ⟨funext (getElem?_of_swap? hswap), revision_of_swap? hswap⟩

/-- An edit that is not effective changes neither the contents nor the revision. -/
theorem edit_of_not_effective {queues : Queues} {edit : QueueEdit}
    (h : ¬ queues.ledger.Effective edit) : queues.edit edit = queues := by
  cases edit with
  | ensure id => exact if_pos (contains_eq_true_iff.mpr h)
  | append id command => exact absurd trivial h
  | deleteAt id place =>
    have hrefused : queues.deleteAt? id place = none := if_neg h
    rw [edit, hrefused, Option.getD_none]
  | swap a b =>
    have hrefused : queues.swap? a b = none := if_neg fun ⟨hne, ha, hb⟩ =>
      h ⟨hne, contains_eq_true_iff.mp ha, contains_eq_true_iff.mp hb⟩
    rw [edit, hrefused, Option.getD_none]

/-- The store follows its ledger in every edit. -/
theorem ledger_edit (queues : Queues) (edit : QueueEdit) :
    (queues.edit edit).ledger = queues.ledger.edit edit := by
  rw [Ledger.edit]
  split
  · next h => exact (edit_of_effective h).1
  · next h => rw [edit_of_not_effective h]

/-- The revision counts the edits that are effective. -/
theorem revision_edit (queues : Queues) (edit : QueueEdit) :
    (queues.edit edit).revision =
      queues.revision + if queues.ledger.Effective edit then 1 else 0 := by
  split
  · next h => exact (edit_of_effective h).2
  · next h => rw [edit_of_not_effective h, Nat.add_zero]

/-! ## The commands in the store -/

/-- The commands of a script are those of one id and those of all others. -/
theorem commands_perm_erase (script : Script) (id : ActionId) :
    script.commands.Perm (script[id]?.getD [] ++ Script.commands (script.erase id)) := by
  have hlookup (other : ActionId) :
      (script.erase id)[other]? = if id = other then none else script[other]? := by
    rw [Std.ExtTreeMap.getElem?_erase]
    exact if_congr Std.compare_eq_iff_eq rfl rfl
  cases hid : script[id]? with
  | none =>
    have hsame : script.erase id = script := Std.ExtTreeMap.ext_getElem? fun {other} => by
      rw [hlookup]
      split
      · next heq => rw [← heq, hid]
      · rfl
    rw [hsame]
    exact .refl _
  | some commands =>
    -- Both lists name each id once, so it is enough that they have the same entries.
    have hentries : script.toList.Perm ((id, commands) :: (script.erase id).toList) := by
      have hnew : (id, commands) ∉ (script.erase id).toList := fun hmem => by
        rw [Std.ExtTreeMap.mem_toList_iff_getElem?_eq_some, hlookup, if_pos rfl] at hmem
        cases hmem
      refine (List.perm_ext_iff_of_nodup script.nodup_toList
        (List.nodup_cons.mpr ⟨hnew, Script.nodup_toList _⟩)).mpr ?_
      rintro ⟨other, commands'⟩
      rw [List.mem_cons, Std.ExtTreeMap.mem_toList_iff_getElem?_eq_some,
        Std.ExtTreeMap.mem_toList_iff_getElem?_eq_some, hlookup, Prod.mk.injEq]
      by_cases heq : id = other
      · subst heq
        simp [hid, eq_comm]
      · simp [heq, Ne.symm heq]
    exact (hentries.map (·.2)).flatten

/-- Writing one queue exchanges its old commands for the new ones. -/
theorem stored_write_insert_perm (queues : Queues) (id : ActionId) (commands : List String) :
    (queues.write (queues.script.insert id commands)).stored ++ queues.get id ~
      queues.stored ++ commands := by
  let others : Script := queues.script.erase id
  have herase : (queues.script.insert id commands).erase id = others :=
    Std.ExtTreeMap.ext_getElem? fun {other} => by
      simp only [others, Std.ExtTreeMap.getElem?_erase, Std.ExtTreeMap.getElem?_insert]
      split <;> rfl
  have hnew := commands_perm_erase (queues.script.insert id commands) id
  rw [herase, Std.ExtTreeMap.getElem?_insert_self, Option.getD_some] at hnew
  have hold : queues.stored ~ queues.get id ++ others.commands :=
    commands_perm_erase queues.script id
  calc (queues.write (queues.script.insert id commands)).stored ++ queues.get id
    _ ~ commands ++ others.commands ++ queues.get id := hnew.append_right _
    _ ~ commands ++ queues.stored := by
      rw [List.append_assoc]
      exact (List.perm_append_comm.trans hold.symm).append_left _
    _ ~ queues.stored ++ commands := List.perm_append_comm

/-- An edit that is not effective neither takes anything out nor puts anything in. -/
theorem removedBy_of_not_effective {ledger : Ledger} {edit : QueueEdit}
    (h : ¬ ledger.Effective edit) : ledger.removedBy edit = [] ∧ edit.appended = [] := by
  cases edit with
  | append id command => exact absurd trivial h
  | deleteAt id place =>
    have hnone : (ledger.commands id)[place]? = none := List.getElem?_eq_none (Nat.not_lt.mp h)
    exact ⟨congrArg Option.toList hnone, rfl⟩
  | ensure | swap => exact ⟨rfl, rfl⟩

/-- What an edit puts in and what it takes out account for all commands. -/
theorem stored_edit_perm (queues : Queues) (edit : QueueEdit) :
    (queues.edit edit).stored ++ queues.ledger.removedBy edit ~
      queues.stored ++ edit.appended := by
  by_cases h : queues.ledger.Effective edit
  · rcases edit_cases h with ⟨id, commands, hedit, -, hcommands⟩ | ⟨a, b, rfl, hswap⟩
    · have hwrite := queues.stored_write_insert_perm id commands
      rw [hedit]
      -- A write is accounted for together with the old queue, which stands on both sides here.
      refine (List.perm_append_left_iff (queues.get id)).mp ?_
      calc queues.get id ++ ((queues.write (queues.script.insert id commands)).stored ++
            queues.ledger.removedBy edit)
        _ ~ queues.stored ++ commands ++ queues.ledger.removedBy edit := by
          rw [← List.append_assoc]
          exact (List.perm_append_comm.trans hwrite).append_right _
        _ ~ queues.stored ++ (queues.get id ++ edit.appended) := by
          rw [List.append_assoc]
          exact hcommands.append_left _
        _ ~ queues.get id ++ (queues.stored ++ edit.appended) := by
          rw [← List.append_assoc, ← List.append_assoc]
          exact List.perm_append_comm.append_right _
    · have hqueues := perm_queues_of_exchange (Equiv.swap a b) (getElem?_of_swap? hswap)
      exact hqueues.flatten.append_right _
  · obtain ⟨hremoved, happended⟩ := removedBy_of_not_effective h
    rw [edit_of_not_effective h, hremoved, happended]

/-! ## Edits one after the other -/

theorem editAll_append (queues : Queues) (edits edits' : List QueueEdit) :
    queues.editAll (edits ++ edits') = (queues.editAll edits).editAll edits' :=
  List.foldl_append

/-- Along edits the store follows its ledger. -/
theorem ledger_editAll (queues : Queues) (edits : List QueueEdit) :
    (queues.editAll edits).ledger = queues.ledger.editAll edits := by
  induction edits generalizing queues with
  | nil => rfl
  | cons edit edits ih =>
    have := ih (queues.edit edit)
    rwa [ledger_edit] at this

/-- Along edits the revision counts those that are effective. -/
theorem revision_editAll (queues : Queues) (edits : List QueueEdit) :
    (queues.editAll edits).revision = queues.revision + queues.ledger.changes edits := by
  induction edits generalizing queues with
  | nil => rfl
  | cons edit edits ih =>
    have := ih (queues.edit edit)
    rwa [ledger_edit, revision_edit, Nat.add_assoc] at this

example : Ledger.empty.changes [.ensure ⟨"1"⟩, .append ⟨"1"⟩ "Turn Left", .ensure ⟨"1"⟩,
    .deleteAt ⟨"1"⟩ 1, .swap ⟨"1"⟩ ⟨"1"⟩, .swap ⟨"1"⟩ ⟨"2"⟩] = 2 := by decide

/-- Along edits, what is put in and what is taken out account for all commands. -/
theorem stored_editAll_perm (queues : Queues) (edits : List QueueEdit) :
    (queues.editAll edits).stored ++ queues.ledger.removed edits ~
      queues.stored ++ edits.flatMap QueueEdit.appended := by
  induction edits generalizing queues with
  | nil => exact .refl _
  | cons edit edits ih =>
    have hrest := ih (queues.edit edit)
    rw [ledger_edit] at hrest
    calc (queues.editAll (edit :: edits)).stored ++ (queues.ledger.removedBy edit ++
          (queues.ledger.edit edit).removed edits)
      _ ~ queues.ledger.removedBy edit ++ ((queues.edit edit).stored ++
          edits.flatMap QueueEdit.appended) :=
        (List.perm_append_comm_assoc _ _ _).trans (hrest.append_left _)
      _ ~ queues.stored ++ edit.appended ++ edits.flatMap QueueEdit.appended := by
        rw [← List.append_assoc]
        exact (List.perm_append_comm.trans (queues.stored_edit_perm edit)).append_right _
      _ ~ queues.stored ++ (edit.appended ++ edits.flatMap QueueEdit.appended) := by
        rw [List.append_assoc]

/-- Edits lose no queue. -/
theorem contains_editAll {queues : Queues} {id : ActionId} (h : queues.contains id = true)
    (edits : List QueueEdit) : (queues.editAll edits).contains id = true := by
  induction edits generalizing queues with
  | nil => exact h
  | cons edit edits ih =>
    refine ih (contains_eq_true_iff.mpr ?_)
    rw [ledger_edit]
    exact Ledger.edit_ne_none (contains_eq_true_iff.mp h) edit

/-- Edits that leave the revision as it was leave everything as it was. -/
theorem editAll_eq_of_revision_eq {queues : Queues} {edits : List QueueEdit}
    (h : (queues.editAll edits).revision = queues.revision) : queues.editAll edits = queues := by
  rw [revision_editAll] at h
  induction edits generalizing queues with
  | nil => rfl
  | cons edit edits ih =>
    rw [Ledger.changes] at h
    -- An effective edit counts, and no later one takes that back.
    have hedit : ¬ queues.ledger.Effective edit := fun heffective => by
      rw [if_pos heffective] at h
      omega
    have hsame := edit_of_not_effective hedit
    rw [if_neg hedit, ← ledger_edit, hsame] at h
    rw [editAll, List.foldl_cons, hsame]
    exact ih (by omega)

end Queues

end SpriteStage
