import Mathlib.Data.List.Sort
import Mathlib.Data.String.Basic
import SpriteStage.Proofs.Stage.NewTabs
import SpriteStage.Proofs.Stage.Refusals
import SpriteStage.Stage.Snapshot

/-!
# What snapshots show

A snapshot joins what the cast, the index, the board and the queues hold. Each part of it is sorted
by what it lists, so it shows what a stage holds and nothing of how that came about. The module
introduces:

* `Script.pairwise_toList`, `Script.mem_toList_iff` and `Script.ofList_eq_of_perm`: a script as the
  list of its queues, by ascending ids;
* `Cast.pairwise_sprites` and `Cast.sprite?_eq_some_iff`: the sprites, by ascending numbers;
* `Stage.view?`, `Stage.Precedes` and `OrderlyTabs.pairwise_tabs`: the tabs, by creation;
* `Stage.Matches`: two stages hold the same, and `snapshot_eq_iff`: their snapshots are then equal,
  and never otherwise.

The main statement is `snapshot_is_faithful`.
-/

namespace SpriteStage

/-! ## Sorted lists -/

section Sorted

variable {α : Type} {f g : α → Nat} {l l' : List α}

/-- A list that is sorted by a number is known from its members. -/
private theorem eq_of_sorted (h : l.Pairwise fun a b => f a < f b)
    (h' : l'.Pairwise fun a b => f a < f b) (hmem : ∀ a, a ∈ l ↔ a ∈ l') : l = l' := by
  have hirrefl : Std.Irrefl fun a b : α => f a < f b := ⟨fun a => lt_irrefl (f a)⟩
  have hantisymm : Std.Antisymm fun a b : α => f a < f b :=
    ⟨fun a b hab hba => absurd hab (lt_asymm hba)⟩
  exact h.eq_of_mem_iff h' hmem

/-- Numbers by which one list is sorted compare alike. -/
private theorem lt_iff_of_sorted (hf : l.Pairwise fun a b => f a < f b)
    (hg : l.Pairwise fun a b => g a < g b) {a b : α} (ha : a ∈ l) (hb : b ∈ l) :
    f a < f b ↔ g a < g b := by
  obtain ⟨i, hi, rfl⟩ := List.getElem_of_mem ha
  obtain ⟨j, hj, rfl⟩ := List.getElem_of_mem hb
  rw [List.pairwise_iff_getElem] at hf hg
  rcases lt_trichotomy i j with hlt | rfl | hlt
  · exact iff_of_true (hf i j hi hj hlt) (hg i j hi hj hlt)
  · exact iff_of_false (lt_irrefl _) (lt_irrefl _)
  · exact iff_of_false (hf j i hj hi hlt).asymm (hg j i hj hi hlt).asymm

/-- Where everything is looked up under its own key, one look at each of the things tells all. -/
private theorem find_eq_iff {κ : Type} (key : α → κ) {find find' : κ → Option α}
    (h : ∀ {k a}, find k = some a → key a = k) (h' : ∀ {k a}, find' k = some a → key a = k) :
    (∀ k, find k = find' k) ↔ ∀ a, find (key a) = some a ↔ find' (key a) = some a := by
  constructor
  · intro hsame a
    rw [hsame]
  · intro hsame k
    refine Option.ext fun a => ⟨fun hfind => ?_, fun hfind => ?_⟩
    · obtain rfl := h hfind
      exact (hsame a).mp hfind
    · obtain rfl := h' hfind
      exact (hsame a).mpr hfind

end Sorted

/-! ## Queues -/

namespace Script

/-- The queues stand in the order of their ids, so no id comes twice. -/
theorem pairwise_toList (script : Script) : script.toList.Pairwise (·.1.text < ·.1.text) := by
  refine Std.ExtTreeMap.ordered_keys_toList.imp fun {a b} h => ?_
  have htext : compare a.1.text b.1.text = .lt := h
  exact Std.LawfulLTCmp.eq_lt_iff_lt.mp htext

/-- The list of queues does not depend on the order in which they are taken out of a map: in any
order, they are put together to the same script. -/
theorem ofList_eq_of_perm {script : Script} {entries : List (ActionId × List String)}
    (h : entries.Perm script.toList) : (.ofList entries : Script) = script := by
  -- No id comes twice, so it does not matter which of two entries is put in last.
  have hdistinct : entries.Pairwise fun a b => ¬compare a.1 b.1 = .eq :=
    (h.pairwise_iff fun hab hba => hab (Std.OrientedCmp.eq_comm.mp hba)).mpr
      Std.ExtTreeMap.distinct_keys_toList
  refine Std.ExtTreeMap.ext_getElem? fun id => ?_
  cases hid : script[id]? with
  | some commands =>
    have hentry : (id, commands) ∈ entries :=
      h.mem_iff.mpr (Std.ExtTreeMap.mem_toList_iff_getElem?_eq_some.mpr hid)
    exact Std.ExtTreeMap.getElem?_ofList_of_mem Std.ReflCmp.compare_self hdistinct hentry
  | none =>
    refine Std.ExtTreeMap.getElem?_ofList_of_contains_eq_false ?_
    rw [← Bool.not_eq_true, List.contains_iff_mem, List.mem_map]
    rintro ⟨⟨_, commands⟩, hentry, rfl⟩
    have := Std.ExtTreeMap.mem_toList_iff_getElem?_eq_some.mp (h.mem_iff.mp hentry)
    rw [hid] at this
    cases this

end Script

/-- The queues of a script are those that are in store, with their commands. -/
theorem Queues.mem_toList_iff {queues : Queues} {id : ActionId} {commands : List String} :
    (id, commands) ∈ queues.script.toList ↔
      queues.contains id = true ∧ queues.get id = commands := by
  rw [Std.ExtTreeMap.mem_toList_iff_getElem?_eq_some, contains_eq_true_iff, ledger, get]
  cases queues.script[id]? <;> simp

/-! ## Sprites -/

namespace Cast

variable {cast : Cast}

/-- A sprite can be seen if its body has kept its rotation. -/
theorem sprite?_eq_some_iff {sprite : Sprite} : cast.sprite? sprite.id = some sprite ↔
    cast.body? sprite.id =
      some ⟨sprite.kind, sprite.transform.position, some sprite.transform.rotation⟩ := by
  obtain ⟨id, kind, position, rotation⟩ := sprite
  rw [sprite?]
  cases cast.body? id with
  | none => simp
  | some body =>
    obtain ⟨kind', position', _ | rotation'⟩ := body
    · simp [Body.transform?]
    · simp [Body.transform?]

/-- The sprites stand in the order of their numbers. -/
theorem pairwise_sprites {n : Nat} (h : Enrolled cast n) :
    cast.sprites.Pairwise (·.id.number < ·.id.number) := by
  have hids : cast.ids.Pairwise (·.number < ·.number) := by
    rw [h.ids, List.pairwise_map]
    exact List.pairwise_lt_range'
  rw [sprites, List.pairwise_filterMap]
  refine hids.imp fun hlt a ha b hb => ?_
  rwa [id_of_sprite? ha, id_of_sprite? hb]

/-- Casts in order show the same sprites if they do so number by number. -/
theorem sprites_eq_iff {cast' : Cast} {n n' : Nat} (h : Enrolled cast n) (h' : Enrolled cast' n') :
    cast.sprites = cast'.sprites ↔ ∀ id, cast.sprite? id = cast'.sprite? id := by
  rw [find_eq_iff Sprite.id id_of_sprite? id_of_sprite?]
  simp only [← mem_sprites_iff]
  constructor
  · intro heq sprite
    rw [heq]
  · exact eq_of_sorted (pairwise_sprites h) (pairwise_sprites h')

end Cast

namespace Stage

variable {stage stage' : Stage}

/-! ## Tabs -/

/-- What is seen of the tab that an id is bound to. -/
def view? (stage : Stage) (id : ActionId) : Option TabView :=
  (stage.tab? id).map fun tab => ⟨tab.id, tab.sprite, tab.label, tab.tracked⟩

/-- The first id was bound before the second one. -/
def Precedes (stage : Stage) (a b : ActionId) : Prop :=
  stage.index.ids.idxOf a < stage.index.ids.idxOf b

theorem tabs_eq_filterMap (stage : Stage) : stage.tabs = stage.index.ids.filterMap stage.view? := by
  rw [tabs, List.map_filterMap]
  rfl

namespace OrderlyTabs

/-- A tab that is looked up has the id that it is looked up under. -/
theorem id_of_view? (h : stage.OrderlyTabs) {id : ActionId} {view : TabView}
    (hview : stage.view? id = some view) : view.id = id := by
  obtain ⟨tab, htab, rfl⟩ := Option.map_eq_some_iff.mp hview
  exact (h.mem_of_tab? htab).2

/-- The tabs that are shown are those that can be looked up. -/
theorem mem_tabs_iff_view? (h : stage.OrderlyTabs) {view : TabView} :
    view ∈ stage.tabs ↔ stage.view? view.id = some view := by
  rw [mem_tabs_iff]
  constructor
  · rintro ⟨tab, htab, rfl⟩
    rw [view?, h.tab?_of_mem htab]
    rfl
  · intro hview
    obtain ⟨tab, htab, rfl⟩ := Option.map_eq_some_iff.mp hview
    exact ⟨tab, (h.mem_of_tab? htab).1, rfl⟩

/-- The tabs stand in the order of their creation. -/
theorem pairwise_tabs (h : stage.OrderlyTabs) :
    stage.tabs.Pairwise fun s t => stage.Precedes s.id t.id := by
  have hids : stage.index.ids.Pairwise stage.Precedes := by
    -- No id is bound twice, so each is found at the very place at which it stands.
    refine List.pairwise_iff_getElem.mpr fun i j hi hj hlt => ?_
    rwa [Precedes, h.nodup_ids.idxOf_getElem, h.nodup_ids.idxOf_getElem]
  rw [tabs_eq_filterMap, List.pairwise_filterMap]
  refine hids.imp fun hlt s hs t ht => ?_
  rwa [h.id_of_view? hs, h.id_of_view? ht]

/-- Stages in order show the same tabs if they do so id by id, and the tabs were added in the same
order. -/
theorem tabs_eq_iff (h : stage.OrderlyTabs) (h' : stage'.OrderlyTabs) :
    stage.tabs = stage'.tabs ↔ (∀ id, stage.view? id = stage'.view? id) ∧
      ∀ s ∈ stage.tabs, ∀ t ∈ stage.tabs,
        stage.Precedes s.id t.id ↔ stage'.Precedes s.id t.id := by
  rw [find_eq_iff TabView.id h.id_of_view? h'.id_of_view?]
  simp only [← h.mem_tabs_iff_view?, ← h'.mem_tabs_iff_view?]
  constructor
  · intro heq
    refine ⟨fun view => heq ▸ Iff.rfl, fun s hs t ht => ?_⟩
    exact lt_iff_of_sorted h.pairwise_tabs (heq ▸ h'.pairwise_tabs) hs ht
  · rintro ⟨hsame, horder⟩
    -- The tabs of the second stage are sorted by the order of the first one, too.
    have hsorted : stage'.tabs.Pairwise fun s t => stage.Precedes s.id t.id :=
      h'.pairwise_tabs.imp_of_mem fun hs ht hlt =>
        (horder _ ((hsame _).mpr hs) _ ((hsame _).mpr ht)).mpr hlt
    exact eq_of_sorted h.pairwise_tabs hsorted hsame

end OrderlyTabs

/-- A tab has the id and the label of its place among the tabs of its sprite. -/
theorem Registered.exists_of_mem_tabs {owners : List SpriteId} (h : stage.Registered owners)
    {view : TabView} (hview : view ∈ stage.tabs) :
    ∃ k, 1 ≤ k ∧ view.id = .forTab view.sprite k ∧ view.label = "Action " ++ toString k := by
  obtain ⟨tab, htab, rfl⟩ := mem_tabs_iff.mp hview
  obtain ⟨⟨slot, tab⟩, hrow, rfl⟩ := List.mem_map.mp (h.mem_tabsInOrder.mp htab)
  have hentry := (h.bound _ hrow).1
  rw [← List.mem_reverse, h.bindings, registration, List.mem_mapIdx] at hentry
  obtain ⟨i, hi, heq⟩ := hentry
  obtain ⟨hid, hbinding⟩ := Prod.mk.inj heq
  obtain ⟨hsprite, rfl⟩ := TabBinding.mk.inj hbinding
  refine ⟨countUpTo owners i tab.sprite, ?_, ?_, h.label _ hrow⟩
  · -- The owner of the slot is counted.
    refine List.count_pos_iff.mpr (List.mem_iff_getElem.mpr ⟨i, ?_, ?_⟩)
    · rw [List.length_take]
      omega
    · rw [List.getElem_take, hsprite]
  · rw [← hid, hsprite]

/-- Where no tab was taken off the board, all ids that are bound are those of tabs. -/
theorem Registered.ids_tabs_of_seated {owners : List SpriteId} (h : stage.Registered owners)
    (hseated : stage.Seated) : stage.tabs.map (·.id) = stage.index.ids := by
  rw [h.ids_tabs, List.filter_eq_self, h.ids_eq]
  intro id hid
  obtain ⟨entry, hentry, rfl⟩ := List.mem_map.mp hid
  exact h.isSome_tab? hseated hentry

/-! ## Stages that hold the same -/

/-- Two stages hold the same: the time, the queue of every id, the tab of every id, the order of
these tabs, and the sprite of every number. -/
structure Matches (stage stage' : Stage) : Prop where
  /-- As much time has passed. -/
  elapsed : stage.elapsed = stage'.elapsed
  /-- An id has the same queue on both, or none. -/
  queues : ∀ id : ActionId, stage.queues.script[id]? = stage'.queues.script[id]?
  /-- An id has the same tab on both, or none. -/
  tabs : ∀ id, stage.view? id = stage'.view? id
  /-- The tabs were added in the same order. -/
  order : ∀ s ∈ stage.tabs, ∀ t ∈ stage.tabs,
    stage.Precedes s.id t.id ↔ stage'.Precedes s.id t.id
  /-- The same sprites can be seen. -/
  sprites : ∀ id, stage.cast.sprite? id = stage'.cast.sprite? id

/-- Snapshots are equal exactly if they are made of stages that hold the same. -/
theorem snapshot_eq_iff {n n' : Nat} (htabs : stage.OrderlyTabs) (htabs' : stage'.OrderlyTabs)
    (hcast : Enrolled stage.cast n) (hcast' : Enrolled stage'.cast n') :
    stage.snapshot = stage'.snapshot ↔ stage.Matches stage' := by
  -- Each of the four parts is known from what can be looked up in it.
  have hscript : stage.queues.script = stage'.queues.script ↔
      ∀ id : ActionId, stage.queues.script[id]? = stage'.queues.script[id]? :=
    ⟨fun heq id => heq ▸ rfl, Std.ExtTreeMap.ext_getElem?⟩
  rw [snapshot, snapshot, Snapshot.mk.injEq, Cast.sprites_eq_iff hcast hcast',
    htabs.tabs_eq_iff htabs', hscript]
  constructor
  · rintro ⟨elapsed, sprites, ⟨tabs, order⟩, queues⟩
    exact ⟨elapsed, queues, tabs, order, sprites⟩
  · rintro ⟨elapsed, queues, tabs, order, sprites⟩
    exact ⟨elapsed, sprites, ⟨tabs, order⟩, queues⟩

/-! ## Main statement -/

/-- A snapshot shows what a stage holds, each thing once and in an order of its own. The queues
stand in the strictly ascending order of their ids, each with the commands in store and none left
out, also those of ids that no tab has; taken out of the store in any order, they make the same
script. The tabs stand in the order in which they were added, those left out that were taken off the
board, each bound to the sprite that it names, with the label of its place and the position that is
tracked. The sprites stand in the strictly ascending order of their numbers: those whose body has a
rotation, as the body is now. And two stages, whatever happened on them, have equal snapshots, and
so equal texts, exactly if they hold the same. -/
theorem snapshot_is_faithful (settings : Settings) (calls : List Call) :
    let stage := after settings calls
    let shown := stage.snapshot
    shown.elapsed = stage.elapsed ∧
    (shown.script.toList.Pairwise (·.1.text < ·.1.text) ∧
      (∀ id commands, (id, commands) ∈ shown.script.toList ↔
        stage.queues.contains id = true ∧ stage.queues.get id = commands) ∧
      (∀ id, stage.queues.contains id = true ↔
        id ∈ stage.index.ids ∨ ∃ command, Call.append id command ∈ calls) ∧
      ∀ entries : List (ActionId × List String),
        entries.Perm shown.script.toList → .ofList entries = shown.script) ∧
    (stage.index.ids = (registration (tabOwners settings calls)).map (·.1) ∧
      stage.index.ids.Nodup ∧
      shown.tabs.map (·.id) = stage.index.ids.filter (fun id => (stage.tab? id).isSome) ∧
      ((∀ id, Call.removeTab id ∉ calls) → shown.tabs.map (·.id) = stage.index.ids) ∧
      ∀ view ∈ shown.tabs,
        stage.index.spriteOf? view.id = some view.sprite ∧
        (∃ k, 1 ≤ k ∧ view.id = .forTab view.sprite k ∧ view.label = "Action " ++ toString k) ∧
        stage.tracked? view.id = view.tracked) ∧
    (shown.sprites.Pairwise (·.id.number < ·.id.number) ∧
      ∀ sprite, sprite ∈ shown.sprites ↔ stage.cast.body? sprite.id =
        some ⟨sprite.kind, sprite.transform.position, some sprite.transform.rotation⟩) ∧
    ∀ settings' calls', let stage' := after settings' calls'
      (shown = stage'.snapshot ↔ stage.Matches stage') ∧
      (stage.Matches stage' → shown.text = stage'.snapshot.text) := by
  intro stage shown
  have htabs : stage.Registered (tabOwners settings calls) := registered_after settings calls
  have hcast : Enrolled stage.cast (spritesPutUp settings calls) := enrolled_after settings calls
  refine ⟨rfl, ⟨Script.pairwise_toList _, fun _ _ => Queues.mem_toList_iff, fun id => ?_,
    fun _ => Script.ofList_eq_of_perm⟩,
    ⟨htabs.ids_eq, htabs.nodup_ids, htabs.ids_tabs,
      fun hkept => htabs.ids_tabs_of_seated (seated_after hkept), fun view hview => ?_⟩,
    ⟨Cast.pairwise_sprites hcast, fun sprite => ?_⟩, fun settings' calls' => ?_⟩
  · rw [← TabIndex.contains_iff_mem_ids]
    exact contains_after_iff
  · have hnamed := htabs.exists_of_mem_tabs hview
    obtain ⟨tab, htab, rfl⟩ := mem_tabs_iff.mp hview
    refine ⟨htabs.spriteOf?_of_mem htab, hnamed, ?_⟩
    rw [tracked?, htabs.tab?_of_mem htab]
    rfl
  · exact Cast.mem_sprites_iff.trans Cast.sprite?_eq_some_iff
  · have heq : shown = (after settings' calls').snapshot ↔ stage.Matches (after settings' calls') :=
      snapshot_eq_iff htabs.toOrderlyTabs (orderlyTabs_after settings' calls') hcast
        (enrolled_after settings' calls')
    exact ⟨heq, fun hmatches => congrArg Snapshot.text (heq.mpr hmatches)⟩

/-- Two queues that belong to no tab are made in one order with their commands, and in the other
order with each other's, which are then exchanged: the two stages are shown alike. -/
theorem snapshot_forgets_history :
    let calls : List Call := [.append ⟨"notes"⟩ "Turn Left", .append ⟨"drafts"⟩ "Turn Right"]
    let calls' : List Call := [.append ⟨"drafts"⟩ "Turn Left", .append ⟨"notes"⟩ "Turn Right",
      .swap ⟨"notes"⟩ ⟨"drafts"⟩]
    (after {} calls).Matches (after {} calls') ∧
    (after {} calls).snapshot.script.toList =
      [(⟨"1"⟩, []), (⟨"drafts"⟩, ["Turn Right"]), (⟨"notes"⟩, ["Turn Left"])] ∧
    (after {} calls).snapshot = (after {} calls').snapshot ∧
    (after {} calls).snapshot.text = (after {} calls').snapshot.text := by
  intro calls calls'
  have hlist : (after {} calls).snapshot.script.toList =
      [(⟨"1"⟩, []), (⟨"drafts"⟩, ["Turn Right"]), (⟨"notes"⟩, ["Turn Left"])] := by
    decide +kernel
  have hlist' : (after {} calls').snapshot.script.toList =
      [(⟨"1"⟩, []), (⟨"drafts"⟩, ["Turn Right"]), (⟨"notes"⟩, ["Turn Left"])] := by
    decide +kernel
  have hscript : (after {} calls).queues.script = (after {} calls').queues.script :=
    Std.ExtTreeMap.toList_inj.mp (hlist.trans hlist'.symm)
  have hmatches : (after {} calls).Matches (after {} calls') := by
    refine ⟨rfl, fun id => hscript ▸ rfl, fun _ => rfl, fun _ _ _ _ => Iff.rfl, fun _ => rfl⟩
  obtain ⟨-, -, -, -, hcanonical⟩ := snapshot_is_faithful {} calls
  obtain ⟨heq, htext⟩ := hcanonical {} calls'
  exact ⟨hmatches, hlist, heq.mpr hmatches, htext hmatches⟩

end Stage

end SpriteStage
