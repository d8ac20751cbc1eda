import Mathlib.Data.List.Induction
import SpriteStage.Proofs.Stage.Clusters
import SpriteStage.Proofs.Stage.Schedules

/-!
# What is registered on a stage

The cast, the index, the board and the queues each keep a record of their own, and calls reach them
one by one. The module proves that on reachable stages all records tell one history. It introduces:

* `spritesPutUp` and `tabOwners`: how many sprites a run put up, and for which sprites it added
  tabs;
* `Enrolled`: the cast holds the first numbers, in order;
* `countUpTo`, which counts the tabs of a sprite up to a slot, `registration`, the bindings that
  follow from the owners of tabs, and `Stage.Registered`: the index and the board hold these;
* `Stage.Seated`: no tab was taken off the board.

Each comes with what one call does to it and with what a run makes of it. The main statement is
`stage_keeps_registers`.
-/

namespace SpriteStage

/-- The call puts up a sprite. -/
def Call.addsSprite : Call → Bool
  | addSprite _ => true
  | _ => false

/-! ## Sprites -/

/-- A roster knows the numbers that it lists. -/
theorem Roster.contains_iff_mem_ids {α : Type} {roster : Roster α} {id : SpriteId} :
    roster.contains id = true ↔ id ∈ roster.ids := by
  rw [contains, get?, isSome_lookup_iff, ids, List.map_reverse, List.mem_reverse]

/-- An index knows the ids that it lists. -/
theorem TabIndex.contains_iff_mem_ids {index : TabIndex} {id : ActionId} :
    index.contains id = true ↔ id ∈ index.ids := by
  rw [contains, get?, isSome_lookup_iff, ids, List.map_reverse, List.mem_reverse]

/-- The cast holds the sprites with the first `n` numbers, in order. -/
structure Enrolled (cast : Cast) (n : Nat) : Prop where
  /-- The numbers were handed out one after the other, from 1 on. -/
  ids : cast.ids = (List.range' 1 n).map SpriteId.mk
  /-- The number after them comes next. -/
  nextNumber : cast.nextNumber = n + 1
  /-- Only an empty cast has no current sprite. -/
  current : cast.current = none ↔ n = 0
  /-- The current sprite was put up. -/
  known : ∀ id, cast.current = some id → cast.contains id = true

namespace Enrolled

variable {cast : Cast} {n : Nat}

/-- A new sprite gets the next number. -/
theorem add (h : Enrolled cast n) (kind : SpriteKind) : Enrolled (cast.add kind).2 (n + 1) where
  ids := by
    have hids : Roster.ids (cast.add kind).2 = cast.ids ++ [⟨cast.nextNumber⟩] :=
      Roster.ids_enter _ _ _
    rw [hids, h.ids, h.nextNumber, List.range'_1_concat, List.map_append, Nat.add_comm n 1]
    rfl
  nextNumber := congrArg (· + 1) h.nextNumber
  current := iff_of_false (Option.some_ne_none _) (Nat.succ_ne_zero n)
  known := by
    rintro id ⟨⟩
    exact (Stage.contains_add cast kind _).mpr (.inl rfl)

/-- A sprite that is selected was put up. -/
theorem select (h : Enrolled cast n) {id : SpriteId} (hid : cast.contains id = true) :
    Enrolled { cast with current := some id } n where
  ids := h.ids
  nextNumber := h.nextNumber
  current := by
    refine iff_of_false (Option.some_ne_none _) ?_
    rintro rfl
    rw [Roster.contains_iff_mem_ids, h.ids] at hid
    cases hid
  known := by
    rintro _ ⟨⟩
    exact hid

theorem modify (h : Enrolled cast n) (id : SpriteId) (f : Option Body → Option Body) :
    Enrolled (cast.modify id f) n where
  ids := (Roster.ids_modify cast id f).trans h.ids
  nextNumber := h.nextNumber
  current := h.current
  known := fun other hother => (Roster.contains_modify cast id other f).trans (h.known other hother)

end Enrolled

namespace Stage

variable {stage stage' : Stage} {n : Nat} {owners : List SpriteId}

theorem enrolled_edit (h : Enrolled stage.cast n) {call : Call} (hedit : stage.Edit call stage')
    (hcall : call.addsSprite = false) : Enrolled stage'.cast n := by
  cases hedit with
  | addSprite => cases hcall
  | selectSprite _ hid => exact h.select hid
  | addTab _ _ hsprite => exact h.select hsprite
  | updateSprite id f => exact h.modify id (·.map (·.move f))
  | takeOffSprite id => exact h.modify id fun _ => none
  | dropRotation id => exact h.modify id (·.map fun body => { body with rotation := none })
  | _ => exact h

theorem enrolled_tick (h : Enrolled stage.cast n) (dt : Float32) :
    Enrolled (stage.tick dt).1.cast n :=
  Performance.cast_tick_induction (P := fun cast => Enrolled cast n)
    (fun _ id f hcast => hcast.modify id f) stage.performance dt h

/-- A call puts up one sprite or none. -/
theorem enrolled_perform (h : Enrolled stage.cast n) (call : Call) :
    Enrolled (stage.perform call).stage.cast (n + if call.addsSprite then 1 else 0) := by
  cases hcall : call.addsSprite with
  | true =>
    cases call with
    | addSprite kind => exact h.add kind
    | _ => cases hcall
  | false =>
    exact perform_cases (P := fun stage => Enrolled stage.cast n) call h
      (fun _ hedit => enrolled_edit h hedit hcall) (fun _ => h) fun _ dt h => enrolled_tick h dt

/-- The number of sprites that a run puts up, that of a new stage included. -/
def spritesPutUp (settings : Settings) (calls : List Call) : Nat :=
  (setup settings ++ calls).countP Call.addsSprite

theorem enrolled_after (settings : Settings) (calls : List Call) :
    Enrolled (after settings calls).cast (spritesPutUp settings calls) := by
  have hrun (calls : List Call) (stage : Stage) (n : Nat) (h : Enrolled stage.cast n) :
      Enrolled (stage.performAll calls).1.cast (n + calls.countP Call.addsSprite) := by
    induction calls generalizing stage n with
    | nil => exact h
    | cons call calls ih =>
      rw [List.countP_cons, Nat.add_comm (calls.countP _), ← Nat.add_assoc]
      exact ih _ _ (enrolled_perform h call)
  have hbare : Enrolled (bare settings).cast 0 := ⟨rfl, rfl, iff_of_true rfl rfl, nofun⟩
  have := hrun (setup settings ++ calls) _ 0 hbare
  rwa [Nat.zero_add, ← after_eq_performAll] at this

/-! ## Bindings -/

/-- The number of tabs that a sprite has right after the tab in a slot was added. -/
def countUpTo (owners : List SpriteId) (slot : Nat) (sprite : SpriteId) : Nat :=
  (owners.take (slot + 1)).count sprite

/-- A tab that is added later does not count in an earlier place. -/
theorem countUpTo_concat_of_lt {slot : Nat} (h : slot < owners.length) (owner sprite : SpriteId) :
    countUpTo (owners ++ [owner]) slot sprite = countUpTo owners slot sprite := by
  rw [countUpTo, List.take_append_of_le_length (Nat.succ_le_of_lt h), countUpTo]

/-- The last tab counts for its owner. -/
theorem countUpTo_concat_length (owners : List SpriteId) (sprite : SpriteId) :
    countUpTo (owners ++ [sprite]) owners.length sprite = owners.count sprite + 1 := by
  have hall : (owners ++ [sprite]).take (owners.length + 1) = owners ++ [sprite] :=
    List.take_of_length_le (by simp)
  rw [countUpTo, hall, List.count_append, List.count_singleton_self]

/-- The bindings of tabs that were added for some sprites, one after the other: the id of a tab is
made of its sprite and of the number of tabs that the sprite then has. -/
def registration (owners : List SpriteId) : List (ActionId × TabBinding) :=
  owners.mapIdx fun slot sprite => (.forTab sprite (countUpTo owners slot sprite), ⟨sprite, slot⟩)

theorem registration_concat (owners : List SpriteId) (sprite : SpriteId) :
    registration (owners ++ [sprite]) = registration owners ++
      [(.forTab sprite (owners.count sprite + 1), ⟨sprite, owners.length⟩)] := by
  rw [registration, List.mapIdx_concat, countUpTo_concat_length]
  congr 1
  refine List.mapIdx_eq_mapIdx_iff.mpr fun slot hslot => ?_
  rw [countUpTo_concat_of_lt hslot]

example : (registration [⟨1⟩, ⟨2⟩, ⟨1⟩]).map (·.1.text) = ["1", "2", "1-2"] := by decide

/-- Bindings stand in the order of their owners. -/
theorem map_sprite_registration (owners : List SpriteId) :
    (registration owners).map (·.2.sprite) = owners := by
  induction owners using List.reverseRecOn with
  | nil => rfl
  | append_singleton owners sprite ih => rw [registration_concat, List.map_append, ih]; rfl

/-- The tabs of one sprite are counted from 1. -/
theorem ids_registration (owners : List SpriteId) (sprite : SpriteId) :
    ((registration owners).filter (·.2.sprite = sprite)).map (·.1) =
      (List.range' 1 (owners.count sprite)).map (ActionId.forTab sprite) := by
  induction owners using List.reverseRecOn with
  | nil => rfl
  | append_singleton owners owner ih =>
    -- Only a new tab of this very sprite goes on with its counters.
    rw [registration_concat, List.filter_append, List.map_append, ih, List.count_append]
    by_cases heq : owner = sprite
    · subst heq
      rw [List.count_singleton_self, List.range'_1_concat, List.map_append]
      simp [Nat.add_comm]
    · simp [heq]

/-! ## Tabs -/

/-- Index and board hold the tabs that were added for some sprites, one after the other. -/
structure Registered (stage : Stage) (owners : List SpriteId) : Prop
    extends OrderlyTabs stage where
  /-- The bindings are those that follow from the owners. -/
  bindings : stage.index.bindings.reverse = registration owners
  /-- A tab is called by the number of tabs that its sprite had after it. -/
  label : ∀ row ∈ stage.board.rows, row.2.label =
    "Action " ++ toString (countUpTo owners row.1 row.2.sprite)
  /-- Without tabs, and only then, none is selected. -/
  selected : stage.index.selected = none ↔ owners = []
  /-- The selected tab is bound. -/
  known : ∀ id, stage.index.selected = some id → stage.index.contains id = true

namespace Registered

theorem length_bindings (h : stage.Registered owners) :
    stage.index.bindings.length = owners.length := by
  rw [← List.length_reverse, h.bindings, registration, List.length_mapIdx]

theorem nextIndex_eq (h : stage.Registered owners) (sprite : SpriteId) :
    stage.index.nextIndex sprite = owners.count sprite + 1 := by
  have hcount : (registration owners).countP (·.2.sprite = sprite) = owners.count sprite := by
    conv_rhs => rw [← map_sprite_registration owners, List.count, List.countP_map]
    exact List.countP_congr fun entry _ => by simp
  rw [TabIndex.nextIndex, ← List.countP_reverse, h.bindings, hcount]

/-- Bindings stay registered while the index and, in their rows, sprites and labels stay as they
are. -/
theorem congr (h : stage.Registered owners) (horderly : stage'.OrderlyTabs)
    (hindex : stage'.index = stage.index)
    (hrows : ∀ row ∈ stage'.board.rows, ∃ tab, (row.1, tab) ∈ stage.board.rows ∧
      tab.sprite = row.2.sprite ∧ tab.label = row.2.label) : stage'.Registered owners where
  toOrderlyTabs := horderly
  bindings := hindex ▸ h.bindings
  label := by
    intro row hrow
    obtain ⟨tab, htab, hsprite, hlabel⟩ := hrows row hrow
    rw [← hlabel, ← hsprite]
    exact h.label (row.1, tab) htab
  selected := hindex ▸ h.selected
  known := hindex ▸ h.known

/-- A new tab is registered for its owner. -/
theorem withTab (h : stage.Registered owners) (sprite : SpriteId) :
    (stage.withTab sprite).Registered (owners ++ [sprite]) where
  toOrderlyTabs := h.toOrderlyTabs.withTab sprite
  bindings := by
    have hnew : (stage.withTab sprite).index.bindings =
        (.forTab sprite (stage.index.nextIndex sprite), ⟨sprite, stage.board.nextSlot⟩) ::
          stage.index.bindings := rfl
    rw [hnew, List.reverse_cons, h.bindings, registration_concat, h.nextIndex_eq, h.nextSlot_eq,
      h.length_bindings]
  label := by
    intro row hrow
    rcases List.mem_append.mp hrow with hrow | hrow
    · -- The owners of older tabs come before the new one.
      have hslot := h.slot_lt (h.bound row hrow).1
      rw [h.nextSlot_eq, h.length_bindings] at hslot
      rw [h.label row hrow, countUpTo_concat_of_lt hslot]
    · have hnew : row = (owners.length, stage.nextTab sprite) := by
        rw [List.mem_singleton.mp hrow, h.nextSlot_eq, h.length_bindings]
      rw [hnew]
      simp only [nextTab]
      rw [countUpTo_concat_length, h.nextIndex_eq]
  selected := iff_of_false (Option.some_ne_none _) (by simp)
  known := by
    rintro _ ⟨⟩
    have hget := stage.index.get?_enter (stage.nextTab sprite).id (stage.nextTab sprite).id
      ⟨sprite, stage.board.nextSlot⟩
    rw [if_pos rfl] at hget
    exact congrArg Option.isSome hget

theorem edit (h : stage.Registered owners) {call : Call} (hedit : stage.Edit call stage')
    (hcall : call.asksForTab = false) : stage'.Registered owners := by
  have horderly := h.toOrderlyTabs.edit hedit
  have hrows : ∀ row ∈ stage'.board.rows, ∃ tab, (row.1, tab) ∈ stage.board.rows ∧
      tab.sprite = row.2.sprite ∧ tab.label = row.2.label := by
    intro row hrow
    rcases mem_rows_edit hedit hrow with ⟨old, _, _, hold, heq⟩ | ⟨sprite, hadd, -⟩
    · exact ⟨old, hold, by rw [heq], by rw [heq]⟩
    · rcases hadd with rfl | rfl <;> cases hcall
  cases hedit with
  | addTab sprite hadd _ => rcases hadd with rfl | rfl <;> cases hcall
  | selectTab id hid =>
    exact {
      toOrderlyTabs := horderly
      bindings := h.bindings
      label := h.label
      selected := by
        refine iff_of_false (Option.some_ne_none _) ?_
        rintro rfl
        have hempty : stage.index.bindings = [] := List.reverse_eq_nil_iff.mp h.bindings
        rw [TabIndex.contains, TabIndex.get?, hempty] at hid
        cases hid
      known := by
        rintro _ ⟨⟩
        exact hid }
  | _ => exact h.congr horderly rfl hrows

theorem tick (h : stage.Registered owners) (dt : Float32) :
    (stage.tick dt).1.Registered owners := by
  refine h.congr (h.toOrderlyTabs.tick dt) rfl fun row hrow => ?_
  obtain ⟨old, _, _, hold, heq, -⟩ := mem_rows_tick hrow
  exact ⟨old, hold, by rw [heq], by rw [heq]⟩

end Registered

/-! ## Tabs that stay on the board -/

/-- Every slot that was given out stands in a row. -/
def Seated (stage : Stage) : Prop :=
  stage.board.rows.map (·.1) = List.range stage.board.nextSlot

theorem Seated.edit (h : stage.Seated) {call : Call} (hedit : stage.Edit call stage')
    (hcall : ∀ id, call ≠ .removeTab id) : stage'.Seated := by
  cases hedit with
  | addTab sprite =>
    rw [Seated, rows_withTab, nextSlot_withTab, List.map_append, h, List.range_succ]
    rfl
  | track => exact (Board.map_rows_modify _ _ _).trans h
  | removeTab => exact absurd rfl (hcall _)
  | _ => exact h

theorem Seated.tick (h : stage.Seated) (dt : Float32) : (stage.tick dt).1.Seated := by
  rw [Seated, rows_tick, rows_watched, List.map_map, List.map_map, board_tick,
    Board.nextSlot_pass, (stage.watched_frame dt).1]
  exact h

/-- As long as no tab is taken off the board, every tab is on it. -/
theorem seated_after {settings : Settings} {calls : List Call}
    (hkept : ∀ id, Call.removeTab id ∉ calls) : (after settings calls).Seated := by
  have hrun (calls : List Call) (hcalls : ∀ id, Call.removeTab id ∉ calls) (stage : Stage)
      (h : stage.Seated) : (stage.performAll calls).1.Seated := by
    induction calls generalizing stage with
    | nil => exact h
    | cons call calls ih =>
      refine ih (fun id hid => hcalls id (.tail _ hid)) _ ?_
      refine perform_cases call h (fun _ hedit => h.edit hedit ?_) (fun _ => h)
        fun _ dt h => h.tick dt
      rintro id rfl
      exact hcalls id (.head _)
  rw [after_eq_performAll]
  refine hrun _ (fun id hid => ?_) _ rfl
  rcases List.mem_append.mp hid with hid | hid
  · rw [setup] at hid
    split at hid
    · simp at hid
    · cases hid
  · exact hkept id hid

/-! ## What is found of registered tabs -/

namespace Registered

/-- The index lists the registered ids, in order. -/
theorem ids_eq (h : stage.Registered owners) :
    stage.index.ids = (registration owners).map (·.1) := by
  rw [TabIndex.ids, h.bindings]

/-- What is registered under an id is found under it. -/
theorem get?_eq (h : stage.Registered owners) {entry : ActionId × TabBinding}
    (hentry : entry ∈ registration owners) : stage.index.get? entry.1 = some entry.2 := by
  rw [← h.bindings, List.mem_reverse] at hentry
  exact lookup_eq_some_of_mem h.ids_nodup hentry

/-- The tab of a registered id is in its slot, and is what was registered. -/
theorem tab_eq (h : stage.Registered owners) {entry : ActionId × TabBinding}
    (hentry : entry ∈ registration owners) {tab : Tab} (htab : stage.tab? entry.1 = some tab) :
    tab.id = entry.1 ∧ tab.sprite = entry.2.sprite ∧
      tab.label = "Action " ++ toString (countUpTo owners entry.2.slot entry.2.sprite) ∧
      tab.order = entry.2.slot := by
  obtain ⟨slot, hrow, hid⟩ := h.tab?_eq_some_iff.mp htab
  obtain ⟨hbound, horder⟩ := h.bound (slot, tab) hrow
  have hbinding := lookup_eq_some_of_mem h.ids_nodup hbound
  rw [hid] at hbinding
  have heq : entry.2 = ⟨tab.sprite, slot⟩ :=
    Option.some.inj ((h.get?_eq hentry).symm.trans hbinding)
  rw [heq]
  exact ⟨hid, rfl, h.label (slot, tab) hrow, horder⟩

/-- The tabs of a sprite are listed in order. -/
theorem tabsOf_eq (h : stage.Registered owners) (sprite : SpriteId) :
    stage.index.tabsOf sprite =
      (List.range' 1 (owners.count sprite)).map (ActionId.forTab sprite) := by
  rw [TabIndex.tabsOf, h.ids_eq, List.filter_map, ← ids_registration]
  congr 1
  refine List.filter_congr fun entry hentry => ?_
  simp [TabIndex.spriteOf?, h.get?_eq hentry]

/-- Where no tab was taken off the board, every registered tab is on it. -/
theorem isSome_tab? (h : stage.Registered owners) (hseated : stage.Seated)
    {entry : ActionId × TabBinding} (hentry : entry ∈ registration owners) :
    (stage.tab? entry.1).isSome = true := by
  have hslot : entry.2.slot ∈ stage.board.rows.map (·.1) := by
    rw [hseated, List.mem_range]
    exact h.slot_lt (List.mem_reverse.mp (h.bindings ▸ hentry))
  rw [Stage.tab?, TabIndex.slotOf?, h.get?_eq hentry]
  exact isSome_lookup_iff.mpr hslot

end Registered

/-! ## Runs -/

/-- The sprite that a call asks a tab for. -/
def tabWanted? (stage : Stage) : Call → Option SpriteId
  | .addTab => stage.cast.current
  | .addTabFor sprite => some sprite
  | _ => none

/-- The sprites that a call adds tabs for: one, if it asks for a tab and is accepted. -/
def tabsAdded (stage : Stage) (call : Call) : List SpriteId :=
  if (stage.perform call).reply.isRefusal then [] else (stage.tabWanted? call).toList

/-- A call that does not ask for a tab adds none. -/
theorem tabsAdded_of_not_asksForTab {call : Call} (hcall : call.asksForTab = false) :
    stage.tabsAdded call = [] := by
  have hwanted : stage.tabWanted? call = none := by
    cases call <;> first | rfl | cases hcall
  rw [tabsAdded, hwanted, Option.toList_none, ite_self]

namespace Registered

/-- Asking for a tab registers it, or is refused. -/
theorem attemptTab (h : stage.Registered owners) (sprite : SpriteId) :
    (stage.attemptTab (stage.addTabFor? sprite)).stage.Registered (owners ++
      if (stage.attemptTab (stage.addTabFor? sprite)).reply.isRefusal then [] else [sprite]) := by
  rw [addTabFor?_eq]
  split
  · exact h.withTab sprite
  · exact (List.append_nil owners).symm ▸ h

theorem perform (h : stage.Registered owners) (call : Call) :
    (stage.perform call).stage.Registered (owners ++ stage.tabsAdded call) := by
  cases hcall : call.asksForTab with
  | true =>
    -- A tab for the current sprite is one for a sprite, if there is any.
    cases call with
    | addTabFor sprite => exact h.attemptTab sprite
    | addTab =>
      rw [tabsAdded, tabWanted?, Stage.perform, addTab?]
      cases stage.cast.current with
      | none => exact (List.append_nil owners).symm ▸ h
      | some sprite => exact h.attemptTab sprite
    | _ => cases hcall
  | false =>
    rw [tabsAdded_of_not_asksForTab hcall, List.append_nil]
    refine perform_cases (P := (Registered · owners)) call h (fun _ hedit => h.edit hedit hcall)
      (fun script => ?_) fun _ dt h => h.tick dt
    -- An opening touches neither the index nor the rows.
    exact h.congr (h.of_rows_eq rfl rfl rfl fun _ hid => hid) rfl fun row hrow =>
      ⟨row.2, hrow, rfl, rfl⟩

end Registered

/-- The sprites for which a run adds tabs, one for each, that of a new stage included. -/
def tabOwners (settings : Settings) (calls : List Call) : List SpriteId :=
  (bare settings).collect tabsAdded (setup settings ++ calls)

theorem registered_after (settings : Settings) (calls : List Call) :
    (after settings calls).Registered (tabOwners settings calls) := by
  have hbare : (bare settings).Registered [] :=
    ⟨orderlyTabs_bare settings, rfl, nofun, iff_of_true rfl rfl, nofun⟩
  have := collect_induction (P := Registered) (fun _ call _ h => h.perform call)
    (setup settings ++ calls) hbare
  rwa [← after_eq_performAll] at this

/-! ## Main statement -/

/-- All records of a stage tell what was put up on it. The sprites have the numbers from 1 on, in
the order in which they were put up, and the next one gets the next number. A sprite is current if
there is one, and a tab selected if there is one, and both were registered before. All tabs have
different ids. The tab that was added in place `i` among all tabs, and as the `k`-th one of its
sprite, has the id that is made of the two; the index binds it to its sprite, which was put up, and
it has a queue. On the board it has that id, that sprite, the label with `k` and the place `i`, and
it is there unless tabs were taken off. The tabs of a sprite are listed in order, and its next one
gets the next counter. -/
theorem stage_keeps_registers (settings : Settings) (calls : List Call) :
    let stage := after settings calls
    let sprites := spritesPutUp settings calls
    let owners := tabOwners settings calls
    stage.cast.ids = (List.range' 1 sprites).map SpriteId.mk ∧
    (∀ kind, (stage.addSprite kind).1.id = ⟨sprites + 1⟩) ∧
    (stage.cast.current = none ↔ sprites = 0) ∧
    (∀ id, stage.cast.current = some id → stage.cast.contains id = true) ∧
    stage.index.ids.Nodup ∧ stage.index.ids.length = owners.length ∧
    (∀ i sprite, owners[i]? = some sprite →
      let k := countUpTo owners i sprite
      let id := ActionId.forTab sprite k
      stage.index.ids[i]? = some id ∧ stage.index.spriteOf? id = some sprite ∧
      stage.cast.contains sprite = true ∧ stage.queues.contains id = true ∧
      (∀ tab, stage.tab? id = some tab → tab.id = id ∧ tab.sprite = sprite ∧
        tab.label = "Action " ++ toString k ∧ tab.order = i) ∧
      ((∀ other, Call.removeTab other ∉ calls) → (stage.tab? id).isSome = true)) ∧
    (∀ sprite, stage.index.tabsOf sprite =
        (List.range' 1 (owners.count sprite)).map (ActionId.forTab sprite) ∧
      stage.index.nextIndex sprite = (stage.index.tabsOf sprite).length + 1) ∧
    (stage.index.selected = none ↔ owners = []) ∧
    ∀ id, stage.index.selected = some id → stage.index.contains id = true := by
  intro stage sprites owners
  have hcast : Enrolled stage.cast sprites := enrolled_after settings calls
  have htabs : stage.Registered owners := registered_after settings calls
  refine ⟨hcast.ids, fun kind => congrArg SpriteId.mk hcast.nextNumber, hcast.current, hcast.known,
    htabs.nodup_ids, ?_, fun i sprite hi => ?_, fun sprite => ⟨htabs.tabsOf_eq sprite, ?_⟩,
    htabs.selected, htabs.known⟩
  · rw [htabs.ids_eq, List.length_map, registration, List.length_mapIdx]
  · intro k id
    have hplace : (registration owners)[i]? = some (id, ⟨sprite, i⟩) := by
      rw [registration, List.getElem?_mapIdx, hi]
      rfl
    have hentry := List.mem_of_getElem? hplace
    have hsprite : stage.index.spriteOf? id = some sprite := by
      rw [TabIndex.spriteOf?, htabs.get?_eq hentry]
      rfl
    refine ⟨?_, hsprite, (staffed_after settings calls).contains_of_spriteOf? hsprite,
      htabs.queued _ (List.mem_reverse.mp (htabs.bindings ▸ hentry)),
      fun tab htab => htabs.tab_eq hentry htab, fun hkept => ?_⟩
    · rw [htabs.ids_eq, List.getElem?_map, hplace]
      rfl
    · exact htabs.isSome_tab? (seated_after hkept) hentry
  · rw [htabs.tabsOf_eq, List.length_map, List.length_range', htabs.nextIndex_eq]

end Stage

end SpriteStage
