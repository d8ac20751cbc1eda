import SpriteStage.Proofs.Board.Cluster
import SpriteStage.Proofs.Stage.Wakefulness

/-!
# Clusters of tabs

Tabs that all collide with each other, and with no other tab, form a cluster. The monitor exchanges
their queues pair by pair, between exchanges elsewhere; in the end the queues of the cluster stand
the other way round. The module introduces:

* `Stage.IsCluster`, and `IsCluster.map_exchange`: what the exchanges of a tick do to a cluster;
* `Stage.Continues`: what stays of the tabs from one stage of a run to a later one, and
  `IsCluster.continues`: a cluster whose tabs do not move stays one.

The main statement is `cluster_queues_reversed`.
-/

namespace SpriteStage

namespace Stage

variable {stage stage' : Stage}

instance (stage : Stage) (a b : ActionId) : Decidable (stage.Joined a b) :=
  inferInstanceAs (Decidable (∃ s ∈ stage.tabsInOrder, ∃ t ∈ stage.tabsInOrder, _ ∧ _ ∧ _))

/-! ## Colliding pairs by their ids -/

/-- What is found under an id is a tab on the board with that id. -/
theorem OrderlyTabs.mem_of_tab? (h : stage.OrderlyTabs) {id : ActionId} {tab : Tab}
    (htab : stage.tab? id = some tab) : tab ∈ stage.tabsInOrder ∧ tab.id = id := by
  obtain ⟨slot, hrow, hid⟩ := h.tab?_eq_some_iff.mp htab
  exact ⟨h.mem_tabsInOrder.mpr (List.mem_map_of_mem hrow), hid⟩

/-- The ids of the tabs on the board, by creation. -/
theorem OrderlyTabs.ids_tabsInOrder (h : stage.OrderlyTabs) :
    stage.tabsInOrder.map (·.id) = stage.index.ids.filter fun id => (stage.tab? id).isSome := by
  have hname (id : ActionId) :
      (stage.tab? id).map (·.id) = Option.guard (fun id => (stage.tab? id).isSome) id := by
    cases htab : stage.tab? id with
    | none => simp [Option.guard, htab]
    | some tab =>
      simp [Option.guard, htab, (h.mem_of_tab? htab).2]
  rw [tabsInOrder, List.map_filterMap, ← List.filterMap_eq_filter]
  exact List.filterMap_congr fun id _ => hname id

theorem OrderlyTabs.nodup_ids (h : stage.OrderlyTabs) : stage.index.ids.Nodup := by
  rw [TabIndex.ids, List.map_reverse]
  exact List.nodup_reverse.mpr h.ids_nodup

/-- No two tabs on the board have one id. -/
theorem OrderlyTabs.tab_inj (h : stage.OrderlyTabs) {s t : Tab} (hs : s ∈ stage.tabsInOrder)
    (ht : t ∈ stage.tabsInOrder) (hid : s.id = t.id) : s = t := by
  have hnodup : (stage.tabsInOrder.map (·.id)).Nodup := by
    rw [h.ids_tabsInOrder]
    exact h.nodup_ids.filter _
  exact List.inj_on_of_nodup_map hnodup hs ht hid

/-- A tab is found under its id. -/
theorem OrderlyTabs.tab?_of_mem (h : stage.OrderlyTabs) {tab : Tab}
    (htab : tab ∈ stage.tabsInOrder) : stage.tab? tab.id = some tab := by
  obtain ⟨row, hrow, rfl⟩ := List.mem_map.mp (h.mem_tabsInOrder.mp htab)
  exact h.tab?_eq_some_iff.mpr ⟨row.1, hrow, rfl⟩

/-- The pairs of colliding tabs are the pairs of joined ids, by creation. -/
theorem OrderlyTabs.collidingIds_eq (h : stage.OrderlyTabs) :
    stage.collidingIds = (pairsOf stage.index.ids).filter fun pair =>
      stage.Joined pair.1 pair.2 := by
  have hjoined : ∀ pair ∈ pairsOf stage.tabsInOrder,
      decide (pair.1.Collides stage.board.monitor.followSprites pair.2) =
        decide (stage.Joined (idsOf pair).1 (idsOf pair).2) := by
    intro pair hpair
    obtain ⟨hfirst, hsecond⟩ := mem_of_mem_pairsOf hpair
    refine decide_eq_decide.mpr ⟨fun hcollides => ⟨_, hfirst, _, hsecond, rfl, rfl, hcollides⟩, ?_⟩
    rintro ⟨s, hs, t, ht, hsid, htid, hcollides⟩
    rwa [h.tab_inj hs hfirst hsid, h.tab_inj ht hsecond htid] at hcollides
  have hboth (pair : ActionId × ActionId) (hpair : stage.Joined pair.1 pair.2) :
      ((stage.tab? pair.1).isSome && (stage.tab? pair.2).isSome) = true := by
    obtain ⟨s, hs, t, ht, hsid, htid, -⟩ := hpair
    simp [← hsid, ← htid, h.tab?_of_mem hs, h.tab?_of_mem ht]
  calc stage.collidingIds
      = ((pairsOf stage.tabsInOrder).map idsOf).filter fun pair =>
          stage.Joined pair.1 pair.2 := by
        rw [collidingIds, collidingPairs, List.filter_map, List.filter_congr hjoined]
        rfl
    _ = (pairsOf (stage.index.ids.filter fun id => (stage.tab? id).isSome)).filter fun pair =>
          stage.Joined pair.1 pair.2 := by
        rw [← h.ids_tabsInOrder, pairsOf_map]
        rfl
    _ = (pairsOf stage.index.ids).filter fun pair => stage.Joined pair.1 pair.2 := by
        rw [pairsOf_filter, List.filter_filter]
        refine List.filter_congr fun pair _ => ?_
        by_cases hpair : stage.Joined pair.1 pair.2
        · simp [hpair, hboth pair hpair]
        · simp [hpair]

/-! ## Clusters -/

/-- The tabs of some ids collide with no other tab. -/
def IsAlone (stage : Stage) (ids : List ActionId) : Prop :=
  ∀ a ∈ ids, ∀ tab ∈ stage.tabsInOrder, stage.Joined a tab.id → tab.id ∈ ids

instance (stage : Stage) (ids : List ActionId) : Decidable (stage.IsAlone ids) :=
  inferInstanceAs (Decidable (∀ a ∈ ids, ∀ tab ∈ stage.tabsInOrder, _))

/-- Some tabs, by creation, collide with each other and with no other tab. -/
structure IsCluster (stage : Stage) (ids : List ActionId) : Prop where
  /-- The ids stand in the order of their creation. -/
  ordered : ids.Sublist stage.index.ids
  /-- Any two of them belong to tabs that collide. -/
  joined : ids.Pairwise stage.Joined
  /-- Their tabs collide with no other tab. -/
  alone : stage.IsAlone ids

instance (stage : Stage) (ids : List ActionId) : Decidable (stage.IsCluster ids) :=
  decidable_of_iff (ids.Sublist stage.index.ids ∧ ids.Pairwise stage.Joined ∧ stage.IsAlone ids)
    ⟨fun ⟨ordered, joined, alone⟩ => ⟨ordered, joined, alone⟩,
      fun h => ⟨h.ordered, h.joined, h.alone⟩⟩

/-- In a cluster, the exchanges of a tick lead from every id to the one opposite to it. -/
theorem IsCluster.map_exchange {ids : List ActionId} (h : stage.IsCluster ids)
    (horderly : stage.OrderlyTabs) : ids.map (exchange stage.collidingIds) = ids.reverse := by
  let inside (id : ActionId) : Bool := id ∈ ids
  have hnodup : ids.Nodup := h.ordered.nodup horderly.nodup_ids
  -- A pair lies in the cluster as soon as one of its ids does.
  have hin {a b : ActionId} (hjoined : stage.Joined a b) (ha : a ∈ ids) : b ∈ ids := by
    obtain ⟨s, hs, t, ht, rfl, rfl, hcollides⟩ := id hjoined
    exact h.alone _ ha t ht hjoined
  have hsides : ∀ pair ∈ stage.collidingIds, inside pair.1 = inside pair.2 := by
    intro pair hpair
    have hjoined := joined_of_mem_collidingIds hpair
    exact decide_eq_decide.mpr ⟨hin hjoined, hin hjoined.symm⟩
  have hpairs : (stage.collidingIds.filter fun pair => inside pair.1 && inside pair.2) =
      pairsOf ids := by
    have hids : stage.index.ids.filter inside = ids :=
      filter_mem_of_sublist h.ordered horderly.nodup_ids
    rw [horderly.collidingIds_eq, List.filter_comm, ← pairsOf_filter, hids]
    refine List.filter_eq_self.mpr fun pair hpair => ?_
    simpa using pairwise_iff_forall_mem_pairsOf.mp h.joined pair hpair
  calc ids.map (exchange stage.collidingIds)
      = ids.map (exchange (pairsOf ids)) := by
        refine List.map_congr_left fun id hid => ?_
        rw [(exchange_filter hsides (decide_eq_true hid)).1, hpairs]
    _ = ids.reverse := map_exchange_pairsOf hnodup

/-- A tick that evaluates the board reverses the queues of every cluster. -/
theorem IsCluster.map_queues {ids : List ActionId} {dt : Float32}
    (h : (stage.tick dt).1.IsCluster ids) (horderly : stage.OrderlyTabs)
    (hevaluates : (stage.tick dt).1.board.monitor.evaluations ≠
      stage.board.monitor.evaluations) :
    ids.map (fun id => (stage.tick dt).1.queues.script[id]?) =
      (ids.map fun id => stage.queues.script[id]?).reverse := by
  have hawake : (stage.watched dt).isAwake = true := by
    rw [stage.evaluations_tick dt] at hevaluates
    by_contra hasleep
    exact hevaluates (by simp [hasleep])
  have hscript := (queues_tick_of_awake horderly hawake).2.1
  calc ids.map (fun id => (stage.tick dt).1.queues.script[id]?)
      = (ids.map (exchange (stage.tick dt).1.collidingIds)).map
          fun id => stage.queues.script[id]? := by
        rw [List.map_map]
        exact List.map_congr_left fun id _ => hscript id
    _ = (ids.map fun id => stage.queues.script[id]?).reverse := by
        rw [h.map_exchange (horderly.tick dt), List.map_reverse]

/-! ## What stays of the tabs -/

/-- The second stage may come later in a run than the first one: ids that were bound are bound as
before, and tabs are tracked in the same way. -/
structure Continues (stage stage' : Stage) : Prop where
  /-- New bindings were added to the old ones. -/
  bindings : stage.index.bindings.IsSuffix stage'.index.bindings
  /-- Tabs go on following sprites, or not. -/
  follow : stage'.board.monitor.followSprites = stage.board.monitor.followSprites

theorem Continues.trans {stage'' : Stage} (h : stage.Continues stage')
    (h' : stage'.Continues stage'') : stage.Continues stage'' :=
  ⟨h.bindings.trans h'.bindings, h'.follow.trans h.follow⟩

theorem continues_edit {call : Call} (hedit : stage.Edit call stage') : stage.Continues stage' := by
  refine ⟨?_, congrArg (·.followSprites) (monitor_edit hedit)⟩
  cases hedit with
  | addTab sprite => exact List.suffix_cons _ _
  | _ => exact List.suffix_rfl

theorem continues_tick (stage : Stage) (dt : Float32) : stage.Continues (stage.tick dt).1 :=
  ⟨List.suffix_rfl, stage.followSprites_tick dt⟩

theorem continues_performAll (stage : Stage) (calls : List Call) :
    stage.Continues (stage.performAll calls).1 := by
  refine performAll_induction (fun later call h => ?_) calls ⟨List.suffix_rfl, rfl⟩
  refine perform_induction (P := stage.Continues) ?_ ?_ ?_ call h
  · exact fun _ _ _ hedit h => h.trans (continues_edit hedit)
  · exact fun _ _ h => h.trans ⟨List.suffix_rfl, rfl⟩
  · exact fun later dt h => h.trans (later.continues_tick dt)

/-- On reachable stages tabs follow sprites if the settings want it. -/
theorem followSprites_after (settings : Settings) (calls : List Call) :
    (after settings calls).board.monitor.followSprites = settings.followSprites := by
  rw [after_eq_performAll]
  exact ((bare settings).continues_performAll _).follow

/-- All tabs have boxes of the standard size. -/
def StandardSizes (stage : Stage) : Prop := ∀ row ∈ stage.board.rows, row.2.size = .standard

theorem StandardSizes.edit (h : stage.StandardSizes) {call : Call}
    (hedit : stage.Edit call stage') : stage'.StandardSizes := by
  intro row hrow
  rcases mem_rows_edit hedit hrow with ⟨old, _, _, hold, heq⟩ | ⟨sprite, -, rfl⟩
  · rw [heq]
    exact h _ hold
  · rfl

theorem StandardSizes.tick (h : stage.StandardSizes) (dt : Float32) :
    (stage.tick dt).1.StandardSizes := by
  intro row hrow
  obtain ⟨old, _, _, hold, heq, -⟩ := mem_rows_tick hrow
  rw [heq]
  exact h _ hold

theorem standardSizes_after (settings : Settings) (calls : List Call) :
    (after settings calls).StandardSizes := by
  refine after_induction (P := StandardSizes) (fun _ => nofun) ?_ ?_ ?_ settings calls
  · exact fun _ _ _ hedit h => h.edit hedit
  · exact fun _ _ h => h
  · exact fun _ dt h => h.tick dt

/-- Ids go on being joined while their tabs stay where they were. -/
theorem Joined.continues {a b : ActionId} (h : stage.Joined a b) (hlater : stage.Continues stage')
    (horderly : stage.OrderlyTabs) (horderly' : stage'.OrderlyTabs)
    (hsizes : stage.StandardSizes) (hsizes' : stage'.StandardSizes)
    (ha : stage'.tracked? a = stage.tracked? a) (hb : stage'.tracked? b = stage.tracked? b) :
    stage'.Joined a b := by
  obtain ⟨s, hs, t, ht, rfl, rfl, hid, hsprite, p, hp, q, hq, hoverlap⟩ := h
  -- A tab with a position is still on the board if its id has this position later.
  have hstill {tab : Tab} (htab : tab ∈ stage.tabsInOrder) {position : Position}
      (hposition : position ∈ tab.tracked)
      (hsame : stage'.tracked? tab.id = stage.tracked? tab.id) :
      ∃ tab' ∈ stage'.tabsInOrder, tab'.id = tab.id ∧ tab'.sprite = tab.sprite ∧
        position ∈ tab'.tracked ∧ tab'.size = tab.size := by
    have hfound := horderly.tab?_of_mem htab
    obtain ⟨slot, hrow, -⟩ := horderly.tab?_eq_some_iff.mp hfound
    rw [tracked?, tracked?, hfound] at hsame
    obtain ⟨tab', hfound', hposition'⟩ := Option.bind_eq_some_iff.mp (hsame.trans hposition)
    obtain ⟨slot', hrow', hid'⟩ := horderly'.tab?_eq_some_iff.mp hfound'
    have hbound := lookup_eq_some_of_mem horderly'.ids_nodup
      (hlater.bindings.subset (horderly.bound _ hrow).1)
    have hbound' := lookup_eq_some_of_mem horderly'.ids_nodup (horderly'.bound _ hrow').1
    rw [hid', hbound] at hbound'
    have hsprite := congrArg TabBinding.sprite (Option.some.inj hbound')
    refine ⟨tab', ?_, hid', hsprite.symm, hposition', ?_⟩
    · exact horderly'.mem_tabsInOrder.mpr (List.mem_map_of_mem (f := (·.2)) hrow')
    · rw [hsizes' _ hrow', hsizes _ hrow]
  obtain ⟨s', hs', hsid, hssprite, hp', hssize⟩ := hstill hs hp ha
  obtain ⟨t', ht', htid, htsprite, hq', htsize⟩ := hstill ht hq hb
  refine ⟨s', hs', t', ht', hsid, htid, ?_, ?_, p, hp', q, hq', ?_⟩
  · rwa [hsid, htid]
  · rwa [hlater.follow, hssprite, htsprite]
  · rwa [hssize, htsize]

/-- A cluster whose tabs stay where they were goes on being one while no other tab collides with
it. -/
theorem IsCluster.continues {ids : List ActionId} (h : stage.IsCluster ids)
    (hlater : stage.Continues stage') (horderly : stage.OrderlyTabs)
    (horderly' : stage'.OrderlyTabs) (hsizes : stage.StandardSizes)
    (hsizes' : stage'.StandardSizes)
    (hplaces : ∀ id ∈ ids, stage'.tracked? id = stage.tracked? id) (halone : stage'.IsAlone ids) :
    stage'.IsCluster ids where
  ordered := by
    have hids : stage.index.ids.Sublist stage'.index.ids :=
      ((List.reverse_prefix.mpr hlater.bindings).map _).sublist
    exact h.ordered.trans hids
  joined := h.joined.imp_of_mem fun ha hb hjoined =>
    hjoined.continues hlater horderly horderly' hsizes hsizes' (hplaces _ ha) (hplaces _ hb)
  alone := halone

/-! ## Tabs that follow no sprite -/

section Manual

variable {dt : Float32}

/-- Where tabs follow no sprite, a tick changes nothing of them but their marks. -/
private theorem tabs_tick_of_not_follow (hfollow : stage.board.monitor.followSprites = false)
    (dt : Float32) : ∃ f : Tab → Tab,
      (∀ tab, (f tab).id = tab.id ∧ (f tab).tracked = tab.tracked) ∧
      (∀ follow s t, (f s).Collides follow (f t) ↔ s.Collides follow t) ∧
      (∀ id, (stage.tick dt).1.tab? id = (stage.tab? id).map f) ∧
      (stage.tick dt).1.tabsInOrder = stage.tabsInOrder.map f := by
  let f (tab : Tab) : Tab :=
    if (stage.watched dt).isAwake then { tab with touched := false } else tab
  have hf (tab : Tab) : f tab = { tab with touched := (f tab).touched } := by
    simp only [f]
    split
    · rfl
    · rfl
  have hrows : (stage.tick dt).1.board.rows =
      stage.board.rows.map fun row => (row.1, f row.2) := by
    rw [rows_tick, rows_watched, hfollow, List.map_map]
    rfl
  refine ⟨f, fun tab => ?_, fun follow s t => ?_, tab?_of_rows_eq_map rfl hrows,
    tabsInOrder_of_rows_eq_map rfl hrows⟩
  · rw [hf]
    exact ⟨rfl, rfl⟩
  · rw [hf s, hf t]
    exact Iff.rfl

/-- Where tabs follow no sprite, a tick moves none. -/
theorem tracked?_tick_of_not_follow (hfollow : stage.board.monitor.followSprites = false)
    (id : ActionId) : (stage.tick dt).1.tracked? id = stage.tracked? id := by
  obtain ⟨f, hkeeps, -, htab, -⟩ := tabs_tick_of_not_follow hfollow dt
  rw [tracked?, tracked?, htab]
  cases stage.tab? id with
  | none => rfl
  | some tab => exact (hkeeps tab).2

/-- Where tabs follow no sprite, they collide in a tick if they did before. -/
theorem joined_tick_iff (hfollow : stage.board.monitor.followSprites = false) {a b : ActionId} :
    (stage.tick dt).1.Joined a b ↔ stage.Joined a b := by
  obtain ⟨f, hkeeps, hcollides, -, htabs⟩ := tabs_tick_of_not_follow hfollow dt
  simp only [Joined, htabs, List.mem_map, exists_exists_and_eq_and, hkeeps, hcollides,
    followSprites_tick]

/-- Where tabs follow no sprite, the clusters of a tick are those that there were before. -/
theorem isCluster_tick_iff (hfollow : stage.board.monitor.followSprites = false)
    {ids : List ActionId} : (stage.tick dt).1.IsCluster ids ↔ stage.IsCluster ids := by
  obtain ⟨f, hkeeps, -, -, htabs⟩ := tabs_tick_of_not_follow hfollow dt
  have halone : (stage.tick dt).1.IsAlone ids ↔ stage.IsAlone ids := by
    simp only [IsAlone, htabs, List.forall_mem_map, hkeeps, joined_tick_iff hfollow]
  have hjoined : ids.Pairwise (stage.tick dt).1.Joined ↔ ids.Pairwise stage.Joined :=
    List.Pairwise.iff fun _ _ => joined_tick_iff hfollow
  exact ⟨fun ⟨ordered, joined, alone⟩ => ⟨ordered, hjoined.mp joined, halone.mp alone⟩,
    fun ⟨ordered, joined, alone⟩ => ⟨ordered, hjoined.mpr joined, halone.mpr alone⟩⟩

/-- A command that is appended to a queue after a tick makes the next tick evaluate the board. Where
tabs follow no sprite, it changes neither other queues nor where tabs are, and clusters stay. -/
theorem append_between_ticks (hfollow : stage.board.monitor.followSprites = false)
    (dt dt' : Float32) (id : ActionId) (command : String) {ids : List ActionId}
    (hid : id ∉ ids) (hcluster : (stage.tick dt).1.IsCluster ids) :
    let earlier := (stage.tick dt).1
    let later := (earlier.performAll [.append id command]).1
    (later.tick dt').1.board.monitor.evaluations ≠ later.board.monitor.evaluations ∧
    (∀ a ∈ ids, later.queues.script[a]? = earlier.queues.script[a]?) ∧
    (∀ a ∈ ids, (later.tick dt').1.tracked? a = earlier.tracked? a) ∧
    (later.tick dt').1.IsAlone ids := by
  intro earlier later
  have hfollow' : later.board.monitor.followSprites = false :=
    (stage.followSprites_tick dt).trans hfollow
  have hqueues : later.queues = earlier.queues.append id command := by simp [later]
  have hawake : later.board.isAwake = true := by
    -- The monitor has seen the revision that the queues had before.
    have hseen := (Board.isAwake_eq_false_iff.mp (stage.watched dt).isAwake_pass).1
    rw [← board_tick] at hseen
    have hmonitor : later.board.monitor = earlier.board.monitor := rfl
    have hrevision : later.board.queues.revision = earlier.board.queues.revision + 1 :=
      (congrArg Queues.revision hqueues).trans (Queues.revision_append _ _ _)
    rw [← Bool.not_eq_false, Board.isAwake_eq_false_iff, hmonitor, hrevision, hseen]
    simp [earlier]
  refine ⟨?_, fun a ha => ?_, fun a _ => tracked?_tick_of_not_follow hfollow' a, ?_⟩
  · have hwatched := (isAwake_watched_iff later dt').mpr (.inl hawake)
    simp [evaluations_tick, hwatched]
  · have hne : id ≠ a := fun heq => hid (heq ▸ ha)
    simp [hqueues, Queues.append, Queues.write, Std.ExtTreeMap.getElem?_insert, hne]
  · have hcluster' : later.IsCluster ids :=
      ⟨hcluster.ordered, hcluster.joined, hcluster.alone⟩
    exact ((isCluster_tick_iff hfollow').mpr hcluster').alone

end Manual

/-! ## Main statement -/

/-- A cluster of tabs has its queues reversed. Take any reachable stage and a tick that evaluates
the board, and some tabs of which any two collide in that tick while none collides with another tab:
whatever else collides, the tick leaves each of them with the queue of the tab opposite to it by
creation. And whatever is called afterwards, if the queues of these tabs stay what they are then,
the next tick that evaluates the board and finds the tabs where they were, still colliding with no
other tab, gives all of them back the queues that they had at first. -/
theorem cluster_queues_reversed (settings : Settings) (calls : List Call) (dt : Float32)
    (ids : List ActionId) :
    let before := after settings calls
    let reversed := (before.tick dt).1
    reversed.board.monitor.evaluations ≠ before.board.monitor.evaluations →
    reversed.IsCluster ids →
    ids.map (fun id => reversed.queues.script[id]?) =
      (ids.map fun id => before.queues.script[id]?).reverse ∧
    ∀ (more : List Call) (dt' : Float32),
      let later := (reversed.performAll more).1
      let restored := (later.tick dt').1
      restored.board.monitor.evaluations ≠ later.board.monitor.evaluations →
      (∀ id ∈ ids, later.queues.script[id]? = reversed.queues.script[id]?) →
      (∀ id ∈ ids, restored.tracked? id = reversed.tracked? id) →
      restored.IsAlone ids →
      ∀ id ∈ ids, restored.queues.script[id]? = before.queues.script[id]? := by
  intro before reversed hevaluates hcluster
  have horderly := orderlyTabs_after settings calls
  have hreversed := hcluster.map_queues horderly hevaluates
  refine ⟨hreversed, fun more dt' => ?_⟩
  intro later restored hevaluates' hqueues hplaces halone id hid
  have hlater : later = after settings (calls ++ .tick dt :: more) :=
    (after_append settings calls (.tick dt :: more)).symm
  have horderly' : later.OrderlyTabs := hlater ▸ orderlyTabs_after settings _
  have hsizes' : later.StandardSizes := hlater ▸ standardSizes_after settings _
  have hcluster' : restored.IsCluster ids :=
    hcluster.continues ((reversed.continues_performAll more).trans (later.continues_tick dt'))
      (horderly.tick dt) (horderly'.tick dt') ((standardSizes_after settings calls).tick dt)
      (hsizes'.tick dt') hplaces halone
  have hrestored := hcluster'.map_queues horderly' hevaluates'
  -- Reversing twice gives back what was there.
  have hsame : ids.map (fun id => restored.queues.script[id]?) =
      ids.map fun id => before.queues.script[id]? := by
    rw [hrestored, List.map_congr_left hqueues, hreversed, List.reverse_reverse]
  exact List.map_inj_left.mp hsame id hid

/-- Three tabs of the cat lie on each other, and the first and the last of them have each other's
queue until an edit elsewhere makes the monitor look again. -/
theorem three_tabs_exchange_and_restore :
    let calls : List Call := [.addTabFor ⟨1⟩, .addTabFor ⟨1⟩, .append ⟨"1"⟩ "Turn Left",
      .append ⟨"1-3"⟩ "Turn Right", .track ⟨"1"⟩ (some ⟨0, 0⟩), .track ⟨"1-2"⟩ (some ⟨10, 10⟩),
      .track ⟨"1-3"⟩ (some ⟨20, 20⟩)]
    let ids : List ActionId := [⟨"1"⟩, ⟨"1-2"⟩, ⟨"1-3"⟩]
    let before := after {} calls
    let reversed := (before.tick 1).1
    let later := (reversed.performAll [.append ⟨"notes"⟩ "Turn Left"]).1
    let restored := (later.tick 1).1
    reversed.board.monitor.evaluations ≠ before.board.monitor.evaluations ∧
    reversed.IsCluster ids ∧
    restored.board.monitor.evaluations ≠ later.board.monitor.evaluations ∧
    (∀ id ∈ ids, later.queues.script[id]? = reversed.queues.script[id]?) ∧
    (∀ id ∈ ids, restored.tracked? id = reversed.tracked? id) ∧
    restored.IsAlone ids ∧
    ids.map (fun id => reversed.queues.script[id]?) =
      (ids.map fun id => before.queues.script[id]?).reverse ∧
    ∀ id ∈ ids, restored.queues.script[id]? = before.queues.script[id]? := by
  intro calls ids before reversed later restored
  have hfollow : before.board.monitor.followSprites = false := by decide +kernel
  have hevaluates : reversed.board.monitor.evaluations ≠ before.board.monitor.evaluations := by
    have hawake : (before.watched 1).isAwake = true := by decide +kernel
    simp [reversed, evaluations_tick, hawake]
  have hcluster : reversed.IsCluster ids := (isCluster_tick_iff hfollow).mpr (by decide +kernel)
  obtain ⟨hevaluates', hqueues, hplaces, halone⟩ :=
    append_between_ticks hfollow 1 1 ⟨"notes"⟩ "Turn Left" (by decide) hcluster
  obtain ⟨hreversed, hrestored⟩ := cluster_queues_reversed {} calls 1 ids hevaluates hcluster
  exact ⟨hevaluates, hcluster, hevaluates', hqueues, hplaces, halone, hreversed,
    hrestored _ 1 hevaluates' hqueues hplaces halone⟩

end Stage

end SpriteStage
