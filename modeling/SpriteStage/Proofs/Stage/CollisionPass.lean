import SpriteStage.Proofs.Stage.Tabs

/-!
# The collision pass of a tick

What the monitor does to the queues in a tick, told by the tabs as they stand after the tick: a tick
that evaluates the board makes one exchange for each colliding pair of tabs, in the order of their
creation, and a tick that does not leaves the queues alone. `tick_permutes_queues` joins this with
what follows from it for each queue.
-/

namespace SpriteStage

open Relation

/-- The ids of a collision that was reported for the first time in its pass. -/
def Event.direct? : Event → Option (ActionId × ActionId)
  | collided collision =>
    if collision.reversed then none else some (collision.first, collision.second)
  | _ => none

/-- The event is a collision. -/
def Event.isCollision : Event → Bool
  | collided _ => true
  | _ => false

/-- Lanes report no collisions. -/
theorem isCollision_close (tracker : Tracker) (time : Float32) (lanes : List Lane) :
    ∀ event ∈ (tracker.close time lanes).2, event.isCollision = false := by
  induction lanes generalizing tracker with
  | nil => exact nofun
  | cons lane lanes ih =>
    intro event hevent
    simp only [Tracker.close, List.cons_append, List.mem_cons, List.mem_append] at hevent
    rcases hevent with rfl | hevent | hevent
    · rfl
    · split at hevent
      · rw [List.mem_singleton.mp hevent]
        rfl
      · cases hevent
    · exact ih _ event hevent

namespace Stage

/-- The pairs of colliding tabs on a stage, in the order of their creation, by their ids. -/
def collidingIds (stage : Stage) : List (ActionId × ActionId) :=
  (collidingPairs stage.board.monitor.followSprites stage.tabsInOrder).map idsOf

/-- Two ids belong to tabs that collide. -/
def Joined (stage : Stage) (a b : ActionId) : Prop :=
  ∃ s ∈ stage.tabsInOrder, ∃ t ∈ stage.tabsInOrder,
    s.id = a ∧ t.id = b ∧ s.Collides stage.board.monitor.followSprites t

theorem Joined.symm {stage : Stage} {a b : ActionId} (h : stage.Joined a b) :
    stage.Joined b a := by
  obtain ⟨s, hs, t, ht, rfl, rfl, hcollides⟩ := h
  exact ⟨t, ht, s, hs, rfl, rfl, hcollides.symm⟩

theorem joined_of_mem_collidingIds {stage : Stage} {pair : ActionId × ActionId}
    (h : pair ∈ stage.collidingIds) : stage.Joined pair.1 pair.2 := by
  obtain ⟨tabs, htabs, rfl⟩ := List.mem_map.mp h
  obtain ⟨hfirst, hsecond, hcollides⟩ := mem_collidingPairs htabs
  exact ⟨tabs.1, hfirst, tabs.2, hsecond, rfl, rfl, hcollides⟩

/-! ## Tabs before and after -/

/-- A change of the tabs in their rows changes what is found under an id. -/
theorem tab?_of_rows_eq_map {stage stage' : Stage} {f : Tab → Tab}
    (hindex : stage'.index = stage.index)
    (hrows : stage'.board.rows = stage.board.rows.map fun row => (row.1, f row.2)) (id : ActionId) :
    stage'.tab? id = (stage.tab? id).map f := by
  have hlookup (slot : Nat) (rows : List (Nat × Tab)) :
      (rows.map fun row => (row.1, f row.2)).lookup slot = (rows.lookup slot).map f := by
    induction rows with
    | nil => rfl
    | cons row rows ih =>
      obtain ⟨s, tab⟩ := row
      by_cases h : slot == s <;> simp [List.lookup_cons, h, ih]
  rw [tab?, tab?, hindex]
  cases stage.index.slotOf? id with
  | none => rfl
  | some slot => exact (congrArg (List.lookup slot) hrows).trans (hlookup slot _)

/-- A change of the tabs in their rows keeps the order of their creation. -/
theorem tabsInOrder_of_rows_eq_map {stage stage' : Stage} {f : Tab → Tab}
    (hindex : stage'.index = stage.index)
    (hrows : stage'.board.rows = stage.board.rows.map fun row => (row.1, f row.2)) :
    stage'.tabsInOrder = stage.tabsInOrder.map f := by
  rw [tabsInOrder, tabsInOrder, hindex, List.map_filterMap]
  exact List.filterMap_congr fun id _ => tab?_of_rows_eq_map hindex hrows id

end Stage

/-- Clearing marks changes no colliding pair. -/
theorem collidingPairs_map_touched (follow : Bool) (tabs : List Tab) :
    (collidingPairs follow (tabs.map ({ · with touched := false }))).map idsOf =
      (collidingPairs follow tabs).map idsOf := by
  rw [collidingPairs, pairsOf_map, List.filter_map, List.map_map]
  rfl

namespace Stage

/-- The stage as the monitor finds it in a tick. -/
private def found (stage : Stage) (dt : Float32) : Stage :=
  { (stage.tick dt).1 with board := stage.watched dt }

private theorem orderlyTabs_found {stage : Stage} (h : stage.OrderlyTabs) (dt : Float32) :
    (stage.found dt).OrderlyTabs := h.watched dt

/-- The direct reports of a tick are those of its pass: lanes report no collisions. -/
theorem direct_tick (stage : Stage) (dt : Float32) :
    (stage.tick dt).2.filterMap Event.direct? =
      ((stage.watched dt).pass.2.filter (!·.reversed)).map fun report =>
        (report.first, report.second) := by
  have hlanes : (stage.performance.tick dt).2.filterMap Event.direct? = [] :=
    List.filterMap_eq_nil_iff.mpr fun event hevent => by
      have := isCollision_close _ _ _ event hevent
      cases event <;> simp_all [Event.isCollision, Event.direct?]
  have hevents (reports : List Collision) :
      (reports.map Event.collided).filterMap Event.direct? =
        (reports.filter (!·.reversed)).map fun report => (report.first, report.second) := by
    induction reports with
    | nil => rfl
    | cons report reports ih =>
      cases hreversed : report.reversed <;> simp_all [Event.direct?]
  rw [events_tick, List.filterMap_append, hlanes, hevents]
  rfl

/-- A tick that finds the board awake makes one exchange for each colliding pair. -/
theorem queues_tick_of_awake {stage : Stage} (h : stage.OrderlyTabs) {dt : Float32}
    (hawake : (stage.watched dt).isAwake = true) :
    (stage.tick dt).2.filterMap Event.direct? = (stage.tick dt).1.collidingIds ∧
      (∀ id : ActionId, (stage.tick dt).1.queues.script[id]? =
        stage.queues.script[exchange (stage.tick dt).1.collidingIds id]?) ∧
      (stage.tick dt).1.queues.revision =
        stage.queues.revision + (stage.tick dt).1.collidingIds.length := by
  have hfound := orderlyTabs_found h dt
  obtain ⟨-, hqueues, hmonitor⟩ := stage.watched_frame dt
  -- Clearing the marks changes neither the tabs in order nor which of them collide.
  have hpairs : (stage.tick dt).1.collidingIds =
      (collidingPairs (stage.watched dt).monitor.followSprites
        (stage.found dt).tabsInOrder).map idsOf := by
    have htabs : (stage.tick dt).1.tabsInOrder =
        (stage.found dt).tabsInOrder.map ({ · with touched := false }) := by
      refine tabsInOrder_of_rows_eq_map rfl ?_
      rw [rows_tick, hawake]
      rfl
    rw [collidingIds, htabs, collidingPairs_map_touched, board_tick, Board.followSprites_pass]
  have hpass := Board.queues_pass hawake hfound.entries_eq fun tab htab => by
    obtain ⟨row, hrow, rfl⟩ := List.mem_map.mp (hfound.mem_tabsInOrder.mp htab)
    exact hfound.queued _ (hfound.bound row hrow).1
  rw [← hpairs, hqueues] at hpass
  obtain ⟨hdirect, hscript, hrevision⟩ := hpass
  refine ⟨?_, hscript, hrevision⟩
  rw [direct_tick, hdirect, List.map_map]
  exact List.map_id _

/-- A tick that finds the board asleep changes nothing on it but tracked positions, and reports no
collision. -/
theorem tick_of_asleep {stage : Stage} {dt : Float32} (h : (stage.watched dt).isAwake = false) :
    (stage.tick dt).1.board = stage.watched dt ∧
      (stage.tick dt).2 = (stage.performance.tick dt).2 := by
  rw [board_tick, events_tick, Board.pass_of_asleep h]
  simp

/-- A tick evaluates the board if it finds it awake. -/
theorem evaluations_tick (stage : Stage) (dt : Float32) :
    (stage.tick dt).1.board.monitor.evaluations =
      stage.board.monitor.evaluations + if (stage.watched dt).isAwake then 1 else 0 := by
  rw [board_tick, Board.evaluations_pass, (stage.watched_frame dt).2.2]

theorem followSprites_tick (stage : Stage) (dt : Float32) :
    (stage.tick dt).1.board.monitor.followSprites = stage.board.monitor.followSprites := by
  rw [board_tick, Board.followSprites_pass, (stage.watched_frame dt).2.2]

/-! ## Main statement -/

/-- The ticks of every run only permute queues. On a reachable stage, a tick keeps the set of
queues. If it evaluates the board, its direct reports are the colliding pairs of tabs by creation,
the queues afterwards come from those before by one exchange for each of these pairs, in that order,
and the revision grows by their number; a queue comes only from an id that a chain of collisions
joins to its new one. If it does not evaluate the board, queues and revision stay. In both cases the
queues are the same as a multiset, and an id keeps its queue if none of its tabs collides. -/
theorem tick_permutes_queues (settings : Settings) (calls : List Call) (dt : Float32) :
    let stage := after settings calls
    let stage' := (stage.tick dt).1
    let pairs := stage'.collidingIds
    (∀ id, stage'.queues.contains id = stage.queues.contains id) ∧
    (stage'.board.monitor.evaluations ≠ stage.board.monitor.evaluations →
      (stage.tick dt).2.filterMap Event.direct? = pairs ∧
      (∀ id : ActionId, stage'.queues.script[id]? = stage.queues.script[exchange pairs id]?) ∧
      stage'.queues.revision = stage.queues.revision + pairs.length ∧
      ∀ id, ReflTransGen stage'.Joined (exchange pairs id) id) ∧
    (stage'.board.monitor.evaluations = stage.board.monitor.evaluations →
      stage'.queues = stage.queues) ∧
    (stage'.queues.script.toList.map (·.2)).Perm (stage.queues.script.toList.map (·.2)) ∧
    ∀ id : ActionId, (∀ other, ¬ stage'.Joined id other) →
      stage'.queues.script[id]? = stage.queues.script[id]? := by
  intro stage stage' pairs
  have hcount := stage.evaluations_tick dt
  refine ⟨stage.contains_tick dt, ?_⟩
  cases hawake : (stage.watched dt).isAwake with
  | false =>
    have hsame : stage'.queues = stage.queues := by
      rw [queues, (tick_of_asleep hawake).1, (stage.watched_frame dt).2.1]
      rfl
    have hevaluations : stage'.board.monitor.evaluations = stage.board.monitor.evaluations := by
      simpa [hawake] using hcount
    refine ⟨fun hne => absurd hevaluations hne, fun _ => hsame, ?_, fun id _ => ?_⟩
    · rw [hsame]
    · rw [hsame]
  | true =>
    obtain ⟨hdirect, hscript, hrevision⟩ :=
      queues_tick_of_awake (orderlyTabs_after settings calls) hawake
    have hevaluations : stage'.board.monitor.evaluations ≠ stage.board.monitor.evaluations := by
      simp [stage', hcount, hawake]
    have hjoined : ∀ pair ∈ pairs, stage'.Joined pair.1 pair.2 ∧ stage'.Joined pair.2 pair.1 :=
      fun pair hpair =>
        ⟨joined_of_mem_collidingIds hpair, (joined_of_mem_collidingIds hpair).symm⟩
    refine ⟨fun _ => ⟨hdirect, hscript, hrevision, reflTransGen_exchange hjoined⟩,
      fun heq => absurd heq hevaluations, perm_queues_of_exchange _ hscript, fun id hid => ?_⟩
    -- An id in one of the pairs belongs to a tab that collides.
    have hkept : exchange pairs id = id := by
      refine exchange_of_not_mem fun pair hpair => ⟨?_, ?_⟩
      · rintro rfl
        exact hid _ (hjoined pair hpair).1
      · rintro rfl
        exact hid _ (hjoined pair hpair).2
    rw [hscript, hkept]

end Stage

end SpriteStage
