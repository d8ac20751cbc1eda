import SpriteStage.Proofs.Stage.Clusters

/-!
# Tracked positions

Every id is tracked at the position that stands in the row of its tab. Of all calls, only one writes
to such a row, and only one takes it away; edits of other tabs leave it where it was, although they
may move it to another row. The module introduces:

* `OrderlyTabs.tracked?_eq_some_iff`: where the tracked position of an id stands;
* `tracked?_edit`: which edits change it, and `tracked?_performAll`: a run without them does not;
* `tracked?_perform_track`: what the call that writes it does;
* `tracked?_perform`: which calls do, on a stage where tabs do not follow sprites.
-/

namespace SpriteStage

namespace Stage

variable {stage stage' : Stage}

/-- An id is tracked at the position of its row. -/
theorem OrderlyTabs.tracked?_eq_some_iff (h : stage.OrderlyTabs) {id : ActionId}
    {position : Position} :
    stage.tracked? id = some position ↔
      ∃ row ∈ stage.board.rows, row.2.id = id ∧ row.2.tracked = some position := by
  rw [tracked?, Option.bind_eq_bind, Option.bind_eq_some_iff]
  simp only [h.tab?_eq_some_iff]
  constructor
  · rintro ⟨tab, ⟨slot, hrow, hid⟩, htracked⟩
    exact ⟨(slot, tab), hrow, hid, htracked⟩
  · rintro ⟨⟨slot, tab⟩, hrow, hid, htracked⟩
    exact ⟨tab, ⟨slot, hrow, hid⟩, htracked⟩

/-- The row of an id has its tracked position. -/
theorem OrderlyTabs.tracked?_of_mem (h : stage.OrderlyTabs) {id : ActionId} {slot : Nat} {tab : Tab}
    (hrow : (slot, tab) ∈ stage.board.rows) (hid : tab.id = id) :
    stage.tracked? id = tab.tracked := by
  rw [tracked?, h.tab?_eq_some_iff.mpr ⟨slot, hrow, hid⟩]
  rfl

/-- Rows that agree but for tabs without a position, or of other ids, track an id alike. -/
theorem tracked?_eq_of_rows (h : stage.OrderlyTabs) (h' : stage'.OrderlyTabs) {id : ActionId}
    (hrows : ∀ row : Nat × Tab, row.2.id = id → row.2.tracked ≠ none →
      (row ∈ stage'.board.rows ↔ row ∈ stage.board.rows)) :
    stage'.tracked? id = stage.tracked? id := by
  refine Option.ext fun position => ?_
  rw [h.tracked?_eq_some_iff, h'.tracked?_eq_some_iff]
  refine exists_congr fun row => and_congr_left fun ⟨hid, htracked⟩ => hrows row hid ?_
  rw [htracked]
  exact Option.some_ne_none position

/-- The row that is written to is the one of the id. -/
theorem OrderlyTabs.id_of_slotOf? (h : stage.OrderlyTabs) {id : ActionId} {slot : Nat} {tab : Tab}
    (hslot : stage.index.slotOf? id = some slot) (hrow : (slot, tab) ∈ stage.board.rows) :
    tab.id = id := by
  have htab : stage.tab? id = some tab := by
    rw [tab?, hslot]
    exact lookup_eq_some_of_mem h.rows_nodup hrow
  obtain ⟨_, -, hid⟩ := h.tab?_eq_some_iff.mp htab
  exact hid

/-- A row after a write to a slot was there before, or is the one that was written to. -/
theorem mem_rows_modify_iff {board : Board} {slot : Nat} {f : Tab → Tab} {row : Nat × Tab} :
    row ∈ (board.modify slot f).rows ↔
      ∃ tab, (row.1, tab) ∈ board.rows ∧ row.2 = if row.1 = slot then f tab else tab := by
  refine List.mem_map.trans ⟨?_, ?_⟩
  · rintro ⟨⟨s, tab⟩, hrow, rfl⟩
    exact ⟨tab, hrow, rfl⟩
  · rintro ⟨tab, hrow, heq⟩
    exact ⟨_, hrow, Prod.ext rfl heq.symm⟩

/-- A tab that is taken away takes no other row along. -/
theorem mem_rows_remove?_iff {board board' : Board} {slot : Nat}
    (hnodup : (board.rows.map (·.1)).Nodup) (hboard : board.remove? slot = some board')
    (row : Nat × Tab) : row ∈ board'.rows ↔ row ∈ board.rows ∧ row.1 ≠ slot := by
  obtain ⟨taken, htaken, hslot⟩ : ∃ taken ∈ board.rows, taken.1 = slot := by
    cases htab : board.tab? slot with
    | none => simp [Board.remove?, htab] at hboard
    | some tab => exact ⟨(slot, tab), mem_of_lookup_eq_some htab, rfl⟩
  obtain ⟨last, hrows, rfl⟩ := rows_remove? hboard
  rw [hrows, List.map_append] at hnodup
  have hother {row : Nat × Tab} (hrow : row ∈ board.rows.dropLast) : row.1 ≠ last.1 :=
    (List.nodup_append.mp hnodup).2.2 _ (List.mem_map_of_mem hrow) _ (List.mem_singleton_self _)
  rw [hrows, List.mem_append, List.mem_singleton] at htaken
  rw [hrows, List.mem_map, List.mem_append, List.mem_singleton, ← hrows]
  constructor
  · rintro ⟨old, hold, rfl⟩
    split
    · next heq => exact ⟨.inr rfl, fun hlast => hother hold (heq.trans hlast.symm)⟩
    · next hne => exact ⟨.inl hold, hne⟩
  · rintro ⟨hrow | rfl, hne⟩
    · exact ⟨row, hrow, if_neg hne⟩
    · -- The last row fills the gap that another row has left.
      exact ⟨taken, htaken.resolve_right fun heq => hne (heq ▸ hslot), if_pos hslot⟩

/-- Where a tab was taken away, none is found any more. -/
theorem tab?_remove? {board board' : Board} {slot : Nat}
    (hnodup : (board.rows.map (·.1)).Nodup) (hboard : board.remove? slot = some board') :
    board'.tab? slot = none := by
  refine Option.eq_none_iff_forall_ne_some.mpr fun tab htab => ?_
  have hrow := (mem_rows_remove?_iff hnodup hboard (slot, tab)).mp (mem_of_lookup_eq_some htab)
  exact hrow.2 rfl

/-- Tracking an id leaves the rows of all other ids as they are. -/
theorem OrderlyTabs.mem_rows_track_iff (h : stage.OrderlyTabs) {target : ActionId} {slot : Nat}
    (hslot : stage.index.slotOf? target = some slot) (position : Option Position)
    {row : Nat × Tab} (hother : row.2.id ≠ target) :
    row ∈ (stage.board.modify slot (·.track position)).rows ↔ row ∈ stage.board.rows := by
  refine mem_rows_modify_iff.trans ⟨?_, fun hrow => ⟨row.2, hrow, ?_⟩⟩
  · rintro ⟨old, hold, heq⟩
    split at heq
    · next hwritten =>
      -- The row that is written to keeps the id that it had, which is the tracked one.
      rw [hwritten] at hold
      rw [heq, (track_keeps old position).1] at hother
      exact absurd (h.id_of_slotOf? hslot hold) hother
    · rwa [← heq] at hold
  · have hunwritten : row.1 ≠ slot := fun heq => hother (h.id_of_slotOf? hslot (heq ▸ hrow))
    rw [if_neg hunwritten]

/-- What is written to the row of an id is its tracked position, and that of no other id. -/
theorem OrderlyTabs.tracked?_modify (h : stage.OrderlyTabs) {target : ActionId} {slot : Nat}
    {tab : Tab} (hslot : stage.index.slotOf? target = some slot)
    (htab : stage.board.tab? slot = some tab) (position : Option Position) (id : ActionId) :
    tracked? { stage with board := stage.board.modify slot (·.track position) } id =
      if id = target then position else stage.tracked? id := by
  have h' := h.edit (.track position hslot htab)
  split
  · next hid =>
    subst hid
    have hrow : (slot, tab) ∈ stage.board.rows := mem_of_lookup_eq_some htab
    have hwritten := h'.tracked?_of_mem
      (mem_rows_modify_iff.mpr ⟨tab, hrow, (if_pos rfl).symm⟩)
      ((track_keeps tab position).1.trans (h.id_of_slotOf? hslot hrow))
    exact hwritten.trans (tracked_track tab position)
  · next hid =>
    refine tracked?_eq_of_rows h h' fun row hname _ => ?_
    exact h.mem_rows_track_iff hslot position (hname.trans_ne hid)

/-- An edit changes the tracked position of an id only if it tracks it or takes its tab away. -/
theorem tracked?_edit (h : stage.OrderlyTabs) {call : Call} (hedit : stage.Edit call stage')
    (id : ActionId) :
    stage'.tracked? id = stage.tracked? id ∨
      (∃ position, call = .track id position ∧ stage'.tracked? id = position) ∨
      (call = .removeTab id ∧ stage'.tab? id = none) := by
  have h' := h.edit hedit
  cases hedit with
  | refused | addSprite | selectSprite | updateSprite | takeOffSprite | dropRotation | selectTab |
      append | deleteAt | swap => exact .inl rfl
  | addTab sprite =>
    -- The new tab has no position.
    refine .inl (tracked?_eq_of_rows h h' fun row _ htracked => ?_)
    refine List.mem_append.trans (or_iff_left fun hnew => ?_)
    rw [List.mem_singleton.mp hnew] at htracked
    exact htracked rfl
  | @track target slot tab position hslot htab =>
    have htracked := h.tracked?_modify hslot htab position id
    by_cases hid : id = target
    · rw [if_pos hid] at htracked
      exact .inr (.inl ⟨position, hid ▸ rfl, htracked⟩)
    · rw [if_neg hid] at htracked
      exact .inl htracked
  | @removeTab target slot board hslot hboard =>
    by_cases hid : id = target
    · subst hid
      have hgone : Stage.tab? { stage with board } id = none := by
        rw [tab?, hslot]
        exact tab?_remove? h.rows_nodup hboard
      exact .inr (.inr ⟨rfl, hgone⟩)
    · refine .inl (tracked?_eq_of_rows h h' fun row hname _ => ?_)
      refine (mem_rows_remove?_iff h.rows_nodup hboard row).trans (and_iff_left_of_imp ?_)
      exact fun hmem heq => hid (hname.symm.trans (h.id_of_slotOf? hslot (heq ▸ hmem)))

/-- Of the edits in a run, only those that track an id or take its tab away change where it is
tracked. -/
theorem tracked?_performAll (h : stage.OrderlyTabs) {id : ActionId} {calls : List Call}
    (hcalls : ∀ call ∈ calls, call.isEdit = true ∧ (∀ position, call ≠ .track id position) ∧
      call ≠ .removeTab id) : (stage.performAll calls).1.tracked? id = stage.tracked? id := by
  induction calls generalizing stage with
  | nil => rfl
  | cons call calls ih =>
    obtain ⟨hcall, hcalls⟩ := List.forall_mem_cons.mp hcalls
    have hedit := edit_perform stage hcall.1
    refine (ih (h.edit hedit) hcalls).trans ?_
    rcases tracked?_edit h hedit id with hsame | ⟨position, heq, -⟩ | ⟨heq, -⟩
    · exact hsame
    · exact absurd heq (hcall.2.1 position)
    · exact absurd heq hcall.2.2

/-- A call that tracks an id writes to its tab, if there is one, and to no other. -/
theorem tracked?_perform_track (h : stage.OrderlyTabs) (target : ActionId)
    (position : Option Position) (id : ActionId) :
    (stage.perform (.track target position)).stage.tracked? id =
      if id = target ∧ (stage.tab? id).isSome = true then position else stage.tracked? id := by
  rw [perform, attempt, track?]
  cases hslot : stage.index.slotOf? target with
  | none =>
    have hnone : ¬(id = target ∧ (stage.tab? id).isSome = true) := by
      rintro ⟨rfl, htab⟩
      simp [tab?, hslot] at htab
    rw [if_neg hnone]
    rfl
  | some slot =>
    cases htab : stage.board.tab? slot with
    | none =>
      have hnone : ¬(id = target ∧ (stage.tab? id).isSome = true) := by
        rintro ⟨rfl, htab'⟩
        simp [tab?, hslot, htab] at htab'
      rw [if_neg hnone]
      simp [Board.modify?, htab]
    | some tab =>
      have htab' : id = target ∧ (stage.tab? id).isSome = true ↔ id = target := by
        refine and_iff_left_of_imp fun heq => ?_
        simp [tab?, heq, hslot, htab]
      rw [if_congr htab' rfl rfl, ← h.tracked?_modify hslot htab position id]
      simp [Board.modify?, htab]

/-- Without tabs that follow sprites, a call changes the tracked position of an id only if it tracks
it or takes its tab away. -/
theorem tracked?_perform (h : stage.OrderlyTabs)
    (hmanual : stage.board.monitor.followSprites = false) (call : Call) (id : ActionId) :
    (stage.perform call).stage.tracked? id = stage.tracked? id ∨
      (∃ position, call = .track id position ∧
        (stage.perform call).stage.tracked? id = position) ∨
      (call = .removeTab id ∧ (stage.perform call).stage.tab? id = none) := by
  rcases Call.isEdit_or call with hedit | ⟨script, rfl⟩ | ⟨script, rfl⟩ | rfl | ⟨dt, rfl⟩
  · exact tracked?_edit h (edit_perform stage hedit) id
  · exact .inl rfl
  · have hstart : (stage.start script).2.1.board.monitor.followSprites = false := hmanual
    exact .inl (tracked?_tick_of_not_follow hstart id)
  · have hstart : (stage.start stage.queues.script).2.1.board.monitor.followSprites = false :=
      hmanual
    exact .inl (tracked?_tick_of_not_follow hstart id)
  · exact .inl (tracked?_tick_of_not_follow hmanual id)

end Stage

end SpriteStage
