import Mathlib.Data.List.Induction
import SpriteStage.Proofs.Stage.CollisionPass

/-!
# What wakes the monitor

The monitor is woken by marks on tabs and by the revision of the queues, and after each tick both
are quiet. Between two ticks they hold exactly the changes that were made:

* `SinceLastTick calls P` says that a call with `P` was made after the last tick among `calls`;
* `Stage.TabChanged` says that a tab was added, or tracked at another position;
* `touched_edit` and `revision_edit` say what one edit adds to marks and revision;
* `revision_since_tick` and `touched_since_tick` carry this through a run, and
  `evaluates_iff_changed` concludes when a tick evaluates the board.
-/

namespace SpriteStage

/-! ## Calls since the last tick -/

/-- After the last of `calls` in which time passed, a call was made that has a property, given the
calls before it. -/
def SinceLastTick (calls : List Call) (P : List Call → Call → Prop) : Prop :=
  ∃ before call later, calls = before ++ call :: later ∧
    (∀ c ∈ call :: later, c.passesTime = false) ∧ P before call

/-- Of a sequence that ends with a call, either this call counts or one of those before. -/
theorem sinceLastTick_concat {calls : List Call} {call : Call} {P : List Call → Call → Prop} :
    SinceLastTick (calls ++ [call]) P ↔
      call.passesTime = false ∧ (SinceLastTick calls P ∨ P calls call) := by
  constructor
  · -- The call that counts is the last one, or the last one comes after it.
    rintro ⟨before, found, later, heq, hquiet, hP⟩
    rcases List.eq_nil_or_concat later with rfl | ⟨later, last, rfl⟩
    · obtain ⟨rfl, hlast⟩ := List.append_inj' heq rfl
      cases hlast
      exact ⟨hquiet call (.head _), .inr hP⟩
    · rw [List.concat_eq_append] at heq hquiet
      have hsplit : calls ++ [call] = (before ++ found :: later) ++ [last] := by simpa using heq
      obtain ⟨rfl, hlast⟩ := List.append_inj' hsplit rfl
      cases hlast
      refine ⟨hquiet call (by simp), .inl ⟨before, found, later, rfl, fun c hc => ?_, hP⟩⟩
      exact hquiet c (List.mem_append_left [call] hc)
  · rintro ⟨hcall, ⟨before, found, later, rfl, hquiet, hP⟩ | hP⟩
    · refine ⟨before, found, later ++ [call], by simp, fun c hc => ?_, hP⟩
      rw [← List.cons_append, List.mem_append, List.mem_singleton] at hc
      rcases hc with hc | rfl
      · exact hquiet c hc
      · exact hcall
    · exact ⟨calls, call, [], rfl, by simpa using hcall, hP⟩

namespace Stage

variable {stage stage' : Stage} {call : Call}

/-- From one stage to another, a tab was added under an id, or its tracked position became another
one. -/
def TabChanged (stage stage' : Stage) (id : ActionId) : Prop :=
  (∃ tab tab', stage.tab? id = some tab ∧ stage'.tab? id = some tab' ∧
    tab.tracked ≠ tab'.tracked) ∨
  (stage.tab? id = none ∧ (stage'.tab? id).isSome = true)

/-! ## What an edit adds -/

theorem monitor_edit (hedit : stage.Edit call stage') :
    stage'.board.monitor = stage.board.monitor := by
  cases hedit with
  | removeTab _ hboard =>
    obtain ⟨_, -, rfl⟩ := rows_remove? hboard
    rfl
  | _ => rfl

/-- The revision never falls. -/
theorem revision_edit (hedit : stage.Edit call stage') :
    stage.queues.revision ≤ stage'.queues.revision := by
  cases hedit with
  | addTab sprite =>
    rw [queues_withTab, Queues.ensure]
    split
    · exact le_rfl
    · exact Nat.le_succ _
  | append => exact Nat.le_succ _
  | deleteAt hqueues =>
    simp only [Queues.deleteAt?, Option.ite_none_right_eq_some, Option.some.injEq] at hqueues
    obtain ⟨-, rfl⟩ := hqueues
    exact Nat.le_succ _
  | swap hqueues =>
    simp only [Queues.swap?, Option.ite_none_right_eq_some, Option.some.injEq] at hqueues
    obtain ⟨-, rfl⟩ := hqueues
    exact Nat.le_succ _
  | removeTab _ hboard =>
    obtain ⟨_, -, rfl⟩ := rows_remove? hboard
    exact le_rfl
  | _ => exact le_rfl

/-- A write marks a tab exactly if it changes the position. -/
theorem touched_track (tab : Tab) (position : Option Position) :
    (tab.track position).touched = true ↔
      tab.touched = true ∨ tab.tracked ≠ (tab.track position).tracked := by
  rw [Tab.track]
  split
  · simp
  · next hne => simpa [Tab.write] using .inr hne

theorem tracked_track (tab : Tab) (position : Option Position) :
    (tab.track position).tracked = position := by
  rw [track_eq]

/-- A tab after an edit was there before, marked already or marked for its new position, or it is
new, and then marked. -/
private theorem tab_before_edit (h : stage.OrderlyTabs) (hedit : stage.Edit call stage')
    {id : ActionId} {tab' : Tab} (htab' : stage'.tab? id = some tab') :
    (∃ tab, stage.tab? id = some tab ∧
      (tab'.touched = true ↔ tab.touched = true ∨ tab.tracked ≠ tab'.tracked)) ∨
    stage.tab? id = none ∧ tab'.touched = true := by
  have hsame (htab : stage.tab? id = some tab') : ∃ tab, stage.tab? id = some tab ∧
      (tab'.touched = true ↔ tab.touched = true ∨ tab.tracked ≠ tab'.tracked) :=
    ⟨tab', htab, by simp⟩
  obtain ⟨slot, hrow, hid⟩ := (h.edit hedit).tab?_eq_some_iff.mp htab'
  -- Only three edits touch rows: one adds a row, one writes to a row, one takes a row away.
  cases hedit with
  | refused | addSprite | selectSprite | updateSprite | takeOffSprite | dropRotation | selectTab |
      append | deleteAt | swap => exact .inl (hsame htab')
  | addTab sprite =>
    rcases List.mem_append.mp hrow with hrow | hrow
    · exact .inl (hsame (h.tab?_eq_some_iff.mpr ⟨slot, hrow, hid⟩))
    · have hnew : tab' = stage.nextTab sprite := congrArg (·.2) (List.mem_singleton.mp hrow)
      refine .inr ⟨?_, by rw [hnew]; rfl⟩
      rw [Option.eq_none_iff_forall_ne_some]
      intro tab htab
      obtain ⟨s, hold, heq⟩ := h.tab?_eq_some_iff.mp htab
      rw [hnew] at hid
      exact h.nextTab_fresh sprite
        (List.mem_map.mpr ⟨_, (h.bound (s, tab) hold).1, heq.trans hid.symm⟩)
  | @track _ target _ position _ _ =>
    obtain ⟨⟨s, tab⟩, htab, heq⟩ := List.mem_map.mp hrow
    obtain ⟨rfl, rfl⟩ := Prod.mk.inj heq
    refine .inl ⟨tab, h.tab?_eq_some_iff.mpr ⟨s, htab, ?_⟩, ?_⟩
    · rw [← hid]
      split
      · exact (track_keeps tab position).1.symm
      · rfl
    · split
      · exact touched_track tab position
      · simp
  | removeTab _ hboard =>
    obtain ⟨last, hrows, rfl⟩ := rows_remove? hboard
    obtain ⟨old, hold, heq⟩ := List.mem_map.mp hrow
    refine .inl (hsame (h.tab?_eq_some_iff.mpr ⟨slot, ?_, hid⟩))
    rw [hrows, List.mem_append, List.mem_singleton]
    split at heq
    · exact .inr heq.symm
    · exact .inl (heq ▸ hold)

/-- After an edit a tab is marked if it was marked before, or if the edit changed it. -/
theorem touched_edit (h : stage.OrderlyTabs) (hedit : stage.Edit call stage') {id : ActionId}
    {tab' : Tab} (htab' : stage'.tab? id = some tab') :
    tab'.touched = true ↔
      (∃ tab, stage.tab? id = some tab ∧ tab.touched = true) ∨ stage.TabChanged stage' id := by
  rcases tab_before_edit h hedit htab' with ⟨tab, htab, hmark⟩ | ⟨hnone, hmark⟩
  · simp [TabChanged, htab, htab', hmark]
  · simp [TabChanged, hnone, htab', hmark]

/-- A tab stays on the board until it is taken off. -/
theorem isSome_tab?_edit (h : stage.OrderlyTabs) (hedit : stage.Edit call stage')
    (hcall : ∀ id, call ≠ .removeTab id) {id : ActionId} (hid : (stage.tab? id).isSome = true) :
    (stage'.tab? id).isSome = true := by
  obtain ⟨tab, htab⟩ := Option.isSome_iff_exists.mp hid
  obtain ⟨slot, hrow, hname⟩ := h.tab?_eq_some_iff.mp htab
  have hfound {tab' : Tab} (hrow' : (slot, tab') ∈ stage'.board.rows) (hname' : tab'.id = id) :
      (stage'.tab? id).isSome = true :=
    Option.isSome_iff_exists.mpr ⟨_, (h.edit hedit).tab?_eq_some_iff.mpr ⟨slot, hrow', hname'⟩⟩
  cases hedit with
  | addTab => exact hfound (List.mem_append_left _ hrow) hname
  | track position =>
    refine hfound (List.mem_map.mpr ⟨_, hrow, rfl⟩) ?_
    split
    · exact (track_keeps tab position).1.trans hname
    · exact hname
  | removeTab => exact absurd rfl (hcall _)
  | _ => exact hid

/-! ## Calls with and without time -/

/-- A call in which no time passes leaves the monitor alone. -/
theorem monitor_perform_of_quiet (stage : Stage) (hcall : call.passesTime = false) :
    (stage.perform call).stage.board.monitor = stage.board.monitor := by
  rcases Call.isEdit_or_start hcall with hedit | ⟨script, rfl⟩
  · exact monitor_edit (edit_perform stage hedit)
  · rfl

/-- A call in which no time passes never lowers the revision, and marks the tabs that it changes. -/
theorem changes_perform_of_quiet (h : stage.OrderlyTabs)
    (hcall : call.passesTime = false) :
    stage.queues.revision ≤ (stage.perform call).stage.queues.revision ∧
      ∀ id tab', (stage.perform call).stage.tab? id = some tab' →
        (tab'.touched = true ↔ (∃ tab, stage.tab? id = some tab ∧ tab.touched = true) ∨
          stage.TabChanged (stage.perform call).stage id) := by
  rcases Call.isEdit_or_start hcall with hedit | ⟨script, rfl⟩
  · have hedit := edit_perform stage hedit
    exact ⟨revision_edit hedit, fun id tab' htab' => touched_edit h hedit htab'⟩
  · -- An opening does not touch the board.
    refine ⟨le_rfl, fun id tab' htab' => ?_⟩
    have htab : stage.tab? id = some tab' := htab'
    simp [TabChanged, htab]

/-- A call in which time passes ends with one tick, and before it touches neither board nor index.
All collisions that it reports are reported by the tick. -/
theorem perform_of_passesTime (stage : Stage) (hcall : call.passesTime = true) :
    ∃ (opened : Stage) (dt : Float32), opened.board = stage.board ∧ opened.index = stage.index ∧
      (stage.perform call).stage = (opened.tick dt).1 ∧
      ∀ event : Event, event.isCollision = true →
        (event ∈ (stage.perform call).events ↔ event ∈ (opened.tick dt).2) := by
  -- All that an opening may report is that its playback is over.
  have hplay (script : Script) : ∀ event : Event, event.isCollision = true →
      (event ∈ (stage.playScript script).2.2 ↔ event ∈ ((stage.start script).2.1.tick 0).2) := by
    intro event hcollision
    rw [playScript_eq, List.mem_append]
    refine or_iff_right fun hopening => ?_
    simp only [start, Performance.start] at hopening
    split at hopening
    · rw [List.mem_singleton.mp hopening] at hcollision
      cases hcollision
    · cases hopening
  cases call with
  | tick dt => exact ⟨stage, dt, rfl, rfl, rfl, fun event _ => Iff.rfl⟩
  | play => exact ⟨(stage.start stage.queues.script).2.1, 0, rfl, rfl, rfl, hplay _⟩
  | playScript script => exact ⟨(stage.start script).2.1, 0, rfl, rfl, rfl, hplay script⟩
  | _ => cases hcall

/-! ## Runs -/

/-- The call changed the queues. -/
def BumpedBy (settings : Settings) (before : List Call) (call : Call) : Prop :=
  ((after settings before).perform call).stage.queues.revision ≠
    (after settings before).queues.revision

/-- The call added a tab under an id, or changed its tracked position. -/
def TabChangedBy (settings : Settings) (id : ActionId) (before : List Call) (call : Call) : Prop :=
  (after settings before).TabChanged ((after settings before).perform call).stage id

variable {settings : Settings} {calls : List Call}

/-- Before the first tick, the monitor has seen no revision. -/
theorem seenRevision_after_of_quiet (h : ∀ call ∈ calls, call.passesTime = false) :
    (after settings calls).board.monitor.seenRevision = none := by
  have hquiet (stage : Stage) (calls : List Call) (h : ∀ call ∈ calls, call.passesTime = false) :
      (stage.performAll calls).1.board.monitor = stage.board.monitor := by
    induction calls generalizing stage with
    | nil => rfl
    | cons call calls ih =>
      exact (ih _ fun c hc => h c (.tail _ hc)).trans
        (monitor_perform_of_quiet stage (h call (.head _)))
  rw [after, hquiet _ _ h, new_eq_performAll,
    hquiet _ _ fun call hcall => Call.passesTime_of_isEdit (isEdit_of_mem_setup hcall)]
  rfl

/-- Every tick leaves the monitor with the revision that the queues have. -/
theorem isAwake_perform_of_passesTime (stage : Stage)
    (hcall : call.passesTime = true) : (stage.perform call).stage.board.isAwake = false := by
  obtain ⟨opened, dt, -, -, htick, -⟩ := stage.perform_of_passesTime hcall
  rw [htick, board_tick]
  exact Board.isAwake_pass _

private theorem ticked_of_concat (h : ∃ c ∈ calls ++ [call], c.passesTime = true)
    (hcall : call.passesTime = false) : ∃ c ∈ calls, c.passesTime = true := by
  obtain ⟨c, hc, htime⟩ := h
  rcases List.mem_append.mp hc with hc | hc
  · exact ⟨c, hc, htime⟩
  · rw [List.mem_singleton.mp hc, hcall] at htime
    cases htime

/-- After a tick, the monitor remembers a revision that the queues have unless a call changed them
since. -/
theorem revision_since_tick (h : ∃ call ∈ calls, call.passesTime = true) :
    ∃ seen, (after settings calls).board.monitor.seenRevision = some seen ∧
      seen ≤ (after settings calls).queues.revision ∧
      (seen ≠ (after settings calls).queues.revision ↔
        SinceLastTick calls (BumpedBy settings)) := by
  induction calls using List.reverseRecOn with
  | nil => simp at h
  | append_singleton calls call ih =>
    -- A tick resets both sides; any other call adds to both.
    rw [after_concat, sinceLastTick_concat]
    cases hcall : call.passesTime with
    | true =>
      have hasleep := isAwake_perform_of_passesTime (after settings calls) hcall
      exact ⟨_, (Board.isAwake_eq_false_iff.mp hasleep).1, le_rfl, by simp [queues]⟩
    | false =>
      obtain ⟨seen, hseen, hle, hiff⟩ := ih (ticked_of_concat h hcall)
      have hmono := (changes_perform_of_quiet (orderlyTabs_after settings calls) hcall).1
      refine ⟨seen, ?_, hle.trans hmono, ?_⟩
      · rw [monitor_perform_of_quiet _ hcall, hseen]
      · simp only [true_and, ← hiff, BumpedBy]
        omega

/-- After a tick, a tab is marked exactly if a call changed it since. -/
theorem touched_since_tick (h : ∃ call ∈ calls, call.passesTime = true) {id : ActionId} {tab : Tab}
    (htab : (after settings calls).tab? id = some tab) :
    tab.touched = true ↔ SinceLastTick calls (TabChangedBy settings id) := by
  induction calls using List.reverseRecOn generalizing tab with
  | nil => simp at h
  | append_singleton calls call ih =>
    have horderly := orderlyTabs_after settings (calls ++ [call])
    rw [sinceLastTick_concat]
    cases hcall : call.passesTime with
    | true =>
      obtain ⟨slot, hrow, -⟩ := horderly.tab?_eq_some_iff.mp htab
      have hasleep := isAwake_perform_of_passesTime (after settings calls) hcall
      rw [← after_concat] at hasleep
      have huntouched : tab.touched = false :=
        (Board.isAwake_eq_false_iff.mp hasleep).2 (slot, tab) hrow
      simp [huntouched]
    | false =>
      -- A tab that was there before has its earlier mark; one that was not is new, and changed now.
      rw [after_concat] at htab
      have hmarked :=
        (changes_perform_of_quiet (orderlyTabs_after settings calls) hcall).2 id tab htab
      rw [hmarked]
      simp only [true_and, TabChangedBy]
      cases hold : (after settings calls).tab? id with
      | none =>
        have hnew : (after settings calls).TabChanged ((after settings calls).perform call).stage
            id := .inr ⟨hold, by simp [htab]⟩
        simp [hnew]
      | some old => simp [← ih (ticked_of_concat h hcall) hold]

/-- Where no tab is taken off the board, the tabs that were changed since the last tick are still
there. -/
theorem isSome_tab?_since_tick (hkept : ∀ id, Call.removeTab id ∉ calls) {id : ActionId}
    (h : SinceLastTick calls (TabChangedBy settings id)) :
    ((after settings calls).tab? id).isSome = true := by
  induction calls using List.reverseRecOn with
  | nil =>
    obtain ⟨before, _, _, hnil, -⟩ := h
    simp at hnil
  | append_singleton calls call ih =>
    obtain ⟨hcall, hbefore | hchanged⟩ := sinceLastTick_concat.mp h
    · -- An earlier call changed the tab, and the last one has not taken it away.
      have hid := ih (fun id hid => hkept id (List.mem_append_left _ hid)) hbefore
      rw [after_concat]
      rcases Call.isEdit_or_start hcall with hedit | ⟨script, rfl⟩
      · refine isSome_tab?_edit (orderlyTabs_after settings calls) (edit_perform _ hedit) ?_ hid
        rintro removed rfl
        exact hkept removed (by simp)
      · exact hid
    · rw [after_concat]
      obtain ⟨-, tab', -, htab', -⟩ | ⟨-, hsome⟩ := hchanged
      · simp [htab']
      · exact hsome

/-- The board is awake before the first tick, and later if something changed since the last one. -/
theorem isAwake_after_iff (settings : Settings) (calls : List Call) :
    (after settings calls).board.isAwake = true ↔
      (∀ call ∈ calls, call.passesTime = false) ∨ SinceLastTick calls (BumpedBy settings) ∨
        ∃ id, ((after settings calls).tab? id).isSome = true ∧
          SinceLastTick calls (TabChangedBy settings id) := by
  have horderly := orderlyTabs_after settings calls
  have hawake : (after settings calls).board.isAwake = true ↔ ¬ _ :=
    Bool.not_eq_false _ ▸ not_congr Board.isAwake_eq_false_iff
  by_cases hticked : ∃ call ∈ calls, call.passesTime = true
  · -- A tick has passed, so both the revision and the marks tell what has changed since.
    obtain ⟨seen, hseen, -, hbumped⟩ := revision_since_tick hticked
    have hfirst : ¬ ∀ call ∈ calls, call.passesTime = false := by simpa using hticked
    simp only [hfirst, false_or]
    rw [hawake, not_and_or, hseen, Option.some.injEq]
    refine or_congr hbumped ?_
    push Not
    constructor
    · rintro ⟨⟨slot, tab⟩, hrow, htouched⟩
      have htab := horderly.tab?_eq_some_iff.mpr ⟨slot, hrow, rfl⟩
      have htouched : tab.touched = true := by simpa using htouched
      exact ⟨tab.id, by simp [htab], (touched_since_tick hticked htab).mp htouched⟩
    · rintro ⟨id, hid, hchanged⟩
      obtain ⟨tab, htab⟩ := Option.isSome_iff_exists.mp hid
      obtain ⟨slot, hrow, -⟩ := horderly.tab?_eq_some_iff.mp htab
      exact ⟨(slot, tab), hrow, by simp [(touched_since_tick hticked htab).mpr hchanged]⟩
  · -- The monitor has not seen any revision yet.
    have hfirst : ∀ call ∈ calls, call.passesTime = false := by simpa using hticked
    rw [hawake, seenRevision_after_of_quiet hfirst]
    exact iff_of_true (by simp) (.inl hfirst)

/-- The monitor finds the board awake if it was, or if following a sprite moves a tab. -/
theorem isAwake_watched_iff (stage : Stage) (dt : Float32) :
    (stage.watched dt).isAwake = true ↔ stage.board.isAwake = true ∨
      (stage.board.monitor.followSprites = true ∧ ∃ row ∈ stage.board.rows,
        row.2.tracked ≠ (stage.tick dt).1.cast.position? row.2.sprite) := by
  cases hfollow : stage.board.monitor.followSprites with
  | false => simp [watched, hfollow]
  | true =>
    obtain ⟨-, hqueues, hmonitor⟩ := stage.watched_frame dt
    have hmark (tab : Tab) := touched_track tab ((stage.tick dt).1.cast.position? tab.sprite)
    simp only [tracked_track] at hmark
    simp only [Board.isAwake, Board.tabs, hqueues, hmonitor, rows_watched, hfollow, List.any_map,
      Bool.or_eq_true, List.any_eq_true, Function.comp_apply, if_true, hmark, true_and, or_assoc]
    refine or_congr Iff.rfl ?_
    constructor
    · rintro ⟨row, hrow, htouched | hmoved⟩
      · exact .inl ⟨row, hrow, htouched⟩
      · exact .inr ⟨row, hrow, hmoved⟩
    · rintro (⟨row, hrow, htouched⟩ | ⟨row, hrow, hmoved⟩)
      · exact ⟨row, hrow, .inl htouched⟩
      · exact ⟨row, hrow, .inr hmoved⟩

/-- Where tabs follow sprites, a tick leaves every tab at the position of its sprite. -/
theorem tracked?_tick_of_follow (h : stage.OrderlyTabs)
    (hfollow : stage.board.monitor.followSprites = true) (dt : Float32) {row : Nat × Tab}
    (hrow : row ∈ stage.board.rows) :
    (stage.tick dt).1.tracked? row.2.id = (stage.tick dt).1.cast.position? row.2.sprite := by
  -- The tab is written to first; the pass that may follow only wipes the mark.
  let tracked : Tab := row.2.track ((stage.tick dt).1.cast.position? row.2.sprite)
  let seen : Tab :=
    if (stage.watched dt).isAwake then { tracked with touched := false } else tracked
  have hseen : seen.id = row.2.id ∧
      seen.tracked = (stage.tick dt).1.cast.position? row.2.sprite := by
    simp only [seen]
    split
    · exact ⟨(track_keeps _ _).1, tracked_track _ _⟩
    · exact ⟨(track_keeps _ _).1, tracked_track _ _⟩
  have hmem : (row.1, seen) ∈ (stage.tick dt).1.board.rows := by
    rw [rows_tick, rows_watched, List.map_map, hfollow]
    exact List.mem_map.mpr ⟨row, hrow, rfl⟩
  rw [tracked?, (h.tick dt).tab?_eq_some_iff.mpr ⟨row.1, hmem, hseen.1⟩]
  exact hseen.2

/-- Ticks that move no tab find the board asleep, one after the other. -/
theorem performAll_ticks_of_asleep (h : stage.OrderlyTabs) (hasleep : stage.board.isAwake = false)
    (dts : List Float32)
    (hstill : stage.board.monitor.followSprites = true → ∀ n id,
      (stage.performAll ((dts.take n).map .tick)).1.tracked? id = stage.tracked? id) :
    (stage.performAll (dts.map .tick)).1.board.monitor.evaluations =
        stage.board.monitor.evaluations ∧
      (stage.performAll (dts.map .tick)).1.queues = stage.queues ∧
      ∀ event ∈ (stage.performAll (dts.map .tick)).2, event.isCollision = false := by
  induction dts generalizing stage with
  | nil => exact ⟨rfl, rfl, nofun⟩
  | cons dt dts ih =>
    have hwatched : (stage.watched dt).isAwake = false := by
      rw [← Bool.not_eq_true, isAwake_watched_iff, hasleep]
      rintro (hfalse | ⟨hfollow, row, hrow, hmoved⟩)
      · cases hfalse
      · -- After the tick the tab is where its sprite is, and it has not moved.
        have htab := h.tab?_eq_some_iff.mpr ⟨row.1, hrow, rfl⟩
        refine hmoved ?_
        rw [← tracked?_tick_of_follow h hfollow dt hrow]
        have hone := hstill hfollow 1 row.2.id
        rw [tracked?, tracked?, htab] at hone
        exact hone.symm
    obtain ⟨hboard, hevents⟩ := tick_of_asleep hwatched
    obtain ⟨-, hqueues, hmonitor⟩ := stage.watched_frame dt
    have hnext : (stage.tick dt).1.board.isAwake = false := by rw [hboard, hwatched]
    -- The tick leaves the board asleep for the next one, with all tabs where they were.
    obtain ⟨hcount, hkept, hquiet⟩ := ih (h.tick dt) hnext fun hfollow n id => by
      rw [followSprites_tick] at hfollow
      exact (hstill hfollow (n + 1) id).trans (hstill hfollow 1 id).symm
    refine ⟨hcount.trans ?_, hkept.trans ?_, fun event hevent => ?_⟩
    · rw [hboard, hmonitor]
    · rw [queues, hboard, hqueues]
      rfl
    · rcases List.mem_append.mp hevent with hevent | hevent
      · rw [events_perform_tick, hevents] at hevent
        exact isCollision_close _ _ _ event hevent
      · exact hquiet event hevent

/-! ## Main statement -/

/-- The reasons for a tick after `calls` to evaluate the board, if it leaves sprites at `position?`:
no tick came before; or since the last one a call changed the queues, or it added a tab that is
still on the board or changed its tracked position; or a tab has to follow its sprite. -/
def MustEvaluate (settings : Settings) (calls : List Call)
    (position? : SpriteId → Option Position) : Prop :=
  (∀ call ∈ calls, call.passesTime = false) ∨
  SinceLastTick calls (BumpedBy settings) ∨
  (∃ id, ((after settings calls).tab? id).isSome = true ∧
    SinceLastTick calls (TabChangedBy settings id)) ∨
  ((after settings calls).board.monitor.followSprites = true ∧
    ∃ tab ∈ (after settings calls).tabsInOrder, tab.tracked ≠ position? tab.sprite)

/-- The monitor wakes up on changes, and never on its own exchanges. After every tick, also the one
that ends a call to play, the monitor has seen the revision of the queues. A tick evaluates the
board exactly if there is a reason to, and otherwise reports no collision and leaves the queues and
their revision alone. After a tick, any number of further ticks does nothing of that kind as long as
tabs that follow sprites stay where they are. Calls without a tick never evaluate the board. And as
long as no tab is taken off it, every tab that was added or written to is still there. -/
theorem evaluates_iff_changed (settings : Settings) (calls : List Call) (call : Call) :
    let stage := after settings calls
    let outcome := stage.perform call
    let stage' := outcome.stage
    (call.passesTime = true →
      stage'.board.monitor.seenRevision = some stage'.queues.revision ∧
      (MustEvaluate settings calls stage'.cast.position? →
        stage'.board.monitor.evaluations = stage.board.monitor.evaluations + 1) ∧
      (¬ MustEvaluate settings calls stage'.cast.position? →
        stage'.board.monitor.evaluations = stage.board.monitor.evaluations ∧
        stage'.queues = stage.queues ∧
        ∀ event ∈ outcome.events, event.isCollision = false) ∧
      ∀ dts : List Float32,
        (stage'.board.monitor.followSprites = true → ∀ n id,
          (stage'.performAll ((dts.take n).map .tick)).1.tracked? id = stage'.tracked? id) →
        let rest := stage'.performAll (dts.map .tick)
        rest.1.board.monitor.evaluations = stage'.board.monitor.evaluations ∧
        rest.1.queues = stage'.queues ∧
        ∀ event ∈ rest.2, event.isCollision = false) ∧
    (call.passesTime = false →
      stage'.board.monitor.evaluations = stage.board.monitor.evaluations) ∧
    ((∀ id, Call.removeTab id ∉ calls) → ∀ id, SinceLastTick calls (TabChangedBy settings id) →
      (stage.tab? id).isSome = true) := by
  intro stage outcome stage'
  have horderly : stage.OrderlyTabs := orderlyTabs_after settings calls
  refine ⟨fun hcall => ?_, fun hcall => congrArg (·.evaluations) (monitor_perform_of_quiet _ hcall),
    fun hkept id => isSome_tab?_since_tick hkept⟩
  obtain ⟨opened, dt, hboard, hindex, htick, hevents⟩ := stage.perform_of_passesTime hcall
  have hasleep : stage'.board.isAwake = false := isAwake_perform_of_passesTime stage hcall
  -- An opening in front of the tick touches neither tabs nor queues, so it adds no reason.
  have hmust : MustEvaluate settings calls stage'.cast.position? ↔
      (opened.watched dt).isAwake = true := by
    rw [isAwake_watched_iff, hboard, ← htick, isAwake_after_iff, MustEvaluate, or_assoc, or_assoc]
    refine or_congr Iff.rfl (or_congr Iff.rfl (or_congr Iff.rfl (and_congr Iff.rfl ?_)))
    simp only [horderly.mem_tabsInOrder, Board.tabs, List.mem_map, stage, stage', outcome]
    simp
  have hcount := opened.evaluations_tick dt
  rw [hboard, ← htick] at hcount
  refine ⟨(Board.isAwake_eq_false_iff.mp hasleep).1, fun hreason => ?_, fun hnone => ?_, ?_⟩
  · simpa [hmust.mp hreason] using hcount
  · rw [hmust, Bool.not_eq_true] at hnone
    obtain ⟨hboard', hevents'⟩ := tick_of_asleep hnone
    refine ⟨by simpa [hnone] using hcount, ?_, fun event hevent => ?_⟩
    · refine (congrArg queues htick).trans ?_
      rw [queues, hboard', (opened.watched_frame dt).2.1, hboard]
      rfl
    · -- What is left to report comes from lanes.
      by_contra hcollision
      rw [Bool.not_eq_false] at hcollision
      have hmem := (hevents event hcollision).mp hevent
      rw [hevents'] at hmem
      simp [isCollision_close _ _ _ event hmem] at hcollision
  · have horderly' : stage'.OrderlyTabs := by
      rw [show stage' = after settings (calls ++ [call]) from (after_concat _ _ _).symm]
      exact orderlyTabs_after settings _
    exact fun dts hstill => performAll_ticks_of_asleep horderly' hasleep dts hstill

end Stage

end SpriteStage
