import SpriteStage.Proofs.Stage.Isolation
import SpriteStage.Proofs.Stage.Schedules
import SpriteStage.Proofs.Stage.TrackedPositions
import SpriteStage.Proofs.Stage.Runs

/-!
# The board does not depend on playback

On a stage that does not track tabs at the positions of their sprites, playback and sprites do not
reach the board. What the monitor finds in a tick, and what comes of it, depends on the calls that
edit tabs and queues, and on the number of ticks between them; it does not depend on how long the
ticks are, on what plays in them, or on where sprites are and whether they are there at all. The
module introduces:

* `Call.boardPart`: what a call is to the board;
* `Stage.boardShowings`: what a run shows of the board, after each call that concerns it;
* `Stage.SameBoard`: two stages on which edits of tabs and queues, and ticks, go the same way;
* `boardShowings_eq_parts`: a run shows the same as the run of the parts of its calls.

The main statement, `board_ignores_playback`, is about two runs that differ in other calls.
-/

namespace SpriteStage

/-- What a call is to the board: nothing, or itself, or a tick of which the length does not
matter. -/
def Call.boardPart : Call → Option Call
  | start _ | updateSprite _ _ | takeOffSprite _ | dropRotation _ | selectTab _ => none
  | playScript _ | play | tick _ => some (tick 0)
  | call => some call

/-- What a call shows of the board of a stage. -/
structure BoardShowing where
  /-- Tabs, queues and monitor after the call. -/
  board : Board
  /-- The tabs as they can be seen, with their tracked positions. -/
  tabs : List TabView
  /-- The collisions that were reported, in order. -/
  collisions : List Event

/-- What is shown of the board when a call has led to an outcome. -/
def Outcome.boardShowing (outcome : Outcome) : BoardShowing where
  board := outcome.stage.board
  tabs := outcome.stage.tabs
  collisions := outcome.events.filter (·.isCollision)

namespace Stage

/-- What a run shows of the board, after each call that concerns it. -/
def boardShowings (stage : Stage) : List Call → List BoardShowing
  | [] => []
  | call :: calls =>
    let outcome := stage.perform call
    if call.boardPart.isSome then outcome.boardShowing :: outcome.stage.boardShowings calls
    else outcome.stage.boardShowings calls

/-- Edits of tabs and queues go the same way on two stages: the boards are the same, ids are bound
alike, and the same sprites were put up. -/
structure SameBoard (stage stage' : Stage) : Prop where
  /-- The boards are the same. -/
  board : stage.board = stage'.board
  /-- The same ids are bound to the same sprites. -/
  bindings : stage.index.bindings = stage'.index.bindings
  /-- The same sprite gets the next tab. -/
  current : stage.cast.current = stage'.cast.current
  /-- The next sprite gets the same number. -/
  nextNumber : stage.cast.nextNumber = stage'.cast.nextNumber
  /-- The same sprites were put up. -/
  contains : ∀ id, stage.cast.contains id = stage'.cast.contains id

variable {stage stage' : Stage}

theorem SameBoard.refl (stage : Stage) : stage.SameBoard stage :=
  ⟨rfl, rfl, rfl, rfl, fun _ => rfl⟩

theorem SameBoard.symm (h : stage.SameBoard stage') : stage'.SameBoard stage :=
  ⟨h.board.symm, h.bindings.symm, h.current.symm, h.nextNumber.symm, fun id => (h.contains id).symm⟩

theorem SameBoard.trans {stage'' : Stage} (h : stage.SameBoard stage')
    (h' : stage'.SameBoard stage'') : stage.SameBoard stage'' :=
  ⟨h.board.trans h'.board, h.bindings.trans h'.bindings, h.current.trans h'.current,
    h.nextNumber.trans h'.nextNumber, fun id => (h.contains id).trans (h'.contains id)⟩

/-- Exchanging the same board for another one keeps the stages the same. -/
theorem SameBoard.withBoard (h : stage.SameBoard stage') {board board' : Board}
    (hboard : board = board') :
    SameBoard { stage with board } { stage' with board := board' } :=
  ⟨hboard, h.bindings, h.current, h.nextNumber, h.contains⟩

/-- The same tabs are seen on both stages. -/
theorem SameBoard.tabs (h : stage.SameBoard stage') : stage.tabs = stage'.tabs := by
  have htab : stage.tab? = stage'.tab? := by
    funext id
    simp only [tab?, TabIndex.slotOf?, TabIndex.get?, h.bindings, h.board]
  simp only [Stage.tabs, TabIndex.ids, h.bindings, htab]

/-! ## Calls that are nothing to the board -/

/-- Changing the body of a sprite does not put one up. -/
theorem sameBoard_modify (stage : Stage) (id : SpriteId) (f : Option Body → Option Body) :
    stage.SameBoard (stage.withCast (stage.cast.modify id f)) :=
  ⟨rfl, rfl, rfl, rfl, fun other => (Roster.contains_modify stage.cast id other f).symm⟩

/-- A call that is nothing to the board leaves it alone, and reports no collision. -/
theorem sameBoard_perform_of_none (stage : Stage) {call : Call} (hcall : call.boardPart = none) :
    stage.SameBoard (stage.perform call).stage ∧
      (stage.perform call).events.filter (·.isCollision) = [] := by
  rcases Call.isEdit_or call with hedit | ⟨script, rfl⟩ | ⟨script, rfl⟩ | rfl | ⟨dt, rfl⟩
  · rw [events_perform_of_isEdit stage hedit]
    refine ⟨?_, rfl⟩
    have hperformed := edit_perform stage hedit
    generalize (stage.perform call).stage = stage' at hperformed
    cases hperformed with
    | refused => exact .refl stage
    | updateSprite id | takeOffSprite id | dropRotation id => exact stage.sameBoard_modify id _
    | selectTab => exact ⟨rfl, rfl, rfl, rfl, fun _ => rfl⟩
    | addTab _ h => rcases h with rfl | rfl <;> cases hcall
    | addSprite | selectSprite | track | removeTab | append | deleteAt | swap => cases hcall
  · -- An opening reports at most that the playback is over.
    refine ⟨⟨rfl, rfl, rfl, rfl, fun _ => rfl⟩, List.filter_eq_nil_iff.mpr fun event hevent => ?_⟩
    have hmem : event ∈ (stage.performance.start script stage.index.spriteOf?).2.2 := hevent
    rw [Performance.reports_start] at hmem
    split at hmem
    · rw [List.mem_singleton.mp hmem]
      exact Bool.false_ne_true
    · cases hmem
  · cases hcall
  · cases hcall
  · cases hcall

/-! ## Ticks -/

/-- Without tabs that follow sprites, the monitor finds the board as the calls left it. -/
theorem watched_of_manual (hmanual : stage.board.monitor.followSprites = false) (dt : Float32) :
    stage.watched dt = stage.board := by
  rw [watched, hmanual]
  rfl

/-- Ticks of any lengths do the same to the same boards, and report the same collisions. -/
theorem SameBoard.tick (h : stage.SameBoard stage')
    (hmanual : stage.board.monitor.followSprites = false) (dt dt' : Float32) :
    (stage.tick dt).1.SameBoard (stage'.tick dt').1 ∧
      (stage.tick dt).2.filter (·.isCollision) = (stage'.tick dt').2.filter (·.isCollision) := by
  have hwatched : stage.watched dt = stage'.watched dt' := by
    rw [watched_of_manual hmanual, watched_of_manual (h.board ▸ hmanual), h.board]
  refine ⟨⟨?_, h.bindings, ?_, ?_, fun id => ?_⟩, ?_⟩
  · rw [board_tick, board_tick, hwatched]
  · exact (stage.performance.castCurrent_tick dt).trans
      (h.current.trans (stage'.performance.castCurrent_tick dt').symm)
  · exact (stage.performance.castNumber_tick dt).trans
      (h.nextNumber.trans (stage'.performance.castNumber_tick dt').symm)
  · exact (stage.performance.contains_tick dt id).trans
      ((h.contains id).trans (stage'.performance.contains_tick dt' id).symm)
  · rw [filter_collisions_tick, filter_collisions_tick, hwatched]

/-! ## Edits of tabs and queues -/

/-- A tab is added on both stages or on none, under the same id. -/
theorem SameBoard.addTabFor? (h : stage.SameBoard stage') (sprite : SpriteId) :
    (stage.attemptTab (stage.addTabFor? sprite)).stage.SameBoard
      (stage'.attemptTab (stage'.addTabFor? sprite)).stage := by
  have htab : stage.nextTab sprite = stage'.nextTab sprite := by
    simp only [nextTab, TabIndex.nextIndex, TabIndex.nextOrder, h.bindings]
  rw [addTabFor?_eq, addTabFor?_eq, h.contains]
  split
  · refine ⟨?_, ?_, rfl, h.nextNumber, h.contains⟩
    · simp only [attemptTab, Option.map_some, Option.getD_some, withTab, htab, h.board]
    · simp only [attemptTab, Option.map_some, Option.getD_some, withTab, TabIndex.enter, htab,
        h.bindings, h.board]
  · exact h

/-- An edit of tabs or queues does the same on both stages. -/
theorem SameBoard.edit (h : stage.SameBoard stage') {call : Call} (hedit : call.isEdit = true)
    (hcall : call.boardPart = some call) :
    (stage.perform call).stage.SameBoard (stage'.perform call).stage := by
  have hslot : stage.index.slotOf? = stage'.index.slotOf? := by
    funext id
    simp only [TabIndex.slotOf?, TabIndex.get?, h.bindings]
  cases call with
  | addSprite kind =>
    refine ⟨h.board, h.bindings, ?_, congrArg (· + 1) h.nextNumber, fun id => ?_⟩
    · exact congrArg (fun n => some (SpriteId.mk n)) h.nextNumber
    · rw [Bool.eq_iff_iff]
      refine (contains_add _ _ _).trans (.trans ?_ (contains_add _ _ _).symm)
      rw [h.nextNumber, h.contains]
  | selectSprite id =>
    simp only [perform, attempt, selectSprite?, Roster.select?, h.contains]
    split
    · exact ⟨h.board, h.bindings, rfl, h.nextNumber, h.contains⟩
    · exact h
  | addTab =>
    simp only [perform, addTab?, h.current]
    cases stage'.cast.current with
    | none => exact h
    | some sprite => exact h.addTabFor? sprite
  | addTabFor sprite => exact h.addTabFor? sprite
  | track id position =>
    simp only [perform, attempt, track?, hslot, h.board]
    cases stage'.index.slotOf? id with
    | none => exact h
    | some slot =>
      cases hboard : stage'.board.modify? slot (·.track position) with
      | none => simpa [hboard] using h
      | some board => simpa [hboard] using h.withBoard (Eq.refl board)
  | removeTab id =>
    simp only [perform, attempt, removeTab?, hslot, h.board]
    cases stage'.index.slotOf? id with
    | none => exact h
    | some slot =>
      cases hboard : stage'.board.remove? slot with
      | none => simpa [hboard] using h
      | some board => simpa [hboard] using h.withBoard (Eq.refl board)
  | append id command =>
    exact h.withBoard (by rw [queues, queues, h.board])
  | deleteAt id place =>
    simp only [perform, attempt, deleteAt?, queues, h.board]
    cases stage'.board.queues.deleteAt? id place with
    | none => exact h
    | some queues => exact h.withBoard (by rw [h.board])
  | swap a b =>
    simp only [perform, attempt, swap?, queues, h.board]
    cases stage'.board.queues.swap? a b with
    | none => exact h
    | some queues => exact h.withBoard (by rw [h.board])
  | updateSprite | takeOffSprite | dropRotation | selectTab => cases hcall
  | start | playScript | play | tick => cases hedit

/-! ## Runs -/

/-- What a call is to the board is the same to it as the call. -/
theorem boardPart_of_part {call part : Call} (hpart : call.boardPart = some part) :
    part.boardPart = some part := by
  cases call <;> cases hpart <;> rfl

/-- A call does to the board what its part does, and shows the same of it. -/
theorem SameBoard.perform (h : stage.SameBoard stage')
    (hmanual : stage.board.monitor.followSprites = false) {call part : Call}
    (hpart : call.boardPart = some part) :
    (stage.perform call).boardShowing = (stage'.perform part).boardShowing ∧
      (stage.perform call).stage.SameBoard (stage'.perform part).stage := by
  -- The board and the tabs are shown as they are on the stages afterwards.
  suffices hsame : (stage.perform call).stage.SameBoard (stage'.perform part).stage ∧
      (stage.perform call).events.filter (·.isCollision) =
        (stage'.perform part).events.filter (·.isCollision) by
    obtain ⟨hsame, hcollisions⟩ := hsame
    refine ⟨?_, hsame⟩
    rw [Outcome.boardShowing, Outcome.boardShowing, hsame.board, hsame.tabs, hcollisions]
  have hplay (script : Script) :
      (stage.playScript script).2.1.SameBoard (stage'.tick 0).1 ∧
        (stage.playScript script).2.2.filter (·.isCollision) =
          (stage'.tick 0).2.filter (·.isCollision) := by
    obtain ⟨hstart, hnone⟩ : stage.SameBoard (stage.start script).2.1 ∧
        (stage.start script).2.2.filter (·.isCollision) = [] :=
      stage.sameBoard_perform_of_none (show (Call.start script).boardPart = none from rfl)
    obtain ⟨htick, hcollisions⟩ := (hstart.symm.trans h).tick hmanual 0 0
    rw [playScript_eq, List.filter_append, hnone, List.nil_append]
    exact ⟨htick, hcollisions⟩
  rcases Call.isEdit_or call with hedit | ⟨script, rfl⟩ | ⟨script, rfl⟩ | rfl | ⟨dt, rfl⟩
  · obtain rfl : call = part := by
      cases call <;> cases hpart <;> first | rfl | cases hedit
    rw [events_perform_of_isEdit stage hedit, events_perform_of_isEdit stage' hedit]
    exact ⟨h.edit hedit hpart, rfl⟩
  · cases hpart
  · cases hpart
    exact hplay script
  · cases hpart
    exact hplay stage.queues.script
  · cases hpart
    exact h.tick hmanual dt 0

/-- A run shows the same of the board as the run of the parts of its calls. -/
theorem boardShowings_eq_parts (h : stage.SameBoard stage')
    (hmanual : stage.board.monitor.followSprites = false) (calls : List Call) :
    stage.boardShowings calls = stage'.boardShowings (calls.filterMap Call.boardPart) := by
  -- By induction on the calls. A call without a part is made on one of the stages only.
  induction calls generalizing stage stage' with
  | nil => rfl
  | cons call calls ih =>
    have hnext := (stage.continues_performAll [call]).follow.trans hmanual
    cases hpart : call.boardPart with
    | none =>
      have hsame := (stage.sameBoard_perform_of_none hpart).1.symm.trans h
      rw [List.filterMap_cons_none hpart, boardShowings, hpart, ih hsame hnext]
      rfl
    | some part =>
      obtain ⟨hshowing, hsame⟩ := h.perform hmanual hpart
      rw [List.filterMap_cons_some hpart, boardShowings, boardShowings, hpart,
        boardPart_of_part hpart, hshowing, ih hsame hnext]

/-- All collisions of a run are shown. -/
theorem collisions_performAll (stage : Stage) (calls : List Call) :
    (stage.performAll calls).2.filter (·.isCollision) =
      (stage.boardShowings calls).flatMap (·.collisions) := by
  induction calls generalizing stage with
  | nil => rfl
  | cons call calls ih =>
    rw [performAll, boardShowings, List.filter_append, ih]
    cases hpart : call.boardPart with
    | none => rw [(stage.sameBoard_perform_of_none hpart).2]; rfl
    | some part => rfl

/-- To run until no playback is running is to let a number of ticks pass. -/
theorem untilIdle_eq_performAll (dt : Float32) (limit : Nat) (run : Run) :
    ∃ n, (run.untilIdle dt limit).ticks = run.ticks + n ∧
      (run.untilIdle dt limit).stage = (run.stage.performAll (List.replicate n (.tick dt))).1 ∧
      (run.untilIdle dt limit).events.toList =
        run.events.toList ++ (run.stage.performAll (List.replicate n (.tick dt))).2 := by
  have hticks := run.stage.performAll_ticks_runUntilIdle dt limit
  refine ⟨(run.stage.runUntilIdle dt limit).ticks, ?_, ?_, ?_⟩
  · rw [Run.untilIdle_eq]
    rfl
  · rw [Run.untilIdle_eq, hticks]
    rfl
  · rw [Run.untilIdle_eq, hticks]
    exact Array.toList_append

/-! ## Main statement -/

/-- New stages are the same to the board if they have, or lack, the same first sprite. -/
theorem sameBoard_new {settings settings' : Settings} (hmanual : settings.followSprites = false)
    (hmanual' : settings'.followSprites = false)
    (hstarter : settings.starterSprite = settings'.starterSprite) :
    (new settings).SameBoard (new settings') := by
  have hbare : (bare settings).SameBoard (bare settings') :=
    ⟨by rw [bare, bare, hmanual, hmanual'], rfl, rfl, rfl, fun _ => rfl⟩
  rw [new, new, hstarter]
  split
  · exact ((hbare.edit (show (Call.addSprite .cat).isEdit = true from rfl) rfl).edit
      (show Call.addTab.isEdit = true from rfl) rfl)
  · exact hbare

/-- Where tabs are tracked by hand, playback and sprites never influence queues and collisions. Take
two runs that start with the same sprite, or without one, and make the same calls, apart from any
that open playbacks, change sprites or take them off the stage, or select tabs; and a tick of one
run may be of another length in the other, or be the tick in which something is played. The settings
may differ in the time scale. Then after every common call, and after every tick, both runs show the
same queues with their revision, the same tabs with their tracked positions, and the same
evaluations of the monitor; and they report the same collisions. To run until no playback is running
is to make some number of ticks.

A tracked position is changed only by the call that sets it; if the tab is taken away, there is none
any more. -/
theorem board_ignores_playback {settings settings' : Settings}
    (hmanual : settings.followSprites = false) (hmanual' : settings'.followSprites = false)
    (hstarter : settings.starterSprite = settings'.starterSprite) {calls calls' : List Call}
    (hcommon : calls.filterMap Call.boardPart = calls'.filterMap Call.boardPart) :
    (new settings).boardShowings calls = (new settings').boardShowings calls' ∧
    (reports settings calls).filter (·.isCollision) =
      (reports settings' calls').filter (·.isCollision) ∧
    (∀ (stage : Stage) (dt : Float32) (limit : Nat),
      let run := stage.runUntilIdle dt limit
      let ticks := List.replicate run.ticks (.tick dt)
      run.stage = (stage.performAll ticks).1 ∧ run.events.toList = (stage.performAll ticks).2) ∧
    ∀ call id, let next := ((after settings calls).perform call).stage
      next.tracked? id = (after settings calls).tracked? id ∨
        (∃ position, call = .track id position ∧ next.tracked? id = position) ∨
        (call = .removeTab id ∧ next.tab? id = none) := by
  have hsame := sameBoard_new hmanual hmanual' hstarter
  have hfollow := (followSprites_after settings calls).trans hmanual
  have hnew := (followSprites_after settings []).trans hmanual
  have hnew' := (followSprites_after settings' []).trans hmanual'
  have hshowings : (new settings).boardShowings calls = (new settings').boardShowings calls' := by
    rw [boardShowings_eq_parts hsame hnew, hcommon,
      ← boardShowings_eq_parts (.refl (new settings')) hnew']
  refine ⟨hshowings, ?_, fun stage dt limit => ?_, fun call id => ?_⟩
  · rw [reports, reports, collisions_performAll, collisions_performAll, hshowings]
  · obtain ⟨n, hticks, hstage, hevents⟩ := untilIdle_eq_performAll dt limit { stage }
    have hrun : (stage.runUntilIdle dt limit).ticks = n := hticks.trans (Nat.zero_add n)
    intro run ticks
    have hcalls : ticks = List.replicate n (.tick dt) := by rw [← hrun]
    rw [hcalls]
    exact ⟨hstage, hevents⟩
  · exact tracked?_perform (orderlyTabs_after settings calls) hfollow call id

/-- Two tabs of the cat collide in a run in which time just passes, and the same comes of it in one
that runs twice as fast, in which the cat is taken off the stage and all queues are played instead
of the first tick. -/
theorem tabs_collide_without_cat :
    let earlier : List Call := [.addTab, .append ⟨"1"⟩ "Turn Right", .track ⟨"1"⟩ (some ⟨0, 0⟩),
      .track ⟨"1-2"⟩ (some ⟨10, 10⟩)]
    let calls : List Call := earlier ++ [.tick 1, .tick 1]
    let calls' : List Call := [.addTab, .append ⟨"1"⟩ "Turn Right", .takeOffSprite ⟨1⟩,
      .track ⟨"1"⟩ (some ⟨0, 0⟩), .track ⟨"1-2"⟩ (some ⟨10, 10⟩), .play, .selectTab ⟨"1"⟩,
      .tick 0.25]
    let fast : Settings := { timeScale := 2 }
    (after {} earlier).collidingIds = [(⟨"1"⟩, ⟨"1-2"⟩)] ∧
    calls.filterMap Call.boardPart = calls'.filterMap Call.boardPart ∧
    (new {}).boardShowings calls = (new fast).boardShowings calls' ∧
    (reports {} calls).filter (·.isCollision) = (reports fast calls').filter (·.isCollision) := by
  intro earlier calls calls' fast
  have hcolliding : (after {} earlier).collidingIds = [(⟨"1"⟩, ⟨"1-2"⟩)] := by decide +kernel
  have hcommon : calls.filterMap Call.boardPart = calls'.filterMap Call.boardPart := rfl
  obtain ⟨hshowings, hreports, -, -⟩ :=
    @board_ignores_playback {} fast rfl rfl rfl calls calls' hcommon
  exact ⟨hcolliding, hcommon, hshowings, hreports⟩

end Stage

end SpriteStage
