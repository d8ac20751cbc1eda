import SpriteStage.Stage.Call

/-!
# Reachable stages

A stage is reachable if calls lead to it from a new one: `Stage.after settings calls` is the stage
then, and `Stage.reports settings calls` is all that was reported on the way.

Of the calls, some are *edits*: they open no playback, and no time passes in them. Every other call
opens a playback (`Stage.start`), lets a tick pass (`Stage.tick`), or does the one and then the
other. The module introduces:

* `Stage.Edit stage call stage'` lists what an edit can do; `edit_perform` says that it does no more
  than that, and `events_perform_of_isEdit` that it reports nothing.
* `after_induction` proves a property of all reachable stages from bare stages, edits, openings
  and ticks.
-/

namespace SpriteStage

namespace Call

/-- Time passes in the call. -/
def passesTime : Call → Bool
  | playScript _ | play | tick _ => true
  | _ => false

/-- The call opens no playback, and no time passes in it. -/
def isEdit : Call → Bool
  | start _ | playScript _ | play | tick _ => false
  | _ => true

/-- The call asks for a tab. -/
def asksForTab : Call → Bool
  | addTab | addTabFor _ => true
  | _ => false

/-- Every call is an edit, or made of an opening and a tick. -/
theorem isEdit_or (call : Call) :
    call.isEdit = true ∨ (∃ script, call = start script) ∨ (∃ script, call = playScript script) ∨
      call = play ∨ ∃ dt, call = tick dt := by
  cases call <;> simp [isEdit]

theorem passesTime_of_isEdit {call : Call} (h : call.isEdit = true) : call.passesTime = false := by
  cases call <;> simp_all [isEdit, passesTime]

/-- Without time passing, a call can only be an edit or an opening. -/
theorem isEdit_or_start {call : Call} (h : call.passesTime = false) :
    call.isEdit = true ∨ ∃ script, call = start script := by
  rcases call.isEdit_or with hedit | hstart | ⟨script, rfl⟩ | rfl | ⟨dt, rfl⟩
  · exact .inl hedit
  · exact .inr hstart
  · cases h
  · cases h
  · cases h

end Call

namespace Stage

/-! ## What edits do -/

/-- The tab that a sprite gets next. -/
def nextTab (stage : Stage) (sprite : SpriteId) : Tab where
  id := .forTab sprite (stage.index.nextIndex sprite)
  sprite := sprite
  label := "Action " ++ toString (stage.index.nextIndex sprite)
  order := stage.index.nextOrder

/-- The stage with one more tab for a sprite, which becomes current. -/
def withTab (stage : Stage) (sprite : SpriteId) : Stage where
  settings := stage.settings
  performance := { stage.performance with cast := { stage.cast with current := some sprite } }
  index := stage.index.enter (stage.nextTab sprite).id ⟨sprite, stage.board.nextSlot⟩
  board := { stage.board.place (stage.nextTab sprite) with
    queues := stage.board.queues.ensure (stage.nextTab sprite).id }

@[simp]
theorem index_withTab (stage : Stage) (sprite : SpriteId) : (stage.withTab sprite).index =
    stage.index.enter (stage.nextTab sprite).id ⟨sprite, stage.board.nextSlot⟩ := by
  rfl

@[simp]
theorem queues_withTab (stage : Stage) (sprite : SpriteId) :
    (stage.withTab sprite).queues = stage.queues.ensure (stage.nextTab sprite).id := by
  rfl

@[simp]
theorem rows_withTab (stage : Stage) (sprite : SpriteId) : (stage.withTab sprite).board.rows =
    stage.board.rows ++ [(stage.board.nextSlot, stage.nextTab sprite)] := by
  rfl

@[simp]
theorem nextSlot_withTab (stage : Stage) (sprite : SpriteId) :
    (stage.withTab sprite).board.nextSlot = stage.board.nextSlot + 1 := by
  rfl

/-- A tab is added for every sprite that was put up. -/
theorem addTabFor?_eq (stage : Stage) (sprite : SpriteId) :
    stage.addTabFor? sprite =
      if stage.cast.contains sprite then
        some ((stage.nextTab sprite).id, stage.withTab sprite)
      else none := by
  by_cases h : stage.cast.contains sprite = true
  · rw [addTabFor?, selectSprite?, Roster.select?, if_pos h, if_pos h]
    rfl
  · rw [addTabFor?, selectSprite?, Roster.select?, if_neg h, if_neg h]
    rfl

/-- What an edit leads to: it is refused, or it does what its call says and no more. -/
inductive Edit (stage : Stage) : Call → Stage → Prop
  | refused (call : Call) : Edit stage call stage
  | addSprite (kind : SpriteKind) :
      Edit stage (.addSprite kind) (stage.withCast (stage.cast.add kind).2)
  | selectSprite (id : SpriteId) (h : stage.cast.contains id = true) :
      Edit stage (.selectSprite id) (stage.withCast { stage.cast with current := some id })
  | updateSprite (id : SpriteId) (f : Transform → Transform)
      (h : (stage.cast.transform? id).isSome = true) :
      Edit stage (.updateSprite id f) (stage.withCast (stage.cast.move id f))
  | takeOffSprite (id : SpriteId) (h : (stage.cast.body? id).isSome = true) :
      Edit stage (.takeOffSprite id) (stage.withCast (stage.cast.modify id fun _ => none))
  | dropRotation (id : SpriteId) (h : (stage.cast.transform? id).isSome = true) :
      Edit stage (.dropRotation id) (stage.withCast
        (stage.cast.modify id (·.map fun body => { body with rotation := none })))
  | addTab {call : Call} (sprite : SpriteId) (hcall : call = .addTab ∨ call = .addTabFor sprite)
      (h : stage.cast.contains sprite = true) : Edit stage call (stage.withTab sprite)
  | selectTab (id : ActionId) (h : stage.index.contains id = true) :
      Edit stage (.selectTab id) { stage with index := { stage.index with selected := some id } }
  | track {id : ActionId} {slot : Nat} {tab : Tab} (position : Option Position)
      (hslot : stage.index.slotOf? id = some slot) (htab : stage.board.tab? slot = some tab) :
      Edit stage (.track id position)
        { stage with board := stage.board.modify slot (·.track position) }
  | removeTab {id : ActionId} {slot : Nat} {board : Board}
      (hslot : stage.index.slotOf? id = some slot)
      (hboard : stage.board.remove? slot = some board) :
      Edit stage (.removeTab id) { stage with board }
  | append (id : ActionId) (command : String) :
      Edit stage (.append id command) (stage.withQueues (stage.queues.append id command))
  | deleteAt {id : ActionId} {place : Nat} {queues : Queues}
      (h : stage.queues.deleteAt? id place = some queues) :
      Edit stage (.deleteAt id place) (stage.withQueues queues)
  | swap {a b : ActionId} {queues : Queues} (h : stage.queues.swap? a b = some queues) :
      Edit stage (.swap a b) (stage.withQueues queues)

/-- An operation that may be refused is an edit if it is one whenever it is accepted. -/
private theorem edit_getD {stage : Stage} {call : Call} {next : Option Stage}
    (h : ∀ stage', next = some stage' → Edit stage call stage') :
    Edit stage call (next.getD stage) := by
  cases next with
  | none => exact .refused call
  | some stage' => exact h stage' rfl

private theorem edit_addTabFor (stage : Stage) {call : Call} (sprite : SpriteId)
    (hcall : call = .addTab ∨ call = .addTabFor sprite) :
    Edit stage call (((stage.addTabFor? sprite).map (·.2)).getD stage) := by
  rw [addTabFor?_eq]
  split
  · next h => exact .addTab sprite hcall h
  · exact .refused call

theorem edit_perform (stage : Stage) {call : Call} (hcall : call.isEdit = true) :
    Edit stage call (stage.perform call).stage := by
  -- What an operation asks for before it is accepted is read off from its being `some`.
  cases call with
  | addSprite kind => exact .addSprite kind
  | selectSprite id =>
    refine edit_getD fun stage' h => ?_
    simp only [selectSprite?, Roster.select?, Option.map_eq_some_iff] at h
    obtain ⟨cast, hcast, rfl⟩ := h
    split at hcast
    · next hid => cases hcast; exact .selectSprite id hid
    · cases hcast
  | updateSprite id f =>
    refine edit_getD fun stage' h => ?_
    simp only [updateSprite?, Cast.move?, Option.map_map, Option.map_eq_some_iff] at h
    obtain ⟨t, ht, rfl⟩ := h
    exact .updateSprite id f (by simp [ht])
  | takeOffSprite id =>
    refine edit_getD fun stage' h => ?_
    simp only [takeOffSprite?, Cast.takeOff?, Option.map_map, Option.map_eq_some_iff] at h
    obtain ⟨body, hbody, rfl⟩ := h
    exact .takeOffSprite id (by simp [hbody])
  | dropRotation id =>
    refine edit_getD fun stage' h => ?_
    simp only [dropRotation?, Cast.dropRotation?, Option.map_map, Option.map_eq_some_iff] at h
    obtain ⟨t, ht, rfl⟩ := h
    exact .dropRotation id (by simp [ht])
  | addTab =>
    cases hcurrent : stage.cast.current with
    | none => simpa [perform, attemptTab, addTab?, hcurrent] using Edit.refused _
    | some sprite =>
      simpa [perform, attemptTab, addTab?, hcurrent] using edit_addTabFor stage sprite (.inl rfl)
  | addTabFor sprite => exact edit_addTabFor stage sprite (.inr rfl)
  | selectTab id =>
    refine edit_getD fun stage' h => ?_
    simp only [selectTab?, TabIndex.select?, Option.map_eq_some_iff] at h
    obtain ⟨index, hindex, rfl⟩ := h
    split at hindex
    · next hid => cases hindex; exact .selectTab id hid
    · cases hindex
  | track id position =>
    refine edit_getD fun stage' h => ?_
    simp only [track?, Board.modify?, Option.bind_eq_bind, Option.bind_eq_some_iff,
      Option.map_eq_some_iff, Option.pure_def, Option.some.injEq] at h
    obtain ⟨slot, hslot, _, ⟨tab, htab, rfl⟩, rfl⟩ := h
    exact .track position hslot htab
  | removeTab id =>
    refine edit_getD fun stage' h => ?_
    simp only [removeTab?, Option.bind_eq_bind, Option.bind_eq_some_iff, Option.pure_def,
      Option.some.injEq] at h
    obtain ⟨slot, hslot, board, hboard, rfl⟩ := h
    exact .removeTab hslot hboard
  | append id command => exact .append id command
  | deleteAt id place =>
    refine edit_getD fun stage' h => ?_
    simp only [deleteAt?, Option.map_eq_some_iff] at h
    obtain ⟨queues, hqueues, rfl⟩ := h
    exact .deleteAt hqueues
  | swap a b =>
    refine edit_getD fun stage' h => ?_
    simp only [swap?, Option.map_eq_some_iff] at h
    obtain ⟨queues, hqueues, rfl⟩ := h
    exact .swap hqueues
  | start script | playScript script | play | tick dt => simp [Call.isEdit] at hcall

theorem events_perform_of_isEdit (stage : Stage) {call : Call} (hcall : call.isEdit = true) :
    (stage.perform call).events = [] := by
  cases call <;> first | rfl | simp [Call.isEdit] at hcall

/-- Edits leave the lanes and what is kept of them alone, and time as well. -/
theorem performance_edit {stage stage' : Stage} {call : Call} (h : stage.Edit call stage') :
    stage'.performance.lanes = stage.performance.lanes ∧
      stage'.performance.tracker = stage.performance.tracker ∧
      stage'.performance.clock = stage.performance.clock := by
  cases h <;> exact ⟨rfl, rfl, rfl⟩

/-- Playing a script is opening a playback of it and letting a tick of no length pass. -/
theorem playScript_eq (stage : Stage) (script : Script) :
    stage.playScript script =
      ((stage.start script).1, ((stage.start script).2.1.tick 0).1,
        (stage.start script).2.2 ++ ((stage.start script).2.1.tick 0).2) := rfl

/-! ## Runs -/

/-- The stage that calls lead to from a new one. -/
def after (settings : Settings) (calls : List Call) : Stage :=
  ((new settings).performAll calls).1

/-- What was reported from the start until all calls were done. -/
def reports (settings : Settings) (calls : List Call) : List Event :=
  ((new settings).performAll calls).2

/-- Calls can be done in two goes, and their reports then follow each other. -/
theorem events_performAll_append (stage : Stage) (calls calls' : List Call) :
    (stage.performAll (calls ++ calls')).2 =
      (stage.performAll calls).2 ++ ((stage.performAll calls).1.performAll calls').2 := by
  induction calls generalizing stage with
  | nil => rfl
  | cons call calls ih =>
    simp only [List.cons_append, performAll, List.append_assoc]
    rw [ih]

@[simp]
theorem after_nil (settings : Settings) : after settings [] = new settings := by rfl

theorem after_append (settings : Settings) (calls calls' : List Call) :
    after settings (calls ++ calls') = ((after settings calls).performAll calls').1 :=
  performAll_append _ _ _

theorem after_concat (settings : Settings) (calls : List Call) (call : Call) :
    after settings (calls ++ [call]) = ((after settings calls).perform call).stage :=
  performAll_append _ _ _

theorem reports_concat (settings : Settings) (calls : List Call) (call : Call) :
    reports settings (calls ++ [call]) =
      reports settings calls ++ ((after settings calls).perform call).events := by
  rw [reports, events_performAll_append]
  simp [reports, after, performAll]

/-- What calls give, one after the other, where each is asked on the stage that it finds. -/
def collect {α : Type} (f : Stage → Call → List α) (stage : Stage) : List Call → List α
  | [] => []
  | call :: calls => f stage call ++ (stage.perform call).stage.collect f calls

@[simp]
theorem collect_singleton {α : Type} (f : Stage → Call → List α) (stage : Stage) (call : Call) :
    stage.collect f [call] = f stage call :=
  List.append_nil _

theorem collect_append {α : Type} (f : Stage → Call → List α) (stage : Stage)
    (calls calls' : List Call) :
    stage.collect f (calls ++ calls') =
      stage.collect f calls ++ (stage.performAll calls).1.collect f calls' := by
  induction calls generalizing stage with
  | nil => rfl
  | cons call calls ih =>
    simp only [List.cons_append, collect, performAll, ih, List.append_assoc]

/-- Where no call gives anything, nothing is collected. -/
theorem collect_eq_nil {α : Type} {f : Stage → Call → List α} {calls : List Call}
    (h : ∀ stage, ∀ call ∈ calls, f stage call = []) (stage : Stage) :
    stage.collect f calls = [] := by
  induction calls generalizing stage with
  | nil => rfl
  | cons call calls ih =>
    rw [collect, h stage call (.head _), ih fun stage c hc => h stage c (.tail _ hc)]
    rfl

theorem collect_concat {α : Type} (f : Stage → Call → List α) (settings : Settings)
    (calls : List Call) (call : Call) :
    (new settings).collect f (calls ++ [call]) =
      (new settings).collect f calls ++ f (after settings calls) call := by
  rw [collect_append]
  simp [collect, after]

/-- What holds of a stage holds after a call, if an edit by that call, an opening and a tick keep
it. -/
theorem perform_cases {P : Stage → Prop} {stage : Stage} (call : Call) (h : P stage)
    (edit : ∀ stage', Edit stage call stage' → P stage')
    (start : ∀ script, P (stage.start script).2.1)
    (tick : ∀ stage dt, P stage → P (stage.tick dt).1) : P (stage.perform call).stage := by
  rcases call.isEdit_or with hcall | ⟨script, rfl⟩ | ⟨script, rfl⟩ | rfl | ⟨dt, rfl⟩
  · exact edit _ (edit_perform stage hcall)
  · exact start script
  · exact tick _ _ (start script)
  · exact tick _ _ (start stage.queues.script)
  · exact tick _ _ h

/-- What edits, openings and ticks keep is kept by every call. -/
theorem perform_induction {P : Stage → Prop}
    (edit : ∀ stage call stage', Edit stage call stage' → P stage → P stage')
    (start : ∀ stage script, P stage → P (stage.start script).2.1)
    (tick : ∀ stage dt, P stage → P (stage.tick dt).1) {stage : Stage} (call : Call)
    (h : P stage) : P (stage.perform call).stage :=
  perform_cases call h (fun _ hedit => edit _ _ _ hedit h) (fun script => start _ script h) tick

/-- What every call keeps is kept by every sequence of calls. -/
theorem performAll_induction {P : Stage → Prop}
    (perform : ∀ stage call, P stage → P (stage.perform call).stage) {stage : Stage}
    (calls : List Call) (h : P stage) : P (stage.performAll calls).1 := by
  induction calls generalizing stage with
  | nil => exact h
  | cons call calls ih => exact ih (perform stage call h)

/-- What the calls that are made give is gathered in step with the stages that they lead to. -/
theorem collect_induction {α : Type} {f : Stage → Call → List α} {P : Stage → List α → Prop}
    (perform : ∀ stage call found, P stage found →
      P (stage.perform call).stage (found ++ f stage call))
    {stage : Stage} {found : List α} (calls : List Call) (h : P stage found) :
    P (stage.performAll calls).1 (found ++ stage.collect f calls) := by
  induction calls generalizing stage found with
  | nil => rwa [collect, List.append_nil]
  | cons call calls ih =>
    rw [collect, ← List.append_assoc]
    exact ih (perform stage call found h)

/-- The edits that make a new stage of a bare one. -/
def setup (settings : Settings) : List Call :=
  if settings.starterSprite then [.addSprite .cat, .addTab] else []

theorem isEdit_of_mem_setup {settings : Settings} {call : Call} (h : call ∈ setup settings) :
    call.isEdit = true := by
  rw [setup] at h
  split at h
  · simp only [List.mem_cons, List.not_mem_nil, or_false] at h
    rcases h with rfl | rfl
    · rfl
    · rfl
  · cases h

theorem new_eq_performAll (settings : Settings) :
    new settings = ((bare settings).performAll (setup settings)).1 := by
  by_cases h : settings.starterSprite = true
  · rw [new, setup, if_pos h, if_pos h]
    rfl
  · rw [new, setup, if_neg h, if_neg h]
    rfl

theorem after_eq_performAll (settings : Settings) (calls : List Call) :
    after settings calls = ((bare settings).performAll (setup settings ++ calls)).1 := by
  rw [after, new_eq_performAll, performAll_append]

/-- What holds of bare stages and is kept by edits, openings and ticks holds of every reachable
stage. -/
theorem after_induction {P : Stage → Prop} (bare : ∀ settings, P (bare settings))
    (edit : ∀ stage call stage', Edit stage call stage' → P stage → P stage')
    (start : ∀ stage script, P stage → P (stage.start script).2.1)
    (tick : ∀ stage dt, P stage → P (stage.tick dt).1) (settings : Settings)
    (calls : List Call) : P (after settings calls) := by
  have perform (stage : Stage) (call : Call) (h : P stage) : P (stage.perform call).stage :=
    perform_induction edit start tick call h
  rw [after_eq_performAll]
  exact performAll_induction perform _ (bare settings)

end Stage

end SpriteStage
