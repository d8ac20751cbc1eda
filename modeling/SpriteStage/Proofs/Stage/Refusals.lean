import SpriteStage.Proofs.Stage.Registration
import SpriteStage.Proofs.Stage.SpriteTracking

/-!
# Refused calls

A call is refused if something that it asks for is not there. A refused call leaves no trace: what
comes after it comes as if it had not been made. The module introduces:

* `Stage.Refuses stage call`: what is missing, told by what can be seen of the stage;
* `isRefusal_perform_iff`: on stages whose records are in order, nothing else is refused;
* `stage_perform_of_isRefusal`: one refused call leaves the whole stage as it was;
* `Stage.heeded` and `performAll_heeded`: a run comes to the same without its refused calls.

The main statement is `refused_calls_leave_no_trace`.
-/

namespace SpriteStage

/-! ## Sprites that can be seen -/

namespace Cast

variable {cast : Cast} {id : SpriteId}

/-- A sprite that is looked up has the number that it is looked up under. -/
theorem id_of_sprite? {sprite : Sprite} (h : cast.sprite? id = some sprite) : sprite.id = id := by
  simp only [sprite?, Option.bind_eq_bind, Option.bind_eq_some_iff, Option.pure_def,
    Option.some.injEq] at h
  obtain ⟨_, -, _, -, rfl⟩ := h
  rfl

/-- The sprites that can be seen are those that can be looked up. -/
theorem mem_sprites_iff {sprite : Sprite} :
    sprite ∈ cast.sprites ↔ cast.sprite? sprite.id = some sprite := by
  rw [sprites, List.mem_filterMap]
  constructor
  · rintro ⟨id, -, h⟩
    rwa [id_of_sprite? h]
  · intro h
    refine ⟨sprite.id, ?_, h⟩
    obtain ⟨body, hbody, -⟩ := Option.bind_eq_some_iff.mp h
    exact Roster.contains_iff_mem_ids.mp (contains_of_body? hbody)

/-- What is seen of a sprite is its transform. -/
theorem transform?_of_mem_sprites {sprite : Sprite} (h : sprite ∈ cast.sprites) :
    cast.transform? sprite.id = some sprite.transform := by
  obtain ⟨body, hbody, h⟩ := Option.bind_eq_some_iff.mp (mem_sprites_iff.mp h)
  obtain ⟨t, ht, heq⟩ := Option.bind_eq_some_iff.mp h
  rw [transform?, hbody, Option.bind_some, ht, ← Option.some.inj heq]

/-- What has a transform can be seen, and nothing else can. -/
theorem transform?_eq_none_iff :
    cast.transform? id = none ↔ ∀ sprite ∈ cast.sprites, sprite.id ≠ id := by
  constructor
  · rintro hnone sprite hsprite rfl
    rw [transform?_of_mem_sprites hsprite] at hnone
    cases hnone
  · intro hnone
    refine Option.eq_none_iff_forall_ne_some.mpr fun t h => ?_
    obtain ⟨body, hbody, ht⟩ := Option.bind_eq_some_iff.mp h
    refine hnone ⟨id, body.kind, t⟩ (mem_sprites_iff.mpr ?_) rfl
    simp [sprite?, hbody, ht]

end Cast

namespace Stage

variable {stage : Stage} {call : Call} {n : Nat}

/-! ## What each operation asks for -/

theorem selectSprite?_eq_none_iff {id : SpriteId} :
    stage.selectSprite? id = none ↔ id ∉ stage.cast.ids := by
  rw [← Roster.contains_iff_mem_ids, selectSprite?, Roster.select?]
  simp

theorem addTabFor?_eq_none_iff {sprite : SpriteId} :
    stage.addTabFor? sprite = none ↔ sprite ∉ stage.cast.ids := by
  rw [← Roster.contains_iff_mem_ids, addTabFor?_eq]
  simp

/-- As soon as there is a sprite, there is a current one, which can be given a tab. -/
theorem addTab?_eq_none_iff (h : Enrolled stage.cast n) :
    stage.addTab? = none ↔ stage.cast.ids = [] := by
  have hempty : stage.cast.ids = [] ↔ stage.cast.current = none := by
    rw [h.ids, h.current]
    simp
  rw [hempty, addTab?]
  cases hcurrent : stage.cast.current with
  | none => simp
  | some sprite =>
    have hknown := h.known sprite hcurrent
    simp [addTabFor?_eq, hknown]

theorem selectTab?_eq_none_iff {id : ActionId} :
    stage.selectTab? id = none ↔ id ∉ stage.index.ids := by
  rw [← TabIndex.contains_iff_mem_ids, selectTab?, TabIndex.select?]
  simp

/-- The tabs that can be seen are those that can be looked up. -/
theorem OrderlyTabs.tab?_eq_none_iff (h : stage.OrderlyTabs) {id : ActionId} :
    stage.tab? id = none ↔ ∀ tab ∈ stage.tabs, tab.id ≠ id := by
  constructor
  · rintro hnone _ hview rfl
    obtain ⟨tab, htab, rfl⟩ := mem_tabs_iff.mp hview
    rw [h.tab?_of_mem htab] at hnone
    cases hnone
  · intro hnone
    refine Option.eq_none_iff_forall_ne_some.mpr fun tab htab => ?_
    obtain ⟨hmem, hid⟩ := h.mem_of_tab? htab
    exact hnone _ (mem_tabs_iff.mpr ⟨tab, hmem, rfl⟩) hid

theorem track?_eq_none_iff {id : ActionId} {position : Option Position} :
    stage.track? id position = none ↔ stage.tab? id = none := by
  rw [track?, tab?]
  cases stage.index.slotOf? id with
  | none => simp
  | some slot => cases htab : stage.board.tab? slot <;> simp [Board.modify?, htab]

theorem removeTab?_eq_none_iff {id : ActionId} :
    stage.removeTab? id = none ↔ stage.tab? id = none := by
  rw [removeTab?, tab?]
  cases stage.index.slotOf? id with
  | none => simp
  | some slot =>
    cases htab : stage.board.tab? slot with
    | none => simp [Board.remove?, htab]
    | some tab =>
      -- A board with a tab has a last row.
      have hne : stage.board.rows ≠ [] := List.ne_nil_of_mem (mem_of_lookup_eq_some htab)
      simp [Board.remove?, htab, List.getLast?_eq_some_getLast hne]

theorem deleteAt?_eq_none_iff {id : ActionId} {place : Nat} :
    stage.deleteAt? id place = none ↔ (stage.queues.get id).length ≤ place := by
  simp [deleteAt?, Queues.deleteAt?]

theorem swap?_eq_none_iff {a b : ActionId} :
    stage.swap? a b = none ↔
      a = b ∨ stage.queues.contains a = false ∨ stage.queues.contains b = false := by
  rw [swap?, Option.map_eq_none_iff, Queues.swap?]
  grind

/-! ## Refusals -/

/-- Something that the call asks for is not there: a sprite of that number that was put up, or that
can be seen, or a body for it; any sprite at all; a tab of that id that was added, or that is still
on the board; a command at that place; or two different queues. -/
def Refuses (stage : Stage) : Call → Prop
  | .selectSprite id | .addTabFor id => id ∉ stage.cast.ids
  | .updateSprite id _ | .dropRotation id => ∀ sprite ∈ stage.cast.sprites, sprite.id ≠ id
  | .takeOffSprite id => stage.cast.position? id = none
  | .addTab => stage.cast.ids = []
  | .selectTab id => id ∉ stage.index.ids
  | .track id _ | .removeTab id => ∀ tab ∈ stage.tabs, tab.id ≠ id
  | .deleteAt id place => (stage.queues.get id).length ≤ place
  | .swap a b => a = b ∨ stage.queues.contains a = false ∨ stage.queues.contains b = false
  | _ => False

theorem isRefusal_attempt {next : Option Stage} :
    (stage.attempt next).reply.isRefusal = true ↔ next = none := by
  cases next <;> simp [attempt, Reply.isRefusal]

theorem isRefusal_attemptTab {next : Option (ActionId × Stage)} :
    (stage.attemptTab next).reply.isRefusal = true ↔ next = none := by
  cases next <;> simp [attemptTab, Reply.isRefusal]

/-- A call is refused exactly if something that it asks for is not there. -/
theorem isRefusal_perform_iff (hcast : Enrolled stage.cast n) (htabs : stage.OrderlyTabs)
    (call : Call) : (stage.perform call).reply.isRefusal = true ↔ stage.Refuses call := by
  cases call with
  | selectSprite id => exact isRefusal_attempt.trans selectSprite?_eq_none_iff
  | updateSprite id f =>
    rw [perform, isRefusal_attempt, Refuses, ← Cast.transform?_eq_none_iff]
    simp [updateSprite?, Cast.move?]
  | takeOffSprite id =>
    rw [perform, isRefusal_attempt, Refuses]
    simp [takeOffSprite?, Cast.takeOff?, Cast.position?]
  | dropRotation id =>
    rw [perform, isRefusal_attempt, Refuses, ← Cast.transform?_eq_none_iff]
    simp [dropRotation?, Cast.dropRotation?]
  | addTab => exact isRefusal_attemptTab.trans (addTab?_eq_none_iff hcast)
  | addTabFor sprite => exact isRefusal_attemptTab.trans addTabFor?_eq_none_iff
  | selectTab id => exact isRefusal_attempt.trans selectTab?_eq_none_iff
  | track id position =>
    exact (isRefusal_attempt.trans track?_eq_none_iff).trans htabs.tab?_eq_none_iff
  | removeTab id =>
    exact (isRefusal_attempt.trans removeTab?_eq_none_iff).trans htabs.tab?_eq_none_iff
  | deleteAt id place => exact isRefusal_attempt.trans deleteAt?_eq_none_iff
  | swap a b => exact isRefusal_attempt.trans swap?_eq_none_iff
  | addSprite | append | start | playScript | play | tick =>
    exact iff_of_false Bool.false_ne_true id

/-- A refused call leaves the whole stage as it was, and reports nothing. -/
theorem stage_perform_of_isRefusal (h : (stage.perform call).reply.isRefusal = true) :
    (stage.perform call).stage = stage ∧ (stage.perform call).events = [] := by
  have hattempt {next : Option Stage} (h : (stage.attempt next).reply.isRefusal = true) :
      (stage.attempt next).stage = stage := by
    rw [isRefusal_attempt.mp h]
    rfl
  have hattemptTab {next : Option (ActionId × Stage)}
      (h : (stage.attemptTab next).reply.isRefusal = true) :
      (stage.attemptTab next).stage = stage := by
    rw [isRefusal_attemptTab.mp h]
    rfl
  cases call with
  | addTab | addTabFor => exact ⟨hattemptTab h, rfl⟩
  | addSprite | append | start | playScript | play | tick => cases h
  | _ => exact ⟨hattempt h, rfl⟩

/-! ## Runs -/

/-- The call, unless it is refused. -/
def heeded (stage : Stage) (call : Call) : List Call :=
  if (stage.perform call).reply.isRefusal then [] else [call]

/-- A run comes to the same without its refused calls. -/
theorem performAll_heeded (stage : Stage) (calls : List Call) :
    stage.performAll (stage.collect heeded calls) = stage.performAll calls := by
  induction calls generalizing stage with
  | nil => rfl
  | cons call calls ih =>
    rw [collect, heeded]
    split
    · next hrefused =>
      -- The call is left out on the left, and on the right it does nothing.
      obtain ⟨hstage, hevents⟩ := stage_perform_of_isRefusal hrefused
      rw [List.nil_append, performAll, hstage, hevents, ih]
      rfl
    · rw [List.singleton_append, performAll, performAll, ih]

/-- A call is refused exactly if something that it asks for is not there. It then leaves the stage
as it was, whole, so that what comes after it comes as if it had not been made: calls lead to the
same stages, and report the same. Nothing of a run changes when all its refused calls are left
out. -/
theorem refused_calls_leave_no_trace (settings : Settings) (calls : List Call) :
    let stage := after settings calls
    (∀ call, (stage.perform call).reply.isRefusal = true ↔ stage.Refuses call) ∧
    (∀ call, stage.Refuses call →
      (stage.perform call).stage = stage ∧ (stage.perform call).events = [] ∧
      ∀ more, after settings (calls ++ call :: more) = after settings (calls ++ more) ∧
        reports settings (calls ++ call :: more) = reports settings (calls ++ more)) ∧
    after settings ((new settings).collect heeded calls) = stage ∧
    reports settings ((new settings).collect heeded calls) = reports settings calls := by
  intro stage
  have hrefuses (call : Call) :
      (stage.perform call).reply.isRefusal = true ↔ stage.Refuses call :=
    isRefusal_perform_iff (enrolled_after settings calls) (orderlyTabs_after settings calls) call
  have hheeded := performAll_heeded (new settings) calls
  refine ⟨hrefuses, fun call h => ?_, congrArg Prod.fst hheeded, congrArg Prod.snd hheeded⟩
  obtain ⟨hstage, hevents⟩ := stage_perform_of_isRefusal ((hrefuses call).mpr h)
  refine ⟨hstage, hevents, fun more => ?_⟩
  have hmore : stage.performAll (call :: more) = stage.performAll more := by
    rw [performAll, hstage, hevents]
    rfl
  rw [after_append, after_append, reports, reports, events_performAll_append,
    events_performAll_append]
  exact ⟨congrArg Prod.fst hmore, congrArg _ (congrArg Prod.snd hmore)⟩

end Stage

end SpriteStage
