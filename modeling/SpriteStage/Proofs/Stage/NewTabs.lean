import SpriteStage.Proofs.Stage.QueueHistory
import SpriteStage.Proofs.Stage.Registration

/-!
# New tabs

A tab that is added has no tracked position. The id that it gets is new among the tabs, but not
always new to the store of queues: any text can be given a queue before there is a tab of that name,
and the new tab takes over what it finds. The module introduces:

* `QueueEdit.creates?`, the id that an edit gives a queue if it has none, and
  `Queues.contains_editAll_iff`: no other edit creates one;
* `contains_queues_perform` and `contains_index_perform`: what one call adds to the store and to the
  index;
* `contains_after_iff`: the ids with a queue are those of the tabs and those that something was
  appended to.

The main statement is `queue_of_new_tab`.
-/

namespace SpriteStage

/-! ## Where queues come from -/

/-- The id that has a queue after the edit, whether or not it had one before. -/
def QueueEdit.creates? : QueueEdit → Option ActionId
  | ensure id | append id _ => some id
  | deleteAt _ _ | swap _ _ => none

/-- Only an edit that creates a queue adds its id to a ledger. -/
theorem Ledger.edit_ne_none_iff {ledger : Ledger} {edit : QueueEdit} {id : ActionId} :
    ledger.edit edit id ≠ none ↔ ledger id ≠ none ∨ edit.creates? = some id := by
  constructor
  · intro h
    rw [Ledger.edit] at h
    split at h
    · next heffective =>
      cases edit with
      | ensure a | append a =>
        simp only [write, Function.update_apply] at h
        split at h
        · next heq => exact .inr (congrArg some heq.symm)
        · exact .inl h
      | deleteAt a place =>
        -- There is a command to remove, so there was a queue.
        simp only [write, Function.update_apply] at h
        split at h
        · next heq =>
          refine .inl fun hnone => ?_
          have hplace : place < (ledger.commands a).length := heffective
          simp [commands, ← heq, hnone] at hplace
        · exact .inl h
      | swap a b =>
        obtain ⟨-, ha, hb⟩ := heffective
        simp only [write, Function.comp_apply, Equiv.swap_apply_def] at h
        split at h
        · next heq => exact .inl (heq ▸ ha)
        · split at h
          · next heq => exact .inl (heq ▸ hb)
          · exact .inl h
    · exact .inl h
  · rintro (h | h)
    · exact edit_ne_none h edit
    · cases edit with
      | ensure a =>
        obtain rfl := Option.some.inj h
        rw [Ledger.edit]
        split
        · simp [write]
        · next hold => exact hold
      | append a command =>
        obtain rfl := Option.some.inj h
        have heffective : ledger.Effective (.append a command) := trivial
        rw [Ledger.edit, if_pos heffective]
        simp [write]
      | deleteAt | swap => cases h

namespace Queues

theorem contains_edit_iff {queues : Queues} {edit : QueueEdit} {id : ActionId} :
    (queues.edit edit).contains id = true ↔
      queues.contains id = true ∨ edit.creates? = some id := by
  rw [contains_eq_true_iff, ledger_edit, Ledger.edit_ne_none_iff, contains_eq_true_iff]

/-- After edits, the ids with a queue are those that had one and those that an edit gave one. -/
theorem contains_editAll_iff {queues : Queues} {edits : List QueueEdit} {id : ActionId} :
    (queues.editAll edits).contains id = true ↔
      queues.contains id = true ∨ ∃ edit ∈ edits, edit.creates? = some id := by
  induction edits generalizing queues with
  | nil => simp [editAll]
  | cons edit edits ih =>
    have hrest : ((queues.edit edit).editAll edits).contains id = true ↔
        (queues.edit edit).contains id = true ∨ ∃ edit ∈ edits, edit.creates? = some id := ih
    rw [contains_edit_iff] at hrest
    simp only [List.exists_mem_cons_iff, ← or_assoc]
    exact hrest

end Queues

namespace Stage

variable {stage : Stage} {call : Call} {id : ActionId}

/-! ## One call -/

/-- A call gives an id a queue if it appends to it, or adds a tab of that id. -/
theorem contains_queues_perform :
    (stage.perform call).stage.queues.contains id = true ↔
      stage.queues.contains id = true ∨ (∃ command, call = .append id command) ∨
        (stage.perform call).reply = .tab (some id) := by
  have hcall : (∃ edit ∈ call.queueEdits, edit.creates? = some id) ↔
      ∃ command, call = .append id command := by
    cases call <;> simp [Call.queueEdits, QueueEdit.creates?]
  have hreply (reply : Reply) : (∃ edit ∈ reply.queueEdits, edit.creates? = some id) ↔
      reply = .tab (some id) := by
    rcases reply with _ | _ | _ | ⟨_ | _⟩ | _ <;> simp [Reply.queueEdits, QueueEdit.creates?]
  have hevents : ¬ ∃ edit ∈ (stage.perform call).events.filterMap Event.queueEdit?,
      edit.creates? = some id := by
    rintro ⟨edit, hedit, hid⟩
    obtain ⟨event, -, hevent⟩ := List.mem_filterMap.mp hedit
    obtain ⟨pair, -, rfl⟩ := Option.map_eq_some_iff.mp hevent
    cases hid
  rw [queues_perform, Queues.contains_editAll_iff, queueEdits]
  simp only [List.mem_append, or_and_right, exists_or, hcall, hreply, hevents, or_false]

/-- A call that answers with a tab has added it for some sprite. -/
theorem stage_of_reply_tab (h : (stage.perform call).reply = .tab (some id)) :
    ∃ sprite, (stage.nextTab sprite).id = id ∧
      (stage.perform call).stage = stage.withTab sprite := by
  have hadded {sprite : SpriteId}
      (h : (stage.attemptTab (stage.addTabFor? sprite)).reply = .tab (some id)) :
      (stage.nextTab sprite).id = id ∧
        (stage.attemptTab (stage.addTabFor? sprite)).stage = stage.withTab sprite := by
    rw [addTabFor?_eq] at h ⊢
    split at h
    · next hsprite =>
      rw [if_pos hsprite]
      exact ⟨Option.some.inj (Reply.tab.inj h), rfl⟩
    · cases h
  cases call with
  | addTabFor sprite => exact ⟨sprite, hadded h⟩
  | addTab =>
    rw [perform, addTab?] at h ⊢
    cases hcurrent : stage.cast.current with
    | none =>
      rw [hcurrent] at h
      cases h
    | some sprite =>
      rw [hcurrent] at h
      exact ⟨sprite, hadded h⟩
  | _ => cases h

/-- Only a tab that is added binds an id. -/
theorem contains_index_perform :
    (stage.perform call).stage.index.contains id = true ↔
      stage.index.contains id = true ∨ (stage.perform call).reply = .tab (some id) := by
  have hadded (sprite : SpriteId) :
      (stage.attemptTab (stage.addTabFor? sprite)).stage.index.contains id = true ↔
        stage.index.contains id = true ∨
          (stage.attemptTab (stage.addTabFor? sprite)).reply = .tab (some id) := by
    rw [addTabFor?_eq]
    split
    · refine (stage.index.contains_enter _ _ _).trans (or_comm.trans (or_congr Iff.rfl ?_))
      simp [attemptTab, eq_comm]
    · simp [attemptTab]
  cases hcall : call.asksForTab with
  | true =>
    cases call with
    | addTabFor sprite => exact hadded sprite
    | addTab =>
      rw [perform, addTab?]
      cases stage.cast.current with
      | none => simp [attemptTab]
      | some sprite => exact hadded sprite
    | _ => cases hcall
  | false =>
    have hreply : (stage.perform call).reply ≠ .tab (some id) := by
      intro h
      cases call with
      | addTab | addTabFor => cases hcall
      | _ => cases h
    have hindex : (stage.perform call).stage.index.contains id = stage.index.contains id := by
      refine perform_cases (P := fun stage' => stage'.index.contains id = stage.index.contains id)
        call rfl (fun stage' hedit => ?_) (fun _ => rfl) fun _ _ h => h
      cases hedit with
      | addTab sprite hadd _ => rcases hadd with rfl | rfl <;> cases hcall
      | _ => rfl
    rw [hindex]
    exact (or_iff_left hreply).symm

/-! ## Runs -/

/-- Where all ids with a queue are those of the tabs and some others, calls add to these others the
ids that they append to. -/
theorem contains_performAll_iff {others : ActionId → Prop} (calls : List Call)
    (h : ∀ id, stage.queues.contains id = true ↔ stage.index.contains id = true ∨ others id)
    (id : ActionId) :
    (stage.performAll calls).1.queues.contains id = true ↔
      (stage.performAll calls).1.index.contains id = true ∨ others id ∨
        ∃ command, Call.append id command ∈ calls := by
  induction calls generalizing stage others with
  | nil => simpa [performAll] using h id
  | cons call calls ih =>
    have hcall (id : ActionId) : (stage.perform call).stage.queues.contains id = true ↔
        (stage.perform call).stage.index.contains id = true ∨
          others id ∨ ∃ command, call = .append id command := by
      rw [contains_queues_perform, contains_index_perform, h]
      tauto
    have hrest := ih hcall
    simp only [List.mem_cons, exists_or, @eq_comm _ (Call.append id _)]
    rw [or_assoc] at hrest
    exact hrest

/-- The ids with a queue are those of the tabs and those that something was appended to. -/
theorem contains_after_iff {settings : Settings} {calls : List Call} {id : ActionId} :
    (after settings calls).queues.contains id = true ↔
      (after settings calls).index.contains id = true ∨
        ∃ command, Call.append id command ∈ calls := by
  have hbare (id : ActionId) : (bare settings).queues.contains id = true ↔
      (bare settings).index.contains id = true ∨ False := by
    rw [Queues.contains_eq_true_iff]
    simp [Queues.ledger, bare, queues, TabIndex.contains, TabIndex.get?]
  have hsetup (command : String) : Call.append id command ∉ setup settings := by
    rw [setup]
    split <;> simp
  have hrun := contains_performAll_iff (setup settings ++ calls) hbare id
  rw [← after_eq_performAll, false_or] at hrun
  simpa [hsetup] using hrun

/-! ## Main statement -/

/-- A tab that is added stands on the board without a tracked position. Its id was bound to no tab
before, and had a queue before exactly if something was appended to it. That queue is now the tab's,
with all that was left in it; so the tab starts empty if nothing was ever appended to its id. -/
theorem queue_of_new_tab (settings : Settings) (calls : List Call) {call : Call} {id : ActionId}
    (h : ((after settings calls).perform call).reply = .tab (some id)) :
    let stage := after settings calls
    let stage' := (stage.perform call).stage
    ((stage'.tab? id).isSome = true ∧ stage'.tracked? id = none) ∧
    stage.index.contains id = false ∧
    (stage.queues.contains id = true ↔ ∃ command, Call.append id command ∈ calls) ∧
    stage'.queues.contains id = true ∧ stage'.queues.get id = stage.queues.get id ∧
    ((∀ command, Call.append id command ∉ calls) → stage'.queues.get id = []) := by
  intro stage stage'
  obtain ⟨sprite, hid, hstage⟩ : ∃ sprite, (stage.nextTab sprite).id = id ∧
      stage' = stage.withTab sprite := stage_of_reply_tab h
  have horderly : stage.OrderlyTabs := orderlyTabs_after settings calls
  have htab : stage'.tab? id = some (stage.nextTab sprite) := by
    rw [hstage]
    exact (horderly.withTab sprite).tab?_eq_some_iff.mpr
      ⟨_, List.mem_append_right _ (.head _), hid⟩
  have hfresh : stage.index.contains id = false := by
    rw [← Bool.not_eq_true, ← hid]
    exact fun hbound => horderly.nextTab_fresh sprite (isSome_lookup_iff.mp hbound)
  have hqueues : stage'.queues = stage.queues.ensure id := by
    rw [hstage, ← hid]
    rfl
  have hget : stage'.queues.get id = stage.queues.get id := by
    rw [hqueues, Queues.get_ensure]
  have hcontains : stage.queues.contains id = true ↔
      ∃ command, Call.append id command ∈ calls := by
    have hids : stage.queues.contains id = true ↔
        stage.index.contains id = true ∨ ∃ command, Call.append id command ∈ calls :=
      contains_after_iff
    rwa [hfresh, Bool.false_eq_true, false_or] at hids
  refine ⟨⟨?_, ?_⟩, hfresh, hcontains, ?_, hget, fun hnever => ?_⟩
  · rw [htab]
    rfl
  · rw [tracked?, htab]
    rfl
  · rw [hqueues]
    exact contains_ensure_of_contains (.inr rfl)
  · have hnone : ¬ stage.queues.contains id = true := fun hold =>
      (hcontains.mp hold).elim hnever
    rw [Queues.contains_eq_true_iff, not_not] at hnone
    rw [hget]
    exact congrArg (·.getD []) hnone

/-- The cat gets a second tab while its first one is playing, and the new tab is clean. -/
theorem second_tab_starts_clean :
    let calls : List Call := [.append ⟨"1"⟩ "Turn Left", .track ⟨"1"⟩ (some ⟨0, 0⟩), .play, .tick 1,
      .swap ⟨"1"⟩ ⟨"1-2"⟩]
    let stage := after {} calls
    let stage' := (stage.perform .addTab).stage
    (stage.perform .addTab).reply = .tab (some ⟨"1-2"⟩) ∧
    (stage'.tab? ⟨"1-2"⟩).isSome = true ∧ stage'.tracked? ⟨"1-2"⟩ = none ∧
    stage'.queues.get ⟨"1-2"⟩ = [] := by
  intro calls stage stage'
  have hreply : (stage.perform .addTab).reply = .tab (some ⟨"1-2"⟩) := by decide +kernel
  obtain ⟨⟨htab, htracked⟩, -, -, -, -, hclean⟩ := queue_of_new_tab {} calls hreply
  exact ⟨hreply, htab, htracked, hclean (by simp [calls])⟩

/-- A command that is appended to an id before there is a tab of that name is found in the queue of
the tab when it is added. -/
theorem not_clean_of_appended :
    ¬ ∀ (settings : Settings) (calls : List Call) (call : Call) (id : ActionId),
      ((after settings calls).perform call).reply = .tab (some id) →
        ((after settings calls).perform call).stage.queues.get id = [] ∧
          ((after settings calls).perform call).stage.tracked? id = none := by
  intro h
  have hclean := (h {} [.append ⟨"1-2"⟩ "Turn Left"] .addTab ⟨"1-2"⟩ (by decide +kernel)).1
  have hfound : ((after {} [.append ⟨"1-2"⟩ "Turn Left"]).perform .addTab).stage.queues.get
      ⟨"1-2"⟩ = ["Turn Left"] := by decide +kernel
  rw [hfound] at hclean
  cases hclean

end Stage

end SpriteStage
