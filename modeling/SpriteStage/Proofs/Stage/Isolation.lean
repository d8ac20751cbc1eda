import SpriteStage.Proofs.Stage.CollisionPass

/-!
# Playback does not depend on the board

A playback copies queues when it starts, and looks up the sprites of their ids then. What happens to
queues, tracked positions and the selection afterwards, and what the monitor makes of it, does not
reach the performance. The module introduces:

* `Call.concernsBoard`: the calls that are about the board alone;
* `Stage.showings`: what a run shows of its playbacks, after each of its other calls;
* `Stage.Alike`: two stages on which playbacks go the same way;
* `showings_filter`: the calls that concern the board can be left out of a run.

The main statement, `showings_eq_of_filter_eq`, is about two runs that differ in such calls.
-/

namespace SpriteStage

/-- The call concerns the board alone, or the selection of a tab. -/
def Call.concernsBoard : Call → Bool
  | selectTab _ | track _ _ | removeTab _ | append _ _ | deleteAt _ _ | swap _ _ => true
  | _ => false

/-- What a call shows of the playbacks on a stage. -/
structure Showing where
  /-- The answer. -/
  reply : Reply
  /-- Clock, sprites, lanes and tracker after the call. -/
  performance : Performance
  /-- The lanes and playbacks that were reported to be over, in order. -/
  events : List Event

/-- What is shown of the playbacks when a call has led to an outcome. -/
def Outcome.showing (outcome : Outcome) : Showing where
  reply := outcome.reply
  performance := outcome.stage.performance
  events := outcome.events.filter (!·.isCollision)

namespace Stage

/-- What a run shows of its playbacks, after each call that does not concern the board. -/
def showings (stage : Stage) : List Call → List Showing
  | [] => []
  | call :: calls =>
    let outcome := stage.perform call
    if call.concernsBoard then outcome.stage.showings calls
    else outcome.showing :: outcome.stage.showings calls

/-- The stage with a monitor that tracks tabs at the positions of their sprites, or does not. -/
def following (stage : Stage) (follow : Bool) : Stage :=
  { stage with board.monitor.followSprites := follow }

/-- Playbacks go the same way on two stages: the sprites, lanes and bindings are the same, and so is
the slot that the next tab gets. -/
structure Alike (stage stage' : Stage) : Prop where
  /-- The moving halves are the same. -/
  performance : stage.performance = stage'.performance
  /-- The same ids are bound to the same sprites. -/
  bindings : stage.index.bindings = stage'.index.bindings
  /-- The next tab gets the same slot. -/
  nextSlot : stage.board.nextSlot = stage'.board.nextSlot

variable {stage stage' : Stage}

theorem Alike.symm (h : stage.Alike stage') : stage'.Alike stage :=
  ⟨h.performance.symm, h.bindings.symm, h.nextSlot.symm⟩

theorem Alike.trans {stage'' : Stage} (h : stage.Alike stage') (h' : stage'.Alike stage'') :
    stage.Alike stage'' :=
  ⟨h.performance.trans h'.performance, h.bindings.trans h'.bindings, h.nextSlot.trans h'.nextSlot⟩

theorem alike_following (stage : Stage) (follow : Bool) : stage.Alike (stage.following follow) :=
  ⟨rfl, rfl, rfl⟩

/-! ## Calls that concern the board -/

/-- A call that concerns the board does not reach the playbacks. -/
theorem alike_perform_of_concernsBoard (stage : Stage) {call : Call}
    (hcall : call.concernsBoard = true) : stage.Alike (stage.perform call).stage := by
  have hedit : call.isEdit = true := by
    cases call with
    | start | playScript | play | tick => cases hcall
    | _ => rfl
  have hperformed := edit_perform stage hedit
  generalize (stage.perform call).stage = stage' at hperformed
  cases hperformed with
  | removeTab _ hboard =>
    obtain ⟨_, -, rfl⟩ := rows_remove? hboard
    exact ⟨rfl, rfl, rfl⟩
  | addSprite | selectSprite | updateSprite | takeOffSprite | dropRotation => cases hcall
  | addTab sprite h => rcases h with rfl | rfl <;> cases hcall
  | refused | selectTab | track | append | deleteAt | swap => exact ⟨rfl, rfl, rfl⟩

/-! ## Other calls -/

theorem Alike.cast_eq (h : stage.Alike stage') : stage.cast = stage'.cast :=
  congrArg Performance.cast h.performance

/-- A call that exchanges the cast, or is refused, does so on both stages. -/
theorem Alike.attempt (h : stage.Alike stage') {next next' : Option Cast} (hnext : next = next') :
    (stage.attempt (next.map stage.withCast)).showing =
        (stage'.attempt (next'.map stage'.withCast)).showing ∧
      (stage.attempt (next.map stage.withCast)).stage.Alike
        (stage'.attempt (next'.map stage'.withCast)).stage := by
  subst hnext
  cases next with
  | none => exact ⟨by simp [Stage.attempt, Outcome.showing, h.performance], h⟩
  | some cast =>
    refine ⟨?_, ?_, h.bindings, h.nextSlot⟩
    · simp [Stage.attempt, Outcome.showing, withCast, h.performance]
    · simp [Stage.attempt, withCast, h.performance]

/-- A tab is added on both stages or on none, under the same id. -/
theorem Alike.addTabFor? (h : stage.Alike stage') (sprite : SpriteId) :
    (stage.attemptTab (stage.addTabFor? sprite)).showing =
        (stage'.attemptTab (stage'.addTabFor? sprite)).showing ∧
      (stage.attemptTab (stage.addTabFor? sprite)).stage.Alike
        (stage'.attemptTab (stage'.addTabFor? sprite)).stage := by
  have hindex : stage.index.nextIndex sprite = stage'.index.nextIndex sprite := by
    simp only [TabIndex.nextIndex, h.bindings]
  have hperformance : (stage.withTab sprite).performance = (stage'.withTab sprite).performance := by
    simp only [withTab, h.cast_eq, h.performance]
  rw [addTabFor?_eq, addTabFor?_eq, h.cast_eq]
  split
  · refine ⟨?_, hperformance, ?_, congrArg (· + 1) h.nextSlot⟩
    · simp [attemptTab, Outcome.showing, nextTab, hindex, hperformance]
    · simp [attemptTab, withTab, TabIndex.enter, nextTab, hindex, h.bindings, h.nextSlot]
  · exact ⟨by simp [attemptTab, Outcome.showing, h.performance], h⟩

/-- Of a tick, lanes and playbacks show what the performance reports. -/
theorem filter_events_tick (stage : Stage) (dt : Float32) :
    (stage.tick dt).2.filter (!·.isCollision) = (stage.performance.tick dt).2 := by
  rw [events_tick, List.filter_append]
  have hlanes : (stage.performance.tick dt).2.filter (!·.isCollision) =
      (stage.performance.tick dt).2 :=
    List.filter_eq_self.mpr fun event hevent => by simp [isCollision_close _ _ _ event hevent]
  have hreports : ((stage.watched dt).pass.2.map Event.collided).filter (!·.isCollision) = [] :=
    List.filter_eq_nil_iff.mpr fun event hevent => by
      obtain ⟨collision, -, rfl⟩ := List.mem_map.mp hevent
      simp [Event.isCollision]
  rw [hlanes, hreports, List.append_nil]

/-- The collisions of a tick are those that the monitor finds. -/
theorem filter_collisions_tick (stage : Stage) (dt : Float32) :
    (stage.tick dt).2.filter (·.isCollision) = (stage.watched dt).pass.2.map .collided := by
  rw [events_tick, List.filter_append]
  have hlanes : (stage.performance.tick dt).2.filter (·.isCollision) = [] :=
    List.filter_eq_nil_iff.mpr fun event hevent => by simp [isCollision_close _ _ _ event hevent]
  have hreports : ((stage.watched dt).pass.2.map Event.collided).filter (·.isCollision) =
      (stage.watched dt).pass.2.map .collided :=
    List.filter_eq_self.mpr fun event hevent => by
      obtain ⟨collision, -, rfl⟩ := List.mem_map.mp hevent
      rfl
  rw [hlanes, hreports, List.nil_append]

theorem Alike.tick (h : stage.Alike stage') (dt : Float32) :
    (stage.tick dt).1.Alike (stage'.tick dt).1 where
  performance := congrArg (fun performance => (performance.tick dt).1) h.performance
  bindings := h.bindings
  nextSlot := by
    rw [board_tick, board_tick, Board.nextSlot_pass, Board.nextSlot_pass,
      (stage.watched_frame dt).1, (stage'.watched_frame dt).1, h.nextSlot]

/-- An opening looks up sprites in the index, and nothing else besides the performance. -/
theorem Alike.start (h : stage.Alike stage') (script : Script) :
    (stage.start script).1 = (stage'.start script).1 ∧
      (stage.start script).2.1.Alike (stage'.start script).2.1 ∧
      (stage.start script).2.2 = (stage'.start script).2.2 := by
  have hsprites : stage.index.spriteOf? = stage'.index.spriteOf? := by
    funext id
    simp only [TabIndex.spriteOf?, TabIndex.get?, h.bindings]
  have hstart : stage.performance.start script stage.index.spriteOf? =
      stage'.performance.start script stage'.index.spriteOf? := by
    rw [h.performance, hsprites]
  simp only [Stage.start, hstart]
  exact ⟨trivial, ⟨rfl, h.bindings, h.nextSlot⟩, trivial⟩

/-- On stages that are alike, a call that does not concern the board shows the same, and leaves them
alike. Only a call that plays the queues of the board is left out. -/
theorem Alike.perform (h : stage.Alike stage') {call : Call} (hcall : call.concernsBoard = false)
    (hplay : call ≠ .play) :
    (stage.perform call).showing = (stage'.perform call).showing ∧
      (stage.perform call).stage.Alike (stage'.perform call).stage := by
  cases call with
  | addSprite kind =>
    have hperformance : (stage.addSprite kind).2.performance =
        (stage'.addSprite kind).2.performance := by
      simp only [addSprite, withCast, h.cast_eq, h.performance]
    refine ⟨?_, hperformance, h.bindings, h.nextSlot⟩
    simp only [Outcome.showing, Stage.perform, hperformance]
    simp only [addSprite, h.cast_eq]
  | selectSprite id => exact h.attempt (congrArg (Roster.select? · id) h.cast_eq)
  | updateSprite id f => exact h.attempt (congrArg (Cast.move? · id f) h.cast_eq)
  | takeOffSprite id => exact h.attempt (congrArg (Cast.takeOff? · id) h.cast_eq)
  | dropRotation id => exact h.attempt (congrArg (Cast.dropRotation? · id) h.cast_eq)
  | addTab =>
    simp only [Stage.perform, addTab?, h.cast_eq]
    cases stage'.cast.current with
    | none => exact ⟨by simp [attemptTab, Outcome.showing, h.performance], h⟩
    | some sprite => exact h.addTabFor? sprite
  | addTabFor sprite => exact h.addTabFor? sprite
  | start script =>
    obtain ⟨hid, halike, hevents⟩ := h.start script
    refine ⟨?_, halike⟩
    simp only [Outcome.showing, Stage.perform, opened, hid, halike.performance, hevents]
  | playScript script =>
    obtain ⟨hid, halike, hevents⟩ := h.start script
    refine ⟨?_, halike.tick 0⟩
    simp only [Outcome.showing, Stage.perform, opened, playScript_eq, List.filter_append,
      filter_events_tick, hid, hevents, (halike.tick 0).performance, halike.performance]
  | play => exact absurd rfl hplay
  | tick dt =>
    refine ⟨?_, h.tick dt⟩
    simp only [Outcome.showing, Stage.perform, filter_events_tick, (h.tick dt).performance,
      h.performance]
  | selectTab | track | removeTab | append | deleteAt | swap => cases hcall

/-! ## Main statement -/

/-- Leaving out the calls that concern the board changes nothing of what a run shows. -/
theorem showings_filter (h : stage.Alike stage') {calls : List Call} (hplay : .play ∉ calls) :
    stage.showings calls = stage'.showings (calls.filter (!·.concernsBoard)) := by
  induction calls generalizing stage stage' with
  | nil => rfl
  | cons call calls ih =>
    have hrest : .play ∉ calls := fun hmem => hplay (.tail _ hmem)
    cases hcall : call.concernsBoard with
    | true =>
      have hkept := (alike_perform_of_concernsBoard stage hcall).symm.trans h
      rw [List.filter_cons_of_neg (by simp [hcall]), showings, if_pos hcall, ih hkept hrest]
    | false =>
      obtain ⟨hshowing, halike⟩ := h.perform hcall fun heq => hplay (heq ▸ .head _)
      rw [List.filter_cons_of_pos (by simp [hcall]), showings, showings, if_neg (by simp [hcall]),
        if_neg (by simp [hcall]), hshowing, ih halike hrest]

/-- Playback is isolated from queues and collisions. Take two runs from any stage, of which one may
track tabs at their sprites while the other does not. They make the same calls, apart from any that
edit or exchange queues, track tabs, select them or take them off the board, and no call plays the
queues as they stand on the board. Then after every common call both runs show the same: the
answer, the sprites, the lanes, the tracker, the time, and the lanes and playbacks that are reported
over. -/
theorem showings_eq_of_filter_eq (stage : Stage) (follow follow' : Bool) {calls calls' : List Call}
    (hcommon : calls.filter (!·.concernsBoard) = calls'.filter (!·.concernsBoard))
    (hplay : .play ∉ calls) :
    (stage.following follow).showings calls = (stage.following follow').showings calls' := by
  have hplay' : .play ∉ calls' := by
    intro hmem
    have hcall : Call.play ∈ calls'.filter (!·.concernsBoard) := List.mem_filter.mpr ⟨hmem, rfl⟩
    exact hplay (List.mem_of_mem_filter (hcommon ▸ hcall))
  rw [showings_filter (stage.alike_following follow).symm hplay, hcommon,
    ← showings_filter (stage.alike_following follow').symm hplay']

/-- The cat plays the same script whether its two tabs exchange queues in the tick that starts the
playback, and its queue is edited before the next, or nothing happens on the board. -/
theorem cat_plays_through_edits :
    let script : Script := (∅ : Script).insert ⟨"1"⟩ ["Turn Right", "Move Right 5"]
    let calls : List Call := [.addTabFor ⟨1⟩, .track ⟨"1"⟩ (some ⟨0, 0⟩),
      .track ⟨"1-2"⟩ (some ⟨10, 10⟩), .playScript script, .append ⟨"1"⟩ "Turn Left", .tick 1]
    let calls' : List Call := [.addTabFor ⟨1⟩, .playScript script, .tick 1]
    calls.filter (!·.concernsBoard) = calls'.filter (!·.concernsBoard) ∧ .play ∉ calls ∧
      ((new {}).following false).showings calls = ((new {}).following true).showings calls' := by
  intro script calls calls'
  have hcommon : calls.filter (!·.concernsBoard) = calls'.filter (!·.concernsBoard) := rfl
  have hplay : .play ∉ calls := by simp [calls]
  exact ⟨hcommon, hplay, showings_eq_of_filter_eq (new {}) false true hcommon hplay⟩

end Stage

end SpriteStage
