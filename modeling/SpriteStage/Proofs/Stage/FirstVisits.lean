import SpriteStage.Proofs.Stage.Timetable

/-!
# First visits

To play is to open a playback and to let a tick of no length pass, which visits all lanes, also
those that were playing before. Between two ticks a lane either was never visited, and is due at
once, or it waits for a time that is not over. So a visit that takes no time off the wait does
nothing to a lane that was visited before, and the first visit of a lane gets it past one command,
whatever the tick it comes with. The module introduces:

* `Lane.begun`: what the first visit makes of a lane with commands;
* `FirstVisit lane next events steps`: all that the first visit of a lane does;
* `Stage.Poised`: how lanes look between two ticks, which is so on every reachable stage.

The main statement is `play_begins_waiting_lanes`.
-/

namespace SpriteStage

/-! ## Visits -/

/-- Nothing is due as long as a lane waits. -/
theorem pace_of_not_due (left : Nat) {cooldown : Float32} (h : ¬ cooldown ≤ 0) :
    pace left cooldown = ⟨0, cooldown, false⟩ := by
  cases left with
  | zero => rw [pace, decide_eq_false h]
  | succ left => rw [pace, if_neg h]

/-- A lane that plays on waits, as all that was due has been done. -/
theorem not_due_of_not_finished {left : Nat} {cooldown : Float32}
    (h : (pace left cooldown).finished = false) : ¬ (pace left cooldown).cooldown ≤ 0 := by
  -- The steps end with a lane that is finished or with one that waits.
  induction left generalizing cooldown with
  | zero => exact of_decide_eq_false h
  | succ left ih =>
    rw [pace] at h ⊢
    split at h
    · next hdue =>
      rw [if_pos hdue]
      exact ih h
    · next hwaits => rwa [if_neg hwaits]

/-- Without a wait, one command is due, and a lane that has none is finished. -/
theorem pace_at_once (left : Nat) :
    pace left 0 = if left = 0 then ⟨0, 0, true⟩ else ⟨1, pacingInterval, false⟩ := by
  cases left with
  | zero => rfl
  | succ left =>
    have hdue : (0 : Float32) ≤ 0 := by decide
    have hwaits : ¬ 0 + pacingInterval ≤ 0 := by decide
    rw [pace, if_pos hdue, pace_of_not_due left hwaits, if_neg (Nat.succ_ne_zero left)]
    rfl

namespace Lane

/-- A lane with commands after its first visit. -/
def begun (lane : Lane) : Lane :=
  { lane with cursor := 1, cooldown := pacingInterval, started := true }

/-- A lane as it is between two ticks: due at once if it was not visited, and waiting if it was. -/
structure Poised (lane : Lane) : Prop where
  /-- A lane that was not visited is as it was opened. -/
  fresh : lane.started = false → lane.cursor = 0 ∧ lane.cooldown = 0
  /-- A lane that was visited waits for its next step. -/
  waits : lane.started = true → ¬ lane.cooldown ≤ 0

variable {lane : Lane}

theorem paceOf_of_fresh (h : lane.Poised) (hstarted : lane.started = false) (seconds : Float32) :
    lane.paceOf seconds = pace lane.commands.length 0 := by
  obtain ⟨hcursor, hcooldown⟩ := h.fresh hstarted
  rw [paceOf_of_not_started hstarted, hcursor, hcooldown, Nat.sub_zero]

/-- The first visit of a lane with commands begins with the first of them. -/
theorem visit_of_fresh (h : lane.Poised) (hstarted : lane.started = false)
    (hcommands : lane.commands ≠ []) (seconds : Float32) :
    lane.visit seconds = ⟨lane.begun, lane.commands.take 1, false⟩ := by
  have hpace : lane.paceOf seconds = ⟨1, pacingInterval, false⟩ := by
    rw [paceOf_of_fresh h hstarted, pace_at_once,
      if_neg fun hlength => hcommands (List.length_eq_zero_iff.mp hlength)]
  rw [visit, hpace, (h.fresh hstarted).1]
  rfl

/-- The first visit of a lane without commands finishes it. -/
theorem finished_visit_of_fresh (h : lane.Poised) (hstarted : lane.started = false)
    (seconds : Float32) : (lane.visit seconds).finished = true ↔ lane.commands = [] := by
  rw [finished_visit, paceOf_of_fresh h hstarted, pace_at_once, ← List.length_eq_zero_iff]
  split
  · next hnone => exact iff_of_true rfl hnone
  · next hsome => exact iff_of_false Bool.false_ne_true hsome

/-- What is due in the first visit is the first command, if there is one. -/
theorem due_visit_of_fresh (h : lane.Poised) (hstarted : lane.started = false)
    (seconds : Float32) : (lane.visit seconds).due = lane.commands.take 1 := by
  by_cases hcommands : lane.commands = []
  · rw [due_visit, hcommands, List.drop_nil, List.take_nil, List.take_nil]
  · rw [visit_of_fresh h hstarted hcommands]

/-- A visit that takes no time leaves a lane that waits as it is. -/
theorem visit_of_waiting (h : lane.Poised) (hstarted : lane.started = true) :
    lane.visit 0 = ⟨lane, [], false⟩ := by
  have hpace : lane.paceOf 0 = ⟨0, lane.cooldown, false⟩ := by
    rw [paceOf_of_started hstarted, seconds_sub_zero, pace_of_not_due _ (h.waits hstarted)]
  rw [visit, hpace, ← hstarted]
  rfl

end Lane

/-! ## Ticks -/

/-- The first visit of a lane, in a call that leads to the stage `next`: the `events` are reported
in it, and the `steps` are applied. -/
structure FirstVisit (lane : Lane) (next : Stage) (events : List Event)
    (steps : List (Lane × String)) : Prop where
  /-- The lane applies its first command, and no other. -/
  applied : taken steps (·.key = lane.key) = lane.commands.take 1
  /-- If it has commands, it plays on behind the first one. -/
  begins : lane.commands ≠ [] → lane.begun ∈ next.performance.lanes
  /-- If it has none, it is taken away. -/
  ends : lane.commands = [] → lane.key ∉ next.performance.lanes.map Lane.key
  /-- If it has none, it is reported to be over. -/
  reported : ∀ time, .laneFinished lane.playback lane.action time ∈ events ↔
    time = next.elapsed ∧ lane.commands = []

/-- A tick of no length takes no time for the lanes. -/
theorem Performance.lapse_zero (performance : Performance) : performance.lapse 0 = 0 := by
  have hnone : positivePart 0 = 0 := if_neg (by decide)
  rw [lapse, Clock.delta_advance, hnone, positivePart_zero_mul]

/-- An opening adds lanes that are due at once. -/
theorem Performance.poised_of_mem_newLanes {performance : Performance} {script : Script}
    {spriteOf? : ActionId → Option SpriteId} {lane : Lane}
    (h : lane ∈ performance.newLanes script spriteOf?) : lane.Poised := by
  obtain ⟨_, -, rfl⟩ := List.mem_map.mp h
  exact ⟨fun _ => ⟨rfl, rfl⟩, nofun⟩

/-- Where all lanes are poised, a tick of no length applies the first commands of those that were
not visited. -/
theorem taken_steps_visit_zero {lanes : List Lane} (h : ∀ lane ∈ lanes, lane.Poised)
    (id : SpriteId) :
    taken ((lanes.map (·.visit 0)).flatMap Visit.steps) (·.sprite = some id) =
      ((lanes.filter (!·.started)).filter (·.sprite = some id)).flatMap (·.commands.take 1) := by
  induction lanes with
  | nil => rfl
  | cons lane lanes ih =>
    have hlane := h lane (.head _)
    rw [List.map_cons, List.flatMap_cons, taken_append, Visit.taken_steps, Lane.sprite_visit,
      ih fun other hother => h other (.tail _ hother)]
    cases hstarted : lane.started with
    | true =>
      rw [Lane.visit_of_waiting hlane hstarted, List.filter_cons_of_neg (by simp [hstarted]),
        ite_self, List.nil_append]
    | false =>
      rw [Lane.due_visit_of_fresh hlane hstarted, List.filter_cons_of_pos (by simp [hstarted]),
        List.filter_cons]
      split
      · rfl
      · rfl

namespace Stage

variable {stage : Stage} {lane : Lane}

/-- The lanes of a stage are as they are between two ticks. -/
structure Poised (stage : Stage) : Prop where
  /-- The books of the performance are in order. -/
  kept : ∃ opened events, stage.performance.Kept opened events
  /-- Each lane is due at once or waits. -/
  lanes : ∀ lane ∈ stage.performance.lanes, lane.Poised

theorem Poised.live_nodup (h : stage.Poised) :
    (stage.performance.lanes.map Lane.key).Nodup := by
  obtain ⟨_, _, hkept⟩ := h.kept
  exact hkept.live_nodup

theorem Poised.start (h : stage.Poised) (script : Script) :
    (stage.start script).2.1.Poised where
  kept := by
    obtain ⟨_, _, hkept⟩ := h.kept
    exact ⟨_, _, hkept.start script stage.index.spriteOf?⟩
  lanes := by
    intro lane hlane
    rcases List.mem_append.mp hlane with hold | hnew
    · exact h.lanes lane hold
    · exact Performance.poised_of_mem_newLanes hnew

/-- A lane that was visited waits for its next step. -/
theorem not_due_after (settings : Settings) (calls : List Call) :
    ∀ lane ∈ (after settings calls).performance.lanes, lane.started = true →
      ¬ lane.cooldown ≤ 0 := by
  refine after_induction (P := fun stage => ∀ lane ∈ stage.performance.lanes,
    lane.started = true → ¬ lane.cooldown ≤ 0) (fun _ => nofun) ?_ ?_ ?_ settings calls
  · intro stage call stage' hedit h
    rwa [(performance_edit hedit).1]
  · intro stage script h lane hlane hstarted
    rcases List.mem_append.mp hlane with hold | hnew
    · exact h lane hold hstarted
    · exact (Performance.poised_of_mem_newLanes hnew).waits hstarted
  · -- The visit that a tick has just made would have gone on with what is due.
    intro stage dt h lane hlane hstarted
    obtain ⟨live, -, hplays, rfl⟩ := Performance.mem_lanes_tick_iff.mp hlane
    exact not_due_of_not_finished hplays

/-- On every reachable stage, each lane waits for its next step, or it was not visited yet and is
due at once. -/
theorem poised_after (settings : Settings) (calls : List Call) :
    (after settings calls).Poised where
  kept := ⟨_, _, (kept_after settings calls).1⟩
  lanes := fun lane hlane =>
    ⟨waits_after settings calls lane hlane, not_due_after settings calls lane hlane⟩

/-- A tick reports the lanes that do not play on. -/
theorem Poised.laneFinished_mem_tick (h : stage.Poised) (hlane : lane ∈ stage.performance.lanes)
    {dt time : Float32} :
    .laneFinished lane.playback lane.action time ∈ (stage.tick dt).2 ↔
      time = (stage.tick dt).1.elapsed ∧
        lane.key ∉ (stage.tick dt).1.performance.lanes.map Lane.key := by
  obtain ⟨_, _, hkept⟩ := h.kept
  -- The events that follow those of the lanes are collisions.
  have hevents : .laneFinished lane.playback lane.action time ∈ (stage.tick dt).2 ↔
      .laneFinished lane.playback lane.action time ∈ (stage.performance.tick dt).2 := by
    refine List.mem_append.trans (or_iff_left fun hcollision => ?_)
    obtain ⟨_, -, heq⟩ := List.mem_map.mp hcollision
    cases heq
  rw [hevents, hkept.laneFinished_mem_tick]
  exact and_congr_right fun _ => and_iff_right (List.mem_map_of_mem hlane)

/-- A tick makes the first visit of each lane that was not visited. -/
theorem Poised.firstVisit_tick (h : stage.Poised) (hlane : lane ∈ stage.performance.lanes)
    (hstarted : lane.started = false) (dt : Float32) :
    FirstVisit lane (stage.tick dt).1 (stage.tick dt).2 (stage.performance.steps dt) := by
  have hpoised := h.lanes lane hlane
  have hplays : lane.key ∈ (stage.tick dt).1.performance.lanes.map Lane.key ↔
      lane.commands ≠ [] := by
    refine (Performance.key_mem_tick_iff h.live_nodup hlane dt).trans ?_
    rw [← Bool.not_eq_true, Lane.finished_visit_of_fresh hpoised hstarted]
  refine ⟨?_, fun hcommands => ?_, fun hnone => ?_, fun time => ?_⟩
  · rw [Performance.taken_steps_of_mem h.live_nodup hlane,
      Lane.due_visit_of_fresh hpoised hstarted]
  · refine Performance.mem_lanes_tick_iff.mpr ⟨lane, hlane, ?_⟩
    rw [Lane.visit_of_fresh hpoised hstarted hcommands]
    exact ⟨rfl, rfl⟩
  · rw [hplays, hnone]
    exact fun hsome => hsome rfl
  · rw [h.laneFinished_mem_tick hlane, hplays, not_not]

/-- A tick of no length does nothing to a lane that was visited before. -/
theorem Poised.tick_zero_of_started (h : stage.Poised) (hlane : lane ∈ stage.performance.lanes)
    (hstarted : lane.started = true) :
    lane ∈ (stage.tick 0).1.performance.lanes ∧
      taken (stage.performance.steps 0) (·.key = lane.key) = [] ∧
      ∀ time, .laneFinished lane.playback lane.action time ∉ (stage.tick 0).2 := by
  have hvisit : lane.visit (stage.performance.lapse 0) = ⟨lane, [], false⟩ := by
    rw [Performance.lapse_zero, Lane.visit_of_waiting (h.lanes lane hlane) hstarted]
  have hplays : lane ∈ (stage.tick 0).1.performance.lanes := by
    refine Performance.mem_lanes_tick_iff.mpr ⟨lane, hlane, ?_⟩
    rw [hvisit]
    exact ⟨rfl, rfl⟩
  refine ⟨hplays, ?_, fun time hevent => ?_⟩
  · rw [Performance.taken_steps_of_mem h.live_nodup hlane, hvisit]
  · exact ((h.laneFinished_mem_tick hlane).mp hevent).2 (List.mem_map_of_mem hplays)

/-- After a tick of no length play the lanes that were visited before, and those that have begun. -/
theorem Poised.mem_lanes_tick_zero (h : stage.Poised)
    (hlane : lane ∈ (stage.tick 0).1.performance.lanes) :
    (lane ∈ stage.performance.lanes ∧ lane.started = true) ∨
      ∃ fresh ∈ stage.performance.lanes.filter (!·.started), lane = fresh.begun := by
  -- The lane is what the visit has left of one that was live.
  obtain ⟨live, hlive, hplays, rfl⟩ := Performance.mem_lanes_tick_iff.mp hlane
  have hpoised := h.lanes live hlive
  rw [Performance.lapse_zero] at hplays ⊢
  cases hstarted : live.started with
  | true =>
    rw [Lane.visit_of_waiting hpoised hstarted]
    exact .inl ⟨hlive, hstarted⟩
  | false =>
    refine .inr ⟨live, List.mem_filter.mpr ⟨hlive, by rw [hstarted]; rfl⟩, ?_⟩
    have hcommands : live.commands ≠ [] := by
      rw [Ne, ← Lane.finished_visit_of_fresh hpoised hstarted 0, hplays]
      exact Bool.false_ne_true
    rw [Lane.visit_of_fresh hpoised hstarted hcommands]

/-- A tick of no length moves bodies along the first commands of lanes that were not visited. -/
theorem Poised.body?_tick_zero (h : stage.Poised) (id : SpriteId) :
    (stage.tick 0).1.cast.body? id = (stage.cast.body? id).map (·.follow
      (((stage.performance.lanes.filter (!·.started)).filter (·.sprite = some id)).flatMap
        (·.commands.take 1))) := by
  refine (stage.performance.body?_tick 0 id).trans ?_
  rw [Performance.steps, Performance.visits, Performance.lapse_zero, taken_steps_visit_zero h.lanes]
  rfl

/-! ## Main statement -/

/-- Playing begins lanes, and lets none of them advance that had begun before. On every reachable
stage, and for every time scale:

* a lane that was visited before a script or all queues are played stays as it is: it applies
  nothing, and it is not reported to be over;
* every lane that was not visited, whether the call opened it or an earlier one did, has its first
  visit then: it applies its first command and waits for the next one, or it is over if it has none;
* no other lane plays afterwards;
* every sprite moves along these first commands, and nothing else happens to it.

The first visit of a lane is the same in a tick of any length, and sprites move along what the lanes
apply in it. -/
theorem play_begins_waiting_lanes (settings : Settings) (calls : List Call) :
    let stage := after settings calls
    let lanes := stage.performance.lanes
    (∀ call, call = .play ∨ (∃ script, call = .playScript script) →
      let next := stage.perform call
      let waiting := (lanes ++ stage.opens call).filter (!·.started)
      (∀ lane ∈ lanes, lane.started = true →
        lane ∈ next.stage.performance.lanes ∧
        taken (stage.steps call) (·.key = lane.key) = [] ∧
        ∀ time, .laneFinished lane.playback lane.action time ∉ next.events) ∧
      (∀ lane ∈ waiting, FirstVisit lane next.stage next.events (stage.steps call)) ∧
      (∀ lane ∈ next.stage.performance.lanes,
        (lane ∈ lanes ∧ lane.started = true) ∨ ∃ fresh ∈ waiting, lane = fresh.begun) ∧
      ∀ id, next.stage.cast.body? id = (stage.cast.body? id).map (·.follow
        ((waiting.filter (·.sprite = some id)).flatMap (·.commands.take 1)))) ∧
    (∀ dt, ∀ lane ∈ lanes, lane.started = false →
      FirstVisit lane (stage.tick dt).1 (stage.tick dt).2 (stage.steps (.tick dt))) ∧
    ∀ dt id, (stage.tick dt).1.cast.body? id = (stage.cast.body? id).map (·.follow
      (taken (stage.steps (.tick dt)) (·.sprite = some id))) := by
  intro stage lanes
  have hstage := poised_after settings calls
  refine ⟨?_, fun dt lane hlane hstarted => hstage.firstVisit_tick hlane hstarted dt,
    fun dt id => stage.performance.body?_tick dt id⟩
  intro call hcall
  -- Both calls play a script: the one that is given, or the one that all queues make up.
  obtain ⟨script, hperform, hopens, hsteps⟩ : ∃ script,
      stage.perform call = opened (stage.playScript script) ∧
        stage.opens call = stage.opens (.start script) ∧
        stage.steps call = (stage.start script).2.1.performance.steps 0 := by
    rcases hcall with rfl | ⟨script, rfl⟩
    · exact ⟨stage.queues.script, rfl, rfl, rfl⟩
    · exact ⟨script, rfl, rfl, rfl⟩
  rw [hperform, hopens, hsteps]
  intro next waiting
  have hopened : (stage.start script).2.1.Poised := hstage.start script
  -- An opening reports no lane, so the reports on lanes are those of the tick.
  have hevents (lane : Lane) (time : Float32) :
      .laneFinished lane.playback lane.action time ∈ next.events ↔
        .laneFinished lane.playback lane.action time ∈ ((stage.start script).2.1.tick 0).2 :=
    List.mem_append.trans (or_iff_right Performance.laneFinished_not_mem_start)
  refine ⟨fun lane hlane hstarted => ?_, fun lane hlane => ?_, fun lane hlane => ?_,
    hopened.body?_tick_zero⟩
  · obtain ⟨hplays, hnone, hreports⟩ :=
      hopened.tick_zero_of_started (List.mem_append_left _ hlane) hstarted
    exact ⟨hplays, hnone, fun time hevent => hreports time ((hevents lane time).mp hevent)⟩
  · obtain ⟨hlane, hstarted⟩ := List.mem_filter.mp hlane
    obtain ⟨happlied, hbegins, hends, hreported⟩ :=
      hopened.firstVisit_tick hlane (by simpa using hstarted) 0
    exact ⟨happlied, hbegins, hends, fun time => (hevents lane time).trans (hreported time)⟩
  · refine (hopened.mem_lanes_tick_zero hlane).imp_left fun ⟨hmem, hstarted⟩ => ⟨?_, hstarted⟩
    -- A lane that the call opened had not been visited before.
    refine (List.mem_append.mp hmem).resolve_right fun hnew => ?_
    obtain ⟨_, -, rfl⟩ := List.mem_map.mp hnew
    cases hstarted

end Stage

end SpriteStage
