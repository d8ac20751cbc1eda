import SpriteStage.Proofs.Stage.Runs
import SpriteStage.Proofs.Settings.TickLengths
import SpriteStage.Proofs.Playback.Waits
import SpriteStage.Proofs.Stage.ManualTracking

/-!
# Tick rates at which playbacks end

A playback is over when all its lanes are, and a lane is over when it has waited for half a second
after each of its commands. At a rate below `2 ^ 26 - 2`, every tick brings every lane nearer to its
end. From there on, a tick takes nothing off a full wait any more, so that no playback with a
command ends. The module introduces:

* `isWait_after`: on every reachable stage, lanes that were visited wait for a positive number of
  seconds, half a second at most;
* `Winds stage gain n`: all lanes were visited, and get no more than `n` further visits;
* `lanes_ticks_of_winds`: after `n` ticks, no lane is left;
* `mem_lanes_ticks_of_full_wait`: a lane that waits for half a second is as it was, after any number
  of ticks.

The main statement is `playbacks_end_iff`.
-/

namespace SpriteStage

open Performance (mem_lanes_tick_iff)

namespace Stage

variable {stage : Stage} {settings : Settings} {calls : List Call} {dt : Float32}

/-! ## Reachable stages -/

/-- The clock of a stage keeps the time scale that it was set up with. -/
theorem scale_performAll (stage : Stage) (calls : List Call) :
    (stage.performAll calls).1.performance.clock.scale = stage.performance.clock.scale := by
  refine performAll_induction
    (P := fun later => later.performance.clock.scale = stage.performance.clock.scale) ?_ calls rfl
  intro later call hlater
  refine perform_induction
    (P := fun later => later.performance.clock.scale = stage.performance.clock.scale) ?_
    (fun _ _ h => h) (fun _ _ h => h) call hlater
  intro _ _ _ hedit h
  rwa [(performance_edit hedit).2.2]

theorem scale_after (settings : Settings) (calls : List Call) :
    (after settings calls).performance.clock.scale = settings.timeScale := by
  rw [after_eq_performAll]
  exact scale_performAll _ _

/-- On every reachable stage, lanes that were visited wait for a positive number of seconds, half a
second at most. -/
theorem isWait_after (settings : Settings) (calls : List Call) :
    ∀ lane ∈ (after settings calls).performance.lanes, lane.started = true →
      IsWait lane.cooldown := by
  have hafter := after_induction (P := fun stage => ∀ lane ∈ stage.performance.lanes,
    lane.Poised ∧ (lane.started = true → IsWait lane.cooldown)) (fun _ => nofun) ?_ ?_ ?_
    settings calls
  · exact fun lane hlane => (hafter lane hlane).2
  · intro stage call stage' hedit h
    rwa [(performance_edit hedit).1]
  · intro stage script h lane hlane
    rcases List.mem_append.mp hlane with hold | hnew
    · exact h lane hold
    · obtain ⟨_, -, rfl⟩ := List.mem_map.mp hnew
      exact ⟨Performance.poised_of_mem_newLanes hnew, nofun⟩
  · intro stage dt h lane hlane
    obtain ⟨live, hlive, hplays, rfl⟩ := mem_lanes_tick_iff.mp hlane
    obtain ⟨hpoised, hwait⟩ := h live hlive
    exact ⟨⟨nofun, fun _ => not_due_of_not_finished hplays⟩, fun _ =>
      Lane.isWait_of_visit hpoised hwait hplays⟩

/-- To play a script is to do one more call. -/
theorem playScript_after (settings : Settings) (calls : List Call) (script : Script) :
    ((after settings calls).playScript script).2.1 =
      after settings (calls ++ [.playScript script]) :=
  (after_concat settings calls (.playScript script)).symm

theorem play_eq (stage : Stage) : stage.play = stage.playScript stage.queues.script := rfl

/-- Playing a script visits all lanes. -/
theorem started_of_playScript {script : Script} {lane : Lane}
    (h : lane ∈ (stage.playScript script).2.1.performance.lanes) : lane.started = true := by
  obtain ⟨live, -, -, rfl⟩ := mem_lanes_tick_iff.mp h
  rfl

/-- With a time scale of one, a tick lasts as long as it says. -/
theorem lapse_of_pos {performance : Performance} (hscale : performance.clock.scale = 1) {d : ℚ}
    (hdt : number? dt = some d) (hpos : 0 < d) : performance.lapse dt = dt := by
  have hpart : positivePart dt = dt := if_pos ((pos_iff hdt).mpr hpos)
  rw [Performance.lapse, Clock.advance]
  dsimp only
  rw [hscale, hpart, seconds_mul_one, hpart]

/-! ## Ticks that bring lanes nearer to their ends -/

/-- All lanes were visited and wait, and they get no more than `n` further visits if each of these
takes `gain` seconds off their waits. -/
structure Winds (stage : Stage) (gain : ℚ) (n : Nat) : Prop where
  /-- Time passes at its own pace. -/
  scale : stage.performance.clock.scale = 1
  /-- Every lane was visited. -/
  started : ∀ lane ∈ stage.performance.lanes, lane.started = true
  /-- Every lane waits. -/
  waits : ∀ lane ∈ stage.performance.lanes, IsWait lane.cooldown
  /-- Every lane gets no more than `n` further visits. -/
  visits : ∀ lane ∈ stage.performance.lanes, lane.visitsLeft gain ≤ n

variable {gain d : ℚ} {n : Nat}

/-- A tick leaves each lane with one visit less. -/
theorem Winds.tick (h : stage.Winds gain (n + 1)) (hgain : 0 < gain)
    (hd : d = gain + 2 ^ (-26 : Int)) (hdt : number? dt = some d) :
    (stage.tick dt).1.Winds gain n := by
  have hpos : 0 < d := by
    rw [hd]
    positivity
  have hvisit (lane : Lane) (hlane : lane ∈ (stage.tick dt).1.performance.lanes) :
      lane.started = true ∧ IsWait lane.cooldown ∧ lane.visitsLeft gain ≤ n := by
    obtain ⟨live, hlive, hplays, rfl⟩ := mem_lanes_tick_iff.mp hlane
    have hstarted := h.started live hlive
    have hwait := h.waits live hlive
    have hpoised : live.Poised :=
      ⟨fun hfresh => absurd (hfresh.symm.trans hstarted) Bool.false_ne_true, fun _ hdue => by
        obtain ⟨q, hq, hq', -⟩ := hwait
        exact absurd ((nonpos_iff hq).mp hdue) (not_le.mpr hq')⟩
    refine ⟨rfl, Lane.isWait_of_visit hpoised (fun _ => hwait) hplays, ?_⟩
    rw [lapse_of_pos h.scale hdt hpos] at hplays ⊢
    have hfewer := Lane.visitsLeft_visit hgain hd hdt hstarted hwait hplays
    have hleft := h.visits live hlive
    omega
  exact ⟨h.scale, fun lane hlane => (hvisit lane hlane).1,
    fun lane hlane => (hvisit lane hlane).2.1, fun lane hlane => (hvisit lane hlane).2.2⟩

/-- A lane that waits gets another visit, so there is none when no visits are left. -/
theorem Winds.lanes_eq_nil (h : stage.Winds gain 0) (hgain : 0 < gain) :
    stage.performance.lanes = [] := by
  refine List.eq_nil_iff_forall_not_mem.mpr fun lane hlane => ?_
  have hpos := Lane.visitsLeft_pos hgain (h.waits lane hlane)
  have hzero := h.visits lane hlane
  omega

/-- After as many ticks as there are visits, no lane is left. -/
theorem lanes_ticks_of_winds (h : stage.Winds gain n) (hgain : 0 < gain)
    (hd : d = gain + 2 ^ (-26 : Int)) (hdt : number? dt = some d) :
    (stage.ticks dt n).performance.lanes = [] := by
  induction n generalizing stage with
  | zero => exact h.lanes_eq_nil hgain
  | succ n ih =>
    rw [ticks_succ]
    exact ih (h.tick hgain hd hdt)

/-- There is a bound on the visits of all lanes. -/
theorem exists_visitsLeft_le (lanes : List Lane) (gain : ℚ) :
    ∃ n, ∀ lane ∈ lanes, lane.visitsLeft gain ≤ n := by
  induction lanes with
  | nil => exact ⟨0, fun _ => nofun⟩
  | cons lane lanes ih =>
    obtain ⟨n, hn⟩ := ih
    refine ⟨max (lane.visitsLeft gain) n, fun other hother => ?_⟩
    rcases List.mem_cons.mp hother with rfl | hother
    · exact le_max_left _ _
    · exact (hn other hother).trans (le_max_right _ _)

/-! ## Ticks that get lost -/

/-- A lane that waits for half a second stays as it is in a tick that is too short. -/
theorem mem_lanes_ticks_of_full_wait (hscale : stage.performance.clock.scale = 1)
    (hdt : number? dt = some d) (hpos : 0 < d) (hle : d ≤ 2 ^ (-26 : Int)) {lane : Lane}
    (hlane : lane ∈ stage.performance.lanes) (hstarted : lane.started = true)
    (hcooldown : lane.cooldown = pacingInterval) (n : Nat) :
    lane ∈ (stage.ticks dt n).performance.lanes := by
  induction n generalizing stage with
  | zero => exact hlane
  | succ n ih =>
    rw [ticks_succ]
    refine ih hscale (mem_lanes_tick_iff.mpr ⟨lane, hlane, ?_⟩)
    rw [lapse_of_pos hscale hdt hpos, Lane.visit_of_full_wait hdt hpos hle hstarted hcooldown]
    exact ⟨rfl, rfl⟩

/-- Playing a script leaves each of its queues that has commands with a lane that waits for half a
second. -/
theorem exists_full_wait_of_playScript (settings : Settings) (calls : List Call) {script : Script}
    {action : ActionId} {commands : List String} (hscript : (action, commands) ∈ script.toList)
    (hcommands : commands ≠ []) :
    let played := (after settings calls).playScript script
    ∃ lane ∈ played.2.1.performance.lanes, lane.playback = played.1 ∧ lane.started = true ∧
      lane.cooldown = pacingInterval := by
  intro played
  have hpoised := (poised_after settings calls).start script
  obtain ⟨lane, hlane, hplayback, hstarted, hcommands'⟩ :
      ∃ lane ∈ ((after settings calls).start script).2.1.performance.lanes,
        lane.playback = played.1 ∧ lane.started = false ∧ lane.commands = commands :=
    ⟨_, List.mem_append_right _ (List.mem_map_of_mem hscript), rfl, rfl, rfl⟩
  have hbegins := (hpoised.firstVisit_tick hlane hstarted 0).begins (hcommands'.symm ▸ hcommands)
  exact ⟨lane.begun, hbegins, hplayback, rfl, rfl⟩

/-! ## Runs until idle -/

/-- Ticks after a script was played lead to reachable stages. -/
theorem ticks_playScript_after (settings : Settings) (calls : List Call) (script : Script)
    (dt : Float32) (n : Nat) :
    ((after settings calls).playScript script).2.1.ticks dt n =
      after settings (calls ++ [.playScript script] ++ List.replicate n (.tick dt)) := by
  rw [after_append, after_concat]
  rfl

theorem nextNumber_ticks (stage : Stage) (dt : Float32) (n : Nat) :
    (stage.ticks dt n).performance.tracker.nextNumber = stage.performance.tracker.nextNumber := by
  induction n generalizing stage with
  | zero => rfl
  | succ n ih =>
    rw [ticks_succ, ih]
    exact stage.performance.nextNumber_tick dt

/-- After some ticks no playback is running if no lane is left, and a playback is over if it has no
lane. -/
theorem tracker_ticks (settings : Settings) (calls : List Call) (script : Script) (dt : Float32)
    (n : Nat) :
    let played := (after settings calls).playScript script
    let later := played.2.1.ticks dt n
    (later.isIdle = true ↔ later.performance.lanes = []) ∧
      (later.isFinished played.1 = true ↔
        ∀ lane ∈ later.performance.lanes, lane.playback ≠ played.1) := by
  intro played later
  have hcounts : later.performance.tracker.Counts later.performance.lanes := by
    rw [show later = _ from ticks_playScript_after settings calls script dt n]
    exact (kept_after settings _).1.counts
  refine ⟨hcounts.isIdle_iff, hcounts.isFinished_iff.trans (and_iff_right ?_)⟩
  have hnext : later.performance.tracker.nextNumber =
      (after settings calls).performance.tracker.nextNumber + 1 :=
    (nextNumber_ticks played.2.1 dt n).trans (Performance.nextNumber_tick _ 0)
  rw [hnext]
  exact Nat.lt_succ_self _

/-- An idle stage has finished what was played. -/
theorem isFinished_of_isIdle (settings : Settings) (calls : List Call) (script : Script)
    (dt : Float32) :
    let played := (after settings calls).playScript script
    (played.2.1.ticks dt n).isIdle = true → (played.2.1.ticks dt n).isFinished played.1 = true := by
  intro played hidle
  obtain ⟨hlanes, hfinished⟩ := tracker_ticks settings calls script dt n
  refine hfinished.mpr fun lane hlane => ?_
  rw [hlanes.mp hidle] at hlane
  cases hlane

/-- A run that would be idle after some ticks is idle when it is given as many. -/
theorem isIdle_untilIdle (run : Run) {limit : Nat} (h : (run.stage.ticks dt n).isIdle = true)
    (hlimit : n ≤ limit) :
    (run.untilIdle dt limit).stage.isIdle = true ∧
      (run.untilIdle dt limit).ticks ≤ run.ticks + n := by
  obtain ⟨hstops, hleast⟩ := run.stage.isLeast_ticks_runUntilIdle dt limit
  have hticks : (run.stage.runUntilIdle dt limit).ticks ≤ n := hleast (.inl h)
  rw [Run.untilIdle_eq]
  refine ⟨?_, Nat.add_le_add_left hticks _⟩
  show (run.stage.runUntilIdle dt limit).stage.isIdle = true
  rw [stage_runUntilIdle]
  rcases hstops with hidle | hlast
  · exact hidle
  · -- All ticks that it is given are as many as it takes.
    rwa [Nat.le_antisymm hticks (hlimit.trans_eq hlast.symm)]

/-- A run that is never idle uses all its ticks. -/
theorem untilIdle_of_busy (run : Run) (h : ∀ n, (run.stage.ticks dt n).isIdle = false)
    (limit : Nat) :
    (run.untilIdle dt limit).stage = run.stage.ticks dt limit ∧
      (run.untilIdle dt limit).ticks = run.ticks + limit := by
  have hlast : (run.stage.runUntilIdle dt limit).ticks = limit :=
    (run.stage.isLeast_ticks_runUntilIdle dt limit).1.resolve_left
      (Bool.eq_false_iff.mp (h _))
  rw [Run.untilIdle_eq]
  refine ⟨?_, congrArg (run.ticks + ·) hlast⟩
  show (run.stage.runUntilIdle dt limit).stage = _
  rw [stage_runUntilIdle, hlast]

/-! ## Main statement -/

/-- At a rate below `2 ^ 26 - 2`, no lane is left after some ticks. -/
theorem exists_lanes_ticks_eq_nil (hscale : settings.timeScale = 1)
    (hrate : settings.tickRate.toNat < 2 ^ 26 - 2) (calls : List Call) (script : Script) :
    ∃ n, (((after settings calls).playScript script).2.1.ticks settings.tickDelta
      n).performance.lanes = [] := by
  obtain ⟨d, hdt, -, -, hlong⟩ := settings.exists_number?_tickDelta
  obtain ⟨gain, hgain⟩ : ∃ gain, gain = d - 2 ^ (-26 : Int) := ⟨_, rfl⟩
  obtain ⟨n, hn⟩ := exists_visitsLeft_le
    ((after settings calls).playScript script).2.1.performance.lanes gain
  refine ⟨n, lanes_ticks_of_winds ⟨?_, fun lane => started_of_playScript, fun lane hlane => ?_, hn⟩
    (hgain ▸ sub_pos.mpr (hlong.mpr hrate)) (by rw [hgain, sub_add_cancel]) hdt⟩
  · rw [playScript_after, scale_after, hscale]
  · have hstarted := started_of_playScript hlane
    rw [playScript_after] at hlane
    exact isWait_after settings _ lane hlane hstarted

/-- At a rate of `2 ^ 26 - 2` or more, a playback with a command does not end, after any number of
ticks. -/
theorem busy_ticks (hscale : settings.timeScale = 1)
    (hrate : 2 ^ 26 - 2 ≤ settings.tickRate.toNat) (calls : List Call) {script : Script}
    {queue : ActionId × List String} (hscript : queue ∈ script.toList) (hqueue : queue.2 ≠ [])
    (n : Nat) :
    let played := (after settings calls).playScript script
    (played.2.1.ticks settings.tickDelta n).isIdle = false ∧
      (played.2.1.ticks settings.tickDelta n).isFinished played.1 = false := by
  intro played
  obtain ⟨d, hdt, hpos, -, hlong⟩ := settings.exists_number?_tickDelta
  obtain ⟨lane, hlane, hplayback, hstarted, hcooldown⟩ :=
    exists_full_wait_of_playScript settings calls hscript hqueue
  have hshort : d ≤ 2 ^ (-26 : Int) := not_lt.mp (hlong.not.mpr (not_lt.mpr hrate))
  have hplayed : played.2.1.performance.clock.scale = 1 := by
    rw [playScript_after, scale_after, hscale]
  have hstays := mem_lanes_ticks_of_full_wait hplayed hdt hpos hshort hlane hstarted hcooldown n
  obtain ⟨hidle, hfinished⟩ := tracker_ticks settings calls script settings.tickDelta n
  rw [← Bool.not_eq_true, ← Bool.not_eq_true, hidle, hfinished]
  exact ⟨List.ne_nil_of_mem hstays, fun hnone => hnone lane hstays hplayback⟩

/-- A playback of empty queues is over at once. -/
theorem isFinished_playScript_of_empty (settings : Settings) (calls : List Call) {script : Script}
    (hempty : ∀ queue ∈ script.toList, queue.2 = []) :
    let played := (after settings calls).playScript script
    played.2.1.isFinished played.1 = true := by
  intro played
  refine (tracker_ticks settings calls script 0 0).2.mpr fun lane hlane hplayback => ?_
  have hpoised := (poised_after settings calls).start script
  obtain ⟨live, hlive, hplays, rfl⟩ := mem_lanes_tick_iff.mp hlane
  rcases List.mem_append.mp hlive with hold | hnew
  · have hlt := (kept_after settings calls).1.number_lt hold
    have hsame : live.playback = ⟨(after settings calls).performance.tracker.nextNumber⟩ :=
      hplayback
    rw [hsame] at hlt
    exact Nat.lt_irrefl _ hlt
  · obtain ⟨queue, hqueue, rfl⟩ := List.mem_map.mp hnew
    have hfinished := (Lane.finished_visit_of_fresh (hpoised.lanes _ hlive) rfl
      (((after settings calls).start script).2.1.performance.lapse 0)).mpr (hempty queue hqueue)
    exact Bool.false_ne_true (hplays.symm.trans hfinished)

/-- Whether playbacks end depends on the tick rate. On every reachable stage with a time scale of
one, when a script is played and ticks pass as the settings want them:

* at a rate below `2 ^ 26 - 2`, there is a number of ticks after which the playback is over and the
  stage is idle, and a run that may take as many ends by idleness;
* from that rate on, if the script has a command, neither is so after any number of ticks, and a run
  takes all the ticks that it may;
* so the playback is over after some ticks exactly if the rate is below that, or if there is nothing
  to play.

All queues of a stage are a script as well. -/
theorem playbacks_end_iff (settings : Settings) (hscale : settings.timeScale = 1)
    (calls : List Call) (script : Script) :
    let played := (after settings calls).playScript script
    let stage := played.2.1
    let later n := stage.ticks settings.tickDelta n
    let run limit := stage.runUntilIdle settings.tickDelta limit
    (settings.tickRate.toNat < 2 ^ 26 - 2 → ∃ n,
      ((later n).isIdle = true ∧ (later n).isFinished played.1 = true) ∧
      ∀ limit ≥ n, (run limit).stage.isIdle = true ∧
        (run limit).stage.isFinished played.1 = true ∧ (run limit).ticks ≤ n) ∧
    (2 ^ 26 - 2 ≤ settings.tickRate.toNat → (∃ queue ∈ script.toList, queue.2 ≠ []) →
      (∀ n, (later n).isIdle = false ∧ (later n).isFinished played.1 = false) ∧
      ∀ limit, (run limit).stage.isIdle = false ∧
        (run limit).stage.isFinished played.1 = false ∧ (run limit).ticks = limit) ∧
    ((∃ n, (later n).isFinished played.1 = true) ↔
      settings.tickRate.toNat < 2 ^ 26 - 2 ∨ ∀ queue ∈ script.toList, queue.2 = []) := by
  intro played stage later run
  have hfinished {n : Nat} (hidle : (later n).isIdle = true) :
      (later n).isFinished played.1 = true :=
    isFinished_of_isIdle settings calls script settings.tickDelta hidle
  have hslow (hrate : settings.tickRate.toNat < 2 ^ 26 - 2) : ∃ n, (later n).isIdle = true := by
    obtain ⟨n, hn⟩ := exists_lanes_ticks_eq_nil hscale hrate calls script
    exact ⟨n, (tracker_ticks settings calls script settings.tickDelta n).1.mpr hn⟩
  refine ⟨fun hrate => ?_, fun hrate hsome => ?_, fun hover => ?_, fun hends => ?_⟩
  · obtain ⟨n, hidle⟩ := hslow hrate
    refine ⟨n, ⟨hidle, hfinished hidle⟩, fun limit hlimit => ?_⟩
    obtain ⟨hidle', hticks⟩ := isIdle_untilIdle { stage } hidle hlimit
    obtain ⟨k, -, hstage, -⟩ := untilIdle_eq_performAll settings.tickDelta limit { stage }
    have hlater : (run limit).stage = later k := hstage
    refine ⟨hidle', ?_, hticks.trans (le_of_eq (Nat.zero_add n))⟩
    rw [hlater]
    exact hfinished (hlater ▸ hidle')
  · obtain ⟨queue, hscript, hqueue⟩ := hsome
    have hbusy := busy_ticks hscale hrate calls hscript hqueue
    refine ⟨hbusy, fun limit => ?_⟩
    obtain ⟨hstage, hticks⟩ :=
      untilIdle_of_busy { stage } (fun n => (hbusy n).1) limit
    have hlater : (run limit).stage = later limit := hstage
    rw [hlater]
    exact ⟨(hbusy limit).1, (hbusy limit).2, hticks.trans (Nat.zero_add limit)⟩
  · by_contra hnot
    rw [not_or, not_forall] at hnot
    obtain ⟨hrate, queue, hqueue⟩ := hnot
    rw [Classical.not_imp] at hqueue
    obtain ⟨n, hn⟩ := hover
    exact Bool.false_ne_true
      ((busy_ticks hscale (not_lt.mp hrate) calls hqueue.1 hqueue.2 n).2.symm.trans hn)
  · rcases hends with hrate | hempty
    · obtain ⟨n, hidle⟩ := hslow hrate
      exact ⟨n, hfinished hidle⟩
    · exact ⟨0, isFinished_playScript_of_empty settings calls hempty⟩

/-- At 60 ticks per second, the turn of the cat ends. -/
theorem turn_ends :
    let settings : Settings := {}
    let played := (after settings [.append ⟨"1"⟩ "Turn Left"]).play
    settings.timeScale = 1 ∧ settings.tickRate.toNat < 2 ^ 26 - 2 ∧
      ∃ n, ∀ limit ≥ n, (played.2.1.runUntilIdle settings.tickDelta limit).stage.isIdle = true ∧
        (played.2.1.runUntilIdle settings.tickDelta limit).stage.isFinished played.1 = true := by
  intro settings
  have hrate : settings.tickRate.toNat < 2 ^ 26 - 2 := by decide
  obtain ⟨hends, -, -⟩ := playbacks_end_iff settings rfl [.append ⟨"1"⟩ "Turn Left"]
    (after settings [.append ⟨"1"⟩ "Turn Left"]).queues.script
  rw [← play_eq] at hends
  generalize (after settings [.append ⟨"1"⟩ "Turn Left"]).play = played at hends ⊢
  obtain ⟨n, -, hruns⟩ := hends hrate
  exact ⟨rfl, hrate, n, fun limit hlimit => ⟨(hruns limit hlimit).1, (hruns limit hlimit).2.1⟩⟩

/-- At the greatest rate, the turn of the cat does not end, after any number of ticks. -/
theorem turn_never_ends_at_greatest_rate :
    let settings : Settings := { tickRate := 4294967295 }
    let played := (after settings [.append ⟨"1"⟩ "Turn Left"]).play
    settings.timeScale = 1 ∧ ¬ ∃ n, (played.2.1.ticks settings.tickDelta n).isFinished played.1 ∧
      (played.2.1.ticks settings.tickDelta n).isIdle := by
  intro settings
  obtain ⟨queue, hscript, hqueue⟩ : ∃ queue ∈
      (after { tickRate := 4294967295 } [.append ⟨"1"⟩ "Turn Left"]).queues.script.toList,
      queue.2 ≠ [] := by
    decide +kernel
  have hrate : 2 ^ 26 - 2 ≤ settings.tickRate.toNat := by decide
  have hbusy := busy_ticks rfl hrate [.append ⟨"1"⟩ "Turn Left"] hscript hqueue
  rw [← play_eq] at hbusy
  generalize (after settings [.append ⟨"1"⟩ "Turn Left"]).play = played at hbusy ⊢
  refine ⟨rfl, ?_⟩
  rintro ⟨n, hfinished, -⟩
  exact Bool.false_ne_true ((hbusy n).2.symm.trans hfinished)

end Stage

end SpriteStage
