import SpriteStage.Proofs.Playback.Pacing
import SpriteStage.Proofs.Stage.Schedules

/-!
# The timetable of lanes

When a lane applies its commands, told by the time since its first visit: the first command is due
at once, every other one half a second after the one before it, and half a second after the last
one the lane is over. Whatever calls come in between, and however time is cut into ticks, this holds
if the lengths of the ticks are such that no floating point number is rounded on the way.

* `Stage.deltas`: the lengths of the ticks in a call, as the clock scales them;
* `timed_after`: from its opening on, a lane is on its pace.

The main statement is `lanes_keep_time`.
-/

namespace SpriteStage

/-- Durations that are multiples of one sixty-fourth of a second add up to one, without rounding as
long as it is not too large. -/
theorem exists_addUp {durations : List Float32}
    (hgrid : ∀ seconds ∈ durations, ∃ k : ℕ, number? seconds = some (k / 64 : ℚ))
    (hbound : (durations.filterMap number?).sum < 2 ^ 17) :
    ∃ total : ℕ, AddUp durations total ∧ total < 2 ^ 23 ∧
      (durations.filterMap number?).sum = total / 64 := by
  induction durations with
  | nil => exact ⟨0, rfl, by decide, by simp⟩
  | cons seconds durations ih =>
    obtain ⟨k, hk⟩ := hgrid seconds (.head _)
    rw [List.filterMap_cons_some hk, List.sum_cons] at hbound ⊢
    -- No duration is negative, so those that follow are bounded as well.
    have hpositive : (0 : ℚ) ≤ k / 64 := by positivity
    obtain ⟨total, htotal, -, hsum⟩ := ih (fun d hd => hgrid d (.tail _ hd)) (by linarith)
    rw [hsum] at hbound ⊢
    have hsmall : k + total < 2 ^ 23 := by
      have : (k + total : ℚ) < 2 ^ 23 := by linarith
      exact_mod_cast this
    have hseconds : Sixtyfourths seconds k :=
      sixtyfourths_of_number? (by rw [hk, Int.cast_natCast]) (by omega)
    refine ⟨k + total, ⟨k, total, hseconds, htotal, rfl⟩, hsmall, ?_⟩
    push_cast
    ring

/-- The sum of durations that are multiples of one sixty-fourth of a second is not negative. -/
theorem sum_number?_nonneg {durations : List Float32}
    (hgrid : ∀ seconds ∈ durations, ∃ k : ℕ, number? seconds = some (k / 64 : ℚ)) :
    0 ≤ (durations.filterMap number?).sum := by
  refine List.sum_nonneg fun q hq => ?_
  obtain ⟨seconds, hseconds, hnumber⟩ := List.mem_filterMap.mp hq
  obtain ⟨k, hk⟩ := hgrid seconds hseconds
  obtain rfl := Option.some.inj (hnumber.symm.trans hk)
  positivity

namespace Stage

variable {stage stage' : Stage}

/-- The lengths of the ticks in a call, in seconds of stage time. -/
def deltas (stage : Stage) : Call → List Float32
  | .tick dt => [(stage.performance.clock.advance dt).delta]
  | .playScript _ | .play => [(stage.performance.clock.advance 0).delta]
  | _ => []

/-- An edit lets no time pass and applies nothing. -/
theorem deltas_of_isEdit (stage : Stage) {call : Call} (hcall : call.isEdit = true) :
    stage.deltas call = [] ∧ stage.steps call = [] := by
  cases call with
  | start | playScript | play | tick => cases hcall
  | _ => exact ⟨rfl, rfl⟩

/-- A lane that was not visited is as it was opened. -/
theorem waits_after (settings : Settings) (calls : List Call) :
    ∀ lane ∈ (after settings calls).performance.lanes, lane.started = false →
      lane.cursor = 0 ∧ lane.cooldown = 0 := by
  refine after_induction (P := fun stage => ∀ lane ∈ stage.performance.lanes,
    lane.started = false → lane.cursor = 0 ∧ lane.cooldown = 0) (fun _ => nofun) ?_ ?_ ?_
    settings calls
  · intro stage call stage' hedit h
    rwa [(performance_edit hedit).1]
  · intro stage script h lane hlane hstarted
    rcases List.mem_append.mp hlane with hlane | hnew
    · exact h lane hlane hstarted
    · obtain ⟨_, -, rfl⟩ := List.mem_map.mp hnew
      exact ⟨rfl, rfl⟩
  · -- What a tick leaves has been visited.
    intro stage dt h lane hlane hstarted
    obtain ⟨live, -, -, rfl⟩ := Performance.mem_lanes_tick_iff.mp hlane
    cases hstarted

open Performance (Timed)

variable {lane : Lane} {durations : List Float32} {trace : List (Lane × String)}

/-- Every call keeps the time of a lane. -/
theorem timed_perform (h : Timed stage.performance lane durations trace)
    (hstarted : lane.started = false) (hcursor : lane.cursor = 0) (hcooldown : lane.cooldown = 0)
    (call : Call) :
    Timed (stage.perform call).stage.performance lane (durations ++ stage.deltas call)
      (trace ++ stage.steps call) := by
  have hopened (script : Script) :
      Timed (stage.start script).2.1.performance lane durations trace := h.start script _
  -- To play is to open a playback and to let a tick of no length pass.
  rcases call.isEdit_or with hedit | ⟨script, rfl⟩ | ⟨script, rfl⟩ | rfl | ⟨dt, rfl⟩
  · obtain ⟨hdeltas, hsteps⟩ := deltas_of_isEdit stage hedit
    obtain ⟨hlanes, htracker, -⟩ := performance_edit (edit_perform stage hedit)
    rw [hdeltas, hsteps, List.append_nil, List.append_nil]
    exact h.congr hlanes htracker
  · have hstart := hopened script
    rw [← List.append_nil durations, ← List.append_nil trace] at hstart
    exact hstart
  · exact (hopened script).tick hstarted hcursor hcooldown 0
  · exact (hopened stage.queues.script).tick hstarted hcursor hcooldown 0
  · exact h.tick hstarted hcursor hcooldown dt

/-- From its opening on, a lane is timed. -/
theorem timed_after {settings : Settings} {calls : List Call}
    (hlane : lane ∈ (after settings calls).performance.lanes) (hstarted : lane.started = false)
    (more : List Call) :
    Timed ((after settings calls).performAll more).1.performance lane
      ((after settings calls).collect deltas more) ((after settings calls).collect steps more) := by
  obtain ⟨hcursor, hcooldown⟩ := waits_after settings calls lane hlane hstarted
  -- From the end of the calls, as this is where ticks and steps are added.
  induction more using List.reverseRecOn with
  | nil =>
    obtain ⟨hkept, -⟩ := kept_after settings calls
    have hnodup := hkept.live_nodup
    refine ⟨⟨_, _, hkept⟩, hkept.number_lt hlane, fun live hlive hkey => ?_, ?_, fun _ => hlane,
      nofun⟩
    · obtain rfl := List.inj_on_of_nodup_map hnodup hlive hlane hkey
      exact ⟨rfl, hcursor ▸ Nat.zero_le _⟩
    · have hnone : (after settings calls).performance.cursorOf lane = 0 :=
        (Performance.cursorOf_of_mem hnodup hlane rfl).trans hcursor
      rw [performAll, hnone, List.take_zero]
      rfl
  | append_singleton more call ih =>
    have hnext := timed_perform ih hstarted hcursor hcooldown call
    rw [performAll_append, collect_append, collect_append]
    simpa [collect, performAll] using hnext

/-! ## Main statement -/

/-- The time at which a command is due, in seconds since the first visit of its lane, if commands
are counted from 0. -/
def dueTime (place : ℕ) : ℚ := place * (1 / 2)

theorem dueTime_le_iff {place total : ℕ} : dueTime place ≤ total / 64 ↔ 32 * place ≤ total := by
  have hscale : dueTime place ≤ total / 64 ↔ (32 * place : ℚ) ≤ total := by
    rw [dueTime]
    constructor
    · intro h
      linarith
    · intro h
      linarith
  rw [hscale]
  exact_mod_cast Iff.rfl

/-- What the time since its first visit says about a lane. -/
private theorem timetable {settings : Settings} {calls more : List Call}
    (hlane : lane ∈ (after settings calls).performance.lanes) (hstarted : lane.started = false)
    {first : Float32} {rest : List Float32}
    (hdeltas : (after settings calls).collect deltas more = first :: rest)
    (hgrid : ∀ delta ∈ rest, ∃ k : ℕ, number? delta = some (k / 64 : ℚ))
    (hbound : (rest.filterMap number?).sum < 2 ^ 17) :
    let stage' := ((after settings calls).performAll more).1
    let time := (rest.filterMap number?).sum
    (lane.key ∉ stage'.performance.lanes.map Lane.key ↔ dueTime lane.commands.length ≤ time) ∧
    (time < dueTime lane.commands.length → ∃ live ∈ stage'.performance.lanes,
      live.key = lane.key ∧ live.commands = lane.commands ∧
        live.cursor = ⌊time / (1 / 2)⌋₊ + 1) ∧
    ∀ place < lane.commands.length,
      place < stage'.performance.cursorOf lane ↔ dueTime place ≤ time := by
  intro stage' time
  obtain ⟨total, htotal, hsmall, htime⟩ := exists_addUp hgrid hbound
  have htimed := timed_after hlane hstarted more
  have hpace := htimed.paced first rest total hdeltas htotal hsmall
  have hcursor := hpace.cursorOf_eq htimed.live_nodup
  -- Half a second is 32 of the units that the pace is told in.
  have hhalves : ⌊time / (1 / 2)⌋₊ = total / 32 := by
    have hquotient : time / (1 / 2) = (total : ℚ) / (32 : ℕ) := by
      rw [show time = total / 64 from htime]
      push_cast
      ring
    rw [hquotient, Nat.floor_div_eq_div]
  rw [show time = total / 64 from htime, dueTime_le_iff, ← not_le, dueTime_le_iff, ← htime]
  refine ⟨⟨fun hgone => ?_, hpace.ended⟩, fun hplays => ?_, fun place hplace => ?_⟩
  · by_contra hplays
    obtain ⟨live, hlive, hkey, -⟩ := hpace.playing (by omega)
    exact hgone (List.mem_map.mpr ⟨live, hlive, hkey⟩)
  · obtain ⟨live, hlive, hkey, hcommands, hlooks⟩ := hpace.playing (by omega)
    exact ⟨live, hlive, hkey, hcommands, by rw [hhalves, hlooks.cursor]⟩
  · rw [hcursor, htime, dueTime_le_iff]
    omega

/-- A lane keeps time. Take a lane that was opened and not visited yet, and any calls after that, of
which the first tick visits it. Let the lengths of the ticks that follow be multiples of one
sixty-fourth of a second of stage time, and their sum, `time`, less than `2 ^ 17`. Then:

* the lane is over exactly if half a second for each of its commands has passed;
* if it is not, its cursor stands behind one command for each half second, and one more;
* it has applied the commands before its cursor, which are those whose time has come;
* the last of the calls takes its cursor over the commands that are applied in it, and up to the
  first tick that is from the start;
* later on, those are the commands whose time comes in the call, and the lane ends in the call in
  which the time after its last command comes.

The lanes of a script that is played are opened first, and the tick of no length that follows in the
same call is the first. -/
theorem lanes_keep_time (settings : Settings) (calls more : List Call) {lane : Lane}
    (hlane : lane ∈ (after settings calls).performance.lanes) (hstarted : lane.started = false)
    {first : Float32} {rest : List Float32}
    (hdeltas : (after settings calls).collect deltas more = first :: rest)
    (hgrid : ∀ delta ∈ rest, ∃ k : ℕ, number? delta = some (k / 64 : ℚ))
    (hbound : (rest.filterMap number?).sum < 2 ^ 17) :
    let stage := after settings calls
    let stage' := (stage.performAll more).1
    let time := (rest.filterMap number?).sum
    let cursor := stage'.performance.cursorOf lane
    (lane.key ∉ stage'.performance.lanes.map Lane.key ↔
      dueTime lane.commands.length ≤ time) ∧
    (time < dueTime lane.commands.length → ∃ live ∈ stage'.performance.lanes,
      live.key = lane.key ∧ live.commands = lane.commands ∧
        live.cursor = ⌊time / (1 / 2)⌋₊ + 1) ∧
    taken (stage.collect steps more) (·.key = lane.key) = lane.commands.take cursor ∧
    (∀ place < lane.commands.length, place < cursor ↔ dueTime place ≤ time) ∧
    ∀ earlier last, more = earlier ++ [last] →
      let stage₀ := (stage.performAll earlier).1
      let cursor₀ := stage₀.performance.cursorOf lane
      taken (stage₀.steps last) (·.key = lane.key) = (lane.commands.take cursor).drop cursor₀ ∧
      (stage.collect deltas earlier = [] → lane ∈ stage₀.performance.lanes ∧ cursor₀ = 0) ∧
      ∀ rest', stage.collect deltas earlier = first :: rest' →
        let time₀ := (rest'.filterMap number?).sum
        (∀ place < lane.commands.length,
          (cursor₀ ≤ place ∧ place < cursor ↔ time₀ < dueTime place ∧ dueTime place ≤ time)) ∧
        (lane.key ∈ stage₀.performance.lanes.map Lane.key ∧
            lane.key ∉ stage'.performance.lanes.map Lane.key ↔
          time₀ < dueTime lane.commands.length ∧ dueTime lane.commands.length ≤ time) := by
  intro stage stage' time cursor
  have htimed := timed_after hlane hstarted more
  obtain ⟨hover, hplays, hplaces⟩ := timetable hlane hstarted hdeltas hgrid hbound
  refine ⟨hover, hplays, htimed.passed, hplaces, ?_⟩
  rintro earlier last rfl stage₀ cursor₀
  have htimed₀ := timed_after hlane hstarted earlier
  refine ⟨?_, fun hnone => ?_, fun rest' hearlier => ?_⟩
  · -- What was applied before the last call is what comes before the cursor that it found.
    have hpassed := htimed.passed
    rw [collect_append, taken_append, htimed₀.passed, collect_singleton] at hpassed
    rw [← hpassed, List.drop_left' (List.length_take_of_le htimed₀.cursorOf_le)]
  · have hwaits := htimed₀.waiting hnone
    have hcursor := (waits_after settings calls lane hlane hstarted).1
    exact ⟨hwaits, (Performance.cursorOf_of_mem htimed₀.live_nodup hwaits rfl).trans hcursor⟩
  · intro time₀
    -- The ticks before the last call are among all, so they satisfy the same conditions.
    obtain ⟨later, hrest⟩ : ∃ later, rest = rest' ++ later := by
      rw [collect_append, hearlier] at hdeltas
      exact ⟨_, (List.cons.inj hdeltas).2.symm⟩
    have hsplit : time = time₀ + (later.filterMap number?).sum := by
      simp only [time, time₀, hrest, List.filterMap_append, List.sum_append]
    have hlater := sum_number?_nonneg fun delta hdelta =>
      hgrid delta (hrest ▸ List.mem_append_right _ hdelta)
    have hbound₀ : time₀ < 2 ^ 17 := by linarith
    obtain ⟨hover₀, -, hplaces₀⟩ := timetable hlane hstarted hearlier
      (fun delta hdelta => hgrid delta (hrest ▸ List.mem_append_left _ hdelta)) hbound₀
    refine ⟨fun place hplace => ?_, ?_⟩
    · rw [hplaces place hplace, ← not_lt, hplaces₀ place hplace, not_le]
    · rw [hover, ← not_le, ← hover₀, not_not]

/-- Two commands take a second: the lane of the cat still plays when half of it is over, and ends in
the tick in which the rest of it passes. -/
theorem two_commands_take_a_second :
    let calls : List Call :=
      [.start ((∅ : Script).insert ⟨"1"⟩ ["Turn Right", "Move Right 5"])]
    let earlier : List Call := [.tick 1, .tick 0.25, .tick 0.25]
    let durations : List Float32 := [0.25, 0.25, 0.5]
    ∃ lane ∈ (after {} calls).performance.lanes, lane.started = false ∧
      (after {} calls).collect deltas (earlier ++ [.tick 0.5]) = 1 :: durations ∧
      (∀ delta ∈ durations, ∃ k : ℕ, number? delta = some (k / 64 : ℚ)) ∧
      (durations.filterMap number?).sum < 2 ^ 17 ∧
      lane.commands = ["Turn Right", "Move Right 5"] ∧
      lane.key ∈ ((after {} calls).performAll earlier).1.performance.lanes.map Lane.key ∧
      lane.key ∉ ((after {} calls).performAll
        (earlier ++ [.tick 0.5])).1.performance.lanes.map Lane.key := by
  intro calls earlier durations
  obtain ⟨lane, hlane, hstarted, hcommands⟩ : ∃ lane ∈ (after {} calls).performance.lanes,
      lane.started = false ∧ lane.commands = ["Turn Right", "Move Right 5"] := by
    decide +kernel
  have hdeltas : (after {} calls).collect deltas (earlier ++ [.tick 0.5]) = 1 :: durations := by
    decide +kernel
  have hgrid : ∀ delta ∈ durations, ∃ k : ℕ, number? delta = some (k / 64 : ℚ) := by
    have hquarter : number? 0.25 = some ((16 : ℕ) / 64 : ℚ) := by decide +kernel
    have hhalf : number? 0.5 = some ((32 : ℕ) / 64 : ℚ) := by decide +kernel
    simp only [durations, List.mem_cons, List.not_mem_nil, or_false]
    rintro delta (rfl | rfl | rfl)
    · exact ⟨16, hquarter⟩
    · exact ⟨16, hquarter⟩
    · exact ⟨32, hhalf⟩
  have hbound : (durations.filterMap number?).sum < 2 ^ 17 := by decide +kernel
  obtain ⟨-, -, -, -, hcalls⟩ :=
    lanes_keep_time {} calls (earlier ++ [.tick 0.5]) hlane hstarted hdeltas hgrid hbound
  obtain ⟨-, -, hticks⟩ := hcalls earlier (.tick 0.5) rfl
  obtain ⟨-, hends⟩ := hticks [0.25, 0.25] (by decide +kernel)
  rw [hcommands] at hends
  obtain ⟨hplays, hover⟩ := hends.mpr (by decide +kernel)
  exact ⟨lane, hlane, hstarted, hdeltas, hgrid, hbound, hcommands, hplays, hover⟩

end Stage

end SpriteStage
