import SpriteStage.Proofs.Clock
import SpriteStage.Proofs.Playback.Progress

/-!
# The pace of lanes

How far a lane gets, told by the time since its first visit, where all lengths of ticks are
multiples of one sixty-fourth of a second:

* `pace_spec`: within a visit, one command is due for each half second that the wait is over;
* `Lane.OnPace lane total`: what a lane looks like after `total` sixty-fourths;
* `Performance.OnPace performance lane total`: so it looks if it still plays, and it plays until
  half a second after its last command. `OnPace.tick` and `OnPace.start` keep it so.
-/

namespace SpriteStage

/-! ## Visits -/

/-- One command is due for each half second that the wait is over; if there are not as many, the
lane is finished. -/
theorem pace_spec (left : Nat) {cooldown : Float32} {k : Int} (h : Sixtyfourths cooldown k)
    (hlow : -2 ^ 23 ≤ k) (hhigh : k ≤ 32) :
    ((pace left cooldown).finished = true ↔ (left : Int) < (32 - k) / 32) ∧
      ((32 - k) / 32 ≤ left → ((pace left cooldown).steps : Int) = (32 - k) / 32 ∧
        Sixtyfourths (pace left cooldown).cooldown (32 - (32 - k) % 32)) := by
  induction left generalizing cooldown k with
  | zero =>
    have hdue := h.nonpos_iff
    refine ⟨?_, fun hnone => ⟨?_, ?_⟩⟩
    · simp only [pace, decide_eq_true_iff, hdue]
      omega
    · simp only [pace]
      omega
    · have hk : 32 - (32 - k) % 32 = k := by omega
      rwa [hk]
  | succ left ih =>
    rw [pace]
    split
    · next hdue =>
      -- A command is due, and the lane waits for another half second.
      have hk : k ≤ 0 := h.nonpos_iff.mp hdue
      obtain ⟨hfinished, hwithin⟩ := ih (h.add .pacingInterval (by omega)) (by omega) (by omega)
      have hnext : (32 - k) / 32 = (32 - (k + 32)) / 32 + 1 := by omega
      have hrest : (32 - k) % 32 = (32 - (k + 32)) % 32 := by omega
      refine ⟨hfinished.trans (by omega), fun hleft => ?_⟩
      obtain ⟨hsteps, hcooldown⟩ := hwithin (by omega)
      rw [hrest]
      refine ⟨?_, hcooldown⟩
      dsimp only
      omega
    · next hdue =>
      -- The wait is not over, so nothing is due and the cooldown stays as it is.
      have hk : 0 < k := not_le.mp (h.nonpos_iff.not.mp hdue)
      have hrest : 32 - (32 - k) % 32 = k := by omega
      refine ⟨⟨Bool.noConfusion, fun hleft => by omega⟩, fun _ => ⟨?_, ?_⟩⟩
      · dsimp only
        omega
      · rwa [hrest]

/-- The lane as it is when `total` sixty-fourths of a second have passed since its first visit, and
it still plays. -/
structure Lane.OnPace (lane : Lane) (total : Nat) : Prop where
  /-- The lane was visited. -/
  started : lane.started = true
  /-- A command was due at once, and one for each half second. -/
  cursor : lane.cursor = total / 32 + 1
  /-- The lane waits for the rest of the half second. -/
  cooldown : Sixtyfourths lane.cooldown (32 - total % 32)
  /-- The half second after the last command is not over. -/
  within : total < 32 * lane.commands.length

/-- The first visit of a lane takes it past its first command, or finishes it if it has none. -/
theorem Lane.onPace_first {lane : Lane} (hstarted : lane.started = false)
    (hcursor : lane.cursor = 0) (hcooldown : lane.cooldown = 0) (seconds : Float32) :
    ((lane.visit seconds).finished = true ↔ lane.commands.length = 0) ∧
      (lane.commands.length ≠ 0 → (lane.visit seconds).lane.OnPace 0) := by
  have hpace : lane.paceOf seconds = pace lane.commands.length 0 := by
    rw [paceOf_of_not_started hstarted, hcursor, hcooldown, Nat.sub_zero]
  obtain ⟨hfinished, hwithin⟩ :=
    pace_spec lane.commands.length .zero (by decide) (by decide)
  refine ⟨?_, fun hsome => ?_⟩
  · rw [finished_visit, hpace, hfinished]
    omega
  · obtain ⟨hsteps, hnext⟩ := hwithin (by omega)
    refine ⟨lane.started_visit seconds, ?_, ?_, ?_⟩
    · rw [cursor_visit, hpace, hcursor]
      omega
    · rw [cooldown_visit, hpace]
      exact hnext
    · rw [commands_visit]
      omega

/-- A visit takes a lane that is on pace past a command for each half second that is over. -/
theorem Lane.OnPace.visit {lane : Lane} {total d : Nat} (h : lane.OnPace total) {seconds : Float32}
    (hseconds : Sixtyfourths seconds d) (hbound : total + d < 2 ^ 23) :
    ((lane.visit seconds).finished = true ↔ 32 * lane.commands.length ≤ total + d) ∧
      (total + d < 32 * lane.commands.length → (lane.visit seconds).lane.OnPace (total + d)) := by
  have hpace := paceOf_of_started h.started seconds
  have hwithin := h.within
  have hcursor := h.cursor
  -- What the visit takes off the wait may go far below zero, which is what is caught up with.
  have hcooldown : Sixtyfourths (lane.cooldown - seconds) (32 - total % 32 - d) :=
    h.cooldown.sub hseconds (by omega)
  obtain ⟨hfinished, hplays⟩ :=
    pace_spec (lane.commands.length - lane.cursor) hcooldown (by omega) (by omega)
  refine ⟨?_, fun hleft => ?_⟩
  · rw [finished_visit, hpace, hfinished]
    omega
  · obtain ⟨hsteps, hnext⟩ := hplays (by omega)
    refine ⟨lane.started_visit seconds, ?_, ?_, hleft⟩
    · rw [cursor_visit, hpace]
      omega
    · have hrest : (32 : Int) - ((total + d : Nat) : Int) % 32 =
          32 - (32 - (32 - total % 32 - d)) % 32 := by omega
      rw [cooldown_visit, hpace, hrest]
      exact hnext

/-! ## Ticks and openings -/

/-- The durations are multiples of one sixty-fourth of a second, `total` of them together. -/
def AddUp : List Float32 → Nat → Prop
  | [], total => total = 0
  | seconds :: rest, total => ∃ d later : Nat, Sixtyfourths seconds d ∧ AddUp rest later ∧
      total = d + later

theorem addUp_concat {durations : List Float32} {seconds : Float32} {total : Nat}
    (h : AddUp (durations ++ [seconds]) total) :
    ∃ earlier d : Nat, AddUp durations earlier ∧ Sixtyfourths seconds d ∧ total = earlier + d := by
  induction durations generalizing total with
  | nil =>
    obtain ⟨d, later, hseconds, hlater, htotal⟩ := h
    cases hlater
    exact ⟨0, d, rfl, hseconds, by omega⟩
  | cons first durations ih =>
    obtain ⟨d, later, hfirst, hlater, rfl⟩ := h
    obtain ⟨earlier, d', hearlier, hseconds, rfl⟩ := ih hlater
    exact ⟨d + earlier, d', ⟨d, earlier, hfirst, hearlier, rfl⟩, hseconds, by omega⟩

namespace Performance

variable {performance : Performance} {lane : Lane} {total : Nat}

/-- A lane plays until half a second after its last command, and looks as it should then. -/
structure OnPace (performance : Performance) (lane : Lane) (total : Nat) : Prop where
  /-- Before that it plays. -/
  playing : total < 32 * lane.commands.length → ∃ live ∈ performance.lanes,
    live.key = lane.key ∧ live.commands = lane.commands ∧ live.OnPace total
  /-- From then on it does not. -/
  ended : 32 * lane.commands.length ≤ total → lane.key ∉ performance.lanes.map Lane.key

/-- A lane that is on pace was taken past a command for each half second, as long as there were
any. -/
theorem OnPace.cursorOf_eq (h : performance.OnPace lane total)
    (hnodup : (performance.lanes.map Lane.key).Nodup) :
    performance.cursorOf lane = min lane.commands.length (total / 32 + 1) := by
  rcases Nat.lt_or_ge total (32 * lane.commands.length) with hplays | hover
  · obtain ⟨live, hlive, hkey, -, hpace⟩ := h.playing hplays
    rw [cursorOf_of_mem hnodup hlive hkey, hpace.cursor]
    omega
  · rw [cursorOf_of_not_mem (h.ended hover)]
    omega

/-- A tick takes a lane away if its visit finishes it. -/
theorem key_mem_tick_iff (hnodup : (performance.lanes.map Lane.key).Nodup) {live : Lane}
    (hlive : live ∈ performance.lanes) (dt : Float32) :
    live.key ∈ (performance.tick dt).1.lanes.map Lane.key ↔
      (live.visit (performance.lapse dt)).finished = false := by
  constructor
  · intro hkey
    obtain ⟨after, hafter, heq⟩ := List.mem_map.mp hkey
    obtain ⟨other, hother, hplays, rfl⟩ := mem_lanes_tick_iff.mp hafter
    rwa [List.inj_on_of_nodup_map hnodup hother hlive heq] at hplays
  · intro hplays
    exact List.mem_map.mpr ⟨_, mem_lanes_tick_iff.mpr ⟨live, hlive, hplays, rfl⟩, rfl⟩

/-- The tick in which a lane is visited first puts it on its pace. -/
theorem onPace_tick_first (hnodup : (performance.lanes.map Lane.key).Nodup)
    (hlane : lane ∈ performance.lanes) (hstarted : lane.started = false)
    (hcursor : lane.cursor = 0) (hcooldown : lane.cooldown = 0) (dt : Float32) :
    (performance.tick dt).1.OnPace lane 0 := by
  obtain ⟨hfinished, hpace⟩ :=
    Lane.onPace_first hstarted hcursor hcooldown (performance.lapse dt)
  refine ⟨fun hplays => ?_, fun hover => ?_⟩
  · have hgoes : (lane.visit (performance.lapse dt)).finished = false := by
      rw [← Bool.not_eq_true, hfinished]
      omega
    exact ⟨_, mem_lanes_tick_iff.mpr ⟨lane, hlane, hgoes, rfl⟩, rfl, rfl, hpace (by omega)⟩
  · rw [key_mem_tick_iff hnodup hlane, hfinished.mpr (by omega)]
    exact Bool.noConfusion

/-- A tick keeps a lane on its pace. -/
theorem OnPace.tick (h : performance.OnPace lane total)
    (hnodup : (performance.lanes.map Lane.key).Nodup) {dt : Float32} {d : Nat}
    (hlapse : Sixtyfourths (performance.lapse dt) d) (hbound : total + d < 2 ^ 23) :
    (performance.tick dt).1.OnPace lane (total + d) := by
  refine ⟨fun hplays => ?_, fun hover => ?_⟩
  · obtain ⟨live, hlive, hkey, hcommands, hpace⟩ := h.playing (by omega)
    obtain ⟨hfinished, hnext⟩ := hpace.visit hlapse hbound
    rw [hcommands] at hfinished hnext
    have hgoes : (live.visit (performance.lapse dt)).finished = false := by
      rw [← Bool.not_eq_true, hfinished]
      omega
    exact ⟨_, mem_lanes_tick_iff.mpr ⟨live, hlive, hgoes, rfl⟩, hkey, hcommands, hnext hplays⟩
  · rcases Nat.lt_or_ge total (32 * lane.commands.length) with hplayed | hbefore
    · obtain ⟨live, hlive, hkey, hcommands, hpace⟩ := h.playing hplayed
      have hfinished := (hpace.visit hlapse hbound).1
      rw [hcommands] at hfinished
      rw [← hkey, key_mem_tick_iff hnodup hlive, hfinished.mpr hover]
      exact Bool.noConfusion
    · exact fun hmem => h.ended hbefore (mem_keys_of_tick hmem)

/-- An opening leaves older lanes on their pace. -/
theorem OnPace.start (h : performance.OnPace lane total)
    (hlane : lane.playback.number < performance.tracker.nextNumber) (script : Script)
    (spriteOf? : ActionId → Option SpriteId) :
    (performance.start script spriteOf?).2.1.OnPace lane total := by
  refine ⟨fun hplays => ?_, fun hover hmem => ?_⟩
  · obtain ⟨live, hlive, hlooks⟩ := h.playing hplays
    exact ⟨live, List.mem_append_left _ hlive, hlooks⟩
  · obtain ⟨live, hlive, hkey⟩ := List.mem_map.mp hmem
    rcases List.mem_append.mp hlive with hlive | hnew
    · exact h.ended hover (List.mem_map.mpr ⟨live, hlive, hkey⟩)
    · exact key_ne_of_mem_newLanes hlane hnew hkey.symm

/-! ## Runs -/

/-- What is known of a `lane` that had not been visited: since then ticks of the lengths `deltas`
have passed, and the `steps` were applied. -/
structure Timed (performance : Performance) (lane : Lane) (deltas : List Float32)
    (steps : List (Lane × String)) : Prop where
  /-- The books of the performance are in order. -/
  kept : ∃ opened events, performance.Kept opened events
  /-- The playback of the lane was opened. -/
  numbered : lane.playback.number < performance.tracker.nextNumber
  /-- While it plays, the lane keeps its commands and is not past its end. -/
  same : ∀ live ∈ performance.lanes, live.key = lane.key →
    live.commands = lane.commands ∧ live.cursor ≤ live.commands.length
  /-- The lane has applied the commands before its cursor. -/
  passed : taken steps (·.key = lane.key) = lane.commands.take (performance.cursorOf lane)
  /-- Without a tick, the lane is as it was. -/
  waiting : deltas = [] → lane ∈ performance.lanes
  /-- The ticks after the first one tell how far it is. -/
  paced : ∀ first rest total, deltas = first :: rest → AddUp rest total → total < 2 ^ 23 →
    performance.OnPace lane total

variable {deltas : List Float32} {steps : List (Lane × String)}

theorem Timed.live_nodup (h : performance.Timed lane deltas steps) :
    (performance.lanes.map Lane.key).Nodup := by
  obtain ⟨_, _, hkept⟩ := h.kept
  exact hkept.live_nodup

theorem Timed.cursorOf_le (h : performance.Timed lane deltas steps) :
    performance.cursorOf lane ≤ lane.commands.length := by
  by_cases hplays : lane.key ∈ performance.lanes.map Lane.key
  · obtain ⟨live, hlive, hkey⟩ := List.mem_map.mp hplays
    obtain ⟨hcommands, hle⟩ := h.same live hlive hkey
    rwa [cursorOf_of_mem h.live_nodup hlive hkey, ← hcommands]
  · exact (cursorOf_of_not_mem hplays).le

/-- Edits of other parts of a stage do not concern lanes. -/
theorem Timed.congr (h : performance.Timed lane deltas steps) {performance' : Performance}
    (hlanes : performance'.lanes = performance.lanes)
    (htracker : performance'.tracker = performance.tracker) :
    performance'.Timed lane deltas steps := by
  obtain ⟨⟨opened, events, hkept⟩, hnumbered, hsame, hpassed, hwaiting, hpaced⟩ := h
  refine ⟨⟨opened, events, hkept.congr hlanes htracker⟩, htracker ▸ hnumbered, hlanes ▸ hsame, ?_,
    hlanes ▸ hwaiting, fun first rest total hdeltas hrest hbound => ?_⟩
  · rw [hpassed, cursorOf, cursorOf, hlanes]
  · obtain ⟨hplaying, hover⟩ := hpaced first rest total hdeltas hrest hbound
    exact ⟨hlanes ▸ hplaying, hlanes ▸ hover⟩

theorem Timed.start (h : performance.Timed lane deltas steps) (script : Script)
    (spriteOf? : ActionId → Option SpriteId) :
    (performance.start script spriteOf?).2.1.Timed lane deltas steps := by
  obtain ⟨opened, events, hkept⟩ := h.kept
  refine ⟨⟨_, _, hkept.start script spriteOf?⟩, Nat.lt_succ_of_lt h.numbered,
    fun live hlive hkey => ?_, ?_, fun hnone => List.mem_append_left _ (h.waiting hnone),
    fun first rest total hdeltas hrest hbound =>
      (h.paced first rest total hdeltas hrest hbound).start h.numbered script spriteOf?⟩
  · rcases List.mem_append.mp hlive with hlive | hnew
    · exact h.same live hlive hkey
    · exact absurd hkey.symm (key_ne_of_mem_newLanes h.numbered hnew)
  · rw [h.passed, cursorOf_start_of_lt hkept.live_nodup (fun _ hlive => hkept.number_lt hlive)
      h.numbered]

theorem Timed.tick (h : performance.Timed lane deltas steps) (hstarted : lane.started = false)
    (hcursor : lane.cursor = 0) (hcooldown : lane.cooldown = 0) (dt : Float32) :
    (performance.tick dt).1.Timed lane (deltas ++ [(performance.clock.advance dt).delta])
      (steps ++ performance.steps dt) := by
  obtain ⟨opened, events, hkept⟩ := h.kept
  obtain ⟨hmono, hend, hsteps⟩ := cursorOf_tick h.live_nodup h.same dt
  refine ⟨⟨_, _, hkept.tick dt⟩, ?_, fun live hlive hkey => ?_, ?_, fun hnone => by simp at hnone,
    fun first rest total hdeltas hrest hbound => ?_⟩
  · rw [nextNumber_tick]
    exact h.numbered
  · obtain ⟨before, hbefore, -, rfl⟩ := mem_lanes_tick_iff.mp hlive
    obtain ⟨hcommands, hle⟩ := h.same before hbefore hkey
    exact ⟨hcommands, before.cursor_visit_le hle _⟩
  · rw [taken_append, h.passed, hsteps, ← List.take_add, Nat.add_sub_cancel' hmono]
  · cases deltas with
    | nil =>
      -- The lane is visited for the first time, so no time counts yet.
      obtain ⟨rfl, rfl⟩ := List.cons.inj hdeltas
      cases hrest
      exact onPace_tick_first h.live_nodup (h.waiting rfl) hstarted hcursor hcooldown dt
    | cons opening deltas =>
      obtain ⟨rfl, rfl⟩ := List.cons.inj hdeltas
      obtain ⟨earlier, d, hearlier, hdelta, rfl⟩ := addUp_concat hrest
      have hpace := h.paced opening deltas earlier rfl hearlier (by omega)
      exact hpace.tick h.live_nodup (hdelta.positivePart (Int.natCast_nonneg d)) hbound

end Performance

end SpriteStage
