import Mathlib.Data.List.Induction
import Mathlib.Data.List.Nodup
import SpriteStage.Proofs.Playback.Count
import SpriteStage.Proofs.Stage.Reachable

/-!
# Playbacks and their lanes

A playback is over when its last lane is, but the tracker only counts, and it never sees a lane. The
module introduces:

* `Performance.Kept performance opened events`: the tracker counts the lanes that are playing, and
  `events` report those of the `opened` lanes that are not, each playback right after its last lane;
* `Kept.start` and `Kept.tick`: openings and ticks keep it so;
* `Stage.opened` and `Stage.handedOut`: the lanes that calls opened, and the ids that they answered.

The main statement, `tracker_agrees_with_lanes`, says what this means on every reachable stage.
-/

namespace SpriteStage

namespace Performance

/-! ## One tick -/

/-- The seconds that pass for the lanes in a tick. -/
def lapse (performance : Performance) (dt : Float32) : Float32 :=
  positivePart (performance.clock.advance dt).delta

/-- The visits of a tick. -/
def visits (performance : Performance) (dt : Float32) : List Visit :=
  performance.lanes.map (·.visit (performance.lapse dt))

/-- The lanes that finish in a tick. -/
def finishing (performance : Performance) (dt : Float32) : List Lane :=
  ((performance.visits dt).filter (·.finished)).map (·.lane)

variable {performance : Performance} {opened : List Lane} {events : List Event}

/-- The lanes that do not finish in a tick play on. -/
theorem lanes_tick (performance : Performance) (dt : Float32) :
    (performance.tick dt).1.lanes =
      ((performance.visits dt).filter (!·.finished)).map (·.lane) := by
  rfl

/-- In a tick, lanes go on or finish. -/
theorem perm_lanes_tick (performance : Performance) (dt : Float32) :
    ((performance.finishing dt ++ (performance.tick dt).1.lanes).map Lane.key).Perm
      (performance.lanes.map Lane.key) := by
  have hvisits : performance.lanes.map Lane.key = (performance.visits dt).map (·.lane.key) := by
    simp [visits]
  have hsplit : performance.finishing dt ++ (performance.tick dt).1.lanes =
      ((performance.visits dt).filter (·.finished) ++
        (performance.visits dt).filter (!·.finished)).map (·.lane) := by
    rw [finishing, lanes_tick, List.map_append]
  rw [hvisits, hsplit, List.map_map]
  exact (List.filter_append_perm (·.finished) (performance.visits dt)).map _

/-- Who counts the lanes before a tick counts them after it, and the reports tell which finished. -/
theorem tick_of_counts (h : performance.tracker.Counts performance.lanes) (dt : Float32) :
    (performance.tick dt).2 = closing (performance.tick dt).1.clock.elapsed
        (performance.tick dt).1.lanes (performance.finishing dt) ∧
      (performance.tick dt).1.tracker.Counts (performance.tick dt).1.lanes :=
  Tracker.close_eq (h.congr (performance.perm_lanes_tick dt).symm)

theorem nextNumber_tick (performance : Performance) (dt : Float32) :
    (performance.tick dt).1.tracker.nextNumber = performance.tracker.nextNumber :=
  Tracker.nextNumber_close _ _ _

/-! ## The invariant -/

/-- The books are in order: the tracker counts the lanes that are playing, and `events` report those
of the `opened` lanes that are not. -/
structure Kept (performance : Performance) (opened : List Lane) (events : List Event) : Prop where
  /-- The tracker counts the lanes that are playing. -/
  counts : performance.tracker.Counts performance.lanes
  /-- Lanes belong to playbacks that were opened. -/
  numbered : ∀ lane ∈ opened, lane.playback.number < performance.tracker.nextNumber
  /-- No playback plays an id twice. -/
  keys_nodup : (opened.map Lane.key).Nodup
  /-- Every lane that was opened is playing, or was reported to be over. -/
  lanes_perm : (events.filterMap Event.lane? ++ performance.lanes.map Lane.key).Perm
    (opened.map Lane.key)
  /-- Every playback that is over was reported once, and no other was. -/
  playbacks : ∀ p, (events.filterMap Event.playback?).count p =
    if performance.tracker.isFinished p then 1 else 0
  /-- A playback was reported right after its last lane, unless it had none. -/
  placed : ∀ before p t later, events = before ++ .playbackFinished p t :: later →
    (∀ action t', .laneFinished p action t' ∉ later) ∧
      ((∃ earlier action, before = earlier ++ [.laneFinished p action t]) ∨
        lanesLeft opened p = 0)

/-- The books of a performance are about its lanes and its tracker. -/
theorem Kept.congr (h : performance.Kept opened events) {performance' : Performance}
    (hlanes : performance'.lanes = performance.lanes)
    (htracker : performance'.tracker = performance.tracker) : performance'.Kept opened events := by
  obtain ⟨hcounts, hnumbered, hnodup, hperm, hplaybacks, hplaced⟩ := h
  rw [← hlanes, ← htracker] at *
  exact ⟨hcounts, hnumbered, hnodup, hperm, hplaybacks, hplaced⟩

theorem kept_nil (h : performance.lanes = []) (htracker : performance.tracker = {}) :
    performance.Kept [] [] := by
  have hnone : Kept {} [] [] :=
    { counts := fun _ => rfl
      numbered := nofun
      keys_nodup := List.nodup_nil
      lanes_perm := .nil
      playbacks := fun _ => rfl
      placed := fun before p t later heq => by simp at heq }
  exact hnone.congr h htracker

/-- An event reports that a playback is over exactly if the playback is among those reported. -/
theorem mem_playbacks_iff {p : PlaybackId} :
    p ∈ events.filterMap Event.playback? ↔ ∃ t, .playbackFinished p t ∈ events := by
  rw [List.mem_filterMap]
  constructor
  · rintro ⟨event, hevent, hp⟩
    cases event with
    | playbackFinished q t =>
      cases hp
      exact ⟨t, hevent⟩
    | laneFinished | collided => cases hp
  · rintro ⟨t, ht⟩
    exact ⟨_, ht, rfl⟩

/-- A playback that was reported is over. -/
theorem Kept.isFinished_of_mem (h : performance.Kept opened events) {p : PlaybackId} {t : Float32}
    (hp : .playbackFinished p t ∈ events) : performance.tracker.isFinished p = true := by
  by_contra hnot
  have hcount := h.playbacks p
  rw [if_neg hnot, List.count_eq_zero, mem_playbacks_iff] at hcount
  exact hcount ⟨t, hp⟩

/-- Playing lanes are told apart by playback and id. -/
theorem Kept.live_nodup (h : performance.Kept opened events) :
    (performance.lanes.map Lane.key).Nodup :=
  (List.nodup_append.mp (h.lanes_perm.nodup_iff.mpr h.keys_nodup)).2.1

/-- Playing lanes belong to playbacks that were opened. -/
theorem Kept.number_lt (h : performance.Kept opened events) {lane : Lane}
    (hlane : lane ∈ performance.lanes) :
    lane.playback.number < performance.tracker.nextNumber := by
  have hkey := h.lanes_perm.subset (List.mem_append_right _ (List.mem_map_of_mem hlane))
  obtain ⟨first, hfirst, heq⟩ := List.mem_map.mp hkey
  have hplayback : first.playback = lane.playback := congrArg (·.1) heq
  exact hplayback ▸ h.numbered first hfirst

/-- The number of the next playback is new. -/
theorem Kept.playback_ne (h : performance.Kept opened events) {lane : Lane}
    (hlane : lane ∈ opened) :
    lane.playback ≠ ⟨performance.tracker.nextNumber⟩ := by
  intro heq
  have hlt := h.numbered lane hlane
  rw [heq] at hlt
  exact Nat.lt_irrefl _ hlt

/-- Further reports keep playbacks right after their last lanes, if they do so among themselves and
are about none of the lanes of playbacks that are over. -/
theorem Kept.placed_append (h : performance.Kept opened events) {lanes : List Lane}
    {further : List Event}
    (hold : ∀ p, performance.tracker.isFinished p = true →
      lanesLeft lanes p = 0 ∧ ∀ action t, .laneFinished p action t ∉ further)
    (hnew : ∀ before p t later, further = before ++ .playbackFinished p t :: later →
      (∀ action t', .laneFinished p action t' ∉ later) ∧
        ((∃ earlier action, before = earlier ++ [.laneFinished p action t]) ∨
          lanesLeft (opened ++ lanes) p = 0)) :
    ∀ before p t later, events ++ further = before ++ .playbackFinished p t :: later →
      (∀ action t', .laneFinished p action t' ∉ later) ∧
        ((∃ earlier action, before = earlier ++ [.laneFinished p action t]) ∨
          lanesLeft (opened ++ lanes) p = 0) := by
  intro before p t later heq
  have hfurther (early : List Event) (hbefore : before = events ++ early)
      (heq : further = early ++ .playbackFinished p t :: later) :
      (∀ action t', .laneFinished p action t' ∉ later) ∧
        ((∃ earlier action, before = earlier ++ [.laneFinished p action t]) ∨
          lanesLeft (opened ++ lanes) p = 0) := by
    obtain ⟨hnone, hplace⟩ := hnew early p t later heq
    refine ⟨hnone, hplace.imp_left ?_⟩
    rintro ⟨earlier, action, rfl⟩
    exact ⟨events ++ earlier, action, by rw [hbefore, List.append_assoc]⟩
  -- The report stands among the further ones, or it was there already.
  rcases List.append_eq_append_iff.mp heq with ⟨early, hbefore, heq⟩ | ⟨late, hevents, heq⟩
  · exact hfurther early hbefore heq
  · cases late with
    | nil => exact hfurther [] (by simpa using hevents.symm) heq.symm
    | cons event late =>
      obtain ⟨rfl, rfl⟩ := List.cons.inj heq
      obtain ⟨hnone, hplace⟩ := h.placed before p t late hevents
      have hfinished : performance.tracker.isFinished p = true :=
        h.isFinished_of_mem (t := t) (by simp [hevents])
      refine ⟨fun action t' hmem => ?_, hplace.imp_right fun hzero => ?_⟩
      · rcases List.mem_append.mp hmem with hmem | hmem
        · exact hnone action t' hmem
        · exact (hold p hfinished).2 action t' hmem
      · rw [lanesLeft_append, hzero, (hold p hfinished).1]

/-! ## Openings -/

/-- The lanes that an opening adds. -/
def newLanes (performance : Performance) (script : Script)
    (spriteOf? : ActionId → Option SpriteId) : List Lane :=
  script.toList.map fun (action, commands) =>
    { playback := ⟨performance.tracker.nextNumber⟩, action, sprite := spriteOf? action, commands }

variable {script : Script} {spriteOf? : ActionId → Option SpriteId}

@[simp]
theorem lanes_start : (performance.start script spriteOf?).2.1.lanes =
    performance.lanes ++ performance.newLanes script spriteOf? := by
  rfl

@[simp]
theorem tracker_start : (performance.start script spriteOf?).2.1.tracker =
    (performance.tracker.begin script.size).2 := by
  rfl

theorem playback_of_mem_newLanes {lane : Lane}
    (h : lane ∈ performance.newLanes script spriteOf?) :
    lane.playback = ⟨performance.tracker.nextNumber⟩ := by
  obtain ⟨_, -, rfl⟩ := List.mem_map.mp h
  rfl

theorem length_newLanes : (performance.newLanes script spriteOf?).length = script.size := by
  rw [newLanes, List.length_map, Std.ExtTreeMap.length_toList]

/-- An opening adds lanes with different ids. -/
theorem nodup_newLanes : ((performance.newLanes script spriteOf?).map Lane.key).Nodup := by
  have hkeys : (performance.newLanes script spriteOf?).map Lane.key =
      script.keys.map fun action => (⟨performance.tracker.nextNumber⟩, action) := by
    rw [← Std.ExtTreeMap.map_fst_toList_eq_keys, newLanes, List.map_map, List.map_map]
    rfl
  rw [hkeys]
  exact Std.ExtTreeMap.nodup_keys.map fun a b hab => congrArg (·.2) hab

/-- The new lanes differ from all older ones. -/
theorem key_ne_of_mem_newLanes {lane new : Lane}
    (hlane : lane.playback.number < performance.tracker.nextNumber)
    (hnew : new ∈ performance.newLanes script spriteOf?) : lane.key ≠ new.key := by
  intro heq
  have hplayback : lane.playback = ⟨performance.tracker.nextNumber⟩ :=
    (congrArg (·.1) heq).trans (playback_of_mem_newLanes hnew)
  rw [hplayback] at hlane
  exact Nat.lt_irrefl _ hlane

theorem nodup_append_newLanes {lanes : List Lane} (hnodup : (lanes.map Lane.key).Nodup)
    (hlanes : ∀ lane ∈ lanes, lane.playback.number < performance.tracker.nextNumber) :
    ((lanes ++ performance.newLanes script spriteOf?).map Lane.key).Nodup := by
  rw [List.map_append]
  refine List.Nodup.append hnodup nodup_newLanes fun key hold hnew => ?_
  obtain ⟨lane, hlane, rfl⟩ := List.mem_map.mp hold
  obtain ⟨new, hmem, heq⟩ := List.mem_map.mp hnew
  exact key_ne_of_mem_newLanes (hlanes lane hlane) hmem heq.symm

/-- An opening reports the playback only if it has no lanes. -/
theorem reports_start : (performance.start script spriteOf?).2.2 =
    if performance.newLanes script spriteOf? = [] then
      [.playbackFinished ⟨performance.tracker.nextNumber⟩ performance.clock.elapsed] else [] := by
  have hevents : (performance.start script spriteOf?).2.2 =
      if (performance.newLanes script spriteOf?).isEmpty then
        [.playbackFinished ⟨performance.tracker.nextNumber⟩ performance.clock.elapsed] else [] := by
    rfl
  simpa only [List.isEmpty_iff] using hevents

theorem laneFinished_not_mem_start {p : PlaybackId} {action : ActionId} {t : Float32} :
    .laneFinished p action t ∉ (performance.start script spriteOf?).2.2 := by
  rw [reports_start]
  split <;> simp

/-- The tracker counts the new lanes too. -/
theorem Kept.counts_start (h : performance.Kept opened events) (script : Script)
    (spriteOf? : ActionId → Option SpriteId) :
    (performance.start script spriteOf?).2.1.tracker.Counts
      (performance.lanes ++ performance.newLanes script spriteOf?) := by
  have hcounts : (performance.tracker.begin (performance.newLanes script spriteOf?).length).2.Counts
      (performance.lanes ++ performance.newLanes script spriteOf?) :=
    Tracker.counts_begin h.counts (fun lane hlane => h.number_lt hlane) fun lane hlane =>
      playback_of_mem_newLanes hlane
  rwa [length_newLanes] at hcounts

/-- Of the playbacks, an opening concerns the new one only. -/
theorem Kept.isFinished_start (h : performance.Kept opened events) (p : PlaybackId) :
    (performance.start script spriteOf?).2.1.tracker.isFinished p = true ↔
      if p = ⟨performance.tracker.nextNumber⟩ then performance.newLanes script spriteOf? = []
      else performance.tracker.isFinished p = true := by
  rw [(h.counts_start script spriteOf?).isFinished_iff, h.counts.isFinished_iff, tracker_start,
    Tracker.nextNumber_begin]
  split
  · next hp =>
    -- Older lanes have smaller numbers, so only the new ones can belong to the new playback.
    subst hp
    constructor
    · rintro ⟨-, hnone⟩
      refine List.eq_nil_iff_forall_not_mem.mpr fun lane hlane => ?_
      exact hnone lane (List.mem_append_right _ hlane) (playback_of_mem_newLanes hlane)
    · intro hnil
      refine ⟨Nat.lt_succ_self _, fun lane hlane heq => ?_⟩
      rw [hnil, List.append_nil] at hlane
      have hlt := h.number_lt hlane
      rw [heq] at hlt
      exact Nat.lt_irrefl _ hlt
  · next hp =>
    -- The other playbacks get no lane.
    have hne : p.number ≠ performance.tracker.nextNumber := fun hn => hp (congrArg PlaybackId.mk hn)
    constructor
    · rintro ⟨hlt, hnone⟩
      exact ⟨by omega, fun lane hlane => hnone lane (List.mem_append_left _ hlane)⟩
    · rintro ⟨hlt, hnone⟩
      refine ⟨by omega, fun lane hlane => ?_⟩
      rcases List.mem_append.mp hlane with hlane | hlane
      · exact hnone lane hlane
      · rw [playback_of_mem_newLanes hlane]
        exact Ne.symm hp

/-- Openings keep the books in order. -/
theorem Kept.start (h : performance.Kept opened events) (script : Script)
    (spriteOf? : ActionId → Option SpriteId) :
    (performance.start script spriteOf?).2.1.Kept
      (opened ++ performance.newLanes script spriteOf?)
      (events ++ (performance.start script spriteOf?).2.2) where
  counts := h.counts_start script spriteOf?
  numbered := by
    intro lane hlane
    rw [tracker_start, Tracker.nextNumber_begin]
    rcases List.mem_append.mp hlane with hlane | hlane
    · exact Nat.lt_succ_of_lt (h.numbered lane hlane)
    · rw [playback_of_mem_newLanes hlane]
      exact Nat.lt_succ_self _
  keys_nodup := nodup_append_newLanes h.keys_nodup h.numbered
  lanes_perm := by
    -- An opening reports no lane, and its lanes are opened and playing.
    have hnone : (performance.start script spriteOf?).2.2.filterMap Event.lane? = [] := by
      rw [reports_start]
      split <;> rfl
    rw [List.filterMap_append, hnone, List.append_nil, List.map_append, lanes_start,
      List.map_append, ← List.append_assoc]
    exact h.lanes_perm.append_right _
  playbacks := by
    intro p
    rw [List.filterMap_append, List.count_append, h.playbacks, reports_start]
    simp only [h.isFinished_start p]
    by_cases hp : p = ⟨performance.tracker.nextNumber⟩
    · -- The new playback was not over before, and it is now exactly if it has no lanes.
      have hnot : performance.tracker.isFinished ⟨performance.tracker.nextNumber⟩ = false := by
        simp [Tracker.isFinished]
      by_cases hnil : performance.newLanes script spriteOf? = [] <;>
        simp [hp, hnil, hnot, Event.playback?]
    · by_cases hnil : performance.newLanes script spriteOf? = [] <;>
        simp [hp, hnil, Event.playback?, Ne.symm hp]
  placed := by
    refine h.placed_append (fun p hp => ⟨?_, fun _ _ => laneFinished_not_mem_start⟩) ?_
    · rw [lanesLeft_eq_zero_iff]
      intro lane hlane heq
      have hlt := (h.counts.isFinished_iff.mp hp).1
      rw [← heq, playback_of_mem_newLanes hlane] at hlt
      exact Nat.lt_irrefl _ hlt
    · intro before p t later heq
      rw [reports_start] at heq
      split at heq
      · next hnil =>
        cases before with
        | nil =>
          -- The only report is on the new playback, which no lane belongs to.
          obtain ⟨hevent, rfl⟩ := List.cons.inj heq
          cases hevent
          refine ⟨fun _ _ => List.not_mem_nil, .inr ?_⟩
          rw [hnil, List.append_nil, lanesLeft_eq_zero_iff]
          exact fun lane hlane => h.playback_ne hlane
        | cons event before => simp at heq
      · simp at heq

/-! ## Ticks -/

/-- In a tick, exactly the lanes finish that do not play on. -/
theorem Kept.mem_finishing_iff (h : performance.Kept opened events) (dt : Float32)
    {key : PlaybackId × ActionId} :
    key ∈ (performance.finishing dt).map Lane.key ↔
      key ∈ performance.lanes.map Lane.key ∧
        key ∉ (performance.tick dt).1.lanes.map Lane.key := by
  -- The tick splits the lanes in two, and their keys are distinct.
  have hperm := performance.perm_lanes_tick dt
  rw [List.map_append] at hperm
  have hdisjoint := List.disjoint_of_nodup_append (hperm.nodup_iff.mpr h.live_nodup)
  rw [← hperm.mem_iff, List.mem_append]
  constructor
  · exact fun hkey => ⟨.inl hkey, hdisjoint hkey⟩
  · rintro ⟨hkey | hkey, hnot⟩
    · exact hkey
    · exact absurd hkey hnot

/-- A tick reports the lanes that do not play on. -/
theorem Kept.laneFinished_mem_tick (h : performance.Kept opened events) {dt t : Float32}
    {p : PlaybackId} {action : ActionId} :
    .laneFinished p action t ∈ (performance.tick dt).2 ↔
      t = (performance.tick dt).1.clock.elapsed ∧ (p, action) ∈ performance.lanes.map Lane.key ∧
        (p, action) ∉ (performance.tick dt).1.lanes.map Lane.key := by
  rw [(tick_of_counts h.counts dt).1, laneFinished_mem_closing, h.mem_finishing_iff]

/-- A tick reports once each playback that it ends, and no other. -/
theorem Kept.count_playbacks_tick (h : performance.Kept opened events) (dt : Float32)
    (p : PlaybackId) :
    ((performance.tick dt).2.filterMap Event.playback?).count p =
      if performance.tracker.isFinished p = false ∧
        (performance.tick dt).1.tracker.isFinished p = true then 1 else 0 := by
  obtain ⟨hevents, hcounts⟩ := tick_of_counts h.counts dt
  have hleft : lanesLeft performance.lanes p = lanesLeft (performance.finishing dt) p +
      lanesLeft (performance.tick dt).1.lanes p := by
    rw [← lanesLeft_append, lanesLeft_congr (performance.perm_lanes_tick dt)]
  rw [hevents, count_playbacks_closing]
  refine if_congr ?_ rfl rfl
  rw [← Bool.not_eq_true, h.counts.isFinished_iff, hcounts.isFinished_iff,
    nextNumber_tick, ← lanesLeft_eq_zero_iff, ← lanesLeft_eq_zero_iff]
  constructor
  · -- One of its lanes finished, so the playback was running; no lane is left, so it is over.
    rintro ⟨hsome, hnone⟩
    have hlane : ¬ ∀ lane ∈ performance.lanes, lane.playback ≠ p := by
      rw [← lanesLeft_eq_zero_iff]
      omega
    push Not at hlane
    obtain ⟨lane, hlane, rfl⟩ := hlane
    exact ⟨fun hfinished => by omega, h.number_lt hlane, hnone⟩
  · -- If no lane of the playback had finished, it would have been over before.
    rintro ⟨hrunning, hlt, hnone⟩
    refine ⟨fun hzero => hrunning ⟨hlt, ?_⟩, hnone⟩
    omega

/-- A tick reports the playbacks that it ends. -/
theorem Kept.playbackFinished_mem_tick (h : performance.Kept opened events) {dt t : Float32}
    {p : PlaybackId} :
    .playbackFinished p t ∈ (performance.tick dt).2 ↔
      t = (performance.tick dt).1.clock.elapsed ∧ performance.tracker.isFinished p = false ∧
        (performance.tick dt).1.tracker.isFinished p = true := by
  -- The count tells which playbacks are reported, but not when, so the time comes first.
  have htime {t : Float32} (ht : .playbackFinished p t ∈ (performance.tick dt).2) :
      t = (performance.tick dt).1.clock.elapsed := by
    rw [(tick_of_counts h.counts dt).1] at ht
    exact time_of_playbackFinished_mem_closing ht
  have hends : p ∈ (performance.tick dt).2.filterMap Event.playback? ↔
      performance.tracker.isFinished p = false ∧
        (performance.tick dt).1.tracker.isFinished p = true := by
    rw [← List.count_pos_iff, h.count_playbacks_tick]
    split <;> simp_all
  rw [← hends, mem_playbacks_iff]
  constructor
  · exact fun hmem => ⟨htime hmem, t, hmem⟩
  · rintro ⟨rfl, t, hmem⟩
    rwa [← htime hmem]

/-- A playback that is over stays over. -/
theorem Kept.isFinished_tick (h : performance.Kept opened events) (dt : Float32) {p : PlaybackId}
    (hp : performance.tracker.isFinished p = true) :
    (performance.tick dt).1.tracker.isFinished p = true := by
  rw [h.counts.isFinished_iff, ← lanesLeft_eq_zero_iff,
    ← lanesLeft_congr (performance.perm_lanes_tick dt), lanesLeft_append] at hp
  rw [(tick_of_counts h.counts dt).2.isFinished_iff, nextNumber_tick, ← lanesLeft_eq_zero_iff]
  omega

/-- Ticks keep the books in order. -/
theorem Kept.tick (h : performance.Kept opened events) (dt : Float32) :
    (performance.tick dt).1.Kept opened (events ++ (performance.tick dt).2) where
  counts := (tick_of_counts h.counts dt).2
  numbered := by
    rw [nextNumber_tick]
    exact h.numbered
  keys_nodup := h.keys_nodup
  lanes_perm := by
    rw [List.filterMap_append, (tick_of_counts h.counts dt).1, lanes_closing, List.append_assoc,
      ← List.map_append]
    exact ((performance.perm_lanes_tick dt).append_left _).trans h.lanes_perm
  playbacks := by
    intro p
    -- What was over before is in the older reports, and the tick does not repeat it.
    rw [List.filterMap_append, List.count_append, h.playbacks, h.count_playbacks_tick]
    by_cases hp : performance.tracker.isFinished p = true
    · simp [hp, h.isFinished_tick dt hp]
    · simp [hp]
  placed := by
    rw [← List.append_nil opened]
    refine h.placed_append (fun p hp => ⟨rfl, fun action t hmem => ?_⟩) ?_
    · -- A playback that is over has no lane that could finish.
      obtain ⟨lane, hlane, hkey⟩ := List.mem_map.mp (h.laneFinished_mem_tick.mp hmem).2.1
      exact (h.counts.isFinished_iff.mp hp).2 lane hlane (congrArg (·.1) hkey)
    · intro before p t later heq
      rw [(tick_of_counts h.counts dt).1] at heq
      obtain ⟨hnone, hplace⟩ := closing_eq_append heq
      exact ⟨hnone, .inl hplace⟩

/-- Collisions are none of the books' business. -/
theorem Kept.append_collided (h : performance.Kept opened events) (collisions : List Collision) :
    performance.Kept opened (events ++ collisions.map .collided) where
  counts := h.counts
  numbered := h.numbered
  keys_nodup := h.keys_nodup
  lanes_perm := by
    rw [List.filterMap_append, List.filterMap_map]
    simpa [Function.comp_def, Event.lane?] using h.lanes_perm
  playbacks := by
    intro p
    rw [List.filterMap_append, List.filterMap_map, ← h.playbacks p]
    simp [Function.comp_def, Event.playback?]
  placed := by
    rw [← List.append_nil opened]
    refine h.placed_append (fun p _ => ⟨rfl, by simp⟩) fun before p t later heq => ?_
    have hmem : .playbackFinished p t ∈ collisions.map Event.collided := by simp [heq]
    simp at hmem

end Performance

namespace Stage

/-! ## Runs -/

/-- The lanes that a call opens. -/
def opens (stage : Stage) : Call → List Lane
  | .start script | .playScript script => stage.performance.newLanes script stage.index.spriteOf?
  | .play => stage.performance.newLanes stage.queues.script stage.index.spriteOf?
  | _ => []

/-- The playback that a call answers with. -/
def answers (stage : Stage) (call : Call) : List PlaybackId :=
  match (stage.perform call).reply with
  | .playback id => [id]
  | _ => []

/-- The lanes that calls opened, in order. -/
def openedLanes (settings : Settings) (calls : List Call) : List Lane :=
  (new settings).collect opens calls

/-- The playback ids that calls handed out, in order. -/
def handedOut (settings : Settings) (calls : List Call) : List PlaybackId :=
  (new settings).collect answers calls

variable {stage : Stage} {opened : List Lane} {events : List Event}

/-- The ids of the playbacks that were opened so far. -/
def usedIds (stage : Stage) : List PlaybackId :=
  (List.range stage.performance.tracker.nextNumber).map PlaybackId.mk

/-- An edit opens nothing and hands out nothing. -/
theorem opens_of_isEdit (stage : Stage) {call : Call} (hcall : call.isEdit = true) :
    stage.opens call = [] ∧ stage.answers call = [] := by
  cases call <;> first | exact ⟨rfl, rfl⟩ | simp [Call.isEdit] at hcall

/-- A tick keeps the books in order, and uses no id. -/
theorem kept_tick (h : stage.performance.Kept opened events) (dt : Float32) :
    (stage.tick dt).1.performance.Kept opened (events ++ (stage.tick dt).2) ∧
      (stage.tick dt).1.usedIds = stage.usedIds := by
  obtain ⟨collisions, hevents⟩ : ∃ collisions : List Collision,
      (stage.tick dt).2 = (stage.performance.tick dt).2 ++ collisions.map .collided := ⟨_, rfl⟩
  have hkept := (h.tick dt).append_collided collisions
  rw [List.append_assoc, ← hevents] at hkept
  refine ⟨hkept, ?_⟩
  rw [usedIds, usedIds, ← stage.performance.nextNumber_tick dt]
  rfl

/-- An opening keeps the books in order, and uses the next id. -/
theorem kept_start (h : stage.performance.Kept opened events) (script : Script) :
    (stage.start script).2.1.performance.Kept (opened ++ stage.opens (.start script))
        (events ++ (stage.start script).2.2) ∧
      (stage.start script).2.1.usedIds = stage.usedIds ++ [(stage.start script).1] := by
  refine ⟨h.start script stage.index.spriteOf?, ?_⟩
  rw [usedIds, performance_start, Performance.tracker_start, Tracker.nextNumber_begin,
    List.range_succ, List.map_append]
  rfl

theorem kept_playScript (h : stage.performance.Kept opened events) (script : Script) :
    (stage.playScript script).2.1.performance.Kept (opened ++ stage.opens (.start script))
        (events ++ (stage.playScript script).2.2) ∧
      (stage.playScript script).2.1.usedIds = stage.usedIds ++ [(stage.playScript script).1] := by
  obtain ⟨hkept, hids⟩ := kept_start h script
  obtain ⟨hkept', hids'⟩ := kept_tick hkept 0
  rw [playScript_eq, ← List.append_assoc]
  exact ⟨hkept', hids'.trans hids⟩

/-- Every call keeps the books in order. -/
theorem kept_perform (h : stage.performance.Kept opened events) (call : Call) :
    (stage.perform call).stage.performance.Kept (opened ++ stage.opens call)
        (events ++ (stage.perform call).events) ∧
      (stage.perform call).stage.usedIds = stage.usedIds ++ stage.answers call := by
  rcases call.isEdit_or with hcall | ⟨script, rfl⟩ | ⟨script, rfl⟩ | rfl | ⟨dt, rfl⟩
  · obtain ⟨hlanes, htracker, -⟩ := performance_edit (edit_perform stage hcall)
    obtain ⟨hopens, hanswers⟩ := stage.opens_of_isEdit hcall
    rw [hopens, hanswers, stage.events_perform_of_isEdit hcall, List.append_nil, List.append_nil,
      List.append_nil, usedIds, htracker]
    exact ⟨h.congr hlanes htracker, rfl⟩
  · exact kept_start h script
  · exact kept_playScript h script
  · exact kept_playScript h stage.queues.script
  · obtain ⟨hkept, hids⟩ := kept_tick h dt
    exact ⟨(List.append_nil opened).symm ▸ hkept, hids.trans (List.append_nil _).symm⟩

theorem performance_new (settings : Settings) :
    (new settings).performance.lanes = [] ∧ (new settings).performance.tracker = {} := by
  rw [new]
  split
  · exact ⟨rfl, rfl⟩
  · exact ⟨rfl, rfl⟩

/-- On every reachable stage the books are in order. -/
theorem kept_after (settings : Settings) (calls : List Call) :
    (after settings calls).performance.Kept (openedLanes settings calls) (reports settings calls) ∧
      (after settings calls).usedIds = handedOut settings calls := by
  induction calls using List.reverseRecOn with
  | nil =>
    obtain ⟨hlanes, htracker⟩ := performance_new settings
    refine ⟨Performance.kept_nil hlanes htracker, ?_⟩
    rw [after_nil, usedIds, htracker]
    rfl
  | append_singleton calls call ih =>
    obtain ⟨hkept, hids⟩ := kept_perform ih.1 call
    rw [ih.2] at hids
    rw [after_concat, reports_concat, openedLanes, handedOut, collect_concat, collect_concat]
    exact ⟨hkept, hids⟩

/-! ## Main statement -/

/-- The bookkeeping of playbacks agrees with the lanes that are playing, on every reachable stage.
The tracker counts the lanes of each playback, so a playback is finished if its id was handed out
and it has no lane, and the stage is idle if there is no lane at all. No id is handed out twice.

Every lane that was ever opened is either playing or was reported to be over, once; a tick
reports it when it takes the lane away, with the time of that tick. Every playback that is finished
was reported, once: by the tick that finished it, right after its last lane and with the same time;
or, if it had no lanes, when it was opened. -/
theorem tracker_agrees_with_lanes (settings : Settings) (calls : List Call) :
    let stage := after settings calls
    let lanes := stage.performance.lanes
    let opened := openedLanes settings calls
    let events := reports settings calls
    (∀ p, stage.performance.tracker.remaining[p]? =
      if lanesLeft lanes p = 0 then none else some (lanesLeft lanes p)) ∧
    (∀ p, stage.isFinished p = true ↔
      p ∈ handedOut settings calls ∧ ∀ lane ∈ lanes, lane.playback ≠ p) ∧
    (stage.isIdle = true ↔ lanes = []) ∧
    (handedOut settings calls).Nodup ∧
    (opened.map Lane.key).Nodup ∧
    (∀ lane ∈ opened, lane.playback ∈ handedOut settings calls) ∧
    (events.filterMap Event.lane? ++ lanes.map Lane.key).Perm (opened.map Lane.key) ∧
    (∀ p, (events.filterMap Event.playback?).count p = if stage.isFinished p then 1 else 0) ∧
    (∀ before p t later, events = before ++ .playbackFinished p t :: later →
      (∀ action t', .laneFinished p action t' ∉ later) ∧
        ((∃ earlier action, before = earlier ++ [.laneFinished p action t]) ∨
          ∀ lane ∈ opened, lane.playback ≠ p)) ∧
    (∀ dt, let next := stage.tick dt
      (∀ p action t, .laneFinished p action t ∈ next.2 ↔
        t = next.1.elapsed ∧ (p, action) ∈ lanes.map Lane.key ∧
          (p, action) ∉ next.1.performance.lanes.map Lane.key) ∧
      ∀ p t, .playbackFinished p t ∈ next.2 ↔
        t = next.1.elapsed ∧ stage.isFinished p = false ∧ next.1.isFinished p = true) ∧
    ∀ script, let next := stage.start script
      next.2.1.performance.lanes = lanes ++ stage.opens (.start script) ∧
      next.2.2 = (if stage.opens (.start script) = [] then
        [.playbackFinished next.1 stage.elapsed] else []) ∧
      ∀ p, next.2.1.isFinished p = true ↔
        if p = next.1 then stage.opens (.start script) = [] else stage.isFinished p = true := by
  intro stage lanes opened events
  obtain ⟨hkept, hids⟩ := kept_after settings calls
  -- The ids are handed out in order, so those below the next number are the ones that were.
  have hmem {p : PlaybackId} : p ∈ handedOut settings calls ↔
      p.number < stage.performance.tracker.nextNumber := by
    rw [← hids, usedIds, List.mem_map]
    constructor
    · rintro ⟨n, hn, rfl⟩
      exact List.mem_range.mp hn
    · exact fun hp => ⟨p.number, List.mem_range.mpr hp, rfl⟩
  -- Beyond what the lanes report, a tick of the stage reports collisions only.
  have hcollided {event : Event} (dt : Float32)
      (hevent : ∀ collision, event ≠ .collided collision) :
      event ∈ (stage.tick dt).2 ↔ event ∈ (stage.performance.tick dt).2 := by
    refine List.mem_append.trans (or_iff_left fun hcollision => ?_)
    obtain ⟨collision, -, heq⟩ := List.mem_map.mp hcollision
    exact hevent collision heq.symm
  refine ⟨hkept.counts, fun p => ?_, hkept.counts.isIdle_iff, ?_, hkept.keys_nodup,
    fun lane hlane => hmem.mpr (hkept.numbered lane hlane), hkept.lanes_perm, hkept.playbacks, ?_,
    fun dt => ⟨fun p action t => ?_, fun p t => ?_⟩, fun script => ⟨rfl, ?_, ?_⟩⟩
  · rw [hmem]
    exact hkept.counts.isFinished_iff
  · rw [← hids]
    exact List.nodup_range.map fun a b hab => congrArg (·.number) hab
  · intro before p t later heq
    rw [← lanesLeft_eq_zero_iff]
    exact hkept.placed before p t later heq
  · rw [hcollided dt fun _ => Event.noConfusion]
    exact hkept.laneFinished_mem_tick
  · rw [hcollided dt fun _ => Event.noConfusion]
    exact hkept.playbackFinished_mem_tick
  · exact Performance.reports_start
  · exact hkept.isFinished_start

end Stage

end SpriteStage
