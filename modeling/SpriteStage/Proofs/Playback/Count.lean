import Mathlib.Data.List.Count
import SpriteStage.Playback.Performance
import SpriteStage.Proofs.Playback.Tracker

/-!
# Counting lanes

The tracker counts the lanes that playbacks have left, apart from the lanes themselves. The module
introduces:

* `Tracker.Counts tracker lanes`: what the tracker says is what counting `lanes` gives;
* `counts_begin`, `counts_finishLane` and `close_eq`: it goes on counting the lanes that are left
  when a playback is opened and when lanes are finished;
* `closing`: what is reported then, read off the lanes alone.
-/

namespace SpriteStage

/-! ## What the tracker counts -/

/-- What tells a lane from all others. -/
def Lane.key (lane : Lane) : PlaybackId × ActionId := (lane.playback, lane.action)

@[simp]
theorem Lane.key_visit (lane : Lane) (seconds : Float32) :
    (lane.visit seconds).lane.key = lane.key := by
  rfl

/-- The number of lanes that a playback has among `lanes`. -/
def lanesLeft (lanes : List Lane) (p : PlaybackId) : Nat := lanes.countP (·.playback = p)

theorem lanesLeft_eq_zero_iff {lanes : List Lane} {p : PlaybackId} :
    lanesLeft lanes p = 0 ↔ ∀ lane ∈ lanes, lane.playback ≠ p := by
  simp [lanesLeft, List.countP_eq_zero]

theorem lanesLeft_append (lanes lanes' : List Lane) (p : PlaybackId) :
    lanesLeft (lanes ++ lanes') p = lanesLeft lanes p + lanesLeft lanes' p :=
  List.countP_append

theorem lanesLeft_cons (lane : Lane) (lanes : List Lane) (p : PlaybackId) :
    lanesLeft (lane :: lanes) p = lanesLeft lanes p + if lane.playback = p then 1 else 0 := by
  simp [lanesLeft, List.countP_cons]

/-- The order of lanes does not count, nor does how far they are. -/
theorem lanesLeft_congr {lanes lanes' : List Lane}
    (h : (lanes.map Lane.key).Perm (lanes'.map Lane.key)) (p : PlaybackId) :
    lanesLeft lanes p = lanesLeft lanes' p := by
  have hkeys (lanes : List Lane) : lanesLeft lanes p = (lanes.map Lane.key).countP (·.1 = p) := by
    rw [List.countP_map]
    rfl
  rw [hkeys, hkeys, h.countP_eq]

namespace Tracker

/-- The tracker has, for each playback, the number of its lanes, and nothing for one without. -/
def Counts (tracker : Tracker) (lanes : List Lane) : Prop :=
  ∀ p, tracker.remaining[p]? = if lanesLeft lanes p = 0 then none else some (lanesLeft lanes p)

variable {tracker : Tracker} {lanes lanes' : List Lane}

theorem Counts.congr (h : tracker.Counts lanes)
    (hkeys : (lanes.map Lane.key).Perm (lanes'.map Lane.key)) : tracker.Counts lanes' := by
  intro p
  rw [h p, lanesLeft_congr hkeys]

/-- The playbacks that are running are those with lanes. -/
theorem Counts.contains_eq_false_iff (h : tracker.Counts lanes) {p : PlaybackId} :
    tracker.remaining.contains p = false ↔ ∀ lane ∈ lanes, lane.playback ≠ p := by
  rw [← Bool.not_eq_true, Holds.contains_iff h, not_not, lanesLeft_eq_zero_iff]

theorem Counts.isIdle_iff (h : tracker.Counts lanes) : tracker.isIdle = true ↔ lanes = [] := by
  rw [isIdle, Std.ExtTreeMap.isEmpty_iff, Std.ExtTreeMap.eq_empty_iff_forall_contains,
    List.eq_nil_iff_forall_not_mem]
  simp only [h.contains_eq_false_iff]
  exact ⟨fun hnone lane hlane => hnone lane.playback lane hlane rfl,
    fun hnil _ lane hlane => absurd hlane (hnil lane)⟩

/-- A playback is finished when its id was handed out and it has no lanes. -/
theorem Counts.isFinished_iff (h : tracker.Counts lanes) {p : PlaybackId} :
    tracker.isFinished p = true ↔
      p.number < tracker.nextNumber ∧ ∀ lane ∈ lanes, lane.playback ≠ p := by
  rw [isFinished, Bool.and_eq_true, decide_eq_true_eq, Bool.not_eq_true', h.contains_eq_false_iff]

/-- Opening a playback counts its lanes, if its number is new. -/
theorem counts_begin (h : tracker.Counts lanes)
    (hold : ∀ lane ∈ lanes, lane.playback.number < tracker.nextNumber)
    (hnew : ∀ lane ∈ lanes', lane.playback = ⟨tracker.nextNumber⟩) :
    (tracker.begin lanes'.length).2.Counts (lanes ++ lanes') := by
  -- The new playback has no lane but the new ones, and they are all its own.
  have hnone : lanesLeft lanes ⟨tracker.nextNumber⟩ = 0 :=
    lanesLeft_eq_zero_iff.mpr fun lane hlane heq => by simpa [heq] using hold lane hlane
  have hleft : lanesLeft (lanes ++ lanes') =
      Function.update (lanesLeft lanes) ⟨tracker.nextNumber⟩ lanes'.length := by
    ext p
    rw [lanesLeft_append]
    by_cases heq : p = ⟨tracker.nextNumber⟩
    · have hall : lanesLeft lanes' p = lanes'.length :=
        List.countP_eq_length.mpr fun lane hlane => by simp [hnew lane hlane, heq]
      rw [hall, heq, hnone, Function.update_self, Nat.zero_add]
    · have hother : lanesLeft lanes' p = 0 :=
        lanesLeft_eq_zero_iff.mpr fun lane hlane => hnew lane hlane ▸ Ne.symm heq
      rw [hother, Function.update_of_ne heq, Nat.add_zero]
  show (tracker.begin lanes'.length).2.Holds (lanesLeft (lanes ++ lanes'))
  rw [hleft]
  exact holds_begin h hnone lanes'.length

/-- Counting off a lane leaves the others, and tells whether any of them is of its playback. -/
theorem counts_finishLane {lane : Lane} (h : tracker.Counts (lane :: lanes)) :
    (tracker.finishLane lane.playback).1 = decide (lanesLeft lanes lane.playback = 0) ∧
      (tracker.finishLane lane.playback).2.Counts lanes := by
  have hown : lanesLeft (lane :: lanes) lane.playback = lanesLeft lanes lane.playback + 1 := by
    rw [lanesLeft_cons, if_pos rfl]
  have hleft : Function.update (lanesLeft (lane :: lanes)) lane.playback
      (lanesLeft (lane :: lanes) lane.playback - 1) = lanesLeft lanes := by
    ext p
    by_cases heq : p = lane.playback
    · rw [heq, Function.update_self, hown, Nat.add_sub_cancel]
    · rw [Function.update_of_ne heq, lanesLeft_cons, if_neg (Ne.symm heq), Nat.add_zero]
  obtain ⟨hlast, hrest⟩ := holds_finishLane h lane.playback
  rw [hleft] at hrest
  refine ⟨?_, hrest⟩
  rw [hlast, hown]
  exact decide_eq_decide.mpr Nat.add_eq_right

theorem nextNumber_close (tracker : Tracker) (time : Float32) (finished : List Lane) :
    (tracker.close time finished).1.nextNumber = tracker.nextNumber := by
  induction finished generalizing tracker with
  | nil => rfl
  | cons lane lanes ih => exact (ih _).trans (tracker.nextNumber_finishLane lane.playback)

end Tracker

/-! ## What is reported of finished lanes -/

/-- The reports of lanes that finish one after the other while `rest` goes on: after the last lane
of a playback, that playback is over. -/
def closing (time : Float32) (rest : List Lane) : List Lane → List Event
  | [] => []
  | lane :: lanes =>
    let ended := if lanesLeft (lanes ++ rest) lane.playback = 0 then
      [.playbackFinished lane.playback time] else []
    .laneFinished lane.playback lane.action time :: (ended ++ closing time rest lanes)

/-- Counting off finished lanes leaves the count of the rest, and reports what the lanes tell. -/
theorem Tracker.close_eq {tracker : Tracker} {time : Float32} {finished rest : List Lane}
    (h : tracker.Counts (finished ++ rest)) :
    (tracker.close time finished).2 = closing time rest finished ∧
      (tracker.close time finished).1.Counts rest := by
  induction finished generalizing tracker with
  | nil => exact ⟨rfl, h⟩
  | cons lane lanes ih =>
    rw [List.cons_append] at h
    obtain ⟨hlast, hcounts⟩ := counts_finishLane h
    obtain ⟨hevents, hrest⟩ := ih hcounts
    refine ⟨?_, hrest⟩
    simp only [close, closing, hlast, hevents, decide_eq_true_eq, List.cons_append]

/-- The lane that an event reports to be over. -/
def Event.lane? : Event → Option (PlaybackId × ActionId)
  | laneFinished p action _ => some (p, action)
  | _ => none

/-- The playback that an event reports to be over. -/
def Event.playback? : Event → Option PlaybackId
  | playbackFinished p _ => some p
  | _ => none

variable {time t : Float32} {rest finished : List Lane} {p : PlaybackId} {action : ActionId}

/-- Every finished lane is reported, in order. -/
theorem lanes_closing (time : Float32) (rest finished : List Lane) :
    (closing time rest finished).filterMap Event.lane? = finished.map Lane.key := by
  induction finished with
  | nil => rfl
  | cons lane lanes ih =>
    rw [closing, List.filterMap_cons_some (f := Event.lane?) rfl, List.filterMap_append, ih]
    split <;> rfl

/-- Reports of finished lanes are about finished lanes, at the time of the tick. -/
theorem laneFinished_mem_closing :
    .laneFinished p action t ∈ closing time rest finished ↔
      t = time ∧ (p, action) ∈ finished.map Lane.key := by
  induction finished with
  | nil => simp [closing]
  | cons lane lanes ih =>
    have hended : .laneFinished p action t ∉ (if lanesLeft (lanes ++ rest) lane.playback = 0 then
        [Event.playbackFinished lane.playback time] else []) := by
      split <;> simp
    simp only [closing, List.mem_cons, List.mem_append, hended, false_or, ih,
      Event.laneFinished.injEq, List.map_cons, Lane.key, Prod.mk.injEq]
    constructor
    · rintro (⟨rfl, rfl, rfl⟩ | ⟨rfl, hmem⟩)
      · exact ⟨rfl, .inl ⟨rfl, rfl⟩⟩
      · exact ⟨rfl, .inr hmem⟩
    · rintro ⟨rfl, ⟨rfl, rfl⟩ | hmem⟩
      · exact .inl ⟨rfl, rfl, rfl⟩
      · exact .inr ⟨rfl, hmem⟩

/-- A playback is reported once if all its lanes are over now, and otherwise not. -/
theorem count_playbacks_closing (time : Float32) (rest finished : List Lane) (p : PlaybackId) :
    ((closing time rest finished).filterMap Event.playback?).count p =
      if lanesLeft finished p ≠ 0 ∧ lanesLeft rest p = 0 then 1 else 0 := by
  induction finished with
  | nil => simp [closing, lanesLeft]
  | cons lane lanes ih =>
    -- The first lane adds a report if it is the last of its playback.
    have hended : ((if lanesLeft (lanes ++ rest) lane.playback = 0 then
        [Event.playbackFinished lane.playback time] else []).filterMap Event.playback?).count p =
          if lane.playback = p ∧ lanesLeft lanes p = 0 ∧ lanesLeft rest p = 0 then 1 else 0 := by
      simp only [lanesLeft_append, Nat.add_eq_zero_iff]
      by_cases heq : lane.playback = p
      · subst heq
        split
        · next h => simp [Event.playback?, h]
        · next h => simp [h]
      · split <;> simp [Event.playback?, heq]
    rw [closing, List.filterMap_cons_none rfl, List.filterMap_append, List.count_append, hended, ih,
      lanesLeft_cons]
    by_cases heq : lane.playback = p <;> by_cases hlanes : lanesLeft lanes p = 0 <;>
      by_cases hrest : lanesLeft rest p = 0 <;> simp [heq, hlanes, hrest]

/-- Reports of finished playbacks are made at the time of the tick. -/
theorem time_of_playbackFinished_mem_closing
    (h : .playbackFinished p t ∈ closing time rest finished) : t = time := by
  induction finished with
  | nil => cases h
  | cons lane lanes ih =>
    rw [closing, List.mem_cons, List.mem_append] at h
    rcases h with h | h | h
    · cases h
    · split at h
      · exact (Event.playbackFinished.inj (List.mem_singleton.mp h)).2
      · cases h
    · exact ih h

/-- A playback is reported right after one of its lanes, and none of them is reported later. -/
theorem closing_eq_append {before later : List Event}
    (h : closing time rest finished = before ++ .playbackFinished p t :: later) :
    (∀ action t', .laneFinished p action t' ∉ later) ∧
      ∃ earlier action, before = earlier ++ [.laneFinished p action t] := by
  induction finished generalizing before with
  | nil => simp [closing] at h
  | cons lane lanes ih =>
    cases before with
    | nil => cases h
    | cons event before =>
      simp only [closing, List.cons_append, List.cons.injEq] at h
      obtain ⟨rfl, h⟩ := h
      -- After the first lane comes its playback, if that is over, and then what the others report.
      split at h
      · next hlast =>
        cases before with
        | nil =>
          simp only [List.cons_append, List.nil_append, List.cons.injEq,
            Event.playbackFinished.injEq] at h
          obtain ⟨⟨rfl, rfl⟩, rfl⟩ := h
          refine ⟨fun action t' hmem => ?_, [], lane.action, rfl⟩
          obtain ⟨other, hother, hkey⟩ := List.mem_map.mp (laneFinished_mem_closing.mp hmem).2
          rw [lanesLeft_eq_zero_iff] at hlast
          exact hlast other (List.mem_append_left _ hother) (congrArg (·.1) hkey)
        | cons ended before =>
          simp only [List.cons_append, List.nil_append, List.cons.injEq] at h
          obtain ⟨hnone, earlier, action, rfl⟩ := ih h.2
          exact ⟨hnone, _ :: _ :: earlier, action, rfl⟩
      · obtain ⟨hnone, earlier, action, rfl⟩ := ih h
        exact ⟨hnone, _ :: earlier, action, rfl⟩

end SpriteStage
