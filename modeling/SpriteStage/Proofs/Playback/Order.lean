import Mathlib.Data.List.Perm.Basic
import SpriteStage.Proofs.Playback.Count

/-!
# The order of finished lanes

The tracker counts off lanes that finish in one tick one after the other. Which of them is the last
one of its playback depends on the order, but only this: `close_perm` says that the tracker
afterwards is the same in any order, and that the same reports are made. It holds of every tracker,
whether it counts the lanes that are playing or not.
-/

namespace SpriteStage

namespace Tracker

/-! ## Counting off one lane -/

/-- The lanes that are left after one was counted off. -/
def countDown (left : Option Nat) : Option Nat :=
  left.bind fun n => if n ≤ 1 then none else some (n - 1)

/-- The reports of one finished lane. -/
def report (tracker : Tracker) (time : Float32) (lane : Lane) : List Event :=
  .laneFinished lane.playback lane.action time ::
    if (tracker.finishLane lane.playback).1 then [.playbackFinished lane.playback time] else []

variable {tracker : Tracker} {time : Float32} {lanes lanes' : List Lane}

theorem ext_remaining {tracker' : Tracker}
    (hremaining : ∀ p : PlaybackId, tracker.remaining[p]? = tracker'.remaining[p]?)
    (hnext : tracker.nextNumber = tracker'.nextNumber) : tracker = tracker' := by
  obtain ⟨remaining, nextNumber⟩ := tracker
  obtain ⟨remaining', nextNumber'⟩ := tracker'
  obtain rfl : remaining = remaining' := Std.ExtTreeMap.ext_getElem? hremaining
  obtain rfl : nextNumber = nextNumber' := hnext
  rfl

/-- Whether a lane is the last one of its playback is up to the count of that playback. -/
theorem last_finishLane (tracker : Tracker) (p : PlaybackId) :
    (tracker.finishLane p).1 = tracker.remaining[p]?.any (· ≤ 1) := by
  rw [finishLane]
  cases tracker.remaining[p]? with
  | none => rfl
  | some left => by_cases hlast : left ≤ 1 <;> simp [hlast]

/-- Counting off a lane changes the count of its playback only. -/
theorem remaining_finishLane (tracker : Tracker) (p q : PlaybackId) :
    (tracker.finishLane p).2.remaining[q]? =
      if q = p then countDown tracker.remaining[p]? else tracker.remaining[q]? := by
  cases hleft : tracker.remaining[p]? with
  | none =>
    simp only [finishLane, hleft]
    split
    · next heq => rw [heq, hleft, countDown, Option.bind_none]
    · rfl
  | some left =>
    simp only [finishLane, hleft]
    by_cases heq : q = p
    · by_cases hlast : left ≤ 1 <;> simp [heq, hlast, countDown]
    · by_cases hlast : left ≤ 1 <;>
        simp [heq, hlast, Ne.symm heq, Std.ExtTreeMap.getElem?_erase,
          Std.ExtTreeMap.getElem?_insert]

/-- Two lanes can be counted off in any order. -/
theorem finishLane_comm (tracker : Tracker) (p q : PlaybackId) :
    ((tracker.finishLane p).2.finishLane q).2 = ((tracker.finishLane q).2.finishLane p).2 := by
  -- It is enough that every count `r` is the same, and only those of `p` and `q` change.
  refine ext_remaining (fun r => ?_) (by simp only [nextNumber_finishLane])
  simp only [remaining_finishLane]
  by_cases hp : r = p
  · subst hp
    by_cases hq : r = q
    · rw [hq]
    · simp [hq]
  · by_cases hq : r = q
    · subst hq
      simp [hp]
    · simp [hp, hq]

/-- What a lane reports does not depend on lanes of other playbacks. -/
theorem report_finishLane {lane : Lane} {p : PlaybackId} (h : lane.playback ≠ p) :
    (tracker.finishLane p).2.report time lane = tracker.report time lane := by
  rw [report, report, last_finishLane, last_finishLane, remaining_finishLane, if_neg h]

/-! ## Counting off many lanes -/

theorem close_cons (tracker : Tracker) (time : Float32) (lane : Lane) (lanes : List Lane) :
    tracker.close time (lane :: lanes) =
      (((tracker.finishLane lane.playback).2.close time lanes).1,
        tracker.report time lane ++ ((tracker.finishLane lane.playback).2.close time lanes).2) :=
  rfl

/-- Nothing counts but what tells the lanes apart. -/
theorem close_congr (h : lanes.map Lane.key = lanes'.map Lane.key) :
    tracker.close time lanes = tracker.close time lanes' := by
  induction lanes generalizing tracker lanes' with
  | nil => rw [List.map_eq_nil_iff.mp h.symm]
  | cons lane lanes ih =>
    obtain ⟨lane', rest, rfl, hkey, hkeys⟩ := List.map_eq_cons_iff.mp h.symm
    obtain ⟨hplayback, haction⟩ := Prod.mk.inj hkey
    rw [close_cons, close_cons, report, report, hplayback, haction, ih hkeys.symm]

/-- Two lanes that change places make the same reports. -/
theorem report_swap (tracker : Tracker) (time : Float32) (a b : Lane) :
    (tracker.report time a ++ (tracker.finishLane a.playback).2.report time b).Perm
      (tracker.report time b ++ (tracker.finishLane b.playback).2.report time a) := by
  by_cases heq : a.playback = b.playback
  · -- Both are of one playback, so the first one and the second one tell the same of it.
    simp only [report, heq, List.cons_append]
    refine ((List.perm_middle).cons _).trans (.trans (.swap _ _ _) ?_)
    exact ((List.perm_middle).cons _).symm
  · rw [report_finishLane (Ne.symm heq), report_finishLane heq]
    exact List.perm_append_comm

/-- Finished lanes can be counted off in any order. -/
theorem close_perm (tracker : Tracker) (time : Float32)
    (h : (lanes.map Lane.key).Perm (lanes'.map Lane.key)) :
    (tracker.close time lanes).1 = (tracker.close time lanes').1 ∧
      (tracker.close time lanes).2.Perm (tracker.close time lanes').2 := by
  -- Lanes with the same keys are counted off alike, so the lanes themselves may be permuted.
  obtain ⟨between, hkeys, hperm⟩ : ∃ between : List Lane,
      lanes.map Lane.key = between.map Lane.key ∧ between.Perm lanes' := by
    have hcomp : Relation.Comp (· = List.map Lane.key ·) List.Perm (lanes.map Lane.key) lanes' := by
      rw [List.eq_map_comp_perm]
      exact h
    exact hcomp
  rw [close_congr hkeys]
  clear h hkeys
  induction hperm generalizing tracker with
  | nil => exact ⟨rfl, .nil⟩
  | cons lane _ ih =>
    obtain ⟨htracker, hevents⟩ := ih (tracker.finishLane lane.playback).2
    rw [close_cons, close_cons]
    exact ⟨htracker, hevents.append_left _⟩
  | swap a b rest =>
    simp only [close_cons, ← List.append_assoc]
    rw [finishLane_comm tracker b.playback a.playback]
    exact ⟨rfl, (report_swap tracker time b a).append_right _⟩
  | trans _ _ ih ih' =>
    obtain ⟨htracker, hevents⟩ := ih tracker
    obtain ⟨htracker', hevents'⟩ := ih' tracker
    exact ⟨htracker.trans htracker', hevents.trans hevents'⟩

end Tracker

end SpriteStage
