import Mathlib.Data.List.Induction
import Mathlib.Data.List.Nodup
import Mathlib.Logic.Function.Basic
import SpriteStage.Playback.Tracker

/-!
# What a tracker knows after any calls

A tracker is told which playbacks are opened and which of their lanes are over, in any order and
with any ids. What it knows then can be read off from the calls:

* `TrackerCall` and `Tracker.after`: the two kinds of calls, and the tracker that they lead to;
* `lanesOpened` and `countedSince`: the lanes that playbacks were opened with, and how often a lane
  of a playback was counted off since it was opened;
* `Tracker.Holds tracker left`: the tracker has `left p` lanes for each playback `p`, which
  `holds_begin` and `holds_finishLane` carry through the two kinds of calls.

The main statement is `tracker_counts_since_opening`.
-/

namespace SpriteStage

namespace Tracker

variable {tracker : Tracker} {left : PlaybackId → Nat}

/-! ## One call -/

/-- The tracker has a number of lanes for each playback, and no entry where there are none. -/
def Holds (tracker : Tracker) (left : PlaybackId → Nat) : Prop :=
  ∀ p, tracker.remaining[p]? = if left p = 0 then none else some (left p)

/-- The playbacks that are running are those with lanes. -/
theorem Holds.contains_iff (h : tracker.Holds left) {p : PlaybackId} :
    tracker.remaining.contains p = true ↔ left p ≠ 0 := by
  rw [Std.ExtTreeMap.contains_eq_isSome_getElem?, h p]
  split
  · next hnone => simp [hnone]
  · next hsome => simp [hsome]

/-- Opening a playback gives its number the lanes that it is opened with. -/
theorem holds_begin (h : tracker.Holds left) (hnew : left ⟨tracker.nextNumber⟩ = 0) (lanes : Nat) :
    (tracker.begin lanes).2.Holds (Function.update left ⟨tracker.nextNumber⟩ lanes) := by
  intro p
  by_cases heq : p = ⟨tracker.nextNumber⟩
  · subst heq
    rw [Function.update_self]
    by_cases hempty : lanes = 0
    · -- A playback without lanes is not entered, and nothing stood under its number before.
      simpa [begin, hempty, hnew] using h ⟨tracker.nextNumber⟩
    · simp [begin, hempty]
  · rw [Function.update_of_ne heq, ← h p, begin]
    split
    · rfl
    · simp [Std.ExtTreeMap.getElem?_insert, Ne.symm heq]

/-- Counting off a lane takes one from its playback, if it has any, and tells whether it was the
last one. -/
theorem holds_finishLane (h : tracker.Holds left) (p : PlaybackId) :
    (tracker.finishLane p).1 = decide (left p = 1) ∧
      (tracker.finishLane p).2.Holds (Function.update left p (left p - 1)) := by
  by_cases hnone : left p = 0
  · -- There is no entry to count down, so that nothing happens.
    have hentry : tracker.remaining[p]? = none := (h p).trans (if_pos hnone)
    have hsame : Function.update left p (left p - 1) = left := by
      rw [hnone]
      exact Function.update_eq_self_iff.mpr hnone.symm
    simp only [finishLane, hentry, hsame]
    exact ⟨by simp [hnone], h⟩
  · have hentry : tracker.remaining[p]? = some (left p) := (h p).trans (if_neg hnone)
    simp only [finishLane, hentry]
    by_cases hlast : left p = 1
    · -- The last lane of a playback takes its entry along.
      rw [if_pos (by omega)]
      refine ⟨by simp [hlast], fun q => ?_⟩
      by_cases heq : q = p
      · simp [heq, hlast]
      · simp [Std.ExtTreeMap.getElem?_erase, Function.update_of_ne heq, Ne.symm heq, h q]
    · rw [if_neg (by omega)]
      refine ⟨by simp [hlast], fun q => ?_⟩
      by_cases heq : q = p
      · have hmore : left p - 1 ≠ 0 := by omega
        simp [heq, hmore]
      · simp [Std.ExtTreeMap.getElem?_insert, Function.update_of_ne heq, Ne.symm heq, h q]

/-- Where no playback from number `n` on has lanes, the entries are the playbacks before it that
have some. -/
theorem Holds.size_eq (h : tracker.Holds left) {n : Nat} (hnone : ∀ p, n ≤ p.number → left p = 0) :
    tracker.remaining.size =
      ((List.range n).map PlaybackId.mk).countP fun p => decide (left p ≠ 0) := by
  have hkeys : tracker.remaining.keys.Perm
      (((List.range n).map PlaybackId.mk).filter fun p => decide (left p ≠ 0)) := by
    refine (List.perm_ext_iff_of_nodup Std.ExtTreeMap.nodup_keys ?_).mpr fun p => ?_
    · refine List.Nodup.filter _ (List.nodup_range.map fun a b hab => ?_)
      exact congrArg PlaybackId.number hab
    · rw [Std.ExtTreeMap.mem_keys, ← Std.ExtTreeMap.contains_iff_mem, h.contains_iff,
        List.mem_filter, decide_eq_true_eq, iff_and_self]
      intro hleft
      have hlt : p.number < n := Nat.lt_of_not_le fun hle => hleft (hnone p hle)
      exact List.mem_map.mpr ⟨p.number, List.mem_range.mpr hlt, rfl⟩
  rw [List.countP_eq_length_filter, ← hkeys.length_eq, Std.ExtTreeMap.length_keys]

end Tracker

/-! ## Calls one after the other -/

/-- Something that a tracker is told. -/
inductive TrackerCall where
  /-- Open a playback with a number of lanes. -/
  | begin (lanes : Nat)
  /-- Count off one lane of a playback. -/
  | finishLane (p : PlaybackId)
  deriving DecidableEq, Repr

/-- The lanes that a call opens a playback with, if it opens one. -/
def TrackerCall.lanes? : TrackerCall → Option Nat
  | begin lanes => some lanes
  | finishLane _ => none

/-- The lanes that playbacks were opened with, in order: the place of a playback is its number. -/
def lanesOpened (calls : List TrackerCall) : List Nat := calls.filterMap TrackerCall.lanes?

/-- What follows the call that opens the playback with a number, if there is one. -/
def callsSince (number : Nat) : List TrackerCall → List TrackerCall
  | [] => []
  | .finishLane _ :: calls => callsSince number calls
  | .begin _ :: calls =>
    match number with
    | 0 => calls
    | earlier + 1 => callsSince earlier calls

/-- How often a lane of a playback was counted off since it was opened. -/
def countedSince (calls : List TrackerCall) (p : PlaybackId) : Nat :=
  (callsSince p.number calls).count (.finishLane p)

example : countedSince [.finishLane ⟨0⟩, .begin 2, .finishLane ⟨0⟩, .begin 1] ⟨0⟩ = 1 := by decide

theorem lanesOpened_concat (calls : List TrackerCall) (call : TrackerCall) :
    lanesOpened (calls ++ [call]) = lanesOpened calls ++ call.lanes?.toList := by
  rw [lanesOpened, List.filterMap_append]
  cases call <;> rfl

/-- A call follows the opening of a playback if that was before it. -/
theorem callsSince_concat (number : Nat) (calls : List TrackerCall) (call : TrackerCall) :
    callsSince number (calls ++ [call]) =
      if number < (lanesOpened calls).length then callsSince number calls ++ [call] else [] := by
  induction calls generalizing number with
  | nil =>
    -- The call itself may open the playback, but then it does not follow.
    cases call with
    | finishLane p => rfl
    | «begin» lanes => cases number <;> rfl
  | cons first calls ih =>
    cases first with
    | finishLane p => exact ih number
    | «begin» lanes =>
      cases number with
      | zero => rfl
      | succ earlier =>
        refine (ih earlier).trans (if_congr ?_ rfl rfl)
        exact Nat.succ_lt_succ_iff.symm

/-- A call counts for a playback that was opened before if it counts off one of its lanes. -/
theorem countedSince_concat {calls : List TrackerCall} {p : PlaybackId}
    (h : p.number < (lanesOpened calls).length) (call : TrackerCall) :
    countedSince (calls ++ [call]) p =
      countedSince calls p + if call = .finishLane p then 1 else 0 := by
  rw [countedSince, callsSince_concat, if_pos h, List.count_append, List.count_singleton,
    beq_eq_decide]
  simp only [decide_eq_true_eq]
  rfl

/-- The lanes that a playback has left: those that it was opened with, less those that were counted
off since. -/
def lanesAfter (calls : List TrackerCall) (p : PlaybackId) : Nat :=
  (lanesOpened calls)[p.number]?.getD 0 - countedSince calls p

theorem lanesAfter_of_length_le {calls : List TrackerCall} {p : PlaybackId}
    (h : (lanesOpened calls).length ≤ p.number) : lanesAfter calls p = 0 := by
  rw [lanesAfter, List.getElem?_eq_none h]
  exact Nat.zero_sub _

/-- Opening a playback concerns its own number only. -/
theorem lanesAfter_begin (calls : List TrackerCall) (lanes : Nat) :
    lanesAfter (calls ++ [.begin lanes]) =
      Function.update (lanesAfter calls) ⟨(lanesOpened calls).length⟩ lanes := by
  funext p
  have hopened : lanesOpened (calls ++ [.begin lanes]) = lanesOpened calls ++ [lanes] :=
    lanesOpened_concat _ _
  rcases Nat.lt_trichotomy p.number (lanesOpened calls).length with hlt | heq | hgt
  · have hne : p ≠ ⟨(lanesOpened calls).length⟩ := by
      rintro rfl
      exact Nat.lt_irrefl _ hlt
    rw [Function.update_of_ne hne, lanesAfter, lanesAfter, hopened, List.getElem?_append_left hlt,
      countedSince_concat hlt, if_neg nofun, Nat.add_zero]
  · obtain rfl : p = ⟨(lanesOpened calls).length⟩ := congrArg PlaybackId.mk heq
    rw [Function.update_self, lanesAfter, hopened, List.getElem?_concat_length, countedSince,
      callsSince_concat, if_neg (Nat.lt_irrefl _)]
    rfl
  · have hne : p ≠ ⟨(lanesOpened calls).length⟩ := by
      rintro rfl
      exact Nat.lt_irrefl _ hgt
    have hnone : (lanesOpened (calls ++ [.begin lanes])).length ≤ p.number := by
      rw [hopened, List.length_append]
      exact hgt
    rw [Function.update_of_ne hne, lanesAfter_of_length_le hnone,
      lanesAfter_of_length_le (Nat.le_of_lt hgt)]

/-- Counting off a lane concerns its own playback only, and takes one lane from it if it was opened
and has any left. -/
theorem lanesAfter_finishLane (calls : List TrackerCall) (p : PlaybackId) :
    lanesAfter (calls ++ [.finishLane p]) =
      Function.update (lanesAfter calls) p (lanesAfter calls p - 1) := by
  funext q
  have hopened : lanesOpened (calls ++ [.finishLane p]) = lanesOpened calls :=
    (lanesOpened_concat _ _).trans (List.append_nil _)
  rcases Nat.lt_or_ge q.number (lanesOpened calls).length with hlt | hge
  · rw [lanesAfter, hopened, countedSince_concat hlt]
    by_cases heq : q = p
    · subst heq
      rw [Function.update_self, if_pos rfl, Nat.sub_add_eq]
      rfl
    · have hother : TrackerCall.finishLane p ≠ .finishLane q := by
        rintro ⟨⟩
        exact heq rfl
      rw [Function.update_of_ne heq, if_neg hother]
      rfl
  · -- A playback that was not opened yet has no lanes, whatever is counted off.
    have hnone := lanesAfter_of_length_le hge
    rw [lanesAfter_of_length_le (hopened ▸ hge)]
    by_cases heq : q = p
    · rw [heq, Function.update_self, ← heq, hnone]
    · rw [Function.update_of_ne heq, hnone]

namespace Tracker

/-- The tracker after one more call. -/
def perform (tracker : Tracker) : TrackerCall → Tracker
  | .begin lanes => (tracker.begin lanes).2
  | .finishLane p => (tracker.finishLane p).2

/-- The tracker that calls lead to from a new one. -/
def after (calls : List TrackerCall) : Tracker := calls.foldl perform {}

theorem after_concat (calls : List TrackerCall) (call : TrackerCall) :
    after (calls ++ [call]) = (after calls).perform call := List.foldl_concat _ _ _ _

theorem nextNumber_finishLane (tracker : Tracker) (p : PlaybackId) :
    (tracker.finishLane p).2.nextNumber = tracker.nextNumber := by
  rw [finishLane]
  split
  · rfl
  · split
    · rfl
    · rfl

/-- After any calls, the tracker has handed out as many numbers as playbacks were opened, and has
for each the lanes that are left. -/
theorem holds_after (calls : List TrackerCall) :
    (after calls).nextNumber = (lanesOpened calls).length ∧
      (after calls).Holds (lanesAfter calls) := by
  induction calls using List.reverseRecOn with
  | nil => exact ⟨rfl, fun p => rfl⟩
  | append_singleton calls call ih =>
    obtain ⟨hnext, hholds⟩ := ih
    rw [after_concat]
    cases call with
    | «begin» lanes =>
      constructor
      · rw [lanesOpened_concat, List.length_append]
        exact congrArg (· + 1) hnext
      · rw [lanesAfter_begin, ← hnext]
        exact holds_begin hholds (lanesAfter_of_length_le (Nat.le_of_eq hnext.symm)) lanes
    | finishLane p =>
      constructor
      · rw [lanesOpened_concat]
        exact ((after calls).nextNumber_finishLane p).trans
          (hnext.trans (congrArg List.length (List.append_nil _).symm))
      · rw [lanesAfter_finishLane]
        exact (holds_finishLane hholds p).2

/-! ## Main statement -/

/-- A tracker knows of every playback how many of its lanes are left, whatever it is told. The next
playback gets the number of playbacks that were opened before. Counting off a lane tells that it was
the last one exactly if its playback was opened with as many lanes as were counted off since, this
one included. A playback is finished exactly if it was opened and no fewer lanes were counted off
since; the running ones are the others that were opened, and there are none on an idle tracker. To
count off a lane of a playback that was not opened yet does nothing, and makes no difference to
anything later. -/
theorem tracker_counts_since_opening (calls : List TrackerCall) :
    let tracker := after calls
    let opened := lanesOpened calls
    (∀ lanes, (tracker.begin lanes).1 = ⟨opened.length⟩) ∧
    (∀ p, (tracker.finishLane p).1 = true ↔ opened[p.number]? = some (countedSince calls p + 1)) ∧
    (∀ p, tracker.isFinished p = true ↔
      ∃ lanes, opened[p.number]? = some lanes ∧ lanes ≤ countedSince calls p) ∧
    tracker.running =
      ((List.range opened.length).map PlaybackId.mk).countP (!tracker.isFinished ·) ∧
    (tracker.isIdle = true ↔ tracker.running = 0) ∧
    ∀ p, opened.length ≤ p.number → tracker.finishLane p = (false, tracker) ∧
      ∀ later, after (calls ++ .finishLane p :: later) = after (calls ++ later) := by
  intro tracker opened
  obtain ⟨hnext, hholds⟩ := holds_after calls
  have hfinished (p : PlaybackId) : tracker.isFinished p = true ↔
      p.number < opened.length ∧ lanesAfter calls p = 0 := by
    rw [isFinished, Bool.and_eq_true, decide_eq_true_eq, hnext, Bool.not_eq_true',
      ← Bool.not_eq_true, hholds.contains_iff, not_not]
  have hopened (p : PlaybackId) :
      p.number < opened.length ↔ opened[p.number]?.isSome = true := by
    simp only [isSome_getElem?]
  refine ⟨fun lanes => congrArg PlaybackId.mk hnext, fun p => ?_, fun p => ?_, ?_, ?_,
    fun p hp => ?_⟩
  · rw [(holds_finishLane hholds p).1, decide_eq_true_eq, lanesAfter]
    cases opened[p.number]? with
    | none => simp
    | some lanes =>
      rw [Option.getD_some, Option.some.injEq]
      omega
  · rw [hfinished, lanesAfter, hopened]
    cases opened[p.number]? with
    | none => simp
    | some lanes => simp [Nat.sub_eq_zero_iff_le]
  · -- Of the playbacks that were opened, those are not finished that have lanes left.
    refine (hholds.size_eq fun p => lanesAfter_of_length_le).trans ?_
    refine List.countP_congr fun p hp => ?_
    obtain ⟨number, hnumber, rfl⟩ := List.mem_map.mp hp
    have hlt : number < opened.length := List.mem_range.mp hnumber
    rw [decide_eq_true_eq, Bool.not_eq_true', ← Bool.not_eq_true, hfinished, and_iff_right hlt]
  · rw [isIdle, running, Std.ExtTreeMap.isEmpty_eq_size_beq_zero, beq_iff_eq]
  · have hsame : tracker.finishLane p = (false, tracker) := by
      have hentry : tracker.remaining[p]? = none :=
        (hholds p).trans (if_pos (lanesAfter_of_length_le hp))
      simp only [finishLane, hentry]
    refine ⟨hsame, fun later => ?_⟩
    rw [after, after, List.foldl_append, List.foldl_append, List.foldl_cons]
    exact congrArg (fun next => later.foldl perform next.2) hsame

end Tracker

end SpriteStage
