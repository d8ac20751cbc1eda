import Mathlib.Order.Bounds.Basic
import SpriteStage.Proofs.Stage.Reachable
import SpriteStage.Stage.Run

/-!
# Runs until nothing plays

A run until no playback is running is a number of ticks of one length, and it is found one tick
after the other. The module introduces:

* `Stage.ticks stage dt n`: the stage after `n` ticks;
* `Run.followedBy`: a run that goes on where another one ended, and `untilIdle_eq`: what a run until
  idle makes of a run is told by the stage that it starts from;
* `runUntilIdle_succ`: the first tick of such a run, if there is one, from which
  `isLeast_ticks_runUntilIdle` and `performAll_ticks_runUntilIdle` follow by induction.

The main statement is `runUntilIdle_stops_first`.
-/

namespace SpriteStage

namespace Stage

/-- Let `n` ticks of one length pass. -/
def ticks (stage : Stage) (dt : Float32) (n : Nat) : Stage :=
  (stage.performAll (List.replicate n (.tick dt))).1

theorem ticks_succ (stage : Stage) (dt : Float32) (n : Nat) :
    stage.ticks dt (n + 1) = (stage.tick dt).1.ticks dt n := rfl

end Stage

/-! ## Runs that go on -/

namespace Run

/-- A run, and one that starts where it ends. -/
def followedBy (run next : Run) : Run where
  stage := next.stage
  ticks := run.ticks + next.ticks
  events := run.events ++ next.events

theorem followedBy_assoc (a b c : Run) :
    (a.followedBy b).followedBy c = a.followedBy (b.followedBy c) := by
  simp only [followedBy, Nat.add_assoc, Array.append_assoc]

/-- A run without ticks adds nothing. -/
theorem followedBy_stage (run : Run) : run.followedBy { stage := run.stage } = run := by
  simp [followedBy]

/-- A tick of a run is one of its stage. -/
theorem tick_eq (run : Run) (dt : Float32) :
    run.tick dt = run.followedBy (Run.tick { stage := run.stage } dt) := by
  have hevents : run.events ++ (run.stage.tick dt).2 =
      run.events ++ ((#[] : Array Event) ++ (run.stage.tick dt).2) := by
    apply Array.ext'
    simp
  exact congrArg (Run.mk (run.stage.tick dt).1 (run.ticks + 1)) hevents

/-- There is nothing to wait for on an idle stage. -/
theorem untilIdle_of_isIdle {run : Run} (h : run.stage.isIdle = true) (dt : Float32)
    (limit : Nat) : run.untilIdle dt limit = run := by
  cases limit with
  | zero => rfl
  | succ limit => rw [untilIdle, if_pos h]

/-- While a playback is running, there is one more tick. -/
theorem untilIdle_succ {run : Run} (h : run.stage.isIdle = false) (dt : Float32)
    (limit : Nat) : run.untilIdle dt (limit + 1) = (run.tick dt).untilIdle dt limit := by
  rw [untilIdle, if_neg (Bool.eq_false_iff.mp h)]

/-- A run can be stopped and taken up again. -/
theorem untilIdle_add (run : Run) (dt : Float32) (m n : Nat) :
    run.untilIdle dt (m + n) = (run.untilIdle dt m).untilIdle dt n := by
  induction m generalizing run with
  | zero => rw [Nat.zero_add, untilIdle]
  | succ m ih =>
    cases h : run.stage.isIdle with
    | true => rw [untilIdle_of_isIdle h, untilIdle_of_isIdle h, untilIdle_of_isIdle h]
    | false => rw [Nat.add_right_comm, untilIdle_succ h, untilIdle_succ h, ih]

/-- What is left of a run until idle depends on the stage alone. -/
theorem untilIdle_eq (run : Run) (dt : Float32) (limit : Nat) :
    run.untilIdle dt limit = run.followedBy (run.stage.runUntilIdle dt limit) := by
  induction limit generalizing run with
  | zero => exact run.followedBy_stage.symm
  | succ limit ih =>
    cases h : run.stage.isIdle with
    | true =>
      have hnone : run.stage.runUntilIdle dt (limit + 1) = { stage := run.stage } :=
        @untilIdle_of_isIdle { stage := run.stage } h dt _
      rw [untilIdle_of_isIdle h, hnone, followedBy_stage]
    | false =>
      have hfirst : run.stage.runUntilIdle dt (limit + 1) =
          (Run.tick { stage := run.stage } dt).untilIdle dt limit :=
        @untilIdle_succ { stage := run.stage } h dt _
      -- The first tick leads both runs to the same stage, and the others are told by that.
      rw [untilIdle_succ h, hfirst, ih, ih (Run.tick _ dt), ← followedBy_assoc, ← tick_eq]
      rfl

end Run

namespace Stage

/-! ## Runs from a stage -/

theorem runUntilIdle_of_isIdle {stage : Stage} (h : stage.isIdle = true) (dt : Float32)
    (limit : Nat) : stage.runUntilIdle dt limit = { stage } :=
  Run.untilIdle_of_isIdle h dt limit

/-- While a playback is running, the run is a tick and a run from the stage after it. -/
theorem runUntilIdle_succ {stage : Stage} (h : stage.isIdle = false) (dt : Float32)
    (limit : Nat) : stage.runUntilIdle dt (limit + 1) =
      (Run.tick { stage } dt).followedBy ((stage.tick dt).1.runUntilIdle dt limit) :=
  (Run.untilIdle_succ h dt limit).trans (Run.untilIdle_eq _ dt limit)

/-- A run takes no more ticks than it needs until the stage is idle, or than it may. -/
theorem isLeast_ticks_runUntilIdle (stage : Stage) (dt : Float32) (limit : Nat) :
    IsLeast {t | (stage.ticks dt t).isIdle = true ∨ t = limit}
      (stage.runUntilIdle dt limit).ticks := by
  induction limit generalizing stage with
  | zero => exact ⟨.inr rfl, fun t _ => Nat.zero_le t⟩
  | succ limit ih =>
    cases h : stage.isIdle with
    | true =>
      rw [runUntilIdle_of_isIdle h]
      exact ⟨.inl h, fun t _ => Nat.zero_le t⟩
    | false =>
      obtain ⟨hstops, hleast⟩ := ih (stage.tick dt).1
      rw [runUntilIdle_succ h]
      show IsLeast _ (1 + ((stage.tick dt).1.runUntilIdle dt limit).ticks)
      rw [Nat.add_comm 1]
      constructor
      · -- One tick later, the same stage is idle, or the same ticks are used up.
        exact hstops.imp_right (congrArg (· + 1))
      · intro t ht
        cases t with
        | zero =>
          rcases ht with hidle | hlimit
          · exact absurd (h.symm.trans hidle) Bool.false_ne_true
          · cases hlimit
        | succ t => exact Nat.succ_le_succ (hleast (ht.imp_right Nat.succ.inj))

/-- A run does what its ticks do. -/
theorem performAll_ticks_runUntilIdle (stage : Stage) (dt : Float32) (limit : Nat) :
    stage.performAll (List.replicate (stage.runUntilIdle dt limit).ticks (.tick dt)) =
      ((stage.runUntilIdle dt limit).stage, (stage.runUntilIdle dt limit).events.toList) := by
  induction limit generalizing stage with
  | zero => rfl
  | succ limit ih =>
    cases h : stage.isIdle with
    | true =>
      rw [runUntilIdle_of_isIdle h]
      rfl
    | false =>
      rw [runUntilIdle_succ h]
      simp [Run.followedBy, Run.tick, Nat.add_comm 1, List.replicate_succ, performAll, perform, ih]

theorem stage_runUntilIdle (stage : Stage) (dt : Float32) (limit : Nat) :
    (stage.runUntilIdle dt limit).stage = stage.ticks dt (stage.runUntilIdle dt limit).ticks := by
  rw [ticks, performAll_ticks_runUntilIdle]

/-- A run with two limits one after the other is one with their sum. -/
theorem runUntilIdle_add (stage : Stage) (dt : Float32) (m n : Nat) :
    stage.runUntilIdle dt (m + n) = (stage.runUntilIdle dt m).followedBy
      ((stage.runUntilIdle dt m).stage.runUntilIdle dt n) :=
  (Run.untilIdle_add _ dt m n).trans (Run.untilIdle_eq _ dt n)

/-! ## Main statement -/

/-- A run until no playback is running stops at the first moment at which there is none, or after
the ticks that it may take, and it does exactly what that number of ticks does. On an idle stage it
does nothing. To run with one limit and then with another is to run once with their sum: the stage
is the same in the end, as many ticks were taken in all, and the same was reported. -/
theorem runUntilIdle_stops_first (stage : Stage) (dt : Float32) :
    (∀ limit,
      let run := stage.runUntilIdle dt limit
      IsLeast {t | (stage.ticks dt t).isIdle = true ∨ t = limit} run.ticks ∧
      stage.performAll (List.replicate run.ticks (.tick dt)) = (run.stage, run.events.toList) ∧
      (stage.isIdle = true → run = { stage })) ∧
    ∀ m n,
      let first := stage.runUntilIdle dt m
      let second := first.stage.runUntilIdle dt n
      let whole := stage.runUntilIdle dt (m + n)
      second.stage = whole.stage ∧ first.ticks + second.ticks = whole.ticks ∧
        first.events ++ second.events = whole.events := by
  constructor
  · intro limit run
    exact ⟨stage.isLeast_ticks_runUntilIdle dt limit, stage.performAll_ticks_runUntilIdle dt limit,
      fun h => runUntilIdle_of_isIdle h dt limit⟩
  · intro m n first second whole
    have hwhole : whole = first.followedBy second := stage.runUntilIdle_add dt m n
    rw [hwhole]
    exact ⟨rfl, rfl, rfl⟩

end Stage

end SpriteStage
