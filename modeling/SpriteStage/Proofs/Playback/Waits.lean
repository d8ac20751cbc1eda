import SpriteStage.Proofs.Decimal.Sums
import SpriteStage.Proofs.Stage.FirstVisits

/-!
# How long lanes wait

Between two ticks a lane that was visited waits for some time up to half a second, whatever the
ticks were that it has seen. Whether a tick brings it nearer to its next step depends on the length
of the tick: below a half, floating point numbers of 32 bits are up to `2 ^ (-25)` apart, so what is
at most half as long gets lost in the difference. The module introduces:

* `IsWait x`: `x` stands for a number of seconds that a lane can wait for, and `isWait_of_visit`: a
  visit leaves such a wait;
* `Lane.visitsLeft lane gain`: a bound on the visits that a lane still gets, if each takes `gain`
  off its wait, and `visitsLeft_visit`: a visit lowers it, if the tick is longer than `2 ^ (-26)` by
  this `gain`;
* `Lane.visit_of_full_wait`: a visit leaves a lane as it is that waits for half a second, if the
  tick is not longer than `2 ^ (-26)`.
-/

namespace SpriteStage

open Float.Model Float.Model.UnpackedFloat

/-! ## Waits -/

/-- A number of seconds that a lane can wait for. -/
def IsWait (x : Float32) : Prop := ∃ q, number? x = some q ∧ 0 < q ∧ q ≤ 1 / 2

theorem number?_pacingInterval : number? pacingInterval = some (1 / 2) := by decide +kernel

theorem isWait_pacingInterval : IsWait pacingInterval :=
  ⟨1 / 2, number?_pacingInterval, by norm_num, le_rfl⟩

section Waits

variable {x y : Float32} {p q : ℚ}

/-- A sum up to a half is no wait any more, or it is a wait that is near to it. -/
theorem nonpos_or_near_add (hx : number? x = some p) (hy : number? y = some q)
    (h : p + q ≤ 1 / 2) : x + y ≤ 0 ∨ ∃ r, number? (x + y) = some r ∧ 0 < r ∧ r ≤ 1 / 2 ∧
      r ≤ p + q + 2 ^ (-26 : Int) :=
  (isRounded_add hx hy).nonpos_or_near_half h

theorem nonpos_or_near_sub (hx : number? x = some p) (hy : number? y = some q)
    (h : p - q ≤ 1 / 2) : x - y ≤ 0 ∨ ∃ r, number? (x - y) = some r ∧ 0 < r ∧ r ≤ 1 / 2 ∧
      r ≤ p - q + 2 ^ (-26 : Int) :=
  (isRounded_sub hx hy).nonpos_or_near_half h

theorem negativeInfinity_nonpos : Float32.ofModel (.pack (.infinity .negative)) ≤ 0 := by
  decide +kernel

/-- After a wait that is over, the next one is over as well or up to half a second long. -/
theorem nonpos_or_isWait_add (h : x ≤ 0) :
    x + pacingInterval ≤ 0 ∨ IsWait (x + pacingInterval) := by
  obtain hinfinite | ⟨p, hp, hx⟩ := number?_of_nonpos h
  · left
    rw [add_eq_ofModel, hinfinite]
    exact negativeInfinity_nonpos
  · refine (nonpos_or_near_add hx number?_pacingInterval (by linarith)).imp_right ?_
    rintro ⟨r, hr, hpos, hle, -⟩
    exact ⟨r, hr, hpos, hle⟩

/-- A duration that counts stands for a number that is not negative, or it is infinite. -/
theorem number?_positivePart (x : Float32) :
    (positivePart x).toModel.unpack = .infinity .positive ∨
      ∃ q, 0 ≤ q ∧ number? (positivePart x) = some q := by
  rw [positivePart]
  split
  · next h =>
    have hpositive := h
    rw [lt_iff_unpack, unpack_zero] at h
    cases hx : x.toModel.unpack with
    | notANumber =>
      rw [hx] at h
      cases h
    | infinity sign =>
      cases sign with
      | negative =>
        rw [hx] at h
        cases h
      | positive => exact .inl rfl
    | zero sign => exact .inr ⟨0, le_rfl, number?_of_zero hx⟩
    | finite sign m e hpos =>
      have hnumber := number?_of_finite hx
      exact .inr ⟨_, ((pos_iff hnumber).mp hpositive).le, hnumber⟩
  · exact .inr ⟨0, le_rfl, by decide +kernel⟩

/-- A tick of any length ends a wait, or leaves a wait. -/
theorem IsWait.sub_positivePart (h : IsWait x) (seconds : Float32) :
    x - positivePart seconds ≤ 0 ∨ IsWait (x - positivePart seconds) := by
  obtain ⟨p, hp, -, hle⟩ := h
  obtain hinfinite | ⟨q, hq, hseconds⟩ := number?_positivePart seconds
  · left
    rw [sub_eq_ofModel, hinfinite]
    obtain ⟨sign, hx, -⟩ | ⟨sign, m, e, hpos, hx, -⟩ := unpack_of_number? hp
    · rw [hx]
      exact negativeInfinity_nonpos
    · rw [hx]
      exact negativeInfinity_nonpos
  · refine (nonpos_or_near_sub hp hseconds (by linarith)).imp_right ?_
    rintro ⟨r, hr, hpos, hr', -⟩
    exact ⟨r, hr, hpos, hr'⟩

/-- What is at most half as long as the distance of floating point numbers below a half gets lost
when it is taken off a half. -/
theorem pacingInterval_sub_eq (hy : number? y = some q) (hpos : 0 < q)
    (hle : q ≤ 2 ^ (-26 : Int)) : pacingInterval - y = pacingInterval := by
  have hsmall : (2 : ℚ) ^ (-26 : Int) < 1 / 2 := by norm_num
  have hrounds := (isRounded_sub number?_pacingInterval hy).positive
    (sub_pos.mpr (hle.trans_lt hsmall))
  have hcanonical : IsCanonical .binary32 (2 ^ 23) (-24) :=
    ⟨by decide, by decide, by decide, fun _ => le_rfl⟩
  have hcell : (Cell.of .binary32 (2 ^ 23) (-24)).Contains (1 / 2 - q) := by
    have hlow : ((Cell.of .binary32 (2 ^ 23) (-24)).low : ℚ) = 2 ^ 25 - 1 := by
      rw [low_eq (by decide), if_pos ⟨rfl, by decide⟩]
      norm_num
    have hhigh : ((Cell.of .binary32 (2 ^ 23) (-24)).high : ℚ) = 2 ^ 25 + 2 := by
      norm_num [Cell.of]
    refine ⟨?_, fun hopen => absurd hopen (by decide)⟩
    rw [hlow, hhigh, Cell.exponent_of]
    norm_num at hle ⊢
    constructor <;> linarith
  rw [sub_eq_ofModel, hrounds.eq_finite hcanonical hcell]
  rfl

end Waits

/-! ## Visits -/

section Visits

variable {left : Nat} {cooldown seconds : Float32} {lane : Lane}

/-- A lane that plays on after a step waits again. -/
theorem pace_isWait (h : cooldown ≤ 0 ∨ IsWait cooldown)
    (hplays : (pace left cooldown).finished = false) : IsWait (pace left cooldown).cooldown := by
  have hwait {left : Nat} {cooldown : Float32} (h : cooldown ≤ 0 ∨ IsWait cooldown)
      (hnot : ¬ cooldown ≤ 0) : IsWait (pace left cooldown).cooldown := by
    rw [pace_of_not_due left hnot]
    exact h.resolve_left hnot
  induction left generalizing cooldown with
  | zero => exact hwait h (of_decide_eq_false hplays)
  | succ left ih =>
    by_cases hdue : cooldown ≤ 0
    · rw [pace, if_pos hdue] at hplays ⊢
      exact ih (nonpos_or_isWait_add hdue) hplays
    · exact hwait h hdue

/-- A lane that plays on although its wait is over has made a step. -/
theorem steps_pace_pos (hdue : cooldown ≤ 0) (hplays : (pace left cooldown).finished = false) :
    0 < (pace left cooldown).steps := by
  cases left with
  | zero => exact absurd hdue (of_decide_eq_false hplays)
  | succ left =>
    rw [pace, if_pos hdue]
    exact Nat.succ_pos _

namespace Lane

/-- After a visit in a tick of any length, a lane that plays on waits. -/
theorem isWait_of_visit (hpoised : lane.Poised)
    (hwait : lane.started = true → IsWait lane.cooldown)
    (hplays : (lane.visit (positivePart seconds)).finished = false) :
    IsWait (lane.visit (positivePart seconds)).lane.cooldown := by
  cases hstarted : lane.started with
  | false =>
    have hcommands : lane.commands ≠ [] := by
      rw [Ne, ← finished_visit_of_fresh hpoised hstarted, hplays]
      exact Bool.false_ne_true
    rw [visit_of_fresh hpoised hstarted hcommands]
    exact isWait_pacingInterval
  | true =>
    rw [finished_visit, paceOf_of_started hstarted] at hplays
    rw [cooldown_visit, paceOf_of_started hstarted]
    exact pace_isWait ((hwait hstarted).sub_positivePart seconds) hplays

/-- A bound on the visits that a lane still gets if each takes `gain` seconds off its wait. -/
def visitsLeft (lane : Lane) (gain : ℚ) : ℕ :=
  (lane.commands.length - lane.cursor) * ⌈1 / 2 / gain⌉₊ + ⌈(number? lane.cooldown).getD 0 / gain⌉₊

/-- A lane that waits gets another visit. -/
theorem visitsLeft_pos {gain : ℚ} (hgain : 0 < gain) (hwait : IsWait lane.cooldown) :
    0 < lane.visitsLeft gain := by
  obtain ⟨q, hq, hpos, -⟩ := hwait
  have hceil : 0 < ⌈(number? lane.cooldown).getD 0 / gain⌉₊ := by
    rw [hq]
    exact Nat.ceil_pos.mpr (div_pos hpos hgain)
  exact Nat.add_pos_right _ hceil

/-- In a tick that is longer than `2 ^ (-26)`, a visit that does not finish a lane leaves it with
fewer visits. -/
theorem visitsLeft_visit {gain d : ℚ} (hgain : 0 < gain) (hd : d = gain + 2 ^ (-26 : Int))
    (hseconds : number? seconds = some d) (hstarted : lane.started = true)
    (hwait : IsWait lane.cooldown) (hplays : (lane.visit seconds).finished = false) :
    (lane.visit seconds).lane.visitsLeft gain < lane.visitsLeft gain := by
  obtain ⟨q, hq, hpos, hle⟩ := hwait
  have hunit : (0 : ℚ) < 2 ^ (-26 : Int) := by positivity
  have hnear := nonpos_or_near_sub hq hseconds (by linarith)
  have hsteps := steps_pace_le (lane.commands.length - lane.cursor) (lane.cooldown - seconds)
  rw [finished_visit, paceOf_of_started hstarted] at hplays
  rw [visitsLeft, visitsLeft, commands_visit, cursor_visit, cooldown_visit,
    paceOf_of_started hstarted, hq, Option.getD_some]
  by_cases hdue : lane.cooldown - seconds ≤ 0
  · -- A step was made, and the wait for the next one is no longer than a full one.
    have hstep := steps_pace_pos hdue hplays
    obtain ⟨r, hr, -, hr'⟩ := pace_isWait (.inl hdue) hplays
    have hfull : ⌈r / gain⌉₊ ≤ ⌈1 / 2 / gain⌉₊ :=
      Nat.ceil_le_ceil (div_le_div_of_nonneg_right hr' hgain.le)
    have hrest : 0 < ⌈q / gain⌉₊ := Nat.ceil_pos.mpr (div_pos hpos hgain)
    have hfewer : (lane.commands.length - (lane.cursor +
        (pace (lane.commands.length - lane.cursor) (lane.cooldown - seconds)).steps) + 1) *
          ⌈1 / 2 / gain⌉₊ ≤ (lane.commands.length - lane.cursor) * ⌈1 / 2 / gain⌉₊ :=
      Nat.mul_le_mul_right _ (by omega)
    rw [Nat.succ_mul] at hfewer
    rw [hr, Option.getD_some]
    omega
  · -- No step was made, and the wait got shorter.
    obtain ⟨r, hr, hr', -, hshorter⟩ := hnear.resolve_left hdue
    rw [pace_of_not_due _ hdue, hr, Option.getD_some, Nat.add_zero]
    have hceil : ⌈r / gain⌉₊ + 1 ≤ ⌈q / gain⌉₊ := by
      rw [← Nat.ceil_add_one (div_pos hr' hgain).le]
      refine Nat.ceil_le_ceil ?_
      rw [div_add_one hgain.ne']
      exact div_le_div_of_nonneg_right (by linarith) hgain.le
    omega

/-- In a tick that is not longer than `2 ^ (-26)`, a visit does nothing to a lane that waits for
half a second. -/
theorem visit_of_full_wait {d : ℚ} (hseconds : number? seconds = some d) (hpos : 0 < d)
    (hle : d ≤ 2 ^ (-26 : Int)) (hstarted : lane.started = true)
    (hcooldown : lane.cooldown = pacingInterval) : lane.visit seconds = ⟨lane, [], false⟩ := by
  have hwaits : ¬ pacingInterval ≤ 0 := by decide
  have hpace : lane.paceOf seconds = ⟨0, lane.cooldown, false⟩ := by
    rw [paceOf_of_started hstarted, hcooldown, pacingInterval_sub_eq hseconds hpos hle,
      pace_of_not_due _ hwaits]
  rw [visit, hpace, ← hstarted]
  rfl

end Lane

end Visits

end SpriteStage
