import SpriteStage.Settings.Basic
import SpriteStage.Proofs.Decimal.Sums

/-!
# The length of a tick

A tick is as long as one divided by the ticks per second, where both the rate and the quotient are
rounded to 32 bits. The module introduces:

* `RoundsOn.bounds`: rounding stays in the closed binade of a number;
* `exists_number?_toFloat32`: what a rate becomes as a floating point number. From `2 ^ 26 - 2` on,
  which lies halfway between two of these, this is `2 ^ 26` or more;
* `exists_number?_one_div`: what one divided by it is, `RoundsOn.lt_of_add_lt` and
  `RoundsOn.le_of_le`: on which side of `2 ^ (-26)` this lies.

The main statement is `Settings.exists_number?_tickDelta`.
-/

namespace SpriteStage

open Float.Model Float.Model.UnpackedFloat

/-! ## Binades -/

section Binades

variable {v w : ℚ} {T : Int}

/-- Rounding does not leave the binade of a number, except for its upper end. -/
theorem RoundsOn.bounds (h : RoundsOn (Format.binary32.targetExponent T) v w) (hT : InBinade v T)
    (hmin : -148 ≤ T) : 2 ^ (T - 1) ≤ w ∧ w ≤ 2 ^ T := by
  rw [targetExponent_binary32] at h
  have hlow := h.le_of_multiple_le (s := T - 1) (k := 1) (by omega)
  have hhigh := h.le_of_le_multiple (s := T) (k := 1) (by omega)
  rw [Nat.cast_one, one_mul] at hlow hhigh
  exact ⟨hlow hT.1, hhigh hT.2.le⟩

/-- Whole numbers in a binade. -/
theorem InBinade.exponent_pos {n : Nat} (hT : InBinade n T) (hn : 0 < n) : 1 ≤ T := by
  have hone : (1 : ℚ) ≤ n := by exact_mod_cast hn
  have hlt : (2 : ℚ) ^ (0 : Int) < 2 ^ T := by
    rw [zpow_zero]
    exact hone.trans_lt hT.2
  have := lt_of_two_zpow_lt hlt
  omega

end Binades

/-! ## Rates -/

/-- Words are rounded to the nearest floating point number. -/
theorem exists_roundsOn_toFloat32 (n : UInt32) (hn : 0 < n.toNat) :
    ∃ T w, InBinade n.toNat T ∧ T ≤ 32 ∧ number? n.toFloat32 = some w ∧
      RoundsOn (Format.binary32.targetExponent T) n.toNat w := by
  have hrounded := isRounded_normalize (n.toNat : Int) 0
  have hvalue : (((n.toNat : Int) : ℚ) * 2 ^ (0 : Int)) = (n.toNat : ℚ) := by
    rw [zpow_zero, mul_one, Int.cast_natCast]
  rw [hvalue] at hrounded
  have hrounds := hrounded.positive (by exact_mod_cast hn)
  obtain ⟨T, hT⟩ := hrounds.exists_inBinade
  have hword : (n.toNat : ℚ) < 2 ^ (32 : Int) := by exact_mod_cast n.toNat_lt
  have hTmax : T - 1 < 32 := lt_of_two_zpow_lt (hT.1.trans_lt hword)
  obtain ⟨w, hnumber, hnear⟩ := number?_pack hrounds hT (by omega)
  exact ⟨T, w, hT, by omega, hnumber, hnear⟩

/-- Below `2 ^ 26` units are 4, and what lies halfway to it is rounded to it. -/
theorem RoundsOn.bounds_of_halfway {n : Nat} {w : ℚ}
    (h : RoundsOn (Format.binary32.targetExponent 26) n w) :
    (n < 2 ^ 26 - 2 → w ≤ 2 ^ 26 - 4) ∧ (2 ^ 26 - 2 ≤ n → 2 ^ 26 ≤ w) := by
  obtain ⟨em, happrox, rfl⟩ := h
  rw [targetExponent_binary32] at happrox ⊢
  have hunit : (2 : ℚ) ^ (max (26 - 24) (-149) : Int) = 4 := by norm_num
  have htie := happrox.roundedMantissa_lt_iff (2 ^ 23)
  have hunits : (n / 2 ^ (max (26 - 24) (-149) : Int) : ℚ) < 2 * (2 ^ 23 : Nat) - 1 / 2 ↔
      n < 2 ^ 26 - 2 := by
    have hscale : (n / 2 ^ (max (26 - 24) (-149) : Int) : ℚ) < 2 * (2 ^ 23 : Nat) - 1 / 2 ↔
        (n : ℚ) < (2 ^ 26 - 2 : Nat) := by
      rw [div_lt_iff₀ (by positivity)]
      norm_num
    exact hscale.trans Nat.cast_lt
  rw [hunits] at htie
  rw [hunit]
  refine ⟨fun hsmall => ?_, fun hlarge => ?_⟩
  · have hle : em.roundedMantissa + 1 ≤ 2 ^ 24 := htie.mpr hsmall
    have hle' : (em.roundedMantissa : ℚ) + 1 ≤ 2 ^ 24 := by exact_mod_cast hle
    linarith
  · have hge : 2 ^ 24 ≤ em.roundedMantissa := by
      by_contra hlt
      exact absurd (htie.mp (by omega)) (by omega)
    have hge' : (2 : ℚ) ^ 24 ≤ em.roundedMantissa := by exact_mod_cast hge
    linarith

/-- A rate that is not zero stands for a number from 1 to `2 ^ 32`. From `2 ^ 26 - 2` on, this is
`2 ^ 26` or more, and before that it is `2 ^ 26 - 4` at most. -/
theorem exists_number?_toFloat32 (n : UInt32) (hn : 0 < n.toNat) :
    ∃ w, number? n.toFloat32 = some w ∧ 1 ≤ w ∧ w ≤ 2 ^ 32 ∧
      (n.toNat < 2 ^ 26 - 2 → w ≤ 2 ^ 26 - 4) ∧ (2 ^ 26 - 2 ≤ n.toNat → 2 ^ 26 ≤ w) := by
  obtain ⟨T, w, hT, hTmax, hnumber, hrounds⟩ := exists_roundsOn_toFloat32 n hn
  have hTmin := hT.exponent_pos hn
  obtain ⟨hlow, hhigh⟩ := hrounds.bounds hT (by omega)
  have hone : (1 : ℚ) ≤ 2 ^ (T - 1) := one_le_zpow₀ one_le_two (by omega)
  have htop : (2 : ℚ) ^ T ≤ 2 ^ (32 : Int) := zpow_le_zpow_right₀ one_le_two hTmax
  refine ⟨w, hnumber, hone.trans hlow, hhigh.trans (by exact_mod_cast htop), ?_⟩
  obtain hbelow | rfl | habove : T ≤ 25 ∨ T = 26 ∨ 27 ≤ T := by omega
  · have hsmall : (2 : ℚ) ^ T ≤ 2 ^ (25 : Int) := zpow_le_zpow_right₀ one_le_two hbelow
    refine ⟨fun _ => hhigh.trans (hsmall.trans (by norm_num)), fun hlarge => ?_⟩
    have hlarge' : ((2 ^ 26 - 2 : Nat) : ℚ) ≤ n.toNat := by exact_mod_cast hlarge
    have := hT.2.trans_le hsmall
    norm_num at hlarge' this
    linarith
  · exact hrounds.bounds_of_halfway
  · have hlarge : (2 : ℚ) ^ (26 : Int) ≤ 2 ^ (T - 1) := zpow_le_zpow_right₀ one_le_two (by omega)
    refine ⟨fun hsmall => ?_, fun _ => ?_⟩
    · have hsmall' : (n.toNat : ℚ) < (2 ^ 26 - 2 : Nat) := by exact_mod_cast hsmall
      have := hlarge.trans hT.1
      norm_num at hsmall' this
      linarith
    · exact_mod_cast hlarge.trans hlow

/-! ## Quotients -/

/-- One divided by a number from 1 to `2 ^ 32` is rounded to the nearest number. -/
theorem exists_number?_one_div {x : Float32} {w : ℚ} (h : number? x = some w) (hlow : 1 ≤ w)
    (hhigh : w ≤ 2 ^ 32) :
    ∃ T q, InBinade (1 / w) T ∧ -31 ≤ T ∧ T ≤ 1 ∧ number? (1 / x) = some q ∧
      RoundsOn (Format.binary32.targetExponent T) (1 / w) q := by
  have hpos : 0 < w := one_pos.trans_le hlow
  obtain ⟨_, -, rfl⟩ | ⟨sign, m, e, hm, hx, hvalue⟩ := unpack_of_number? h
  · exact absurd hpos (lt_irrefl 0)
  obtain rfl : sign = .positive := (apply_mul_pos_iff hm).mp (hvalue ▸ hpos)
  have hw : w = m * 2 ^ e := by
    rw [hvalue]
    rfl
  -- The quotient has few digits in front of those of the divisor.
  have htotal : totalExponent m e ≤ 33 := by
    have hexact : (m * 2 ^ e : ℚ) / 2 ^ e = m := mul_div_cancel_right₀ _ (by positivity)
    have hbinade := inBinade_of_approximates hm.ne' (approximates_exact hexact)
    have hle : (2 : ℚ) ^ (totalExponent m e - 1) ≤ 2 ^ (32 : Int) :=
      (hbinade.1.trans (hw ▸ hhigh)).trans (by norm_num)
    have := le_of_two_zpow_le hle
    omega
  have hone : totalExponent (2 ^ 23) (-23) = 1 := by decide
  have hmin : Format.binary32.minExponent < totalExponent (2 ^ 23) (-23) - totalExponent m e := by
    rw [hone]
    rw [minExponent_binary32]
    omega
  have hrounds : RoundsTo .binary32 ((2 ^ 23 : Nat) * 2 ^ (-23 : Int) / (m * 2 ^ e))
      (.positive / .positive) (UnpackedFloat.div .binary32
        (.finite .positive (2 ^ 23) (-23) (by decide)) (.finite .positive m e hm)) :=
    roundsTo_div (by decide) hm hmin
  have hquotient : (((2 ^ 23 : Nat) : ℚ) * 2 ^ (-23 : Int) / (m * 2 ^ e)) = 1 / w := by
    rw [hw]
    norm_num
  rw [hquotient] at hrounds
  obtain ⟨T, hT⟩ := hrounds.exists_inBinade
  have hinverse : 1 / w ≤ 1 := (div_le_one hpos).mpr hlow
  have hinverse' : (1 : ℚ) / 2 ^ 32 ≤ 1 / w := one_div_le_one_div_of_le hpos hhigh
  have hTmax : T - 1 ≤ 0 := by
    refine le_of_two_zpow_le ?_
    rw [zpow_zero]
    exact hT.1.trans hinverse
  have hTmin : -32 < T := by
    refine lt_of_two_zpow_lt (lt_of_le_of_lt ?_ hT.2)
    refine le_trans (le_of_eq ?_) hinverse'
    norm_num
  obtain ⟨q, hnumber, hnear⟩ := number?_pack hrounds hT (by omega)
  refine ⟨T, q, hT, by omega, by omega, ?_, hnear⟩
  have hdiv : 1 / x = .ofModel (.pack (UnpackedFloat.div .binary32
      (.finite .positive (2 ^ 23) (-23) (by decide)) x.toModel.unpack)) := rfl
  rw [hdiv, hx]
  exact hnumber

section Quotients

variable {v q : ℚ} {T : Int}

/-- What is greater than `2 ^ (-26)` by more than half a unit is not rounded to it. -/
theorem RoundsOn.lt_of_add_lt (h : RoundsOn (Format.binary32.targetExponent T) v q)
    (hT : InBinade v T) (hlt : 2 ^ (-26 : Int) + 2 ^ (-50 : Int) < v) : 2 ^ (-26 : Int) < q := by
  have hTmin : -26 < T :=
    lt_of_two_zpow_lt ((lt_add_of_pos_right _ (by positivity)).trans (hlt.trans hT.2))
  obtain rfl | hlarge : T = -25 ∨ -24 ≤ T := by omega
  · have hnear := (abs_le.mp h.abs_sub_le).1
    rw [targetExponent_binary32] at hnear
    norm_num at hnear hlt ⊢
    linarith
  · have hbinade : (2 : ℚ) ^ (-25 : Int) ≤ 2 ^ (T - 1) :=
      zpow_le_zpow_right₀ one_le_two (by omega)
    have hlow := (h.bounds hT (by omega)).1
    exact lt_of_lt_of_le (by norm_num) (hbinade.trans hlow)

/-- What is not greater than `2 ^ (-26)` does not get there by rounding. -/
theorem RoundsOn.le_of_le (h : RoundsOn (Format.binary32.targetExponent T) v q)
    (hT : InBinade v T) (hle : v ≤ 2 ^ (-26 : Int)) : q ≤ 2 ^ (-26 : Int) := by
  have hTmax : T - 1 ≤ -26 := le_of_two_zpow_le (hT.1.trans hle)
  have hmultiple := h.le_of_le_multiple (s := -26) (k := 1) (by
    rw [targetExponent_binary32]
    omega)
  rw [Nat.cast_one, one_mul] at hmultiple
  exact hmultiple hle

end Quotients

/-! ## Main statement -/

/-- The length of a tick is a positive number, one second at most. It is greater than `2 ^ (-26)` at
rates below `2 ^ 26 - 2`, and at no others. -/
theorem Settings.exists_number?_tickDelta (settings : Settings) :
    ∃ q, number? settings.tickDelta = some q ∧ 0 < q ∧ q ≤ 1 ∧
      (2 ^ (-26 : Int) < q ↔ settings.tickRate.toNat < 2 ^ 26 - 2) := by
  obtain ⟨n, hn⟩ : ∃ n, n = max settings.tickRate 1 := ⟨_, rfl⟩
  -- A rate of zero counts as one.
  have hrate : 0 < n.toNat ∧ (n.toNat < 2 ^ 26 - 2 ↔ settings.tickRate.toNat < 2 ^ 26 - 2) := by
    rw [hn, UInt32.toNat_max, UInt32.toNat_one]
    omega
  obtain ⟨w, hw, hone, htop, hslow, hfast⟩ := exists_number?_toFloat32 n hrate.1
  obtain ⟨T, q, hT, hTmin, hTmax, hq, hrounds⟩ := exists_number?_one_div hw hone htop
  obtain ⟨hlow, hhigh⟩ := hrounds.bounds hT (by omega)
  have hunit : (2 : ℚ) ^ T ≤ 2 ^ (1 : Int) := zpow_le_zpow_right₀ one_le_two hTmax
  have hpos : 0 < w := one_pos.trans_le hone
  rw [Settings.tickDelta, ← hn, ← hrate.2]
  refine ⟨q, hq, lt_of_lt_of_le (by positivity) hlow, ?_, ?_⟩
  · have hmultiple := hrounds.le_of_le_multiple (s := 0) (k := 1) (by
      rw [targetExponent_binary32]
      omega)
    rw [Nat.cast_one, one_mul, zpow_zero] at hmultiple
    exact hmultiple ((div_le_one hpos).mpr hone)
  · by_cases hlt : n.toNat < 2 ^ 26 - 2
    · have hinverse := one_div_le_one_div_of_le hpos (hslow hlt)
      refine iff_of_true (hrounds.lt_of_add_lt hT (lt_of_lt_of_le ?_ hinverse)) hlt
      norm_num
    · have hinverse := one_div_le_one_div_of_le (by norm_num) (hfast (not_lt.mp hlt))
      refine iff_of_false (not_lt.mpr (hrounds.le_of_le hT (hinverse.trans (le_of_eq ?_)))) hlt
      norm_num

end SpriteStage
