import SpriteStage.Proofs.Decimal.Narrowing

/-!
# Rounding to the nearest number

What rounding to a format does to a rational number. The module introduces:

* `Approximates.roundedMantissa_eq` and its neighbours: a mantissa is rounded to the nearest whole
  number, a half to the even one;
* `RoundsTo spec v sign f`: `f` is the nearest number of the format to `v`, and `roundsTo_round`,
  `roundsTo_mul` and `roundsTo_div`, by which this holds of what the operations give;
* `Cell.Contains` and `RoundsTo.eq_finite`: what lies in the cell of a number is rounded to it;
* `RoundsOn t v w`: `w` is a multiple of `2 ^ t` that is nearest to `v`;
* `unpack_pack_normal`: packing loses nothing of a number with all its digits.

The main statements are `RoundsTo.eq_finite` and `RoundsTo.exists_normal`.
-/

namespace SpriteStage

open Float.Model Float.Model.UnpackedFloat

/-- A power without a sign in its exponent, and its inverse. -/
theorem zpow_mul_pow_toNat {x : ℚ} (hx : x ≠ 0) (z : Int) :
    x ^ z * x ^ (-z).toNat = x ^ z.toNat := by
  rw [← zpow_natCast, ← zpow_natCast, ← zpow_add₀ hx]
  congr 1
  omega

/-- Powers of two compare like their exponents. -/
theorem lt_of_two_zpow_lt {s t : Int} (h : (2 : ℚ) ^ s < 2 ^ t) : s < t :=
  (zpow_lt_zpow_iff_right₀ one_lt_two).mp h

/-- Digits that are split off a power of two. -/
theorem two_zpow_eq {s t : Int} {n : Nat} (h : s = n + t) : (2 : ℚ) ^ s = 2 ^ n * 2 ^ t := by
  rw [h, zpow_add₀ two_ne_zero, zpow_natCast]

theorem two_zpow_eq_twice (t : Int) : (2 : ℚ) ^ t = 2 * 2 ^ (t - 1) := by
  rw [← zpow_one_add₀ two_ne_zero, add_sub_cancel]

/-! ## Rounded mantissas -/

namespace Approximates

variable {em : ExtendedMantissa} {x : ℚ} {k : Nat}

/-- Rounding does not go past a whole number from above. -/
theorem le_roundedMantissa (h : Approximates em x) (hk : (k : ℚ) ≤ x) :
    k ≤ em.roundedMantissa := by
  have hlt : (k : ℚ) < em.mantissa + 1 := hk.trans_lt h.mantissa_le.2
  have hle : k < em.mantissa + 1 := by exact_mod_cast hlt
  exact (Nat.lt_succ_iff.mp hle).trans (roundedMantissa_bounds em).1

/-- Rounding does not go past a whole number from below. -/
theorem roundedMantissa_le (h : Approximates em x) (hk : x ≤ k) : em.roundedMantissa ≤ k := by
  have hle : em.mantissa ≤ k := by exact_mod_cast h.mantissa_le.1.trans hk
  obtain hlt | rfl := hle.lt_or_eq
  · exact (roundedMantissa_bounds em).2.trans hlt
  · -- Nothing is left behind the point.
    obtain ⟨m, round, sticky⟩ := em
    cases round <;> cases sticky <;>
      simp [Approximates, ExtendedMantissa.roundedMantissa, ExtendedMantissa.accuracy,
        Accuracy.roundToNearestEven] at h hk ⊢ <;> linarith

/-- Rounding moves a number by half a unit at most. -/
theorem abs_roundedMantissa_sub_le (h : Approximates em x) :
    |(em.roundedMantissa : ℚ) - x| ≤ 1 / 2 := by
  rw [abs_le]
  obtain ⟨m, round, sticky⟩ := em
  have hparity : m % 2 = 0 ∨ m % 2 = 1 := Nat.mod_two_eq_zero_or_one m
  rcases hparity with hparity | hparity <;> cases round <;> cases sticky <;>
    simp [Approximates, ExtendedMantissa.roundedMantissa, ExtendedMantissa.accuracy,
      Accuracy.roundToNearestEven, hparity] at h ⊢ <;> constructor <;> linarith

/-- A number within half a unit of a whole one is rounded to it; at half a unit this has to be
even. -/
theorem roundedMantissa_eq (h : Approximates em x) (hk : |x - k| ≤ 1 / 2)
    (heven : |x - k| = 1 / 2 → k % 2 = 0) : em.roundedMantissa = k := by
  obtain hlt | heq := hk.lt_or_eq
  · -- The two whole numbers are less than one apart.
    have hsum : |(em.roundedMantissa : ℚ) - k| < 1 := by
      have := abs_sub_le (em.roundedMantissa : ℚ) x k
      linarith [h.abs_roundedMantissa_sub_le]
    have hsum' : |(em.roundedMantissa : ℤ) - k| < 1 := by exact_mod_cast hsum
    rw [Int.abs_lt_one_iff] at hsum'
    omega
  · have hk0 := heven heq
    obtain ⟨hlow, hhigh⟩ := h.mantissa_le
    rcases (abs_eq (by norm_num)).mp heq with hx | hx
    · obtain rfl : em.mantissa = k := by
        have hle : (em.mantissa : ℚ) < k + 1 := by linarith
        have hge : (k : ℚ) < em.mantissa + 1 := by linarith
        have hle' : em.mantissa < k + 1 := by exact_mod_cast hle
        have hge' : k < em.mantissa + 1 := by exact_mod_cast hge
        omega
      obtain ⟨m, round, sticky⟩ := em
      cases round <;> cases sticky <;>
        simp [Approximates, ExtendedMantissa.roundedMantissa, ExtendedMantissa.accuracy,
          Accuracy.roundToNearestEven] at h hk0 hx ⊢ <;> first | exact hk0 | linarith
    · obtain rfl : em.mantissa + 1 = k := by
        have hle : (em.mantissa : ℚ) < k := by linarith
        have hge : (k : ℚ) < em.mantissa + 2 := by linarith
        have hle' : em.mantissa < k := by exact_mod_cast hle
        have hge' : k < em.mantissa + 2 := by exact_mod_cast hge
        omega
      obtain ⟨m, round, sticky⟩ := em
      cases round <;> cases sticky <;>
        simp [Approximates, ExtendedMantissa.roundedMantissa, ExtendedMantissa.accuracy,
          Accuracy.roundToNearestEven] at h hk0 hx ⊢ <;> first | omega | linarith

end Approximates

/-! ## Rounding to a format -/

/-- The number lies in the binade that ends at this power of two. -/
def InBinade (v : ℚ) (T : Int) : Prop := 2 ^ (T - 1) ≤ v ∧ v < 2 ^ T

/-- Units of a power of two, unpacked. With a digit too much they are a power of two themselves,
which loses a zero at its end. -/
def unpacked (spec : Format) (sign : Sign) (n : Nat) (t : Int) : UnpackedFloat :=
  if hzero : n = 0 then .zero sign
  else if n = 2 ^ spec.mantissaBits then
    .finite sign (2 ^ spec.mantissaBitsWithoutImplicit) (t + 1) (by positivity)
  else .finite sign n t (Nat.pos_of_ne_zero hzero)

/-- The unpacked number is the nearest one of the format to `v`, up to its sign. -/
def RoundsTo (spec : Format) (v : ℚ) (sign : Sign) (f : UnpackedFloat) : Prop :=
  ∃ T em, InBinade v T ∧ Approximates em (v / 2 ^ spec.targetExponent T) ∧
    f = unpacked spec sign em.roundedMantissa (spec.targetExponent T)

/-- Binades are disjoint. -/
theorem InBinade.unique {v : ℚ} {T T' : Int} (h : InBinade v T) (h' : InBinade v T') : T = T' := by
  have hlt : T - 1 < T' := lt_of_two_zpow_lt (h.1.trans_lt h'.2)
  have hgt : T' - 1 < T := lt_of_two_zpow_lt (h'.1.trans_lt h.2)
  omega

section Rounding

variable {spec : Format} {v : ℚ} {m : Nat} {e T : Int} {sign : Sign}

theorem mantissaBits_eq (spec : Format) :
    spec.mantissaBits = spec.mantissaBitsWithoutImplicit + 1 :=
  Nat.add_comm _ _

theorem mantissaBits_le (spec : Format) (T : Int) :
    T ≤ spec.targetExponent T + spec.mantissaBits := by
  rw [Format.targetExponent]
  omega

theorem minExponent_le (spec : Format) (T : Int) : spec.minExponent ≤ spec.targetExponent T :=
  le_max_right _ _

/-- A number in a binade has no more units than the format has mantissas. -/
theorem InBinade.lt_two_pow (h : InBinade v T) :
    v / 2 ^ spec.targetExponent T < (2 ^ spec.mantissaBits : Nat) := by
  have hdigits := mantissaBits_le spec T
  rw [div_lt_iff₀ (by positivity), Nat.cast_pow, Nat.cast_ofNat, ← zpow_natCast,
    ← zpow_add₀ two_ne_zero]
  exact h.2.trans_le (zpow_le_zpow_right₀ one_le_two (by omega))

/-- Units that the format has a mantissa for stay as they are, unless they have a digit too much. -/
theorem shiftToTargetExponent_exact {n : Nat} {t : Int} (hn : n ≤ 2 ^ spec.mantissaBits)
    (ht : spec.minExponent ≤ t) :
    shiftToTargetExponent spec n t .exact =
      if n = 2 ^ spec.mantissaBits then
        (⟨2 ^ spec.mantissaBitsWithoutImplicit, false, false⟩, t + 1)
      else (⟨n, false, false⟩, t) := by
  have hbits := mantissaBits_eq spec
  rw [shiftToTargetExponent, shiftToExponent, Format.targetExponent, totalExponent]
  split
  · next heq =>
    subst heq
    rw [Nat.log2_two_pow]
    have hshift : (max (((spec.mantissaBits : Nat) : Int) + 1 + t - spec.mantissaBits)
        spec.minExponent - t).toNat = 1 := by omega
    rw [hshift]
    have hhalf : 2 ^ spec.mantissaBits / 2 = 2 ^ spec.mantissaBitsWithoutImplicit := by
      rw [hbits, pow_succ]
      omega
    have heven : 2 ^ spec.mantissaBits % 2 = 0 := by
      rw [hbits, pow_succ]
      omega
    simp [ExtendedMantissa.ofMantissaAndAccuracy, ExtendedMantissa.shiftRightOne, hhalf, heven]
  · next hne =>
    have hlog : n.log2 < spec.mantissaBits := by
      by_cases hzero : n = 0
      · rw [hzero, Nat.log2_zero, hbits]
        omega
      · exact (Nat.log2_lt hzero).mpr (by omega)
    have hshift : (max ((n.log2 : Int) + 1 + t - spec.mantissaBits) spec.minExponent - t).toNat =
        0 := by omega
    rw [hshift]
    simp [ExtendedMantissa.ofMantissaAndAccuracy]

/-- A mantissa that is not zero shows which binade the number is in. -/
theorem inBinade_of_approximates {acc : Accuracy} (hm : m ≠ 0)
    (h : Approximates (.ofMantissaAndAccuracy m acc) (v / 2 ^ e)) :
    InBinade v (totalExponent m e) := by
  have hmantissa : (ExtendedMantissa.ofMantissaAndAccuracy m acc).mantissa = m := by
    unfold ExtendedMantissa.ofMantissaAndAccuracy
    split <;> rfl
  obtain ⟨hlow, hhigh⟩ := h.mantissa_le
  rw [hmantissa] at hlow hhigh
  have hpow : (0 : ℚ) < 2 ^ e := by positivity
  rw [le_div_iff₀ hpow] at hlow
  rw [div_lt_iff₀ hpow] at hhigh
  have hlow' : (2 : ℚ) ^ m.log2 ≤ m := by exact_mod_cast Nat.log2_self_le hm
  have hhigh' : (m : ℚ) + 1 ≤ 2 ^ (m.log2 + 1) := by exact_mod_cast Nat.lt_log2_self
  have hbelow : totalExponent m e - 1 = (m.log2 : Nat) + e := by
    rw [totalExponent]
    omega
  have habove : totalExponent m e = ((m.log2 + 1 : Nat) : Int) + e := by
    rw [totalExponent]
    omega
  constructor
  · rw [hbelow, zpow_add₀ two_ne_zero, zpow_natCast]
    exact (by gcongr : (2 : ℚ) ^ m.log2 * 2 ^ e ≤ m * 2 ^ e).trans hlow
  · rw [habove, zpow_add₀ two_ne_zero, zpow_natCast]
    exact hhigh.trans_le (by gcongr)

/-- Rounding with what is known of the places that were cut off goes to the nearest number. -/
theorem roundsTo_roundWithAccuracy {acc : Accuracy} (hm : m ≠ 0)
    (h : Approximates (.ofMantissaAndAccuracy m acc) (v / 2 ^ e))
    (he : e ≤ spec.targetExponent (totalExponent m e)) (sign : Sign) :
    RoundsTo spec v sign (roundWithAccuracy spec sign m e acc) := by
  obtain ⟨t, ht⟩ : ∃ t, t = spec.targetExponent (totalExponent m e) := ⟨_, rfl⟩
  have hbinade := inBinade_of_approximates hm h
  have hfirst : Approximates
      (ExtendedMantissa.ofMantissaAndAccuracy m acc >>> (t - e).toNat) (v / 2 ^ t) := by
    have hshift : v / 2 ^ e / 2 ^ (t - e).toNat = v / 2 ^ t := by
      rw [div_div, ← zpow_natCast, ← zpow_add₀ two_ne_zero]
      congr 2
      omega
    exact hshift ▸ h.shiftRight _
  refine ⟨totalExponent m e, _, hbinade, ht ▸ hfirst, ?_⟩
  have hexponent : e + ((t - e).toNat : Int) = t := by omega
  have hn : ((ExtendedMantissa.ofMantissaAndAccuracy m acc) >>> (t - e).toNat).roundedMantissa ≤
      2 ^ spec.mantissaBits :=
    hfirst.roundedMantissa_le (ht ▸ hbinade.lt_two_pow.le)
  have hmin : spec.minExponent ≤ t := ht ▸ minExponent_le spec _
  rw [roundWithAccuracy, shiftToTargetExponent, shiftToExponent, ← ht]
  simp only [hexponent, shiftToTargetExponent_exact hn hmin, unpacked]
  split
  · next heq =>
    simp [heq]
  · rfl

theorem approximates_exact {x : ℚ} (h : x = m) :
    Approximates (.ofMantissaAndAccuracy m .exact) x := h

/-- An exact number is rounded to the nearest one. -/
theorem roundsTo_round (hm : m ≠ 0) (sign : Sign) (e : Int) :
    RoundsTo spec (m * 2 ^ e) sign (UnpackedFloat.round spec sign m e) := by
  obtain ⟨t, ht⟩ : ∃ t, t = spec.targetExponent (totalExponent m e) := ⟨_, rfl⟩
  obtain ⟨d, hd⟩ : ∃ d, d = (e - t).toNat := ⟨_, rfl⟩
  have hexact : (m * 2 ^ e : ℚ) / 2 ^ (e - d) = (m <<< d : Nat) := by
    rw [Nat.shiftLeft_eq, mul_div_assoc, ← zpow_sub₀ two_ne_zero]
    have hd : e - (e - d) = (d : Int) := by omega
    rw [hd, zpow_natCast]
    push_cast
    rfl
  have htotal : totalExponent (m <<< d) (e - d) = totalExponent m e := by
    rw [totalExponent, totalExponent, Nat.shiftLeft_eq, log2_mul_two_pow hm]
    omega
  have hshifted : m <<< d ≠ 0 := by
    rw [Nat.shiftLeft_eq]
    positivity
  rw [UnpackedFloat.round, decreaseExponent, ← ht, ← hd]
  exact roundsTo_roundWithAccuracy hshifted (approximates_exact hexact)
    (by rw [htotal, ← ht]; omega) sign

/-- A product is rounded to the nearest number. -/
theorem roundsTo_mul {s₁ s₂ : Sign} {m₁ m₂ : Nat} {e₁ e₂ : Int} (h₁ : 0 < m₁) (h₂ : 0 < m₂)
    (he : e₁ + e₂ ≤ spec.targetExponent (totalExponent (m₁ * m₂) (e₁ + e₂))) :
    RoundsTo spec (m₁ * 2 ^ e₁ * (m₂ * 2 ^ e₂)) (s₁ * s₂)
      (UnpackedFloat.mul spec (.finite s₁ m₁ e₁ h₁) (.finite s₂ m₂ e₂ h₂)) := by
  have hexact : (m₁ * 2 ^ e₁ * (m₂ * 2 ^ e₂) : ℚ) / 2 ^ (e₁ + e₂) = (m₁ * m₂ : Nat) := by
    rw [zpow_add₀ two_ne_zero]
    push_cast
    field_simp
  exact roundsTo_roundWithAccuracy (mul_pos h₁ h₂).ne' (approximates_exact hexact) he _

/-- What division leaves tells where the quotient lies. -/
theorem approximates_fraction {n d q r : Nat} (hn : n = d * q + r) (hr : r < d) :
    Approximates (.ofMantissaAndAccuracy q (accuracyOfFraction r d)) (n / d : ℚ) := by
  have hd : (0 : ℚ) < d := by exact_mod_cast (Nat.zero_le r).trans_lt hr
  have hquotient : (n : ℚ) / d = q + r / d := by
    rw [hn]
    push_cast
    field_simp
  rw [hquotient, accuracyOfFraction]
  split
  · next hzero => simp [hzero, ExtendedMantissa.ofMantissaAndAccuracy, Approximates]
  · next hne =>
    have hpos : (0 : ℚ) < r / d := div_pos (by exact_mod_cast Nat.pos_of_ne_zero hne) hd
    have hlt : (r : ℚ) / d < 1 := (div_lt_one hd).mpr (by exact_mod_cast hr)
    have htwice : 2 * ((r : ℚ) / d) = (2 * r : Nat) / d := by push_cast; ring
    rcases lt_trichotomy (2 * r) d with h | h | h
    · rw [compare_lt_iff_lt.mpr h]
      have : 2 * ((r : ℚ) / d) < 1 := by
        rw [htwice, div_lt_one hd]
        exact_mod_cast h
      simp only [Approximates, ExtendedMantissa.ofMantissaAndAccuracy]
      constructor <;> linarith
    · rw [compare_eq_iff_eq.mpr h]
      have : 2 * ((r : ℚ) / d) = 1 := by
        rw [htwice, h, div_self hd.ne']
      simp only [Approximates, ExtendedMantissa.ofMantissaAndAccuracy]
      linarith
    · rw [compare_gt_iff_gt.mpr h]
      have : 1 < 2 * ((r : ℚ) / d) := by
        rw [htwice, one_lt_div hd]
        exact_mod_cast h
      simp only [Approximates, ExtendedMantissa.ofMantissaAndAccuracy]
      constructor <;> linarith

/-- A quotient is rounded to the nearest number. -/
theorem roundsTo_div {s₁ s₂ : Sign} {m₁ m₂ : Nat} {e₁ e₂ : Int} (h₁ : 0 < m₁) (h₂ : 0 < m₂)
    (hmin : spec.minExponent < totalExponent m₁ e₁ - totalExponent m₂ e₂) :
    RoundsTo spec (m₁ * 2 ^ e₁ / (m₂ * 2 ^ e₂)) (s₁ / s₂)
      (UnpackedFloat.div spec (.finite s₁ m₁ e₁ h₁) (.finite s₂ m₂ e₂ h₂)) := by
  obtain ⟨t, ht⟩ : ∃ t, t = min (e₁ - e₂)
    (spec.targetExponent (totalExponent m₁ e₁ - totalExponent m₂ e₂)) := ⟨_, rfl⟩
  obtain ⟨d, hd⟩ : ∃ d, d = (e₁ - e₂ - t).toNat := ⟨_, rfl⟩
  have hresult : UnpackedFloat.div spec (.finite s₁ m₁ e₁ h₁) (.finite s₂ m₂ e₂ h₂) =
      roundWithAccuracy spec (s₁ / s₂) (m₁ <<< d / m₂) t
        (accuracyOfFraction (m₁ <<< d % m₂) m₂) := by
    rw [UnpackedFloat.div, divCore, hd, ht]
  -- The quotient in units of `2 ^ t` is exact but for what the division leaves.
  have hquotient : (m₁ * 2 ^ e₁ / (m₂ * 2 ^ e₂) : ℚ) / 2 ^ t = (m₁ <<< d : Nat) / m₂ := by
    have hpower : (2 : ℚ) ^ e₁ = 2 ^ d * 2 ^ e₂ * 2 ^ t := by
      rw [← zpow_natCast, ← zpow_add₀ two_ne_zero, ← zpow_add₀ two_ne_zero]
      congr 1
      omega
    have hm₂ : (m₂ : ℚ) ≠ 0 := by exact_mod_cast h₂.ne'
    rw [hpower, Nat.shiftLeft_eq]
    push_cast
    field_simp
  have happrox := approximates_fraction (Nat.div_add_mod (m₁ <<< d) m₂).symm (Nat.mod_lt _ h₂)
  rw [← hquotient] at happrox
  have hlow : 2 ^ m₁.log2 ≤ m₁ := Nat.log2_self_le h₁.ne'
  have hhigh : m₂ < 2 ^ (m₂.log2 + 1) := Nat.lt_log2_self
  have hT : totalExponent m₁ e₁ - totalExponent m₂ e₂ = m₁.log2 - m₂.log2 + (e₁ - e₂) := by
    rw [totalExponent, totalExponent]
    omega
  have hbits : 1 ≤ spec.mantissaBits := Nat.le_add_right 1 _
  have htarget := Format.targetExponent.eq_1 spec (totalExponent m₁ e₁ - totalExponent m₂ e₂)
  -- The shift gives the quotient at least one digit.
  obtain ⟨k, hk⟩ : ∃ k, m₁.log2 + d = k + (m₂.log2 + 1) := ⟨m₁.log2 + d - (m₂.log2 + 1), by omega⟩
  have hle : 2 ^ k ≤ m₁ <<< d / m₂ := by
    rw [Nat.le_div_iff_mul_le h₂, Nat.shiftLeft_eq]
    calc 2 ^ k * m₂ ≤ 2 ^ k * 2 ^ (m₂.log2 + 1) := Nat.mul_le_mul_left _ hhigh.le
      _ = 2 ^ m₁.log2 * 2 ^ d := by rw [← pow_add, ← hk, pow_add]
      _ ≤ m₁ * 2 ^ d := Nat.mul_le_mul_right _ hlow
  have hne : m₁ <<< d / m₂ ≠ 0 := (Nat.two_pow_pos k |>.trans_le hle).ne'
  have hlog : k ≤ (m₁ <<< d / m₂).log2 := (Nat.le_log2 hne).mpr hle
  rw [hresult]
  refine roundsTo_roundWithAccuracy hne happrox ?_ _
  have htarget' := Format.targetExponent.eq_1 spec (totalExponent (m₁ <<< d / m₂) t)
  have hq := totalExponent.eq_1 (m₁ <<< d / m₂) t
  omega

end Rounding

/-! ## Cells -/

/-- The number is one that is rounded to the number of the cell. -/
def Cell.Contains (cell : Cell) (v : ℚ) : Prop :=
  (cell.low * 2 ^ cell.exponent ≤ v ∧ v ≤ cell.high * 2 ^ cell.exponent) ∧
    (cell.closed = false →
      cell.low * 2 ^ cell.exponent < v ∧ v < cell.high * 2 ^ cell.exponent)

/-- The mantissa and the exponent are those of a finite number of the format. -/
structure IsCanonical (spec : Format) (m : Nat) (e : Int) : Prop where
  pos : 0 < m
  lt : m < 2 ^ spec.mantissaBits
  min_le : spec.minExponent ≤ e
  full : e ≠ spec.minExponent → 2 ^ spec.mantissaBitsWithoutImplicit ≤ m

section Cells

variable {spec : Format} {v : ℚ} {m : Nat} {e T : Int} {sign : Sign} {f : UnpackedFloat}

theorem low_eq (hm : 0 < m) :
    ((Cell.of spec m e).low : ℚ) =
      if m = 2 ^ spec.mantissaBitsWithoutImplicit ∧ e ≠ spec.minExponent then 4 * (m : ℚ) - 1
      else 4 * m - 2 := by
  have hcast (k : Nat) (hk : k ≤ 4 * m) : ((4 * m - k : Nat) : ℚ) = 4 * (m : ℚ) - k := by
    rw [Nat.cast_sub hk]
    push_cast
    rfl
  have hlow : (Cell.of spec m e).low =
      if m = 2 ^ spec.mantissaBitsWithoutImplicit ∧ e ≠ spec.minExponent then 4 * m - 1
      else 4 * m - 2 := by
    simp [Cell.of]
  rw [hlow]
  split
  · exact_mod_cast hcast 1 (by omega)
  · exact_mod_cast hcast 2 (by omega)

/-- In units of the last place, a cell reaches half a unit to both sides, without the ends if the
mantissa is odd, and a quarter of a unit downwards from a power of two. -/
theorem bounds_of_contains (hm : 0 < m) (h : (Cell.of spec m e).Contains v) :
    ((m : ℚ) - 1 / 2 ≤ v / 2 ^ e ∧ v / 2 ^ e ≤ m + 1 / 2) ∧
      (m % 2 = 1 → (m : ℚ) - 1 / 2 < v / 2 ^ e ∧ v / 2 ^ e < m + 1 / 2) ∧
      (m = 2 ^ spec.mantissaBitsWithoutImplicit → e ≠ spec.minExponent →
        (m : ℚ) - 1 / 4 ≤ v / 2 ^ e) := by
  have hpow : (0 : ℚ) < 2 ^ e := by positivity
  have hquarter : (2 : ℚ) ^ (Cell.of spec m e).exponent = 2 ^ e / 4 := by
    rw [Cell.exponent_of, zpow_sub₀ two_ne_zero]
    norm_num
  have hhigh : ((Cell.of spec m e).high : ℚ) = 4 * m + 2 := by
    simp [Cell.of]
  have hclosed : (Cell.of spec m e).closed = false ↔ m % 2 = 1 := by
    simp [Cell.of]
  have hlow : 4 * (m : ℚ) - 2 ≤ (Cell.of spec m e).low := by
    rw [low_eq hm]
    split <;> linarith
  obtain ⟨⟨hle, hge⟩, hopen⟩ := h
  rw [hclosed] at hopen
  rw [hquarter, hhigh] at *
  simp only [div_le_iff₀ hpow, le_div_iff₀ hpow, div_lt_iff₀ hpow, lt_div_iff₀ hpow]
  refine ⟨⟨?_, ?_⟩, fun hodd => ⟨?_, ?_⟩, fun hpower hmin => ?_⟩
  · nlinarith
  · linarith
  · have := (hopen hodd).1
    nlinarith
  · have := (hopen hodd).2
    linarith
  · rw [low_eq hm, if_pos ⟨hpower, hmin⟩] at hle
    linarith

/-- A number in a cell has the exponent of the cell, unless it lies below the power of two that is
the mantissa. There units are half as long. -/
theorem targetExponent_of_contains (hme : IsCanonical spec m e)
    (hv : (Cell.of spec m e).Contains v) (hT : InBinade v T) :
    spec.targetExponent T = e ∨
      (m = 2 ^ spec.mantissaBitsWithoutImplicit ∧ e ≠ spec.minExponent) ∧ v / 2 ^ e < m ∧
        spec.targetExponent T = e - 1 := by
  obtain ⟨⟨hlow, hhigh⟩, -, hpower⟩ := bounds_of_contains hme.pos hv
  have hpos : (0 : ℚ) < 2 ^ e := by positivity
  have hbits := mantissaBits_eq spec
  have htarget := Format.targetExponent.eq_1 spec T
  obtain ⟨x, hx⟩ : ∃ x, x = v / 2 ^ e := ⟨_, rfl⟩
  have hv' : v = x * 2 ^ e := by rw [hx, div_mul_cancel₀ _ hpos.ne']
  rw [← hx] at hlow hhigh hpower ⊢
  have hscale {k : Int} : (2 : ℚ) ^ (k + e) = 2 ^ k * 2 ^ e := zpow_add₀ two_ne_zero _ _
  have hmlt : (m : ℚ) + 1 ≤ 2 ^ spec.mantissaBits := by exact_mod_cast hme.lt
  have hTlow : T - 1 < spec.mantissaBits + e := by
    refine lt_of_two_zpow_lt (hT.1.trans_lt ?_)
    rw [hv', hscale, zpow_natCast]
    exact mul_lt_mul_of_pos_right (by linarith) hpos
  have hmin := hme.min_le
  by_cases hsame : spec.targetExponent T = e
  · exact .inl hsame
  · have hne : e ≠ spec.minExponent := by omega
    have hfull := hme.full hne
    have hxlt : x < 2 ^ spec.mantissaBitsWithoutImplicit := by
      have hTle : (2 : ℚ) ^ T ≤ 2 ^ (spec.mantissaBitsWithoutImplicit + e) :=
        zpow_le_zpow_right₀ one_le_two (by omega)
      have hlt := hT.2.trans_le hTle
      rw [hv', hscale, zpow_natCast] at hlt
      exact lt_of_mul_lt_mul_right hlt hpos.le
    have hm : m = 2 ^ spec.mantissaBitsWithoutImplicit := by
      have hmlt' : (m : ℚ) < (2 ^ spec.mantissaBitsWithoutImplicit + 1 : Nat) := by
        push_cast
        linarith
      have : m < 2 ^ spec.mantissaBitsWithoutImplicit + 1 := by exact_mod_cast hmlt'
      omega
    have hxm : x < m := by rwa [hm, Nat.cast_pow, Nat.cast_ofNat]
    refine .inr ⟨⟨hm, hne⟩, hxm, ?_⟩
    -- The number lies in the upper half below the power, so its binade ends there.
    obtain ⟨k, hk⟩ : ∃ k, spec.mantissaBitsWithoutImplicit = k + 1 :=
      ⟨spec.mantissaBitsWithoutImplicit - 1, by have := spec.hm; omega⟩
    have hone : (1 : ℚ) ≤ 2 ^ k := one_le_pow₀ one_le_two
    have hm' : (m : ℚ) = 2 * 2 ^ k := by
      rw [hm, hk, pow_succ]
      push_cast
      ring
    have hTgt : (k : Int) + e < T := by
      refine lt_of_two_zpow_lt (hT.2.trans_le' ?_)
      rw [hv', hscale, zpow_natCast]
      exact mul_le_mul_of_nonneg_right (by linarith [hpower hm hne]) hpos.le
    omega

/-- What a cell contains is rounded to its number. -/
theorem RoundsTo.eq_finite (h : RoundsTo spec v sign f) (hme : IsCanonical spec m e)
    (hv : (Cell.of spec m e).Contains v) : f = .finite sign m e hme.pos := by
  obtain ⟨⟨hlow, hhigh⟩, hodd, hpower⟩ := bounds_of_contains hme.pos hv
  obtain ⟨T, em, hT, happrox, rfl⟩ := h
  obtain hsame | ⟨⟨hm, hne⟩, hlt, hhalf⟩ := targetExponent_of_contains hme hv hT
  · have hn : em.roundedMantissa = m := by
      rw [hsame] at happrox
      refine happrox.roundedMantissa_eq (abs_le.mpr ⟨by linarith, by linarith⟩) fun htie => ?_
      by_contra hne
      obtain ⟨hlow', hhigh'⟩ := hodd (Nat.mod_two_ne_zero.mp hne)
      have hinside : |v / 2 ^ e - m| < 1 / 2 := abs_lt.mpr ⟨by linarith, by linarith⟩
      exact hinside.ne htie
    rw [unpacked, hn, hsame, dif_neg hme.pos.ne', if_neg hme.lt.ne]
  · -- The number is rounded up to the power of two, which has a digit too much.
    have hpower' : 2 ^ spec.mantissaBits = 2 * m := by rw [mantissaBits_eq, hm, pow_succ']
    have hdouble : v / 2 ^ (e - 1) = 2 * (v / 2 ^ e) := by
      rw [two_zpow_eq_twice e]
      field_simp
    have hn : em.roundedMantissa = 2 ^ spec.mantissaBits := by
      rw [hhalf, hdouble] at happrox
      have hquarter := hpower hm hne
      have hcast : ((2 ^ spec.mantissaBits : Nat) : ℚ) = 2 * m := by exact_mod_cast hpower'
      refine happrox.roundedMantissa_eq (abs_le.mpr ⟨?_, ?_⟩) fun _ => by omega
      · rw [hcast]
        linarith
      · rw [hcast]
        linarith
    have hzero : (2 : Nat) ^ spec.mantissaBits ≠ 0 := by positivity
    rw [unpacked, hn, hhalf, dif_neg hzero, if_pos rfl]
    simp only [hm, Int.sub_add_cancel]

end Cells

/-! ## Normal numbers -/

/-- `w` is a multiple of `2 ^ t` that is nearest to `v`. -/
def RoundsOn (t : Int) (v w : ℚ) : Prop :=
  ∃ em, Approximates em (v / 2 ^ t) ∧ w = em.roundedMantissa * 2 ^ t

namespace RoundsOn

variable {t s : Int} {v w : ℚ} {k : Nat}

private theorem units (k : Nat) (h : t ≤ s) :
    (k * 2 ^ s : ℚ) / 2 ^ t = (k * 2 ^ (s - t).toNat : Nat) := by
  rw [mul_div_assoc, ← zpow_sub₀ two_ne_zero]
  have hd : s - t = ((s - t).toNat : Int) := by omega
  rw [hd, zpow_natCast]
  push_cast
  rfl

/-- Rounding does not go past a multiple of a greater power of two. -/
theorem le_of_multiple_le (h : RoundsOn t v w) (hs : t ≤ s) (hk : (k * 2 ^ s : ℚ) ≤ v) :
    (k * 2 ^ s : ℚ) ≤ w := by
  obtain ⟨em, happrox, rfl⟩ := h
  have hpos : (0 : ℚ) < 2 ^ t := by positivity
  rw [← div_le_iff₀ hpos, units k hs]
  rw [← div_le_div_iff_of_pos_right hpos, units k hs] at hk
  exact_mod_cast happrox.le_roundedMantissa hk

theorem le_of_le_multiple (h : RoundsOn t v w) (hs : t ≤ s) (hk : v ≤ (k * 2 ^ s : ℚ)) :
    w ≤ k * 2 ^ s := by
  obtain ⟨em, happrox, rfl⟩ := h
  have hpos : (0 : ℚ) < 2 ^ t := by positivity
  rw [← le_div_iff₀ hpos, units k hs]
  rw [← div_le_div_iff_of_pos_right hpos, units k hs] at hk
  exact_mod_cast happrox.roundedMantissa_le hk

theorem abs_sub_le (h : RoundsOn t v w) : |w - v| ≤ 2 ^ (t - 1) := by
  obtain ⟨em, happrox, rfl⟩ := h
  have hpos : (0 : ℚ) < 2 ^ t := by positivity
  have hv : v = v / 2 ^ t * 2 ^ t := (div_mul_cancel₀ v hpos.ne').symm
  have hhalf : (2 : ℚ) ^ (t - 1) = 1 / 2 * 2 ^ t := by
    rw [two_zpow_eq_twice t]
    ring
  rw [hv, ← sub_mul, abs_mul, abs_of_pos hpos, hhalf]
  exact mul_le_mul_of_nonneg_right happrox.abs_roundedMantissa_sub_le hpos.le

end RoundsOn

section Normal

variable {spec : Format} {v : ℚ} {m : Nat} {e : Int} {sign : Sign} {f : UnpackedFloat}

/-- From the least binade on that has all its mantissas, rounding gives a mantissa with all its
digits. -/
theorem RoundsTo.exists_normal {T : Int} (h : RoundsTo spec v sign f) (hT : InBinade v T)
    (hmin : spec.minExponent ≤ T - spec.mantissaBits) :
    ∃ m e hpos, f = .finite sign m e hpos ∧ m.log2 + 1 = spec.mantissaBits ∧
      T - spec.mantissaBits ≤ e ∧ e ≤ T - spec.mantissaBits + 1 ∧
      RoundsOn (T - spec.mantissaBits) v (m * 2 ^ e) := by
  obtain ⟨T', em, hT', happrox, rfl⟩ := h
  obtain rfl := hT.unique hT'
  have hbits := mantissaBits_eq spec
  have htarget : spec.targetExponent T = T - spec.mantissaBits := by
    rw [Format.targetExponent]
    omega
  rw [htarget] at happrox ⊢
  have hlow : 2 ^ spec.mantissaBitsWithoutImplicit ≤ em.roundedMantissa := by
    refine happrox.le_roundedMantissa ?_
    rw [le_div_iff₀ (by positivity), Nat.cast_pow, Nat.cast_ofNat, ← zpow_natCast,
      ← zpow_add₀ two_ne_zero]
    refine le_trans (le_of_eq ?_) hT.1
    congr 1
    omega
  have hhigh : em.roundedMantissa ≤ 2 ^ spec.mantissaBits :=
    happrox.roundedMantissa_le (htarget ▸ hT.lt_two_pow.le)
  have hzero : em.roundedMantissa ≠ 0 := (Nat.two_pow_pos _ |>.trans_le hlow).ne'
  have hrounds : RoundsOn (T - spec.mantissaBits) v
      (em.roundedMantissa * 2 ^ (T - spec.mantissaBits)) := ⟨em, happrox, rfl⟩
  by_cases hpower : em.roundedMantissa = 2 ^ spec.mantissaBits
  · refine ⟨_, _, _, by rw [unpacked, dif_neg hzero, if_pos hpower], ?_, by omega, by omega, ?_⟩
    · rw [Nat.log2_two_pow, hbits]
    · convert hrounds using 1
      rw [hpower, hbits, pow_succ, zpow_add₀ two_ne_zero]
      push_cast
      ring
  · refine ⟨_, _, _, by rw [unpacked, dif_neg hzero, if_neg hpower], ?_, by omega, by omega,
      hrounds⟩
    have hlog : em.roundedMantissa.log2 = spec.mantissaBitsWithoutImplicit :=
      (Nat.log2_eq_iff hzero).mpr ⟨hlow, hbits ▸ lt_of_le_of_ne hhigh hpower⟩
    rw [hlog, hbits]

/-- What is packed can be unpacked again, if the mantissa has all its digits and the exponent is in
the range of the format. -/
theorem unpack_pack_normal {hpos : 0 < m} (hlog : m.log2 + 1 = spec.mantissaBits)
    (hlow : 0 < e + spec.exponentBias + spec.mantissaBitsWithoutImplicit)
    (hhigh : e + spec.exponentBias + spec.mantissaBitsWithoutImplicit + 1 < 2 ^ spec.exponentBits) :
    unpack spec (pack spec (.finite sign m e hpos)) = .finite sign m e hpos := by
  obtain ⟨b, hb⟩ : ∃ b, b = (e + spec.exponentBias + spec.mantissaBitsWithoutImplicit).toNat :=
    ⟨_, rfl⟩
  have hbits := mantissaBits_eq spec
  obtain ⟨hmlow, hmhigh⟩ : 2 ^ spec.mantissaBitsWithoutImplicit ≤ m ∧
      m < 2 ^ (spec.mantissaBitsWithoutImplicit + 1) :=
    (Nat.log2_eq_iff hpos.ne').mp (by omega)
  have hb' : b + 1 < 2 ^ spec.exponentBits := by
    have : ((b : Int) + 1) < ((2 ^ spec.exponentBits : Nat) : Int) := by
      push_cast
      omega
    exact_mod_cast this
  have hexponent : (BitVec.ofNat spec.exponentBits b).toNat = b := by
    rw [BitVec.toNat_ofNat, Nat.mod_eq_of_lt (by omega)]
  have hones : BitVec.ofNat spec.exponentBits b ≠ -1#_ := by
    intro heq
    have := congrArg BitVec.toNat heq
    rw [hexponent, BitVec.neg_one_eq_allOnes, BitVec.toNat_allOnes] at this
    omega
  have hzeros : BitVec.ofNat spec.exponentBits b ≠ 0#_ := by
    intro heq
    have := congrArg BitVec.toNat heq
    rw [hexponent, BitVec.toNat_ofNat, Nat.zero_mod] at this
    omega
  have hmantissa : (1#1 ++ BitVec.ofNat spec.mantissaBitsWithoutImplicit m).toNat = m := by
    have hrest : m % 2 ^ spec.mantissaBitsWithoutImplicit =
        m - 2 ^ spec.mantissaBitsWithoutImplicit := by
      rw [Nat.mod_eq_sub_mod hmlow, Nat.mod_eq_of_lt (by rw [pow_succ] at hmhigh; omega)]
    have hvec : (BitVec.ofNat spec.mantissaBitsWithoutImplicit m).toNat =
        m - 2 ^ spec.mantissaBitsWithoutImplicit := by rw [BitVec.toNat_ofNat, hrest]
    rw [toNat_one_append, hvec]
    omega
  have hpacked : pack spec (.finite sign m e hpos) = packComponents spec sign
      (BitVec.ofNat spec.exponentBits b) (BitVec.ofNat spec.mantissaBitsWithoutImplicit m) := by
    rw [UnpackedFloat.pack]
    simp only [← hb]
    rw [if_neg (by omega), if_pos hlog]
  rw [hpacked, UnpackedFloat.unpack]
  simp only [unpackMantissa_packComponents, unpackExponent_packComponents,
    unpackSign_packComponents, Sign.ofBitVec_toBitVec]
  rw [if_neg hones, if_neg hzeros]
  simp only [hmantissa, hexponent, UnpackedFloat.finite.injEq, true_and]
  omega

end Normal

end SpriteStage
