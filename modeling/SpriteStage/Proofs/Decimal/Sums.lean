import SpriteStage.Proofs.Decimal.RoundTrip

/-!
# Rounded sums

What the sum and the difference of two numbers of 32 bits stand for. The module introduces:

* `IsRounded f v`: the unpacked number is `v`, rounded to 32 bits;
* `isRounded_add` and `isRounded_sub`: sums and differences are;
* `number?_pack`: what is rounded stands for the multiple of a power of two that is nearest to `v`,
  unless `v` is too large;
* `nonpos_iff` and `pos_iff`: floating point numbers have the signs of what they stand for.

The main statement is `IsRounded.nonpos_or_near_half`.
-/

namespace SpriteStage

open Float.Model Float.Model.UnpackedFloat

theorem le_of_two_zpow_le {s t : Int} (h : (2 : ℚ) ^ s ≤ 2 ^ t) : s ≤ t :=
  (zpow_le_zpow_iff_right₀ one_lt_two).mp h

/-- The unpacked number is `v`, rounded to 32 bits. -/
structure IsRounded (f : UnpackedFloat) (v : ℚ) : Prop where
  /-- A positive number is rounded to the nearest one. -/
  positive : 0 < v → RoundsTo .binary32 v .positive f
  /-- A negative number is rounded to the nearest one, with the other sign. -/
  negative : v < 0 → RoundsTo .binary32 (-v) .negative f
  /-- Zero is one of the two zeros. -/
  zero : v = 0 → ∃ sign, f = .zero sign

/-! ## Signs and values -/

section Signs

variable {x : Float32} {q : ℚ} {sign : Sign} {m : Nat} {e : Int}

/-- Numbers are unpacked as zeros or with a mantissa. -/
theorem unpack_of_number? (h : number? x = some q) :
    (∃ sign, x.toModel.unpack = .zero sign ∧ q = 0) ∨
      ∃ sign m e hpos, x.toModel.unpack = .finite sign m e hpos ∧
        q = (sign.apply m : Int) * 2 ^ e := by
  rw [number?] at h
  cases hx : x.toModel.unpack with
  | notANumber | infinity => simp [hx] at h
  | zero sign =>
    simp only [hx, Option.some.injEq] at h
    exact .inl ⟨sign, rfl, h.symm⟩
  | finite sign m e hpos =>
    simp only [hx, Option.some.injEq] at h
    exact .inr ⟨sign, m, e, hpos, rfl, h.symm⟩

theorem number?_of_finite {hpos : 0 < m} (h : x.toModel.unpack = .finite sign m e hpos) :
    number? x = some ((sign.apply m : Int) * 2 ^ e : ℚ) := by
  rw [number?, h]

theorem number?_of_zero (h : x.toModel.unpack = .zero sign) : number? x = some 0 := by
  rw [number?, h]

/-- The sign in front of a mantissa is that of the number. -/
theorem apply_mul_pos_iff (hpos : 0 < m) :
    (0 : ℚ) < (sign.apply m : Int) * 2 ^ e ↔ sign = .positive := by
  have hm : (0 : ℚ) < m := by exact_mod_cast hpos
  cases sign with
  | negative =>
    refine iff_of_false (not_lt.mpr ?_) nofun
    rw [apply_negative]
    push_cast
    exact mul_nonpos_of_nonpos_of_nonneg (by linarith) (by positivity)
  | positive =>
    refine iff_of_true ?_ rfl
    rw [apply_positive]
    push_cast
    positivity

/-- Floating point numbers are positive if they stand for positive numbers. -/
theorem pos_iff (h : number? x = some q) : 0 < x ↔ 0 < q := by
  rw [lt_iff_unpack, unpack_zero]
  obtain ⟨sign, hx, rfl⟩ | ⟨sign, m, e, hpos, hx, rfl⟩ := unpack_of_number? h
  · rw [hx]
    exact iff_of_false Bool.false_ne_true (lt_irrefl 0)
  · rw [hx, apply_mul_pos_iff hpos]
    cases sign with
    | negative => exact iff_of_false Bool.false_ne_true nofun
    | positive => exact iff_of_true rfl rfl

theorem nonpos_iff (h : number? x = some q) : x ≤ 0 ↔ q ≤ 0 := by
  rw [le_iff_unpack, unpack_zero]
  obtain ⟨sign, hx, rfl⟩ | ⟨sign, m, e, hpos, hx, rfl⟩ := unpack_of_number? h
  · rw [hx]
    exact iff_of_true rfl le_rfl
  · rw [hx, ← not_lt, apply_mul_pos_iff hpos]
    cases sign with
    | negative => exact iff_of_true rfl nofun
    | positive => exact iff_of_false Bool.false_ne_true (fun h => h rfl)

/-- What is not above zero stands for such a number, or it is infinite. -/
theorem number?_of_nonpos (h : x ≤ 0) :
    x.toModel.unpack = .infinity .negative ∨ ∃ q ≤ 0, number? x = some q := by
  have hnonpos := h
  rw [le_iff_unpack, unpack_zero] at h
  cases hx : x.toModel.unpack with
  | notANumber =>
    rw [hx] at h
    cases h
  | infinity sign =>
    cases sign with
    | negative => exact .inl rfl
    | positive =>
      rw [hx] at h
      cases h
  | zero sign => exact .inr ⟨0, le_rfl, number?_of_zero hx⟩
  | finite sign m e hpos =>
    have hnumber := number?_of_finite hx
    exact .inr ⟨_, (nonpos_iff hnumber).mp hnonpos, hnumber⟩

/-- A number with a negative sign is not above zero. -/
theorem HasSign.le_zero {f : UnpackedFloat} (h : HasSign f .negative) :
    f.le (.zero .positive) = true := by
  cases f with
  | notANumber => exact h.elim
  | infinity sign | zero sign | finite sign =>
    cases h
    rfl

end Signs

/-! ## Packing -/

section Packing

variable {v : ℚ} {T : Int} {sign : Sign} {m : Nat} {e : Int} {f : UnpackedFloat}

/-- What is packed can be unpacked again, also if the mantissa has fewer digits than there are
places for, as it may with the least exponent. -/
theorem unpack_pack_canonical (h : IsCanonical .binary32 m e) (hmax : e ≤ 104) :
    unpack .binary32 (pack .binary32 (.finite sign m e h.pos)) = .finite sign m e h.pos := by
  have hmin : -149 ≤ e := h.min_le
  have hlt : m < 2 ^ 24 := h.lt
  by_cases hlog : m.log2 = 23
  · refine unpack_pack_normal (congrArg (· + 1) hlog) ?_ ?_
    · simp only [exponentBias_binary32]
      omega
    · simp only [exponentBias_binary32]
      omega
  · have hfew : m < 2 ^ 23 := by
      rw [Nat.log2_eq_iff h.pos.ne'] at hlog
      omega
    obtain rfl : e = -149 := by
      by_contra hne
      have hfull : 2 ^ 23 ≤ m := h.full hne
      omega
    have hpacked : pack .binary32 (.finite sign m (-149) h.pos) =
        packComponents .binary32 sign 0#8 (BitVec.ofNat 23 m) := by
      rw [UnpackedFloat.pack]
      dsimp only
      rw [if_neg (by decide), if_neg (by rw [mantissaBits_binary32]; omega)]
    have hmantissa : (BitVec.ofNat 23 m).toNat = m := by
      rw [BitVec.toNat_ofNat, Nat.mod_eq_of_lt hfew]
    have hne : BitVec.ofNat 23 m ≠ 0#23 := by
      intro heq
      have := congrArg BitVec.toNat heq
      rw [hmantissa] at this
      exact h.pos.ne' this
    rw [hpacked, UnpackedFloat.unpack]
    simp only [unpackMantissa_packComponents, unpackExponent_packComponents,
      unpackSign_packComponents, Sign.ofBitVec_toBitVec]
    rw [if_neg (by decide), if_pos trivial, dif_neg hne]
    simp only [hmantissa]
    rfl

/-- What is rounded lies in a binade. -/
theorem RoundsTo.exists_inBinade {spec : Format} (h : RoundsTo spec v sign f) :
    ∃ T, InBinade v T := by
  obtain ⟨T, -, hT, -⟩ := h
  exact ⟨T, hT⟩

/-- What is rounded stands for a nearest multiple of the power of two that goes with its size. -/
theorem number?_pack (h : RoundsTo .binary32 v .positive f) (hT : InBinade v T) (hmax : T ≤ 127) :
    ∃ w, number? (.ofModel (.pack f)) = some w ∧
      RoundsOn (Format.binary32.targetExponent T) v w := by
  obtain ⟨T', em, hT', happrox, rfl⟩ := h
  obtain rfl := hT'.unique hT
  obtain ⟨t, ht⟩ : ∃ t, t = Format.binary32.targetExponent T' := ⟨_, rfl⟩
  have htarget : t = max (T' - 24) (-149) := ht.trans (targetExponent_binary32 T')
  rw [← ht] at happrox ⊢
  refine ⟨em.roundedMantissa * 2 ^ t, ?_, em, happrox, rfl⟩
  have hhigh : em.roundedMantissa ≤ 2 ^ 24 :=
    happrox.roundedMantissa_le (ht ▸ hT'.lt_two_pow.le)
  have hvalue {m : Nat} {e : Int} (hme : IsCanonical .binary32 m e) (hle : e ≤ 104) :
      number? (.ofModel (.pack (.finite .positive m e hme.pos))) = some (m * 2 ^ e : ℚ) := by
    exact number?_of_finite ((unpack_pack_model _).trans (unpack_pack_canonical hme hle))
  by_cases hzero : em.roundedMantissa = 0
  · rw [unpacked, dif_pos hzero, hzero, Nat.cast_zero, zero_mul]
    exact number?_of_zero ((unpack_pack_model _).trans unpack_packedZero)
  by_cases hpower : em.roundedMantissa = 2 ^ 24
  · -- A digit too much goes to the exponent.
    have hcanonical : IsCanonical .binary32 (2 ^ 23) (t + 1) :=
      ⟨by decide, by decide, by rw [minExponent_binary32]; omega, fun _ => le_rfl⟩
    rw [unpacked, dif_neg hzero, if_pos (by exact hpower), hpower]
    refine (hvalue hcanonical (by omega)).trans (congrArg some ?_)
    rw [zpow_add_one₀ two_ne_zero]
    push_cast
    ring
  · have hfull : t ≠ -149 → 2 ^ 23 ≤ em.roundedMantissa := by
      intro hne
      refine happrox.le_roundedMantissa ?_
      rw [le_div_iff₀ (by positivity), Nat.cast_pow, Nat.cast_ofNat, ← zpow_natCast,
        ← zpow_add₀ two_ne_zero]
      exact (zpow_le_zpow_right₀ one_le_two (by omega)).trans hT'.1
    have hcanonical : IsCanonical .binary32 em.roundedMantissa t :=
      ⟨Nat.pos_of_ne_zero hzero, lt_of_le_of_ne hhigh hpower, by rw [minExponent_binary32]; omega,
        hfull⟩
    rw [unpacked, dif_neg hzero, if_neg (by exact hpower)]
    exact hvalue hcanonical (by omega)

/-- What is rounded from a negative number is not above zero. -/
theorem nonpos_pack (h : RoundsTo .binary32 v .negative f) :
    Float32.ofModel (.pack f) ≤ 0 := by
  obtain ⟨T, em, -, -, rfl⟩ := h
  rw [le_iff_unpack, unpack_zero]
  refine HasSign.le_zero ?_
  rw [unpacked]
  split
  · have hzero : unpack .binary32 (pack .binary32 (.zero .negative)) = .zero .negative :=
      unpack_packedZero
    rw [unpack_pack_model, hzero]
    rfl
  · rw [unpack_pack_model]
    split
    · exact (unpack_pack_finite .negative _ (by positivity)).1
    · next hzero _ => exact (unpack_pack_finite .negative _ (Nat.pos_of_ne_zero hzero)).1

/-- What is not above a half does not get there by rounding, and it grows by half a unit of the
numbers below a half at most. -/
theorem IsRounded.nonpos_or_near_half (h : IsRounded f v) (hv : v ≤ 1 / 2) :
    Float32.ofModel (.pack f) ≤ 0 ∨ ∃ q, number? (.ofModel (.pack f)) = some q ∧
      0 < q ∧ q ≤ 1 / 2 ∧ q ≤ v + 2 ^ (-26 : Int) := by
  rcases lt_trichotomy v 0 with hneg | hzero | hpos
  · exact .inl (nonpos_pack (h.negative hneg))
  · obtain ⟨sign, rfl⟩ := h.zero hzero
    have hnumber : number? (.ofModel (.pack (.zero sign))) = some 0 :=
      number?_of_zero ((unpack_pack_model _).trans unpack_packedZero)
    exact .inl ((nonpos_iff hnumber).mpr le_rfl)
  · obtain ⟨T, hT⟩ := (h.positive hpos).exists_inBinade
    have hhalf : (1 / 2 : ℚ) = 2 ^ (-1 : Int) := by norm_num
    have hTmax : T - 1 ≤ -1 := le_of_two_zpow_le (hhalf ▸ hT.1.trans hv)
    obtain ⟨w, hnumber, hrounds⟩ := number?_pack (h.positive hpos) hT (by omega)
    have htarget := targetExponent_binary32 T
    have hle : w ≤ 1 / 2 := by
      have hmultiple := hrounds.le_of_le_multiple (s := -1) (k := 1) (by omega)
      norm_num at hmultiple
      exact one_div (2 : ℚ) ▸ hmultiple (by linarith)
    by_cases hwait : 0 < w
    · refine .inr ⟨w, hnumber, hwait, hle, ?_⟩
      obtain hlt | rfl := hv.lt_or_eq
      · -- Below a half, a unit of the last place is `2 ^ (-25)` at most.
        have hTlt : T - 1 < -1 := lt_of_two_zpow_lt (hhalf ▸ hT.1.trans_lt hlt)
        have hnear := (abs_le.mp hrounds.abs_sub_le).2
        have hunit : (2 : ℚ) ^ (Format.binary32.targetExponent T - 1) ≤ 2 ^ (-26 : Int) :=
          zpow_le_zpow_right₀ one_le_two (by omega)
        linarith
      · exact hle.trans (le_add_of_nonneg_right (by positivity))
    · exact .inl ((nonpos_iff hnumber).mpr (not_lt.mp hwait))

end Packing

/-! ## Sums and differences -/

section Sums

variable {x y : Float32} {p q : ℚ} {sign : Sign} {m : Nat} {e : Int}

/-- A mantissa with a sign is rounded to the nearest number. -/
theorem isRounded_normalize (k : Int) (e : Int) :
    IsRounded (normalize .binary32 k e .positive) (k * 2 ^ e) := by
  have hpow : (0 : ℚ) < 2 ^ e := by positivity
  rcases lt_trichotomy k 0 with hneg | rfl | hpos
  · have hlt : compare k 0 = .lt := compare_lt_iff_lt.mpr hneg
    have hvalue : (k * 2 ^ e : ℚ) < 0 := mul_neg_of_neg_of_pos (by exact_mod_cast hneg) hpow
    have habs : (-(k * 2 ^ e) : ℚ) = ((-k).toNat : Nat) * 2 ^ e := by
      have hk : (((-k).toNat : Int) : ℚ) = ((-k : Int) : ℚ) := by
        rw [Int.toNat_of_nonneg (by omega)]
      rw [← Int.cast_natCast, hk]
      push_cast
      ring
    rw [UnpackedFloat.normalize, hlt]
    refine ⟨fun h => absurd h hvalue.not_gt, fun _ => ?_, fun h => absurd h hvalue.ne⟩
    rw [habs]
    exact roundsTo_round (by omega) .negative e
  · rw [Int.cast_zero, zero_mul]
    exact ⟨fun h => absurd h (lt_irrefl 0), fun h => absurd h (lt_irrefl 0), fun _ => ⟨_, rfl⟩⟩
  · have hgt : compare k 0 = .gt := compare_gt_iff_gt.mpr hpos
    have hvalue : (0 : ℚ) < k * 2 ^ e := mul_pos (by exact_mod_cast hpos) hpow
    have habs : (k * 2 ^ e : ℚ) = (k.toNat : Nat) * 2 ^ e := by
      rw [← Int.cast_natCast, Int.toNat_of_nonneg hpos.le]
    rw [UnpackedFloat.normalize, hgt]
    refine ⟨fun _ => ?_, fun h => absurd h hvalue.not_gt, fun h => absurd h hvalue.ne'⟩
    rw [habs]
    exact roundsTo_round (by omega) .positive e

/-- A number lies in its own cell. -/
theorem contains_self (hm : 0 < m) : (Cell.of .binary32 m e).Contains (m * 2 ^ e) := by
  obtain ⟨hlow, hhigh⟩ := isProper_of (e := e) hm
  have hpow : (0 : ℚ) < 2 ^ (Cell.of .binary32 m e).exponent := by positivity
  rw [← number_of (m := m) (e := e), Cell.number]
  have hlow' : ((Cell.of .binary32 m e).low : ℚ) < (Cell.of .binary32 m e).value := by
    exact_mod_cast hlow
  have hhigh' : ((Cell.of .binary32 m e).value : ℚ) < (Cell.of .binary32 m e).high := by
    exact_mod_cast hhigh
  have hbelow := mul_lt_mul_of_pos_right hlow' hpow
  have habove := mul_lt_mul_of_pos_right hhigh' hpow
  exact ⟨⟨hbelow.le, habove.le⟩, fun _ => ⟨hbelow, habove⟩⟩

/-- A number of 32 bits is rounded to itself. -/
theorem roundsTo_self {hpos : 0 < m} (h : IsCanonical .binary32 m e) :
    RoundsTo .binary32 (m * 2 ^ e) sign (.finite sign m e hpos) := by
  have hround : RoundsTo .binary32 (m * 2 ^ e) sign (UnpackedFloat.round .binary32 sign m e) :=
    roundsTo_round h.pos.ne' sign e
  rwa [hround.eq_finite h (contains_self h.pos)] at hround

theorem isRounded_finite {hpos : 0 < m} (h : IsCanonical .binary32 m e) :
    IsRounded (.finite sign m e hpos) ((sign.apply m : Int) * 2 ^ e) := by
  have hvalue : (0 : ℚ) < m * 2 ^ e := mul_pos (by exact_mod_cast hpos) (by positivity)
  cases sign with
  | negative =>
    have habs : ((Sign.negative.apply m : Int) * 2 ^ e : ℚ) = -(m * 2 ^ e) := by
      rw [apply_negative]
      push_cast
      ring
    rw [habs]
    refine ⟨fun h => by linarith, fun _ => ?_, fun h => by linarith⟩
    rw [neg_neg]
    exact roundsTo_self h
  | positive =>
    refine ⟨fun _ => roundsTo_self h, fun h => ?_, fun h => ?_⟩
    · exact absurd h hvalue.not_gt
    · exact absurd h hvalue.ne'

theorem isRounded_unpack (h : number? x = some p) : IsRounded x.toModel.unpack p := by
  obtain ⟨sign, hx, rfl⟩ | ⟨sign, m, e, hpos, hx, rfl⟩ := unpack_of_number? h
  · rw [hx]
    exact ⟨fun h => absurd h (lt_irrefl 0), fun h => absurd h (lt_irrefl 0), fun _ => ⟨_, rfl⟩⟩
  · rw [hx]
    exact isRounded_finite (isCanonical_of_unpack hx).1

/-- The mantissa of a number that is brought to a smaller exponent. -/
theorem apply_shiftLeft (sign : Sign) (m : Nat) {e least : Int} (h : least ≤ e) :
    ((sign.apply (m <<< (e - least).toNat : Nat) : Int) * 2 ^ least : ℚ) =
      (sign.apply m : Int) * 2 ^ e := by
  have hshift : (m <<< (e - least).toNat : Nat) * (2 : ℚ) ^ least = m * 2 ^ e := by
    have hsteps : e = ((e - least).toNat : Int) + least := by omega
    conv_rhs => rw [hsteps, zpow_add₀ two_ne_zero, zpow_natCast]
    rw [Nat.shiftLeft_eq]
    push_cast
    ring
  generalize m <<< (e - least).toNat = n at hshift ⊢
  cases sign with
  | negative =>
    rw [apply_negative, apply_negative]
    push_cast
    rw [neg_mul, hshift, neg_mul]
  | positive =>
    rw [apply_positive, apply_positive]
    push_cast
    exact hshift

/-- Sums are rounded. -/
theorem isRounded_add (hx : number? x = some p) (hy : number? y = some q) :
    IsRounded (x.toModel.unpack.add .binary32 y.toModel.unpack) (p + q) := by
  have hxRounded := isRounded_unpack hx
  have hyRounded := isRounded_unpack hy
  obtain ⟨sign, hx', rfl⟩ | ⟨sign, m, e, hpos, hx', rfl⟩ := unpack_of_number? hx
  · rw [zero_add]
    obtain ⟨sign', hy', rfl⟩ | ⟨sign', m', e', hpos', hy', rfl⟩ := unpack_of_number? hy
    · rw [hx', hy', UnpackedFloat.add]
      split
      · exact hx' ▸ hxRounded
      · exact ⟨fun h => absurd h (lt_irrefl 0), fun h => absurd h (lt_irrefl 0), fun _ => ⟨_, rfl⟩⟩
    · rw [hy'] at hyRounded ⊢
      rw [hx']
      exact hyRounded
  · obtain ⟨sign', hy', rfl⟩ | ⟨sign', m', e', hpos', hy', rfl⟩ := unpack_of_number? hy
    · rw [hx'] at hxRounded ⊢
      rw [add_zero, hy']
      exact hxRounded
    · rw [hx', hy', UnpackedFloat.add]
      simp only [decreaseExponent]
      rw [← apply_shiftLeft sign m (min_le_left e e'),
        ← apply_shiftLeft sign' m' (min_le_right e e'),
        ← add_mul, ← Int.cast_add]
      exact isRounded_normalize _ _

/-- The opposite of a number. -/
theorem unpack_neg (h : number? x = some p) :
    (-x).toModel.unpack = x.toModel.unpack.neg ∧ number? (-x) = some (-p) := by
  have hneg : (-x).toModel.unpack = unpack .binary32 (pack .binary32 x.toModel.unpack.neg) := rfl
  obtain ⟨sign, hx, rfl⟩ | ⟨sign, m, e, hpos, hx, rfl⟩ := unpack_of_number? h
  · rw [hx] at hneg ⊢
    have hunpacked := hneg.trans unpack_packedZero
    exact ⟨hunpacked, neg_zero (G := ℚ) ▸ number?_of_zero hunpacked⟩
  · obtain ⟨hcanonical, hmax⟩ := isCanonical_of_unpack hx
    rw [hx] at hneg ⊢
    have hunpacked := hneg.trans (unpack_pack_canonical hcanonical hmax)
    refine ⟨hunpacked, (number?_of_finite hunpacked).trans (congrArg some ?_)⟩
    cases sign <;> simp [Sign.apply]

/-- Differences are rounded. -/
theorem isRounded_sub (hx : number? x = some p) (hy : number? y = some q) :
    IsRounded (x.toModel.unpack.sub .binary32 y.toModel.unpack) (p - q) := by
  obtain ⟨hunpacked, hneg⟩ := unpack_neg hy
  rw [sub_eq_add_opposite, ← hunpacked, sub_eq_add_neg]
  exact isRounded_add hx hneg

/-- A product with one is the other factor, whichever this is. -/
theorem seconds_mul_one (x : Float32) : x * 1 = x := by
  have hunpacked : x.toModel.unpack.mul .binary32 (.finite .positive (2 ^ 23) (-23) (by decide)) =
      x.toModel.unpack := by
    cases hx : x.toModel.unpack with
    | notANumber => rfl
    | infinity sign | zero sign => cases sign <;> rfl
    | finite sign m e hpos =>
      obtain ⟨hcanonical, -⟩ := isCanonical_of_unpack hx
      have htotal : totalExponent (m * 2 ^ 23) (e + -23) = totalExponent m e := by
        rw [totalExponent, totalExponent, log2_mul_two_pow hpos.ne']
        omega
      have htarget : e + -23 ≤ Format.binary32.targetExponent (totalExponent m e) := by
        have hdigits : totalExponent m e ≤
            Format.binary32.targetExponent (totalExponent m e) + (24 : Nat) := mantissaBits_le _ _
        have hdef := totalExponent.eq_1 m e
        omega
      have hround : RoundsTo .binary32 (m * 2 ^ e * ((2 ^ 23 : Nat) * 2 ^ (-23 : Int)))
          (sign * .positive) (UnpackedFloat.mul .binary32 (.finite sign m e hpos)
            (.finite .positive (2 ^ 23) (-23) (by decide))) :=
        roundsTo_mul hpos (by decide) (htotal ▸ htarget)
      have hvalue : (m * 2 ^ e * ((2 ^ 23 : Nat) * 2 ^ (-23 : Int)) : ℚ) = m * 2 ^ e := by
        norm_num
      rw [hvalue] at hround
      rw [hround.eq_finite hcanonical (contains_self hpos)]
      cases sign <;> rfl
  rw [mul_eq_ofModel]
  exact (congrArg (fun f => Float32.ofModel (.pack f)) hunpacked).trans (ofModel_pack_unpack x)

end Sums

end SpriteStage
