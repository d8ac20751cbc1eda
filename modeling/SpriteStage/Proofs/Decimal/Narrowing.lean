import SpriteStage.Settings.File
import SpriteStage.Proofs.Clock

/-!
# Narrowing time scales

A time scale is read with 64 bits and kept with 32. Rounding it once more keeps its sign, but a
number that is too large for 32 bits becomes infinite. The module introduces:

* `rational? x`: the number that a word of 64 bits stands for;
* `narrowLimit`: the number halfway between the greatest one of 32 bits and the next power of two;
* `Approximates em x`: what is left of `x` in a mantissa and its two residual bits, and
  `Approximates.roundedMantissa_lt_iff`, which tells from `x` whether the mantissa is rounded up to
  an even number;
* `round_cases`: the steps of rounding a number to 32 bits;
* `unpack_pack_round`: with 32 bits, the numbers below the limit are finite and no others.

The main statement is `narrow_of_isScale`.
-/

namespace SpriteStage

open Float.Model Float.Model.UnpackedFloat

/-- The number that a word of 64 bits stands for; those that are infinite or no number stand for
none. -/
def rational? (x : Float) : Option ℚ :=
  match x.toModel.unpack with
  | .zero _ => some 0
  | .finite sign mantissa exponent _ => some (sign.apply mantissa * 2 ^ exponent)
  | _ => none

/-- From here on, numbers are infinite with 32 bits. -/
def narrowLimit : ℚ := 2 ^ 128 - 2 ^ 103

/-! ## Residual bits -/

/-- The mantissa is `x` without its places behind the point: the round bit tells whether these make
up a half or more, and the sticky bit whether anything is left without the half. -/
def Approximates (em : ExtendedMantissa) (x : ℚ) : Prop :=
  match em.roundBit, em.stickyBit with
  | false, false => x = em.mantissa
  | false, true => em.mantissa < x ∧ x < em.mantissa + 1 / 2
  | true, false => x = em.mantissa + 1 / 2
  | true, true => em.mantissa + 1 / 2 < x ∧ x < em.mantissa + 1

/-- Rounding adds one at most. -/
theorem roundedMantissa_bounds (em : ExtendedMantissa) :
    em.mantissa ≤ em.roundedMantissa ∧ em.roundedMantissa ≤ em.mantissa + 1 := by
  obtain ⟨m, round, sticky⟩ := em
  cases round <;> cases sticky <;>
    simp [ExtendedMantissa.roundedMantissa, ExtendedMantissa.accuracy,
      Accuracy.roundToNearestEven]
  omega

namespace Approximates

variable {em : ExtendedMantissa} {x : ℚ}

/-- A shift by one place halves the number. -/
theorem shiftRightOne (h : Approximates em x) : Approximates em.shiftRightOne (x / 2) := by
  obtain ⟨m, round, sticky⟩ := em
  obtain ⟨k, rfl | rfl⟩ := m.even_or_odd'
  · have hhalf : 2 * k / 2 = k := by omega
    cases round <;> cases sticky <;>
      simp [Approximates, ExtendedMantissa.shiftRightOne, hhalf] at h ⊢ <;>
      (try constructor) <;> linarith
  · have hhalf : (2 * k + 1) / 2 = k := by omega
    cases round <;> cases sticky <;>
      simp [Approximates, ExtendedMantissa.shiftRightOne, hhalf] at h ⊢ <;>
      (try constructor) <;> linarith

theorem shiftRight (h : Approximates em x) (d : Nat) : Approximates (em >>> d) (x / 2 ^ d) := by
  induction d with
  | zero => simpa using h
  | succ d ih =>
    rw [shiftRight_succ, pow_succ, ← div_div]
    exact ih.shiftRightOne

/-- No more than the places behind the point is cut off. -/
theorem mantissa_le (h : Approximates em x) : em.mantissa ≤ x ∧ x < em.mantissa + 1 := by
  obtain ⟨m, round, sticky⟩ := em
  cases round <;> cases sticky <;> simp only [Approximates] at h ⊢ <;> constructor <;> linarith

/-- Rounding stays below an even number exactly if the number is more than a half below it: what
lies just halfway is rounded up to it. -/
theorem roundedMantissa_lt_iff (h : Approximates em x) (n : Nat) :
    em.roundedMantissa < 2 * n ↔ x < 2 * n - 1 / 2 := by
  obtain ⟨hlow, hhigh⟩ := h.mantissa_le
  obtain ⟨hdown, hup⟩ := roundedMantissa_bounds em
  obtain hm | hm | hm : em.mantissa + 2 ≤ 2 * n ∨ em.mantissa + 1 = 2 * n ∨ 2 * n ≤ em.mantissa :=
    by omega
  · have hm' : (em.mantissa : ℚ) + 2 ≤ 2 * n := by exact_mod_cast hm
    exact iff_of_true (by omega) (by linarith)
  · -- The mantissa is odd, so that it is rounded up exactly if its round bit is set.
    have hm' : (em.mantissa : ℚ) + 1 = 2 * n := by exact_mod_cast hm
    have hodd : em.mantissa % 2 = 1 := by omega
    rw [← hm, ← hm']
    obtain ⟨m, round, sticky⟩ := em
    simp only at hodd
    cases round <;> cases sticky <;>
      simp [Approximates, ExtendedMantissa.roundedMantissa, ExtendedMantissa.accuracy,
        Accuracy.roundToNearestEven, hodd] at h ⊢ <;> linarith
  · have hm' : (2 : ℚ) * n ≤ em.mantissa := by exact_mod_cast hm
    exact iff_of_false (by omega) (by linarith)

end Approximates

/-! ## Rounding to 32 bits -/

section Rounding

variable {m : Nat} {e : Int}

/-- Zeros at the end change the exponent only. -/
private theorem totalExponent_shiftLeft (hm : m ≠ 0) (e : Int) (d : Nat) :
    totalExponent (m <<< d) (e - d) = totalExponent m e := by
  rw [totalExponent, totalExponent, Nat.shiftLeft_eq, log2_mul_two_pow hm]
  omega

/-- The first of the two shifts leaves the number in units of the last place that is kept. -/
private theorem approximates_shift (e t : Int) :
    Approximates ((⟨m <<< (e - t).toNat, false, false⟩ : ExtendedMantissa) >>>
      (t - (e - (e - t).toNat)).toNat) (m * 2 ^ e / 2 ^ t : ℚ) := by
  have hexact : Approximates ⟨m <<< (e - t).toNat, false, false⟩ (m <<< (e - t).toNat : Nat) := rfl
  have hscaled : ((m <<< (e - t).toNat : Nat) : ℚ) / 2 ^ (t - (e - (e - t).toNat)).toNat =
      m * 2 ^ e / 2 ^ t := by
    have hexponents : ((e - t).toNat : Int) - ((t - (e - (e - t).toNat)).toNat : Int) = e - t := by
      omega
    rw [Nat.shiftLeft_eq, Nat.cast_mul, Nat.cast_pow, Nat.cast_ofNat, mul_div_assoc, mul_div_assoc,
      ← zpow_natCast, ← zpow_natCast, ← zpow_sub₀ two_ne_zero, ← zpow_sub₀ two_ne_zero, hexponents]
  exact hscaled ▸ hexact.shiftRight _

/-- The second shift drops what rounding up may have added to the digits, and no more. -/
private theorem shift_ne_zero {n : Nat} (hn : n ≠ 0) {d : Nat} (hd : d ≤ n.log2) :
    ((⟨n, false, false⟩ : ExtendedMantissa) >>> d).mantissa ≠ 0 := by
  have hexact : Approximates ⟨n, false, false⟩ n := rfl
  have hone : (1 : ℚ) ≤ n / 2 ^ d := by
    have hpow : 2 ^ d ≤ n := (Nat.pow_le_pow_right (by decide) hd).trans (Nat.log2_self_le hn)
    rw [le_div_iff₀ (by positivity), one_mul]
    exact_mod_cast hpow
  have hbelow := (hexact.shiftRight d).mantissa_le.2
  intro hzero
  rw [hzero] at hbelow
  norm_num at hbelow
  linarith

/-- The second shift takes place if rounding up has given the mantissa a digit too much. -/
private theorem roundWithAccuracy_cases {em : ExtendedMantissa} {t : Int}
    (hfirst : shiftToTargetExponent .binary32 m e .exact = (em, t)) (ht : -149 ≤ t) (sign : Sign) :
    em.roundedMantissa = 0 ∧ roundWithAccuracy .binary32 sign m e .exact = .zero sign ∨
      em.roundedMantissa ≠ 0 ∧ ∃ m' hpos, roundWithAccuracy .binary32 sign m e .exact =
        .finite sign m' (max t (em.roundedMantissa.log2 + t - 23)) hpos := by
  set n := em.roundedMantissa with hn
  set d := (max (n.log2 + 1 + t - 24) (-149) - t).toNat with hd
  have hsecond : shiftToTargetExponent .binary32 n t .exact =
      ((⟨n, false, false⟩ : ExtendedMantissa) >>> d, max t (n.log2 + t - 23)) := by
    have hexponent : t + (d : Int) = max t (n.log2 + t - 23) := by omega
    rw [shiftToTargetExponent, targetExponent_binary32, totalExponent, shiftToExponent, ← hd]
    simp only [ExtendedMantissa.ofMantissaAndAccuracy, hexponent]
  rw [roundWithAccuracy, hfirst]
  simp only [← hn, hsecond]
  by_cases hzero : n = 0
  · have hd0 : d = 0 := by
      rw [hzero] at hd
      simp only [Nat.log2_zero] at hd
      omega
    exact .inl ⟨hzero, dif_pos (by rw [hzero, hd0]; rfl)⟩
  · have hne := shift_ne_zero (d := d) hzero (by omega)
    exact .inr ⟨hzero, _, Nat.pos_of_ne_zero hne, dif_neg hne⟩

/-- Rounding brings a number to the exponent that goes with it, rounds the mantissa, and moves on to
a greater exponent if that gave the mantissa a digit too much. -/
theorem round_cases (hm : m ≠ 0) (sign : Sign) (e : Int) {t : Int}
    (ht : t = max (totalExponent m e - 24) (-149)) :
    ∃ em : ExtendedMantissa, Approximates em (m * 2 ^ e / 2 ^ t) ∧
      (em.roundedMantissa = 0 ∧ UnpackedFloat.round .binary32 sign m e = .zero sign ∨
        em.roundedMantissa ≠ 0 ∧ ∃ m' hpos, UnpackedFloat.round .binary32 sign m e =
          .finite sign m' (max t (em.roundedMantissa.log2 + t - 23)) hpos) := by
  refine ⟨_, approximates_shift e t, ?_⟩
  rw [UnpackedFloat.round, targetExponent_binary32, decreaseExponent, ← ht]
  refine roundWithAccuracy_cases ?_ (by omega) sign
  have hexponent : e - ((e - t).toNat : Int) + ((t - (e - (e - t).toNat)).toNat : Int) = t := by
    omega
  rw [shiftToTargetExponent, totalExponent_shiftLeft hm, targetExponent_binary32, shiftToExponent,
    ← ht]
  simp only [ExtendedMantissa.ofMantissaAndAccuracy, hexponent]

end Rounding

/-! ## Packing -/

/-- The number, which may be infinite, has this sign. -/
def HasSign : UnpackedFloat → Sign → Prop
  | .infinity sign', sign | .zero sign', sign | .finite sign' .., sign => sign' = sign
  | .notANumber, _ => False

/-- Positive numbers are not below zero. -/
theorem HasSign.zero_le {f : UnpackedFloat} (h : HasSign f .positive) :
    UnpackedFloat.le (.zero .positive) f = true := by
  cases f with
  | notANumber => exact h.elim
  | infinity sign | zero sign | finite sign =>
    cases h
    rfl

/-- A word whose exponent is not the greatest is finite. -/
private theorem unpack_packComponents (sign : Sign) {exponent : BitVec 8} (h : exponent ≠ -1#8)
    (mantissa : BitVec 23) :
    HasSign (unpack .binary32 (packComponents .binary32 sign exponent mantissa)) sign ∧
      (unpack .binary32 (packComponents .binary32 sign exponent mantissa)).isFinite = true := by
  rw [UnpackedFloat.unpack]
  simp only [unpackMantissa_packComponents, unpackExponent_packComponents,
    unpackSign_packComponents, Sign.ofBitVec_toBitVec]
  rw [if_neg h]
  split
  · split <;> exact ⟨rfl, rfl⟩
  · exact ⟨rfl, rfl⟩

/-- A word with the greatest exponent and no mantissa is infinite. -/
private theorem unpack_packedInfinity (sign : Sign) :
    unpack .binary32 (packedInfinity .binary32 sign) = .infinity sign := by
  rw [packedInfinity, UnpackedFloat.unpack]
  simp only [unpackMantissa_packComponents, unpackExponent_packComponents,
    unpackSign_packComponents, Sign.ofBitVec_toBitVec]
  rfl

/-- Packing keeps the sign, and makes a number infinite if its exponent is too great. -/
theorem unpack_pack_finite (sign : Sign) {m : Nat} (e : Int) (hpos : 0 < m) :
    HasSign (unpack .binary32 (pack .binary32 (.finite sign m e hpos))) sign ∧
      ((unpack .binary32 (pack .binary32 (.finite sign m e hpos))).isFinite ↔ e < 105) := by
  rw [UnpackedFloat.pack]
  simp only [biased_binary32]
  by_cases he : e < 105
  · have hexponent : BitVec.ofNat 8 (e + 150).toNat ≠ -1#8 := by
      intro heq
      have htoNat := congrArg BitVec.toNat heq
      rw [BitVec.toNat_ofNat, BitVec.neg_one_eq_allOnes, BitVec.toNat_allOnes] at htoNat
      omega
    rw [if_neg (by omega)]
    split
    · obtain ⟨hsign, hfinite⟩ := unpack_packComponents sign hexponent (.ofNat 23 m)
      exact ⟨hsign, iff_of_true hfinite he⟩
    · obtain ⟨hsign, hfinite⟩ := unpack_packComponents sign (by decide : 0#8 ≠ -1#8) (.ofNat 23 m)
      exact ⟨hsign, iff_of_true hfinite he⟩
  · rw [if_pos (by omega), unpack_packedInfinity]
    exact ⟨rfl, iff_of_false Bool.false_ne_true he⟩

/-! ## Numbers that are finite with 32 bits -/

section Finite

variable {m : Nat}

/-- The number with this mantissa and exponent lies between two powers of two. -/
private theorem totalExponent_bounds (hm : m ≠ 0) (e : Int) :
    (2 : ℚ) ^ (totalExponent m e - 1) ≤ m * 2 ^ e ∧ (m * 2 ^ e : ℚ) < 2 ^ totalExponent m e := by
  have hpow : (0 : ℚ) < 2 ^ e := by positivity
  have hlow : (2 : ℚ) ^ m.log2 ≤ m := by exact_mod_cast Nat.log2_self_le hm
  have hhigh : (m : ℚ) < 2 ^ (m.log2 + 1) := by exact_mod_cast Nat.lt_log2_self
  have hbelow : totalExponent m e - 1 = (m.log2 : Int) + e := by
    rw [totalExponent]
    omega
  have habove : totalExponent m e = ((m.log2 + 1 : Nat) : Int) + e := by
    rw [totalExponent]
    omega
  rw [hbelow, habove, zpow_add₀ two_ne_zero, zpow_add₀ two_ne_zero, zpow_natCast, zpow_natCast]
  exact ⟨by gcongr, by gcongr⟩

/-- The exponent after rounding stays in the range of 32 bits exactly if the number is below the
limit. -/
private theorem exponent_lt_iff {em : ExtendedMantissa} {v : ℚ} {T t : Int}
    (ht : t = max (T - 24) (-149)) (hlow : 2 ^ (T - 1) ≤ v) (hhigh : v < 2 ^ T)
    (happrox : Approximates em (v / 2 ^ t)) (hne : em.roundedMantissa ≠ 0) :
    max t (em.roundedMantissa.log2 + t - 23) < 105 ↔ v < narrowLimit := by
  obtain hT | rfl | hT : T ≤ 127 ∨ T = 128 ∨ 129 ≤ T := by omega
  · -- The mantissa has at most one digit too much.
    have hunits : v / 2 ^ t < 2 * (2 ^ 23 + 1 : Nat) - 1 / 2 := by
      have hexact : (2 : ℚ) ^ T ≤ 2 ^ 24 * 2 ^ t := by
        rw [← zpow_natCast, ← zpow_add₀ two_ne_zero]
        exact zpow_le_zpow_right₀ one_le_two (by push_cast; omega)
      have hdigits : v / 2 ^ t < 2 ^ 24 :=
        (div_lt_iff₀ (by positivity)).mpr (hhigh.trans_le hexact)
      exact hdigits.trans (by norm_num)
    have hlog : em.roundedMantissa.log2 < 25 :=
      (Nat.log2_lt hne).mpr (((happrox.roundedMantissa_lt_iff _).mpr hunits).trans (by decide))
    have hpower : (2 : ℚ) ^ T ≤ 2 ^ (127 : Int) := zpow_le_zpow_right₀ one_le_two hT
    have hlimit : (2 : ℚ) ^ (127 : Int) < narrowLimit := by norm_num [narrowLimit]
    exact iff_of_true (by omega) ((hhigh.trans_le hpower).trans hlimit)
  · -- The limit is half a unit below the next power of two, and halves go to even.
    obtain rfl : t = 104 := ht
    have hunits : v / 2 ^ (104 : Int) < 2 * (2 ^ 23 : Nat) - 1 / 2 ↔ v < narrowLimit := by
      rw [div_lt_iff₀ (by positivity), narrowLimit]
      norm_num
    rw [← hunits, ← happrox.roundedMantissa_lt_iff, ← pow_succ', ← Nat.log2_lt hne]
    omega
  · have hpower : (2 : ℚ) ^ (128 : Int) ≤ 2 ^ (T - 1) := zpow_le_zpow_right₀ one_le_two (by omega)
    have hlimit : narrowLimit < (2 : ℚ) ^ (128 : Int) := by norm_num [narrowLimit]
    exact iff_of_false (by omega) (not_lt.mpr (by linarith))

/-- Only numbers far below the limit are rounded to zero. -/
private theorem lt_narrowLimit_of_roundedMantissa_eq_zero {em : ExtendedMantissa} {v : ℚ}
    {T t : Int} (ht : t = max (T - 24) (-149)) (hlow : 2 ^ (T - 1) ≤ v) (hhigh : v < 2 ^ T)
    (happrox : Approximates em (v / 2 ^ t)) (hzero : em.roundedMantissa = 0) : v < narrowLimit := by
  have hunits : v / 2 ^ t < 2 := by
    have := (happrox.roundedMantissa_lt_iff 1).mp (by omega)
    push_cast at this
    linarith
  have hscaled : (2 : ℚ) ^ (T - 1) < 2 ^ (1 + t) := by
    rw [zpow_add₀ two_ne_zero, zpow_one]
    exact hlow.trans_lt ((div_lt_iff₀ (by positivity)).mp hunits)
  have hexponents : T - 1 < 1 + t := (zpow_lt_zpow_iff_right₀ one_lt_two).mp hscaled
  have hpower : (2 : ℚ) ^ T ≤ 2 ^ (127 : Int) := zpow_le_zpow_right₀ one_le_two (by omega)
  have hlimit : (2 : ℚ) ^ (127 : Int) < narrowLimit := by norm_num [narrowLimit]
  exact (hhigh.trans_le hpower).trans hlimit

/-- A number is finite after it was rounded to 32 bits if it lies below the limit, and only then. It
keeps its sign in any case. -/
theorem unpack_pack_round (hm : m ≠ 0) (sign : Sign) (e : Int) :
    HasSign (unpack .binary32 (pack .binary32 (UnpackedFloat.round .binary32 sign m e))) sign ∧
      ((unpack .binary32 (pack .binary32 (UnpackedFloat.round .binary32 sign m e))).isFinite ↔
        (m * 2 ^ e : ℚ) < narrowLimit) := by
  obtain ⟨t, ht⟩ : ∃ t, t = max (totalExponent m e - 24) (-149) := ⟨_, rfl⟩
  obtain ⟨em, happrox, hround⟩ := round_cases hm sign e ht
  obtain ⟨hlow, hhigh⟩ := totalExponent_bounds hm e
  obtain ⟨hzero, hround⟩ | ⟨hne, m', hpos, hround⟩ := hround
  · rw [hround, show pack .binary32 (.zero sign) = packedZero .binary32 sign from rfl,
      unpack_packedZero]
    exact ⟨rfl, iff_of_true rfl
      (lt_narrowLimit_of_roundedMantissa_eq_zero ht hlow hhigh happrox hzero)⟩
  · obtain ⟨hsign, hfinite⟩ :=
      unpack_pack_finite sign (max t (em.roundedMantissa.log2 + t - 23)) hpos
    rw [hround]
    exact ⟨hsign, hfinite.trans (exponent_lt_iff ht hlow hhigh happrox hne)⟩

end Finite

/-! ## Time scales -/

/-- Whether a number can be a time scale shows when it is unpacked. -/
theorem isScale_iff {x : Float} :
    isScale x = true ↔ x.toModel.unpack.isFinite = true ∧
      UnpackedFloat.le (.zero .positive) x.toModel.unpack = true := by
  rw [isScale, Bool.and_eq_true, decide_eq_true_iff, zero_le_iff_unpack]
  exact Iff.rfl

/-- Time scales are the two zeros and the positive numbers that are finite. -/
private theorem unpack_of_isScale {x : Float} (h : isScale x = true) :
    (∃ sign, x.toModel.unpack = .zero sign) ∨
      ∃ m e hpos, x.toModel.unpack = .finite .positive m e hpos := by
  obtain ⟨hfinite, hle⟩ := isScale_iff.mp h
  cases hx : x.toModel.unpack with
  | notANumber | infinity sign =>
    rw [hx] at hfinite
    cases hfinite
  | zero sign => exact .inl ⟨sign, rfl⟩
  | finite sign m e hpos =>
    cases sign with
    | negative =>
      rw [hx] at hle
      cases hle
    | positive => exact .inr ⟨m, e, hpos, rfl⟩

/-- A narrowed time scale is not negative, and it is finite exactly if it was below the limit. -/
theorem narrow_of_isScale {x : Float} (h : isScale x = true) :
    0 ≤ x.narrow ∧ ∃ v, rational? x = some v ∧ (x.narrow.isFinite = true ↔ v < narrowLimit) := by
  obtain ⟨sign, hx⟩ | ⟨m, e, hpos, hx⟩ := unpack_of_isScale h
  · have hpacked : unpack .binary32 (pack .binary32 (.zero sign)) = .zero sign := unpack_packedZero
    have hlimit : (0 : ℚ) < narrowLimit := by norm_num [narrowLimit]
    rw [le_iff_unpack, isFinite_iff_unpack, Float.narrow, rational?, hx]
    simp only [unpack_pack_model, unpack_zero, hpacked]
    refine ⟨?_, 0, rfl, iff_of_true rfl hlimit⟩
    cases sign <;> rfl
  · obtain ⟨hsign, hfinite⟩ := unpack_pack_round hpos.ne' .positive e
    rw [le_iff_unpack, isFinite_iff_unpack, Float.narrow, rational?, hx]
    simp only [unpack_pack_model, unpack_zero]
    exact ⟨hsign.zero_le, _, rfl, hfinite⟩

end SpriteStage
