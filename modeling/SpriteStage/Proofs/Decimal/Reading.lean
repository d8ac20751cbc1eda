import SpriteStage.Proofs.Decimal.Nearest

/-!
# Reading decimals

A decimal of the middle range is read as the nearest word of 64 bits, whichever way it is computed:
short decimals by one operation on two words that are exact, all others by one on whole numbers. The
module introduces:

* `IsNearest`: a word is the nearest one to a number of the middle range;
* `unpack_toFloat` and `unpack_powerOfTen`: the words that are exact;
* `isNearest_ofScientific_of_small` and `isNearest_ofScientific_of_large`: the two ways.

The main statement is `isNearest_roundDecimal`.
-/

namespace SpriteStage

open Float.Model Float.Model.UnpackedFloat

/-! ## Words of 64 bits -/

/-- Packing a mantissa with all its digits into a word loses nothing. -/
theorem unpack_pack_word {sign : Sign} {m : Nat} {e : Int} {hpos : 0 < m} (hlog : m.log2 = 52)
    (hlow : -1075 < e) (hhigh : e < 972) :
    unpack .binary64 (pack .binary64 (.finite sign m e hpos)) = .finite sign m e hpos := by
  refine unpack_pack_normal (by rw [hlog]; rfl) ?_ ?_
  · simp only [exponentBias_binary64]
    omega
  · simp only [exponentBias_binary64]
    omega

/-- The word is the nearest one to a positive number in this binade, and its mantissa has all its
digits. -/
def IsNearest (x : Float) (v : ℚ) (T : Int) : Prop :=
  ∃ m e hpos, x.toModel.unpack = .finite .positive m e hpos ∧ m.log2 = 52 ∧
    T - 53 ≤ e ∧ e ≤ T - 52 ∧ RoundsOn (T - 53) v (m * 2 ^ e)

section Words

variable {v : ℚ} {T : Int} {f : UnpackedFloat}

/-- A number of the middle range, packed into a word of 64 bits. -/
theorem isNearest_pack (h : RoundsTo .binary64 v .positive f) (hT : InBinade v T)
    (hmin : -200 ≤ T) (hmax : T ≤ 200) : IsNearest (.ofModel (.pack f)) v T := by
  have hleast := minExponent_binary64
  have hbits := mantissaBits_binary64
  obtain ⟨m, e, hpos, rfl, hlog, hlow, hhigh, hrounds⟩ := h.exists_normal hT (by omega)
  rw [hbits] at hlog hlow hhigh hrounds
  exact ⟨m, e, hpos, unpack_pack_word (by omega) (by omega) (by omega), by omega, hlow, by omega,
    hrounds⟩

/-- Whole numbers of at most 53 digits are kept exactly. -/
theorem unpack_toFloat {c : Nat} (hc : c ≠ 0) (hc' : c < 2 ^ 53) :
    ∃ m e hpos, c.toUInt64.toFloat.toModel.unpack = .finite .positive m e hpos ∧
      m.log2 = 52 ∧ -52 ≤ e ∧ e ≤ 1 ∧ (m * 2 ^ e : ℚ) = c := by
  have hvalue : c.toUInt64.toNat = c := Nat.mod_eq_of_lt (hc'.trans (by decide))
  have hfloat : c.toUInt64.toFloat =
      .ofModel (.pack (UnpackedFloat.round .binary64 .positive c 0)) := by
    have hcompare : compare (c : Int) 0 = .gt := compare_gt_iff_gt.mpr (by omega)
    rw [toFloat_eq_ofModel, hvalue, UnpackedFloat.normalize, hcompare]
    rfl
  have hbinade : InBinade c (totalExponent c 0) :=
    inBinade_of_approximates hc (approximates_exact (by simp))
  have hrounds : RoundsTo .binary64 c .positive (UnpackedFloat.round .binary64 .positive c 0) := by
    simpa using roundsTo_round hc .positive 0
  have hlog : c.log2 < 53 := (Nat.log2_lt hc).mpr hc'
  have htotal : totalExponent c 0 = c.log2 + 1 := by simp [totalExponent]
  obtain ⟨m, e, hpos, hunpack, hm, hlow, hhigh, hon⟩ :=
    isNearest_pack hrounds hbinade (by omega) (by omega)
  have hexact : (m * 2 ^ e : ℚ) = c := by
    have hle := hon.le_of_le_multiple (k := c) (s := 0) (by omega) (by simp)
    have hge := hon.le_of_multiple_le (k := c) (s := 0) (by omega) (by simp)
    simp only [zpow_zero, mul_one] at hle hge
    exact le_antisymm hle hge
  exact ⟨m, e, hpos, hfloat ▸ hunpack, hm, by omega, by omega, hexact⟩

/-- The unpacked number is this power of ten, and its mantissa has all its digits. -/
def isPowerOfTen (i : Nat) : UnpackedFloat → Bool
  | .finite .positive m e _ =>
    m.log2 = 52 && -52 ≤ e && e ≤ 21 && m * 2 ^ (e + 52).toNat = 10 ^ i * 2 ^ 52
  | _ => false

/-- The powers of ten that are kept as words are exact. -/
theorem unpack_powerOfTen (i : Fin 23) :
    ∃ m e hpos, Float.exactlyRepresentablePowersOfTen[i].toModel.unpack =
        .finite .positive m e hpos ∧
      m.log2 = 52 ∧ -52 ≤ e ∧ e ≤ 21 ∧ (m * 2 ^ e : ℚ) = 10 ^ (i : Nat) := by
  have hall : ∀ i : Fin 23,
      isPowerOfTen i Float.exactlyRepresentablePowersOfTen[i].toModel.unpack = true := by
    decide +kernel
  have hi := hall i
  cases hunpack : Float.exactlyRepresentablePowersOfTen[i].toModel.unpack with
  | notANumber | infinity | zero =>
    rw [hunpack] at hi
    cases hi
  | finite sign m e hpos =>
    rw [hunpack] at hi
    cases sign with
    | negative => cases hi
    | positive =>
      simp only [isPowerOfTen, Bool.and_eq_true, decide_eq_true_eq] at hi
      obtain ⟨⟨⟨hlog, hlow⟩, hhigh⟩, hvalue⟩ := hi
      refine ⟨m, e, hpos, rfl, hlog, hlow, hhigh, ?_⟩
      have hvalue' : (m : ℚ) * 2 ^ (e + 52).toNat = 10 ^ (i : Nat) * 2 ^ 52 := by
        exact_mod_cast hvalue
      have hpower : (2 : ℚ) ^ (e + 52).toNat = 2 ^ e * 2 ^ 52 := by
        have hd : (((e + 52).toNat : Nat) : Int) = e + (52 : Nat) := by omega
        rw [← zpow_natCast, hd, zpow_add₀ two_ne_zero, zpow_natCast]
      rw [hpower, ← mul_assoc] at hvalue'
      exact mul_right_cancel₀ (by positivity) hvalue'

/-- The sign and the size of a power say which power it is. -/
theorem ite_natAbs_eq (p : Int) :
    (if decide (p < 0) = true then Int.negOfNat p.natAbs else Int.ofNat p.natAbs) = p := by
  by_cases hp : p < 0
  · rw [if_pos (decide_eq_true hp), Int.negOfNat_eq, Int.ofNat_eq_natCast]
    omega
  · rw [if_neg (by simpa using hp), Int.ofNat_eq_natCast]
    omega

/-- A power of ten divides or multiplies. -/
theorem mul_zpow_ten (c : ℚ) (p : Int) :
    c * 10 ^ p = if p < 0 then c / 10 ^ p.natAbs else c * 10 ^ p.natAbs := by
  split
  · next hp =>
    have hp' : p = -(p.natAbs : Int) := by omega
    conv_lhs => rw [hp', zpow_neg, zpow_natCast]
    rw [div_eq_mul_inv]
  · next hp =>
    have hp' : p = (p.natAbs : Int) := by omega
    conv_lhs => rw [hp', zpow_natCast]

variable {c : Nat} {p : Int}

/-- Short decimals are the quotient or product of two words, both of them exact. -/
theorem isNearest_ofScientific_of_small (hc : c ≠ 0) (hsmall : c < 2 ^ 53 ∧ p.natAbs ≤ 22)
    (hT : InBinade (c * 10 ^ p) T) (hmin : -200 ≤ T) (hmax : T ≤ 200) :
    IsNearest (.ofScientific c (p < 0) p.natAbs) (c * 10 ^ p) T := by
  obtain ⟨m₁, e₁, h₁, hunpack₁, hlog₁, hlow₁, hhigh₁, hvalue₁⟩ := unpack_toFloat hc hsmall.1
  obtain ⟨m₂, e₂, h₂, hunpack₂, hlog₂, hlow₂, hhigh₂, hvalue₂⟩ :=
    unpack_powerOfTen ⟨p.natAbs, Nat.lt_succ_of_le hsmall.2⟩
  have hleast := minExponent_binary64
  have hbits := mantissaBits_binary64
  have hvalue := mul_zpow_ten c p
  rw [Float.ofScientific, dif_pos hsmall]
  by_cases hp : p < 0
  · have hrounds : RoundsTo .binary64 (m₁ * 2 ^ e₁ / (m₂ * 2 ^ e₂)) .positive
        (UnpackedFloat.div .binary64 (.finite .positive m₁ e₁ h₁) (.finite .positive m₂ e₂ h₂)) :=
      roundsTo_div h₁ h₂ (by rw [totalExponent, totalExponent, hlog₁, hlog₂]; omega)
    rw [hvalue₁, hvalue₂, ← hunpack₁, ← hunpack₂] at hrounds
    rw [if_pos hp] at hvalue
    rw [if_pos (decide_eq_true hp)]
    rw [hvalue] at hT ⊢
    exact isNearest_pack hrounds hT hmin hmax
  · have hlog : 104 ≤ (m₁ * m₂).log2 := by
      have hlow₁ := Nat.log2_self_le h₁.ne'
      have hlow₂ := Nat.log2_self_le h₂.ne'
      rw [hlog₁] at hlow₁
      rw [hlog₂] at hlow₂
      have hlow := Nat.mul_le_mul hlow₁ hlow₂
      rw [← pow_add] at hlow
      exact (Nat.le_log2 (mul_pos h₁ h₂).ne').mpr hlow
    have hrounds : RoundsTo .binary64 (m₁ * 2 ^ e₁ * (m₂ * 2 ^ e₂)) .positive
        (UnpackedFloat.mul .binary64 (.finite .positive m₁ e₁ h₁) (.finite .positive m₂ e₂ h₂)) :=
      roundsTo_mul h₁ h₂ (by rw [totalExponent, Format.targetExponent]; omega)
    rw [hvalue₁, hvalue₂, ← hunpack₁, ← hunpack₂] at hrounds
    rw [if_neg hp] at hvalue
    rw [if_neg (by simpa using hp)]
    rw [hvalue] at hT ⊢
    exact isNearest_pack hrounds hT hmin hmax

/-- Decimals that are not short are quotients or products of whole numbers, rounded once. -/
theorem isNearest_ofScientific_of_large (hc : c ≠ 0) (hlarge : ¬ (c < 2 ^ 53 ∧ p.natAbs ≤ 22))
    (hp : p.natAbs ≤ 200) (hT : InBinade (c * 10 ^ p) T) (hmin : -200 ≤ T) (hmax : T ≤ 200) :
    IsNearest (.ofScientific c (p < 0) p.natAbs) (c * 10 ^ p) T := by
  have hpower {k : Nat} : (10 ^ k).log2 < 4 * k + 1 := by
    refine (Nat.log2_lt (by positivity)).mpr ?_
    calc 10 ^ k ≤ 16 ^ k := Nat.pow_le_pow_left (by decide) k
      _ = 2 ^ (4 * k) := by rw [pow_mul]; rfl
      _ < 2 ^ (4 * k + 1) := Nat.pow_lt_pow_right (by decide) (by omega)
  have hleast := minExponent_binary64
  have hbits := mantissaBits_binary64
  have hvalue := mul_zpow_ten c p
  rw [Float.ofScientific, dif_neg hlarge]
  simp only [ite_natAbs_eq]
  refine isNearest_pack ?_ hT hmin hmax
  rw [UnpackedFloat.ofScientific, dif_neg hc, if_neg (by dsimp only; omega),
    if_neg (by dsimp only; omega)]
  by_cases hneg : p < 0
  · have hp' : (-p).toNat = p.natAbs := by omega
    have hpower' := hpower (k := p.natAbs)
    have hrounds : RoundsTo .binary64 (c * 2 ^ (0 : Int) / ((10 ^ p.natAbs : Nat) * 2 ^ (0 : Int)))
        .positive (UnpackedFloat.div .binary64 (.finite .positive c 0 (Nat.pos_of_ne_zero hc))
          (.finite .positive (10 ^ p.natAbs) 0 (by positivity))) :=
      roundsTo_div _ _ (by rw [totalExponent, totalExponent]; omega)
    rw [if_pos hneg] at hvalue
    rw [if_neg (by omega), hvalue]
    simp only [hp']
    simpa using hrounds
  · have hp' : p.toNat = p.natAbs := by omega
    have hproduct : 2 ^ 53 ≤ c <<< 53 * 10 ^ p.natAbs := by
      rw [Nat.shiftLeft_eq, mul_right_comm]
      exact Nat.le_mul_of_pos_left _ (by positivity)
    have hlog : 53 ≤ (c <<< 53 * 10 ^ p.natAbs).log2 :=
      (Nat.le_log2 ((Nat.two_pow_pos 53).trans_le hproduct).ne').mpr hproduct
    have hshift : ((c <<< 53 : Nat) : ℚ) * 2 ^ (-53 : Int) = c := by
      rw [Nat.shiftLeft_eq, zpow_neg]
      push_cast
      exact mul_inv_cancel_right₀ (by positivity) _
    have hrounds : RoundsTo .binary64 ((c <<< 53 : Nat) * 2 ^ (-53 : Int) *
        ((10 ^ p.natAbs : Nat) * 2 ^ (0 : Int))) .positive
        (UnpackedFloat.mul .binary64
          (.finite .positive (c <<< 53) (-53) (by simpa [Nat.pos_iff_ne_zero]))
          (.finite .positive (10 ^ p.natAbs) 0 (by positivity))) :=
      roundsTo_mul _ _ (by rw [totalExponent, Format.targetExponent]; omega)
    rw [if_neg hneg] at hvalue
    rw [hshift, zpow_zero, mul_one, Nat.cast_pow, Nat.cast_ofNat, ← hvalue] at hrounds
    rw [if_pos (by omega)]
    simp only [hp']
    exact hrounds

end Words

/-- A decimal of the middle range is read as the nearest word of 64 bits. -/
theorem isNearest_roundDecimal {c : Nat} {p T : Int} (hT : InBinade (c * 10 ^ p) T)
    (hmin : -200 ≤ T) (hmax : T ≤ 200) (hp : -200 ≤ p) (hp' : p ≤ 0) :
    IsNearest (roundDecimal c p) (c * 10 ^ p) T := by
  have hc : c ≠ 0 := by
    rintro rfl
    have hpos : (0 : ℚ) < 2 ^ (T - 1) := by positivity
    have hle := hT.1
    rw [Nat.cast_zero, zero_mul] at hle
    exact absurd hle (not_le.mpr hpos)
  have hdigits : 0 < (Nat.toDigits 10 c).length := Nat.length_toDigits_pos
  have htop : (Nat.toDigits 10 c).length + p ≤ 100 := by
    have hlt : (c : ℚ) < (10 ^ (100 - p).toNat : Nat) := by
      have hpower : ((10 ^ (100 - p).toNat : Nat) : ℚ) = 10 ^ (100 : Int) / 10 ^ p := by
        have hd : (((100 - p).toNat : Nat) : Int) = 100 - p := by omega
        rw [Nat.cast_pow, ← zpow_natCast, hd, Nat.cast_ofNat, zpow_sub₀ (by norm_num)]
      rw [hpower, lt_div_iff₀ (by positivity)]
      calc (c * 10 ^ p : ℚ) < 2 ^ T := hT.2
        _ ≤ 2 ^ (200 : Int) := zpow_le_zpow_right₀ one_le_two hmax
        _ < 10 ^ (100 : Int) := by norm_num
    have hlength := (Nat.length_toDigits_le_iff (by decide) (by omega)).mpr (Nat.cast_lt.mp hlt)
    omega
  rw [roundDecimal, if_neg (by omega), if_neg (by omega)]
  by_cases hsmall : c < 2 ^ 53 ∧ p.natAbs ≤ 22
  · exact isNearest_ofScientific_of_small hc hsmall hT hmin hmax
  · exact isNearest_ofScientific_of_large hc hsmall (by omega) hT hmin hmax

end SpriteStage
