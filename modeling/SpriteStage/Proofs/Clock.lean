import SpriteStage.Playback.Lane
import SpriteStage.Proofs.Floats

/-!
# Exact seconds

Floating point arithmetic rounds, but on multiples of one sixty-fourth of a second below `2 ^ 18` it
has no cause to: sums and differences of such numbers have few enough digits. The module introduces:

* `number?`: the rational number that a floating point number stands for;
* `Sixtyfourths x k`: `x` stands for `k / 64`, and `sixtyfourths_of_number?` finds such `k`;
* `Sixtyfourths.add`, `Sixtyfourths.sub` and `Sixtyfourths.nonpos_iff`: on them, arithmetic and
  comparison are those of the integers;
* `seconds_sub_zero` and `positivePart_zero_mul`: a tick of no length takes no time, on any numbers.

Inside, `OnGrid` says the same of a number that is unpacked into sign, mantissa and exponent.
-/

namespace SpriteStage

open Float.Model Float.Model.UnpackedFloat

/-- The number that a floating point number stands for; those that are infinite or no number stand
for none. -/
def number? (x : Float32) : Option ℚ :=
  match x.toModel.unpack with
  | .zero _ => some 0
  | .finite sign mantissa exponent _ => some (sign.apply mantissa * 2 ^ exponent)
  | _ => none

/-- The unpacked number is `k / 64`, and its mantissa has all 24 digits unless it is zero. -/
inductive OnGrid : UnpackedFloat → Int → Prop
  | zero (sign : Sign) : OnGrid (.zero sign) 0
  | finite {sign : Sign} {mantissa : Nat} {exponent k : Int} (hpos : 0 < mantissa)
      (hlog : mantissa.log2 = 23) (hmin : -149 ≤ exponent) (hmax : exponent ≤ -6)
      (hvalue : sign.apply mantissa = k * 2 ^ (-6 - exponent).toNat) :
      OnGrid (.finite sign mantissa exponent hpos) k

/-! ## Rounding -/

section Rounding

variable {m n : Nat} {e e' : Int}

theorem log2_mul_two_pow (hm : m ≠ 0) (d : Nat) : (m * 2 ^ d).log2 = m.log2 + d := by
  induction d with
  | zero => simp
  | succ d ih =>
    have hne : m * 2 ^ d ≠ 0 := by positivity
    rw [pow_succ, ← mul_assoc, mul_comm, Nat.log2_two_mul hne, ih, Nat.add_assoc]

/-- A mantissa with all 24 digits keeps its exponent. -/
private theorem targetExponent_eq (hlog : m.log2 = 23) (he : -149 ≤ e) :
    Format.binary32.targetExponent (totalExponent m e) = e := by
  rw [targetExponent_binary32, totalExponent, hlog]
  omega

/-- Zeros at the end are shifted out without a trace. -/
private theorem shift_mul_two_pow (m d : Nat) :
    (⟨m * 2 ^ d, false, false⟩ : ExtendedMantissa) >>> d = ⟨m, false, false⟩ := by
  induction d generalizing m with
  | zero => simp
  | succ d ih =>
    have hsplit : m * 2 ^ (d + 1) = m * 2 * 2 ^ d := by ring
    rw [shiftRight_succ, hsplit, ih]
    simp [ExtendedMantissa.shiftRightOne]

private theorem shiftToTargetExponent_eq (hpos : 0 < m) (hlog : m.log2 = 23) (he : -149 ≤ e)
    (d : Nat) :
    shiftToTargetExponent .binary32 (m * 2 ^ d) (e - d) .exact = (⟨m, false, false⟩, e) := by
  have htotal : totalExponent (m * 2 ^ d) (e - d) = totalExponent m e := by
    rw [totalExponent, totalExponent, log2_mul_two_pow hpos.ne']
    omega
  have hshift : (e - (e - d)).toNat = d := by omega
  rw [shiftToTargetExponent, htotal, targetExponent_eq hlog he, shiftToExponent, hshift]
  simp [ExtendedMantissa.ofMantissaAndAccuracy, shift_mul_two_pow]

private theorem roundWithAccuracy_eq (sign : Sign) (hpos : 0 < m) (hlog : m.log2 = 23)
    (he : -149 ≤ e) (d : Nat) :
    roundWithAccuracy .binary32 sign (m * 2 ^ d) (e - d) .exact = .finite sign m e hpos := by
  -- Nothing is lost in the first shift, so the mantissa is not rounded up and the second does not
  -- shift any more.
  have hrounded : (⟨m, false, false⟩ : ExtendedMantissa).roundedMantissa = m := rfl
  have hsecond := shiftToTargetExponent_eq hpos hlog he 0
  simp only [pow_zero, mul_one, Nat.cast_zero, sub_zero] at hsecond
  simp [roundWithAccuracy, shiftToTargetExponent_eq hpos hlog he d, hrounded, hsecond, hpos.ne']

/-- Rounding finds the full mantissa of a number that has one. -/
private theorem round_eq (sign : Sign) (hpos : 0 < m) (hlog : m.log2 = 23) (he : -149 ≤ e)
    (hsame : n * 2 ^ (e' - e).toNat = m * 2 ^ (e - e').toNat) :
    UnpackedFloat.round .binary32 sign n e' = .finite sign m e hpos := by
  have hn : n ≠ 0 := by
    rintro rfl
    have : 0 < m * 2 ^ (e - e').toNat := by positivity
    omega
  have htotal : totalExponent n e' = totalExponent m e := by
    have hlogs := congrArg Nat.log2 hsame
    rw [log2_mul_two_pow hn, log2_mul_two_pow hpos.ne'] at hlogs
    rw [totalExponent, totalExponent]
    omega
  rw [UnpackedFloat.round, htotal, targetExponent_eq hlog he, decreaseExponent]
  dsimp only
  rw [Nat.shiftLeft_eq, hsame]
  -- Either digits are added at the end, or they are taken away.
  have hexponent : e' - ((e' - e).toNat : Int) = e - ((e - e').toNat : Int) := by omega
  rw [hexponent]
  exact roundWithAccuracy_eq sign hpos hlog he _

/-- A number of few enough sixty-fourths is rounded without loss. -/
private theorem onGrid_round {k : Nat} (hk : k ≠ 0) (hmax : k < 2 ^ 24) (he : e ≤ -6)
    (sign : Sign) :
    OnGrid (UnpackedFloat.round .binary32 sign (k * 2 ^ (-6 - e).toNat) e) (sign.apply k) := by
  have hlog : k.log2 < 24 := (Nat.log2_lt hk).mpr hmax
  -- The mantissa is `k` with as many zeros as it takes to have all digits.
  have hpos : 0 < k * 2 ^ (23 - k.log2) := by positivity
  have hfull : (k * 2 ^ (23 - k.log2)).log2 = 23 := by
    rw [log2_mul_two_pow hk]
    omega
  have hsame : k * 2 ^ (-6 - e).toNat * 2 ^ (e - (k.log2 - 29)).toNat =
      k * 2 ^ (23 - k.log2) * 2 ^ ((k.log2 : Int) - 29 - e).toNat := by
    rw [mul_assoc, mul_assoc, ← pow_add, ← pow_add]
    congr 2
    omega
  rw [round_eq sign hpos hfull (by omega) hsame]
  have hshift : (-6 - ((k.log2 : Int) - 29)).toNat = 23 - k.log2 := by omega
  refine .finite hpos hfull (by omega) (by omega) ?_
  rw [hshift, Nat.cast_mul, apply_mul, Nat.cast_pow]
  rfl

/-- An integer of few enough sixty-fourths is normalized without loss. -/
private theorem onGrid_normalize {k : Int} (hk : k.natAbs < 2 ^ 24) (he : e ≤ -6)
    (sign : Sign) :
    OnGrid (UnpackedFloat.normalize .binary32 (k * 2 ^ (-6 - e).toNat) e sign) k := by
  have hpow : (0 : Int) < 2 ^ (-6 - e).toNat := by positivity
  rcases lt_trichotomy k 0 with hneg | rfl | hpos
  · have hlt : compare (k * 2 ^ (-6 - e).toNat) 0 = .lt :=
      compare_lt_iff_lt.mpr (mul_neg_of_neg_of_pos hneg hpow)
    have habs : -(k * 2 ^ (-6 - e).toNat) = ((k.natAbs * 2 ^ (-6 - e).toNat : Nat) : Int) := by
      have hk' : (k.natAbs : Int) = -k := by omega
      rw [Nat.cast_mul, hk', Nat.cast_pow, neg_mul]
      rfl
    have hround := onGrid_round (Int.natAbs_ne_zero.mpr hneg.ne) hk he .negative
    have hsign : Sign.negative.apply k.natAbs = k := by
      rw [apply_negative]
      omega
    rw [hsign] at hround
    rw [UnpackedFloat.normalize, hlt]
    dsimp only
    rwa [habs, Int.toNat_natCast]
  · rw [zero_mul]
    exact .zero sign
  · have hgt : compare (k * 2 ^ (-6 - e).toNat) 0 = .gt :=
      compare_gt_iff_gt.mpr (mul_pos hpos hpow)
    have habs : k * 2 ^ (-6 - e).toNat = ((k.natAbs * 2 ^ (-6 - e).toNat : Nat) : Int) := by
      have hk' : (k.natAbs : Int) = k := by omega
      rw [Nat.cast_mul, hk', Nat.cast_pow]
      rfl
    have hround := onGrid_round (Int.natAbs_ne_zero.mpr hpos.ne') hk he .positive
    have hsign : Sign.positive.apply k.natAbs = k := by
      rw [apply_positive]
      omega
    rw [hsign] at hround
    rw [UnpackedFloat.normalize, hgt]
    dsimp only
    rwa [habs, Int.toNat_natCast]

end Rounding

/-! ## Packing -/

/-- What is packed can be unpacked again. -/
theorem OnGrid.unpack_pack {f : UnpackedFloat} {k : Int} (h : OnGrid f k) :
    unpack .binary32 (pack .binary32 f) = f := by
  cases h with
  | zero sign => exact unpack_packedZero
  | @finite sign m e _ hpos hlog hmin hmax _ =>
    obtain ⟨hlow, hhigh⟩ : 2 ^ 23 ≤ m ∧ m < 2 ^ 24 := (Nat.log2_eq_iff hpos.ne').mp hlog
    have hexponent : (BitVec.ofNat 8 (e + 150).toNat).toNat = (e + 150).toNat := by
      rw [BitVec.toNat_ofNat]
      omega
    have hones : BitVec.ofNat 8 (e + 150).toNat ≠ -1#8 := by
      intro heq
      have := congrArg BitVec.toNat heq
      rw [hexponent, BitVec.neg_one_eq_allOnes, BitVec.toNat_allOnes] at this
      omega
    have hzeros : BitVec.ofNat 8 (e + 150).toNat ≠ 0#8 := by
      intro heq
      have := congrArg BitVec.toNat heq
      rw [hexponent, BitVec.toNat_ofNat, Nat.zero_mod] at this
      omega
    have hmantissa : (1#1 ++ BitVec.ofNat 23 m).toNat = m := by
      rw [toNat_one_append, BitVec.toNat_ofNat]
      omega
    have hpacked : pack .binary32 (.finite sign m e hpos) =
        packComponents .binary32 sign (BitVec.ofNat 8 (e + 150).toNat) (BitVec.ofNat 23 m) := by
      rw [UnpackedFloat.pack]
      simp only [hlog, biased_binary32]
      rw [if_neg (by omega)]
      exact if_pos rfl
    rw [hpacked, UnpackedFloat.unpack]
    simp only [unpackMantissa_packComponents, unpackExponent_packComponents,
      unpackSign_packComponents, Sign.ofBitVec_toBitVec]
    rw [if_neg hones, if_neg hzeros]
    simp only [hmantissa, hexponent, UnpackedFloat.finite.injEq, true_and, exponentBias_binary32]
    omega

/-! ## Sums and differences -/

section Arithmetic

variable {f g : UnpackedFloat} {k l : Int}

theorem OnGrid.neg (h : OnGrid f k) : OnGrid f.neg (-k) := by
  cases h with
  | zero sign => exact .zero _
  | @finite sign m e _ hpos hlog hmin hmax hvalue =>
    refine .finite hpos hlog hmin hmax ?_
    rw [apply_neg, hvalue, neg_mul]

theorem OnGrid.add (hf : OnGrid f k) (hg : OnGrid g l) (hsum : (k + l).natAbs < 2 ^ 24) :
    OnGrid (f.add .binary32 g) (k + l) := by
  cases hf with
  | zero sign =>
    cases hg with
    | zero sign' =>
      rw [UnpackedFloat.add]
      split
      · exact .zero _
      · exact .zero _
    | finite hpos hlog hmin hmax hvalue =>
      rw [zero_add]
      exact .finite hpos hlog hmin hmax hvalue
  | @finite sign m e _ hpos hlog hmin hmax hvalue =>
    cases hg with
    | zero sign' =>
      rw [add_zero]
      exact .finite hpos hlog hmin hmax hvalue
    | @finite sign' m' e' _ hpos' hlog' hmin' hmax' hvalue' =>
      -- Both summands are brought to the smaller exponent.
      have hshifted {sign : Sign} {m : Nat} {e k : Int} (hmax : e ≤ -6)
          (hvalue : sign.apply m = k * 2 ^ (-6 - e).toNat) {least : Int} (hleast : least ≤ e) :
          sign.apply (m <<< (e - least).toNat : Nat) = k * 2 ^ (-6 - least).toNat := by
        have hsteps : (-6 - least).toNat = (-6 - e).toNat + (e - least).toNat := by omega
        rw [Nat.shiftLeft_eq, Nat.cast_mul, apply_mul, hvalue, hsteps, pow_add, Nat.cast_pow,
          mul_assoc]
        rfl
      rw [UnpackedFloat.add]
      simp only [decreaseExponent]
      rw [hshifted hmax hvalue (min_le_left e e'), hshifted hmax' hvalue' (min_le_right e e'),
        ← add_mul]
      exact onGrid_normalize hsum ((min_le_left e e').trans hmax) .positive

theorem OnGrid.sub (hf : OnGrid f k) (hg : OnGrid g l) (hdiff : (k - l).natAbs < 2 ^ 24) :
    OnGrid (f.sub .binary32 g) (k - l) := by
  rw [sub_eq_add_opposite]
  exact hf.add hg.neg hdiff

/-- The sign in front of the mantissa is that of the number. -/
private theorem sign_eq {sign : Sign} {m : Nat} {k : Int} {d : Nat} (hpos : 0 < m)
    (hvalue : sign.apply m = k * 2 ^ d) :
    sign = .positive ∧ 0 < k ∨ sign = .negative ∧ k < 0 := by
  have hm : (0 : Int) < m := by omega
  have hpow : (0 : Int) < 2 ^ d := by positivity
  cases sign with
  | negative =>
    have hneg : k * 2 ^ d < 0 := by
      rw [← hvalue]
      exact neg_neg_of_pos hm
    exact .inr ⟨rfl, neg_of_mul_neg_left hneg hpow.le⟩
  | positive =>
    have hpos : 0 < k * 2 ^ d := by
      rw [← hvalue]
      exact hm
    exact .inl ⟨rfl, pos_of_mul_pos_left hpos hpow.le⟩

private theorem OnGrid.compare_zero (h : OnGrid f k) :
    f.compare (.zero .positive) = some (compare k 0) ∧
      UnpackedFloat.compare (.zero .positive) f = some (compare 0 k) := by
  cases h with
  | zero sign => exact ⟨rfl, rfl⟩
  | finite hpos hlog hmin hmax hvalue =>
    rcases sign_eq hpos hvalue with ⟨rfl, hk⟩ | ⟨rfl, hk⟩
    · rw [compare_gt_iff_gt.mpr hk, compare_lt_iff_lt.mpr hk]
      exact ⟨rfl, rfl⟩
    · rw [compare_lt_iff_lt.mpr hk, compare_gt_iff_gt.mpr hk]
      exact ⟨rfl, rfl⟩

end Arithmetic

/-! ## Floating point numbers -/

theorem unpack_pacingInterval :
    pacingInterval.toModel.unpack = .finite .positive (2 ^ 23) (-24) (by decide) := by rfl

/-- The floating point number is `k / 64`. -/
def Sixtyfourths (x : Float32) (k : Int) : Prop := OnGrid x.toModel.unpack k

namespace Sixtyfourths

variable {x y : Float32} {k l : Int}

private theorem of_pack {f : UnpackedFloat} (h : OnGrid f k) :
    Sixtyfourths (.ofModel (.pack f)) k := by
  rwa [Sixtyfourths, unpack_pack_model, h.unpack_pack]

theorem add (hx : Sixtyfourths x k) (hy : Sixtyfourths y l) (h : (k + l).natAbs < 2 ^ 24) :
    Sixtyfourths (x + y) (k + l) := of_pack (OnGrid.add hx hy h)

theorem sub (hx : Sixtyfourths x k) (hy : Sixtyfourths y l) (h : (k - l).natAbs < 2 ^ 24) :
    Sixtyfourths (x - y) (k - l) := of_pack (OnGrid.sub hx hy h)

protected theorem zero : Sixtyfourths 0 0 := OnGrid.zero .positive

/-- Lanes wait half a second between two commands. -/
protected theorem pacingInterval : Sixtyfourths pacingInterval 32 := by
  rw [Sixtyfourths, unpack_pacingInterval]
  exact .finite (by decide) (by decide) (by decide) (by decide) (by decide)

theorem nonpos_iff (h : Sixtyfourths x k) : x ≤ 0 ↔ k ≤ 0 := by
  rw [le_iff_unpack, unpack_zero, UnpackedFloat.le, h.compare_zero.1]
  exact Int.isLE_compare

theorem pos_iff (h : Sixtyfourths x k) : 0 < x ↔ 0 < k := by
  rw [lt_iff_unpack, unpack_zero, UnpackedFloat.lt, h.compare_zero.2, Option.some_beq_some,
    beq_iff_eq]
  exact compare_lt_iff_lt

/-- Of what is not negative, all counts. -/
protected theorem positivePart (h : Sixtyfourths x k) (hk : 0 ≤ k) :
    Sixtyfourths (positivePart x) k := by
  rw [positivePart]
  split
  · exact h
  · next hnot =>
    have hzero : k = 0 := le_antisymm (not_lt.mp (h.pos_iff.not.mp hnot)) hk
    exact hzero ▸ .zero

end Sixtyfourths

/-! ## Ticks of no length -/

/-- Taking nothing off leaves a number as it is, whichever it is. -/
theorem seconds_sub_zero (seconds : Float32) : seconds - 0 = seconds := by
  have hunpacked : seconds.toModel.unpack.sub .binary32 (.zero .positive) =
      seconds.toModel.unpack := by
    cases seconds.toModel.unpack with
    | zero sign => cases sign <;> rfl
    | _ => rfl
  rw [sub_eq_ofModel, unpack_zero, hunpacked, ofModel_pack_unpack]

/-- A tick of no length takes no time, whatever the scale: if the product is no number, it does not
count. -/
theorem positivePart_zero_mul (scale : Float32) : positivePart (0 * scale) = 0 := by
  have hproduct :
      UnpackedFloat.mul .binary32 (.zero .positive) scale.toModel.unpack = .notANumber ∨
      ∃ sign, UnpackedFloat.mul .binary32 (.zero .positive) scale.toModel.unpack = .zero sign := by
    cases scale.toModel.unpack with
    | notANumber | infinity => exact .inl rfl
    | zero | finite => exact .inr ⟨_, rfl⟩
  rw [positivePart, mul_eq_ofModel, unpack_zero]
  rcases hproduct with hproduct | ⟨sign, hproduct⟩
  · rw [hproduct]
    exact if_neg (by decide)
  · rw [hproduct]
    cases sign with
    | negative | positive => exact if_neg (by decide)

/-! ## Numbers on the grid -/

/-- A mantissa is unpacked with all its digits, unless the exponent is the least. -/
theorem unpack_eq_finite {bits : BitVec Format.binary32.numBits} {sign : Sign} {m : Nat}
    {e : Int} {hpos : 0 < m} (h : UnpackedFloat.unpack .binary32 bits = .finite sign m e hpos) :
    (-149 ≤ e ∧ e ≤ 104) ∧ (m.log2 = 23 ∨ m < 2 ^ 23 ∧ e = -149) := by
  have hmantissa : (unpackMantissa bits).toNat < 2 ^ 23 :=
    (unpackMantissa bits).isLt
  rw [UnpackedFloat.unpack] at h
  split at h
  · split at h <;> cases h
  · next hones =>
    split at h
    · next hzero =>
      split at h
      · cases h
      · simp only [UnpackedFloat.finite.injEq] at h
        obtain ⟨-, rfl, rfl⟩ := h
        rw [hzero]
        exact ⟨⟨by decide, by decide⟩, .inr ⟨hmantissa, by decide⟩⟩
    · next hzero =>
      simp only [UnpackedFloat.finite.injEq] at h
      obtain ⟨-, rfl, rfl⟩ := h
      have hlow := toNat_one_append (unpackMantissa bits)
      refine ⟨?_, .inl ((Nat.log2_eq_iff hpos.ne').mpr ⟨?_, ?_⟩)⟩
      · have hexponent : (unpackExponent bits).toNat ≠ 0 :=
          fun heq => hzero (BitVec.eq_of_toNat_eq heq)
        have hexponent' : (unpackExponent bits).toNat ≠ 255 :=
          fun heq => hones (BitVec.eq_of_toNat_eq heq)
        have hlt : (unpackExponent bits).toNat < 256 := (unpackExponent bits).isLt
        rw [exponentBias_binary32]
        omega
      · exact hlow ▸ Nat.le_add_right _ _
      · rw [hlow]
        omega

/-- An equation between multiples of powers of two is one between integers. -/
private theorem mul_two_pow_eq {a k e : Int} {n d : Nat} (he : e = n - d - 6)
    (h : (a : ℚ) * 2 ^ e = k / 64) : a * 2 ^ n = k * 2 ^ d := by
  have hpower : (2 : ℚ) ^ e = 2 ^ n / 2 ^ d / 64 := by
    rw [he, zpow_sub₀ two_ne_zero, zpow_sub₀ two_ne_zero, zpow_natCast, zpow_natCast]
    norm_num
  rw [hpower] at h
  field_simp at h
  rw [mul_comm k]
  exact_mod_cast h

/-- What stands for a number of few enough sixty-fourths is on the grid. -/
theorem sixtyfourths_of_number? {x : Float32} {k : Int} (h : number? x = some (k / 64 : ℚ))
    (hk : k.natAbs < 2 ^ 24) : Sixtyfourths x k := by
  rw [Sixtyfourths]
  rw [number?] at h
  cases hx : x.toModel.unpack with
  | notANumber | infinity => simp [hx] at h
  | zero sign =>
    simp only [hx, Option.some.injEq] at h
    have hzero : k = 0 := by
      have := (div_eq_zero_iff.mp h.symm).resolve_right (by norm_num)
      exact_mod_cast this
    exact hzero ▸ .zero sign
  | finite sign m e hpos =>
    simp only [hx, Option.some.injEq] at h
    obtain ⟨⟨hmin, -⟩, hdigits⟩ := unpack_eq_finite hx
    have hvalue : sign.apply m * 2 ^ (e + 6).toNat = k * 2 ^ (-6 - e).toNat :=
      mul_two_pow_eq (by omega) h
    have hsize : m * 2 ^ (e + 6).toNat = k.natAbs * 2 ^ (-6 - e).toNat := by
      have habs : (sign.apply m).natAbs = m := by
        cases sign <;> simp [Sign.apply]
      have hsizes := congrArg Int.natAbs hvalue
      rwa [Int.natAbs_mul, Int.natAbs_mul, Int.natAbs_pow, Int.natAbs_pow, habs] at hsizes
    -- A number below 2 ^ 18 with all its digits ends at or behind the sixty-fourths.
    have hmax : e ≤ -6 := by
      by_contra hlarge
      have hlog : m.log2 = 23 := hdigits.resolve_right (by omega)
      have hlow : 2 ^ 23 ≤ m := ((Nat.log2_eq_iff hpos.ne').mp hlog).1
      have hzero : (-6 - e).toNat = 0 := by omega
      have hone : 2 ^ 1 ≤ 2 ^ (e + 6).toNat := Nat.pow_le_pow_right (by decide) (by omega)
      have := Nat.mul_le_mul hlow hone
      rw [hsize, hzero] at this
      omega
    have hdone : (e + 6).toNat = 0 := by omega
    rw [hdone, pow_zero, mul_one] at hvalue hsize
    -- One with fewer digits is far below one sixty-fourth.
    have hlog : m.log2 = 23 := by
      refine hdigits.resolve_right ?_
      rintro ⟨hsmall, hleast⟩
      have hk0 : 0 < k.natAbs := by
        rw [Nat.pos_iff_ne_zero]
        intro hzero
        rw [hzero, zero_mul] at hsize
        omega
      have hfar := Nat.le_mul_of_pos_left (2 ^ (-6 - e).toNat) hk0
      rw [← hsize, hleast] at hfar
      have : 2 ^ 23 ≤ 2 ^ (-6 - (-149) : Int).toNat := Nat.pow_le_pow_right (by decide) (by decide)
      omega
    exact .finite hpos hlog hmin hmax hvalue

end SpriteStage
