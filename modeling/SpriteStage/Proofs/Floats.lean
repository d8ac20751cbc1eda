import Mathlib

/-!
# Floating point numbers by their parts

A floating point number is kept packed into a word. Arithmetic and comparisons unpack it into sign,
mantissa and exponent, and pack the result again. The module introduces:

* `targetExponent_binary32`, `mantissaBits_binary64` and the like: the sizes of the two formats;
* `apply_negative` and `apply_positive`: what a sign does to a mantissa;
* `shiftRight_succ`: a shift of a mantissa, place by place;
* `add_eq_ofModel`, `le_iff_unpack` and the like: arithmetic and comparisons of numbers of 32 bits,
  by those of the unpacked numbers;
* `pack_unpack`: every number is kept packed in one way only.

What is known about packing, such as `pack_unpack_of_valid`, comes with Mathlib as a whole and with
none of its modules.
-/

namespace SpriteStage

open Float.Model Float.Model.UnpackedFloat

/-! ## Formats -/

@[simp] theorem mantissaBits_binary32 : Format.binary32.mantissaBits = 24 := by rfl

@[simp] theorem minExponent_binary32 : Format.binary32.minExponent = -149 := by rfl

@[simp] theorem exponentBias_binary32 : Format.binary32.exponentBias = 127 := by rfl

@[simp] theorem mantissaBits_binary64 : Format.binary64.mantissaBits = 53 := by rfl

@[simp] theorem minExponent_binary64 : Format.binary64.minExponent = -1074 := by rfl

@[simp] theorem exponentBias_binary64 : Format.binary64.exponentBias = 1023 := by rfl

/-- With 32 bits there are 24 digits, and none beyond `2 ^ (-149)`. -/
theorem targetExponent_binary32 (T : Int) :
    Format.binary32.targetExponent T = max (T - 24) (-149) := by
  rw [Format.targetExponent, mantissaBits_binary32, minExponent_binary32]
  rfl

/-- The exponent that is kept in a word of 32 bits. -/
theorem biased_binary32 (e : Int) :
    (e + (Format.binary32.exponentBias : Nat) + (23 : Nat)).toNat = (e + 150).toNat := by
  rw [exponentBias_binary32]
  omega

/-! ## Signs -/

@[simp] theorem apply_negative (a : Int) : Sign.negative.apply a = -a := by rfl

@[simp] theorem apply_positive (a : Int) : Sign.positive.apply a = a := by rfl

theorem apply_mul (sign : Sign) (a b : Int) : sign.apply (a * b) = sign.apply a * b := by
  cases sign with
  | negative => exact (neg_mul a b).symm
  | positive => rfl

theorem apply_neg (sign : Sign) (a : Int) : (-sign).apply a = -sign.apply a := by
  cases sign with
  | negative => exact (neg_neg a).symm
  | positive => rfl

/-- A difference is the sum with the opposite number. -/
theorem sub_eq_add_opposite (f g : UnpackedFloat) :
    f.sub .binary32 g = f.add .binary32 g.neg := by
  cases f with
  | notANumber => cases g <;> rfl
  | infinity sign => cases g <;> rfl
  | zero sign => cases g <;> rfl
  | finite sign m e hpos =>
    cases g with
    | finite sign' m' e' hpos' =>
      rw [UnpackedFloat.neg, UnpackedFloat.sub, UnpackedFloat.add]
      simp only [Int.sub_eq_add_neg, apply_neg]
    | _ => rfl

/-! ## Shifts -/

@[simp] theorem shiftRight_zero (em : ExtendedMantissa) : em >>> 0 = em := by rfl

@[simp] theorem shiftRight_succ (em : ExtendedMantissa) (d : Nat) :
    em >>> (d + 1) = (em >>> d).shiftRightOne := by rfl

/-! ## Words -/

/-- The mantissa of a word with its first digit, which is not kept. -/
theorem toNat_one_append {w : Nat} (v : BitVec w) : (1#1 ++ v).toNat = 2 ^ w + v.toNat := by
  rw [BitVec.toNat_append, ← Nat.shiftLeft_add_eq_or_of_lt v.isLt, BitVec.toNat_one zero_lt_one,
    Nat.one_shiftLeft]

/-- Every number is kept packed in the one way that packing gives, also the one that is none. -/
theorem pack_unpack (model : Float32.Model) : Float32.Model.pack model.unpack = model := by
  obtain ⟨bits, valid⟩ := model
  have hbits : UnpackedFloat.pack .binary32 (UnpackedFloat.unpack .binary32 bits.toBitVec) =
      bits.toBitVec := pack_unpack_of_valid valid
  simp only [Float32.Model.pack, Float32.Model.unpack, hbits]

@[simp] theorem unpack_pack_model (f : UnpackedFloat) :
    (Float32.Model.pack f).unpack = unpack .binary32 (pack .binary32 f) := by rfl

@[simp] theorem unpack_pack_model_binary64 (f : UnpackedFloat) :
    (Float.Model.pack f).unpack = unpack .binary64 (pack .binary64 f) := by rfl

/-- An unpacked number that is kept in a word is that number. -/
theorem ofModel_pack_unpack (x : Float32) : .ofModel (.pack x.toModel.unpack) = x :=
  congrArg Float32.ofModel (pack_unpack x.toModel)

@[simp] theorem unpack_zero : (0 : Float32).toModel.unpack = .zero .positive := by rfl

/-! ## Arithmetic and comparisons -/

section Arithmetic

variable (x y : Float32)

theorem add_eq_ofModel :
    x + y = .ofModel (.pack (x.toModel.unpack.add .binary32 y.toModel.unpack)) := by rfl

theorem sub_eq_ofModel :
    x - y = .ofModel (.pack (x.toModel.unpack.sub .binary32 y.toModel.unpack)) := by rfl

theorem mul_eq_ofModel :
    x * y = .ofModel (.pack (x.toModel.unpack.mul .binary32 y.toModel.unpack)) := by rfl

theorem le_iff_unpack : x ≤ y ↔ x.toModel.unpack.le y.toModel.unpack = true :=
  decide_eq_true_iff.trans Iff.rfl

theorem lt_iff_unpack : x < y ↔ x.toModel.unpack.lt y.toModel.unpack = true :=
  decide_eq_true_iff.trans Iff.rfl

theorem isFinite_iff_unpack : x.isFinite = x.toModel.unpack.isFinite := by rfl

end Arithmetic

theorem toFloat_eq_ofModel (n : UInt64) :
    n.toFloat = .ofModel (.pack (UnpackedFloat.normalize .binary64 n.toNat 0 .positive)) := by rfl

theorem neg_eq_ofModel (x : Float) : -x = .ofModel (.pack x.toModel.unpack.neg) := by rfl

theorem zero_le_iff_unpack (x : Float) :
    0 ≤ x ↔ UnpackedFloat.le (.zero .positive) x.toModel.unpack = true :=
  decide_eq_true_iff.trans Iff.rfl

end SpriteStage
