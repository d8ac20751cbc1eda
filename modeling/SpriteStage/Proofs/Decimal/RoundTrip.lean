import SpriteStage.Proofs.Clock
import SpriteStage.Proofs.Decimal.Reading
import SpriteStage.Proofs.Decimal.Shortest
import SpriteStage.Proofs.Decimal.Gaps

/-!
# Reading what was written

Numbers of 32 bits are written as their shortest decimals, read with 64 bits and then narrowed.
Rounding twice could lead to a neighbour, if the first rounding went to a point halfway between two
numbers. It does so for one number only. The module introduces:

* `contains_of_roundsOn`: but for the exception, a shortest decimal stays in its cell when it is
  rounded to 64 bits;
* `exists_readDecimal?_plain`: a decimal is read as it is written;
* `doublyRounded`: the exception.

The main statement is `exists_readNumber?_plain`.
-/

namespace SpriteStage

open Float.Model Float.Model.UnpackedFloat

/-! ## Rounding twice -/

section Twice

variable {m : Nat} {e : Int} {v w : ℚ} {T : Int} {d : Decimal}

/-- Numbers in a cell have no more binary digits than the end of the cell. -/
theorem binade_le_of_contains (hme : IsCanonical .binary32 m e)
    (hv : (Cell.of .binary32 m e).Contains v) (hT : InBinade v T) : T ≤ e + 24 := by
  obtain ⟨⟨-, hhigh⟩, -, -⟩ := bounds_of_contains hme.pos hv
  rw [div_le_iff₀ (by positivity)] at hhigh
  have hm : (m : ℚ) + 1 ≤ 2 ^ 24 := by exact_mod_cast hme.lt
  have hlt : (2 : ℚ) ^ (T - 1) < 2 ^ ((24 : Nat) + e) := by
    rw [zpow_add₀ two_ne_zero, zpow_natCast]
    exact (hT.1.trans hhigh).trans_lt (mul_lt_mul_of_pos_right (by linarith) (by positivity))
  have := lt_of_two_zpow_lt hlt
  omega

/-- Around an odd mantissa, the ends of the cell are the halves next to it. -/
theorem ends_of_odd (hodd : m % 2 = 1) :
    ((Cell.of .binary32 m e).low * 2 ^ (e - 2) : ℚ) = (2 * m - 1 : Nat) * 2 ^ (e - 1) ∧
      ((Cell.of .binary32 m e).high * 2 ^ (e - 2) : ℚ) = (2 * m + 1 : Nat) * 2 ^ (e - 1) := by
  have hhalf : (2 : ℚ) ^ (e - 1) = 2 ^ 1 * 2 ^ (e - 2) := two_zpow_eq (by omega)
  have hpower : ¬ (m = 2 ^ 23 ∧ e ≠ Format.binary32.minExponent) := by
    rintro ⟨rfl, -⟩
    cases hodd
  have hpos : 1 ≤ 2 * m := by omega
  constructor
  · rw [low_eq (by omega), if_neg hpower, hhalf, Nat.cast_sub hpos]
    push_cast
    ring
  · rw [Cell.high_of, hhalf]
    push_cast
    ring

/-- With one exception, the shortest decimal of an odd mantissa is not rounded to an end of its cell
when it is read with 64 bits. -/
theorem ne_end_of_odd (hme : IsCanonical .binary32 m e) (hmax : e ≤ 104) (hodd : m % 2 = 1)
    (hne : ¬ (m = 11420669 ∧ e = -107)) (hd : d = (Cell.of .binary32 m e).shortest .up)
    (hT : InBinade d.value T) (hw : RoundsOn (T - 53) d.value w) {M : Nat}
    (hM : M = 2 * m - 1 ∨ M = 2 * m + 1) : w ≠ M * 2 ^ (e - 1) := by
  rintro rfl
  obtain ⟨hcontains, hnear, -, -⟩ := shortest_spec_of hme hmax hd
  have hmin : -149 ≤ e := hme.min_le
  have hlt : m < 2 ^ 24 := hme.lt
  have hhalf : (0 : ℚ) < 2 ^ (e - 1) := by positivity
  have htwice := two_zpow_eq_twice e
  have htiny : (2 : ℚ) ^ (e - 1) = 2 ^ 29 * 2 ^ (e - 30) := two_zpow_eq (by omega)
  -- With 64 bits, a number of this binade moves by less than one part in `2 ^ 29` of a half.
  have hclose : |d.value - M * 2 ^ (e - 1)| ≤ 2 ^ (e - 30) := by
    rw [abs_sub_comm]
    refine hw.abs_sub_le.trans (zpow_le_zpow_right₀ one_le_two ?_)
    have := binade_le_of_contains hme hcontains hT
    omega
  have hend : |(M * 2 ^ (e - 1) - m * 2 ^ e : ℚ)| = 2 ^ (e - 1) := by
    have hM' : (M : ℚ) - 2 * m = -1 ∨ (M : ℚ) - 2 * m = 1 := by
      rcases hM with rfl | rfl
      · left
        rw [Nat.cast_sub (by omega)]
        push_cast
        ring
      · right
        push_cast
        ring
    have hdistance : (M * 2 ^ (e - 1) - m * 2 ^ e : ℚ) = (M - 2 * m) * 2 ^ (e - 1) := by
      rw [htwice]
      ring
    rw [hdistance, abs_mul, abs_of_pos hhalf]
    rcases hM' with hM' | hM' <;> simp [hM']
  -- The decimal is nearly half a unit from the number, so its last place is nearly a unit.
  have hplace : (1 - 1 / 2 ^ 29) * 2 ^ e ≤ (10 : ℚ) ^ d.exponent := by
    have hsum := abs_sub_le (M * 2 ^ (e - 1) : ℚ) d.value (m * 2 ^ e)
    rw [hend, abs_sub_comm _ d.value] at hsum
    have := hnear hodd
    rw [htwice]
    linarith
  have hinside : d.value ≠ M * 2 ^ (e - 1) := by
    obtain ⟨hlow, hhigh⟩ := hcontains.2 (by simp [Cell.of, hodd])
    obtain ⟨hlowEnd, hhighEnd⟩ := ends_of_odd (e := e) hodd
    rcases hM with rfl | rfl
    · exact (hlowEnd ▸ hlow).ne'
    · exact (hhighEnd ▸ hhigh).ne
  obtain ⟨he, hM'⟩ := eq_of_close_to_half hmin hmax (by omega) hplace hinside hclose
  exact hne ⟨by omega, he⟩

/-- With one exception, the shortest decimal of a number stays in its cell when it is read with 64
bits. -/
theorem contains_of_roundsOn (hme : IsCanonical .binary32 m e) (hmax : e ≤ 104)
    (hne : ¬ (m = 11420669 ∧ e = -107)) (hd : d = (Cell.of .binary32 m e).shortest .up)
    (hT : InBinade d.value T) (hw : RoundsOn (T - 53) d.value w) :
    (Cell.of .binary32 m e).Contains w := by
  obtain ⟨hcontains, -, -, -⟩ := shortest_spec_of hme hmax hd
  have hbinade := binade_le_of_contains hme hcontains hT
  obtain ⟨⟨hlow, hhigh⟩, -⟩ := hcontains
  -- The ends have fewer digits than words of 64 bits, so rounding does not go past them.
  have hlow' := hw.le_of_multiple_le (s := e - 2) (by omega) hlow
  have hhigh' := hw.le_of_le_multiple (s := e - 2) (by omega) hhigh
  refine ⟨⟨hlow', hhigh'⟩, fun hopen => ?_⟩
  -- If they do not belong to the cell, it does not stop at them either.
  have hodd : m % 2 = 1 := by simpa [Cell.of] using hopen
  obtain ⟨hlowEnd, hhighEnd⟩ := ends_of_odd (e := e) hodd
  have hends {M : Nat} (hM : M = 2 * m - 1 ∨ M = 2 * m + 1) : w ≠ M * 2 ^ (e - 1) :=
    ne_end_of_odd hme hmax hodd hne hd hT hw hM
  constructor
  · exact lt_of_le_of_ne hlow' fun h => hends (.inl rfl) (h.symm.trans hlowEnd)
  · exact lt_of_le_of_ne hhigh' fun h => hends (.inr rfl) (h.trans hhighEnd)

end Twice

/-! ## Texts of decimals -/

section Texts

variable {text whole places : List Char} {d : Decimal} {c : Char}

/-- Digits alone are read as a whole number. -/
theorem readDecimal?_of_isDigit (hne : text ≠ []) (h : ∀ c ∈ text, c.isDigit = true) :
    readDecimal? text = some (Nat.ofDigitChars 10 text 0, 0) := by
  rw [readDecimal?, List.takeWhile_eq_self_iff.mpr h, List.dropWhile_eq_nil_iff.mpr h]
  simp [readExponent?, hne]

/-- Digits behind a point lower the power of ten. -/
theorem readDecimal?_append_point (hne : whole ≠ []) (hwhole : ∀ c ∈ whole, c.isDigit = true)
    (hplaces : ∀ c ∈ places, c.isDigit = true) :
    readDecimal? (whole ++ '.' :: places) =
      some (Nat.ofDigitChars 10 (whole ++ places) 0, -(places.length : Int)) := by
  have hpoint : Char.isDigit '.' = false := rfl
  rw [readDecimal?, List.takeWhile_append_of_pos hwhole, List.dropWhile_append_of_pos hwhole]
  simp only [List.takeWhile_cons_of_neg (Bool.eq_false_iff.mp hpoint), List.append_nil,
    List.dropWhile_cons_of_neg (Bool.eq_false_iff.mp hpoint),
    List.takeWhile_eq_self_iff.mpr hplaces, List.dropWhile_eq_nil_iff.mpr hplaces]
  simp [readExponent?, hne]

theorem isDigit_of_mem_paddedDigits {width n : Nat} (h : c ∈ paddedDigits width n) :
    c.isDigit = true := by
  rcases List.mem_append.mp h with h | h
  · rw [List.eq_of_mem_replicate h]
    rfl
  · exact Nat.isDigit_of_mem_toDigits (by decide) (by decide) h

theorem le_length_paddedDigits (width n : Nat) : width ≤ (paddedDigits width n).length := by
  rw [paddedDigits, List.length_append, List.length_replicate]
  omega

/-- Zeros in front of a number do not count. -/
theorem ofDigitChars_paddedDigits (width n : Nat) :
    Nat.ofDigitChars 10 (paddedDigits width n) 0 = n := by
  rw [paddedDigits, Nat.ofDigitChars_append, Nat.ofDigitChars_replicate_zero, Nat.mul_zero,
    Nat.ofDigitChars_toDigits (by decide) (by decide)]

/-- A decimal is digits, and a point between two of them if its last place is behind one. -/
theorem plain_spec (d : Decimal) :
    (0 ≤ d.exponent ∧ d.plain.toList ≠ [] ∧ (∀ c ∈ d.plain.toList, c.isDigit = true) ∧
      Nat.ofDigitChars 10 d.plain.toList 0 = d.coefficient * 10 ^ d.exponent.toNat) ∨
    (d.exponent < 0 ∧ ∃ whole places, d.plain.toList = whole ++ '.' :: places ∧ whole ≠ [] ∧
      (∀ c ∈ whole ++ places, c.isDigit = true) ∧
      Nat.ofDigitChars 10 (whole ++ places) 0 = d.coefficient ∧
      (places.length : Int) = -d.exponent) := by
  rw [Decimal.plain]
  split
  · next h =>
    rw [String.toList_ofList]
    refine .inl ⟨h, by simp [Nat.toDigits_ne_nil], fun c hc => ?_, ?_⟩
    · rcases List.mem_append.mp hc with hc | hc
      · exact Nat.isDigit_of_mem_toDigits (by decide) (by decide) hc
      · rw [List.eq_of_mem_replicate hc]
        rfl
    · rw [Nat.ofDigitChars_append, Nat.ofDigitChars_toDigits (by decide) (by decide),
        Nat.ofDigitChars_replicate_zero, Nat.mul_comm]
  · next h =>
    have hlength := le_length_paddedDigits ((-d.exponent).toNat + 1) d.coefficient
    refine .inr ⟨by omega, _, _, by rw [pointed, String.toList_ofList], ?_, ?_, ?_, ?_⟩
    · rw [ne_eq, ← List.length_eq_zero_iff, List.length_take]
      omega
    · rw [List.take_append_drop]
      exact fun c => isDigit_of_mem_paddedDigits
    · rw [List.take_append_drop, ofDigitChars_paddedDigits]
    · rw [List.length_drop]
      omega

theorem isDigit_or_eq_of_mem_plain (h : c ∈ d.plain.toList) : c.isDigit = true ∨ c = '.' := by
  obtain ⟨-, -, hdigits, -⟩ | ⟨-, whole, places, htext, -, hdigits, -, -⟩ := plain_spec d
  · exact .inl (hdigits c h)
  · rw [htext, List.mem_append, List.mem_cons, or_left_comm, ← List.mem_append] at h
    exact h.symm.imp_left (hdigits c)

/-- A decimal begins with a digit. -/
theorem exists_plain_eq_cons (d : Decimal) :
    ∃ c text, d.plain.toList = c :: text ∧ c.isDigit = true := by
  obtain ⟨-, hne, hdigits, -⟩ | ⟨-, whole, places, htext, hne, hdigits, -, -⟩ := plain_spec d
  · obtain ⟨c, text, htext⟩ := List.exists_cons_of_ne_nil hne
    exact ⟨c, text, htext, hdigits c (htext ▸ .head _)⟩
  · obtain ⟨c, rest, rfl⟩ := List.exists_cons_of_ne_nil hne
    exact ⟨c, _, htext, hdigits c (.head _)⟩

/-- A decimal is read as it is written; the zeros at the end of a whole number count as digits. -/
theorem exists_readDecimal?_plain (d : Decimal) :
    ∃ c p, readDecimal? d.plain.toList = some (c, p) ∧ (c * 10 ^ p : ℚ) = d.value ∧
      min 0 d.exponent ≤ p ∧ p ≤ 0 := by
  obtain ⟨hexponent, hne, hdigits, hnumber⟩ |
    ⟨hexponent, whole, places, htext, hne, hdigits, hnumber, hlength⟩ := plain_spec d
  · refine ⟨d.coefficient * 10 ^ d.exponent.toNat, 0, ?_, ?_, by omega, le_rfl⟩
    · rw [readDecimal?_of_isDigit hne hdigits, hnumber]
    · rw [Decimal.value, zpow_zero, mul_one]
      conv_rhs => rw [← Int.toNat_of_nonneg hexponent, zpow_natCast]
      push_cast
      rfl
  · rw [List.forall_mem_append] at hdigits
    refine ⟨d.coefficient, d.exponent, ?_, rfl, by omega, by omega⟩
    rw [htext, readDecimal?_append_point hne hdigits.1 hdigits.2, hnumber, hlength, neg_neg]

/-- Neither words nor signs begin with a digit. -/
theorem readNumber?_of_isDigit (h : c.isDigit = true) :
    readNumber? (c :: text) = readMagnitude? (c :: text) := by
  rw [readNumber?]
  · rintro rest heq
    obtain rfl : c = '-' := (List.cons.inj heq).1
    cases h
  · rintro rest heq
    obtain rfl : c = '+' := (List.cons.inj heq).1
    cases h

theorem readMagnitude?_of_isDigit (h : c.isDigit = true) :
    readMagnitude? (c :: text) =
      (readDecimal? (c :: text)).map fun (c, power) => roundDecimal c power := by
  have hlower : c.toLower = c := by
    rw [Char.isDigit, Bool.and_eq_true, decide_eq_true_eq, decide_eq_true_eq] at h
    refine dif_neg fun hletter => ?_
    exact absurd (UInt32.le_trans hletter.1 h.2) (by decide)
  have hword {w : List Char} {a : Char} (ha : a.isDigit = false) :
      (c :: text).map Char.toLower ≠ a :: w := by
    rintro heq
    rw [List.map_cons, hlower] at heq
    rw [(List.cons.inj heq).1, ha] at h
    exact Bool.false_ne_true h
  rw [readMagnitude?, if_neg, if_neg]
  · exact hword rfl
  · rintro (heq | heq)
    · exact hword rfl heq
    · exact hword rfl heq

end Texts
/-! ## Numbers of 32 bits -/

section Numbers

variable {x : Float32} {y : Float} {sign : Sign} {m m' : Nat} {e e' : Int} {hpos : 0 < m}
  {hpos' : 0 < m'}

/-- What is unpacked is canonical. -/
theorem isCanonical_of_unpack (h : x.toModel.unpack = .finite sign m e hpos) :
    IsCanonical .binary32 m e ∧ e ≤ 104 := by
  have hbits : unpack .binary32 x.toModel.toBits.toBitVec = .finite sign m e hpos := h
  obtain ⟨⟨hmin, hmax⟩, hdigits⟩ := unpack_eq_finite hbits
  refine ⟨⟨hpos, ?_, hmin, fun hne => ?_⟩, hmax⟩
  · rw [mantissaBits_binary32]
    rcases hdigits with hlog | ⟨hlt, -⟩
    · exact (Nat.log2_lt hpos.ne').mp (by omega)
    · omega
  · rcases hdigits with hlog | ⟨-, hleast⟩
    · exact (hlog ▸ Nat.log2_self_le hpos.ne' : 2 ^ 23 ≤ m)
    · exact absurd hleast hne

/-- A number of 64 bits that lies in a cell is narrowed to the number of the cell. -/
theorem narrow_eq_of_contains (hx : x.toModel.unpack = .finite .positive m e hpos)
    (hy : y.toModel.unpack = .finite .positive m' e' hpos')
    (h : (Cell.of .binary32 m e).Contains (m' * 2 ^ e')) : y.narrow = x := by
  have hround := (roundsTo_round hpos'.ne' .positive e').eq_finite (isCanonical_of_unpack hx).1 h
  rw [Float.narrow, hy]
  simp only [hround]
  rw [← hx, pack_unpack]

theorem narrow_eq_of_zero (hx : x.toModel.unpack = .zero sign)
    (hy : y.toModel.unpack = .zero sign) : y.narrow = x := by
  rw [Float.narrow, hy]
  simp only
  rw [← hx, pack_unpack]

/-- Positive numbers of 64 bits can be time scales. -/
theorem isScale_of_positive (hy : y.toModel.unpack = .finite .positive m e hpos) :
    isScale y = true :=
  isScale_iff.mpr (by rw [hy]; exact ⟨rfl, rfl⟩)

/-- The opposites of positive numbers of 64 bits cannot be time scales. -/
theorem isScale_neg_of_positive (hy : y.toModel.unpack = .finite .positive m e hpos)
    (hlog : m.log2 = 52) (hlow : -1075 < e) (hhigh : e < 972) : isScale (-y) = false := by
  have hneg : (-y).toModel.unpack = .finite .negative m e hpos := by
    rw [neg_eq_ofModel, unpack_pack_model_binary64, hy]
    exact unpack_pack_word hlog hlow hhigh
  rw [Bool.eq_false_iff, ne_eq, isScale_iff, hneg]
  rintro ⟨-, hle⟩
  cases hle

end Numbers

/-! ## Main statement -/

/-- The one number of 32 bits that is not read as it is written, about 7.038531e-26. Its text is
rounded to a number of 64 bits that lies halfway to the next number, and that goes to the even one
of the two. -/
def doublyRounded : Float32 := Float32.ofBits 0x15ae43fd

theorem eq_doublyRounded {x : Float32} {hpos : 0 < 11420669}
    (h : x.toModel.unpack = .finite .positive 11420669 (-107) hpos) : x = doublyRounded := by
  have hpacked := pack_unpack x.toModel
  rw [h] at hpacked
  have hbits : Float32.Model.pack (.finite .positive 11420669 (-107) (by decide)) =
      doublyRounded.toModel := by
    decide +kernel
  exact congrArg Float32.ofModel (hpacked.symm.trans hbits)

section Plain

variable {x : Float32} {m : Nat} {e : Int} {hpos : 0 < m}

/-- The shortest decimal of a number of 32 bits is in the middle range of those of 64 bits. -/
theorem exists_inBinade (hme : IsCanonical .binary32 m e) (hmax : e ≤ 104) {v : ℚ}
    (hv : (Cell.of .binary32 m e).Contains v) : ∃ T, InBinade v T ∧ -200 ≤ T ∧ T ≤ 200 := by
  obtain ⟨⟨hlow, -⟩, -, -⟩ := bounds_of_contains hme.pos hv
  have hmin : -149 ≤ e := hme.min_le
  have hone : (1 : ℚ) ≤ m := by exact_mod_cast hme.pos
  have hhalf : (2 : ℚ) ^ (e - 1) ≤ v := by
    rw [le_div_iff₀ (by positivity)] at hlow
    have htwice := two_zpow_eq_twice e
    have := mul_le_mul_of_nonneg_right hone (by positivity : (0 : ℚ) ≤ 2 ^ e)
    linarith
  obtain ⟨k, hk, hk'⟩ := exists_mem_Ico_zpow (hhalf.trans_lt' (by positivity)) one_lt_two
  have hT : InBinade v (k + 1) := ⟨by rwa [add_sub_cancel_right], hk'⟩
  have hhigh := binade_le_of_contains hme hv hT
  have hlt := lt_of_two_zpow_lt (hhalf.trans_lt hk')
  exact ⟨k + 1, hT, by omega, by omega⟩

/-- The digits of a finite number are read as a positive number of 64 bits, which is narrowed to the
number again, unless this is the exception. -/
theorem exists_readMagnitude?_plain (hme : IsCanonical .binary32 m e) (hmax : e ≤ 104) {d : Decimal}
    (hd : d = (Cell.of .binary32 m e).shortest .up) :
    ∃ y m' e' hpos', readMagnitude? d.plain.toList = some y ∧
      y.toModel.unpack = .finite .positive m' e' hpos' ∧
      m'.log2 = 52 ∧ -1075 < e' ∧ e' < 972 ∧
      (¬ (m = 11420669 ∧ e = -107) → (Cell.of .binary32 m e).Contains (m' * 2 ^ e')) := by
  obtain ⟨hcontains, -, hlow, hhigh⟩ := shortest_spec_of hme hmax hd
  obtain ⟨T, hT, hTmin, hTmax⟩ := exists_inBinade hme hmax hcontains
  obtain ⟨c, p, hread, hvalue, hp, hp'⟩ := exists_readDecimal?_plain d
  obtain ⟨m', e', hpos', hunpack, hlog, hmin', hmax', hrounds⟩ :=
    isNearest_roundDecimal (hvalue ▸ hT) hTmin hTmax (by omega) hp'
  rw [hvalue] at hrounds
  obtain ⟨digit, rest, htext, hdigit⟩ := exists_plain_eq_cons d
  refine ⟨roundDecimal c p, m', e', hpos', ?_, hunpack, hlog, by omega, by omega, fun hne =>
    contains_of_roundsOn hme hmax hne hd hT hrounds⟩
  rw [htext, readMagnitude?_of_isDigit hdigit, ← htext, hread, Option.map_some]

/-- The text of a number of 32 bits is a number again. This can be a time scale exactly if the first
one can, and then it is narrowed to the first one, with one exception. -/
theorem exists_readNumber?_plain (x : Float32) :
    ∃ y, readNumber? x.plain.toList = some y ∧
      (isScale y = true ↔ x.isFinite = true ∧ 0 ≤ x) ∧
      (isScale y = true → x ≠ doublyRounded → y.narrow = x) := by
  rw [isFinite_iff_unpack, le_iff_unpack, unpack_zero, Float32.plain]
  cases hx : x.toModel.unpack with
  -- What has a name is read as what it stands for, and cannot be a time scale.
  | notANumber =>
    exact ⟨0 / 0, rfl, iff_of_false (by decide +kernel) fun h => Bool.false_ne_true h.1, fun h =>
      absurd h (by decide +kernel)⟩
  | infinity sign =>
    cases sign with
    | positive =>
      exact ⟨1 / 0, rfl, iff_of_false (by decide +kernel) fun h => Bool.false_ne_true h.1, fun h =>
        absurd h (by decide +kernel)⟩
    | negative =>
      exact ⟨-(1 / 0), rfl, iff_of_false (by decide +kernel) fun h => Bool.false_ne_true h.1,
        fun h => absurd h (by decide +kernel)⟩
  | zero sign =>
    cases sign with
    | positive =>
      exact ⟨0, rfl, iff_of_true (by decide +kernel) ⟨rfl, rfl⟩, fun _ _ =>
        narrow_eq_of_zero hx rfl⟩
    | negative =>
      exact ⟨-0, rfl, iff_of_true (by decide +kernel) ⟨rfl, rfl⟩, fun _ _ =>
        narrow_eq_of_zero hx rfl⟩
  | finite sign m e hpos =>
    obtain ⟨hme, hmax⟩ := isCanonical_of_unpack hx
    obtain ⟨y, m', e', hpos', hread, hunpack, hlog, hmin', hmax', hcontains⟩ :=
      exists_readMagnitude?_plain hme hmax rfl
    cases sign with
    | positive =>
      refine ⟨y, ?_, iff_of_true (isScale_of_positive hunpack) ⟨rfl, rfl⟩, fun _ hne => ?_⟩
      · rw [plainText, signText]
        obtain ⟨digit, rest, htext, hdigit⟩ :=
          exists_plain_eq_cons ((Cell.of .binary32 m e).shortest .up)
        rw [String.empty_append, htext, readNumber?_of_isDigit hdigit, ← htext, hread]
      · refine narrow_eq_of_contains hx hunpack (hcontains ?_)
        rintro ⟨rfl, rfl⟩
        exact hne (eq_doublyRounded hx)
    | negative =>
      have hrefused := isScale_neg_of_positive hunpack hlog hmin' hmax'
      refine ⟨-y, ?_, iff_of_false (Bool.eq_false_iff.mp hrefused) (fun h => by cases h.2),
        fun h => absurd h (Bool.eq_false_iff.mp hrefused)⟩
      rw [plainText, signText, String.toList_append]
      exact congrArg (Option.map (-·)) hread

end Plain

end SpriteStage
