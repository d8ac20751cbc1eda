import SpriteStage.Proofs.Decimal.Nearest

/-!
# Decimals near ends of cells

Multiples of powers of ten that come close to a multiple of a power of two, without being one. The
module introduces:

* `Fraction.surround`: the fractions around a ratio, as close to it as their denominators allow;
* `Fraction.lt_abs_offset` and `Fraction.eq_of_abs_offset_le`: no other fraction of a denominator as
  small is closer to the ratio;
* `keepsGap`: the comparisons that show this for an exponent, and `all_keepsGap`, by which they hold
  for all exponents of 32 bits, with one number excepted.

The main statement is `eq_of_close_to_half`.
-/

namespace SpriteStage

/-! ## Fractions that surround a ratio -/

/-- A fraction, of which nothing is cancelled. -/
structure Fraction where
  /-- The part above the line. -/
  num : Nat
  /-- The part below it. -/
  den : Nat

namespace Fraction

/-- `den * A - num * B`: positive if the fraction is below `A / B`, negative if it is above. -/
def offset (x : Fraction) (A B : Nat) : Int := x.den * A - x.num * B

/-- The last two fractions around `A / B`, each next to the other, before their mediant has a
denominator above `Q`. -/
def surround (A B Q : Nat) : Nat → Fraction → Fraction → Fraction × Fraction
  | 0, low, high => (low, high)
  | steps + 1, ⟨m₁, q₁⟩, ⟨m₂, q₂⟩ =>
    if Q < q₁ + q₂ then (⟨m₁, q₁⟩, ⟨m₂, q₂⟩)
    else if (m₁ + m₂) * B ≤ (q₁ + q₂) * A then
      surround A B Q steps ⟨m₁ + m₂, q₁ + q₂⟩ ⟨m₂, q₂⟩
    else surround A B Q steps ⟨m₁, q₁⟩ ⟨m₁ + m₂, q₁ + q₂⟩

variable {low high x : Fraction} {A B : Nat}

/-- Next to each other, two fractions generate all others. -/
theorem eq_combination (hnext : (low.den * high.num : Int) - high.den * low.num = 1)
    (x : Fraction) :
    ∃ s t : Int, x.den = s * low.den + t * high.den ∧ x.num = s * low.num + t * high.num := by
  refine ⟨x.den * high.num - x.num * high.den, x.num * low.den - x.den * low.num, ?_, ?_⟩
  · linear_combination -(x.den : Int) * hnext
  · linear_combination -(x.num : Int) * hnext

theorem offset_combination {s t : Int} (hden : (x.den : Int) = s * low.den + t * high.den)
    (hnum : (x.num : Int) = s * low.num + t * high.num) (A B : Nat) :
    x.offset A B = s * low.offset A B + t * high.offset A B := by
  rw [offset, offset, offset, hden, hnum]
  ring

/-- Let two fractions next to each other lie below and above `A / B`, the lower one by more than
`b`. Then a fraction with a denominator below the sum of theirs is off by no more than `b` only if
it is the upper one, or the upper one without a common factor cancelled. -/
theorem eq_multiple_of_offset_le {b : Int}
    (hnext : (low.den * high.num : Int) - high.den * low.num = 1) (hlow : b < low.offset A B)
    (hhigh : high.offset A B < 0) (hpos : 0 < x.den) (hQ : x.den < low.den + high.den)
    (hx : |x.offset A B| ≤ b) :
    ∃ t : Int, 0 < t ∧ x.den = t * high.den ∧ x.num = t * high.num := by
  obtain ⟨s, t, hden, hnum⟩ := eq_combination hnext x
  have hoffset := offset_combination hden hnum A B
  obtain ⟨hx₁, hx₂⟩ := abs_le.mp hx
  have hb : 0 ≤ b := (abs_nonneg _).trans hx
  have hlowden : (0 : Int) ≤ low.den := Nat.cast_nonneg _
  have hhighden : (0 : Int) ≤ high.den := Nat.cast_nonneg _
  obtain ht | ht : 0 < t ∨ t ≤ 0 := by omega
  · obtain hs | rfl | hs : 0 < s ∨ s = 0 ∨ s < 0 := by omega
    · -- Both parts are there, so the denominator is too large.
      have h₁ : (low.den : Int) ≤ s * low.den := le_mul_of_one_le_left hlowden hs
      have h₂ : (high.den : Int) ≤ t * high.den := le_mul_of_one_le_left hhighden ht
      omega
    · exact ⟨t, ht, by linarith, by linarith⟩
    · -- Both parts put the fraction above `A / B`.
      have h₁ : s * low.offset A B ≤ -low.offset A B := by nlinarith
      have h₂ : t * high.offset A B ≤ 0 := by nlinarith
      omega
  · obtain hs | hs : 0 < s ∨ s ≤ 0 := by omega
    · -- Both parts put it below.
      have h₁ : low.offset A B ≤ s * low.offset A B := by nlinarith
      have h₂ : 0 ≤ t * high.offset A B := by nlinarith
      omega
    · have h₁ : s * low.den ≤ 0 := mul_nonpos_of_nonpos_of_nonneg hs hlowden
      have h₂ : t * high.den ≤ 0 := mul_nonpos_of_nonpos_of_nonneg ht hhighden
      omega

/-- Where two fractions next to each other are both off by more than `b`, so is every other one with
a denominator below the sum of theirs. -/
theorem lt_abs_offset {b : Int} (hnext : (low.den * high.num : Int) - high.den * low.num = 1)
    (hlow : b < low.offset A B) (hhigh : high.offset A B < 0) (hhigh' : b < -high.offset A B)
    (hpos : 0 < x.den) (hQ : x.den < low.den + high.den) : b < |x.offset A B| := by
  by_contra hle
  obtain ⟨t, ht, hden, hnum⟩ :=
    eq_multiple_of_offset_le hnext hlow hhigh hpos hQ (not_lt.mp hle)
  have hoffset : x.offset A B = t * high.offset A B := by
    rw [offset, offset, hden, hnum]
    ring
  have hge : t * high.offset A B ≤ high.offset A B := by nlinarith
  have := neg_le_abs (x.offset A B)
  omega

/-- Let the lower of two fractions next to each other be off by more than `b`. Then a fraction that
is off by no more has the numerator of the upper one, if its denominator is below the sum of theirs
and below twice that of the upper one. -/
theorem eq_of_abs_offset_le {b : Int} (hnext : (low.den * high.num : Int) - high.den * low.num = 1)
    (hlow : b < low.offset A B) (hhigh : high.offset A B < 0) (hpos : 0 < x.den)
    (hQ : x.den < low.den + high.den) (hQ' : x.den < 2 * high.den) (hx : |x.offset A B| ≤ b) :
    x.num = high.num := by
  obtain ⟨t, ht, hden, hnum⟩ := eq_multiple_of_offset_le hnext hlow hhigh hpos hQ hx
  obtain rfl : t = 1 := by
    have : t < 2 := by
      by_contra htwo
      have : 2 * (high.den : Int) ≤ t * high.den :=
        mul_le_mul_of_nonneg_right (by omega) (Nat.cast_nonneg _)
      omega
    omega
  omega

end Fraction

/-! ## The certificate -/

/-- The power of ten that is next above `2 ^ e`: 30103 hundred-thousandths are the common logarithm
of two. -/
def powerAbove (e : Int) : Int := -(-e * 30103 / 100000)

/-- `10 ^ powerAbove e` in units of `2 ^ (e - 1)`, as a fraction. -/
def ratioAbove (e : Int) : Fraction :=
  ⟨10 ^ (powerAbove e).toNat * 2 ^ (1 - e).toNat, 10 ^ (-powerAbove e).toNat * 2 ^ (e - 1).toNat⟩

/-- The fractions around `10 ^ powerAbove e`, up to the denominators that a number with `2 ^ 25`
halves can have. -/
def surroundAbove (e : Int) : Fraction × Fraction :=
  let ⟨A, B⟩ := ratioAbove e
  Fraction.surround A B (2 ^ 25 * B / A) 1500 ⟨A / B, 1⟩ ⟨1, 0⟩

/-- The numbers that show that multiples of powers of ten from `2 ^ e` on keep away from multiples
of `2 ^ (e - 1)`: either all offsets have a great common divisor, or the fractions on both sides are
off by more than one part in `2 ^ 29`. There is one exception. -/
def keepsGap (e : Int) : Bool :=
  let ⟨A, B⟩ := ratioAbove e
  A * 2 ^ 29 < 20 * (2 ^ 29 - 1) * B &&
    (B < 2 ^ 29 * Nat.gcd A B ||
      let (low, high) := surroundAbove e
      low.den * high.num = high.den * low.num + 1 && 2 ^ 25 * B / A < low.den + high.den &&
        B + 2 ^ 29 * (low.num * B) < 2 ^ 29 * (low.den * A) && high.den * A < high.num * B &&
        (B + 2 ^ 29 * (high.den * A) < 2 ^ 29 * (high.num * B) ||
          e = -107 && high.num = 22841339 && 2 ^ 25 * B / A < 2 * high.den))

theorem all_keepsGap : (List.range 254).all (fun i => keepsGap ((i : Int) - 149)) = true := by
  decide +kernel

theorem keepsGap_eq_true {e : Int} (hmin : -149 ≤ e) (hmax : e ≤ 104) : keepsGap e = true := by
  have hall := List.all_eq_true.mp all_keepsGap (e + 149).toNat (List.mem_range.mpr (by omega))
  have he : (((e + 149).toNat : Nat) : Int) - 149 = e := by omega
  rwa [he] at hall

/-! ## Main statement -/

/-- The fraction is `10 ^ powerAbove e` in units of `2 ^ (e - 1)`. -/
theorem ratioAbove_spec {e : Int} {A B : Nat} (hAB : ratioAbove e = ⟨A, B⟩) :
    0 < A ∧ 0 < B ∧ (A * 2 ^ (e - 1) : ℚ) = B * 10 ^ powerAbove e := by
  have hten := zpow_mul_pow_toNat (by norm_num : (10 : ℚ) ≠ 0) (powerAbove e)
  have htwo := zpow_mul_pow_toNat (two_ne_zero : (2 : ℚ) ≠ 0) (e - 1)
  have hneg : 1 - e = -(e - 1) := by omega
  rw [ratioAbove, hneg, Fraction.mk.injEq] at hAB
  obtain ⟨rfl, rfl⟩ := hAB
  refine ⟨by positivity, by positivity, ?_⟩
  push_cast
  rw [← hten, ← htwo]
  ring

/-- What the certificate of an exponent says. -/
theorem keepsGap_iff {e : Int} {A B : Nat} (hratio : ratioAbove e = ⟨A, B⟩)
    {low high : Fraction} (hsurround : surroundAbove e = (low, high)) :
    keepsGap e = true ↔ A * 2 ^ 29 < 20 * (2 ^ 29 - 1) * B ∧
      (B < 2 ^ 29 * Nat.gcd A B ∨
        (((low.den * high.num = high.den * low.num + 1 ∧ 2 ^ 25 * B / A < low.den + high.den) ∧
          B + 2 ^ 29 * (low.num * B) < 2 ^ 29 * (low.den * A)) ∧ high.den * A < high.num * B) ∧
        (B + 2 ^ 29 * (high.den * A) < 2 ^ 29 * (high.num * B) ∨
          (e = -107 ∧ high.num = 22841339) ∧ 2 ^ 25 * B / A < 2 * high.den)) := by
  rw [keepsGap, hratio, hsurround]
  simp only [Bool.and_eq_true, Bool.or_eq_true, decide_eq_true_eq]

section Main

variable {e p : Int} {A B c M : Nat} {x : Fraction}

/-- Powers of ten that are hardly below `2 ^ e` are above it. -/
theorem powerAbove_le (hmin : -149 ≤ e) (hmax : e ≤ 104)
    (hp : (1 - 1 / 2 ^ 29) * 2 ^ e ≤ (10 : ℚ) ^ p) : powerAbove e ≤ p := by
  obtain ⟨A, B, hAB⟩ : ∃ A B, ratioAbove e = ⟨A, B⟩ := ⟨_, _, rfl⟩
  obtain ⟨low, high, hsurround⟩ : ∃ low high, surroundAbove e = (low, high) := ⟨_, _, rfl⟩
  obtain ⟨-, hB, hratio⟩ := ratioAbove_spec hAB
  obtain ⟨hpower, -⟩ := (keepsGap_iff hAB hsurround).mp (keepsGap_eq_true hmin hmax)
  have hB' : (0 : ℚ) < B := by exact_mod_cast hB
  have hhalf : (0 : ℚ) < 2 ^ (e - 1) := by positivity
  have hpower' : (A * 2 ^ 29 : ℚ) < 20 * (2 ^ 29 - 1) * B := by
    have : ((A * 2 ^ 29 : Nat) : ℚ) < ((20 * (2 ^ 29 - 1) * B : Nat) : ℚ) := by
      exact_mod_cast hpower
    norm_num at this ⊢
    exact this
  have hlt : (10 : ℚ) ^ powerAbove e < 10 ^ (p + 1) := by
    rw [zpow_add_one₀ (by norm_num)]
    refine lt_of_lt_of_le ?_ (mul_le_mul_of_nonneg_right hp (by norm_num))
    rw [two_zpow_eq_twice e, ← mul_lt_mul_iff_right₀ hB', ← hratio]
    nlinarith
  have := (zpow_lt_zpow_iff_right₀ (by norm_num : (1 : ℚ) < 10)).mp hlt
  omega

/-- Offsets from the ratio are distances between multiples of the two powers, in other units. -/
theorem offset_mul_eq (hAB : ratioAbove e = ⟨A, B⟩) (x : Fraction) :
    (x.offset A B : ℚ) * 2 ^ (e - 1) =
      (x.den * 10 ^ powerAbove e - x.num * 2 ^ (e - 1)) * B := by
  obtain ⟨-, -, hratio⟩ := ratioAbove_spec hAB
  rw [Fraction.offset]
  push_cast
  linear_combination (x.den : ℚ) * hratio

/-- Distances of one part in `2 ^ 30` are small offsets. -/
theorem abs_offset_le (hAB : ratioAbove e = ⟨A, B⟩)
    (hclose : |(x.den * 10 ^ powerAbove e - x.num * 2 ^ (e - 1) : ℚ)| ≤ 2 ^ (e - 30)) :
    |x.offset A B| * 2 ^ 29 ≤ B := by
  have hhalf : (0 : ℚ) < 2 ^ (e - 1) := by positivity
  have htiny : (2 : ℚ) ^ (e - 1) = 2 ^ 29 * 2 ^ (e - 30) := two_zpow_eq (by omega)
  have habs := congrArg abs (offset_mul_eq hAB x)
  rw [abs_mul, abs_mul, abs_of_pos hhalf, Nat.abs_cast] at habs
  have hle : |(x.offset A B : ℚ)| * 2 ^ 29 ≤ B := by
    refine le_of_mul_le_mul_right ?_ hhalf
    have hscaled := mul_le_mul_of_nonneg_right hclose (Nat.cast_nonneg B : (0 : ℚ) ≤ B)
    rw [← habs] at hscaled
    calc |(x.offset A B : ℚ)| * 2 ^ 29 * 2 ^ (e - 1)
        = |(x.offset A B : ℚ)| * 2 ^ (e - 1) * 2 ^ 29 := mul_right_comm _ _ _
      _ ≤ (2 : ℚ) ^ (e - 30) * B * 2 ^ 29 := mul_le_mul_of_nonneg_right hscaled (by positivity)
      _ = B * (2 ^ 29 * (2 : ℚ) ^ (e - 30)) := by ring
      _ = B * 2 ^ (e - 1) := by rw [htiny]
  exact_mod_cast hle

/-- A fraction that is off by no more than one part in `2 ^ 29` of `B` has a denominator that is not
zero, and one that the fractions around the ratio were computed for. -/
theorem den_bounds_of_offset_le (hA : 0 < A) (hnum : x.num < 2 ^ 25) (hne : x.offset A B ≠ 0)
    (hsmall : |x.offset A B| * 2 ^ 29 ≤ B) : 0 < x.den ∧ x.den ≤ 2 ^ 25 * B / A := by
  obtain ⟨hneg, hpos⟩ := abs_le.mp (le_refl |x.offset A B|)
  have hvalue : x.offset A B = x.den * A - x.num * B := rfl
  have hB : (0 : Int) ≤ B := Nat.cast_nonneg B
  constructor
  · by_contra hzero
    have hden : (x.den : Int) = 0 := by omega
    have hnum' : (0 : Int) < x.num := by
      by_contra hnum'
      have : (x.num : Int) = 0 := by omega
      exact hne (by rw [hvalue, hden, this, zero_mul, zero_mul, sub_zero])
    have hle : (B : Int) ≤ x.num * B := le_mul_of_one_le_left hB hnum'
    rw [hden, zero_mul] at hvalue
    omega
  · rw [Nat.le_div_iff_mul_le hA]
    have hnum' : (x.num : Int) + 1 ≤ 2 ^ 25 := by exact_mod_cast hnum
    have hproduct := mul_le_mul_of_nonneg_right hnum' hB
    have hle : (x.den * A : Int) ≤ 2 ^ 25 * B := by
      rw [add_mul, one_mul] at hproduct
      omega
    exact_mod_cast hle

/-- One single numerator below `2 ^ 25` goes with an offset that is neither zero nor greater than
one part in `2 ^ 29` of `B`. -/
theorem eq_of_offset_small (hmin : -149 ≤ e) (hmax : e ≤ 104) (hAB : ratioAbove e = ⟨A, B⟩)
    (hnum : x.num < 2 ^ 25) (hne : x.offset A B ≠ 0) (hsmall : |x.offset A B| * 2 ^ 29 ≤ B) :
    e = -107 ∧ x.num = 22841339 := by
  obtain ⟨low, high, hsurround⟩ : ∃ low high, surroundAbove e = (low, high) := ⟨_, _, rfl⟩
  obtain ⟨hA, -, -⟩ := ratioAbove_spec hAB
  obtain ⟨hden, hQ'⟩ := den_bounds_of_offset_le hA hnum hne hsmall
  obtain ⟨-, hgcd | ⟨⟨⟨⟨hnext, hQ⟩, hlow⟩, hhigh⟩, hcase⟩⟩ :=
    (keepsGap_iff hAB hsurround).mp (keepsGap_eq_true hmin hmax)
  · -- All offsets are multiples of the common divisor.
    have hdvd : (Nat.gcd A B : Int) ∣ x.offset A B :=
      dvd_sub (Dvd.dvd.mul_left (Int.natCast_dvd_natCast.mpr (Nat.gcd_dvd_left A B)) _)
        (Dvd.dvd.mul_left (Int.natCast_dvd_natCast.mpr (Nat.gcd_dvd_right A B)) _)
    have hle := Int.le_of_dvd (abs_pos.mpr hne) ((dvd_abs _ _).mpr hdvd)
    omega
  · have hnext' : (low.den * high.num : Int) - high.den * low.num = 1 := by
      have : (low.den * high.num : Int) = high.den * low.num + 1 := by exact_mod_cast hnext
      omega
    have hlow' : |x.offset A B| < low.offset A B := by
      have : (B + 2 ^ 29 * (low.num * B) : Int) < 2 ^ 29 * (low.den * A) := by exact_mod_cast hlow
      have hoffset : low.offset A B = low.den * A - low.num * B := rfl
      omega
    have hhigh' : high.offset A B < 0 := by
      have : (high.den * A : Int) < high.num * B := by exact_mod_cast hhigh
      rw [Fraction.offset]
      omega
    obtain hfar | ⟨⟨he, hexception⟩, htwice⟩ := hcase
    · have hfar' : |x.offset A B| < -high.offset A B := by
        have : (B + 2 ^ 29 * (high.den * A) : Int) < 2 ^ 29 * (high.num * B) := by
          exact_mod_cast hfar
        have hoffset : high.offset A B = high.den * A - high.num * B := rfl
        omega
      exact absurd (Fraction.lt_abs_offset hnext' hlow' hhigh' hfar' hden (by omega)) (lt_irrefl _)
    · have hsame := Fraction.eq_of_abs_offset_le hnext' hlow' hhigh' hden (by omega) (by omega)
        le_rfl
      exact ⟨he, hsame.trans hexception⟩

/-- Take a multiple of a power of ten that is not below `2 ^ e`, or hardly so. If it comes closer
than one part in `2 ^ 30` to a multiple of `2 ^ (e - 1)` without being one, then this is one single
number. -/
theorem eq_of_close_to_half (hmin : -149 ≤ e) (hmax : e ≤ 104) (hM : M < 2 ^ 25)
    (hp : (1 - 1 / 2 ^ 29) * 2 ^ e ≤ (10 : ℚ) ^ p)
    (hne : (c * 10 ^ p : ℚ) ≠ M * 2 ^ (e - 1))
    (hclose : |(c * 10 ^ p - M * 2 ^ (e - 1) : ℚ)| ≤ 2 ^ (e - 30)) : e = -107 ∧ M = 22841339 := by
  obtain ⟨A, B, hAB⟩ : ∃ A B, ratioAbove e = ⟨A, B⟩ := ⟨_, _, rfl⟩
  have hple := powerAbove_le hmin hmax hp
  -- The multiple is one of the power of ten that the certificate is about.
  obtain ⟨x, hx⟩ : ∃ x : Fraction, x = ⟨M, c * 10 ^ (p - powerAbove e).toNat⟩ := ⟨_, rfl⟩
  have hnum : x.num = M := by rw [hx]
  have hden : (c * 10 ^ p : ℚ) = x.den * 10 ^ powerAbove e := by
    have hd : p = (p - powerAbove e).toNat + powerAbove e := by omega
    conv_lhs => rw [hd, zpow_add₀ (by norm_num), zpow_natCast]
    rw [hx]
    push_cast
    ring
  rw [hden, ← hnum] at hne hclose
  rw [← hnum]
  refine eq_of_offset_small hmin hmax hAB (hnum ▸ hM) (fun hzero => ?_) (abs_offset_le hAB hclose)
  obtain ⟨-, hB, -⟩ := ratioAbove_spec hAB
  have hB' : (B : ℚ) ≠ 0 := by exact_mod_cast hB.ne'
  have hoffset := offset_mul_eq hAB x
  rw [hzero, Int.cast_zero, zero_mul, eq_comm, mul_eq_zero] at hoffset
  exact hne (sub_eq_zero.mp (hoffset.resolve_right hB'))

end Main

end SpriteStage
