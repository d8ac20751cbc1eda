import SpriteStage.Proofs.Decimal.Nearest

/-!
# The shortest decimal in a cell

What the search for a shortest decimal finds. The module introduces:

* `Cell.mul_unit_le_iff` and its neighbours: the fractions of the search compare like the numbers
  that they stand for;
* `Cell.multiple?_spec`: the multiple that is found lies in the cell, and within half a power of ten
  of a number in its middle;
* `Cell.multiple?_ne_none`: there is one to find.

The main statement is `shortest_spec_of`.
-/

namespace SpriteStage

/-! ## The search for the shortest decimal -/

/-- The number that a decimal stands for. -/
def Decimal.value (d : Decimal) : ℚ := d.coefficient * 10 ^ d.exponent

namespace Cell

variable {cell : Cell} {p : Int} {a b c : Nat}

/-- The number of the cell. -/
def number (cell : Cell) : ℚ := cell.value * 2 ^ cell.exponent

/-- The number lies in the middle of the cell. -/
def IsSymmetric (cell : Cell) : Prop := cell.low + cell.high = 2 * cell.value

/-- The number lies between the ends. -/
def IsProper (cell : Cell) : Prop := cell.low < cell.value ∧ cell.value < cell.high

/-- The unit as a fraction is a ratio of powers. -/
theorem unit_spec (cell : Cell) (p : Int) :
    0 < (cell.unit p).2 ∧
      ((cell.unit p).1 : ℚ) * 10 ^ p = (cell.unit p).2 * 2 ^ cell.exponent := by
  have hten := zpow_mul_pow_toNat (by norm_num : (10 : ℚ) ≠ 0) p
  have htwo := zpow_mul_pow_toNat (two_ne_zero : (2 : ℚ) ≠ 0) cell.exponent
  simp only [unit, Nat.pow_eq]
  refine ⟨by positivity, ?_⟩
  push_cast
  rw [← hten, ← htwo]
  ring

/-- Products with the two parts of the unit compare like the numbers. -/
theorem mul_unit (cell : Cell) (p : Int) (a b : Nat) :
    ((a * (cell.unit p).1 : Nat) : ℚ) * 10 ^ p = (cell.unit p).2 * (a * 2 ^ cell.exponent) ∧
      ((b * (cell.unit p).2 : Nat) : ℚ) * 10 ^ p = (cell.unit p).2 * (b * 10 ^ p) := by
  have hunit := (cell.unit_spec p).2
  push_cast
  constructor
  · linear_combination (a : ℚ) * hunit
  · ring

theorem mul_unit_le_iff :
    a * (cell.unit p).1 ≤ b * (cell.unit p).2 ↔ (a * 2 ^ cell.exponent : ℚ) ≤ b * 10 ^ p := by
  obtain ⟨ha, hb⟩ := cell.mul_unit p a b
  have hden : (0 : ℚ) < (cell.unit p).2 := by exact_mod_cast (cell.unit_spec p).1
  have hten : (0 : ℚ) < 10 ^ p := by positivity
  rw [← mul_le_mul_iff_right₀ hden, ← ha, ← hb, mul_le_mul_iff_left₀ hten, Nat.cast_le]

theorem le_mul_unit_iff :
    b * (cell.unit p).2 ≤ a * (cell.unit p).1 ↔ (b * 10 ^ p : ℚ) ≤ a * 2 ^ cell.exponent := by
  obtain ⟨ha, hb⟩ := cell.mul_unit p a b
  have hden : (0 : ℚ) < (cell.unit p).2 := by exact_mod_cast (cell.unit_spec p).1
  have hten : (0 : ℚ) < 10 ^ p := by positivity
  rw [← mul_le_mul_iff_right₀ hden, ← ha, ← hb, mul_le_mul_iff_left₀ hten, Nat.cast_le]

theorem lt_mul_unit_iff :
    b * (cell.unit p).2 < a * (cell.unit p).1 ↔ (b * 10 ^ p : ℚ) < a * 2 ^ cell.exponent := by
  rw [← not_le, ← not_le, mul_unit_le_iff]

theorem mul_unit_lt_iff :
    a * (cell.unit p).1 < b * (cell.unit p).2 ↔ (a * 2 ^ cell.exponent : ℚ) < b * 10 ^ p := by
  rw [← not_le, ← not_le, le_mul_unit_iff]

theorem holds_iff : cell.holds p c = true ↔ cell.Contains (c * 10 ^ p) := by
  rw [holds, Contains]
  dsimp only
  split
  · next hclosed =>
    simp only [Bool.and_eq_true, decide_eq_true_eq, mul_unit_le_iff, le_mul_unit_iff, hclosed]
    tauto
  · next hopen =>
    simp only [Bool.and_eq_true, decide_eq_true_eq, mul_unit_lt_iff, lt_mul_unit_iff,
      Bool.not_eq_true] at hopen ⊢
    constructor
    · exact fun h => ⟨⟨h.1.le, h.2.le⟩, fun _ => h⟩
    · exact fun h => h.2 hopen

/-- The multiple below is the last one that is not above the number. -/
theorem floorAt_spec (cell : Cell) (p : Int) :
    (cell.floorAt p * 10 ^ p : ℚ) ≤ cell.number ∧
      cell.number < (cell.floorAt p + 1 : Nat) * 10 ^ p := by
  obtain ⟨hden, -⟩ := cell.unit_spec p
  rw [number, ← le_mul_unit_iff, ← mul_unit_lt_iff, floorAt]
  exact ⟨Nat.div_mul_le_self _ _, Nat.lt_mul_of_div_lt (Nat.lt_succ_self _) hden⟩

/-- The multiples that enclose the number are a power of ten apart. -/
theorem abs_floorAt_sub_add (cell : Cell) (p : Int) :
    |cell.floorAt p * 10 ^ p - cell.number| + |(cell.floorAt p + 1 : Nat) * 10 ^ p - cell.number| =
      (10 : ℚ) ^ p := by
  obtain ⟨hfloor, hceil⟩ := cell.floorAt_spec p
  rw [abs_of_nonpos (sub_nonpos.mpr hfloor), abs_of_nonneg (sub_nonneg.mpr hceil.le)]
  push_cast
  ring

/-- The upper multiple is preferred if it is not farther away. -/
theorem prefersUpper_iff :
    cell.prefersUpper .up p = true ↔ |(cell.floorAt p + 1 : Nat) * 10 ^ p - cell.number| ≤
      |(cell.floorAt p * 10 ^ p - cell.number : ℚ)| := by
  obtain ⟨hfloor, hceil⟩ := cell.floorAt_spec p
  have htwice : 2 * cell.number = (2 * cell.value : Nat) * 2 ^ cell.exponent := by
    rw [number]
    push_cast
    ring
  have hmiddle : cell.prefersUpper .up p = true ↔
      ((2 * cell.floorAt p + 1 : Nat) * 10 ^ p : ℚ) ≤ 2 * cell.number := by
    rw [htwice, ← le_mul_unit_iff, prefersUpper]
    dsimp only
    rw [← mul_assoc]
    rcases lt_trichotomy (2 * cell.value * (cell.unit p).1)
      ((2 * cell.floorAt p + 1) * (cell.unit p).2) with h | h | h
    · rw [compare_lt_iff_lt.mpr h]
      simpa using h
    · rw [compare_eq_iff_eq.mpr h]
      simpa using h.ge
    · rw [compare_gt_iff_gt.mpr h]
      simpa using h.le
  rw [hmiddle, abs_of_nonpos (sub_nonpos.mpr hfloor), abs_of_nonneg (sub_nonneg.mpr hceil.le)]
  push_cast
  constructor <;> intro h <;> linarith

/-- What lies in a cell is no farther from a number in its middle than what does not. -/
theorem abs_sub_le_of_contains (hproper : cell.IsProper) (hs : cell.IsSymmetric) {v w : ℚ}
    (hv : cell.Contains v) (hw : ¬ cell.Contains w) : |v - cell.number| ≤ |w - cell.number| := by
  have hpow : (0 : ℚ) < 2 ^ cell.exponent := by positivity
  have hlow : (cell.low * 2 ^ cell.exponent : ℚ) < cell.number :=
    mul_lt_mul_of_pos_right (by exact_mod_cast hproper.1) hpow
  have hhigh : cell.number < cell.high * 2 ^ cell.exponent :=
    mul_lt_mul_of_pos_right (by exact_mod_cast hproper.2) hpow
  have hmiddle : (cell.low * 2 ^ cell.exponent : ℚ) + cell.high * 2 ^ cell.exponent =
      2 * cell.number := by
    have hs' : (cell.low : ℚ) + cell.high = 2 * cell.value := by exact_mod_cast hs
    rw [number, ← add_mul, hs', mul_assoc]
  obtain ⟨⟨hvlow, hvhigh⟩, -⟩ := hv
  have hradius : |v - cell.number| ≤ cell.high * 2 ^ cell.exponent - cell.number :=
    abs_le.mpr ⟨by linarith, by linarith⟩
  -- The cell reaches as far to the other side, so it misses nothing that is closer.
  refine hradius.trans ?_
  by_contra hinside
  obtain ⟨hwlow, hwhigh⟩ := abs_lt.mp (not_le.mp hinside)
  have hbelow : (cell.low * 2 ^ cell.exponent : ℚ) < w := by linarith
  have habove : w < cell.high * 2 ^ cell.exponent := by linarith
  exact hw ⟨⟨hbelow.le, habove.le⟩, fun _ => ⟨hbelow, habove⟩⟩

/-- The multiple that is found lies in the cell. If the number is in its middle, the multiple is
within half a power of ten of it. -/
theorem multiple?_spec (hproper : cell.IsProper) (h : cell.multiple? .up p = some c) :
    cell.Contains (c * 10 ^ p) ∧
      (cell.IsSymmetric → 2 * |c * 10 ^ p - cell.number| ≤ (10 : ℚ) ^ p) := by
  have hsum := cell.abs_floorAt_sub_add p
  rw [multiple?] at h
  cases hdown : cell.holds p (cell.floorAt p) with
  | true =>
    have hdown' := holds_iff.mp hdown
    cases hup : cell.holds p (cell.floorAt p + 1) with
    | true =>
      -- The better of the two was taken.
      rw [hdown, hup] at h
      obtain rfl := Option.some.inj h
      split
      · next hupper =>
        refine ⟨holds_iff.mp hup, fun _ => ?_⟩
        linarith [prefersUpper_iff.mp hupper]
      · next hlower =>
        refine ⟨hdown', fun _ => ?_⟩
        linarith [not_le.mp (prefersUpper_iff.not.mp hlower)]
    | false =>
      rw [hdown, hup] at h
      obtain rfl := Option.some.inj h
      refine ⟨hdown', fun hs => ?_⟩
      linarith [abs_sub_le_of_contains hproper hs hdown' fun hup' =>
        Bool.false_ne_true (hup.symm.trans (holds_iff.mpr hup'))]
  | false =>
    cases hup : cell.holds p (cell.floorAt p + 1) with
    | true =>
      have hup' := holds_iff.mp hup
      rw [hdown, hup] at h
      obtain rfl := Option.some.inj h
      refine ⟨hup', fun hs => ?_⟩
      linarith [abs_sub_le_of_contains hproper hs hup' fun hdown' =>
        Bool.false_ne_true (hdown.symm.trans (holds_iff.mpr hdown'))]
    | false =>
      rw [hdown, hup] at h
      cases h

/-- A power of ten that is no greater than the unit has a multiple in the cell. -/
theorem multiple?_ne_none (hproper : cell.IsProper) (hp : (10 : ℚ) ^ p ≤ 2 ^ cell.exponent) :
    cell.multiple? .up p ≠ none := by
  obtain ⟨hfloor, hceil⟩ := cell.floorAt_spec p
  have hpow : (0 : ℚ) < 2 ^ cell.exponent := by positivity
  have hlow : (cell.low : ℚ) + 1 ≤ cell.value := by exact_mod_cast hproper.1
  have hhigh : (cell.value : ℚ) < cell.high := by exact_mod_cast hproper.2
  have hlow' : (cell.low * 2 ^ cell.exponent : ℚ) < cell.floorAt p * 10 ^ p := by
    push_cast at hceil
    rw [number] at hceil
    have := mul_le_mul_of_nonneg_right hlow hpow.le
    linarith
  have hhigh' : (cell.floorAt p * 10 ^ p : ℚ) < cell.high * 2 ^ cell.exponent :=
    hfloor.trans_lt (mul_lt_mul_of_pos_right hhigh hpow)
  have hcontains : cell.Contains (cell.floorAt p * 10 ^ p) :=
    ⟨⟨hlow'.le, hhigh'.le⟩, fun _ => ⟨hlow', hhigh'⟩⟩
  rw [multiple?, holds_iff.mpr hcontains]
  cases cell.holds p (cell.floorAt p + 1) <;> simp

/-- The shortest decimal is a multiple that was found, if there is one to find. -/
theorem shortest_spec {i : Nat} (hi : i < 20)
    (h : cell.multiple? .up (cell.coarsest - i) ≠ none) :
    ∃ j < 20, (cell.shortest .up).exponent = cell.coarsest - (j : Nat) ∧
      cell.multiple? .up (cell.coarsest - (j : Nat)) = some (cell.shortest .up).coefficient := by
  rw [shortest]
  cases hfound : ((List.range 20).map fun i => cell.coarsest - (i : Nat)).findSome? fun power =>
      (cell.multiple? .up power).map (Decimal.mk · power) with
  | none =>
    have hnone := List.findSome?_eq_none_iff.mp hfound (cell.coarsest - i)
      (List.mem_map.mpr ⟨i, List.mem_range.mpr hi, rfl⟩)
    exact absurd (Option.map_eq_none_iff.mp hnone) h
  | some d =>
    obtain ⟨power, hpower, hd⟩ := List.exists_of_findSome?_eq_some hfound
    obtain ⟨j, hj, rfl⟩ := List.mem_map.mp hpower
    obtain ⟨c, hc, rfl⟩ := Option.map_eq_some_iff.mp hd
    exact ⟨j, List.mem_range.mp hj, rfl, hc⟩

end Cell

/-! ## Cells of 32-bit numbers -/

/-- A power of ten is no greater than a power of two if its exponent is small enough: ten lies
between `2 ^ 3` and `2 ^ (10 / 3)`. -/
theorem zpow_ten_le_zpow_two {k j : Int} (hneg : 3 * k ≤ j) (hpos : 10 * k ≤ 3 * j) :
    (10 : ℚ) ^ k ≤ 2 ^ j := by
  obtain ⟨n, rfl | rfl⟩ := k.eq_nat_or_neg
  · have hcube : ((10 : ℚ) ^ (n : Int)) ^ 3 ≤ (2 ^ j) ^ 3 := by
      rw [zpow_natCast, ← pow_mul, mul_comm, pow_mul, ← zpow_natCast ((2 : ℚ) ^ j), ← zpow_mul]
      calc ((10 : ℚ) ^ 3) ^ n ≤ (2 ^ 10) ^ n := pow_le_pow_left₀ (by norm_num) (by norm_num) n
        _ = 2 ^ ((10 * n : Nat) : Int) := by rw [← pow_mul, zpow_natCast]
        _ ≤ 2 ^ (j * (3 : Nat)) := zpow_le_zpow_right₀ one_le_two (by push_cast; omega)
    exact le_of_pow_le_pow_left₀ (by norm_num) (by positivity) hcube
  · rw [zpow_neg, zpow_natCast]
    calc ((10 : ℚ) ^ n)⁻¹ ≤ ((2 ^ 3) ^ n)⁻¹ :=
          inv_anti₀ (by positivity) (pow_le_pow_left₀ (by norm_num) (by norm_num) n)
      _ = 2 ^ (-(3 * n : Nat) : Int) := by rw [← pow_mul, zpow_neg, zpow_natCast]
      _ ≤ 2 ^ j := zpow_le_zpow_right₀ one_le_two (by push_cast; omega)

section Binary32

open Float.Model

variable {m : Nat} {e : Int}

theorem isProper_of (hm : 0 < m) : (Cell.of .binary32 m e).IsProper := by
  rw [Cell.IsProper, Cell.of]
  dsimp only
  split <;> omega

/-- Only powers of two are not in the middle of their cells. -/
theorem isSymmetric_of (hm : m % 2 = 1) : (Cell.of .binary32 m e).IsSymmetric := by
  have hpower : m ≠ Nat.pow 2 23 := by
    rintro rfl
    cases hm
  rw [Cell.IsSymmetric, Cell.of]
  dsimp only
  rw [if_neg fun h => hpower h.1]
  omega

theorem number_of : (Cell.of .binary32 m e).number = m * 2 ^ e := by
  rw [Cell.number, Cell.value_of, Cell.exponent_of, zpow_sub₀ two_ne_zero]
  push_cast
  ring

/-- The shortest decimal of a number of 32 bits lies in its cell. If the mantissa is odd, it is
within half a unit of its last place of the number. -/
theorem shortest_spec_of (hme : IsCanonical .binary32 m e) (hmax : e ≤ 104) {d : Decimal}
    (hd : d = (Cell.of .binary32 m e).shortest .up) :
    (Cell.of .binary32 m e).Contains d.value ∧
      (m % 2 = 1 → 2 * |d.value - m * 2 ^ e| ≤ 10 ^ d.exponent) ∧
      -70 ≤ d.exponent ∧ d.exponent ≤ 50 := by
  have hmin : -149 ≤ e := hme.min_le
  have hlt : m < 2 ^ 24 := hme.lt
  have hlog : (Cell.of .binary32 m e).high.log2 < 26 := by
    refine (Nat.log2_lt (by simp [Cell.of])).mpr ?_
    rw [Cell.high_of]
    omega
  have hcoarsest : (Cell.of .binary32 m e).coarsest =
      ((Cell.of .binary32 m e).high.log2 + 1 + (e - 2)) * 30103 / 100000 + 1 := rfl
  have hproper := isProper_of (e := e) hme.pos
  have hfine : (10 : ℚ) ^ ((Cell.of .binary32 m e).coarsest - (19 : Nat)) ≤
      2 ^ (Cell.of .binary32 m e).exponent := by
    rw [Cell.exponent_of]
    exact zpow_ten_le_zpow_two (by omega) (by omega)
  obtain ⟨j, hj, hexponent, hmultiple⟩ :=
    Cell.shortest_spec (i := 19) (by decide) (Cell.multiple?_ne_none hproper hfine)
  rw [← hd] at hexponent hmultiple
  rw [← hexponent] at hmultiple
  obtain ⟨hcontains, hnear⟩ := Cell.multiple?_spec hproper hmultiple
  refine ⟨hcontains, fun hodd => ?_, by omega, by omega⟩
  have := hnear (isSymmetric_of hodd)
  rwa [number_of] at this

end Binary32

end SpriteStage
