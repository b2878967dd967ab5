import DesignTokens.Proofs.Number.Interval
import DesignTokens.Proofs.Number.Shortest

/-!
Numbers with six digits.  What a decimal is read as attracts it, so the six digits that are
written for a double are read as the double wherever any six digits are.
-/

namespace DesignTokens

theorem roundQuotient_odd {numerator denominator : Nat} (positive : 0 < denominator)
    (odd : roundQuotient numerator denominator % 2 = 1) :
    |(roundQuotient numerator denominator : ℚ) - numerator / denominator| < 1 / 2 := by
  obtain ⟨whole, named⟩ : ∃ whole, roundQuotient numerator denominator = whole := ⟨_, rfl⟩
  have small := Nat.mod_lt numerator positive
  have division := Nat.div_add_mod numerator denominator
  rw [Nat.mul_comm] at division
  have near : 2 * (whole * denominator) < 2 * numerator + denominator ∧
      2 * numerator < 2 * (whole * denominator) + denominator := by
    rw [named] at odd
    unfold roundQuotient at named
    dsimp only at named
    generalize numerator / denominator = quotient at division named
    generalize numerator % denominator = remainder at division small named
    have next : (quotient + 1) * denominator = quotient * denominator + denominator := by ring
    split at named
    · rw [← named]
      omega
    · split at named
      · rw [← named, next]
        omega
      · split at named <;> omega
  have size : (0 : ℚ) < denominator := Nat.cast_pos.mpr positive
  have casts : (2 * (whole * denominator) : ℚ) < 2 * numerator + denominator ∧
      (2 * numerator : ℚ) < 2 * (whole * denominator) + denominator := by exact_mod_cast near
  rw [named, abs_lt]
  constructor
  · rw [lt_sub_iff_add_lt, ← sub_eq_neg_add, sub_lt_iff_lt_add, div_lt_iff₀ size]
    linarith [casts.2]
  · rw [sub_lt_iff_lt_add, ← sub_lt_iff_lt_add', lt_div_iff₀ size]
    linarith [casts.1]

theorem ofFloat?_infinity (negative : Bool) :
    Binary.ofFloat? (signed negative infinity) = none := by
  cases negative <;> rfl

namespace Binary

variable {b : Binary}

section

variable {negative : Bool} {whole : Nat} {unit : Int} {number : ℚ}

theorem attracts_rounded (near : |(whole : ℚ) - number / 2 ^ unit| ≤ 1 / 2)
    (odd : whole % 2 = 1 → |(whole : ℚ) - number / 2 ^ unit| < 1 / 2)
    (normal : unit = -1074 ∨ 2 ^ 52 ≤ number / 2 ^ unit) :
    Attracts ⟨negative, whole, unit⟩ number := by
  rw [abs_le] at near
  -- A power of two is not below what rounds to it, unless it is the least of all.
  have low : (whole : ℚ) - reach ⟨negative, whole, unit⟩ ≤ number / 2 ^ unit := by
    unfold reach
    split
    · rename_i edge
      have large := normal.resolve_left edge.2.ne'
      have same : (whole : ℚ) = 2 ^ 52 := by exact_mod_cast edge.1
      linarith
    · linarith
  refine ⟨low, by linarith, fun shape => ?_⟩
  have strict := odd shape
  rw [abs_lt] at strict
  have half : reach ⟨negative, whole, unit⟩ = 1 / 2 := by
    refine if_neg fun edge => ?_
    have even : whole = 2 ^ 52 := edge.1
    change whole % 2 = 1 at shape
    omega
  rw [half]
  constructor <;> linarith

/-- What is rounded up to one binary digit more is the next power of two. -/
theorem attracts_carried (near : |(whole : ℚ) - number / 2 ^ unit| ≤ 1 / 2)
    (least : -1074 ≤ unit) (carried : whole = 2 ^ 53) :
    Attracts ⟨negative, 2 ^ 52, unit + 1⟩ number := by
  rw [abs_le] at near
  have quarter : reach ⟨negative, 2 ^ 52, unit + 1⟩ = 1 / 4 :=
    if_pos ⟨rfl, by change -1074 < unit + 1; omega⟩
  have same : (whole : ℚ) = 2 ^ 53 := by exact_mod_cast carried
  have halved : number / 2 ^ (unit + 1) = number / 2 ^ unit / 2 := by
    rw [zpow_add_one₀ (by norm_num : (2 : ℚ) ≠ 0), div_div]
  have even : ¬ 2 ^ 52 % 2 = 1 := by norm_num
  refine ⟨?_, ?_, fun shape => absurd shape even⟩
  · rw [quarter]
    change ((2 ^ 52 : Nat) : ℚ) - 1 / 4 ≤ number / 2 ^ (unit + 1)
    rw [halved]
    push_cast
    linarith
  · change number / 2 ^ (unit + 1) ≤ ((2 ^ 52 : Nat) : ℚ) + 1 / 2
    rw [halved]
    push_cast
    linarith

end

theorem attracts_of_nearestFloat {negative : Bool} {numerator denominator : Nat}
    (some : 0 < numerator) (positive : 0 < denominator)
    (parts : ofFloat? (nearestFloat negative numerator denominator) = .some b) :
    b.Attracts (numerator / denominator) := by
  obtain ⟨unit, named⟩ : ∃ unit, unitExponent numerator denominator = unit := ⟨_, rfl⟩
  have fits := unitExponent_fits some positive
  rw [named] at fits
  obtain ⟨least, short, normal⟩ := fits
  obtain ⟨top, upper⟩ : ∃ top, numerator * Nat.pow 2 (-unit).toNat = top := ⟨_, rfl⟩
  obtain ⟨bottom, lower⟩ : ∃ bottom, denominator * Nat.pow 2 unit.toNat = bottom := ⟨_, rfl⟩
  obtain ⟨whole, rounded⟩ : ∃ whole, roundQuotient top bottom = whole := ⟨_, rfl⟩
  have size : 0 < bottom := lower ▸ Nat.mul_pos positive (Nat.pow_pos (by decide))
  have near := roundQuotient_near top size
  have odd := @roundQuotient_odd top bottom size
  have scaled : (top / bottom : ℚ) = numerator / denominator / 2 ^ unit := by
    rw [← upper, ← lower, scaled_fraction]
  rw [nearestFloat, if_neg some.ne'] at parts
  simp only [named, upper, lower, rounded] at parts
  rw [rounded, scaled] at near odd
  have bounds := abs_le.mp near
  split at parts
  · rename_i finite
    rw [Nat.pow_eq] at finite
    have most : whole ≤ 2 ^ 53 := by
      have bound : (whole : ℚ) < 2 ^ 53 + 1 := by linarith
      exact Nat.lt_succ_iff.mp (by exact_mod_cast bound)
    have full : 2 ^ 52 ≤ whole ∨ unit = -1074 := by
      refine normal.symm.imp_left fun large => ?_
      have bound : (2 ^ 52 : ℚ) < whole + 1 := by linarith
      exact Nat.lt_succ_iff.mp (by exact_mod_cast bound)
    rcases most.lt_or_eq with small | carried
    · have canonical : Canonical whole unit := ⟨small, least, by omega, full⟩
      obtain rfl := Option.some.inj ((ofFloat?_signed canonical negative).symm.trans parts)
      exact attracts_rounded near odd normal
    · have canonical : Canonical (2 ^ 52) (unit + 1) :=
        ⟨by norm_num, by omega, by omega, Or.inl le_rfl⟩
      have bits : (unit + 1074).toNat * Nat.pow 2 52 + whole =
          (unit + 1 + 1074).toNat * 2 ^ 52 + 2 ^ 52 := by
        rw [carried, Nat.pow_eq]
        omega
      rw [bits] at parts
      obtain rfl := Option.some.inj ((ofFloat?_signed canonical negative).symm.trans parts)
      exact attracts_carried near least carried
  · rw [ofFloat?_infinity] at parts
    cases parts

theorem eq_of_value_eq {c : Binary} (first : Canonical b.mantissa b.exponent)
    (second : Canonical c.mantissa c.exponent) (same : b.value = c.value) :
    b.mantissa = c.mantissa ∧ b.exponent = c.exponent := by
  have sizes : ∀ d : Binary, |d.value| = d.mantissa * 2 ^ d.exponent := by
    intro d
    have positive : (0 : ℚ) ≤ d.mantissa * 2 ^ d.exponent := by positivity
    rw [value, abs_mul, abs_of_nonneg positive]
    split <;> simp
  have compared := compare_magnitudes first second
  rw [← sizes, ← sizes, same, cmp_self_eq_eq, Ordering.then_eq_eq, Int.compare_eq_eq,
    Nat.compare_eq_eq] at compared
  exact compared.symm

end Binary

theorem Exactly.of_beq {x y : Float} {number : ℚ} (exact : Exactly y number)
    (same : (x == y) = true) : Exactly x number := by
  rcases exactly_or_not_finite x with ⟨other, found⟩ | undefined | ⟨sign, infinite⟩
  · exact (found.beq_iff exact).mp same ▸ found
  · rw [Undefined.not_beq undefined y] at same
    cases same
  · change (x.toModel.unpack.compare y.toModel.unpack == some .eq) = true at same
    rw [infinite] at same
    rcases exact.unpacked with ⟨other, shape, _⟩ | ⟨other, mantissa, exponent, positive, shape, _⟩
    · rw [shape] at same
      cases sign <;> cases same
    · rw [shape] at same
      cases sign <;> cases same

theorem Decimal.attracts_of_toFloat {x : Float} {b : Binary}
    (parts : Binary.ofFloat? x = some b) (some : 0 < b.mantissa) {decimal : Decimal}
    {negative : Bool} (same : (decimal.toFloat negative == x) = true) :
    b.Attracts decimal.value := by
  have canonical : ∀ {y c}, Binary.ofFloat? y = .some c → Canonical c.mantissa c.exponent :=
    fun read => canonical_of_bits ((ofFloat?_eq_binaryOfBits? _).symm.trans read)
  obtain ⟨c, read, equal⟩ := Exactly.of_beq ⟨b, parts, rfl⟩ same
  obtain ⟨mantissa, exponent⟩ := Binary.eq_of_value_eq (canonical read) (canonical parts) equal
  have attracted : c.Attracts decimal.value → b.Attracts decimal.value := by
    intro attracts
    have reach : c.reach = b.reach := by rw [Binary.reach, Binary.reach, mantissa, exponent]
    obtain ⟨low, high, strict⟩ := attracts
    rw [mantissa, exponent, reach] at low strict
    rw [mantissa, exponent] at high
    exact ⟨low, high, strict⟩
  have nothing : Binary.ofFloat? (nearestFloat negative 0 1) ≠ .some c := by
    intro zero
    have none : c.mantissa = 0 := by
      cases negative <;> exact congrArg Binary.mantissa (Option.some.inj zero).symm
    omega
  rw [Decimal.toFloat] at read
  split at read
  · exact absurd read nothing
  · rename_i visible
    split at read
    · rw [ofFloat?_infinity] at read
      cases read
    · refine attracted ?_
      rw [Decimal.value_eq_fraction]
      have filled : decimal.significand ≠ 0 := fun zero => visible (Or.inl zero)
      exact Binary.attracts_of_nearestFloat
        (Nat.mul_pos (Nat.pos_of_ne_zero filled) (Nat.pow_pos (by decide)))
        (Nat.pow_pos (by decide)) read

theorem lt_pow_leadingPlace {numerator denominator : Nat} (positive : 0 < denominator) :
    (numerator / denominator : ℚ) < 10 ^ leadingPlace numerator denominator := by
  obtain ⟨place, named⟩ : ∃ place : Int, Int.ofNat (decimalDigits numerator).length -
    Int.ofNat (decimalDigits denominator).length = place := ⟨_, rfl⟩
  have size : (0 : ℚ) < denominator := Nat.cast_pos.mpr positive
  rw [leadingPlace]
  simp only [named]
  split
  · have high : (numerator : ℚ) < 10 ^ (decimalDigits numerator).length := by
      exact_mod_cast lt_pow_length numerator
    have low : (10 : ℚ) ^ (decimalDigits denominator).length ≤ 10 * denominator := by
      exact_mod_cast pow_length_le positive
    have shift : (10 : ℚ) ^ (decimalDigits numerator).length =
        10 ^ place * 10 ^ (decimalDigits denominator).length := by
      rw [← named, ← zpow_natCast, ← zpow_natCast, ← zpow_add₀ (by norm_num)]
      congr 1
      simp only [Int.ofNat_eq_natCast]
      ring
    have step : (0 : ℚ) < 10 ^ place := by positivity
    rw [div_lt_iff₀ size, zpow_add_one₀ (by norm_num)]
    calc (numerator : ℚ) < 10 ^ place * 10 ^ (decimalDigits denominator).length := shift ▸ high
      _ ≤ 10 ^ place * (10 * denominator) := by gcongr
      _ = 10 ^ place * 10 * denominator := by ring
  · rename_i below
    have down : 0 < Nat.pow 10 (-place).toNat := Nat.pow_pos (by decide)
    rw [← cast_pow_ten, cast_quotient_lt_iff positive down, Nat.mul_comm (Nat.pow 10 place.toNat)]
    exact Nat.lt_of_not_le below

/-- No whole number is nearer than one that is at most a half away. -/
theorem nearest_whole {whole other : Nat} {number : ℚ} (near : |(whole : ℚ) - number| ≤ 1 / 2) :
    |(whole : ℚ) - number| ≤ |(other : ℚ) - number| := by
  rcases eq_or_ne whole other with rfl | differ
  · exact le_rfl
  · have apart : (1 : ℚ) ≤ |(whole : ℚ) - other| := by
      have far : 1 ≤ |(whole : Int) - other| := Int.one_le_abs (by omega)
      exact_mod_cast far
    have triangle := abs_sub_le (whole : ℚ) number other
    rw [abs_sub_comm number] at triangle
    linarith

namespace Binary

variable {b : Binary} {decimal : Decimal}

def size (b : Binary) : ℚ :=
  b.mantissa * 2 ^ b.exponent

def grid (b : Binary) (digits : Nat) : Int :=
  leadingPlace b.numerator b.denominator - digits

theorem grid_bounds (some : 0 < b.mantissa) (digits : Nat) :
    10 ^ (b.grid digits + digits - 1) ≤ b.size ∧ b.size < 10 ^ (b.grid digits + digits) := by
  have positive : 0 < b.numerator := Nat.mul_pos some (Nat.pow_pos (by decide))
  rw [grid, sub_add_cancel, size, ← fraction_eq]
  exact ⟨pow_leadingPlace_le positive b.denominator_pos, lt_pow_leadingPlace b.denominator_pos⟩

theorem value_significant (b : Binary) (digits : Nat) :
    (b.significant digits).value = (b.significant digits).significand * 10 ^ b.grid digits := rfl

theorem significant_near (b : Binary) (digits : Nat) :
    |((b.significant digits).significand : ℚ) - b.size / 10 ^ b.grid digits| ≤ 1 / 2 := by
  have up : 0 < b.denominator * Nat.pow 10 (b.grid digits).toNat :=
    Nat.mul_pos b.denominator_pos (Nat.pow_pos (by decide))
  have near := roundQuotient_near (b.numerator * Nat.pow 10 (-b.grid digits).toNat) up
  have scaled : ((b.numerator * Nat.pow 10 (-b.grid digits).toNat : Nat) : ℚ) /
      (b.denominator * Nat.pow 10 (b.grid digits).toNat : Nat) = b.size / 10 ^ b.grid digits := by
    rw [size, ← fraction_eq, ← cast_pow_ten, Nat.cast_mul, Nat.cast_mul, div_div_div_eq]
  rwa [scaled] at near

theorem exists_multiple {grid : Int} (coarse : grid ≤ decimal.exponent) :
    ∃ count : Nat, decimal.value = count * 10 ^ grid := by
  refine ⟨decimal.significand * 10 ^ (decimal.exponent - grid).toNat, ?_⟩
  rw [Decimal.value]
  push_cast
  rw [mul_assoc, ← zpow_natCast, ← zpow_add₀ (by norm_num : (10 : ℚ) ≠ 0)]
  congr 2
  omega

/-- A finer decimal of as few digits is a step of the grid below the first place. -/
theorem value_below {digits : Nat} (short : decimal.significand < 10 ^ digits)
    (fine : decimal.exponent < b.grid digits) :
    decimal.value ≤ (10 ^ digits - 1) * 10 ^ (b.grid digits - 1) := by
  have few : (decimal.significand : ℚ) + 1 ≤ 10 ^ digits := by exact_mod_cast short
  have step : (10 : ℚ) ^ decimal.exponent ≤ 10 ^ (b.grid digits - 1) :=
    zpow_le_zpow_right₀ (by norm_num) (by omega)
  have least : (0 : ℚ) ≤ decimal.significand := by positivity
  rw [Decimal.value]
  exact mul_le_mul (by linarith) step (by positivity) (by linarith)

/-- No decimal of as few digits is nearer to a double than the one that is written for it. -/
theorem significant_nearest (some : 0 < b.mantissa) {digits : Nat} (visible : 0 < digits)
    (short : decimal.significand < 10 ^ digits) :
    |(b.significant digits).value - b.size| ≤ |decimal.value - b.size| := by
  have step : (0 : ℚ) < 10 ^ b.grid digits := by positivity
  have onGrid : ∀ count : Nat, |(b.significant digits).value - b.size| ≤
      |count * 10 ^ b.grid digits - b.size| := by
    intro count
    have scaled : ∀ point : ℚ, |point * 10 ^ b.grid digits - b.size| =
        |point - b.size / 10 ^ b.grid digits| * 10 ^ b.grid digits := by
      intro point
      rw [← abs_of_pos step, ← abs_mul, abs_of_pos step, sub_mul, div_mul_cancel₀ _ step.ne']
    rw [value_significant, scaled, scaled]
    exact mul_le_mul_of_nonneg_right (nearest_whole (b.significant_near digits)) step.le
  rcases le_or_gt (b.grid digits) decimal.exponent with coarse | fine
  · obtain ⟨count, value⟩ := exists_multiple coarse
    rw [value]
    exact onGrid count
  · -- Below the first place of the double the grid is at least as near as any finer decimal.
    obtain ⟨before, rfl⟩ : ∃ before, digits = before + 1 := ⟨digits - 1, by omega⟩
    obtain ⟨low, _⟩ := grid_bounds some (before + 1)
    have place : (10 : ℚ) ^ (b.grid (before + 1) + (before + 1 : Nat) - 1) =
        (10 ^ before : Nat) * 10 ^ b.grid (before + 1) := by
      push_cast
      rw [← zpow_natCast, ← zpow_add₀ (by norm_num : (10 : ℚ) ≠ 0)]
      congr 1
      ring
    have under : decimal.value ≤ (10 ^ before : Nat) * 10 ^ b.grid (before + 1) := by
      refine (value_below short fine).trans ?_
      rw [zpow_sub_one₀ (by norm_num : (10 : ℚ) ≠ 0), pow_succ]
      push_cast
      nlinarith
    rw [place] at low
    refine (onGrid (10 ^ before)).trans ?_
    rw [abs_of_nonpos (by linarith), abs_of_nonpos (by linarith)]
    linarith

theorem Attracts.near (attracts : b.Attracts decimal.value) :
    |decimal.value - b.size| ≤ 1 / 2 * 2 ^ b.exponent := by
  have unit : (0 : ℚ) < 2 ^ b.exponent := by positivity
  have low := (le_div_iff₀ unit).mp attracts.low
  have high := (div_le_iff₀ unit).mp attracts.high
  have reach := mul_le_mul_of_nonneg_right b.reach_le unit.le
  rw [size, abs_le]
  constructor <;> linarith

/-- Six digits tell doubles of full length apart, so only one decimal of six digits is as near to
such a double as its rounding reaches. -/
theorem significant_value_eq (full : 2 ^ 52 ≤ b.mantissa) (short : decimal.significand < 10 ^ 6)
    (attracts : b.Attracts decimal.value) : (b.significant 6).value = decimal.value := by
  have some : 0 < b.mantissa := by omega
  obtain ⟨low, high⟩ := grid_bounds some 6
  have step : (0 : ℚ) < 10 ^ b.grid 6 := by positivity
  have unit : (0 : ℚ) < 2 ^ b.exponent := by positivity
  have close : |decimal.value - b.size| < 1 / 10 * 10 ^ b.grid 6 := by
    have wide : (2 ^ 52 : ℚ) * 2 ^ b.exponent ≤ b.size := by
      have cast : (2 ^ 52 : ℚ) ≤ b.mantissa := by exact_mod_cast full
      exact mul_le_mul_of_nonneg_right cast unit.le
    rw [zpow_add₀ (by norm_num : (10 : ℚ) ≠ 0)] at high
    norm_num at high wide
    linarith [attracts.near]
  rcases le_or_gt (b.grid 6) decimal.exponent with coarse | fine
  · obtain ⟨count, value⟩ := exists_multiple coarse
    have near := b.significant_near 6
    have other : |(count : ℚ) - b.size / 10 ^ b.grid 6| < 1 / 10 := by
      rw [value] at close
      rw [← mul_lt_mul_iff_of_pos_right step, ← abs_of_pos step, ← abs_mul, abs_of_pos step,
        sub_mul, div_mul_cancel₀ _ step.ne']
      exact close
    have same : (b.significant 6).significand = count := by
      by_contra differ
      have apart : (1 : ℚ) ≤ |((b.significant 6).significand : ℚ) - count| := by
        have far : 1 ≤ |((b.significant 6).significand : Int) - count| := Int.one_le_abs (by omega)
        exact_mod_cast far
      have triangle := abs_sub_le ((b.significant 6).significand : ℚ) (b.size / 10 ^ b.grid 6) count
      rw [abs_sub_comm (b.size / 10 ^ b.grid 6)] at triangle
      linarith
    rw [value_significant, same, value]
  · have below := value_below short fine
    rw [abs_lt] at close
    rw [show b.grid 6 + (6 : Nat) - 1 = b.grid 6 + 5 by push_cast; ring,
      zpow_add₀ (by norm_num : (10 : ℚ) ≠ 0)] at low
    rw [zpow_sub_one₀ (by norm_num : (10 : ℚ) ≠ 0)] at below
    norm_num at low below
    linarith

/-- The six digits that are written for a double round to it if any six digits do. -/
theorem Attracts.significant (attracts : b.Attracts decimal.value)
    (canonical : Canonical b.mantissa b.exponent) (some : 0 < b.mantissa)
    (short : decimal.significand < 10 ^ 6) : b.Attracts (b.significant 6).value := by
  rcases canonical.normal with full | bottom
  · rwa [significant_value_eq full short attracts]
  · -- The least doubles reach as far down as up, so that what is nearer rounds to them too.
    have half : b.reach = 1 / 2 := if_neg (by omega)
    have unit : (0 : ℚ) < 2 ^ b.exponent := by positivity
    have scaled : ∀ point : ℚ, |point / 2 ^ b.exponent - b.mantissa| * 2 ^ b.exponent =
        |point - b.size| := by
      intro point
      rw [size, ← abs_of_pos unit, ← abs_mul, abs_of_pos unit, sub_mul, div_mul_cancel₀ _ unit.ne']
    have nearer : |(b.significant 6).value / 2 ^ b.exponent - b.mantissa| ≤
        |decimal.value / 2 ^ b.exponent - b.mantissa| := by
      rw [← mul_le_mul_iff_of_pos_right unit, scaled, scaled]
      exact significant_nearest some (by decide) short
    obtain ⟨low, high, strict⟩ := attracts
    rw [half] at low strict
    have close : |decimal.value / 2 ^ b.exponent - b.mantissa| ≤ 1 / 2 := by
      rw [abs_le]
      constructor <;> linarith
    have within := nearer.trans close
    rw [abs_le] at within
    refine ⟨?_, by linarith, fun odd => ?_⟩
    · rw [half]
      linarith
    · have inside : |decimal.value / 2 ^ b.exponent - b.mantissa| < 1 / 2 := by
        rw [abs_lt]
        constructor <;> linarith [(strict odd).1, (strict odd).2]
      have strictly := nearer.trans_lt inside
      rw [abs_lt] at strictly
      rw [half]
      constructor <;> linarith

theorem attracts_size (b : Binary) : b.Attracts b.size := by
  have unit : (2 : ℚ) ^ b.exponent ≠ 0 := by positivity
  have reach : 0 < b.reach := by
    rw [Binary.reach]
    split <;> norm_num
  have scaled : b.size / 2 ^ b.exponent = b.mantissa := by
    rw [Binary.size, mul_div_cancel_right₀ _ unit]
  refine ⟨?_, ?_, fun _ => ⟨?_, ?_⟩⟩ <;> rw [scaled] <;> linarith

theorem significand_bounds (some : 0 < b.mantissa) :
    0 < (b.significant 6).significand ∧ (b.significant 6).significand ≤ 10 ^ 6 := by
  obtain ⟨low, high⟩ := grid_bounds some 6
  have near := b.significant_near 6
  have step : (0 : ℚ) < 10 ^ b.grid 6 := by positivity
  have first : b.grid 6 + (6 : Nat) - 1 = 5 + b.grid 6 := by
    push_cast
    ring
  have last : b.grid 6 + (6 : Nat) = 6 + b.grid 6 := by
    push_cast
    ring
  rw [first, zpow_add₀ (by norm_num : (10 : ℚ) ≠ 0), ← le_div_iff₀ step] at low
  rw [last, zpow_add₀ (by norm_num : (10 : ℚ) ≠ 0), ← div_lt_iff₀ step] at high
  rw [abs_le] at near
  norm_num at low high
  constructor
  · have above : (0 : ℚ) < (b.significant 6).significand := by linarith
    exact_mod_cast above
  · have below : ((b.significant 6).significand : ℚ) < 10 ^ 6 + 1 := by linarith
    exact Nat.lt_succ_iff.mp (by exact_mod_cast below)

end Binary

structure Decimal.Names (decimal : Decimal) (x : Float) : Prop where
  short : decimal.significand < 10 ^ 6
  same : (decimal.toFloat (isNegative x) == x) = true

theorem isNegative_eq {x : Float} {b : Binary} (parts : Binary.ofFloat? x = some b) :
    isNegative x = b.negative := by
  rw [ofFloat?_eq_binaryOfBits?, binaryOfBits?] at parts
  split at parts
  · cases parts
  · split at parts <;> exact congrArg Binary.negative (Option.some.inj parts)

section

variable {x : Float} {b : Binary} {decimal other : Decimal}

/-- What is written for a double is read as the double if any six digits are. -/
theorem toFloat_beq_iff (parts : Binary.ofFloat? x = some b) (some : 0 < b.mantissa)
    (short : decimal.significand < 10 ^ 6) (written : decimal.value = (b.significant 6).value) :
    (decimal.toFloat b.negative == x) = true ↔ ∃ other : Decimal, other.Names x := by
  have canonical := canonical_of_bits ((ofFloat?_eq_binaryOfBits? x).symm.trans parts)
  constructor
  · intro same
    rw [← isNegative_eq parts] at same
    exact ⟨decimal, short, same⟩
  · rintro ⟨other, few, same⟩
    have attracts := (Decimal.attracts_of_toFloat parts some same).significant canonical some few
    rw [← written] at attracts
    have exact : Exactly x b.value := ⟨b, parts, rfl⟩
    rw [Decimal.toFloat_eq parts some attracts, exact.beq_iff exact]

/-- Above a ten-thousandth only one decimal of six digits is read as a double. -/
theorem Decimal.Names.value_eq (names : other.Names x) (parts : Binary.ofFloat? x = some b)
    (some : 0 < b.mantissa) (low : 1 / 10000 ≤ other.value) :
    (b.significant 6).value = other.value := by
  have canonical := canonical_of_bits ((ofFloat?_eq_binaryOfBits? x).symm.trans parts)
  have attracts := Decimal.attracts_of_toFloat parts some names.same
  refine Binary.significant_value_eq (canonical.normal.resolve_right fun bottom => ?_) names.short
    attracts
  have high := attracts.high
  have small : (b.mantissa : ℚ) < 2 ^ 53 := by exact_mod_cast canonical.small
  rw [bottom, div_le_iff₀ (by positivity)] at high
  have tiny : (2 ^ 53 : ℚ) * 2 ^ (-1074 : Int) < 1 / 20000 :=
    calc (2 ^ 53 : ℚ) * 2 ^ (-1074 : Int) ≤ 2 ^ 53 * 2 ^ (-100 : Int) := by
          gcongr <;> norm_num
      _ < 1 / 20000 := by norm_num
  have unit : (0 : ℚ) < 2 ^ (-1074 : Int) := by positivity
  nlinarith

theorem names_zero {x : Float} {b : Binary} (parts : Binary.ofFloat? x = some b)
    (none : b.mantissa = 0) : Decimal.Names ⟨0, 0⟩ x := by
  have exact : Exactly x b.value := ⟨b, parts, rfl⟩
  refine ⟨by decide, ?_⟩
  rw [isNegative_eq parts, Decimal.toFloat_zero parts none, exact.beq_iff exact]

theorem exists_names_zero {x : Float} (zero : Exactly x 0) :
    ∃ decimal : Decimal, decimal.Names x := by
  obtain ⟨b, parts, value⟩ := zero
  refine ⟨_, names_zero parts ?_⟩
  by_contra some
  have positive := magnitude_pos (Nat.pos_of_ne_zero some) b.exponent
  rw [Binary.value] at value
  split at value <;> linarith

end

end DesignTokens
