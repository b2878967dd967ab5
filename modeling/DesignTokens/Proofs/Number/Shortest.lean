import DesignTokens.Number.Layout
import DesignTokens.Proofs.Number.Nearest
import DesignTokens.Proofs.Text.Digits

/-!
Decimals for doubles.  The decimal that stands for a double lies so close to it that
every decimal of the same value is read as that double.
-/

namespace DesignTokens

open Float.Model (Format UnpackedFloat)
open Float.Model.UnpackedFloat

theorem eq_of_toBits {x y : Float} (same : x.toBits = y.toBits) : x = y := by
  rcases x with ⟨⟨first, _⟩⟩
  rcases y with ⟨⟨second, _⟩⟩
  obtain rfl : first = second := same
  rfl

theorem eq_of_parts {x y : Float} {b : Binary} (first : Binary.ofFloat? x = some b)
    (second : Binary.ofFloat? y = some b) : x = y := by
  have word : ∀ {x : Float}, Binary.ofFloat? x = some b → x.toBits.toNat =
      (if b.negative then 2 ^ 63 else 0) + (b.exponent + 1074).toNat * 2 ^ 52 + b.mantissa := by
    intro x parts
    have bound := x.toBits.toNat_lt
    rw [ofFloat?_eq_binaryOfBits?] at parts
    generalize x.toBits.toNat = bits at parts bound
    unfold binaryOfBits? at parts
    split at parts
    · cases parts
    · split at parts
      · obtain rfl := Option.some.inj parts
        cases sign : bits / 2 ^ 63 == 1 <;> simp at sign ⊢ <;> omega
      · obtain rfl := Option.some.inj parts
        cases sign : bits / 2 ^ 63 == 1 <;> simp at sign ⊢ <;> omega
  exact eq_of_toBits (UInt64.toNat_inj.mp ((word first).trans (word second).symm))

theorem isFinite_iff {x : Float} : x.isFinite = true ↔ ∃ b, Binary.ofFloat? x = some b := by
  rw [ofFloat?_eq_partsOf?]
  change x.toModel.unpack.isFinite = true ↔ _
  have missing : ¬ ∃ b, (none : Option Binary) = some b := by
    rintro ⟨b, parts⟩
    exact Option.some_ne_none b parts.symm
  cases x.toModel.unpack with
  | zero sign => exact iff_of_true rfl ⟨_, rfl⟩
  | finite sign mantissa exponent positive => exact iff_of_true rfl ⟨_, rfl⟩
  | infinity sign => exact iff_of_false Bool.false_ne_true missing
  | notANumber => exact iff_of_false Bool.false_ne_true missing

namespace Binary

theorem ofFloat?_neg {x : Float} {b : Binary} (parts : ofFloat? x = some b) :
    ofFloat? (-x) = some { b with negative := !b.negative } := by
  have canonical := canonical_of_bits ((ofFloat?_eq_binaryOfBits? x).symm.trans parts)
  rw [ofFloat?_eq_partsOf?] at parts
  change ofFloat? (.ofModel (.pack x.toModel.unpack.neg)) = _
  have flipped : ∀ sign, isMinus (-sign) = !isMinus sign := by
    intro sign
    cases sign <;> rfl
  rcases partsOf?_eq_some parts with ⟨sign, shape, rfl⟩ |
    ⟨sign, mantissa, exponent, positive, shape, rfl⟩
  · rw [shape, ← flipped]
    exact partsOf?_pack_zero (-sign)
  · rw [shape, ← flipped]
    exact partsOf?_pack_finite (-sign) positive canonical

theorem ofFloat?_signed {mantissa : Nat} {exponent : Int} (canonical : Canonical mantissa exponent)
    (negative : Bool) :
    ofFloat? (signed negative
      (Float.ofBits (UInt64.ofNat ((exponent + 1074).toNat * 2 ^ 52 + mantissa)))) =
      some ⟨negative, mantissa, exponent⟩ := by
  have word : (UInt64.ofNat ((exponent + 1074).toNat * 2 ^ 52 + mantissa)).toNat =
      (exponent + 1074).toNat * 2 ^ 52 + mantissa := by
    rcases canonical with ⟨small, least, most, normal⟩
    rw [UInt64.toNat_ofNat']
    omega
  have parts := binaryOfBits?_eq_some canonical false
  rw [if_neg (by decide), Nat.zero_add, ← word] at parts
  cases negative with
  | false => exact ofFloat?_ofBits parts
  | true => exact ofFloat?_neg (ofFloat?_ofBits parts)

def reach (b : Binary) : ℚ :=
  if b.mantissa = 2 ^ 52 ∧ -1074 < b.exponent then 1 / 4 else 1 / 2

structure Attracts (b : Binary) (number : ℚ) : Prop where
  low : b.mantissa - b.reach ≤ number / 2 ^ b.exponent
  high : number / 2 ^ b.exponent ≤ b.mantissa + 1 / 2
  strict : b.mantissa % 2 = 1 →
    b.mantissa - b.reach < number / 2 ^ b.exponent ∧ number / 2 ^ b.exponent < b.mantissa + 1 / 2

end Binary

theorem cast_quotient_le_iff {a b c d : Nat} (first : 0 < b) (second : 0 < d) :
    (a / b : ℚ) ≤ c / d ↔ a * d ≤ c * b := by
  rw [div_le_div_iff₀ (Nat.cast_pos.mpr first) (Nat.cast_pos.mpr second)]
  exact_mod_cast Iff.rfl

theorem cast_quotient_lt_iff {a b c d : Nat} (first : 0 < b) (second : 0 < d) :
    (a / b : ℚ) < c / d ↔ a * d < c * b := by
  rw [div_lt_div_iff₀ (Nat.cast_pos.mpr first) (Nat.cast_pos.mpr second)]
  exact_mod_cast Iff.rfl

theorem roundQuotient_eq {numerator denominator whole : Nat} (positive : 0 < denominator)
    (low : (whole : ℚ) - 1 / 2 ≤ numerator / denominator)
    (high : (numerator : ℚ) / denominator ≤ whole + 1 / 2)
    (strict : whole % 2 = 1 → (whole : ℚ) - 1 / 2 < numerator / denominator ∧
      (numerator : ℚ) / denominator < whole + 1 / 2) :
    roundQuotient numerator denominator = whole := by
  have size : (0 : ℚ) < denominator := Nat.cast_pos.mpr positive
  rw [le_div_iff₀ size] at low
  rw [div_le_iff₀ size] at high
  rw [lt_div_iff₀ size, div_lt_iff₀ size] at strict
  have least : 2 * (whole * denominator) ≤ 2 * numerator + denominator := by
    have cast : (2 * (whole * denominator) : ℚ) ≤ 2 * numerator + denominator := by linarith
    exact_mod_cast cast
  have most : 2 * numerator ≤ 2 * (whole * denominator) + denominator := by
    have cast : (2 * numerator : ℚ) ≤ 2 * (whole * denominator) + denominator := by linarith
    exact_mod_cast cast
  have odd : whole % 2 = 1 → 2 * (whole * denominator) < 2 * numerator + denominator ∧
      2 * numerator < 2 * (whole * denominator) + denominator := by
    intro shape
    have casts : (2 * (whole * denominator) : ℚ) < 2 * numerator + denominator ∧
        (2 * numerator : ℚ) < 2 * (whole * denominator) + denominator := by
      constructor <;> linarith [(strict shape).1, (strict shape).2]
    exact_mod_cast casts
  have division := Nat.div_add_mod numerator denominator
  have small := Nat.mod_lt numerator positive
  rw [Nat.mul_comm] at division
  unfold roundQuotient
  dsimp only
  generalize numerator / denominator = quotient at division ⊢
  generalize numerator % denominator = remainder at division small ⊢
  have near : whole = quotient ∨ whole = quotient + 1 := by
    have below : quotient < whole + 1 := by
      refine Nat.lt_of_mul_lt_mul_right (a := denominator) ?_
      rw [Nat.add_mul]
      omega
    have above : whole < quotient + 2 := by
      refine Nat.lt_of_mul_lt_mul_right (a := denominator) ?_
      rw [Nat.add_mul]
      omega
    omega
  rcases near with rfl | rfl
  · generalize whole * denominator = product at *
    split
    · rfl
    · split
      · omega
      · split
        · rfl
        · omega
  · rw [Nat.add_mul] at *
    generalize quotient * denominator = product at *
    split
    · omega
    · split
      · rfl
      · split
        · omega
        · rfl

namespace Binary

variable {b : Binary} {number : ℚ}

theorem reach_le (b : Binary) : b.reach ≤ 1 / 2 := by
  unfold reach
  split <;> norm_num

/-- The unit of what rounds to a double is the double's own, or the one below where the double
is a power of two. -/
theorem Attracts.unit (attracts : b.Attracts number) (canonical : Canonical b.mantissa b.exponent)
    {unit : Int} (least : -1074 ≤ unit) (short : number / 2 ^ unit < 2 ^ 53)
    (normal : unit = -1074 ∨ 2 ^ 52 ≤ number / 2 ^ unit) :
    unit = b.exponent ∨ unit + 1 = b.exponent ∧ b.mantissa = 2 ^ 52 := by
  have scaled : number / 2 ^ unit = number / 2 ^ b.exponent * 2 ^ (b.exponent - unit) := by
    rw [zpow_sub₀ (by norm_num : (2 : ℚ) ≠ 0)]
    field_simp
  have low := attracts.low
  have high := attracts.high
  have reach := b.reach_le
  have small : (b.mantissa : ℚ) + 1 ≤ 2 ^ 53 := by exact_mod_cast canonical.small
  rw [scaled] at short normal
  generalize number / 2 ^ b.exponent = scale at *
  rcases lt_trichotomy unit b.exponent with below | same | above
  · right
    have full : 2 ^ 52 ≤ b.mantissa := by
      rcases canonical.normal with full | bottom
      · exact full
      · omega
    have cast : (2 ^ 52 : ℚ) ≤ b.mantissa := by exact_mod_cast full
    have positive : (0 : ℚ) < scale := by linarith
    have bounded : ∀ power : Int, power ≤ b.exponent - unit → scale * 2 ^ power < 2 ^ 53 := by
      intro power smaller
      have step : (2 : ℚ) ^ power ≤ 2 ^ (b.exponent - unit) :=
        zpow_le_zpow_right₀ (by norm_num) smaller
      exact (mul_le_mul_of_nonneg_left step positive.le).trans_lt short
    constructor
    · by_contra far
      have twice := bounded 2 (by omega)
      norm_num at twice
      linarith
    · by_contra larger
      have beyond : (2 ^ 52 + 1 : ℚ) ≤ b.mantissa := by
        exact_mod_cast (by omega : 2 ^ 52 + 1 ≤ b.mantissa)
      have once := bounded 1 (by omega)
      norm_num at once
      linarith
  · exact Or.inl same
  · have larger : (2 ^ 52 : ℚ) ≤ scale * 2 ^ (b.exponent - unit) := by
      have least := canonical.least
      rcases normal with bottom | larger
      · omega
      · exact larger
    have half : (2 : ℚ) ^ (b.exponent - unit) ≤ 2 ^ (-1 : Int) :=
      zpow_le_zpow_right₀ (by norm_num) (by omega)
    have step : (0 : ℚ) < 2 ^ (b.exponent - unit) := by positivity
    norm_num at half
    nlinarith

theorem Attracts.roundQuotient {top bottom : Nat} {unit : Int} (whole : 0 < bottom)
    (scaled : (top / bottom : ℚ) = number / 2 ^ unit) (attracts : b.Attracts number)
    (least : -1074 ≤ unit) (short : number / 2 ^ unit < 2 ^ 53)
    (own : unit = b.exponent ∨ unit + 1 = b.exponent ∧ b.mantissa = 2 ^ 52) :
    (unit + 1074).toNat * 2 ^ 52 + DesignTokens.roundQuotient top bottom =
      (b.exponent + 1074).toNat * 2 ^ 52 + b.mantissa := by
  have low := attracts.low
  have reach := b.reach_le
  rcases own with rfl | ⟨next, edge⟩
  · have rounded : DesignTokens.roundQuotient top bottom = b.mantissa := by
      refine roundQuotient_eq whole ?_ ?_ ?_
      · rw [scaled]
        linarith
      · rw [scaled]
        exact attracts.high
      · intro odd
        rw [scaled]
        exact ⟨by linarith [(attracts.strict odd).1], (attracts.strict odd).2⟩
    rw [rounded]
  · -- Just below a power of two the fraction is rounded up to it.
    have quarter : b.reach = 1 / 4 := if_pos ⟨edge, by omega⟩
    have double : (top / bottom : ℚ) = number / 2 ^ b.exponent * 2 := by
      rw [scaled, ← next, zpow_add_one₀ (by norm_num : (2 : ℚ) ≠ 0)]
      field_simp
    have rounded : DesignTokens.roundQuotient top bottom = 2 ^ 53 := by
      rw [quarter, edge] at low
      refine roundQuotient_eq whole ?_ ?_ fun odd => absurd odd (by decide)
      · rw [double]
        push_cast at low ⊢
        linarith
      · rw [scaled]
        push_cast
        linarith
    rw [rounded, edge]
    omega

theorem Attracts.nearestFloat {numerator denominator : Nat} (positive : 0 < denominator)
    (attracts : b.Attracts (numerator / denominator))
    (canonical : Canonical b.mantissa b.exponent) (some : 0 < b.mantissa) (negative : Bool) :
    DesignTokens.nearestFloat negative numerator denominator = signed negative
      (Float.ofBits (UInt64.ofNat ((b.exponent + 1074).toNat * 2 ^ 52 + b.mantissa))) := by
  have size : (0 : ℚ) < denominator := Nat.cast_pos.mpr positive
  have least : (1 : ℚ) ≤ b.mantissa := by exact_mod_cast some
  have above : 0 < numerator := by
    have low := attracts.low
    have reach := b.reach_le
    by_contra none
    obtain rfl : numerator = 0 := by omega
    norm_num at low
    linarith
  obtain ⟨unit, named⟩ : ∃ unit, unitExponent numerator denominator = unit := ⟨_, rfl⟩
  have fits := unitExponent_fits above positive
  rw [named] at fits
  obtain ⟨bound, short, normal⟩ := fits
  obtain ⟨top, upper⟩ : ∃ top, numerator * Nat.pow 2 (-unit).toNat = top := ⟨_, rfl⟩
  obtain ⟨bottom, lower⟩ : ∃ bottom, denominator * Nat.pow 2 unit.toNat = bottom := ⟨_, rfl⟩
  have whole : 0 < bottom := lower ▸ Nat.mul_pos positive (Nat.pow_pos (by decide))
  have scaled : (top / bottom : ℚ) = numerator / denominator / 2 ^ unit := by
    rw [← upper, ← lower, scaled_fraction]
  have bits : (unit + 1074).toNat * Nat.pow 2 52 + DesignTokens.roundQuotient top bottom =
      (b.exponent + 1074).toNat * 2 ^ 52 + b.mantissa :=
    attracts.roundQuotient whole scaled bound short (attracts.unit canonical bound short normal)
  have finite : (b.exponent + 1074).toNat * 2 ^ 52 + b.mantissa < 0x7FF0000000000000 := by
    have small := canonical.small
    have most := canonical.most
    omega
  rw [DesignTokens.nearestFloat, if_neg above.ne']
  simp only [named, upper, lower, bits]
  exact if_pos finite

end Binary

namespace Binary

variable {b : Binary} {numerator denominator : Nat}

theorem cast_quarters (b : Binary) (quarters : Nat) :
    ((quarters * Nat.pow 2 (b.exponent - 2).toNat : Nat) : ℚ) /
      (Nat.pow 2 (2 - b.exponent).toNat : Nat) = quarters / 4 * 2 ^ b.exponent := by
  have scaled := scaled_fraction quarters 1 (2 - b.exponent)
  rw [neg_sub, Nat.one_mul, Nat.cast_one, div_one, zpow_sub₀ (by norm_num : (2 : ℚ) ≠ 0)] at scaled
  rw [scaled]
  field_simp
  norm_num

/-- The points of the interval are the fractions that round to the double. -/
theorem contains_interval_iff (some : 0 < b.mantissa) (positive : 0 < denominator) :
    b.interval.contains numerator denominator = true ↔ b.Attracts (numerator / denominator) := by
  obtain ⟨below, named⟩ : ∃ below : Nat,
      (if b.mantissa = Nat.pow 2 52 ∧ -1074 < b.exponent then 1 else 2) = below := ⟨_, rfl⟩
  have least : below ≤ 4 * b.mantissa := by
    rw [← named]
    split <;> omega
  have reach : b.reach = below / 4 := by
    rw [reach, ← named, Nat.pow_eq]
    split <;> norm_num
  have unit : (0 : ℚ) < 2 ^ b.exponent := by positivity
  have down : 0 < Nat.pow 2 (2 - b.exponent).toNat := Nat.pow_pos (by decide)
  have low : ((4 * b.mantissa - below) * Nat.pow 2 (b.exponent - 2).toNat : Nat) /
      (Nat.pow 2 (2 - b.exponent).toNat : Nat) = (b.mantissa - b.reach) * 2 ^ b.exponent := by
    rw [cast_quarters, reach, Nat.cast_sub least]
    push_cast
    ring
  have high : ((4 * b.mantissa + 2) * Nat.pow 2 (b.exponent - 2).toNat : Nat) /
      (Nat.pow 2 (2 - b.exponent).toNat : Nat) = (b.mantissa + 1 / 2 : ℚ) * 2 ^ b.exponent := by
    rw [cast_quarters]
    push_cast
    ring
  unfold RoundingInterval.contains interval
  simp only [named]
  by_cases even : b.mantissa % 2 = 0
  · rw [if_pos (decide_eq_true even), Bool.and_eq_true, decide_eq_true_iff, decide_eq_true_iff,
      ← cast_quotient_le_iff down positive, ← cast_quotient_le_iff positive down, low, high,
      ← le_div_iff₀ unit, ← div_le_iff₀ unit]
    exact ⟨fun ⟨first, second⟩ => ⟨first, second, fun odd => by omega⟩,
      fun attracts => ⟨attracts.low, attracts.high⟩⟩
  · rw [if_neg (by simpa using even), Bool.and_eq_true, decide_eq_true_iff, decide_eq_true_iff,
      ← cast_quotient_lt_iff down positive, ← cast_quotient_lt_iff positive down, low, high,
      ← lt_div_iff₀ unit, ← div_lt_iff₀ unit]
    exact ⟨fun inside => ⟨inside.1.le, inside.2.le, fun _ => inside⟩,
      fun attracts => attracts.strict (by omega)⟩

end Binary

def Decimal.value (decimal : Decimal) : ℚ :=
  decimal.significand * 10 ^ decimal.exponent

theorem cast_pow_ten (grid : Int) :
    ((Nat.pow 10 grid.toNat : Nat) : ℚ) / (Nat.pow 10 (-grid).toNat : Nat) = 10 ^ grid := by
  simp only [Nat.pow_eq]
  rcases le_total 0 grid with up | down
  · obtain ⟨power, rfl⟩ := Int.eq_ofNat_of_zero_le up
    rw [Int.toNat_natCast, show (-(power : Int)).toNat = 0 by omega, zpow_natCast]
    simp
  · obtain ⟨power, same⟩ : ∃ power : Nat, grid = -power := ⟨grid.natAbs, by omega⟩
    rw [same, neg_neg, Int.toNat_natCast, show (-(power : Int)).toNat = 0 by omega, zpow_neg,
      zpow_natCast]
    simp

theorem Decimal.value_eq_fraction (decimal : Decimal) :
    decimal.value = ((decimal.significand * Nat.pow 10 decimal.exponent.toNat : Nat) : ℚ) /
      (Nat.pow 10 (-decimal.exponent).toNat : Nat) := by
  rw [value, ← cast_pow_ten, Nat.cast_mul, mul_div_assoc]

namespace Binary

variable {b : Binary}

theorem gridPoint?_attracts (some : 0 < b.mantissa) {grid : Int} {decimal : Decimal}
    (found : b.interval.gridPoint? grid = .some decimal) : b.Attracts decimal.value := by
  have down : 0 < Nat.pow 10 (-grid).toNat := Nat.pow_pos (by decide)
  have inside : ∀ point : Nat, b.interval.contains (point * Nat.pow 10 grid.toNat)
      (Nat.pow 10 (-grid).toNat) = true → b.Attracts (Decimal.value ⟨point, grid⟩) := by
    intro point held
    rw [Decimal.value_eq_fraction]
    exact (contains_interval_iff some down).mp held
  unfold RoundingInterval.gridPoint? at found
  extract_lets up down floor nearest other at found
  split at found
  · rename_i held
    exact Option.some.inj found ▸ inside _ held
  · split at found
    · rename_i held
      exact Option.some.inj found ▸ inside _ held
    · cases found

theorem attracts_of_near (canonical : Canonical b.mantissa b.exponent) (some : 0 < b.mantissa)
    {number : ℚ} (near : |number / 2 ^ b.exponent - b.mantissa| < b.mantissa / 2 ^ 54) :
    b.Attracts number := by
  have whole : (0 : ℚ) < b.mantissa := Nat.cast_pos.mpr some
  have small : (b.mantissa : ℚ) < 2 ^ 53 := by exact_mod_cast canonical.small
  have reach : b.mantissa / 2 ^ 54 ≤ b.reach := by
    rw [reach]
    split
    · rename_i edge
      rw [edge.1]
      norm_num
    · linarith
  rw [abs_lt] at near
  exact ⟨by linarith, by linarith, fun _ => ⟨by linarith, by linarith⟩⟩

/-- On a fine grid the nearest point rounds to the double: at most half a step away, it is
closer than the next double on either side. -/
theorem gridPoint?_fine (canonical : Canonical b.mantissa b.exponent) (some : 0 < b.mantissa)
    {grid : Int} (fine : (10 : ℚ) ^ grid * 10 ^ 16 ≤ b.mantissa * 2 ^ b.exponent) :
    ∃ decimal, b.interval.gridPoint? grid = .some decimal := by
  have down : 0 < Nat.pow 10 (-grid).toNat := Nat.pow_pos (by decide)
  have up : 0 < Nat.pow 10 grid.toNat := Nat.pow_pos (by decide)
  have unit : (0 : ℚ) < 2 ^ b.exponent := by positivity
  have step : (0 : ℚ) < 10 ^ grid := by positivity
  have size : 0 < b.interval.denominator := Nat.pow_pos (by decide)
  obtain ⟨nearest, named⟩ : ∃ nearest, roundQuotient (b.interval.value * Nat.pow 10 (-grid).toNat)
    (b.interval.denominator * Nat.pow 10 grid.toNat) = nearest := ⟨_, rfl⟩
  have value : (b.interval.value : ℚ) / b.interval.denominator = b.mantissa * 2 ^ b.exponent := by
    have quarters := cast_quarters b (4 * b.mantissa)
    push_cast at quarters
    rw [mul_div_cancel_left₀ _ (by norm_num : (4 : ℚ) ≠ 0)] at quarters
    exact_mod_cast quarters
  have near := roundQuotient_near (b.interval.value * Nat.pow 10 (-grid).toNat)
    (Nat.mul_pos size up)
  have scaled : ((b.interval.value * Nat.pow 10 (-grid).toNat : Nat) : ℚ) /
      (b.interval.denominator * Nat.pow 10 grid.toNat : Nat) =
        b.mantissa * 2 ^ b.exponent / 10 ^ grid := by
    rw [← value, ← cast_pow_ten, Nat.cast_mul, Nat.cast_mul, div_div_div_eq]
  rw [named, scaled] at near
  have whole : (0 : ℚ) < b.mantissa := Nat.cast_pos.mpr some
  obtain ⟨ratio, same⟩ : ∃ ratio : ℚ, 10 ^ grid / 2 ^ b.exponent = ratio := ⟨_, rfl⟩
  have positive : 0 < ratio := same ▸ div_pos step unit
  have few : ratio * 10 ^ 16 ≤ b.mantissa := by
    rw [← same, div_mul_eq_mul_div, div_le_iff₀ unit]
    exact fine
  have attracts : b.Attracts (Decimal.value ⟨nearest, grid⟩) := by
    refine attracts_of_near canonical some ?_
    calc |Decimal.value ⟨nearest, grid⟩ / 2 ^ b.exponent - b.mantissa|
        = |(nearest : ℚ) - b.mantissa * 2 ^ b.exponent / 10 ^ grid| * ratio := by
          rw [← abs_of_pos positive, ← abs_mul, sub_mul, ← same, Decimal.value]
          field_simp
      _ ≤ 1 / 2 * ratio := by gcongr
      _ < b.mantissa / 2 ^ 54 := by linarith
  refine ⟨⟨nearest, grid⟩, ?_⟩
  rw [Decimal.value_eq_fraction] at attracts
  have inside := (contains_interval_iff some down).mpr attracts
  rw [RoundingInterval.gridPoint?]
  simp only [named]
  exact if_pos inside

end Binary

theorem pow_leadingPlace_le {numerator denominator : Nat} (some : 0 < numerator)
    (positive : 0 < denominator) :
    (10 : ℚ) ^ (leadingPlace numerator denominator - 1) ≤ numerator / denominator := by
  obtain ⟨place, named⟩ : ∃ place : Int, Int.ofNat (decimalDigits numerator).length -
    Int.ofNat (decimalDigits denominator).length = place := ⟨_, rfl⟩
  have size : (0 : ℚ) < denominator := Nat.cast_pos.mpr positive
  rw [leadingPlace]
  simp only [named]
  split
  · rename_i above
    have down : 0 < Nat.pow 10 (-place).toNat := Nat.pow_pos (by decide)
    rw [add_sub_cancel_right, ← cast_pow_ten, cast_quotient_le_iff down positive, Nat.mul_comm]
    exact above
  · have low : (10 : ℚ) ^ (decimalDigits numerator).length ≤ 10 * numerator := by
      exact_mod_cast pow_length_le some
    have high : (denominator : ℚ) ≤ 10 ^ (decimalDigits denominator).length := by
      exact_mod_cast (lt_pow_length denominator).le
    have shift : (10 : ℚ) ^ (place - 1) * 10 ^ (decimalDigits denominator).length =
        10 ^ (decimalDigits numerator).length / 10 := by
      rw [← named, ← zpow_natCast, ← zpow_natCast, ← zpow_add₀ (by norm_num),
        div_eq_mul_inv, ← zpow_sub_one₀ (by norm_num)]
      congr 1
      simp only [Int.ofNat_eq_natCast]
      ring
    have step : (0 : ℚ) < 10 ^ (place - 1) := by positivity
    rw [le_div_iff₀ size]
    calc (10 : ℚ) ^ (place - 1) * denominator
        ≤ 10 ^ (place - 1) * 10 ^ (decimalDigits denominator).length := by gcongr
      _ = 10 ^ (decimalDigits numerator).length / 10 := shift
      _ ≤ numerator := by linarith

namespace Binary

variable {b : Binary}

theorem fraction_eq (b : Binary) :
    (b.numerator : ℚ) / b.denominator = b.mantissa * 2 ^ b.exponent := by
  have scaled := scaled_fraction b.mantissa 1 (-b.exponent)
  rw [neg_neg, Nat.one_mul, Nat.cast_one, div_one, zpow_neg, div_inv_eq_mul] at scaled
  exact scaled

theorem firstGridPoint?_attracts (some : 0 < b.mantissa) {place : Int} {digits : List Nat}
    {decimal : Decimal} (found : b.interval.firstGridPoint? place digits = .some decimal) :
    b.Attracts decimal.value := by
  induction digits with
  | nil => cases found
  | cons count rest ih =>
      rw [RoundingInterval.firstGridPoint?] at found
      split at found
      · rename_i point first
        exact gridPoint?_attracts some (first.trans found)
      · exact ih found

theorem firstGridPoint?_total {place : Int} {digits : List Nat} {count : Nat}
    (listed : count ∈ digits) {point : Decimal}
    (present : b.interval.gridPoint? (place - count) = .some point) :
    ∃ decimal, b.interval.firstGridPoint? place digits = .some decimal := by
  induction digits with
  | nil => cases listed
  | cons head rest ih =>
      rw [RoundingInterval.firstGridPoint?]
      split
      · exact ⟨_, rfl⟩
      · rename_i none
        rcases List.mem_cons.mp listed with rfl | later
        · exact nomatch none.symm.trans present
        · exact ih later

/-- Seventeen digits suffice, and what they are read as is the double. -/
theorem shortest_attracts (canonical : Canonical b.mantissa b.exponent) (some : 0 < b.mantissa) :
    b.Attracts b.shortest.value := by
  obtain ⟨place, named⟩ : ∃ place, leadingPlace b.numerator b.denominator = place := ⟨_, rfl⟩
  have positive : 0 < b.numerator := Nat.mul_pos some (Nat.pow_pos (by decide))
  have leading := pow_leadingPlace_le positive b.denominator_pos
  rw [named, b.fraction_eq] at leading
  -- The leading place is at most one too large, so seventeen digits go sixteen places below it.
  have fine : (10 : ℚ) ^ (place - (17 : Nat)) * 10 ^ 16 ≤ b.mantissa * 2 ^ b.exponent := by
    refine le_trans (le_of_eq ?_) leading
    rw [← zpow_natCast, ← zpow_add₀ (by norm_num : (10 : ℚ) ≠ 0)]
    congr 1
    push_cast
    ring
  rcases gridPoint?_fine canonical some fine with ⟨point, last⟩
  rcases firstGridPoint?_total (by decide : 17 ∈ List.range' 1 17) last with ⟨decimal, found⟩
  have shortest : b.shortest = decimal := by
    rw [Binary.shortest]
    simp only [named, found, Option.getD_some]
  rw [shortest]
  exact firstGridPoint?_attracts some found

end Binary

namespace Binary

variable {b : Binary} {number : ℚ}

theorem two_pow_lt : (2 : ℚ) ^ 1075 < 10 ^ 400 :=
  calc (2 : ℚ) ^ 1075 ≤ 2 ^ (3 * 400) := pow_le_pow_right₀ (by norm_num) (by norm_num)
    _ = (2 ^ 3) ^ 400 := pow_mul 2 3 400
    _ < 10 ^ 400 := pow_lt_pow_left₀ (by norm_num) (by norm_num) (by norm_num)

/-- What rounds to a positive double is neither very small nor very large. -/
theorem Attracts.bounds (attracts : b.Attracts number) (canonical : Canonical b.mantissa b.exponent)
    (some : 0 < b.mantissa) : (10 ^ 400 : ℚ)⁻¹ < number ∧ number < 10 ^ 400 := by
  have unit : (0 : ℚ) < 2 ^ b.exponent := by positivity
  have low := attracts.low
  have high := attracts.high
  have reach := b.reach_le
  have whole : (1 : ℚ) ≤ b.mantissa := by exact_mod_cast some
  have small : (b.mantissa : ℚ) + 1 ≤ 2 ^ 53 := by exact_mod_cast canonical.small
  rw [le_div_iff₀ unit] at low
  rw [div_le_iff₀ unit] at high
  constructor
  · have least : (2 ^ 1075 : ℚ)⁻¹ ≤ 1 / 2 * 2 ^ b.exponent := by
      have exponent := canonical.least
      have step : (2 : ℚ) ^ (-1074 : Int) ≤ 2 ^ b.exponent :=
        zpow_le_zpow_right₀ (by norm_num) exponent
      have half : (2 ^ 1075 : ℚ)⁻¹ = 1 / 2 * 2 ^ (-1074 : Int) := by
        rw [zpow_neg, pow_succ, mul_inv, mul_comm, one_div]
        rfl
      rw [half]
      gcongr
    calc (10 ^ 400 : ℚ)⁻¹ < (2 ^ 1075)⁻¹ := inv_strictAnti₀ (by positivity) two_pow_lt
      _ ≤ 1 / 2 * 2 ^ b.exponent := least
      _ ≤ (b.mantissa - b.reach) * 2 ^ b.exponent := by
        gcongr
        linarith
      _ ≤ number := low
  · have most : (2 : ℚ) ^ 53 * 2 ^ b.exponent ≤ 2 ^ 1075 := by
      have exponent := canonical.most
      rw [← zpow_natCast, ← zpow_natCast, ← zpow_add₀ (by norm_num)]
      exact zpow_le_zpow_right₀ (by norm_num) (by push_cast; omega)
    calc number ≤ (b.mantissa + 1 / 2) * 2 ^ b.exponent := high
      _ ≤ 2 ^ 53 * 2 ^ b.exponent := by
        gcongr
        linarith
      _ ≤ 2 ^ 1075 := most
      _ < 10 ^ 400 := two_pow_lt

end Binary

theorem Decimal.value_bounds {decimal : Decimal} (some : 0 < decimal.significand) {place : Int}
    (named : Int.ofNat (decimalDigits decimal.significand).length + decimal.exponent = place) :
    10 ^ (place - 1) ≤ decimal.value ∧ decimal.value < 10 ^ place := by
  have unit : (0 : ℚ) < 10 ^ decimal.exponent := by positivity
  have low : (10 : ℚ) ^ (decimalDigits decimal.significand).length ≤ 10 * decimal.significand := by
    exact_mod_cast pow_length_le some
  have high : (decimal.significand : ℚ) < 10 ^ (decimalDigits decimal.significand).length := by
    exact_mod_cast lt_pow_length decimal.significand
  have power : (10 : ℚ) ^ place =
      10 ^ (decimalDigits decimal.significand).length * 10 ^ decimal.exponent := by
    rw [← named, zpow_add₀ (by norm_num), Int.ofNat_eq_natCast, zpow_natCast]
  rw [zpow_sub_one₀ (by norm_num), power, value]
  constructor <;> nlinarith

theorem Binary.Attracts.significand_pos {b : Binary} {decimal : Decimal}
    (attracts : b.Attracts decimal.value) (canonical : Canonical b.mantissa b.exponent)
    (some : 0 < b.mantissa) : 0 < decimal.significand := by
  have least := (attracts.bounds canonical some).1
  have positive : (0 : ℚ) < (10 ^ 400)⁻¹ := by positivity
  by_contra none
  rw [Decimal.value, (by omega : decimal.significand = 0), Nat.cast_zero, zero_mul] at least
  exact absurd least positive.not_gt

theorem Decimal.toFloat_eq {x : Float} {b : Binary} (parts : Binary.ofFloat? x = some b)
    (some : 0 < b.mantissa) {decimal : Decimal} (attracts : b.Attracts decimal.value) :
    decimal.toFloat b.negative = x := by
  have canonical := canonical_of_bits ((ofFloat?_eq_binaryOfBits? x).symm.trans parts)
  obtain ⟨least, most⟩ := attracts.bounds canonical some
  have above := attracts.significand_pos canonical some
  obtain ⟨place, named⟩ : ∃ place, Int.ofNat (decimalDigits decimal.significand).length +
    decimal.exponent = place := ⟨_, rfl⟩
  obtain ⟨low, high⟩ := Decimal.value_bounds above named
  -- Beyond these places a decimal is read as zero or as infinite, whatever its digits are.
  have small : ¬ place < -400 := by
    intro tiny
    have step : (10 : ℚ) ^ place ≤ (10 ^ 400)⁻¹ := by
      rw [← zpow_natCast, ← zpow_neg]
      exact zpow_le_zpow_right₀ (by norm_num) tiny.le
    exact absurd (least.trans high) step.not_gt
  have large : ¬ 400 < place := by
    intro huge
    have step : (10 : ℚ) ^ 400 ≤ 10 ^ (place - 1) := by
      rw [← zpow_natCast]
      exact zpow_le_zpow_right₀ (by norm_num) (by push_cast; omega)
    exact absurd (low.trans_lt most) step.not_gt
  have down : 0 < Nat.pow 10 (-decimal.exponent).toNat := Nat.pow_pos (by decide)
  rw [Decimal.value_eq_fraction] at attracts
  rw [Decimal.toFloat]
  simp only [named]
  rw [if_neg (by omega), if_neg large, attracts.nearestFloat down canonical some]
  exact eq_of_parts (Binary.ofFloat?_signed canonical b.negative) parts

theorem Decimal.toFloat_zero {x : Float} {b : Binary} (parts : Binary.ofFloat? x = some b)
    (none : b.mantissa = 0) (exponent : Int) : Decimal.toFloat b.negative ⟨0, exponent⟩ = x := by
  have canonical := canonical_of_bits ((ofFloat?_eq_binaryOfBits? x).symm.trans parts)
  have bottom : b.exponent = -1074 := by
    have normal := canonical.normal
    omega
  have bits := Binary.ofFloat?_signed canonical b.negative
  rw [none, bottom] at bits
  rw [Decimal.toFloat]
  simp only [true_or, if_true, nearestFloat]
  refine eq_of_parts bits (parts.trans ?_)
  rw [← none, ← bottom]

end DesignTokens
