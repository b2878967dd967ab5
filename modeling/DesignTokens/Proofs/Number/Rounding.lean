import DesignTokens.Proofs.Number.Exact

/-!
Arithmetic on doubles beside arithmetic on rational numbers: a result that is not
too large is finite, and it misses the exact one by no more than the unit in its
last place.
-/

namespace DesignTokens

open Float.Model (Format UnpackedFloat totalExponent)
open Float.Model.UnpackedFloat

def Near (x : Float) (number margin : ℚ) : Prop :=
  ∃ result, Exactly x result ∧ |result - number| ≤ margin

theorem Exactly.near {x : Float} {number margin : ℚ} (exact : Exactly x number)
    (room : 0 ≤ margin) : Near x number margin :=
  ⟨number, exact, by simpa using room⟩

theorem shiftRight_mantissa (extended : ExtendedMantissa) (count : Nat) :
    (extended >>> count).mantissa = extended.mantissa / 2 ^ count := by
  induction count with
  | zero =>
      change extended.mantissa = _
      omega
  | succ count ih =>
      change (extended >>> count).mantissa / 2 = _
      rw [ih, Nat.div_div_eq_div_mul, Nat.pow_succ]

theorem ofMantissaAndAccuracy_mantissa (mantissa : Nat) (accuracy : Accuracy) :
    (ExtendedMantissa.ofMantissaAndAccuracy mantissa accuracy).mantissa = mantissa := by
  cases accuracy with
  | exact => rfl
  | inexact side => cases side <;> rfl

theorem roundedMantissa_bounds (extended : ExtendedMantissa) :
    extended.mantissa ≤ extended.roundedMantissa ∧
      extended.roundedMantissa ≤ extended.mantissa + 1 := by
  rcases extended with ⟨mantissa, half, rest⟩
  have parity : mantissa % 2 ≤ 1 := by omega
  cases half <;> cases rest <;>
    simp [ExtendedMantissa.roundedMantissa, ExtendedMantissa.accuracy,
      Accuracy.roundToNearestEven]
  omega

def roundedExponent (mantissa : Nat) (exponent : Int) : Int :=
  max (mantissa.log2 + exponent - 52) (-1074)

theorem targetExponent_eq (mantissa : Nat) (exponent : Int) :
    Format.binary64.targetExponent (totalExponent mantissa exponent) =
      roundedExponent mantissa exponent := by
  have width : (Format.binary64.mantissaBits : Int) = 53 := by decide
  have least : Format.binary64.minExponent = -1074 := by decide
  rw [Format.targetExponent, totalExponent, width, least, roundedExponent]
  omega

theorem shift_canonical {mantissa : Nat} {exponent : Int} (small : mantissa < 2 ^ 53)
    (least : -1074 ≤ exponent) :
    shiftToTargetExponent Format.binary64 mantissa exponent .exact =
      (⟨mantissa, false, false⟩, exponent) := by
  have digits : mantissa.log2 ≤ 52 := by
    by_cases zero : mantissa = 0
    · simp [zero]
    · have below := (Nat.log2_lt zero).mpr small
      omega
  have still : (roundedExponent mantissa exponent - exponent).toNat = 0 := by
    rw [roundedExponent]
    omega
  rw [shiftToTargetExponent, targetExponent_eq, shiftToExponent, still]
  exact congrArg _ (Int.add_zero exponent)

/-- A mantissa that was rounded up to 54 bits loses its last one, which is zero. -/
theorem shift_carried {exponent : Int} (least : -1074 ≤ exponent) :
    shiftToTargetExponent Format.binary64 (2 ^ 53) exponent .exact =
      (⟨2 ^ 52, false, false⟩, exponent + 1) := by
  have next : (roundedExponent (2 ^ 53) exponent - exponent).toNat = 1 := by
    rw [roundedExponent, Nat.log2_two_pow]
    omega
  rw [shiftToTargetExponent, targetExponent_eq, shiftToExponent, next]
  rfl

theorem shift_floor {mantissa count : Nat} (digits : mantissa.log2 ≤ 52 + count) :
    mantissa / 2 ^ count < 2 ^ 53 := by
  apply (Nat.div_lt_iff_lt_mul (by positivity)).mpr
  have below : mantissa < 2 ^ (mantissa.log2 + 1) := Nat.lt_log2_self
  have grows : 2 ^ (mantissa.log2 + 1) ≤ 2 ^ (53 + count) :=
    Nat.pow_le_pow_right (by decide) (by omega)
  rw [← Nat.pow_add]
  exact below.trans_le grows

theorem shift_floor_normal {mantissa count : Nat} (digits : mantissa.log2 = 52 + count) :
    2 ^ 52 ≤ mantissa / 2 ^ count := by
  have positive : mantissa ≠ 0 := by
    rintro rfl
    simp at digits
    omega
  apply (Nat.le_div_iff_mul_le (by positivity)).mpr
  rw [← Nat.pow_add, ← digits]
  exact Nat.log2_self_le positive

/-- Rounding to a mantissa of 53 bits, or of fewer at the least exponent. -/
theorem exactly_roundWithAccuracy (sign : Sign) {mantissa : Nat} {exponent : Int}
    (accuracy : Accuracy) (deep : 52 ≤ mantissa.log2 ∨ exponent ≤ -1074)
    (bounded : roundedExponent mantissa exponent ≤ 970) :
    ∃ count rounded : Nat, exponent + count = roundedExponent mantissa exponent ∧
      mantissa / 2 ^ count ≤ rounded ∧ rounded ≤ mantissa / 2 ^ count + 1 ∧
      Exactly
        (.ofModel (.pack (roundWithAccuracy Format.binary64 sign mantissa exponent accuracy)))
        (sign.apply rounded * 2 ^ roundedExponent mantissa exponent) := by
  have target : roundedExponent mantissa exponent =
      max (mantissa.log2 + exponent - 52) (-1074) := rfl
  have least : -1074 ≤ roundedExponent mantissa exponent := by omega
  obtain ⟨count, shift⟩ : ∃ count : Nat, exponent + count = roundedExponent mantissa exponent :=
    ⟨(roundedExponent mantissa exponent - exponent).toNat, by omega⟩
  have amount : (roundedExponent mantissa exponent - exponent).toNat = count := by omega
  obtain ⟨extended, shifted, floor⟩ : ∃ extended : ExtendedMantissa,
      shiftToTargetExponent Format.binary64 mantissa exponent accuracy =
        (extended, roundedExponent mantissa exponent) ∧
      extended.mantissa = mantissa / 2 ^ count := by
    refine ⟨ExtendedMantissa.ofMantissaAndAccuracy mantissa accuracy >>> count, ?_, ?_⟩
    · rw [shiftToTargetExponent, targetExponent_eq, shiftToExponent, amount, shift]
    · rw [shiftRight_mantissa, ofMantissaAndAccuracy_mantissa]
  have bounds := roundedMantissa_bounds extended
  rw [floor] at bounds
  have small : mantissa / 2 ^ count < 2 ^ 53 := shift_floor (by omega)
  have normal : 2 ^ 52 ≤ extended.roundedMantissa ∨
      roundedExponent mantissa exponent = -1074 := by
    by_cases bottom : roundedExponent mantissa exponent = -1074
    · exact Or.inr bottom
    · have whole : 2 ^ 52 ≤ mantissa / 2 ^ count := shift_floor_normal (by omega)
      exact Or.inl (whole.trans bounds.1)
  refine ⟨count, extended.roundedMantissa, shift, bounds.1, bounds.2, ?_⟩
  rw [roundWithAccuracy, shifted]
  dsimp only
  -- Rounding up can carry into a 54th bit, which a second shift takes off again.
  by_cases carried : extended.roundedMantissa = 2 ^ 53
  · have canonical : Canonical (2 ^ 52) (roundedExponent mantissa exponent + 1) :=
      ⟨by decide, by omega, by omega, Or.inl (le_refl _)⟩
    have exact := exactly_pack_finite sign (by decide) canonical
    have same : (sign.apply (2 ^ 53 : Nat) : ℚ) * 2 ^ roundedExponent mantissa exponent =
        sign.apply (2 ^ 52 : Nat) * 2 ^ (roundedExponent mantissa exponent + 1) := by
      rw [zpow_add_one₀ (by norm_num)]
      cases sign <;> simp only [Sign.apply] <;> push_cast <;> ring
    rw [carried, shift_carried least, same]
    exact exact
  · have fits : extended.roundedMantissa < 2 ^ 53 := by omega
    rw [shift_canonical fits least]
    dsimp only
    by_cases zero : extended.roundedMantissa = 0
    · have exact := exactly_pack_zero sign
      rw [dif_pos zero, zero]
      cases sign <;> simpa [Sign.apply] using exact
    · have canonical : Canonical extended.roundedMantissa (roundedExponent mantissa exponent) :=
        ⟨fits, least, by omega, normal⟩
      rw [dif_neg zero]
      exact exactly_pack_finite sign (Nat.pos_of_ne_zero zero) canonical

def signFactor : Sign → ℚ
  | .negative => -1
  | .positive => 1

theorem cast_apply (sign : Sign) (magnitude : Nat) :
    (sign.apply magnitude : ℚ) = signFactor sign * magnitude := by
  cases sign <;> simp [Sign.apply, signFactor]

theorem signFactor_neg (sign : Sign) : signFactor (-sign) = -signFactor sign := by
  cases sign
  · exact (neg_neg 1).symm
  · rfl

theorem signFactor_mul (sign other : Sign) :
    signFactor (sign * other) = signFactor sign * signFactor other := by
  cases sign <;> cases other <;> simp only [signFactor] <;> norm_num

theorem abs_signFactor (sign : Sign) : |signFactor sign| = 1 := by
  cases sign <;> simp [signFactor]

theorem roundedExponent_le {mantissa : Nat} {exponent bound : Int}
    (deep : 52 ≤ mantissa.log2 ∨ exponent ≤ -1074) (above : -1022 ≤ bound)
    (small : (mantissa * 2 ^ exponent : ℚ) ≤ 2 ^ bound) :
    roundedExponent mantissa exponent ≤ bound - 52 := by
  rw [roundedExponent]
  by_cases zero : mantissa = 0
  · rw [zero, Nat.log2_zero] at deep ⊢
    omega
  · have low : (2 : ℚ) ^ mantissa.log2 ≤ mantissa := by exact_mod_cast Nat.log2_self_le zero
    have unit : (0 : ℚ) ≤ 2 ^ exponent := by positivity
    have scaled := (mul_le_mul_of_nonneg_right low unit).trans small
    rw [← zpow_natCast, ← zpow_add₀ (by norm_num : (2 : ℚ) ≠ 0)] at scaled
    have order := (zpow_le_zpow_iff_right₀ (by norm_num : (1 : ℚ) < 2)).mp scaled
    omega

/-- A mantissa that stands for a number with less than one unit missing is rounded to a
double within a unit of the last place of a power of two that bounds the number. -/
theorem roundWithAccuracy_near (sign : Sign) {mantissa : Nat} {exponent bound : Int}
    (accuracy : Accuracy) {number : ℚ} (deep : 52 ≤ mantissa.log2 ∨ exponent ≤ -1074)
    (low : mantissa * 2 ^ exponent ≤ number) (high : number ≤ (mantissa + 1) * 2 ^ exponent)
    (above : -1022 ≤ bound) (below : bound ≤ 1022) (small : number ≤ 2 ^ bound) :
    Near (.ofModel (.pack (roundWithAccuracy Format.binary64 sign mantissa exponent accuracy)))
      (signFactor sign * number) (2 ^ (bound - 52)) := by
  have target := roundedExponent_le deep above (low.trans small)
  rcases exactly_roundWithAccuracy sign accuracy deep (by omega) with
    ⟨count, rounded, shift, least, most, exact⟩
  refine ⟨_, exact, ?_⟩
  have unit : (0 : ℚ) < 2 ^ exponent := by positivity
  have scale : (2 : ℚ) ^ roundedExponent mantissa exponent = 2 ^ count * 2 ^ exponent := by
    rw [← shift, zpow_add₀ (by norm_num : (2 : ℚ) ≠ 0), zpow_natCast, mul_comm]
  have divided : mantissa / 2 ^ count * 2 ^ count ≤ mantissa ∧
      mantissa + 1 ≤ (mantissa / 2 ^ count + 1) * 2 ^ count := by
    have positive : 0 < 2 ^ count := by positivity
    exact ⟨Nat.div_mul_le_self _ _, Nat.lt_mul_of_div_lt (Nat.lt_succ_self _) positive⟩
  have lower : ((rounded : ℚ) - 1) * 2 ^ count ≤ mantissa := by
    have floor : ((mantissa / 2 ^ count : Nat) : ℚ) * 2 ^ count ≤ mantissa := by
      exact_mod_cast divided.1
    have step : (rounded : ℚ) - 1 ≤ (mantissa / 2 ^ count : Nat) := by
      have cast : (rounded : ℚ) ≤ (mantissa / 2 ^ count : Nat) + 1 := by exact_mod_cast most
      linarith
    have power : (0 : ℚ) ≤ 2 ^ count := by positivity
    exact (mul_le_mul_of_nonneg_right step power).trans floor
  have upper : (mantissa : ℚ) + 1 ≤ (rounded + 1) * 2 ^ count := by
    have ceiling : (mantissa : ℚ) + 1 ≤ ((mantissa / 2 ^ count : Nat) + 1) * 2 ^ count := by
      exact_mod_cast divided.2
    have step : ((mantissa / 2 ^ count : Nat) : ℚ) + 1 ≤ rounded + 1 := by
      exact_mod_cast Nat.add_le_add_right least 1
    have power : (0 : ℚ) ≤ 2 ^ count := by positivity
    exact ceiling.trans (mul_le_mul_of_nonneg_right step power)
  have distance : |(rounded : ℚ) * 2 ^ roundedExponent mantissa exponent - number| ≤
      2 ^ roundedExponent mantissa exponent := by
    have scaledLower := mul_le_mul_of_nonneg_right lower unit.le
    have scaledUpper := mul_le_mul_of_nonneg_right upper unit.le
    rw [scale, abs_le]
    constructor <;> nlinarith
  calc |(sign.apply rounded : ℚ) * 2 ^ roundedExponent mantissa exponent -
        signFactor sign * number|
      = |(rounded : ℚ) * 2 ^ roundedExponent mantissa exponent - number| := by
        rw [cast_apply, mul_assoc, ← mul_sub, abs_mul, abs_signFactor, one_mul]
    _ ≤ 2 ^ roundedExponent mantissa exponent := distance
    _ ≤ 2 ^ (bound - 52) := zpow_le_zpow_right₀ (by norm_num) target

theorem shiftLeft_scale (mantissa shift : Nat) (exponent : Int) :
    ((mantissa <<< shift : Nat) : ℚ) * 2 ^ (exponent - shift) = mantissa * 2 ^ exponent := by
  have power : (2 : ℚ) ^ exponent = 2 ^ shift * 2 ^ (exponent - shift) := by
    rw [← zpow_natCast, ← zpow_add₀ (by norm_num : (2 : ℚ) ≠ 0)]
    congr 1
    omega
  rw [Nat.shiftLeft_eq, power]
  push_cast
  ring

theorem log2_shiftLeft {mantissa : Nat} (positive : 0 < mantissa) (shift : Nat) :
    (mantissa <<< shift).log2 = mantissa.log2 + shift := by
  have low := Nat.log2_self_le positive.ne'
  have high : mantissa < 2 ^ (mantissa.log2 + 1) := Nat.lt_log2_self
  rw [Nat.shiftLeft_eq, Nat.log2_eq_iff (by positivity), Nat.pow_add]
  refine ⟨Nat.mul_le_mul_right _ low, ?_⟩
  rw [show mantissa.log2 + shift + 1 = mantissa.log2 + 1 + shift by omega, Nat.pow_add]
  exact Nat.mul_lt_mul_of_pos_right high (by positivity)

theorem round_near (sign : Sign) {mantissa : Nat} {exponent bound : Int}
    (positive : 0 < mantissa) (above : -1022 ≤ bound) (below : bound ≤ 1022)
    (small : (mantissa * 2 ^ exponent : ℚ) ≤ 2 ^ bound) :
    Near (.ofModel (.pack (UnpackedFloat.round Format.binary64 sign mantissa exponent)))
      (signFactor sign * (mantissa * 2 ^ exponent)) (2 ^ (bound - 52)) := by
  obtain ⟨shift, amount⟩ : ∃ shift : Nat,
      (exponent - roundedExponent mantissa exponent).toNat = shift := ⟨_, rfl⟩
  have value := shiftLeft_scale mantissa shift exponent
  have unit : (0 : ℚ) < 2 ^ (exponent - shift) := by positivity
  have deep : 52 ≤ (mantissa <<< shift).log2 ∨ exponent - shift ≤ -1074 := by
    rw [log2_shiftLeft positive]
    rw [roundedExponent] at amount
    omega
  have near := roundWithAccuracy_near sign .exact deep value.le
    (by rw [← value]; nlinarith) above below small
  simpa only [UnpackedFloat.round, targetExponent_eq, decreaseExponent, amount] using near

theorem normalize_near (mantissa : Int) {exponent bound : Int} (zeroSign : Sign)
    (above : -1022 ≤ bound) (below : bound ≤ 1022)
    (small : |(mantissa * 2 ^ exponent : ℚ)| ≤ 2 ^ bound) :
    Near (.ofModel (.pack (UnpackedFloat.normalize Format.binary64 mantissa exponent zeroSign)))
      (mantissa * 2 ^ exponent) (2 ^ (bound - 52)) := by
  have unit : (0 : ℚ) < 2 ^ exponent := by positivity
  rcases lt_trichotomy mantissa 0 with negative | rfl | positive
  · obtain ⟨size, rfl⟩ : ∃ size : Nat, mantissa = -size := ⟨mantissa.natAbs, by omega⟩
    have sized : (size * 2 ^ exponent : ℚ) ≤ 2 ^ bound := by
      simpa [abs_mul, abs_of_pos unit] using small
    rcases round_near .negative (by omega) above below sized with ⟨result, exact, near⟩
    refine ⟨result, ?_, ?_⟩
    · rw [UnpackedFloat.normalize, Int.compare_eq_lt.mpr negative]
      simpa using exact
    · simpa [signFactor] using near
  · refine ⟨0, exactly_pack_zero zeroSign, ?_⟩
    simp only [Int.cast_zero, zero_mul, sub_zero, abs_zero]
    positivity
  · obtain ⟨size, rfl⟩ : ∃ size : Nat, mantissa = size := ⟨mantissa.natAbs, by omega⟩
    have sized : (size * 2 ^ exponent : ℚ) ≤ 2 ^ bound := by
      simpa [abs_mul, abs_of_pos unit] using small
    rcases round_near .positive (by omega) above below sized with ⟨result, exact, near⟩
    refine ⟨result, ?_, ?_⟩
    · rw [UnpackedFloat.normalize, Int.compare_eq_gt.mpr positive]
      simpa using exact
    · simpa [signFactor] using near

theorem aligned_value (sign : Sign) (mantissa : Nat) {exponent target : Int}
    (below : target ≤ exponent) :
    (sign.apply (decreaseExponent mantissa exponent target).1 : ℚ) * 2 ^ target =
      sign.apply mantissa * 2 ^ exponent := by
  have value := shiftLeft_scale mantissa (exponent - target).toNat exponent
  have power : exponent - (exponent - target).toNat = target := by omega
  rw [power] at value
  rw [cast_apply, cast_apply, mul_assoc, mul_assoc, ← value]
  rfl

variable {x y : Float} {number other : ℚ} {bound : Int}

theorem Exactly.add (first : Exactly x number) (second : Exactly y other)
    (above : -1022 ≤ bound) (below : bound ≤ 1022) (small : |number + other| ≤ 2 ^ bound) :
    Near (x + y) (number + other) (2 ^ (bound - 52)) := by
  have unit : (0 : ℚ) ≤ 2 ^ (bound - 52) := by positivity
  change Near (.ofModel (.pack (UnpackedFloat.add Format.binary64
    x.toModel.unpack y.toModel.unpack))) _ _
  rcases first.unpacked with ⟨sign, shape, rfl⟩ |
    ⟨sign, mantissa, exponent, positive, shape, canonical, rfl⟩
  · rcases second.unpacked with ⟨minus, form, rfl⟩ |
      ⟨minus, digits, power, some, form, fits, rfl⟩
    · rw [shape, form, add_zero]
      cases sign <;> cases minus <;> exact (exactly_pack_zero _).near unit
    · rw [shape, form, zero_add]
      exact (exactly_pack_finite minus some fits).near unit
  · rcases second.unpacked with ⟨minus, form, rfl⟩ |
      ⟨minus, digits, power, some, form, fits, rfl⟩
    · rw [shape, form, add_zero]
      exact (exactly_pack_finite sign positive canonical).near unit
    · have left := aligned_value sign mantissa (min_le_left exponent power)
      have right := aligned_value minus digits (min_le_right exponent power)
      have sum := add_mul
        (sign.apply (decreaseExponent mantissa exponent (min exponent power)).1 : ℚ)
        (minus.apply (decreaseExponent digits power (min exponent power)).1)
        (2 ^ min exponent power)
      rw [left, right, ← Int.cast_add] at sum
      rw [shape, form, ← sum]
      rw [← sum] at small
      exact normalize_near _ .positive above below small

theorem Exactly.sub (first : Exactly x number) (second : Exactly y other)
    (above : -1022 ≤ bound) (below : bound ≤ 1022) (small : |number - other| ≤ 2 ^ bound) :
    Near (x - y) (number - other) (2 ^ (bound - 52)) := by
  have unit : (0 : ℚ) ≤ 2 ^ (bound - 52) := by positivity
  change Near (.ofModel (.pack (UnpackedFloat.sub Format.binary64
    x.toModel.unpack y.toModel.unpack))) _ _
  rcases first.unpacked with ⟨sign, shape, rfl⟩ |
    ⟨sign, mantissa, exponent, positive, shape, canonical, rfl⟩
  · rcases second.unpacked with ⟨minus, form, rfl⟩ |
      ⟨minus, digits, power, some, form, fits, rfl⟩
    · rw [shape, form, sub_zero]
      cases sign <;> cases minus <;> exact (exactly_pack_zero _).near unit
    · have opposite : (0 : ℚ) - minus.apply digits * 2 ^ power =
          (-minus).apply digits * 2 ^ power := by
        rw [cast_apply, cast_apply, signFactor_neg]
        ring
      rw [shape, form, opposite]
      exact (exactly_pack_finite (-minus) some fits).near unit
  · rcases second.unpacked with ⟨minus, form, rfl⟩ |
      ⟨minus, digits, power, some, form, fits, rfl⟩
    · rw [shape, form, sub_zero]
      exact (exactly_pack_finite sign positive canonical).near unit
    · have left := aligned_value sign mantissa (min_le_left exponent power)
      have right := aligned_value minus digits (min_le_right exponent power)
      have difference := sub_mul
        (sign.apply (decreaseExponent mantissa exponent (min exponent power)).1 : ℚ)
        (minus.apply (decreaseExponent digits power (min exponent power)).1)
        (2 ^ min exponent power)
      rw [left, right, ← Int.cast_sub] at difference
      rw [shape, form, ← difference]
      rw [← difference] at small
      exact normalize_near _ .positive above below small

theorem log2_mul_ge {mantissa digits : Nat} (large : 2 ^ 52 ≤ mantissa) (some : 0 < digits) :
    52 ≤ (mantissa * digits).log2 := by
  have positive : 0 < mantissa := by omega
  have product : 2 ^ 52 ≤ mantissa * digits := by nlinarith
  exact (Nat.le_log2 (Nat.mul_pos positive some).ne').mpr product

theorem Exactly.mul (first : Exactly x number) (second : Exactly y other)
    (above : -1022 ≤ bound) (below : bound ≤ 1022) (small : |number * other| ≤ 2 ^ bound) :
    Near (x * y) (number * other) (2 ^ (bound - 52)) := by
  have unit : (0 : ℚ) ≤ 2 ^ (bound - 52) := by positivity
  change Near (.ofModel (.pack (UnpackedFloat.mul Format.binary64
    x.toModel.unpack y.toModel.unpack))) _ _
  rcases first.unpacked with ⟨sign, shape, rfl⟩ |
    ⟨sign, mantissa, exponent, positive, shape, canonical, rfl⟩
  · rcases second.unpacked with ⟨minus, form, rfl⟩ |
      ⟨minus, digits, power, some, form, fits, rfl⟩
    · rw [shape, form, zero_mul]
      exact (exactly_pack_zero _).near unit
    · rw [shape, form, zero_mul]
      exact (exactly_pack_zero _).near unit
  · rcases second.unpacked with ⟨minus, form, rfl⟩ |
      ⟨minus, digits, power, some, form, fits, rfl⟩
    · rw [shape, form, mul_zero]
      exact (exactly_pack_zero _).near unit
    · have deep : 52 ≤ (mantissa * digits).log2 ∨ exponent + power ≤ -1074 := by
        rcases canonical.normal with large | bottom
        · exact Or.inl (log2_mul_ge large some)
        · rcases fits.normal with large | floor
          · rw [Nat.mul_comm]
            exact Or.inl (log2_mul_ge large positive)
          · exact Or.inr (by omega)
      have scale : (2 : ℚ) ^ (exponent + power) = 2 ^ exponent * 2 ^ power :=
        zpow_add₀ (by norm_num) _ _
      have size : (0 : ℚ) < 2 ^ (exponent + power) := by positivity
      have product : (sign.apply mantissa * 2 ^ exponent : ℚ) * (minus.apply digits * 2 ^ power) =
          signFactor (sign * minus) * ((mantissa * digits : Nat) * 2 ^ (exponent + power)) := by
        rw [cast_apply, cast_apply, signFactor_mul, scale]
        push_cast
        ring
      rw [product, abs_mul, abs_signFactor, one_mul] at small
      rw [shape, form, product]
      exact roundWithAccuracy_near _ .exact deep (le_refl _) (by nlinarith) above below
        ((le_abs_self _).trans small)

theorem signFactor_div (sign other : Sign) :
    signFactor (sign / other) = signFactor sign / signFactor other := by
  have same : sign / other = sign * other := by
    cases sign <;> cases other <;> rfl
  rw [same, signFactor_mul]
  cases other <;> simp [signFactor, div_neg]

/-- The quotient that division starts from has a mantissa of 53 bits, unless it lies
below all doubles of such mantissas. -/
theorem divCore_deep {mantissa digits : Nat} {exponent : Int} (power : Int)
    (positive : 0 < mantissa) (some : 0 < digits) (canonical : Canonical mantissa exponent) :
    ∃ (shift : Nat) (target : Int),
      divCore Format.binary64 mantissa exponent digits power =
        (mantissa <<< shift / digits, target,
          accuracyOfFraction (mantissa <<< shift % digits) digits) ∧
      target + shift = exponent - power ∧
      (52 ≤ (mantissa <<< shift / digits).log2 ∨ target ≤ -1074) := by
  have width : (Format.binary64.mantissaBits : Int) = 53 := by decide
  have least : Format.binary64.minExponent = -1074 := by decide
  obtain ⟨target, chosen⟩ : ∃ target : Int, min (exponent - power)
      (Format.binary64.targetExponent
        (totalExponent mantissa exponent - totalExponent digits power)) = target := ⟨_, rfl⟩
  have limits : min (exponent - power)
      (max (mantissa.log2 + exponent - (digits.log2 + power) - 53) (-1074)) = target := by
    rw [← chosen, Format.targetExponent, totalExponent, totalExponent, width, least]
    congr 2
    omega
  refine ⟨(exponent - power - target).toNat, target, ?_, by omega, ?_⟩
  · simp only [divCore, chosen]
  · by_cases low : target ≤ -1074
    · exact Or.inr low
    · left
      have short : mantissa.log2 ≤ 52 := by
        have below := (Nat.log2_lt positive.ne').mpr canonical.small
        omega
      have high : digits < 2 ^ (digits.log2 + 1) := Nat.lt_log2_self
      have whole := Nat.log2_self_le positive.ne'
      have amount : digits.log2 + 53 = mantissa.log2 + (exponent - power - target).toNat := by
        omega
      have quotient : 2 ^ 52 ≤ mantissa <<< (exponent - power - target).toNat / digits := by
        rw [Nat.le_div_iff_mul_le some, Nat.shiftLeft_eq]
        calc 2 ^ 52 * digits ≤ 2 ^ 52 * 2 ^ (digits.log2 + 1) := by gcongr
          _ = 2 ^ mantissa.log2 * 2 ^ (exponent - power - target).toNat := by
            rw [← Nat.pow_add, ← Nat.pow_add, ← amount]
            congr 1
            omega
          _ ≤ mantissa * 2 ^ (exponent - power - target).toNat := by gcongr
      exact (Nat.le_log2 (by omega)).mpr quotient

theorem Exactly.div (first : Exactly x number) (second : Exactly y other) (divides : other ≠ 0)
    (above : -1022 ≤ bound) (below : bound ≤ 1022) (small : |number / other| ≤ 2 ^ bound) :
    Near (x / y) (number / other) (2 ^ (bound - 52)) := by
  have unit : (0 : ℚ) ≤ 2 ^ (bound - 52) := by positivity
  change Near (.ofModel (.pack (UnpackedFloat.div Format.binary64
    x.toModel.unpack y.toModel.unpack))) _ _
  rcases second.unpacked with ⟨minus, form, rfl⟩ |
    ⟨minus, digits, power, some, form, fits, rfl⟩
  · exact absurd rfl divides
  · rcases first.unpacked with ⟨sign, shape, rfl⟩ |
      ⟨sign, mantissa, exponent, positive, shape, canonical, rfl⟩
    · rw [shape, form, zero_div]
      exact (exactly_pack_zero _).near unit
    · rcases divCore_deep power positive some canonical with
        ⟨shift, target, core, total, deep⟩
      have size : (0 : ℚ) < digits := Nat.cast_pos.mpr some
      have scale : (0 : ℚ) < 2 ^ target := by positivity
      have quotient : (mantissa * 2 ^ exponent : ℚ) / (digits * 2 ^ power) =
          ((mantissa <<< shift : Nat) : ℚ) / digits * 2 ^ target := by
        have value := shiftLeft_scale mantissa shift exponent
        have split : exponent - shift = target + power := by omega
        rw [split, zpow_add₀ (by norm_num : (2 : ℚ) ≠ 0)] at value
        have unitOfPower : (0 : ℚ) < 2 ^ power := by positivity
        rw [← value]
        field_simp
      have ratio : (sign.apply mantissa * 2 ^ exponent : ℚ) / (minus.apply digits * 2 ^ power) =
          signFactor (sign / minus) * (((mantissa <<< shift : Nat) : ℚ) / digits * 2 ^ target) := by
        rw [cast_apply, cast_apply, signFactor_div, ← quotient, mul_assoc, mul_assoc,
          mul_div_mul_comm]
      have low : ((mantissa <<< shift / digits : Nat) : ℚ) ≤
          (mantissa <<< shift : Nat) / digits := by
        rw [le_div_iff₀ size]
        exact_mod_cast Nat.div_mul_le_self _ _
      have high : ((mantissa <<< shift : Nat) : ℚ) / digits ≤
          (mantissa <<< shift / digits : Nat) + 1 := by
        rw [div_le_iff₀ size]
        exact_mod_cast (Nat.lt_mul_of_div_lt (Nat.lt_succ_self _) some).le
      rw [ratio, abs_mul, abs_signFactor, one_mul] at small
      have divided : UnpackedFloat.div Format.binary64 (.finite sign mantissa exponent positive)
          (.finite minus digits power some) =
          match divCore Format.binary64 mantissa exponent digits power with
          | (result, final, accuracy) =>
              roundWithAccuracy Format.binary64 (sign / minus) result final accuracy := rfl
      rw [shape, form, ratio, divided, core]
      exact roundWithAccuracy_near _ _ deep (by gcongr) (by gcongr) above below
        ((le_abs_self _).trans small)

end DesignTokens
