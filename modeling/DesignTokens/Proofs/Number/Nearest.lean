import DesignTokens.Proofs.Number.Rounding

/-!
The double nearest to a fraction, the whole number nearest to a double, and the
remainder of a division by one, beside the rational numbers that they stand for.
-/

namespace DesignTokens

open Float.Model (Format UnpackedFloat)
open Float.Model.UnpackedFloat

theorem ofFloat?_ofBits {word : UInt64} {b : Binary}
    (parts : binaryOfBits? word.toNat = some b) :
    Binary.ofFloat? (Float.ofBits word) = some b := by
  have canonical := canonical_of_bits parts
  have unpacked : partsOf? (UnpackedFloat.unpack Format.binary64 word.toBitVec) = some b := by
    rw [partsOf?_unpack]
    exact parts
  change Binary.ofFloat?
    (.ofModel (.pack (UnpackedFloat.unpack Format.binary64 word.toBitVec))) = some b
  rcases partsOf?_eq_some unpacked with ⟨sign, shape, rfl⟩ |
    ⟨sign, mantissa, exponent, positive, shape, rfl⟩
  · rw [shape]
    exact partsOf?_pack_zero sign
  · rw [shape]
    exact partsOf?_pack_finite sign positive canonical

theorem Exactly.neg {x : Float} {number : ℚ} (exact : Exactly x number) :
    Exactly (-x) (-number) := by
  change Exactly (.ofModel (.pack x.toModel.unpack.neg)) _
  rcases exact.unpacked with ⟨sign, shape, rfl⟩ |
    ⟨sign, mantissa, exponent, positive, shape, canonical, rfl⟩
  · rw [shape, neg_zero]
    exact exactly_pack_zero (-sign)
  · have opposite : -(sign.apply mantissa * 2 ^ exponent : ℚ) =
        (-sign).apply mantissa * 2 ^ exponent := by
      rw [cast_apply, cast_apply, signFactor_neg]
      ring
    rw [shape, opposite]
    exact exactly_pack_finite (-sign) positive canonical

theorem Near.signed {x : Float} {number margin : ℚ} (near : Near x number margin)
    (negative : Bool) :
    Near (signed negative x) ((if negative then -1 else 1) * number) margin := by
  rcases near with ⟨result, exact, close⟩
  cases negative with
  | false => exact ⟨result, exact, by simpa using close⟩
  | true =>
      refine ⟨-result, exact.neg, ?_⟩
      rw [if_pos rfl, neg_one_mul, ← neg_add', abs_neg]
      simpa [sub_eq_add_neg] using close

theorem roundQuotient_near (numerator : Nat) {denominator : Nat} (positive : 0 < denominator) :
    |(roundQuotient numerator denominator : ℚ) - numerator / denominator| ≤ 1 / 2 := by
  have size : (0 : ℚ) < denominator := Nat.cast_pos.mpr positive
  have whole : (numerator : ℚ) / denominator =
      (numerator / denominator : Nat) + (numerator % denominator : Nat) / denominator := by
    have cast : (numerator : ℚ) =
        denominator * (numerator / denominator : Nat) + (numerator % denominator : Nat) := by
      exact_mod_cast (Nat.div_add_mod numerator denominator).symm
    field_simp
    linarith
  have least : (0 : ℚ) ≤ (numerator % denominator : Nat) / denominator := by positivity
  have most : ((numerator % denominator : Nat) : ℚ) / denominator ≤ 1 := by
    rw [div_le_one size]
    exact_mod_cast (Nat.mod_lt numerator positive).le
  have below : 2 * (numerator % denominator) ≤ denominator →
      ((numerator % denominator : Nat) : ℚ) / denominator ≤ 1 / 2 := by
    intro half
    have cast : 2 * ((numerator % denominator : Nat) : ℚ) ≤ denominator := by exact_mod_cast half
    rw [div_le_iff₀ size]
    linarith
  have above : denominator ≤ 2 * (numerator % denominator) →
      1 / 2 ≤ ((numerator % denominator : Nat) : ℚ) / denominator := by
    intro half
    have cast : (denominator : ℚ) ≤ 2 * (numerator % denominator : Nat) := by exact_mod_cast half
    rw [le_div_iff₀ size]
    linarith
  have down : 2 * (numerator % denominator) ≤ denominator →
      |((numerator / denominator : Nat) : ℚ) - numerator / denominator| ≤ 1 / 2 := by
    intro half
    have under := below half
    rw [whole, abs_le]
    constructor <;> linarith
  have up : denominator ≤ 2 * (numerator % denominator) →
      |((numerator / denominator + 1 : Nat) : ℚ) - numerator / denominator| ≤ 1 / 2 := by
    intro half
    have beyond := above half
    rw [whole, abs_le]
    push_cast
    constructor <;> linarith
  unfold roundQuotient
  dsimp only
  split
  · exact down (by omega)
  · split
    · exact up (by omega)
    · split
      · exact down (by omega)
      · exact up (by omega)

theorem roundQuotient_bounds (numerator denominator : Nat) :
    numerator / denominator ≤ roundQuotient numerator denominator ∧
      roundQuotient numerator denominator ≤ numerator / denominator + 1 := by
  unfold roundQuotient
  dsimp only
  split
  · omega
  · split
    · omega
    · split <;> omega

theorem scaled_fraction (numerator denominator : Nat) (unit : Int) :
    ((numerator * Nat.pow 2 (-unit).toNat : Nat) : ℚ) / (denominator * Nat.pow 2 unit.toNat : Nat) =
      numerator / denominator / 2 ^ unit := by
  simp only [Nat.pow_eq]
  rcases le_total 0 unit with up | down
  · obtain ⟨power, rfl⟩ := Int.eq_ofNat_of_zero_le up
    have none : (-(power : Int)).toNat = 0 := by omega
    rw [none, Int.toNat_natCast, zpow_natCast]
    push_cast
    rw [div_div]
    simp
  · obtain ⟨power, same⟩ : ∃ power : Nat, unit = -power := ⟨unit.natAbs, by omega⟩
    subst same
    have none : (-(power : Int)).toNat = 0 := by omega
    rw [none, neg_neg, Int.toNat_natCast, zpow_neg, zpow_natCast]
    push_cast
    rw [div_inv_eq_mul]
    ring

theorem unitExponent_fits {numerator denominator : Nat} (some : 0 < numerator)
    (positive : 0 < denominator) :
    -1074 ≤ unitExponent numerator denominator ∧
      (numerator / denominator / 2 ^ unitExponent numerator denominator : ℚ) < 2 ^ 53 ∧
      (unitExponent numerator denominator = -1074 ∨
        (2 ^ 52 : ℚ) ≤ numerator / denominator / 2 ^ unitExponent numerator denominator) := by
  obtain ⟨low, start⟩ : ∃ low : Int,
      Int.ofNat numerator.log2 - Int.ofNat denominator.log2 - 53 = low := ⟨_, rfl⟩
  obtain ⟨first, chosen⟩ : ∃ first : Int, (if Nat.pow 2 53 *
      (denominator * Nat.pow 2 low.toNat) ≤ numerator * Nat.pow 2 (-low).toNat then low + 1
      else low) = first := ⟨_, rfl⟩
  have unit : unitExponent numerator denominator = max (-1074) first := by
    rw [← chosen, ← start]
    rfl
  have size : (0 : ℚ) < denominator := Nat.cast_pos.mpr positive
  have scale : (0 : ℚ) < 2 ^ low := by positivity
  -- The fraction lies between the powers of two around its leading bits.
  have under : (2 ^ 52 : ℚ) ≤ numerator / denominator / 2 ^ low := by
    have top : (2 ^ numerator.log2 : ℚ) ≤ numerator := by
      exact_mod_cast Nat.log2_self_le some.ne'
    have bottom : (denominator : ℚ) ≤ 2 ^ (denominator.log2 + 1) := by
      exact_mod_cast (Nat.lt_log2_self (n := denominator)).le
    have power : (2 ^ 52 * 2 ^ low * 2 ^ (denominator.log2 + 1) : ℚ) = 2 ^ numerator.log2 := by
      rw [← zpow_natCast, ← zpow_natCast, ← zpow_natCast, ← zpow_add₀ (by norm_num),
        ← zpow_add₀ (by norm_num)]
      congr 1
      push_cast
      rw [← start]
      simp only [Int.ofNat_eq_natCast]
      omega
    rw [le_div_iff₀ scale, le_div_iff₀ size]
    calc (2 ^ 52 * 2 ^ low * denominator : ℚ)
        ≤ 2 ^ 52 * 2 ^ low * 2 ^ (denominator.log2 + 1) := by gcongr
      _ = 2 ^ numerator.log2 := power
      _ ≤ numerator := top
  have beyond : (numerator / denominator / 2 ^ low : ℚ) < 2 ^ 54 := by
    have top : (numerator : ℚ) < 2 ^ (numerator.log2 + 1) := by
      exact_mod_cast Nat.lt_log2_self (n := numerator)
    have bottom : (2 ^ denominator.log2 : ℚ) ≤ denominator := by
      exact_mod_cast Nat.log2_self_le positive.ne'
    have power : (2 ^ 54 * 2 ^ low * 2 ^ denominator.log2 : ℚ) = 2 ^ (numerator.log2 + 1) := by
      rw [← zpow_natCast, ← zpow_natCast, ← zpow_natCast, ← zpow_add₀ (by norm_num),
        ← zpow_add₀ (by norm_num)]
      congr 1
      push_cast
      rw [← start]
      simp only [Int.ofNat_eq_natCast]
      omega
    rw [div_lt_iff₀ scale, div_lt_iff₀ size]
    calc (numerator : ℚ) < 2 ^ (numerator.log2 + 1) := top
      _ = 2 ^ 54 * 2 ^ low * 2 ^ denominator.log2 := power.symm
      _ ≤ 2 ^ 54 * 2 ^ low * denominator := by gcongr
  have test : Nat.pow 2 53 * (denominator * Nat.pow 2 low.toNat) ≤
      numerator * Nat.pow 2 (-low).toNat ↔
        (2 ^ 53 : ℚ) ≤ numerator / denominator / 2 ^ low := by
    have scaled : 0 < denominator * Nat.pow 2 low.toNat :=
      Nat.mul_pos positive (Nat.pos_of_ne_zero (by simp [Nat.pow_eq]))
    rw [← scaled_fraction, le_div_iff₀ (Nat.cast_pos.mpr scaled)]
    exact_mod_cast Iff.rfl
  have fits : (numerator / denominator / 2 ^ first : ℚ) < 2 ^ 53 ∧
      (2 ^ 52 : ℚ) ≤ numerator / denominator / 2 ^ first := by
    by_cases large : (2 ^ 53 : ℚ) ≤ numerator / denominator / 2 ^ low
    · rw [if_pos (test.mpr large)] at chosen
      rw [← chosen, zpow_add_one₀ (by norm_num), ← div_div]
      constructor <;> linarith
    · rw [if_neg fun more => large (test.mp more)] at chosen
      rw [← chosen]
      exact ⟨not_le.mp large, under⟩
  rw [unit]
  rcases le_total first (-1074) with tiny | normal
  · rw [max_eq_left tiny]
    refine ⟨le_refl _, ?_, Or.inl rfl⟩
    have grows : (2 : ℚ) ^ first ≤ 2 ^ (-1074 : Int) := zpow_le_zpow_right₀ (by norm_num) tiny
    have least : (0 : ℚ) < 2 ^ first := by positivity
    have shrinks : (numerator / denominator / 2 ^ (-1074 : Int) : ℚ) ≤
        numerator / denominator / 2 ^ first := by gcongr
    exact shrinks.trans_lt fits.1
  · rw [max_eq_right normal]
    exact ⟨normal, fits.1, Or.inr fits.2⟩

theorem exactly_ofBits (mantissa : Nat) {exponent : Int} (small : mantissa ≤ 2 ^ 53)
    (least : -1074 ≤ exponent) (most : exponent ≤ 970)
    (normal : 2 ^ 52 ≤ mantissa ∨ exponent = -1074) :
    Exactly (Float.ofBits (UInt64.ofNat ((exponent + 1074).toNat * Nat.pow 2 52 + mantissa)))
      (mantissa * 2 ^ exponent) := by
  have word : (UInt64.ofNat ((exponent + 1074).toNat * Nat.pow 2 52 + mantissa)).toNat =
      (exponent + 1074).toNat * 2 ^ 52 + mantissa := by
    rw [UInt64.toNat_ofNat', Nat.pow_eq]
    omega
  by_cases carried : mantissa = 2 ^ 53
  · have canonical : Canonical (2 ^ 52) (exponent + 1) :=
      ⟨by decide, by omega, by omega, Or.inl (le_refl _)⟩
    have parts := binaryOfBits?_eq_some canonical false
    have same : (exponent + 1 + 1074).toNat * 2 ^ 52 + 2 ^ 52 =
        (exponent + 1074).toNat * 2 ^ 52 + mantissa := by omega
    rw [if_neg (by decide), Nat.zero_add, same, ← word] at parts
    refine ⟨_, ofFloat?_ofBits parts, ?_⟩
    simp only [Binary.value, carried, zpow_add_one₀ (by norm_num : (2 : ℚ) ≠ 0)]
    push_cast
    ring_nf
  · have canonical : Canonical mantissa exponent := ⟨by omega, least, by omega, normal⟩
    have parts := binaryOfBits?_eq_some canonical false
    rw [if_neg (by decide), Nat.zero_add, ← word] at parts
    refine ⟨_, ofFloat?_ofBits parts, ?_⟩
    simp [Binary.value]

theorem nearestFloat_near (negative : Bool) (numerator : Nat) {denominator : Nat} {bound : Int}
    (positive : 0 < denominator) (above : -1022 ≤ bound) (below : bound ≤ 1022)
    (small : (numerator / denominator : ℚ) ≤ 2 ^ bound) :
    Near (nearestFloat negative numerator denominator)
      ((if negative then -1 else 1) * (numerator / denominator)) (2 ^ (bound - 52)) := by
  have margin : (0 : ℚ) ≤ 2 ^ (bound - 52) := by positivity
  by_cases none : numerator = 0
  · have zero : Near (Float.ofBits 0) 0 (2 ^ (bound - 52)) :=
      (exactly_pack_zero .positive).near margin
    rw [nearestFloat, if_pos none, none, Nat.cast_zero, zero_div]
    exact zero.signed negative
  · obtain ⟨unit, same⟩ : ∃ unit, unitExponent numerator denominator = unit := ⟨_, rfl⟩
    have fits := unitExponent_fits (Nat.pos_of_ne_zero none) positive
    rw [same] at fits
    rcases fits with ⟨least, short, normal⟩
    obtain ⟨top, named⟩ : ∃ top, numerator * Nat.pow 2 (-unit).toNat = top := ⟨_, rfl⟩
    obtain ⟨bottom, called⟩ : ∃ bottom, denominator * Nat.pow 2 unit.toNat = bottom := ⟨_, rfl⟩
    have whole : 0 < bottom := by
      rw [← called]
      exact Nat.mul_pos positive (Nat.pos_of_ne_zero (by simp [Nat.pow_eq]))
    have size : (0 : ℚ) < bottom := Nat.cast_pos.mpr whole
    have scaled : (top / bottom : ℚ) = numerator / denominator / 2 ^ unit := by
      rw [← named, ← called, scaled_fraction]
    rw [← scaled] at short normal
    have step : (0 : ℚ) < 2 ^ unit := by positivity
    have number : (numerator / denominator : ℚ) = top / bottom * 2 ^ unit := by
      rw [scaled, div_mul_cancel₀ _ step.ne']
    have bounds := roundQuotient_bounds top bottom
    have near := roundQuotient_near top whole
    have quotient : top / bottom < 2 ^ 53 := by
      rw [Nat.div_lt_iff_lt_mul whole]
      rw [div_lt_iff₀ size] at short
      exact_mod_cast short
    have full : 2 ^ 52 ≤ roundQuotient top bottom ∨ unit = -1074 := by
      rcases normal with least | large
      · exact Or.inr least
      · rw [le_div_iff₀ size] at large
        have floor : 2 ^ 52 ≤ top / bottom := by
          rw [Nat.le_div_iff_mul_le whole]
          exact_mod_cast large
        exact Or.inl (floor.trans bounds.1)
    have limit : unit ≤ bound - 52 := by
      rcases normal with least | large
      · omega
      · rw [number] at small
        have product := (mul_le_mul_of_nonneg_right large step.le).trans small
        rw [← zpow_natCast, ← zpow_add₀ (by norm_num : (2 : ℚ) ≠ 0)] at product
        have order := (zpow_le_zpow_iff_right₀ (by norm_num : (1 : ℚ) < 2)).mp product
        push_cast at order
        omega
    have exact := exactly_ofBits (roundQuotient top bottom) (by omega) least (by omega) full
    have close : |(roundQuotient top bottom : ℚ) * 2 ^ unit - numerator / denominator| ≤
        2 ^ (bound - 52) := by
      have scale : (2 : ℚ) ^ unit ≤ 2 ^ (bound - 52) := zpow_le_zpow_right₀ (by norm_num) limit
      rw [number, ← sub_mul, abs_mul, abs_of_pos step]
      calc |(roundQuotient top bottom : ℚ) - top / bottom| * 2 ^ unit
          ≤ 1 / 2 * 2 ^ unit := by gcongr
        _ ≤ 2 ^ (bound - 52) := by linarith
    have finite : (unit + 1074).toNat * Nat.pow 2 52 + roundQuotient top bottom <
        0x7FF0000000000000 := by
      rw [Nat.pow_eq]
      omega
    rw [nearestFloat, if_neg none]
    simp only [same, named, called, if_pos finite]
    exact Near.signed ⟨_, exact, close⟩ negative

theorem withSign_cast (negative : Bool) (magnitude : Nat) :
    (withSign negative magnitude : ℚ) = (if negative then -1 else 1) * magnitude := by
  cases negative <;> simp [withSign]

theorem Binary.denominator_pos (b : Binary) : 0 < b.denominator :=
  Nat.pos_of_ne_zero (by simp [Binary.denominator, Nat.pow_eq])

theorem Binary.value_eq_fraction (b : Binary) :
    b.value = (if b.negative then -1 else 1) * (b.numerator / b.denominator) := by
  have scaled := scaled_fraction b.mantissa 1 (-b.exponent)
  rw [neg_neg, Nat.one_mul, Nat.cast_one, div_one, zpow_neg, div_inv_eq_mul] at scaled
  rw [Binary.value, ← scaled]
  rfl

theorem Exactly.roundedToEven {x : Float} {number : ℚ} (exact : Exactly x number) :
    ∃ whole, roundedToEven? x = some whole ∧ |(whole : ℚ) - number| ≤ 1 / 2 := by
  rcases exact with ⟨b, parts, rfl⟩
  refine ⟨withSign b.negative (roundQuotient b.numerator b.denominator), ?_, ?_⟩
  · rw [roundedToEven?, parts]
    rfl
  · have near := roundQuotient_near b.numerator b.denominator_pos
    rw [withSign_cast, b.value_eq_fraction, ← mul_sub, abs_mul]
    cases b.negative <;> simpa using near

def Undefined (x : Float) : Prop :=
  x.toModel.unpack = .notANumber

theorem Undefined.not_lt {x : Float} (undefined : Undefined x) (y : Float) : ¬ x < y := by
  intro less
  have compared := decide_eq_true_iff.mp less
  change (x.toModel.unpack.compare y.toModel.unpack == some .lt) = true at compared
  rw [undefined] at compared
  exact Bool.noConfusion compared

theorem Undefined.not_beq {x : Float} (undefined : Undefined x) (y : Float) :
    (x == y) = false := by
  change (x.toModel.unpack.compare y.toModel.unpack == some .eq) = false
  rw [undefined]
  rfl

theorem parts_one : Binary.ofFloat? (nearestToInteger 1) = some ⟨false, 2 ^ 52, -52⟩ := by
  rfl

theorem exactly_one : Exactly (nearestToInteger 1) 1 := by
  refine ⟨_, parts_one, ?_⟩
  simp only [Binary.value]
  norm_num

theorem exactly_zero : Exactly (nearestToInteger 0) 0 :=
  exactly_pack_zero .positive

/-- The remainder of a division is no larger than the divisor, up to rounding. -/
theorem truncatedRemainder_bounded {x y : Float} {a b : Binary} {bound : Int}
    (first : Binary.ofFloat? x = some a) (second : Binary.ofFloat? y = some b)
    (divides : b.mantissa ≠ 0) (above : -1022 ≤ bound) (below : bound ≤ 1022)
    (small : (b.mantissa * 2 ^ b.exponent : ℚ) ≤ 2 ^ bound) :
    ∃ number, Exactly (truncatedRemainder x y) number ∧
      |number| ≤ 2 ^ bound + 2 ^ (bound - 52) := by
  obtain ⟨unit, least⟩ : ∃ unit, min a.exponent b.exponent = unit := ⟨_, rfl⟩
  obtain ⟨scale, power⟩ : ∃ scale, Nat.pow 2 (b.exponent - unit).toNat = scale := ⟨_, rfl⟩
  obtain ⟨rest, divided⟩ : ∃ rest, a.mantissa * Nat.pow 2 (a.exponent - unit).toNat %
    (b.mantissa * scale) = rest := ⟨_, rfl⟩
  have positive : 0 < scale := by
    rw [← power, Nat.pow_eq]
    positivity
  have less : rest < b.mantissa * scale :=
    divided ▸ Nat.mod_lt _ (Nat.mul_pos (Nat.pos_of_ne_zero divides) positive)
  have remainder : truncatedRemainder x y =
      nearestFloat a.negative (rest * Nat.pow 2 unit.toNat) (Nat.pow 2 (-unit).toNat) := by
    rw [truncatedRemainder, first, second]
    simp only [if_neg divides, least, power, divided]
  have fraction : ((rest * Nat.pow 2 unit.toNat : Nat) : ℚ) / (Nat.pow 2 (-unit).toNat : Nat) =
      rest * 2 ^ unit := by
    have scaled := scaled_fraction rest 1 (-unit)
    rwa [neg_neg, Nat.one_mul, Nat.cast_one, div_one, zpow_neg, div_inv_eq_mul] at scaled
  have step : (0 : ℚ) < 2 ^ unit := by positivity
  have divisor : ((b.mantissa * scale : Nat) : ℚ) * 2 ^ unit = b.mantissa * 2 ^ b.exponent := by
    rw [← power, Nat.pow_eq]
    push_cast
    rw [mul_assoc, ← zpow_natCast, ← zpow_add₀ (by norm_num : (2 : ℚ) ≠ 0)]
    congr 2
    omega
  have bounded : (rest * 2 ^ unit : ℚ) ≤ 2 ^ bound := by
    have cast : (rest : ℚ) ≤ (b.mantissa * scale : Nat) := by exact_mod_cast less.le
    calc (rest * 2 ^ unit : ℚ) ≤ (b.mantissa * scale : Nat) * 2 ^ unit := by gcongr
      _ = b.mantissa * 2 ^ b.exponent := divisor
      _ ≤ 2 ^ bound := small
  have near := nearestFloat_near a.negative (rest * Nat.pow 2 unit.toNat)
    (Nat.pos_of_ne_zero (by simp [Nat.pow_eq]) : 0 < Nat.pow 2 (-unit).toNat) above below
    (by rwa [fraction])
  rw [← remainder, fraction] at near
  rcases near with ⟨number, exact, close⟩
  refine ⟨number, exact, ?_⟩
  have least : (0 : ℚ) ≤ rest * 2 ^ unit := by positivity
  rw [abs_le] at close ⊢
  cases negative : a.negative <;>
    simp only [negative, if_true, Bool.false_eq_true, if_false] at close <;>
    constructor <;> linarith

theorem truncatedRemainder_one (x : Float) :
    Undefined (truncatedRemainder x (nearestToInteger 1)) ∨
      ∃ number, Exactly (truncatedRemainder x (nearestToInteger 1)) number ∧
        |number| ≤ 1 + 2 ^ (-52 : Int) := by
  cases parts : Binary.ofFloat? x with
  | none =>
      left
      have remainder : truncatedRemainder x (nearestToInteger 1) = undefinedNumber := by
        rw [truncatedRemainder, parts]
      rw [remainder]
      exact (rfl : undefinedNumber.toModel.unpack = .notANumber)
  | some a =>
      right
      have one : (((2 ^ 52 : Nat) : ℚ) * 2 ^ (-52 : Int)) ≤ 2 ^ (0 : Int) := by norm_num
      have bounded := truncatedRemainder_bounded parts parts_one (by decide) (by decide)
        (by decide) one
      simpa using bounded

theorem exactly_literal_zero : Exactly 0 0 :=
  exactly_pack_zero .positive

/-- A remainder of a division by one that rounds down is not negative, up to rounding. -/
theorem flooredRemainder_one (x : Float) :
    Undefined (flooredRemainder x (nearestToInteger 1)) ∨
      ∃ number, Exactly (flooredRemainder x (nearestToInteger 1)) number ∧
        -(2 ^ (-50 : Int)) ≤ number := by
  obtain ⟨rest, named⟩ : ∃ rest, truncatedRemainder x (nearestToInteger 1) = rest := ⟨_, rfl⟩
  have bounded := truncatedRemainder_one x
  have upright : ¬ nearestToInteger 1 < 0 := by
    rw [exactly_one.lt_iff exactly_literal_zero]
    norm_num
  have floored : flooredRemainder x (nearestToInteger 1) =
      if rest == 0 then signed (isNegative (nearestToInteger 1)) (Float.ofBits 0)
      else if (decide (nearestToInteger 1 < 0)) != (decide (rest < 0)) then
        rest + nearestToInteger 1
      else rest := by
    rw [flooredRemainder, named]
  rw [decide_eq_false upright] at floored
  rw [named] at bounded
  rcases bounded with undefined | ⟨number, exact, small⟩
  · left
    rw [floored, undefined.not_beq, decide_eq_false (undefined.not_lt 0)]
    exact undefined
  · right
    by_cases zero : (rest == 0) = true
    · refine ⟨0, ?_, by norm_num⟩
      rw [floored, if_pos zero]
      exact exactly_pack_zero .positive
    · rw [floored, if_neg zero]
      -- A remainder below zero is moved up by one, and the sum is rounded once more.
      by_cases negative : rest < 0
      · have under := (exact.lt_iff exactly_literal_zero).mp negative
        rw [abs_le] at small
        norm_num at small
        have sum := exact.add exactly_one (by decide : (-1022 : Int) ≤ 1) (by decide)
          (by rw [abs_le]; constructor <;> norm_num <;> linarith)
        rcases sum with ⟨result, holds, close⟩
        refine ⟨result, ?_, ?_⟩
        · rw [decide_eq_true negative]
          exact holds
        · rw [abs_le] at close
          norm_num at close ⊢
          linarith
      · have beyond := not_lt.mp fun less => negative ((exact.lt_iff exactly_literal_zero).mpr less)
        refine ⟨number, ?_, ?_⟩
        · rw [decide_eq_false negative]
          exact exact
        · norm_num
          linarith

end DesignTokens
