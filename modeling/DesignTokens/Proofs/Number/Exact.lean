import Mathlib.Algebra.Order.Field.Power
import Mathlib.Algebra.Order.Field.Rat
import Mathlib.Data.Rat.Cast.Order
import Mathlib.Order.Compare
import Mathlib.Tactic.FieldSimp
import Mathlib.Tactic.Linarith
import Mathlib.Tactic.NormNum
import Mathlib.Tactic.Positivity
import Mathlib.Tactic.Ring
import DesignTokens.Number.Binary

/-!
Doubles as rational numbers: the number that a finite double is, the shape of its
mantissa and exponent, and its order.
-/

namespace DesignTokens

open Float.Model (Format UnpackedFloat totalExponent)
open Float.Model.UnpackedFloat

def isMinus : Sign → Bool
  | .negative => true
  | .positive => false

def binaryOfBits? (bits : Nat) : Option Binary :=
  if bits / 2 ^ 52 % 2048 = 2047 then none
  else if bits / 2 ^ 52 % 2048 = 0 then some ⟨bits / 2 ^ 63 == 1, bits % 2 ^ 52, -1074⟩
  else
    some ⟨bits / 2 ^ 63 == 1, 2 ^ 52 + bits % 2 ^ 52, Int.ofNat (bits / 2 ^ 52 % 2048) - 1075⟩

theorem ofFloat?_eq_binaryOfBits? (x : Float) :
    Binary.ofFloat? x = binaryOfBits? x.toBits.toNat := by
  simp only [Binary.ofFloat?, binaryOfBits?, Nat.pow_eq]

structure Canonical (mantissa : Nat) (exponent : Int) : Prop where
  small : mantissa < 2 ^ 53
  least : -1074 ≤ exponent
  most : exponent ≤ 971
  normal : 2 ^ 52 ≤ mantissa ∨ exponent = -1074

theorem canonical_of_bits {bits : Nat} {b : Binary} (parts : binaryOfBits? bits = some b) :
    Canonical b.mantissa b.exponent := by
  unfold binaryOfBits? at parts
  split at parts
  · simp at parts
  · split at parts
    · obtain rfl := Option.some.inj parts
      dsimp only
      exact ⟨by omega, by omega, by omega, Or.inr rfl⟩
    · obtain rfl := Option.some.inj parts
      simp only [Int.ofNat_eq_natCast]
      exact ⟨by omega, by omega, by omega, Or.inl (by omega)⟩

theorem binaryOfBits?_eq_some {mantissa : Nat} {exponent : Int}
    (canonical : Canonical mantissa exponent) (minus : Bool) :
    binaryOfBits? ((if minus then 2 ^ 63 else 0) + (exponent + 1074).toNat * 2 ^ 52 + mantissa) =
      some ⟨minus, mantissa, exponent⟩ := by
  rcases canonical with ⟨small, least, most, normal⟩
  have fields : ∃ bits, (if minus then 2 ^ 63 else 0) + (exponent + 1074).toNat * 2 ^ 52 +
      mantissa = bits := ⟨_, rfl⟩
  rcases fields with ⟨bits, same⟩
  have sign : (bits / 2 ^ 63 == 1) = minus := by
    cases minus
    · simp only [Bool.false_eq_true, if_false] at same
      simp only [beq_eq_false_iff_ne]
      omega
    · simp only [if_true] at same
      simp only [beq_iff_eq]
      omega
  have rest : (exponent + 1074).toNat * 2 ^ 52 + mantissa = bits % 2 ^ 63 := by
    cases minus
    · simp only [Bool.false_eq_true, if_false] at same
      omega
    · simp only [if_true] at same
      omega
  rw [same, binaryOfBits?, sign]
  by_cases tiny : mantissa < 2 ^ 52
  · have bottom : exponent = -1074 := by omega
    rw [if_neg (by omega), if_pos (by omega), bottom]
    have low : bits % 2 ^ 52 = mantissa := by omega
    rw [low]
  · rw [if_neg (by omega), if_neg (by omega)]
    have low : 2 ^ 52 + bits % 2 ^ 52 = mantissa := by omega
    have high : Int.ofNat (bits / 2 ^ 52 % 2048) - 1075 = exponent := by
      simp only [Int.ofNat_eq_natCast]
      omega
    rw [low, high]

theorem toNat_packComponents (sign : Sign) (exponent : BitVec 11) (fraction : BitVec 52) :
    (packComponents Format.binary64 sign exponent fraction).toNat =
      (if isMinus sign then 2 ^ 63 else 0) + exponent.toNat * 2 ^ 52 + fraction.toNat := by
  have field := exponent.isLt
  have bits := fraction.isLt
  change (sign.toBitVec ++ exponent ++ fraction).toNat = _
  rw [BitVec.toNat_append, BitVec.toNat_append, ← Nat.shiftLeft_add_eq_or_of_lt field,
    ← Nat.shiftLeft_add_eq_or_of_lt bits, Nat.shiftLeft_eq, Nat.shiftLeft_eq]
  cases sign
  · change ((1 * 2 ^ 11 + exponent.toNat) * 2 ^ 52 + fraction.toNat) = 2 ^ 63 + _ + _
    omega
  · change ((0 * 2 ^ 11 + exponent.toNat) * 2 ^ 52 + fraction.toNat) = 0 + _ + _
    omega

theorem toNat_unpackExponent (bits : BitVec 64) :
    (@unpackExponent Format.binary64 bits).toNat = bits.toNat / 2 ^ 52 % 2048 := by
  change (bits.extractLsb 62 52).toNat = _
  rw [BitVec.extractLsb_toNat, Nat.shiftRight_eq_div_pow]

theorem toNat_unpackMantissa (bits : BitVec 64) :
    (@unpackMantissa Format.binary64 bits).toNat = bits.toNat % 2 ^ 52 := by
  change (bits.extractLsb 51 0).toNat = _
  rw [BitVec.extractLsb_toNat, Nat.shiftRight_eq_div_pow]
  simp

theorem toNat_unpackSign (bits : BitVec 64) :
    (@unpackSign Format.binary64 bits).toNat = bits.toNat / 2 ^ 63 := by
  have bound := bits.isLt
  change (bits.extractLsb 63 63).toNat = _
  rw [BitVec.extractLsb_toNat, Nat.shiftRight_eq_div_pow]
  omega

theorem isMinus_ofBitVec (bit : BitVec 1) : isMinus (Sign.ofBitVec bit) = (bit.toNat == 1) := by
  have bound := bit.isLt
  unfold Sign.ofBitVec
  split
  · rename_i zero
    rw [zero]
    rfl
  · rename_i nonzero
    have apart : bit.toNat ≠ 0 := fun same => nonzero (BitVec.eq_of_toNat_eq same)
    have one : bit.toNat = 1 := by omega
    rw [one]
    rfl

theorem append_implicit (fraction : BitVec 52) :
    (1#1 ++ fraction).toNat = 2 ^ 52 + fraction.toNat := by
  rw [BitVec.toNat_append, ← Nat.shiftLeft_add_eq_or_of_lt fraction.isLt]
  rfl

def partsOf? : UnpackedFloat → Option Binary
  | .zero sign => some ⟨isMinus sign, 0, -1074⟩
  | .finite sign mantissa exponent _ => some ⟨isMinus sign, mantissa, exponent⟩
  | _ => none

theorem partsOf?_eq_some {unpacked : UnpackedFloat} {b : Binary}
    (parts : partsOf? unpacked = some b) :
    (∃ sign, unpacked = .zero sign ∧ b = ⟨isMinus sign, 0, -1074⟩) ∨
      ∃ sign mantissa exponent positive, unpacked = .finite sign mantissa exponent positive ∧
        b = ⟨isMinus sign, mantissa, exponent⟩ := by
  cases unpacked with
  | notANumber => exact absurd parts.symm (Option.some_ne_none b)
  | infinity sign => exact absurd parts.symm (Option.some_ne_none b)
  | zero sign => exact Or.inl ⟨sign, rfl, (Option.some.inj parts).symm⟩
  | finite sign mantissa exponent positive =>
      exact Or.inr ⟨sign, mantissa, exponent, positive, rfl, (Option.some.inj parts).symm⟩

theorem partsOf?_unpack (bits : BitVec 64) :
    partsOf? (UnpackedFloat.unpack Format.binary64 bits) = binaryOfBits? bits.toNat := by
  have sign := isMinus_ofBitVec (@unpackSign Format.binary64 bits)
  rw [toNat_unpackSign] at sign
  unfold binaryOfBits? UnpackedFloat.unpack
  rw [← toNat_unpackExponent, ← toNat_unpackMantissa, ← sign]
  by_cases all : @unpackExponent Format.binary64 bits = -1#11
  · have field : (@unpackExponent Format.binary64 bits).toNat = 2047 :=
      congrArg BitVec.toNat all
    rw [if_pos field, if_pos all]
    split <;> rfl
  · have field : (@unpackExponent Format.binary64 bits).toNat ≠ 2047 :=
      fun same => all (BitVec.eq_of_toNat_eq same)
    rw [if_neg field, if_neg all]
    by_cases none : @unpackExponent Format.binary64 bits = 0#11
    · have empty : (@unpackExponent Format.binary64 bits).toNat = 0 :=
        congrArg BitVec.toNat none
      rw [if_pos empty, if_pos none]
      by_cases zero : @unpackMantissa Format.binary64 bits = 0#52
      · rw [dif_pos zero, zero]
        rfl
      · rw [dif_neg zero]
        dsimp only [partsOf?]
        rw [empty]
        rfl
    · have held : (@unpackExponent Format.binary64 bits).toNat ≠ 0 :=
        fun same => none (BitVec.eq_of_toNat_eq same)
      rw [if_neg held, if_neg none]
      dsimp only [partsOf?]
      rw [append_implicit]
      rfl

theorem ofFloat?_eq_partsOf? (x : Float) :
    Binary.ofFloat? x = partsOf? x.toModel.unpack := by
  rw [ofFloat?_eq_binaryOfBits?, Float.Model.unpack, partsOf?_unpack]
  rfl

theorem toNat_pack_finite {mantissa : Nat} {exponent : Int} (sign : Sign)
    (positive : 0 < mantissa) (canonical : Canonical mantissa exponent) :
    (UnpackedFloat.pack Format.binary64 (.finite sign mantissa exponent positive)).toNat =
      (if isMinus sign then 2 ^ 63 else 0) + (exponent + 1074).toNat * 2 ^ 52 + mantissa := by
  rcases canonical with ⟨small, least, most, normal⟩
  have biased : (exponent + Format.binary64.exponentBias + 52).toNat = (exponent + 1075).toNat := by
    have bias : (Format.binary64.exponentBias : Int) = 1023 := by decide
    omega
  have fits : ¬ 2 ^ Format.binary64.exponentBits ≤ (exponent + Format.binary64.exponentBias +
      Format.binary64.mantissaBitsWithoutImplicit).toNat + 1 := by
    change ¬ 2 ^ 11 ≤ (exponent + Format.binary64.exponentBias + 52).toNat + 1
    omega
  delta UnpackedFloat.pack
  dsimp only
  rw [if_neg fits]
  by_cases whole : 2 ^ 52 ≤ mantissa
  · have digits : mantissa.log2 = 52 := (Nat.log2_eq_iff (by omega)).mpr ⟨whole, small⟩
    rw [digits, if_pos (by decide), toNat_packComponents, BitVec.toNat_ofNat, BitVec.toNat_ofNat]
    change _ + (exponent + Format.binary64.exponentBias + 52).toNat % 2 ^ 11 * 2 ^ 52 + _ = _
    rw [biased]
    omega
  · have digits : mantissa.log2 < 52 := (Nat.log2_lt (by omega)).mpr (by omega)
    have short : ¬ mantissa.log2 + 1 = Format.binary64.mantissaBits := by
      have width : Format.binary64.mantissaBits = 53 := by decide
      omega
    rw [if_neg short, toNat_packComponents, BitVec.toNat_ofNat, BitVec.toNat_ofNat]
    change _ + 0 * 2 ^ 52 + mantissa % 2 ^ 52 = _
    omega

theorem partsOf?_pack_finite {mantissa : Nat} {exponent : Int} (sign : Sign)
    (positive : 0 < mantissa) (canonical : Canonical mantissa exponent) :
    Binary.ofFloat? (.ofModel (.pack (.finite sign mantissa exponent positive))) =
      some ⟨isMinus sign, mantissa, exponent⟩ := by
  rw [ofFloat?_eq_binaryOfBits?, ← binaryOfBits?_eq_some canonical (isMinus sign),
    ← toNat_pack_finite sign positive canonical]
  rfl

theorem partsOf?_pack_zero (sign : Sign) :
    Binary.ofFloat? (.ofModel (.pack (.zero sign))) = some ⟨isMinus sign, 0, -1074⟩ := by
  cases sign <;> rfl

namespace Binary

def value (b : Binary) : ℚ :=
  (if b.negative then -1 else 1) * (b.mantissa * 2 ^ b.exponent)

end Binary

def Exactly (x : Float) (number : ℚ) : Prop :=
  ∃ b, Binary.ofFloat? x = some b ∧ b.value = number

theorem Exactly.unique {x : Float} {number other : ℚ} (first : Exactly x number)
    (second : Exactly x other) : number = other := by
  rcases first with ⟨b, parts, rfl⟩
  rcases second with ⟨c, same, rfl⟩
  rw [parts] at same
  rw [Option.some.inj same]

theorem value_mk (sign : Sign) (mantissa : Nat) (exponent : Int) :
    (Binary.mk (isMinus sign) mantissa exponent).value = sign.apply mantissa * 2 ^ exponent := by
  cases sign <;> simp [Binary.value, isMinus, Sign.apply]

theorem Exactly.unpacked {x : Float} {number : ℚ} (exact : Exactly x number) :
    (∃ sign, x.toModel.unpack = .zero sign ∧ number = 0) ∨
      ∃ sign mantissa exponent positive,
        x.toModel.unpack = .finite sign mantissa exponent positive ∧
          Canonical mantissa exponent ∧ number = sign.apply mantissa * 2 ^ exponent := by
  rcases exact with ⟨b, parts, rfl⟩
  have canonical := canonical_of_bits ((ofFloat?_eq_binaryOfBits? x).symm.trans parts)
  rw [ofFloat?_eq_partsOf?] at parts
  rcases partsOf?_eq_some parts with ⟨sign, shape, rfl⟩ |
    ⟨sign, mantissa, exponent, positive, shape, rfl⟩
  · exact Or.inl ⟨sign, shape, by simp [Binary.value]⟩
  · exact Or.inr ⟨sign, mantissa, exponent, positive, shape, canonical, value_mk _ _ _⟩

theorem exactly_pack_zero (sign : Sign) : Exactly (.ofModel (.pack (.zero sign))) 0 := by
  refine ⟨_, partsOf?_pack_zero sign, ?_⟩
  simp [Binary.value]

theorem exactly_pack_finite {mantissa : Nat} {exponent : Int} (sign : Sign)
    (positive : 0 < mantissa) (canonical : Canonical mantissa exponent) :
    Exactly (.ofModel (.pack (.finite sign mantissa exponent positive)))
      (sign.apply mantissa * 2 ^ exponent) :=
  ⟨_, partsOf?_pack_finite sign positive canonical, value_mk _ _ _⟩

theorem magnitude_pos {mantissa : Nat} (positive : 0 < mantissa) (exponent : Int) :
    (0 : ℚ) < mantissa * 2 ^ exponent := by
  have cast : (0 : ℚ) < mantissa := Nat.cast_pos.mpr positive
  positivity

theorem magnitude_lt {mantissa other : Nat} {exponent higher : Int}
    (first : Canonical mantissa exponent) (second : Canonical other higher)
    (below : exponent < higher) : (mantissa * 2 ^ exponent : ℚ) < other * 2 ^ higher := by
  have whole : 2 ^ 52 ≤ other := by
    have least := first.least
    rcases second.normal with normal | bottom
    · exact normal
    · omega
  have least : (0 : ℚ) < 2 ^ exponent := by positivity
  have small : (mantissa : ℚ) < 2 ^ 53 := by exact_mod_cast first.small
  have large : (2 ^ 52 : ℚ) ≤ other := by exact_mod_cast whole
  have step : (2 : ℚ) * 2 ^ exponent ≤ 2 ^ higher := by
    have next : (2 : ℚ) ^ (exponent + 1) ≤ 2 ^ higher :=
      zpow_le_zpow_right₀ (by norm_num) (by omega)
    rw [zpow_add_one₀ (by norm_num)] at next
    linarith
  calc (mantissa * 2 ^ exponent : ℚ) < 2 ^ 53 * 2 ^ exponent := by gcongr
    _ = 2 ^ 52 * (2 * 2 ^ exponent) := by ring
    _ ≤ other * 2 ^ higher := by gcongr

theorem compare_magnitudes {mantissa other : Nat} {exponent higher : Int}
    (first : Canonical mantissa exponent) (second : Canonical other higher) :
    (compare exponent higher).then (compare mantissa other) =
      cmp (mantissa * 2 ^ exponent : ℚ) (other * 2 ^ higher) := by
  rcases lt_trichotomy exponent higher with below | rfl | above
  · have less := magnitude_lt first second below
    rw [Int.compare_eq_lt.mpr below, less.cmp_eq_lt]
    rfl
  · have scaled : StrictMono fun whole : Nat => (whole * 2 ^ exponent : ℚ) := by
      intro small large less
      have cast : (small : ℚ) < large := Nat.cast_lt.mpr less
      dsimp only
      gcongr
    rw [Int.compare_eq_eq.mpr rfl, scaled.cmp_map_eq mantissa other]
    exact (cmp_eq_compare mantissa other).symm
  · have less := magnitude_lt second first above
    rw [Int.compare_eq_gt.mpr above, less.cmp_eq_gt]
    rfl

theorem positive_apply (mantissa : Nat) (exponent : Int) :
    (Sign.positive.apply mantissa : ℚ) * 2 ^ exponent = mantissa * 2 ^ exponent := by
  simp [Sign.apply]

theorem negative_apply (mantissa : Nat) (exponent : Int) :
    (Sign.negative.apply mantissa : ℚ) * 2 ^ exponent = -(mantissa * 2 ^ exponent) := by
  simp [Sign.apply]

theorem below_zero {mantissa : Nat} (positive : 0 < mantissa) (exponent : Int) :
    (Sign.negative.apply mantissa : ℚ) * 2 ^ exponent < 0 := by
  rw [negative_apply]
  exact neg_neg_of_pos (magnitude_pos positive exponent)

theorem above_zero {mantissa : Nat} (positive : 0 < mantissa) (exponent : Int) :
    0 < (Sign.positive.apply mantissa : ℚ) * 2 ^ exponent := by
  rw [positive_apply]
  exact magnitude_pos positive exponent

theorem Exactly.compare {x y : Float} {number other : ℚ} (first : Exactly x number)
    (second : Exactly y other) :
    x.toModel.unpack.compare y.toModel.unpack = some (cmp number other) := by
  rcases first.unpacked with ⟨sign, shape, rfl⟩ |
    ⟨sign, mantissa, exponent, positive, shape, canonical, rfl⟩
  · rcases second.unpacked with ⟨minus, form, rfl⟩ |
      ⟨minus, digits, power, some, form, _, rfl⟩
    · rw [shape, form, cmp_self_eq_eq]
      rfl
    · rw [shape, form]
      cases minus with
      | negative =>
          rw [(below_zero some power).cmp_eq_gt]
          rfl
      | positive =>
          rw [(above_zero some power).cmp_eq_lt]
          rfl
  · rcases second.unpacked with ⟨minus, form, rfl⟩ |
      ⟨minus, digits, power, some, form, fits, rfl⟩
    · rw [shape, form]
      cases sign with
      | negative =>
          rw [(below_zero positive exponent).cmp_eq_lt]
          rfl
      | positive =>
          rw [(above_zero positive exponent).cmp_eq_gt]
          rfl
    · have magnitudes := compare_magnitudes canonical fits
      rw [shape, form]
      cases sign with
      | negative =>
          cases minus with
          | negative =>
              have mirrored : StrictAnti fun size : ℚ => -size := fun _ _ less => neg_lt_neg less
              rw [negative_apply, negative_apply, mirrored.cmp_map_eq, ← cmp_swap, ← magnitudes]
              rfl
          | positive =>
              rw [((below_zero positive exponent).trans (above_zero some power)).cmp_eq_lt]
              rfl
      | positive =>
          cases minus with
          | negative =>
              rw [((below_zero some power).trans (above_zero positive exponent)).cmp_eq_gt]
              rfl
          | positive =>
              rw [positive_apply, positive_apply, ← magnitudes]
              rfl

theorem Exactly.lt_iff {x y : Float} {number other : ℚ} (first : Exactly x number)
    (second : Exactly y other) : x < y ↔ number < other := by
  refine decide_eq_true_iff.trans ?_
  change (x.toModel.unpack.compare y.toModel.unpack == some .lt) = true ↔ _
  rw [first.compare second, beq_iff_eq, Option.some_inj, cmp_eq_lt_iff]

theorem Exactly.le_iff {x y : Float} {number other : ℚ} (first : Exactly x number)
    (second : Exactly y other) : x ≤ y ↔ number ≤ other := by
  refine decide_eq_true_iff.trans ?_
  change (x.toModel.unpack.compare y.toModel.unpack).any (·.isLE) = true ↔ _
  rw [first.compare second, Option.any_some]
  rcases lt_trichotomy number other with less | rfl | more
  · rw [less.cmp_eq_lt]
    exact ⟨fun _ => less.le, fun _ => rfl⟩
  · rw [cmp_self_eq_eq]
    exact ⟨fun _ => le_refl _, fun _ => rfl⟩
  · rw [more.cmp_eq_gt]
    exact ⟨fun wrong => absurd wrong (by decide), fun wrong => absurd wrong more.not_ge⟩

theorem Exactly.beq_iff {x y : Float} {number other : ℚ} (first : Exactly x number)
    (second : Exactly y other) : (x == y) = true ↔ number = other := by
  change (x.toModel.unpack.compare y.toModel.unpack == some .eq) = true ↔ _
  rw [first.compare second, beq_iff_eq, Option.some_inj, cmp_eq_eq_iff]

end DesignTokens
