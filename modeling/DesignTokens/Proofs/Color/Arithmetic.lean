import Mathlib.Algebra.Order.Floor.Ring
import Mathlib.Data.Rat.Floor
import DesignTokens.Color.Hsl
import DesignTokens.Proofs.Color.Written
import DesignTokens.Proofs.Number.Nearest
import DesignTokens.Value.Record

/-!
Colour arithmetic stays in its range.  The formulas are run on rational numbers first, with a
value of its own for whatever comes from a division by zero: it never comes up.  Rounding to
doubles does not lead them out of the bytes either, so colours that are read or adjusted can be
written with six digits and are accepted as colours again.
-/

namespace DesignTokens

section

open ColorNumber

inductive Fraction where
  | number (value : ℚ)
  | undefined
deriving DecidableEq

namespace Fraction

def combine (operation : ℚ → ℚ → ℚ) : Fraction → Fraction → Fraction
  | number a, number b => number (operation a b)
  | _, _ => undefined

def quotient : Fraction → Fraction → Fraction
  | number a, number b => if b = 0 then undefined else number (a / b)
  | _, _ => undefined

def compare (relation : ℚ → ℚ → Bool) : Fraction → Fraction → Bool
  | number a, number b => relation a b
  | _, _ => false

def flooredRemainder : Fraction → Nat → Fraction
  | number a, divisor => if divisor = 0 then undefined else number (a - divisor * ⌊a / divisor⌋)
  | undefined, _ => undefined

def nearestWhole (value : ℚ) : Int :=
  withSign (value < 0) (roundQuotient value.num.natAbs value.den)

instance : ColorNumber Fraction where
  add := combine (· + ·)
  sub := combine (· - ·)
  mul := combine (· * ·)
  div := quotient
  constant value := number value
  less := compare (· < ·)
  atMost := compare (· ≤ ·)
  equal := compare (· = ·)
  divided a divisor := quotient a (number divisor)
  times a factor := combine (· * ·) a (number factor)
  remainder := flooredRemainder
  round
    | number value => .ok (nearestWhole value)
    | undefined => .error .undefined
  checked
    | number value => .ok (number value)
    | undefined => .error .zeroDivisor

section Operations

variable (a b : ℚ)

@[simp] theorem number_add : number a + number b = number (a + b) := rfl

@[simp] theorem number_sub : number a - number b = number (a - b) := rfl

@[simp] theorem number_mul : number a * number b = number (a * b) := rfl

@[simp] theorem number_div {b : ℚ} (divisor : b ≠ 0) : number a / number b = number (a / b) :=
  if_neg divisor

@[simp] theorem constant_eq (value : Int) : (constant value : Fraction) = number value := rfl

@[simp] theorem less_eq : less (number a) (number b) = decide (a < b) := rfl

@[simp] theorem atMost_eq : atMost (number a) (number b) = decide (a ≤ b) := rfl

@[simp] theorem equal_eq : equal (number a) (number b) = decide (a = b) := rfl

@[simp] theorem times_eq (factor : Nat) : times (number a) factor = number (a * factor) := rfl

@[simp] theorem divided_eq {divisor : Nat} (some : (divisor : ℚ) ≠ 0) :
    divided (number a) divisor = number (a / divisor) :=
  if_neg some

@[simp] theorem checked_eq : checked (number a) = .ok (number a) := rfl

@[simp] theorem round_eq : round (number a) = .ok (nearestWhole a) := rfl

@[simp] theorem half_eq : (half : Fraction) = number (1 / 2) := by
  simp [half]

@[simp] theorem third_eq : (third : Fraction) = number (1 / 3) := by
  simp [third]

@[simp] theorem twoThirds_eq : (twoThirds : Fraction) = number (2 / 3) := by
  simp [twoThirds]

@[simp] theorem sixth_eq : (sixth : Fraction) = number (1 / 6) := by
  simp [sixth]

@[simp] theorem larger_eq : larger (number a) (number b) = number (max a b) := by
  rw [larger, less_eq]
  by_cases less : a < b
  · rw [decide_eq_true less, if_pos rfl, max_eq_right less.le]
  · rw [decide_eq_false less, if_neg Bool.false_ne_true, max_eq_left (not_lt.mp less)]

@[simp] theorem smaller_eq : smaller (number a) (number b) = number (min a b) := by
  rw [smaller, less_eq]
  by_cases less : b < a
  · rw [decide_eq_true less, if_pos rfl, min_eq_right less.le]
  · rw [decide_eq_false less, if_neg Bool.false_ne_true, min_eq_left (not_lt.mp less)]

@[simp] theorem clampUnit_eq : clampUnit (number a) = number (max 0 (min 1 a)) := by
  simp [clampUnit, clamp]

theorem checkedQuotient_eq {b : ℚ} (divisor : b ≠ 0) :
    checkedQuotient (number a) (number b) = .ok (number (a / b)) := by
  simp [checkedQuotient, divisor]

theorem remainder_eq {divisor : Nat} (some : 0 < divisor) :
    ∃ rest, remainder (number a) divisor = number rest ∧ 0 ≤ rest ∧ rest < divisor := by
  have positive : (0 : ℚ) < divisor := Nat.cast_pos.mpr some
  refine ⟨_, if_neg some.ne', ?_, ?_⟩
  · have low := Int.floor_le (a / divisor)
    have scaled := (le_div_iff₀' positive).mp low
    linarith
  · have high := Int.lt_floor_add_one (a / divisor)
    have scaled := (div_lt_iff₀' positive).mp high
    linarith

/-- A number from zero to a whole number is rounded to one of these. -/
theorem nearestWhole_between {limit : Nat} {value : ℚ} (low : 0 ≤ value) (high : value ≤ limit) :
    0 ≤ nearestWhole value ∧ nearestWhole value ≤ limit := by
  have near := roundQuotient_near value.num.natAbs value.den_pos
  have same : ((value.num.natAbs : Nat) : ℚ) / value.den = value := by
    rw [Nat.cast_natAbs, abs_of_nonneg (Rat.num_nonneg.mpr low), Rat.num_div_den]
  rw [same, abs_le] at near
  have positive : nearestWhole value = (roundQuotient value.num.natAbs value.den : Nat) := by
    rw [nearestWhole, decide_eq_false (not_lt.mpr low)]
    rfl
  rw [positive]
  have below : ((roundQuotient value.num.natAbs value.den : Nat) : ℚ) < limit + 1 := by linarith
  have bound : roundQuotient value.num.natAbs value.den < limit + 1 := by exact_mod_cast below
  omega

end Operations

/-- The formula of the hue divides by the range of the channels only. -/
theorem hueSextant_eq (red green blue : ℚ) {most least : ℚ} (apart : most - least ≠ 0) :
    ∃ sextant, hueSextant (number red) (number green) (number blue) (number most) (number least) =
      number sextant := by
  rw [hueSextant]
  simp only [number_sub, number_div _ apart, constant_eq, number_add, equal_eq]
  split
  · exact ⟨_, rfl⟩
  · split <;> exact ⟨_, rfl⟩

def IsPart (value : ℚ) : Prop :=
  0 ≤ value ∧ value ≤ 1

theorem isPart_clamped (value : ℚ) : IsPart (max 0 (min 1 value)) :=
  ⟨le_max_left _ _, max_le zero_le_one (min_le_left _ _)⟩

theorem ofUnitChannels_eq {red green blue : ℚ} (first : IsPart red) (second : IsPart green)
    (third : IsPart blue) :
    ∃ hue saturation lightness,
      Hsl.ofUnitChannels (number red) (number green) (number blue) =
        .ok ⟨number hue, number saturation, number lightness⟩ ∧
      IsPart saturation ∧ IsPart lightness := by
  obtain ⟨most, least, isMost, isLeast, low, between, high⟩ :
      ∃ most least, max (max red green) blue = most ∧ min (min red green) blue = least ∧
        0 ≤ least ∧ least ≤ most ∧ most ≤ 1 := by
    refine ⟨_, _, rfl, rfl, ?_, ?_, ?_⟩
    · exact le_min (le_min first.1 second.1) third.1
    · exact (min_le_right _ _).trans (le_max_right _ _)
    · exact max_le (max_le first.2 second.2) third.2
  have light : IsPart ((most + least) / 2) := ⟨by linarith, by linarith⟩
  rw [Hsl.ofUnitChannels]
  simp only [larger_eq, smaller_eq, isMost, isLeast, number_add, number_sub, constant_eq, equal_eq]
  rw [number_div _ (by norm_num)]
  by_cases grey : least = most
  · rw [decide_eq_true grey, if_pos rfl]
    exact ⟨_, _, _, rfl, ⟨by norm_num, by norm_num⟩, light⟩
  · have range : 0 < most - least := sub_pos.mpr (lt_of_le_of_ne between grey)
    obtain ⟨sextant, hue⟩ := hueSextant_eq red green blue range.ne'
    obtain ⟨turn, rest, _⟩ := remainder_eq (sextant / (6 : Int)) Nat.one_pos
    -- The divisor of the saturation is positive, and no less than the range.
    obtain ⟨divisor, chosen, positive, wide⟩ : ∃ divisor : ℚ,
        (if decide ((most + least) / ((2 : Int) : ℚ) ≤ 1 / 2) then number (most + least)
          else number (((2 : Int) : ℚ) - (most + least))) = number divisor ∧
        0 < divisor ∧ most - least ≤ divisor := by
      split
      · exact ⟨_, rfl, by linarith, by linarith⟩
      · exact ⟨_, rfl, by push_cast; linarith, by push_cast; linarith⟩
    have strength : IsPart ((most - least) / divisor) :=
      ⟨div_nonneg range.le positive.le, (div_le_one positive).mpr wide⟩
    rw [decide_eq_false grey, if_neg Bool.false_ne_true]
    simp only [half_eq, atMost_eq, chosen, hue]
    rw [checkedQuotient_eq _ positive.ne', number_div _ (by norm_num), rest]
    exact ⟨_, _, _, rfl, strength, light⟩

theorem channelAt_eq {low high : ℚ} (order : low ≤ high) (turn : ℚ) :
    ∃ value, channelAt (number low) (number high) (number turn) = number value ∧
      low ≤ value ∧ value ≤ high := by
  obtain ⟨place, rest, start, _⟩ := remainder_eq turn Nat.one_pos
  have range : 0 ≤ high - low := sub_nonneg.mpr order
  rw [channelAt, rest]
  simp only [sixth_eq, half_eq, twoThirds_eq, less_eq, constant_eq, number_sub, number_mul,
    number_add]
  by_cases rising : place < 1 / 6
  · rw [decide_eq_true rising, if_pos rfl]
    refine ⟨_, rfl, ?_, ?_⟩ <;> push_cast <;> nlinarith
  · rw [decide_eq_false rising, if_neg Bool.false_ne_true]
    by_cases upper : place < 1 / 2
    · rw [decide_eq_true upper, if_pos rfl]
      exact ⟨high, rfl, order, le_rfl⟩
    · rw [decide_eq_false upper, if_neg Bool.false_ne_true]
      by_cases falling : place < 2 / 3
      · rw [decide_eq_true falling, if_pos rfl]
        refine ⟨_, rfl, ?_, ?_⟩ <;> push_cast <;> nlinarith
      · rw [decide_eq_false falling, if_neg Bool.false_ne_true]
        exact ⟨low, rfl, le_rfl, order⟩

/-- The extremes of the channels that a saturation and a lightness give. -/
theorem extremes_eq {saturation lightness : ℚ} (first : IsPart saturation)
    (second : IsPart lightness) :
    ∃ high, (if atMost (number lightness) half then
          number lightness * ((constant 1 : Fraction) + number saturation)
        else number lightness + number saturation - number lightness * number saturation) =
        number high ∧
      IsPart high ∧ 0 ≤ 2 * lightness - high ∧ 2 * lightness - high ≤ high := by
  obtain ⟨noLess, noMore⟩ := first
  obtain ⟨dark, bright⟩ := second
  simp only [half_eq, atMost_eq, constant_eq, number_add, number_mul, number_sub]
  by_cases dim : lightness ≤ 1 / 2
  · rw [decide_eq_true dim, if_pos rfl]
    refine ⟨_, rfl, ⟨?_, ?_⟩, ?_, ?_⟩ <;> push_cast <;> nlinarith
  · rw [decide_eq_false dim, if_neg Bool.false_ne_true]
    refine ⟨_, rfl, ⟨?_, ?_⟩, ?_, ?_⟩ <;> nlinarith

theorem unitChannels_eq (hue : ℚ) {saturation lightness : ℚ} (first : IsPart saturation)
    (second : IsPart lightness) :
    ∃ red green blue,
      Hsl.unitChannels ⟨number hue, number saturation, number lightness⟩ =
        .ok (number red, number green, number blue) ∧
      IsPart red ∧ IsPart green ∧ IsPart blue := by
  rw [Hsl.unitChannels]
  dsimp only
  rw [constant_eq, equal_eq]
  by_cases grey : saturation = ((0 : Int) : ℚ)
  · rw [decide_eq_true grey, if_pos rfl]
    exact ⟨_, _, _, rfl, second, second, second⟩
  · obtain ⟨high, most, isPart, low, order⟩ := extremes_eq first second
    obtain ⟨degrees, rest, _⟩ := remainder_eq hue (by decide : 0 < 360)
    have placed : ∀ turn, ∃ value, channelAt (number (2 * lightness - high)) (number high)
        (number turn) = number value ∧ IsPart value := by
      intro turn
      obtain ⟨value, found, above, below⟩ := channelAt_eq order turn
      exact ⟨value, found, low.trans above, below.trans isPart.2⟩
    have least : constant 2 * number lightness - number high = number (2 * lightness - high) := rfl
    have turn : number degrees / (constant 360 : Fraction) = number (degrees / 360) :=
      number_div _ (by norm_num)
    obtain ⟨red, isRed, redPart⟩ := placed (degrees / 360 + 1 / 3)
    obtain ⟨green, isGreen, greenPart⟩ := placed (degrees / 360)
    obtain ⟨blue, isBlue, bluePart⟩ := placed (degrees / 360 - 1 / 3)
    refine ⟨red, green, blue, ?_, redPart, greenPart, bluePart⟩
    rw [decide_eq_false grey, if_neg Bool.false_ne_true, rest, turn, most]
    simp only [checked_eq, bind, Except.bind, least, third_eq, number_add, number_sub, isRed,
      isGreen, isBlue, pure, Except.pure]

def IsByte (channel : Int) : Prop :=
  0 ≤ channel ∧ channel ≤ 255

theorem channels_eq (hue : ℚ) {saturation lightness : ℚ} (first : IsPart saturation)
    (second : IsPart lightness) :
    ∃ red green blue,
      Hsl.channels ⟨number hue, number saturation, number lightness⟩ = .ok (red, green, blue) ∧
      IsByte red ∧ IsByte green ∧ IsByte blue := by
  obtain ⟨red, green, blue, found, redPart, greenPart, bluePart⟩ :=
    unitChannels_eq hue first second
  have byte : ∀ {value}, IsPart value → IsByte (nearestWhole (value * (255 : Nat))) := by
    intro value isPart
    obtain ⟨low, high⟩ := isPart
    exact @nearestWhole_between 255 _ (by positivity) (by push_cast; linarith)
  refine ⟨_, _, _, ?_, byte redPart, byte greenPart, byte bluePart⟩
  rw [Hsl.channels, found]
  rfl

theorem ofChannels_eq {red green blue : Int} (first : IsByte red) (second : IsByte green)
    (third : IsByte blue) :
    ∃ hue saturation lightness,
      Hsl.ofChannels (number red) (number green) (number blue) =
        .ok ⟨number hue, number saturation, number lightness⟩ ∧
      IsPart saturation ∧ IsPart lightness := by
  have part : ∀ {channel : Int}, IsByte channel → IsPart ((channel : ℚ) / (255 : Nat)) := by
    intro channel isByte
    have low : (0 : ℚ) ≤ channel := by exact_mod_cast isByte.1
    have high : (channel : ℚ) ≤ 255 := by exact_mod_cast isByte.2
    exact ⟨by positivity, by push_cast; linarith⟩
  have limit : ((255 : Nat) : ℚ) ≠ 0 := by norm_num
  obtain ⟨hue, saturation, lightness, found, between⟩ :=
    ofUnitChannels_eq (part first) (part second) (part third)
  refine ⟨hue, saturation, lightness, ?_, between⟩
  rw [Hsl.ofChannels, divided_eq _ limit, divided_eq _ limit, divided_eq _ limit]
  exact found

end Fraction

end

/-! ### Colours in arithmetic -/

section Adjusted

variable {α : Type} [ColorNumber α]

def lightened (red green blue amount : α) : Except NumberFault (Int × Int × Int) := do
  let hsl ← Hsl.ofChannels red green blue
  { hsl with lightness := clampUnit (hsl.lightness + amount) }.channels

def saturated (red green blue amount : α) : Except NumberFault (Int × Int × Int) := do
  let hsl ← Hsl.ofChannels red green blue
  { hsl with saturation := clampUnit (hsl.saturation + amount) }.channels

end Adjusted

def GivesBytes (result : Except NumberFault (Int × Int × Int)) : Prop :=
  ∃ red green blue, result = .ok (red, green, blue) ∧
    Fraction.IsByte red ∧ Fraction.IsByte green ∧ Fraction.IsByte blue

def GivesParts (result : Except NumberFault (Hsl Fraction)) : Prop :=
  ∃ hue saturation lightness, result = .ok ⟨.number hue, .number saturation, .number lightness⟩ ∧
    Fraction.IsPart saturation ∧ Fraction.IsPart lightness

namespace Fraction

variable {red green blue : Int} (first : IsByte red) (second : IsByte green)
  (third : IsByte blue)

include first second third

theorem lightened_givesBytes (amount : ℚ) :
    GivesBytes (lightened (number red) (number green) (number blue) (number amount)) := by
  obtain ⟨hue, saturation, lightness, found, strength, _⟩ := ofChannels_eq first second third
  rw [lightened, found]
  change GivesBytes (Hsl.channels ⟨number hue, number saturation, clampUnit _⟩)
  rw [number_add, clampUnit_eq]
  exact channels_eq hue strength (isPart_clamped _)

theorem saturated_givesBytes (amount : ℚ) :
    GivesBytes (saturated (number red) (number green) (number blue) (number amount)) := by
  obtain ⟨hue, saturation, lightness, found, _, light⟩ := ofChannels_eq first second third
  rw [saturated, found]
  change GivesBytes (Hsl.channels ⟨number hue, clampUnit _, number lightness⟩)
  rw [number_add, clampUnit_eq]
  exact channels_eq hue (isPart_clamped _) light

end Fraction

namespace Color

theorem ofHsl_eq (hsl : Hsl Float) (alpha : Float) :
    ofHsl hsl alpha = hsl.channels.map fun (red, green, blue) => ⟨red, green, blue, alpha⟩ := by
  rw [ofHsl]
  cases hsl.channels <;> rfl

section

variable (color : Color) (amount : Float)

/-- Adding to the lightness of a colour is the general formula on doubles. -/
theorem adjustLightness_eq :
    color.adjustLightness amount =
      (lightened (nearestToInteger color.red) (nearestToInteger color.green)
        (nearestToInteger color.blue) amount).map
          fun (red, green, blue) => ⟨red, green, blue, color.alpha⟩ := by
  rw [adjustLightness, lightened, Color.hsl]
  cases Hsl.ofChannels (nearestToInteger color.red) (nearestToInteger color.green)
      (nearestToInteger color.blue) with
  | error fault => rfl
  | ok hsl => exact ofHsl_eq _ _

/-- Adding to the saturation of a colour is the general formula on doubles. -/
theorem adjustSaturation_eq :
    color.adjustSaturation amount =
      (saturated (nearestToInteger color.red) (nearestToInteger color.green)
        (nearestToInteger color.blue) amount).map
          fun (red, green, blue) => ⟨red, green, blue, color.alpha⟩ := by
  rw [adjustSaturation, saturated, Color.hsl]
  cases Hsl.ofChannels (nearestToInteger color.red) (nearestToInteger color.green)
      (nearestToInteger color.blue) with
  | error fault => rfl
  | ok hsl => exact ofHsl_eq _ _

end

def IsSixDigits (text : String) : Prop :=
  ∃ digits, text.toList = '#' :: digits ∧ digits.length = 6 ∧
    ∀ c ∈ digits, (hexValue? c).isSome = true

theorem Proper.isSixDigits {color : Color} (proper : color.Proper) : IsSixDigits color.hex := by
  obtain ⟨red, green, blue, first, second, third, _, written⟩ := proper.hex_eq
  refine ⟨_, written, rfl, fun c member => ?_⟩
  have digit : ∀ {value : Nat}, value < 16 → (hexValue? (hexDigit value)).isSome = true := by
    intro value small
    rw [hexValue?_hexDigit small]
    rfl
  simp only [byteDigits, List.cons_append, List.nil_append, List.mem_cons, List.not_mem_nil,
    or_false] at member
  rcases member with rfl | rfl | rfl | rfl | rfl | rfl <;> exact digit (by omega)

structure Valid (color : Color) : Prop where
  proper : color.Proper
  opacity : ¬ (color.alpha < 0 ∨ 1 < color.alpha)

def fields (color : Color) : Fields :=
  [("hex", .text color.hex), ("alpha", .number color.alpha)]

theorem Valid.ofFields? {color : Color} (valid : color.Valid) :
    Color.ofFields? color.fields = some color := by
  have text : (Fields.required color.fields "hex" Data.asString?) = some color.hex := rfl
  have kind : Fields.hasKind color.fields "color" = true := rfl
  have read : (parse color.hex).toOption = some { color with alpha := 1.0 } := by
    rw [valid.proper.parse_hex]
    rfl
  have opacity : Fields.optional color.fields "alpha" 1.0 alphaField? = some color.alpha := by
    change alphaField? (.number color.alpha) = _
    rw [alphaField?, Data.number, Data.asFloat?, Option.bind_some, if_neg valid.opacity]
  simp [Color.ofFields?, kind, text, read, opacity]

theorem not_outside_clampUnit (x : Float) : ¬ (clampUnit x < 0 ∨ 1 < clampUnit x) := by
  have one : Exactly 1 1 := by
    refine ⟨⟨false, 2 ^ 52, -52⟩, rfl, ?_⟩
    norm_num [Binary.value]
  obtain ⟨number, exact, low, high⟩ := clampUnit_between x
  rw [exact.lt_iff exactly_literal_zero, one.lt_iff exact]
  rintro (below | above) <;> linarith

section

variable {color : Color} (valid : color.Valid) (amount : Float)

include valid

theorem Valid.withAlpha : (color.withAlpha amount).Valid :=
  ⟨valid.proper.withAlpha amount, not_outside_clampUnit amount⟩

theorem Valid.adjustLightness :
    ∃ adjusted, color.adjustLightness amount = .ok adjusted ∧ adjusted.Valid := by
  obtain ⟨adjusted, made, proper⟩ := valid.proper.adjustLightness amount
  have same := (adjustLightness_eq color amount).symm.trans made
  obtain ⟨_, _, rfl⟩ := map_eq_ok_iff.mp same
  exact ⟨_, made, proper, valid.opacity⟩

theorem Valid.adjustSaturation :
    ∃ adjusted, color.adjustSaturation amount = .ok adjusted ∧ adjusted.Valid := by
  obtain ⟨adjusted, made, proper⟩ := valid.proper.adjustSaturation amount
  have same := (adjustSaturation_eq color amount).symm.trans made
  obtain ⟨_, _, rfl⟩ := map_eq_ok_iff.mp same
  exact ⟨_, made, proper, valid.opacity⟩

theorem Valid.changed (change : ColorChange) :
    ∃ changed, change.apply amount color = .ok changed ∧ changed.Valid := by
  cases change with
  | alpha => exact ⟨_, rfl, valid.withAlpha amount⟩
  | lighten => exact valid.adjustLightness amount
  | darken => exact valid.adjustLightness (-amount)
  | saturate => exact valid.adjustSaturation amount
  | desaturate => exact valid.adjustSaturation (-amount)

end

end Color

open Fraction (number IsByte IsPart)

/-- Colour arithmetic never divides by zero and stays in its range. -/
theorem colorArithmetic_inRange :
    (∀ red green blue : Int, IsByte red → IsByte green → IsByte blue →
      GivesParts (Hsl.ofChannels (number red) (number green) (number blue)) ∧
      ∀ amount : ℚ,
        GivesBytes (lightened (number red) (number green) (number blue) (number amount)) ∧
        GivesBytes (saturated (number red) (number green) (number blue) (number amount))) ∧
    (∀ hue saturation lightness : ℚ, IsPart saturation → IsPart lightness →
      GivesBytes (Hsl.channels ⟨number hue, number saturation, number lightness⟩)) ∧
    (∀ text color, Color.parse text = .ok color →
      color.Proper ∧ Color.IsSixDigits color.hex) ∧
    (∀ color : Color, color.Proper → ∀ amount,
      (∃ adjusted, color.adjustLightness amount = .ok adjusted ∧ adjusted.Proper ∧
        Color.IsSixDigits adjusted.hex) ∧
      ∃ adjusted, color.adjustSaturation amount = .ok adjusted ∧ adjusted.Proper ∧
        Color.IsSixDigits adjusted.hex) ∧
    ∀ color : Color, color.Valid → ∀ (change : ColorChange) (factor : Float),
      ∃ changed, change.apply factor color = .ok changed ∧ changed.Valid ∧
        Color.ofFields? changed.fields = some changed := by
  refine ⟨fun red green blue first second third => ⟨?_, fun amount => ⟨?_, ?_⟩⟩, ?_, ?_, ?_, ?_⟩
  · exact Fraction.ofChannels_eq first second third
  · exact Fraction.lightened_givesBytes first second third amount
  · exact Fraction.saturated_givesBytes first second third amount
  · exact fun hue saturation lightness first second => Fraction.channels_eq hue first second
  · intro text color read
    have proper := Color.parse_proper read
    exact ⟨proper, proper.isSixDigits⟩
  · intro color proper amount
    obtain ⟨lighter, made, bytes⟩ := proper.adjustLightness amount
    obtain ⟨stronger, done, others⟩ := proper.adjustSaturation amount
    exact ⟨⟨lighter, made, bytes, bytes.isSixDigits⟩, stronger, done, others, others.isSixDigits⟩
  · intro color valid change factor
    obtain ⟨changed, made, kept⟩ := valid.changed factor change
    exact ⟨changed, made, kept, kept.ofFields?⟩

theorem colorArithmetic_inRange_orange :
    GivesParts (Hsl.ofChannels (number (255 : Int)) (number (128 : Int)) (number (0 : Int))) ∧
      GivesBytes (Hsl.channels ⟨number 750, number 1, number (1 / 2)⟩) ∧
      ∃ changed, ColorChange.lighten.apply 0.25 ⟨255, 128, 0, 1.0⟩ = .ok changed ∧
        changed.Valid ∧ Color.ofFields? changed.fields = some changed := by
  obtain ⟨toHsl, toChannels, _, _, changes⟩ := colorArithmetic_inRange
  have valid : Color.Valid ⟨255, 128, 0, 1.0⟩ :=
    ⟨⟨by decide, by decide, by decide⟩, by decide +kernel⟩
  have bytes : IsByte 255 ∧ IsByte 128 ∧ IsByte 0 := by
    unfold IsByte
    decide
  refine ⟨(toHsl 255 128 0 bytes.1 bytes.2.1 bytes.2.2).1, toChannels _ _ _ ?_ ?_,
    changes _ valid .lighten 0.25⟩
  · exact ⟨by norm_num, by norm_num⟩
  · exact ⟨by norm_num, by norm_num⟩

end DesignTokens
