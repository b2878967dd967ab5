import DesignTokens.Proofs.Json.Grammar
import DesignTokens.Proofs.Number.Shortest

/-!
Numbers as they are written.  Wherever the layout puts the point, and whether it takes an
exponent or not, the text stands for the digits, and these for the double.
-/

namespace DesignTokens

namespace Json

theorem isDigits_append {first second : List Char} (some : first ≠ [] ∨ second ≠ [])
    (left : ∀ c ∈ first, isAsciiDigit c = true) (right : ∀ c ∈ second, isAsciiDigit c = true) :
    IsDigits (first ++ second) := by
  constructor
  · simpa [Classical.or_iff_not_imp_left] using some
  · simpa only [List.forall_mem_append] using ⟨left, right⟩

theorem isDigits_decimalDigits (number : Nat) : IsDigits (decimalDigits number) :=
  ⟨List.length_pos_iff.mp (decimalDigits_length_pos number), decimalDigits_digits⟩

theorem isAsciiDigit_zeros (count : Nat) :
    ∀ c ∈ List.replicate count '0', isAsciiDigit c = true := by
  intro c member
  rw [List.eq_of_mem_replicate member]
  rfl

theorem isWhole_decimalDigits (number : Nat) : IsWhole (decimalDigits number) := by
  refine ⟨isDigits_decimalDigits number, fun zero => ?_⟩
  have none : number = 0 := by
    by_contra some
    exact head_decimalDigits (Nat.pos_of_ne_zero some) zero
  rw [none]
  exact decimalDigits_of_lt (by decide)

theorem spells_integerText (number : Int) :
    Token.Spells (.plain (.integer number)) (integerText number).toList := by
  have digits := isWhole_decimalDigits number.natAbs
  rw [integerText, String.toList_ofList]
  split
  · have spelled := Token.Spells.negative (Magnitude.whole digits)
    have value : withSign true number.natAbs = number := by
      simp only [withSign, if_true, Int.ofNat_eq_natCast]
      omega
    rwa [digitsValue_decimalDigits, value] at spelled
  · have spelled := Token.Spells.positive (Magnitude.whole digits)
    have value : withSign false number.natAbs = number := by
      simp only [withSign, Bool.false_eq_true, if_false, Int.ofNat_eq_natCast]
      omega
    rwa [digitsValue_decimalDigits, value] at spelled

/-- Without the zeros at their end the digits of a number say a part of it that lacks a power
of ten. -/
theorem exists_zeros {number : Nat} (positive : 0 < number) :
    ∃ zeros, decimalDigits number = significantDigits number ++ List.replicate zeros '0' := by
  obtain ⟨trimmed, named⟩ : ∃ trimmed,
    significantDigits.trimTrailingZeros (decimalDigits number) = trimmed := ⟨_, rfl⟩
  obtain ⟨zeros, parts⟩ : ∃ zeros, decimalDigits number = trimmed ++ List.replicate zeros '0' := by
    refine ⟨((decimalDigits number).reverse.takeWhile (· == '0')).length, ?_⟩
    have split := List.takeWhile_append_dropWhile (p := (· == '0'))
      (l := (decimalDigits number).reverse)
    have all : (decimalDigits number).reverse.takeWhile (· == '0') =
        List.replicate ((decimalDigits number).reverse.takeWhile (· == '0')).length '0' := by
      refine List.eq_replicate_of_mem fun c member => ?_
      simpa using List.all_eq_true.mp List.all_takeWhile c member
    rw [all] at split
    rw [← named, significantDigits.trimTrailingZeros, ← List.reverse_inj, List.reverse_append,
      List.reverse_reverse, List.reverse_replicate]
    exact split.symm
  refine ⟨zeros, ?_⟩
  have some : trimmed ≠ [] := by
    rintro rfl
    have head := head_decimalDigits positive
    have length := decimalDigits_length_pos number
    rw [parts] at head length
    cases zeros with
    | zero => simp at length
    | succ zeros => simp [List.replicate_succ] at head
  rw [significantDigits, named]
  cases trimmed with
  | nil => exact absurd rfl some
  | cons c rest => exact parts

theorem exponent_exponentText (power : Int) : Exponent power (exponentText power) := by
  obtain ⟨digits, named⟩ : ∃ digits, (if (decimalDigits power.natAbs).length < 2 then
    '0' :: decimalDigits power.natAbs else decimalDigits power.natAbs) = digits := ⟨_, rfl⟩
  have each : IsDigits digits := by
    have all := isDigits_decimalDigits power.natAbs
    rw [← named]
    split
    · exact ⟨List.cons_ne_nil _ _, List.forall_mem_cons.mpr ⟨rfl, all.2⟩⟩
    · exact all
  have value : digitsValue digits = power.natAbs := by
    have said := digitsValue_decimalDigits power.natAbs
    rw [← named]
    split
    · exact (digitsValue_zeros_append 1 _).trans said
    · exact said
  simp only [exponentText, named]
  split
  · have spelled := Exponent.minus (Or.inl rfl : IsMark 'e') each
    rwa [value, (by omega : -(power.natAbs : Int) = power)] at spelled
  · have spelled := Exponent.plus (Or.inl rfl : IsMark 'e') each
    rwa [value, (by omega : (power.natAbs : Int) = power)] at spelled

def StandsFor (negative : Bool) (digits : List Char) (power : Int) (text : List Char) : Prop :=
  ∃ decimal : Decimal, decimal.value = digitsValue digits * 10 ^ (power + 1 - digits.length) ∧
    Magnitude negative (.number (decimal.toFloat negative)) text

theorem value_ofParts (digits fraction : List Char) (power : Int) :
    (Decimal.ofParts digits fraction power).value =
      digitsValue (digits ++ fraction) * 10 ^ (power - fraction.length) := rfl

theorem isWhole_singleton {c : Char} (digit : isAsciiDigit c = true) : IsWhole [c] :=
  ⟨⟨List.cons_ne_nil _ _, by simpa using digit⟩, fun zero => by simpa using zero⟩

theorem standsFor_digit (negative : Bool) {c : Char} (digit : isAsciiDigit c = true) (power : Int) :
    StandsFor negative [c] power (c :: exponentText power) := by
  refine ⟨Decimal.ofParts [c] [] power, ?_,
    .scaled (isWhole_singleton digit) (exponent_exponentText power)⟩
  rw [value_ofParts]
  simp

theorem standsFor_scaled (negative : Bool) {c : Char} {fraction : List Char}
    (digit : isAsciiDigit c = true) (part : IsDigits fraction) (power : Int) :
    StandsFor negative (c :: fraction) power (c :: '.' :: fraction ++ exponentText power) := by
  refine ⟨Decimal.ofParts [c] fraction power, ?_,
    .scaledFraction (isWhole_singleton digit) part (exponent_exponentText power)⟩
  rw [value_ofParts, List.length_cons, List.singleton_append]
  congr 2
  push_cast
  ring

theorem standsFor_small (negative : Bool) {digits : List Char} (each : IsDigits digits)
    {power : Int} (small : power < 0) :
    StandsFor negative digits power
      ('0' :: '.' :: List.replicate (-power - 1).toNat '0' ++ digits) := by
  refine ⟨Decimal.ofParts ['0'] (List.replicate (-power - 1).toNat '0' ++ digits) 0, ?_,
    .fraction (isWhole_singleton rfl)
      (isDigits_append (Or.inr each.1) (isAsciiDigit_zeros _) each.2)⟩
  rw [value_ofParts, List.length_append, List.length_replicate]
  congr 2
  · exact congrArg Nat.cast (digitsValue_zeros_append ((-power - 1).toNat + 1) digits)
  · omega

theorem standsFor_long (negative : Bool) {digits zeros : List Char} {power : Int}
    (whole : IsWhole (digits ++ zeros)) (filled : zeros = List.replicate zeros.length '0')
    (count : digits.length + zeros.length = power + 1) :
    StandsFor negative digits power (digits ++ zeros ++ ['.', '0']) := by
  refine ⟨Decimal.ofParts (digits ++ zeros) ['0'] 0, ?_,
    .fraction whole (isWhole_singleton rfl).1⟩
  have none : digitsValue (zeros ++ ['0']) = 0 := by
    rw [filled]
    exact digitsValue_zeros_append _ ['0']
  rw [value_ofParts, List.append_assoc, digitsValue_append, none, Nat.add_zero, Nat.cast_mul,
    mul_assoc]
  push_cast
  rw [← zpow_natCast, ← zpow_add₀ (by norm_num : (10 : ℚ) ≠ 0), List.length_append,
    List.length_singleton]
  congr 2
  push_cast
  omega

theorem standsFor_fraction (negative : Bool) {digits fraction : List Char} {power : Int}
    (whole : IsWhole digits) (part : IsDigits fraction) (count : digits.length = power + 1) :
    StandsFor negative (digits ++ fraction) power (digits ++ '.' :: fraction) := by
  refine ⟨Decimal.ofParts digits fraction 0, ?_, .fraction whole part⟩
  rw [value_ofParts, List.length_append]
  congr 2
  push_cast
  omega

/-- Wherever the point is put, the text stands for the digits at their place. -/
theorem standsFor_arrange (negative : Bool) {digits : List Char} {power : Int}
    (each : IsDigits digits) (lead : digits.head? = some '0' → digits = ['0'] ∧ power = 0) :
    StandsFor negative digits power (NumberLayout.json.arrange digits power) := by
  have some : 0 < digits.length := List.length_pos_iff.mpr each.1
  unfold NumberLayout.arrange
  split
  · match digits, each with
    | [c], each => exact standsFor_digit negative (each.2 c List.mem_cons_self) power
    | c :: next :: rest, each =>
        refine standsFor_scaled negative (each.2 c List.mem_cons_self)
          ⟨List.cons_ne_nil _ _, ?_⟩ power
        exact fun other member => each.2 other (List.mem_cons_of_mem c member)
  · split
    · rename_i small
      exact standsFor_small negative each small
    · -- The point stands behind so many digits, with zeros where there are fewer.
      obtain ⟨count, named⟩ : ∃ count, power.toNat + 1 = count := ⟨_, rfl⟩
      have whole : IsWhole (digits.take count ++ List.replicate (count - digits.length) '0') := by
        have taken : digits.take count ≠ [] := by
          rw [← List.length_pos_iff, List.length_take]
          omega
        refine ⟨isDigits_append (Or.inl taken)
          (fun c member => each.2 c (List.mem_of_mem_take member)) (isAsciiDigit_zeros _), ?_⟩
        intro zero
        rw [List.head?_append_of_ne_nil _ taken, List.head?_take, if_neg (by omega)] at zero
        obtain ⟨rfl, rfl⟩ := lead zero
        subst named
        rfl
      simp only [named]
      split
      · rename_i shape
        have short : digits.length ≤ count := List.drop_eq_nil_iff.mp shape
        rw [List.take_of_length_le short] at whole ⊢
        refine standsFor_long negative whole (by rw [List.length_replicate]) ?_
        rw [List.length_replicate]
        omega
      · rename_i fraction apart
        have long : count < digits.length := by
          by_contra short
          exact apart (List.drop_eq_nil_iff.mpr (by omega))
        have part : IsDigits (digits.drop count) :=
          ⟨apart, fun c member => each.2 c (List.mem_of_mem_drop member)⟩
        rw [(by omega : count - digits.length = 0), List.replicate_zero, List.append_nil] at whole ⊢
        have whole := @standsFor_fraction negative _ _ power whole part
          (by rw [List.length_take]; omega)
        rwa [List.take_append_drop] at whole

theorem significantDigits_spec {number : Nat} (positive : 0 < number) :
    IsDigits (significantDigits number) ∧ (significantDigits number).head? ≠ some '0' ∧
      ∃ zeros, digitsValue (significantDigits number) * 10 ^ zeros = number ∧
        (decimalDigits number).length = (significantDigits number).length + zeros := by
  rcases exists_zeros positive with ⟨zeros, parts⟩
  have some : significantDigits number ≠ [] := by
    rw [significantDigits]
    split
    · exact List.cons_ne_nil _ _
    · rename_i apart
      exact apart
  refine ⟨⟨some, fun c member => ?_⟩, ?_, zeros, ?_, ?_⟩
  · refine @decimalDigits_digits number c ?_
    rw [parts]
    exact List.mem_append_left _ member
  · have head := head_decimalDigits positive
    rwa [parts, List.head?_append_of_ne_nil _ some] at head
  · have value := digitsValue_decimalDigits number
    have none : digitsValue (List.replicate zeros '0') = 0 := by
      simpa [digitsValue_nil] using digitsValue_zeros_append zeros []
    rwa [parts, digitsValue_append, none, List.length_replicate] at value
  · rw [parts, List.length_append, List.length_replicate]

theorem magnitude_layout {x : Float} {b : Binary} (parts : Binary.ofFloat? x = some b) :
    Magnitude b.negative (.number x) (NumberLayout.json.magnitude b) := by
  rw [NumberLayout.magnitude]
  split
  · rename_i none
    rcases standsFor_arrange b.negative (isWhole_singleton (rfl : isAsciiDigit '0' = true)).1
      (fun _ => ⟨rfl, (rfl : (0 : Int) = 0)⟩) with ⟨decimal, value, spelled⟩
    have zero : decimal.significand = 0 := by
      have unit : (10 : ℚ) ^ decimal.exponent ≠ 0 := by positivity
      simpa [Decimal.value, digitsValue, decimalDigit?, unit] using value
    obtain ⟨significand, exponent⟩ := decimal
    obtain rfl : significand = 0 := zero
    rwa [Decimal.toFloat_zero parts none] at spelled
  · rename_i some
    have positive : 0 < b.mantissa := Nat.pos_of_ne_zero some
    have canonical := canonical_of_bits ((ofFloat?_eq_binaryOfBits? x).symm.trans parts)
    have attracts := Binary.shortest_attracts canonical positive
    change Magnitude b.negative (.number x) (NumberLayout.json.arrange
      (significantDigits b.shortest.significand)
      ((decimalDigits b.shortest.significand).length + b.shortest.exponent - 1))
    generalize b.shortest = shortest at attracts ⊢
    obtain ⟨each, lead, zeros, value, length⟩ :=
      significantDigits_spec (attracts.significand_pos canonical positive)
    obtain ⟨power, named⟩ : ∃ power : Int,
      (decimalDigits shortest.significand).length + shortest.exponent - 1 = power := ⟨_, rfl⟩
    rw [named]
    rcases @standsFor_arrange b.negative _ power each (fun zero => absurd zero lead) with
      ⟨decimal, same, spelled⟩
    -- The zeros that the digits lack are in the power.
    have product : (shortest.significand : ℚ) =
        digitsValue (significantDigits shortest.significand) * 10 ^ zeros := by
      exact_mod_cast value.symm
    have equal : decimal.value = shortest.value := by
      rw [same, ← named, length, Decimal.value, product, mul_assoc, ← zpow_natCast,
        ← zpow_add₀ (by norm_num : (10 : ℚ) ≠ 0)]
      congr 2
      push_cast
      ring
    rw [← equal] at attracts
    rwa [Decimal.toFloat_eq parts positive attracts] at spelled

theorem spells_number {x : Float} (finite : x.isFinite = true) :
    Token.Spells (.plain (.number x)) (NumberLayout.json.write x).toList := by
  rcases isFinite_iff.mp finite with ⟨b, parts⟩
  have spelled := magnitude_layout parts
  rw [NumberLayout.write, parts]
  simp only [String.toList_ofList]
  split
  · rename_i negative
    rw [negative] at spelled
    exact .negative spelled
  · rename_i positive
    rw [Bool.not_eq_true] at positive
    rw [positive] at spelled
    exact .positive spelled

end Json

end DesignTokens
