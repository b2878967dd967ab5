import DesignTokens.Proofs.Json.Layout
import DesignTokens.Proofs.Json.Numeral
import DesignTokens.Proofs.Number.SixDigits
import DesignTokens.Proofs.Text.Blank

/-!
Numbers in style sheets: what is written for a finite double, and what is read from that.  A
number that is too small or too large to be written plainly has an exponent.
-/

namespace DesignTokens

open Json (IsDigits IsNumeral isDigits_append isAsciiDigit_zeros value_ofParts)

inductive Numeral : Decimal → List Char → Prop
  | whole {digits} : IsDigits digits → Numeral (.ofParts digits [] 0) digits
  | fraction {digits fraction} : IsDigits digits → IsDigits fraction →
      Numeral (.ofParts digits fraction 0) (digits ++ '.' :: fraction)

theorem digitsValue_lt {digits : List Char} (each : ∀ c ∈ digits, isAsciiDigit c = true) :
    digitsValue digits < 10 ^ digits.length := by
  induction digits using List.reverseRecOn with
  | nil => simp [digitsValue_nil]
  | append_singleton digits c ih =>
      have before := ih fun other member => each other (List.mem_append_left _ member)
      have digit := each c (by simp)
      have bounds := (isAsciiDigit_iff c).mp digit
      rw [digitsValue_append, digitsValue_singleton, decimalDigit?_of_isAsciiDigit digit,
        List.length_append, List.length_singleton, pow_succ]
      simp only [Option.getD_some]
      omega

theorem digitsValue_lt_million {digits : List Char} (each : IsDigits digits)
    (few : digits.length ≤ 6) : digitsValue digits < 10 ^ 6 :=
  (digitsValue_lt each.2).trans_le (Nat.pow_le_pow_right (by decide) few)

def placedValue (digits : List Char) (power : Int) : ℚ :=
  digitsValue digits * 10 ^ (power + 1 - digits.length)

variable {digits : List Char} {power : Int}

/-- A number below one: zeros stand between the point and its digits. -/
theorem numeral_small (each : IsDigits digits) (few : digits.length ≤ 6) (small : power < 0) :
    ∃ decimal, Numeral decimal
        ('0' :: '.' :: List.replicate (-power - 1).toNat '0' ++ digits) ∧
      decimal.significand < 10 ^ 6 ∧ decimal.value = placedValue digits power := by
  have zeros := isAsciiDigit_zeros (-power - 1).toNat
  have value : digitsValue (['0'] ++ (List.replicate (-power - 1).toNat '0' ++ digits)) =
      digitsValue digits := digitsValue_zeros_append ((-power - 1).toNat + 1) digits
  have zero : IsDigits ['0'] := (Json.isWhole_singleton rfl).1
  have spelled := Numeral.fraction zero (isDigits_append (Or.inr each.1) zeros each.2)
  refine ⟨_, spelled, ?_, ?_⟩
  · exact value.trans_lt (digitsValue_lt_million each few)
  · rw [value_ofParts, value, List.length_append, List.length_replicate, placedValue]
    congr 2
    omega

/-- A number with its point behind all digits: the zeros up to it belong to the number. -/
theorem numeral_padded {count : Nat} (each : IsDigits digits) (short : digits.length ≤ count)
    (fits : count ≤ 6) :
    ∃ decimal, Numeral decimal (digits ++ List.replicate (count - digits.length) '0') ∧
      decimal.significand < 10 ^ 6 ∧ decimal.value = placedValue digits (count - 1) := by
  have zeros : digitsValue (List.replicate (count - digits.length) '0') = 0 := by
    simpa [digitsValue_nil] using digitsValue_zeros_append (count - digits.length) []
  have value : digitsValue (digits ++ List.replicate (count - digits.length) '0' ++ []) =
      digitsValue digits * 10 ^ (count - digits.length) := by
    rw [List.append_nil, digitsValue_append, zeros, List.length_replicate, Nat.add_zero]
  have whole : IsDigits (digits ++ List.replicate (count - digits.length) '0') :=
    isDigits_append (Or.inl each.1) each.2 (isAsciiDigit_zeros _)
  have length : (digits ++ List.replicate (count - digits.length) '0').length ≤ 6 := by
    rw [List.length_append, List.length_replicate]
    omega
  refine ⟨_, .whole whole, ?_, ?_⟩
  · have bound := digitsValue_lt_million whole length
    rwa [← List.append_nil (digits ++ _)] at bound
  · rw [value_ofParts, value, placedValue]
    push_cast
    rw [mul_assoc, ← zpow_natCast, ← zpow_add₀ (by norm_num : (10 : ℚ) ≠ 0)]
    congr 2
    simp only [List.length_nil]
    omega

theorem numeral_split {count : Nat} (each : IsDigits digits) (few : digits.length ≤ 6)
    (some : 0 < count) (long : count < digits.length) :
    ∃ decimal, Numeral decimal (digits.take count ++ '.' :: digits.drop count) ∧
      decimal.significand < 10 ^ 6 ∧ decimal.value = placedValue digits (count - 1) := by
  have part : IsDigits (digits.drop count) := by
    refine ⟨?_, fun c member => each.2 c (List.mem_of_mem_drop member)⟩
    rw [← List.length_pos_iff, List.length_drop]
    omega
  have whole : IsDigits (digits.take count) := by
    refine ⟨?_, fun c member => each.2 c (List.mem_of_mem_take member)⟩
    rw [← List.length_pos_iff, List.length_take]
    omega
  refine ⟨_, .fraction whole part, ?_, ?_⟩
  · change digitsValue (digits.take count ++ digits.drop count) < 10 ^ 6
    rw [List.take_append_drop]
    exact digitsValue_lt_million each few
  · rw [value_ofParts, List.take_append_drop, List.length_drop, placedValue]
    congr 2
    omega

/-- Between a ten-thousandth and a million six digits are written without an exponent. -/
theorem arrange_plain (each : IsDigits digits) (few : digits.length ≤ 6) (low : -4 ≤ power)
    (high : power < 6) :
    ∃ decimal, Numeral decimal (NumberLayout.compact.arrange digits power) ∧
      decimal.significand < 10 ^ 6 ∧ decimal.value = placedValue digits power := by
  have within : ¬ (power < -4 ∨ NumberLayout.compact.widest ≤ power) := by
    change ¬ (power < -4 ∨ 6 ≤ power)
    omega
  unfold NumberLayout.arrange
  rw [if_neg within]
  split
  · rename_i small
    exact numeral_small each few small
  · obtain ⟨count, named⟩ : ∃ count, power.toNat + 1 = count := ⟨_, rfl⟩
    obtain rfl : power = count - 1 := by omega
    simp only [named]
    split
    · rename_i shape
      have short : digits.length ≤ count := List.drop_eq_nil_iff.mp shape
      rw [List.take_of_length_le short, if_neg (by decide)]
      exact numeral_padded each short (by omega)
    · rename_i apart
      have long : count < digits.length := by
        by_contra short
        exact apart (List.drop_eq_nil_iff.mpr (by omega))
      rw [(by omega : count - digits.length = 0), List.replicate_zero, List.append_nil]
      exact numeral_split each few (by omega) long

theorem arrange_scaled (each : IsDigits digits) (few : digits.length ≤ 6)
    (outside : power < -4 ∨ 6 ≤ power) :
    ∃ decimal body, Numeral decimal body ∧
      NumberLayout.compact.arrange digits power = body ++ exponentText power ∧
      decimal.significand < 10 ^ 6 ∧
      decimal.value * 10 ^ power = placedValue digits power := by
  have beyond : power < -4 ∨ NumberLayout.compact.widest ≤ power := outside
  unfold NumberLayout.arrange
  rw [if_pos beyond]
  match digits, each, few with
  | [c], each, few =>
      refine ⟨_, [c], .whole each, rfl, digitsValue_lt_million each few, ?_⟩
      rw [value_ofParts, placedValue]
      simp
  | c :: next :: rest, each, few =>
      have first := (Json.isWhole_singleton (each.2 c List.mem_cons_self)).1
      have part : IsDigits (next :: rest) :=
        ⟨List.cons_ne_nil _ _, fun other member => each.2 other (List.mem_cons_of_mem c member)⟩
      refine ⟨_, [c] ++ '.' :: (next :: rest), .fraction first part, rfl,
        digitsValue_lt_million each few, ?_⟩
      rw [value_ofParts, placedValue, mul_assoc, ← zpow_add₀ (by norm_num : (10 : ℚ) ≠ 0)]
      simp only [List.singleton_append, List.length_cons]
      congr 2
      push_cast
      ring

inductive SixDigits (number : ℚ) : List Char → Prop
  | plain {decimal text} : Numeral decimal text → decimal.significand < 10 ^ 6 →
      decimal.value = number → 1 / 10000 ≤ number → number < 10 ^ 6 → SixDigits number text
  | scaled {decimal body power} : Numeral decimal body → decimal.significand < 10 ^ 6 →
      decimal.value * 10 ^ power = number → ¬ (1 / 10000 ≤ number ∧ number < 10 ^ 6) →
      SixDigits number (body ++ exponentText power)

theorem significantDigits_million : significantDigits (10 ^ 6) = ['1'] := by
  have digits : decimalDigits (10 ^ 6) = ['1', '0', '0', '0', '0', '0', '0'] := by
    simp [decimalDigits, decimalDigitsOnto, digitChar]
  rw [significantDigits, digits]
  rfl

theorem length_significantDigits_le {number : Nat} (some : 0 < number) (most : number ≤ 10 ^ 6) :
    (significantDigits number).length ≤ 6 := by
  rcases most.lt_or_eq with less | rfl
  · obtain ⟨_, _, zeros, _, length⟩ := Json.significantDigits_spec some
    have bound : 10 ^ (decimalDigits number).length < 10 ^ 7 :=
      (pow_length_le some).trans_lt (by omega)
    have few := (Nat.pow_lt_pow_iff_right (by decide : 1 < 10)).mp bound
    omega
  · rw [significantDigits_million]
    decide

theorem placedValue_significantDigits {decimal : Decimal} (some : 0 < decimal.significand) :
    placedValue (significantDigits decimal.significand)
      ((decimalDigits decimal.significand).length + decimal.exponent - 1) = decimal.value := by
  obtain ⟨_, _, zeros, value, length⟩ := Json.significantDigits_spec some
  have product : (decimal.significand : ℚ) =
      digitsValue (significantDigits decimal.significand) * 10 ^ zeros := by
    exact_mod_cast value.symm
  rw [placedValue, length, Decimal.value, product, mul_assoc, ← zpow_natCast,
    ← zpow_add₀ (by norm_num : (10 : ℚ) ≠ 0)]
  congr 2
  push_cast
  ring

theorem Binary.sixDigits_magnitude {b : Binary} (some : 0 < b.mantissa) :
    SixDigits (b.significant 6).value (NumberLayout.compact.magnitude b) := by
  obtain ⟨positive, most⟩ := significand_bounds some
  rw [NumberLayout.magnitude, if_neg some.ne']
  change SixDigits (b.significant 6).value (NumberLayout.compact.arrange
    (significantDigits (b.significant 6).significand)
    ((decimalDigits (b.significant 6).significand).length + (b.significant 6).exponent - 1))
  generalize b.significant 6 = decimal at positive most ⊢
  have each := (Json.significantDigits_spec positive).1
  have few := length_significantDigits_le positive most
  have placed := placedValue_significantDigits positive
  obtain ⟨power, named⟩ : ∃ power : Int,
    (decimalDigits decimal.significand).length + decimal.exponent - 1 = power := ⟨_, rfl⟩
  obtain ⟨low, high⟩ := Decimal.value_bounds positive
    (by rw [Int.ofNat_eq_natCast]; omega : Int.ofNat _ + decimal.exponent = power + 1)
  rw [add_sub_cancel_right] at low
  have step : ∀ {first second : Int}, first ≤ second → (10 : ℚ) ^ first ≤ 10 ^ second :=
    fun order => zpow_le_zpow_right₀ (by norm_num) order
  have least : (10 : ℚ) ^ (-4 : Int) = 1 / 10000 := by norm_num
  have million : (10 : ℚ) ^ (6 : Int) = 10 ^ 6 := by norm_num
  rw [named] at placed ⊢
  by_cases outside : power < -4 ∨ 6 ≤ power
  · obtain ⟨written, body, numeral, text, short, same⟩ := arrange_scaled each few outside
    rw [text]
    refine .scaled numeral short (same.trans placed) ?_
    rintro ⟨above, below⟩
    rcases outside with tiny | huge
    · have bound := step (by omega : power + 1 ≤ -4)
      rw [least] at bound
      linarith
    · have bound := step huge
      rw [million] at bound
      linarith
  · obtain ⟨written, numeral, short, same⟩ :=
      arrange_plain each few (by omega : -4 ≤ power) (by omega)
    refine .plain numeral short (same.trans placed) ?_ ?_
    · have bound := step (by omega : -4 ≤ power)
      rw [least] at bound
      linarith
    · have bound := step (by omega : power + 1 ≤ 6)
      rw [million] at bound
      linarith

theorem not_isBlank_of_isNumeral {c : Char} (numeral : IsNumeral c) : isBlank c = false := by
  rcases numeral with digit | (rfl | rfl) | rfl | rfl | rfl
  · obtain ⟨low, high⟩ := (isAsciiDigit_iff c).mp digit
    simp only [isBlank, Bool.or_eq_false_iff, Bool.and_eq_false_iff, decide_eq_false_iff_not,
      beq_eq_false_iff_ne]
    omega
  all_goals rfl

def signedText (negative : Bool) (text : List Char) : List Char :=
  if negative then '-' :: text else text

section

variable {decimal : Decimal} {body rest : List Char}

theorem Numeral.exists_digit (numeral : Numeral decimal body) :
    ∃ c after, body = c :: after ∧ isAsciiDigit c = true := by
  have some : ∀ {digits : List Char} (rest : List Char), IsDigits digits →
      ∃ c after, digits ++ rest = c :: after ∧ isAsciiDigit c = true := by
    intro digits rest each
    cases shape : digits with
    | nil => exact absurd shape each.1
    | cons c after => exact ⟨c, after ++ rest, rfl, each.2 c (by simp [shape])⟩
  cases numeral with
  | whole each => simpa using some [] each
  | fraction whole part => exact some _ whole

theorem Numeral.isNumeral (numeral : Numeral decimal body) : ∀ c ∈ body, IsNumeral c := by
  cases numeral with
  | whole each => exact each.isNumeral
  | fraction whole part =>
      simp only [List.forall_mem_append, List.forall_mem_cons]
      exact ⟨whole.isNumeral, by simp [IsNumeral], part.isNumeral⟩

theorem isNumeral_signedText {text : List Char} (each : ∀ c ∈ text, IsNumeral c)
    (negative : Bool) : ∀ c ∈ signedText negative text, IsNumeral c := by
  cases negative with
  | false => exact each
  | true => exact List.forall_mem_cons.mpr ⟨by simp [IsNumeral], each⟩

theorem Numeral.read (numeral : Numeral decimal body)
    (ends : ∀ c ∈ rest.head?, isDecimalDigit c = false) (pointless : rest.head? ≠ some '.') :
    leadingDecimal? (body ++ rest) = some (decimal, rest) := by
  cases numeral with
  | whole each => exact Json.leadingDecimal?_whole each ends pointless
  | fraction whole part => simpa using Json.leadingDecimal?_point whole part ends

theorem Numeral.read_signed (numeral : Numeral decimal body) (negative : Bool)
    (ends : ∀ c ∈ rest.head?, isDecimalDigit c = false) (pointless : rest.head? ≠ some '.') :
    leadingNumber? (signedText negative body ++ rest) = some (decimal.toFloat negative, rest) := by
  have read := numeral.read ends pointless
  cases negative with
  | true => simp [signedText, leadingNumber?, read]
  | false =>
      obtain ⟨c, after, rfl, digit⟩ := numeral.exists_digit
      have unsigned : c ≠ '-' := by
        rintro rfl
        cases digit
      simp only [signedText, Bool.false_eq_true, if_false]
      rw [leadingNumber?, read]
      · rfl
      · rintro tail same
        exact unsigned (List.cons.inj same).1

end

/-- A style sheet keeps the number: it is whole, or it is read from six digits that need no
exponent. -/
def Legible (x : Float) : Prop :=
  (∃ whole, wholeNumber? x = some whole) ∨
    ∃ decimal : Decimal, decimal.Names x ∧ 1 / 10000 ≤ decimal.value ∧ decimal.value < 10 ^ 6

theorem exists_whole {x : Float} {whole : Int} (same : wholeNumber? x = some whole) :
    ∃ decimal body negative, Numeral decimal body ∧
      integerText whole = String.ofList (signedText negative body) ∧
      (decimal.toFloat negative == x) = true := by
  obtain ⟨b, parts, divided⟩ := Option.bind_eq_some_iff.mp same
  obtain ⟨divides, rounded⟩ := Option.ite_none_right_eq_some.mp divided
  obtain rfl := Option.some.inj rounded
  obtain ⟨quotient, named⟩ : ∃ quotient, b.numerator / b.denominator = quotient := ⟨_, rfl⟩
  have size : b.size = quotient := by
    have product : b.numerator = quotient * b.denominator := by
      rw [← named, Nat.div_mul_cancel (Nat.dvd_of_mod_eq_zero divides)]
    have some : (b.denominator : ℚ) ≠ 0 := by exact_mod_cast b.denominator_pos.ne'
    rw [Binary.size, ← Binary.fraction_eq, product, Nat.cast_mul, mul_div_cancel_right₀ _ some]
  have said : (Decimal.ofParts (decimalDigits quotient) [] 0).value = b.size := by
    rw [Json.value_ofParts, List.append_nil, digitsValue_decimalDigits, size]
    simp
  have numeral : Numeral _ (decimalDigits quotient) :=
    .whole (Json.isDigits_decimalDigits quotient)
  rw [named]
  rcases Nat.eq_zero_or_pos b.mantissa with none | some
  · have nothing : quotient = 0 := by
      rw [← named, Binary.numerator, none, Nat.zero_mul, Nat.zero_div]
    subst nothing
    refine ⟨_, _, false, numeral, ?_, ?_⟩
    · cases b.negative <;> rfl
    · have zero : Exactly x 0 := ⟨b, parts, by simp [Binary.value, none]⟩
      have read : Exactly (Decimal.toFloat false (.ofParts (decimalDigits 0) [] 0)) 0 := by
        rw [decimalDigits_of_lt (by decide)]
        exact exactly_pack_zero .positive
      exact (read.beq_iff zero).mpr rfl
  · have positive : 0 < quotient := by
      have above : (0 : ℚ) < b.size := magnitude_pos some b.exponent
      rw [size] at above
      exact_mod_cast above
    refine ⟨_, _, b.negative, numeral, ?_, ?_⟩
    · cases b.negative with
      | false =>
          have above : ¬ (quotient : Int) < 0 := by omega
          simp [integerText, withSign, signedText, above]
      | true => simp [integerText, withSign, signedText, positive]
    · have attracts := b.attracts_size
      have exact : Exactly x b.value := ⟨b, parts, rfl⟩
      rw [← said] at attracts
      rw [Decimal.toFloat_eq parts some attracts, exact.beq_iff exact]

theorem compact_write {x : Float} {b : Binary} (parts : Binary.ofFloat? x = some b) :
    NumberLayout.compact.write x =
      String.ofList (signedText b.negative (NumberLayout.compact.magnitude b)) := by
  rw [NumberLayout.write, parts]
  rfl

/-- A finite number is written as one number, which is read as the same if it is legible, or with
an exponent, and then it is not. -/
theorem styleNumber_cases {x : Float} (finite : x.isFinite = true) :
    (∃ decimal body negative, Numeral decimal body ∧
      styleNumber x = String.ofList (signedText negative body) ∧
      ((decimal.toFloat negative == x) = true ↔ Legible x)) ∨
    (∃ decimal body power negative, Numeral decimal body ∧
      styleNumber x = String.ofList (signedText negative body ++ exponentText power) ∧
      ¬ Legible x) := by
  obtain ⟨b, parts⟩ := isFinite_iff.mp finite
  cases same : wholeNumber? x with
  | some whole =>
      obtain ⟨decimal, body, negative, numeral, text, equal⟩ := exists_whole same
      refine Or.inl ⟨decimal, body, negative, numeral, ?_, iff_of_true equal (Or.inl ⟨_, same⟩)⟩
      rw [← text, styleNumber, same]
  | none =>
      have filled : 0 < b.mantissa := by
        by_contra empty
        have zero : b.mantissa = 0 := by omega
        simp [wholeNumber?, parts, Binary.numerator, zero] at same
      have broken : ¬ ∃ whole, wholeNumber? x = some whole := by simp [same]
      have written : styleNumber x = NumberLayout.compact.write x := by rw [styleNumber, same]
      obtain ⟨value, named⟩ : ∃ value, (b.significant 6).value = value := ⟨_, rfl⟩
      have six := Binary.sixDigits_magnitude filled
      rw [written, compact_write parts]
      generalize NumberLayout.compact.magnitude b = text at six ⊢
      rw [named] at six
      cases six with
      | @plain decimal _ numeral short same low high =>
          have read := toFloat_beq_iff parts filled short (same.trans named.symm)
          refine Or.inl ⟨decimal, _, b.negative, numeral, rfl, ?_⟩
          rw [Legible, or_iff_right broken]
          constructor
          · intro equal
            refine ⟨decimal, ⟨short, ?_⟩, same ▸ low, same ▸ high⟩
            rwa [isNegative_eq parts]
          · rintro ⟨other, names, _, _⟩
            exact read.mpr ⟨other, names⟩
      | @scaled decimal body power numeral short same outside =>
          refine Or.inr ⟨decimal, body, power, b.negative, numeral, ?_, ?_⟩
          · cases b.negative <;> rfl
          · rw [Legible, or_iff_right broken]
            rintro ⟨other, names, low, high⟩
            rw [← named, names.value_eq parts filled low] at outside
            exact outside ⟨low, high⟩

theorem isNumeral_exponentText (power : Int) : ∀ c ∈ exponentText power, IsNumeral c :=
  (Json.exponent_exponentText power).isNumeral

theorem dropWhile_eq_self {α : Type} {drop : α → Bool} {text : List α}
    (kept : ∀ c ∈ text, drop c = false) : text.dropWhile drop = text := by
  cases text with
  | nil => rfl
  | cons c rest => exact List.dropWhile_cons_of_neg (by simp [kept c List.mem_cons_self])

theorem withoutUnderscores_eq_self {afterDigit : Bool} {text : List Char}
    (none : '_' ∉ text) : withoutUnderscores afterDigit text = some text := by
  fun_induction withoutUnderscores afterDigit text with
  | case1 => rfl
  | case2 afterDigit next rest _ _ => simp at none
  | case3 afterDigit next rest _ => simp at none
  | case4 afterDigit => simp at none
  | case5 afterDigit c rest _ _ ih =>
      rw [ih (fun inside => none (List.mem_cons_of_mem c inside))]
      rfl

theorem toNat_lt_of_isNumeral {c : Char} (numeral : IsNumeral c) : c.toNat < 127 := by
  rcases numeral with digit | (rfl | rfl) | rfl | rfl | rfl
  · have bounds := (isAsciiDigit_iff c).mp digit
    omega
  all_goals decide

theorem not_isNumberPadding_of_isNumeral {c : Char} (numeral : IsNumeral c) :
    isNumberPadding c = false := by
  rcases numeral with digit | (rfl | rfl) | rfl | rfl | rfl
  · have bounds := (isAsciiDigit_iff c).mp digit
    have visible : c ≠ ' ' := by
      rintro rfl
      cases digit
    simp only [isNumberPadding, Bool.or_eq_false_iff, Bool.and_eq_false_iff,
      decide_eq_false_iff_not, beq_eq_false_iff_ne]
    exact ⟨visible, by omega⟩
  all_goals rfl

theorem not_isNumeral_underscore : ¬ IsNumeral '_' := by
  simp [IsNumeral, Json.IsMark, isAsciiDigit]

/-- Nothing is taken from a text before the sign of its number is read. -/
theorem readFloat?_of_isNumeral {text : List Char} (each : ∀ c ∈ text, IsNumeral c) :
    readFloat? (String.ofList text) = signedNumber? text := by
  have plain : text.map plainCharacter = text :=
    (List.map_congr_left fun c member => if_pos (toNat_lt_of_isNumeral (each c member))).trans
      (List.map_id _)
  have unpadded : ∀ c ∈ text, isNumberPadding c = false :=
    fun c member => not_isNumberPadding_of_isNumeral (each c member)
  have trimmed : trimWhere isNumberPadding text = text := by
    rw [trimWhere, dropWhile_eq_self unpadded, trimEndWhere, dropWhile_eq_self,
      List.reverse_reverse]
    exact fun c member => unpadded c (List.mem_reverse.mp member)
  have whole : withoutUnderscores false text = some text :=
    withoutUnderscores_eq_self fun inside => not_isNumeral_underscore (each _ inside)
  rw [readFloat?, String.toList_ofList, plain, trimmed, whole, Option.bind_some]

/-- A number with an exponent or without one is read wherever any number may stand. -/
theorem Numeral.readFloat? {decimal : Decimal} {body rest : List Char} {power : Int}
    (numeral : Numeral decimal body) (negative : Bool)
    (ends : ∀ c ∈ rest.head?, isDecimalDigit c = false) (pointless : rest.head? ≠ some '.')
    (scale : exponent? rest = some power) (each : ∀ c ∈ rest, IsNumeral c) :
    DesignTokens.readFloat? (String.ofList (signedText negative (body ++ rest))) =
      some (Decimal.toFloat negative { decimal with exponent := decimal.exponent + power }) := by
  have numerals : ∀ c ∈ body ++ rest, IsNumeral c := by
    rw [List.forall_mem_append]
    exact ⟨numeral.isNumeral, each⟩
  have read : ∀ sign, magnitude? sign (body ++ rest) =
      some (Decimal.toFloat sign { decimal with exponent := decimal.exponent + power }) := by
    intro sign
    rw [magnitude?, numeral.read ends pointless]
    simp only [scale, Option.map_some]
  rw [readFloat?_of_isNumeral (isNumeral_signedText numerals negative)]
  cases negative with
  | true => exact read true
  | false =>
      obtain ⟨c, after, rfl, digit⟩ := numeral.exists_digit
      have signless : c ≠ '-' ∧ c ≠ '+' := by
        constructor <;> rintro rfl <;> cases digit
      refine Eq.trans ?_ (read false)
      rw [signedText, if_neg Bool.false_ne_true, signedNumber?]
      · rintro tail same
        exact signless.1 (List.cons.inj same).1
      · rintro tail same
        exact signless.2 (List.cons.inj same).1

theorem Numeral.readFloat?_plain {decimal : Decimal} {body : List Char}
    (numeral : Numeral decimal body) (negative : Bool) :
    DesignTokens.readFloat? (String.ofList (signedText negative body)) =
      some (decimal.toFloat negative) := by
  have read := @Numeral.readFloat? decimal body [] 0 numeral negative (by simp) (by simp) rfl
    (by simp)
  rwa [List.append_nil, Int.add_zero] at read

theorem head?_exponentText (power : Int) : (exponentText power).head? = some 'e' := rfl

theorem Numeral.readFloat?_scaled {decimal : Decimal} {body : List Char}
    (numeral : Numeral decimal body) (negative : Bool) (power : Int) :
    DesignTokens.readFloat? (String.ofList (signedText negative (body ++ exponentText power))) =
      some (Decimal.toFloat negative { decimal with exponent := decimal.exponent + power }) := by
  refine numeral.readFloat? negative ?_ ?_ (Json.exponent?_eq (Json.exponent_exponentText power))
    (isNumeral_exponentText power)
  · rw [head?_exponentText]
    rintro c first
    obtain rfl : 'e' = c := Option.some.inj first
    rfl
  · rw [head?_exponentText]
    simp

theorem Decimal.value_shift (decimal : Decimal) (power : Int) :
    Decimal.value { decimal with exponent := decimal.exponent + power } =
      decimal.value * 10 ^ power := by
  rw [Decimal.value, Decimal.value, zpow_add₀ (by norm_num : (10 : ℚ) ≠ 0), mul_assoc]

/-- An opacity is written as one number, with an exponent or without, and read back from its text
if six digits are read as it. -/
theorem exists_written {x : Float} (finite : x.isFinite = true) :
    ∃ text y, NumberLayout.compact.write x = String.ofList text ∧ text ≠ [] ∧
      (∀ c ∈ text, IsNumeral c) ∧ readFloat? (String.ofList text) = some y ∧
      ((y == x) = true ↔ ∃ decimal : Decimal, decimal.Names x) := by
  obtain ⟨b, parts⟩ := isFinite_iff.mp finite
  have written := compact_write parts
  have present : ∀ {decimal body rest}, Numeral decimal body →
      signedText b.negative (body ++ rest) ≠ [] := by
    intro decimal body rest numeral
    obtain ⟨c, after, rfl, _⟩ := numeral.exists_digit
    cases b.negative <;> exact List.cons_ne_nil _ _
  rcases Nat.eq_zero_or_pos b.mantissa with none | filled
  · have numeral : Numeral (.ofParts ['0'] [] 0) ['0'] := .whole (Json.isWhole_singleton rfl).1
    have text : NumberLayout.compact.magnitude b = ['0'] := by
      rw [NumberLayout.magnitude, if_pos none]
      rfl
    have names := names_zero parts none
    have same := names.same
    rw [isNegative_eq parts] at same
    rw [text] at written
    refine ⟨_, _, written, ?_, isNumeral_signedText numeral.isNumeral b.negative,
      numeral.readFloat?_plain b.negative, iff_of_true same ⟨_, names⟩⟩
    rw [← List.append_nil ['0']]
    exact present numeral
  · obtain ⟨value, named⟩ : ∃ value, (b.significant 6).value = value := ⟨_, rfl⟩
    have six := Binary.sixDigits_magnitude filled
    generalize NumberLayout.compact.magnitude b = text at six written
    rw [named] at six
    cases six with
    | @plain decimal _ numeral short said _ _ =>
        refine ⟨_, _, written, ?_, isNumeral_signedText numeral.isNumeral b.negative,
          numeral.readFloat?_plain b.negative,
          toFloat_beq_iff parts filled short (said.trans named.symm)⟩
        rw [← List.append_nil text]
        exact present numeral
    | @scaled decimal body power numeral short said _ =>
        refine ⟨_, _, written, present numeral, isNumeral_signedText ?_ b.negative,
          numeral.readFloat?_scaled b.negative power, toFloat_beq_iff parts filled short ?_⟩
        · rw [List.forall_mem_append]
          exact ⟨numeral.isNumeral, isNumeral_exponentText power⟩
        · rw [Decimal.value_shift, said, named]

theorem leadingNumber?_eq_none {c : Char} {rest : List Char} (digitless : isDecimalDigit c = false)
    (other : c ≠ '-' ∧ c ≠ '.') : leadingNumber? (c :: rest) = none := by
  have none : leadingDigits (c :: rest) = [] := by
    rw [leadingDigits, List.takeWhile_cons_of_neg (by simp [digitless])]
  have nothing : leadingDecimal? (c :: rest) = .none := by
    rw [leadingDecimal?]
    simp only [none, List.length_nil, List.drop_zero]
    split
    · rename_i same
      exact absurd (List.cons.inj same).1 other.2
    · rfl
  rw [leadingNumber?, nothing]
  · rfl
  · rintro tail same
    exact other.1 (List.cons.inj same).1

theorem trim_eq_self_of_isNumeral {text : List Char} (each : ∀ c ∈ text, IsNumeral c) :
    trim text = text :=
  trim_eq_self (fun c first => not_isBlank_of_isNumeral (each c (List.mem_of_mem_head? first)))
    fun c last => not_isBlank_of_isNumeral (each c (List.mem_of_mem_getLast? last))

end DesignTokens
