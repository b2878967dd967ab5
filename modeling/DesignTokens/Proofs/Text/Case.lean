import Mathlib.Data.List.TakeWhile
import DesignTokens.Number.Reading
import DesignTokens.Text.LowerCase

/-!
Texts in lower case.  Trimming, cutting and splitting a text do not look at the case of its
letters, nor does reading a number from it, nor writing all of it in lower case.
-/

namespace DesignTokens

/-- A function that takes the two cases of each ASCII letter alike does not see lower case. -/
theorem apply_asciiLowerChar {α : Type} {f : Char → α}
    (letters : ∀ index < 26, f (Char.ofNat (97 + index)) = f (Char.ofNat (65 + index)))
    (c : Char) : f (asciiLowerChar c) = f c := by
  rw [asciiLowerChar]
  split
  · rename_i upper
    have range : 65 ≤ c.toNat ∧ c.toNat ≤ 90 := by
      simp only [isAsciiUpper, Bool.and_eq_true, decide_eq_true_eq] at upper
      exact upper
    obtain ⟨index, shift⟩ := Nat.exists_eq_add_of_le range.1
    have same := letters index (by omega)
    rw [← shift, Char.ofNat_toNat] at same
    rw [shift, Nat.add_right_comm]
    exact same
  · rfl

theorem asciiLowerChar_asciiLowerChar (c : Char) :
    asciiLowerChar (asciiLowerChar c) = asciiLowerChar c :=
  apply_asciiLowerChar (by decide) c

theorem asciiLowerChar_of_not_isAsciiLetter {c : Char} (other : isAsciiLetter c = false) :
    asciiLowerChar c = c := by
  rw [isAsciiLetter, Bool.or_eq_false_iff] at other
  rw [asciiLowerChar, other.2, if_neg Bool.false_ne_true]

theorem asciiLowerChar_eq_iff {mark : Char} (other : isAsciiLetter mark = false) (c : Char) :
    asciiLowerChar c = mark ↔ c = mark := by
  have letter : isAsciiLetter (asciiLowerChar c) = isAsciiLetter c :=
    apply_asciiLowerChar (by decide) c
  constructor
  · intro same
    rw [same, other] at letter
    rw [← same, asciiLowerChar_of_not_isAsciiLetter letter.symm]
  · rintro rfl
    exact asciiLowerChar_of_not_isAsciiLetter other

theorem isBlank_asciiLowerChar (c : Char) : isBlank (asciiLowerChar c) = isBlank c :=
  apply_asciiLowerChar (by decide) c

theorem isDecimalDigit_asciiLowerChar (c : Char) :
    isDecimalDigit (asciiLowerChar c) = isDecimalDigit c :=
  apply_asciiLowerChar (by decide) c

theorem asciiLowerCased_map (text : List Char) :
    asciiLowerCased (text.map asciiLowerChar) = asciiLowerCased text := by
  have same : asciiLowerChar ∘ asciiLowerChar = asciiLowerChar :=
    funext asciiLowerChar_asciiLowerChar
  rw [asciiLowerCased, List.map_map, same, asciiLowerCased]

section Map

variable {change : Char → Char} {mark : Char → Bool}

theorem trimEndWhere_map (blind : ∀ c, mark (change c) = mark c) (text : List Char) :
    trimEndWhere mark (text.map change) = (trimEndWhere mark text).map change := by
  have same : mark ∘ change = mark := funext blind
  simp only [trimEndWhere, List.dropWhile_map, same, ← List.map_reverse]

theorem trimWhere_map (blind : ∀ c, mark (change c) = mark c) (text : List Char) :
    trimWhere mark (text.map change) = (trimWhere mark text).map change := by
  have same : mark ∘ change = mark := funext blind
  rw [trimWhere, List.dropWhile_map, same, trimEndWhere_map blind, trimWhere]

theorem splitWhere_map (blind : ∀ c, mark (change c) = mark c) (text : List Char) :
    splitWhere mark (text.map change) = (splitWhere mark text).map (List.map change) := by
  induction text with
  | nil => rfl
  | cons c rest ih =>
      rw [List.map_cons, splitWhere, splitWhere, blind, ih]
      split
      · rfl
      · cases splitWhere mark rest <;> rfl

theorem pieces_map (blind : ∀ c, mark (change c) = mark c) (text : List Char) :
    pieces mark (text.map change) = (pieces mark text).map (List.map change) := by
  rw [pieces, splitWhere_map blind, List.filter_map, pieces]
  congr 2
  funext part
  cases part <;> rfl

theorem cutAt_map {separator : Char}
    (blind : ∀ c, (change c == separator) = (c == separator)) (text : List Char) :
    cutAt separator (text.map change) =
      ((cutAt separator text).1.map change, (cutAt separator text).2.map (List.map change)) := by
  induction text with
  | nil => rfl
  | cons c rest ih =>
      rw [List.map_cons, cutAt, cutAt, blind, ih]
      split <;> rfl

theorem dropTail_map {last : Char} (blind : ∀ c, (last == change c) = (last == c))
    (text : List Char) :
    dropTail [last] (text.map change) = (dropTail [last] text).map (List.map change) := by
  rw [dropTail, dropTail, List.reverse_singleton, ← List.map_reverse]
  cases text.reverse with
  | nil => rfl
  | cons c rest =>
      simp only [List.map_cons, dropLead, blind]
      split
      · simp
      · rfl

end Map

theorem trim_lower (text : List Char) :
    trim (text.map asciiLowerChar) = (trim text).map asciiLowerChar :=
  trimWhere_map isBlank_asciiLowerChar text

theorem exists_of_map_lower {mark : Char} (other : isAsciiLetter mark = false)
    {text rest : List Char} (same : text.map asciiLowerChar = mark :: rest) :
    ∃ others, text = mark :: others := by
  obtain ⟨c, others, rfl, first, _⟩ := List.map_eq_cons_iff.mp same
  exact ⟨others, by rw [(asciiLowerChar_eq_iff other c).mp first]⟩

/-! ### All of a text in lower case -/

theorem isCased_asciiLowerChar (c : Char) : isCased (asciiLowerChar c) = isCased c :=
  apply_asciiLowerChar (by decide) c

theorem isCaseIgnorable_asciiLowerChar (c : Char) :
    isCaseIgnorable (asciiLowerChar c) = isCaseIgnorable c :=
  apply_asciiLowerChar (by decide +kernel) c

theorem lowerChar_asciiLowerChar (c : Char) : lowerChar (asciiLowerChar c) = lowerChar c :=
  apply_asciiLowerChar (by decide) c

theorem startsCased_lower (text : List Char) :
    startsCased (text.map asciiLowerChar) = startsCased text := by
  induction text with
  | nil => rfl
  | cons c rest ih =>
      rw [List.map_cons, startsCased, startsCased, isCased_asciiLowerChar,
        isCaseIgnorable_asciiLowerChar, ih]

theorem lowerCaseFrom_lower (afterCased : Bool) (text : List Char) :
    lowerCaseFrom afterCased (text.map asciiLowerChar) = lowerCaseFrom afterCased text := by
  have sigma : ∀ c, ((asciiLowerChar c).toNat = 0x3A3) = (c.toNat = 0x3A3) :=
    apply_asciiLowerChar (f := (·.toNat = 0x3A3)) (by decide)
  induction text generalizing afterCased with
  | nil => rfl
  | cons c rest ih =>
      rw [List.map_cons, lowerCaseFrom, lowerCaseFrom, isCased_asciiLowerChar,
        isCaseIgnorable_asciiLowerChar, startsCased_lower, lowerChar_asciiLowerChar, ih]
      simp only [sigma]

theorem lowerCase_lower (text : List Char) :
    lowerCase (text.map asciiLowerChar) = lowerCase text := by
  have ascii : ∀ c, decide ((asciiLowerChar c).toNat < 128) = decide (c.toNat < 128) :=
    apply_asciiLowerChar (f := fun c => decide (c.toNat < 128)) (by decide)
  have same : asciiLowerChar ∘ asciiLowerChar = asciiLowerChar :=
    funext asciiLowerChar_asciiLowerChar
  rw [lowerCase, lowerCase, lowerCaseFrom_lower, List.map_map, same, List.all_map]
  simp only [Function.comp_def, ascii]

/-! ### Numbers -/

theorem asciiLowerChar_of_isDecimalDigit {c : Char} (digit : isDecimalDigit c = true) :
    asciiLowerChar c = c := by
  rw [asciiLowerChar, if_neg]
  intro upper
  have range : 65 ≤ c.toNat ∧ c.toNat ≤ 90 := by
    simp only [isAsciiUpper, Bool.and_eq_true, decide_eq_true_eq] at upper
    exact upper
  have early : ¬ c.toNat ≤ 57 := by omega
  simp [isDecimalDigit, decimalDigit?, early, show c.toNat < 128 by omega] at digit

theorem map_asciiLowerChar_digits {digits : List Char}
    (each : ∀ c ∈ digits, isDecimalDigit c = true) : digits.map asciiLowerChar = digits :=
  List.map_congr_left (fun c member => asciiLowerChar_of_isDecimalDigit (each c member)) |>.trans
    (List.map_id _)

theorem leadingDigits_lower (text : List Char) :
    leadingDigits (text.map asciiLowerChar) = leadingDigits text := by
  have same : isDecimalDigit ∘ asciiLowerChar = isDecimalDigit :=
    funext isDecimalDigit_asciiLowerChar
  rw [leadingDigits, List.takeWhile_map, same, leadingDigits]
  exact map_asciiLowerChar_digits fun c member => List.mem_takeWhile_imp member

theorem leadingDecimal?_lower (text : List Char) :
    leadingDecimal? (text.map asciiLowerChar) =
      (leadingDecimal? text).map fun (decimal, rest) => (decimal, rest.map asciiLowerChar) := by
  have point := asciiLowerChar_eq_iff (by decide : isAsciiLetter '.' = false)
  rw [leadingDecimal?, leadingDecimal?, leadingDigits_lower]
  simp only [← List.map_drop]
  generalize leadingDigits text = whole
  cases text.drop whole.length with
  | nil =>
      simp only [List.map_nil]
      split <;> rfl
  | cons c rest =>
      by_cases pointed : c = '.'
      · subst pointed
        have kept : asciiLowerChar '.' = '.' := by decide
        simp only [List.map_cons, kept, leadingDigits_lower, ← List.map_drop]
        split <;> rfl
      · have other := mt (point c).mp pointed
        cases whole.isEmpty <;> simp [pointed, other]

theorem exponent?_lower (text : List Char) :
    exponent? (text.map asciiLowerChar) = exponent? text := by
  have letter : ∀ c, (asciiLowerChar c == 'e' || asciiLowerChar c == 'E') =
      (c == 'e' || c == 'E') :=
    apply_asciiLowerChar (f := fun c => c == 'e' || c == 'E') (by decide)
  have digits : ∀ negative (text : List Char),
      (if (!(text.map asciiLowerChar).isEmpty && (text.map asciiLowerChar).all isDecimalDigit) =
          true then some (withSign negative (digitsValue (text.map asciiLowerChar))) else none) =
        if (!text.isEmpty && text.all isDecimalDigit) = true then
          some (withSign negative (digitsValue text)) else none := by
    intro negative text
    have same : isDecimalDigit ∘ asciiLowerChar = isDecimalDigit :=
      funext isDecimalDigit_asciiLowerChar
    rw [List.isEmpty_map, List.all_map, same]
    by_cases each : text.all isDecimalDigit = true
    · rw [map_asciiLowerChar_digits (List.all_eq_true.mp each)]
    · simp [each]
  cases text with
  | nil => rfl
  | cons mark rest =>
      by_cases minus : ∃ others, rest = '-' :: others
      · obtain ⟨others, rfl⟩ := minus
        have kept : asciiLowerChar '-' = '-' := by decide
        rw [List.map_cons, List.map_cons, kept, exponent?, exponent?, letter, digits]
      · by_cases plus : ∃ others, rest = '+' :: others
        · obtain ⟨others, rfl⟩ := plus
          have kept : asciiLowerChar '+' = '+' := by decide
          rw [List.map_cons, List.map_cons, kept, exponent?, exponent?, letter, digits]
        · rw [List.map_cons, exponent?, exponent?, letter, digits]
          · exact fun others same => minus ⟨others, same⟩
          · exact fun others same => plus ⟨others, same⟩
          · exact fun others same => minus (exists_of_map_lower (by decide) same)
          · exact fun others same => plus (exists_of_map_lower (by decide) same)

theorem magnitude?_lower (negative : Bool) (text : List Char) :
    magnitude? negative (text.map asciiLowerChar) = magnitude? negative text := by
  rw [magnitude?, magnitude?, leadingDecimal?_lower, asciiLowerCased_map]
  cases leadingDecimal? text with
  | none => rfl
  | some found => simp only [Option.map_some, exponent?_lower]

theorem signedNumber?_lower (text : List Char) :
    signedNumber? (text.map asciiLowerChar) = signedNumber? text := by
  by_cases minus : ∃ others, text = '-' :: others
  · obtain ⟨others, rfl⟩ := minus
    exact magnitude?_lower true others
  · by_cases plus : ∃ others, text = '+' :: others
    · obtain ⟨others, rfl⟩ := plus
      exact magnitude?_lower false others
    · rw [signedNumber?, signedNumber?, magnitude?_lower]
      · exact fun others same => minus ⟨others, same⟩
      · exact fun others same => plus ⟨others, same⟩
      · exact fun others same => minus (exists_of_map_lower (by decide) same)
      · exact fun others same => plus (exists_of_map_lower (by decide) same)

theorem withoutUnderscores_lower (afterDigit : Bool) (text : List Char) :
    withoutUnderscores afterDigit (text.map asciiLowerChar) =
      (withoutUnderscores afterDigit text).map (List.map asciiLowerChar) := by
  have kept : asciiLowerChar '_' = '_' := by decide
  fun_induction withoutUnderscores afterDigit text with
  | case1 => rfl
  | case2 afterDigit next rest digits ih =>
      rw [List.map_cons, List.map_cons, kept, withoutUnderscores, isDecimalDigit_asciiLowerChar,
        if_pos digits, ih, Option.map_map, Option.map_map]
      rfl
  | case3 afterDigit next rest digits =>
      rw [List.map_cons, List.map_cons, kept, withoutUnderscores, isDecimalDigit_asciiLowerChar,
        if_neg digits]
      rfl
  | case4 => rfl
  | case5 afterDigit c rest more last ih =>
      have other : c ≠ '_' := by
        rintro rfl
        cases rest with
        | nil => exact last rfl rfl
        | cons next others => exact more next others rfl rfl
      have plain := mt (asciiLowerChar_eq_iff (by decide) c).mp other
      rw [List.map_cons, withoutUnderscores, isDecimalDigit_asciiLowerChar, ih, Option.map_map,
        Option.map_map]
      · rfl
      · exact fun _ _ same => absurd same plain
      · exact fun same => absurd same plain

theorem readFloat?_lower (text : List Char) :
    readFloat? (String.ofList (text.map asciiLowerChar)) = readFloat? (String.ofList text) := by
  have padding : ∀ c, isNumberPadding (asciiLowerChar c) = isNumberPadding c :=
    apply_asciiLowerChar (by decide)
  have blind : ∀ text : List Char,
      (withoutUnderscores false (trimWhere isNumberPadding (text.map asciiLowerChar))).bind
          signedNumber? =
        (withoutUnderscores false (trimWhere isNumberPadding text)).bind signedNumber? := by
    intro text
    rw [trimWhere_map padding, withoutUnderscores_lower]
    cases withoutUnderscores false (trimWhere isNumberPadding text) with
    | none => rfl
    | some found => exact signedNumber?_lower found
  -- A letter stays what it is where digits of other scripts and other blanks are replaced.
  have plain : ∀ c, asciiLowerChar (plainCharacter (asciiLowerChar c)) =
      asciiLowerChar (plainCharacter c) :=
    apply_asciiLowerChar (f := fun c => asciiLowerChar (plainCharacter c)) (by decide)
  have alike : ((text.map asciiLowerChar).map plainCharacter).map asciiLowerChar =
      (text.map plainCharacter).map asciiLowerChar := by
    simp only [List.map_map, Function.comp_def, plain]
  rw [readFloat?, readFloat?, String.toList_ofList, String.toList_ofList, ← blind, alike, blind]

end DesignTokens
