import Mathlib.Data.List.Induction
import Mathlib.Tactic.Ring
import DesignTokens.Text.Ascii
import DesignTokens.Text.DecimalDigit

/-!
Numbers by their digits: what the digits of a number say is that number, and how many
there are tells its size.
-/

namespace DesignTokens

theorem isAsciiDigit_iff (c : Char) : isAsciiDigit c = true ↔ 48 ≤ c.toNat ∧ c.toNat ≤ 57 := by
  rw [isAsciiDigit, Bool.and_eq_true, decide_eq_true_iff, decide_eq_true_iff]
  rfl

theorem decimalDigit?_of_isAsciiDigit {c : Char} (digit : isAsciiDigit c = true) :
    decimalDigit? c = some (c.toNat - 48) := by
  obtain ⟨low, high⟩ := (isAsciiDigit_iff c).mp digit
  have ascii : c.toNat < 128 := by omega
  simp [decimalDigit?, ascii, low, high]

theorem isDecimalDigit_of_isAsciiDigit {c : Char} (digit : isAsciiDigit c = true) :
    isDecimalDigit c = true := by
  rw [isDecimalDigit, decimalDigit?_of_isAsciiDigit digit]
  rfl

theorem isAsciiDigit_digitChar : ∀ digit < 10, isAsciiDigit (digitChar digit) = true := by
  decide

theorem decimalDigit?_digitChar : ∀ digit < 10, decimalDigit? (digitChar digit) = some digit := by
  decide

theorem digitChar_eq_zero_iff : ∀ digit < 10, (digitChar digit = '0' ↔ digit = 0) := by
  decide

theorem decimalDigitsOnto_eq (tail : List Char) (number : Nat) :
    decimalDigitsOnto tail number = decimalDigits number ++ tail := by
  induction number using Nat.strong_induction_on generalizing tail with
  | _ number ih =>
      rw [decimalDigits, decimalDigitsOnto.eq_def tail, decimalDigitsOnto.eq_def []]
      split
      · rfl
      · rw [ih _ (by omega), ih _ (by omega) [_], List.append_assoc]
        rfl

theorem decimalDigits_of_lt {number : Nat} (small : number < 10) :
    decimalDigits number = [digitChar number] := by
  rw [decimalDigits, decimalDigitsOnto, if_pos small]

theorem decimalDigits_of_le {number : Nat} (large : 10 ≤ number) :
    decimalDigits number = decimalDigits (number / 10) ++ [digitChar (number % 10)] := by
  rw [decimalDigits, decimalDigitsOnto, if_neg (by omega), decimalDigitsOnto_eq]

theorem decimalDigits_digits {number : Nat} :
    ∀ c ∈ decimalDigits number, isAsciiDigit c = true := by
  induction number using Nat.strong_induction_on with
  | _ number ih =>
      intro c member
      by_cases small : number < 10
      · rw [decimalDigits_of_lt small, List.mem_singleton] at member
        exact member ▸ isAsciiDigit_digitChar number small
      · rw [decimalDigits_of_le (by omega), List.mem_append, List.mem_singleton] at member
        rcases member with earlier | rfl
        · exact ih _ (by omega) c earlier
        · exact isAsciiDigit_digitChar _ (by omega)

theorem digitsValue_nil : digitsValue [] = 0 := rfl

theorem digitsValue_append (first second : List Char) :
    digitsValue (first ++ second) =
      digitsValue first * 10 ^ second.length + digitsValue second := by
  induction second using List.reverseRecOn with
  | nil => simp [digitsValue_nil]
  | append_singleton second c ih =>
      have last : ∀ digits, digitsValue (digits ++ [c]) =
          10 * digitsValue digits + (decimalDigit? c).getD 0 := by
        intro digits
        simp only [digitsValue, List.foldl_append, List.foldl_cons, List.foldl_nil]
      rw [← List.append_assoc, last, last, ih, List.length_append, List.length_singleton]
      ring

theorem digitsValue_singleton (c : Char) : digitsValue [c] = (decimalDigit? c).getD 0 := by
  simp [digitsValue]

theorem digitsValue_zeros_append (count : Nat) (digits : List Char) :
    digitsValue (List.replicate count '0' ++ digits) = digitsValue digits := by
  induction count with
  | zero => rfl
  | succ count ih => exact ih

theorem digitsValue_decimalDigits (number : Nat) : digitsValue (decimalDigits number) = number := by
  induction number using Nat.strong_induction_on with
  | _ number ih =>
      by_cases small : number < 10
      · rw [decimalDigits_of_lt small, digitsValue_singleton, decimalDigit?_digitChar _ small]
        rfl
      · rw [decimalDigits_of_le (by omega), digitsValue_append, ih _ (by omega),
          digitsValue_singleton, decimalDigit?_digitChar _ (by omega)]
        simp only [Option.getD_some, List.length_singleton]
        omega

theorem decimalDigits_length_pos (number : Nat) : 0 < (decimalDigits number).length := by
  by_cases small : number < 10
  · simp [decimalDigits_of_lt small]
  · simp [decimalDigits_of_le (by omega : 10 ≤ number)]

theorem lt_pow_length (number : Nat) : number < 10 ^ (decimalDigits number).length := by
  induction number using Nat.strong_induction_on with
  | _ number ih =>
      by_cases small : number < 10
      · simpa [decimalDigits_of_lt small] using small
      · have shorter := ih (number / 10) (by omega)
        rw [decimalDigits_of_le (by omega), List.length_append, List.length_singleton, pow_succ]
        omega

theorem pow_length_le {number : Nat} (positive : 0 < number) :
    10 ^ (decimalDigits number).length ≤ 10 * number := by
  induction number using Nat.strong_induction_on with
  | _ number ih =>
      by_cases small : number < 10
      · simp [decimalDigits_of_lt small]
        omega
      · have shorter := ih (number / 10) (by omega) (by omega)
        rw [decimalDigits_of_le (by omega), List.length_append, List.length_singleton, pow_succ]
        omega

theorem head_decimalDigits {number : Nat} (positive : 0 < number) :
    (decimalDigits number).head? ≠ some '0' := by
  induction number using Nat.strong_induction_on with
  | _ number ih =>
      by_cases small : number < 10
      · rw [decimalDigits_of_lt small]
        intro zero
        have none := (digitChar_eq_zero_iff number small).mp (Option.some.inj zero)
        omega
      · have shorter := ih (number / 10) (by omega) (by omega)
        have some := decimalDigits_length_pos (number / 10)
        rw [decimalDigits_of_le (by omega)]
        cases shape : decimalDigits (number / 10) with
        | nil => simp [shape] at some
        | cons c rest => simpa [shape] using shorter

end DesignTokens
