import DesignTokens.Proofs.Json.Grammar
import DesignTokens.Proofs.Text.Digits

/-!
Numbers as they are read: what spells a number is read as it.
-/

namespace DesignTokens

namespace Json

theorem IsDigits.isDecimalDigit {digits : List Char} (each : IsDigits digits) :
    ∀ c ∈ digits, isDecimalDigit c = true :=
  fun c member => isDecimalDigit_of_isAsciiDigit (each.2 c member)

theorem leadingDigits_append {digits rest : List Char} (each : IsDigits digits)
    (ends : ∀ c ∈ rest.head?, isDecimalDigit c = false) :
    leadingDigits (digits ++ rest) = digits := by
  rw [leadingDigits, List.takeWhile_append_of_pos each.isDecimalDigit]
  cases rest with
  | nil => simp
  | cons c rest => simp [ends c rfl]

theorem not_isDecimalDigit_of_isMark {c : Char} (mark : IsMark c) : isDecimalDigit c = false := by
  rcases mark with rfl | rfl <;> rfl

theorem exponent?_eq {power : Int} {text : List Char} (spelled : Exponent power text) :
    exponent? text = some power := by
  have read : ∀ {digits : List Char} (negative : Bool), IsDigits digits →
      (if (!digits.isEmpty && digits.all isDecimalDigit) = true then
        some (withSign negative (digitsValue digits)) else none) =
        some (withSign negative (digitsValue digits)) := by
    intro digits negative each
    have some : digits.isEmpty = false := by simpa using each.1
    have all : digits.all isDecimalDigit = true := List.all_eq_true.mpr each.isDecimalDigit
    rw [some, all]
    rfl
  have marked : ∀ {c : Char}, IsMark c → (c == 'e' || c == 'E') = true := by
    intro c mark
    rcases mark with rfl | rfl <;> rfl
  cases spelled with
  | plain mark each =>
      rw [exponent?, if_pos (marked mark)]
      · exact read false each
      · rintro digits rfl
        exact nomatch each.2 '-' List.mem_cons_self
      · rintro digits rfl
        exact nomatch each.2 '+' List.mem_cons_self
  | plus mark each =>
      rw [exponent?, if_pos (marked mark)]
      exact read false each
  | minus mark each =>
      rw [exponent?, if_pos (marked mark)]
      exact read true each

theorem head?_exponent {power : Int} {text : List Char} (spelled : Exponent power text) :
    ∀ c ∈ text.head?, IsMark c := by
  intro c first
  cases spelled with
  | plain mark each => exact Option.some.inj first ▸ mark
  | plus mark each => exact Option.some.inj first ▸ mark
  | minus mark each => exact Option.some.inj first ▸ mark

theorem head?_exponent_ne_point {power : Int} {text : List Char} (spelled : Exponent power text) :
    text.head? ≠ some '.' := by
  intro point
  have mark := head?_exponent spelled '.' point
  simp [IsMark] at mark

theorem leadingDecimal?_point {digits fraction rest : List Char} (whole : IsDigits digits)
    (part : IsDigits fraction) (ends : ∀ c ∈ rest.head?, isDecimalDigit c = false) :
    leadingDecimal? (digits ++ '.' :: (fraction ++ rest)) =
      some (Decimal.ofParts digits fraction 0, rest) := by
  have first : leadingDigits (digits ++ '.' :: (fraction ++ rest)) = digits := by
    refine leadingDigits_append whole fun c point => ?_
    obtain rfl : '.' = c := Option.some.inj point
    rfl
  have some : digits.isEmpty = false := by simpa using whole.1
  rw [leadingDecimal?]
  simp only [first, List.drop_left, leadingDigits_append part ends, some, Bool.false_and,
    Bool.false_eq_true, if_false]

theorem leadingDecimal?_whole {digits rest : List Char} (whole : IsDigits digits)
    (ends : ∀ c ∈ rest.head?, isDecimalDigit c = false) (pointless : rest.head? ≠ some '.') :
    leadingDecimal? (digits ++ rest) = some (Decimal.ofParts digits [] 0, rest) := by
  have first : leadingDigits (digits ++ rest) = digits := leadingDigits_append whole ends
  have some : digits.isEmpty = false := by simpa using whole.1
  rw [leadingDecimal?]
  simp only [first, List.drop_left]
  split
  · exact absurd rfl pointless
  · rw [some]
    rfl

theorem ofParts_exponent (whole fraction : List Char) (power : Int) :
    { Decimal.ofParts whole fraction 0 with
      exponent := (Decimal.ofParts whole fraction 0).exponent + power } =
      Decimal.ofParts whole fraction power := by
  simp only [Decimal.ofParts, Decimal.mk.injEq, true_and]
  omega

theorem exists_head {negative : Bool} {number : Json} {text : List Char}
    (spelled : Magnitude negative number text) :
    ∃ c rest, text = c :: rest ∧ isAsciiDigit c = true := by
  have whole : ∀ {digits : List Char} (rest : List Char), IsWhole digits →
      ∃ c after, digits ++ rest = c :: after ∧ isAsciiDigit c = true := by
    intro digits rest whole
    cases shape : digits with
    | nil => exact absurd shape whole.1.1
    | cons c after => exact ⟨c, after ++ rest, rfl, whole.1.2 c (by simp [shape])⟩
  cases spelled with
  | whole digits => simpa using whole [] digits
  | fraction digits _ => exact whole _ digits
  | scaled digits _ => exact whole _ digits
  | scaledFraction digits _ _ => exact whole _ digits

theorem numberOfText?_sign {negative : Bool} {c : Char} {rest : List Char}
    (digit : isAsciiDigit c = true) :
    numberOfText? (if negative then '-' :: c :: rest else c :: rest) =
      if (c :: rest).all isDecimalDigit then
        some (.integer (withSign negative (digitsValue (c :: rest))))
      else (magnitude? negative (c :: rest)).map .number := by
  have decimal := isDecimalDigit_of_isAsciiDigit digit
  cases negative with
  | true => simp [numberOfText?, decimal]
  | false =>
      have unsigned : c ≠ '-' := by
        rintro rfl
        exact nomatch digit
      simp only [numberOfText?, Bool.false_eq_true, if_false]
      split
      · rename_i digits same
        exact absurd (List.cons.inj same).1 unsigned
      · simp [decimal]

theorem numberOfText?_eq {negative : Bool} {number : Json} {text : List Char}
    (spelled : Magnitude negative number text) :
    numberOfText? (if negative then '-' :: text else text) = some number := by
  have read : ∀ {value : Float} {stop : Char}, stop ∈ text → isDecimalDigit stop = false →
      magnitude? negative text = some value →
      numberOfText? (if negative then '-' :: text else text) = some (.number value) := by
    intro value stop inside other read
    rcases exists_head spelled with ⟨c, rest, rfl, digit⟩
    rw [numberOfText?_sign digit, if_neg, read]
    · rfl
    · intro all
      rw [List.all_eq_true.mp all stop inside] at other
      cases other
  have marked : ∀ {power : Int} {text : List Char}, Exponent power text →
      ∃ mark, mark ∈ text ∧ isDecimalDigit mark = false := by
    intro power text spelled
    cases spelled with
    | plain mark _ => exact ⟨_, List.mem_cons_self, not_isDecimalDigit_of_isMark mark⟩
    | plus mark _ => exact ⟨_, List.mem_cons_self, not_isDecimalDigit_of_isMark mark⟩
    | minus mark _ => exact ⟨_, List.mem_cons_self, not_isDecimalDigit_of_isMark mark⟩
  cases spelled with
  | whole digits =>
      rcases exists_head (.whole digits : Magnitude negative _ _) with ⟨c, rest, rfl, digit⟩
      rw [numberOfText?_sign digit, if_pos (List.all_eq_true.mpr digits.1.isDecimalDigit)]
  | @fraction digits fraction whole part =>
      refine @read _ '.' (by simp) rfl ?_
      have parts := @leadingDecimal?_point digits fraction [] whole.1 part (by simp)
      rw [List.append_nil] at parts
      rw [magnitude?, parts]
      simp only [exponent?, Option.map_some, ofParts_exponent]
  | @scaled digits power text whole scale =>
      rcases marked scale with ⟨mark, inside, other⟩
      refine read (List.mem_append_right _ inside) other ?_
      have ends := fun c mark => not_isDecimalDigit_of_isMark (head?_exponent scale c mark)
      rw [magnitude?, leadingDecimal?_whole whole.1 ends (head?_exponent_ne_point scale)]
      simp only [exponent?_eq scale, Option.map_some, ofParts_exponent]
  | @scaledFraction digits fraction power text whole part scale =>
      refine @read _ '.' (by simp) rfl ?_
      rw [magnitude?, leadingDecimal?_point whole.1 part fun c mark =>
        not_isDecimalDigit_of_isMark (head?_exponent scale c mark)]
      simp only [exponent?_eq scale, Option.map_some, ofParts_exponent]

theorem bareValue?_eq {negative : Bool} {number : Json} {text : List Char}
    (spelled : Magnitude negative number text) :
    bareValue? (if negative then '-' :: text else text) = some number := by
  have read := numberOfText?_eq spelled
  rcases exists_head spelled with ⟨c, rest, rfl, digit⟩
  have letter : ∀ {other}, isAsciiDigit other = false → c ≠ other := by
    rintro other none rfl
    exact nomatch digit.symm.trans none
  have words : "null".toList = ['n', 'u', 'l', 'l'] ∧ "true".toList = ['t', 'r', 'u', 'e'] ∧
      "false".toList = ['f', 'a', 'l', 's', 'e'] ∧
      NumberLayout.json.infinityText.toList = ['I', 'n', 'f', 'i', 'n', 'i', 't', 'y'] ∧
      NumberLayout.json.undefinedText.toList = ['N', 'a', 'N'] := by decide
  rcases words with ⟨null, yes, no, infinite, undefined⟩
  rw [bareValue?, null, yes, no, infinite, undefined]
  cases negative with
  | true => simpa [@letter 'I' rfl] using read
  | false =>
      simpa [@letter 'n' rfl, @letter 't' rfl, @letter 'f' rfl, @letter 'I' rfl, @letter 'N' rfl,
        @letter '-' rfl] using read

def IsNumeral (c : Char) : Prop :=
  isAsciiDigit c = true ∨ IsMark c ∨ c = '.' ∨ c = '+' ∨ c = '-'

theorem IsDigits.isNumeral {digits : List Char} (each : IsDigits digits) :
    ∀ c ∈ digits, IsNumeral c :=
  fun c member => Or.inl (each.2 c member)

theorem Exponent.isNumeral {power : Int} {text : List Char} (spelled : Exponent power text) :
    ∀ c ∈ text, IsNumeral c := by
  cases spelled with
  | plain mark each => exact List.forall_mem_cons.mpr ⟨Or.inr (Or.inl mark), each.isNumeral⟩
  | plus mark each =>
      simp only [List.forall_mem_cons]
      exact ⟨Or.inr (Or.inl mark), by simp [IsNumeral], each.isNumeral⟩
  | minus mark each =>
      simp only [List.forall_mem_cons]
      exact ⟨Or.inr (Or.inl mark), by simp [IsNumeral], each.isNumeral⟩

theorem Magnitude.isNumeral {negative : Bool} {number : Json} {text : List Char}
    (spelled : Magnitude negative number text) : ∀ c ∈ text, IsNumeral c := by
  cases spelled with
  | whole digits => exact digits.1.isNumeral
  | fraction digits part =>
      simp only [List.forall_mem_append, List.forall_mem_cons]
      exact ⟨digits.1.isNumeral, by simp [IsNumeral], part.isNumeral⟩
  | scaled digits scale =>
      simp only [List.forall_mem_append]
      exact ⟨digits.1.isNumeral, scale.isNumeral⟩
  | scaledFraction digits part scale =>
      simp only [List.forall_mem_append, List.forall_mem_cons]
      exact ⟨digits.1.isNumeral, by simp [IsNumeral], part.isNumeral, scale.isNumeral⟩

end Json

end DesignTokens
