import DesignTokens.Proofs.Stylesheet.Zeros

/-!
Shortening part by part.  A bracket parts the numbers on either side of it, so a text in
brackets is shortened as it would be on its own.
-/

namespace DesignTokens.Stylesheet

def shortNumbers (text : List Char) : List Char :=
  dropLeadingZeros none (shortenZeros none 0 text)

theorem shortNumbers_eq_self_iff (text : List Char) :
    shortNumbers text = text ↔ Brief none text := by
  constructor
  · intro kept
    have brief := brief_dropLeadingZeros (unitFree_shortenZeros none text)
    rwa [show dropLeadingZeros none (shortenZeros none 0 text) = text from kept] at brief
  · intro brief
    rw [shortNumbers, brief.shortenZeros, brief.dropLeadingZeros]

theorem isPrefixOf_append {unit text : List Char} {c : Char} (units : unit.all isUnitChar = true)
    (other : isWordChar c = false) (rest : List Char) :
    unit.isPrefixOf (text ++ c :: rest) = unit.isPrefixOf text := by
  induction unit generalizing text with
  | nil => rfl
  | cons u unit ih =>
      rw [List.all_cons, Bool.and_eq_true] at units
      cases text with
      | nil =>
          have apart : (u == c) = false := by
            rw [beq_eq_false_iff_ne]
            rintro rfl
            rw [isUnitChar, other] at units
            exact Bool.false_ne_true units.1
          simp [List.isPrefixOf, apart]
      | cons d text =>
          rw [List.cons_append, List.isPrefixOf, List.isPrefixOf, ih units.2]

theorem zeroUnitLength_append {c : Char} (other : isWordChar c = false) (text rest : List Char) :
    zeroUnitLength (text ++ c :: rest) = zeroUnitLength text := by
  have found : zeroUnits.find? (fun unit => unit.isPrefixOf (text ++ c :: rest)) =
      zeroUnits.find? fun unit => unit.isPrefixOf text :=
    List.find?_congr fun unit member =>
      isPrefixOf_append (isUnitChar_of_mem_zeroUnits member) other rest
  rw [zeroUnitLength, zeroUnitLength, found]
  cases which : zeroUnits.find? fun unit => unit.isPrefixOf text with
  | none => rfl
  | some unit =>
      have first : unit.isPrefixOf text = true := by simpa using List.find?_some which
      obtain ⟨behind, rfl⟩ := List.isPrefixOf_iff_prefix.mp first
      have left : (unit ++ behind ++ c :: rest).drop unit.length = behind ++ c :: rest := by
        rw [List.append_assoc, List.drop_left]
      simp only [left, List.drop_left]
      cases behind with
      | nil => simp [other]
      | cons d behind => rfl

theorem takeWhile_append_of_ne {c : Char} (zero : c ≠ '0') (digits rest : List Char) :
    (digits ++ c :: rest).takeWhile (· == '0') = digits.takeWhile (· == '0') := by
  induction digits with
  | nil => simp [zero]
  | cons d digits ih => simp [List.takeWhile_cons, ih]

theorem zeroTailLength_append {c : Char} (other : isWordChar c = false) (point : c ≠ '.')
    (text rest : List Char) : zeroTailLength (text ++ c :: rest) = zeroTailLength text := by
  have zero : c ≠ '0' := by
    rintro rfl
    exact absurd other (by decide)
  cases text with
  | nil =>
      have unpointed : ¬ ∃ digits, c :: rest = '.' :: digits := by
        rintro ⟨digits, same⟩
        exact point (List.cons.inj same).1
      rw [List.nil_append, zeroTailLength_of_not_point unpointed]
      exact zeroUnitLength_append other [] rest
  | cons d digits =>
      by_cases pointed : d = '.'
      · subst pointed
        have zeros := takeWhile_append_of_ne zero digits rest
        have short : (digits.takeWhile (· == '0')).length ≤ digits.length :=
          (List.takeWhile_prefix _).length_le
        rw [List.cons_append, zeroTailLength, zeroTailLength]
        simp only [zeros, List.drop_append_of_le_length short, zeroUnitLength_append other]
      · have unpointed : ∀ others, ¬ ∃ digits, d :: others = '.' :: digits := by
          rintro others ⟨digits, same⟩
          exact pointed (List.cons.inj same).1
        rw [List.cons_append, zeroTailLength_of_not_point (unpointed _), ← List.cons_append,
          zeroUnitLength_append other, zeroTailLength_of_not_point (unpointed _)]

theorem zeroTailLength_le (text : List Char) : zeroTailLength text ≤ text.length := by
  rcases zeroTailLength_cases text with ⟨none, _⟩ | ⟨front, last, rest, needless, length⟩
  · omega
  · rw [length, needless.whole, List.length_append, List.length_cons]
    omega

theorem shortenZeros_append {c : Char} (other : isWordChar c = false) (point : c ≠ '.')
    {previous : Option Char} {skip : Nat} {text : List Char} (within : skip ≤ text.length)
    (rest : List Char) :
    shortenZeros previous skip (text ++ c :: rest) =
      shortenZeros previous skip text ++ c :: shortenZeros (some c) 0 rest := by
  have zero : c ≠ '0' := by
    rintro rfl
    exact absurd other (by decide)
  induction text generalizing previous skip with
  | nil =>
      obtain rfl : skip = 0 := Nat.le_zero.mp within
      rw [List.nil_append, shortenZeros_cons, if_neg (by simp [zero])]
      rfl
  | cons d text ih =>
      cases skip with
      | succ skip => exact ih (Nat.le_of_succ_le_succ within)
      | zero =>
          rw [List.cons_append, shortenZeros_cons, shortenZeros_cons,
            zeroTailLength_append other point, ih (zeroTailLength_le text), ih (Nat.zero_le _)]
          split <;> rfl

theorem startsFraction_append {c : Char} (point : c ≠ '.') (digit : isDecimalDigit c = false)
    (text rest : List Char) : startsFraction (text ++ c :: rest) = startsFraction text := by
  match text with
  | [] => exact startsFraction_cons_of_ne point rest
  | [d] =>
      by_cases pointed : d = '.'
      · subst pointed
        exact digit
      · rw [startsFraction_cons_of_ne pointed]
        exact startsFraction_cons_of_ne pointed _
  | d :: e :: others =>
      by_cases pointed : d = '.'
      · subst pointed
        rfl
      · rw [startsFraction_cons_of_ne pointed]
        exact startsFraction_cons_of_ne pointed _

theorem dropLeadingZeros_append {c : Char} (point : c ≠ '.') (digit : isDecimalDigit c = false)
    (previous : Option Char) (text rest : List Char) :
    dropLeadingZeros previous (text ++ c :: rest) =
      dropLeadingZeros previous text ++ c :: dropLeadingZeros (some c) rest := by
  have zero : c ≠ '0' := by
    rintro rfl
    exact absurd digit (by decide)
  induction text generalizing previous with
  | nil =>
      rw [List.nil_append, dropLeadingZeros_cons, if_neg (by simp [zero])]
      rfl
  | cons d text ih =>
      rw [List.cons_append, dropLeadingZeros_cons, dropLeadingZeros_cons,
        startsFraction_append point digit, ih]
      split <;> rfl

theorem shortenZeros_congr {previous other : Option Char}
    (alike : startsNumber previous = startsNumber other)
    (dash : previous = some '-' ↔ other = some '-') (text : List Char) :
    shortenZeros previous 0 text = shortenZeros other 0 text := by
  have same : (previous != some '-') = (other != some '-') := by
    rw [Bool.eq_iff_iff, bne_iff_ne, bne_iff_ne, not_iff_not]
    exact dash
  cases text with
  | nil => rfl
  | cons c rest => rw [shortenZeros_cons, shortenZeros_cons, alike, same]

theorem dropLeadingZeros_congr {previous other : Option Char}
    (alike : startsNumber previous = startsNumber other) (text : List Char) :
    dropLeadingZeros previous text = dropLeadingZeros other text := by
  cases text with
  | nil => rfl
  | cons c rest => rw [dropLeadingZeros_cons, dropLeadingZeros_cons, alike]

structure Parting (c : Char) : Prop where
  word : isWordChar c = false
  point : c ≠ '.'
  digit : isDecimalDigit c = false
  starts : startsNumber (some c) = true
  dash : c ≠ '-'

theorem parting_opening : Parting '(' :=
  ⟨by decide, by decide, by decide, by decide, by decide⟩

theorem parting_closing : Parting ')' :=
  ⟨by decide, by decide, by decide, by decide, by decide⟩

theorem Parting.shortNumbers {c : Char} (parting : Parting c) (text rest : List Char) :
    shortNumbers (text ++ c :: rest) = shortNumbers text ++ c :: shortNumbers rest := by
  have fresh : startsNumber (some c) = startsNumber none := parting.starts
  have undashed : some c = some '-' ↔ (none : Option Char) = some '-' := by simp [parting.dash]
  rw [Stylesheet.shortNumbers, shortenZeros_append parting.word parting.point (Nat.zero_le _),
    dropLeadingZeros_append parting.point parting.digit, shortenZeros_congr fresh undashed,
    dropLeadingZeros_congr fresh]
  rfl

def zeroChars : List Char :=
  ['0', '.', 'p', 'x', 'e', 'm', 'r', 'v', 'h', 'w']

theorem mem_take_zeroUnitLength {text : List Char} {c : Char}
    (inside : c ∈ text.take (zeroUnitLength text)) : c ∈ zeroChars := by
  have all : ∀ unit ∈ zeroUnits, ∀ c ∈ unit, c ∈ zeroChars := by simp [zeroUnits, zeroChars]
  rcases zeroUnitLength_cases text with none | ⟨unit, member, rest, rfl, _, length⟩
  · simp [none] at inside
  · rw [length, List.take_left] at inside
    exact all unit member c inside

theorem mem_take_zeroTailLength {text : List Char} {c : Char}
    (inside : c ∈ text.take (zeroTailLength text)) : c ∈ zeroChars := by
  by_cases pointed : ∃ digits, text = '.' :: digits
  · obtain ⟨digits, rfl⟩ := pointed
    rw [zeroTailLength] at inside
    split at inside
    · simp at inside
    · rw [Nat.add_assoc, Nat.add_comm, List.take_succ_cons, List.mem_cons, List.take_add,
        List.mem_append] at inside
      rcases inside with rfl | zero | unit
      · decide
      · have prefixed := List.takeWhile_prefix (· == '0') (l := digits)
        rw [← List.prefix_iff_eq_take.mp prefixed] at zero
        obtain rfl : c = '0' := by simpa using List.mem_takeWhile_imp zero
        decide
      · exact mem_take_zeroUnitLength unit
  · rw [zeroTailLength_of_not_point pointed] at inside
    exact mem_take_zeroUnitLength inside

theorem zeroTailLength_le_of_not_mem {c : Char} (foreign : c ∉ zeroChars)
    (text rest : List Char) : zeroTailLength (text ++ c :: rest) ≤ text.length := by
  by_contra beyond
  obtain ⟨more, longer⟩ := Nat.exists_eq_add_of_lt (Nat.lt_of_not_le beyond)
  have inside : c ∈ (text ++ c :: rest).take (zeroTailLength (text ++ c :: rest)) := by
    rw [longer, Nat.add_assoc, List.take_length_add_append, List.take_succ_cons]
    simp
  exact foreign (mem_take_zeroTailLength inside)

theorem exists_shortenZeros {c : Char} (foreign : c ∉ zeroChars) {previous : Option Char}
    {skip : Nat} {text : List Char} (rest : List Char) (within : skip ≤ text.length) :
    ∃ front, shortenZeros previous skip (text ++ c :: rest) =
      front ++ c :: shortenZeros (some c) 0 rest := by
  have zero : c ≠ '0' := by
    rintro rfl
    exact foreign (by decide)
  induction text generalizing previous skip with
  | nil =>
      obtain rfl : skip = 0 := Nat.le_zero.mp within
      refine ⟨[], ?_⟩
      rw [List.nil_append, shortenZeros_cons, if_neg (by simp [zero])]
      rfl
  | cons d text ih =>
      cases skip with
      | succ skip => exact ih (Nat.le_of_succ_le_succ within)
      | zero =>
          rw [List.cons_append, shortenZeros_cons]
          split
          · obtain ⟨front, same⟩ := ih (zeroTailLength_le_of_not_mem foreign text rest)
            exact ⟨'0' :: front, by rw [same]; rfl⟩
          · obtain ⟨front, same⟩ := ih (Nat.zero_le _)
            exact ⟨d :: front, by rw [same]; rfl⟩

theorem shortenZeros_eq_self {text : List Char} (zeroless : '0' ∉ text) (previous : Option Char) :
    shortenZeros previous 0 text = text := by
  induction text generalizing previous with
  | nil => rfl
  | cons c rest ih =>
      rw [List.mem_cons, not_or] at zeroless
      rw [shortenZeros_cons, if_neg (by simp [Ne.symm zeroless.1]), ih zeroless.2]

theorem dropLeadingZeros_eq_self {text : List Char} (zeroless : '0' ∉ text)
    (previous : Option Char) : dropLeadingZeros previous text = text := by
  induction text generalizing previous with
  | nil => rfl
  | cons c rest ih =>
      rw [List.mem_cons, not_or] at zeroless
      rw [dropLeadingZeros_cons, if_neg (by simp [Ne.symm zeroless.1]), ih zeroless.2]

/-- A name at the end of a text is kept, if it begins with none of the characters of units. -/
theorem exists_shortNumbers {c : Char} (foreign : c ∉ zeroChars)
    (digit : isDecimalDigit c = false) {name : List Char} (zeroless : '0' ∉ name)
    (text : List Char) : ∃ front, shortNumbers (text ++ c :: name) = front ++ c :: name := by
  have point : c ≠ '.' := by
    rintro rfl
    exact foreign (by decide)
  obtain ⟨front, same⟩ := @exists_shortenZeros c foreign none 0 text name (Nat.zero_le _)
  refine ⟨dropLeadingZeros none front, ?_⟩
  rw [shortNumbers, same, dropLeadingZeros_append point digit, shortenZeros_eq_self zeroless,
    dropLeadingZeros_eq_self zeroless]

end DesignTokens.Stylesheet
