import Mathlib.Data.List.Find
import DesignTokens.Proofs.Stylesheet.Abridged

/-!
Short zeros.  What is left of a text has no zero that could be shorter still, although leaving
out a unit can uncover a zero in front of a point.
-/

namespace DesignTokens.Stylesheet

def startsFraction : List Char → Bool
  | '.' :: digit :: _ => isDecimalDigit digit
  | _ => false

theorem startsFraction_iff {text : List Char} :
    startsFraction text = true ↔
      ∃ digit others, text = '.' :: digit :: others ∧ isDecimalDigit digit = true := by
  constructor
  · intro fraction
    unfold startsFraction at fraction
    split at fraction
    · exact ⟨_, _, rfl, fraction⟩
    · cases fraction
  · rintro ⟨digit, others, rfl, decimal⟩
    exact decimal

theorem startsFraction_cons_of_ne {c : Char} (other : c ≠ '.') (rest : List Char) :
    startsFraction (c :: rest) = false := by
  rw [← Bool.not_eq_true, startsFraction_iff]
  rintro ⟨_, _, same, _⟩
  exact other (List.cons.inj same).1

theorem dropLeadingZeros_cons (previous : Option Char) (c : Char) (rest : List Char) :
    dropLeadingZeros previous (c :: rest) =
      if c == '0' && startsNumber previous && startsFraction rest then
        dropLeadingZeros (some c) rest
      else c :: dropLeadingZeros (some c) rest := by
  by_cases fraction : ∃ digit others, rest = '.' :: digit :: others
  · rcases fraction with ⟨digit, others, rfl⟩
    rfl
  · have apart : ∀ digit others, rest = '.' :: digit :: others → False :=
      fun digit others same => fraction ⟨digit, others, same⟩
    rw [dropLeadingZeros, startsFraction, Bool.and_false, if_neg Bool.false_ne_true] <;> exact apart

theorem shortenZeros_cons (previous : Option Char) (c : Char) (rest : List Char) :
    shortenZeros previous 0 (c :: rest) =
      if c == '0' && startsNumber previous && previous != some '-' then
        '0' :: shortenZeros (some c) (zeroTailLength rest) rest
      else c :: shortenZeros (some c) 0 rest := rfl

theorem shortenZeros_skip (previous : Option Char) (skip : Nat) (text : List Char) :
    shortenZeros previous skip text =
      shortenZeros ((text.take skip).getLast?.or previous) 0 (text.drop skip) := by
  induction skip generalizing previous text with
  | zero => rfl
  | succ skip ih =>
      cases text with
      | nil => rfl
      | cons c rest =>
          rw [List.take_succ_cons, or_getLast?_cons, List.drop_succ_cons, ← ih]
          rfl

theorem startsNumber_of_isWordChar {c : Char} (word : isWordChar c = true) :
    startsNumber (some c) = false := by
  simp [startsNumber, word]

inductive SameFront : List Char → List Char → Prop
  | nil : SameFront [] []
  | stop {c text other} : c = '0' ∨ isWordChar c = false → SameFront (c :: text) (c :: other)
  | step {c text other} : SameFront text other → SameFront (c :: text) (c :: other)

theorem sameFront_shortenZeros (previous : Option Char) (text : List Char) :
    SameFront text (shortenZeros previous 0 text) := by
  induction text generalizing previous with
  | nil => exact .nil
  | cons c rest ih =>
      rw [shortenZeros_cons]
      by_cases zero : c = '0'
      · subst zero
        split <;> exact .stop (.inl rfl)
      · rw [if_neg (by simp [zero])]
        exact .step (ih _)

theorem sameFront_dropLeadingZeros {previous : Option Char} (text : List Char)
    (inside : startsNumber previous = false) :
    SameFront text (dropLeadingZeros previous text) := by
  induction text generalizing previous with
  | nil => exact .nil
  | cons c rest ih =>
      rw [dropLeadingZeros_cons, inside, Bool.and_false, Bool.false_and, if_neg Bool.false_ne_true]
      by_cases word : isWordChar c = true
      · exact .step (ih (startsNumber_of_isWordChar word))
      · exact .stop (.inr ((Bool.not_eq_true _).mp word))

def isUnitChar (c : Char) : Bool :=
  isWordChar c && c != '0'

theorem isUnitChar_of_mem_zeroUnits {unit : List Char} (member : unit ∈ zeroUnits) :
    unit.all isUnitChar = true := by
  have all : ∀ unit ∈ zeroUnits, unit.all isUnitChar = true := by decide
  exact all unit member

theorem SameFront.head? {text other : List Char} (same : SameFront text other) :
    text.head? = other.head? := by
  cases same <;> rfl

theorem SameFront.isPrefixOf {text other : List Char} (same : SameFront text other)
    {unit : List Char} (units : unit.all isUnitChar = true) :
    unit.isPrefixOf text = unit.isPrefixOf other ∧
      (unit.isPrefixOf text = true →
        (text.drop unit.length).head? = (other.drop unit.length).head?) := by
  induction unit generalizing text other with
  | nil => exact ⟨rfl, fun _ => same.head?⟩
  | cons u unit ih =>
      rw [List.all_cons, Bool.and_eq_true] at units
      cases same with
      | nil => exact ⟨rfl, fun _ => rfl⟩
      | @stop c text other ends =>
          have apart : (u == c) = false := by
            rw [beq_eq_false_iff_ne]
            rintro rfl
            rw [isUnitChar, Bool.and_eq_true, bne_iff_ne] at units
            rcases ends with zero | other'
            · exact units.1.2 zero
            · exact Bool.false_ne_true (other'.symm.trans units.1.1)
          simp [List.isPrefixOf, apart]
      | step same =>
          rcases ih same units.2 with ⟨prefixes, heads⟩
          rw [List.isPrefixOf, List.isPrefixOf, prefixes]
          refine ⟨rfl, fun found => ?_⟩
          rw [Bool.and_eq_true, ← prefixes] at found
          exact heads found.2

theorem SameFront.zeroUnitLength {text other : List Char} (same : SameFront text other) :
    zeroUnitLength text = zeroUnitLength other := by
  have found : zeroUnits.find? (fun unit => unit.isPrefixOf text) =
      zeroUnits.find? fun unit => unit.isPrefixOf other :=
    List.find?_congr fun unit member =>
      (same.isPrefixOf (isUnitChar_of_mem_zeroUnits member)).1
  rw [Stylesheet.zeroUnitLength, Stylesheet.zeroUnitLength, ← found]
  cases which : zeroUnits.find? fun unit => unit.isPrefixOf text with
  | none => rfl
  | some unit =>
      have units := isUnitChar_of_mem_zeroUnits (List.mem_of_find?_eq_some which)
      have first : unit.isPrefixOf text = true := by simpa using List.find?_some which
      have heads := (same.isPrefixOf units).2 first
      simp only [heads]

theorem zeroUnitLength_cases (text : List Char) :
    zeroUnitLength text = 0 ∨ ∃ unit ∈ zeroUnits, ∃ rest, text = unit ++ rest ∧
      rest.head?.any isWordChar = false ∧ zeroUnitLength text = unit.length := by
  rw [zeroUnitLength]
  cases which : zeroUnits.find? fun unit => unit.isPrefixOf text with
  | none => exact .inl rfl
  | some unit =>
      have first : unit.isPrefixOf text = true := by simpa using List.find?_some which
      rcases List.isPrefixOf_iff_prefix.mp first with ⟨rest, rfl⟩
      by_cases word : rest.head?.any isWordChar = true
      · exact .inl (by simp [word])
      · refine .inr ⟨unit, List.mem_of_find?_eq_some which, rest, rfl, ?_, ?_⟩
        · simpa using word
        · simp [word]

theorem zeroUnitLength_of_not_isWordChar {text : List Char}
    (other : text.head?.any isWordChar = false) : zeroUnitLength text = 0 := by
  rcases zeroUnitLength_cases text with none | ⟨unit, member, rest, rfl, _, _⟩
  · exact none
  · have units := isUnitChar_of_mem_zeroUnits member
    have filled : unit ≠ [] := by
      rintro rfl
      exact absurd member (by decide)
    rcases List.exists_cons_of_ne_nil filled with ⟨u, others, rfl⟩
    rw [List.all_cons, Bool.and_eq_true, isUnitChar, Bool.and_eq_true] at units
    exact absurd (other.symm.trans units.1.1) Bool.false_ne_true

structure Needless (text front : List Char) (last : Char) (rest : List Char) : Prop where
  whole : text = front ++ last :: rest
  inert : front.all isInert = true
  ending : isInert last = true
  word : isWordChar last = true
  apart : rest.head?.any isWordChar = false

theorem exists_needless_of_mem_zeroUnits {unit : List Char} (member : unit ∈ zeroUnits)
    {rest : List Char} (apart : rest.head?.any isWordChar = false) :
    ∃ front last, Needless (unit ++ rest) front last rest ∧ unit.length = front.length + 1 := by
  have units : ∀ unit ∈ zeroUnits, unit.dropLast.all isInert = true ∧
      unit.getLast?.any (fun last => isInert last && isWordChar last) = true := by decide
  rcases units unit member with ⟨inert, last⟩
  rcases List.eq_nil_or_concat unit with rfl | ⟨front, u, rfl⟩
  · simp at last
  · rw [List.concat_eq_append] at inert last ⊢
    rw [List.dropLast_concat] at inert
    rw [List.getLast?_concat, Option.any_some, Bool.and_eq_true] at last
    exact ⟨front, u, ⟨by simp, inert, last.1, last.2, apart⟩, by simp⟩

theorem all_isInert_takeWhile {digits : List Char} :
    (digits.takeWhile (· == '0')).all isInert = true := by
  rw [List.all_eq_true]
  intro c member
  have zero := List.all_eq_true.mp List.all_takeWhile c member
  rw [beq_iff_eq.mp zero]
  decide

theorem zeroTailLength_of_not_point {text : List Char} (other : ¬ ∃ digits, text = '.' :: digits) :
    zeroTailLength text = zeroUnitLength text := by
  rw [zeroTailLength]
  exact fun digits here => other ⟨digits, here⟩

theorem zeroTailLength_cases (text : List Char) :
    (zeroTailLength text = 0 ∧ zeroUnitLength text = 0) ∨ ∃ front last rest,
      Needless text front last rest ∧ zeroTailLength text = front.length + 1 := by
  by_cases pointed : ∃ digits, text = '.' :: digits
  · rcases pointed with ⟨digits, rfl⟩
    have point : ('.' :: digits).head?.any isWordChar = false := by
      rw [List.head?_cons, Option.any_some]
      decide
    have unitless := zeroUnitLength_of_not_isWordChar point
    rw [zeroTailLength]
    split
    · exact .inl ⟨rfl, unitless⟩
    · rename_i long
      rw [not_or] at long
      rcases zeroUnitLength_cases (digits.drop (digits.takeWhile (· == '0')).length) with
        none | ⟨unit, member, rest, same, apart, length⟩
      · exact absurd none long.2
      · rcases exists_needless_of_mem_zeroUnits member apart with ⟨front, last, needless, counted⟩
        rw [← same] at needless
        refine .inr ⟨'.' :: (digits.takeWhile (· == '0') ++ front), last, rest,
          ⟨?_, ?_, needless.ending, needless.word, apart⟩, ?_⟩
        · have taken := List.prefix_iff_eq_take.mp (List.takeWhile_prefix (· == '0') (l := digits))
          rw [List.cons_append, List.append_assoc, ← needless.whole]
          nth_rewrite 1 [taken]
          rw [List.take_append_drop]
        · rw [List.all_cons, List.all_append, all_isInert_takeWhile, needless.inert]
          decide
        · rw [length, counted]
          simp
          omega
  · rw [zeroTailLength_of_not_point pointed]
    rcases zeroUnitLength_cases text with none | ⟨unit, member, rest, rfl, apart, length⟩
    · exact .inl ⟨none, none⟩
    · rcases exists_needless_of_mem_zeroUnits member apart with ⟨front, last, needless, counted⟩
      exact .inr ⟨front, last, rest, needless, length.trans counted⟩

theorem shortenZeros_cases (previous : Option Char) (c : Char) (text : List Char) :
    (shortenZeros previous 0 (c :: text) = c :: shortenZeros (some c) 0 text ∧
      (c = '0' → startsNumber previous = true → previous ≠ some '-' →
        zeroUnitLength text = 0)) ∨
    ∃ front last rest, c = '0' ∧ Needless text front last rest ∧
      shortenZeros previous 0 (c :: text) = '0' :: shortenZeros (some last) 0 rest := by
  rw [shortenZeros_cons]
  by_cases zero : (c == '0' && startsNumber previous && previous != some '-') = true
  · rw [if_pos zero]
    obtain rfl : c = '0' := by simp_all
    rcases zeroTailLength_cases text with ⟨none, unitless⟩ | ⟨front, last, rest, needless, length⟩
    · rw [none]
      exact .inl ⟨rfl, fun _ _ _ => unitless⟩
    · refine .inr ⟨front, last, rest, rfl, needless, ?_⟩
      have whole : text = (front ++ [last]) ++ rest := by simp [needless.whole]
      have counted : front.length + 1 = (front ++ [last]).length := by simp
      have taken : text.take (front.length + 1) = front ++ [last] := by
        rw [whole, List.take_left' counted.symm]
      have left : text.drop (front.length + 1) = rest := by
        rw [whole, List.drop_left' counted.symm]
      rw [length, shortenZeros_skip, taken, left, List.getLast?_concat]
      rfl
  · rw [if_neg zero]
    refine .inl ⟨rfl, ?_⟩
    rintro rfl starts other
    exact absurd (by simp [starts, other]) zero

def UnitFree : Option Char → List Char → Prop
  | _, [] => True
  | previous, c :: rest =>
      (c = '0' → startsNumber previous = true → previous ≠ some '-' → zeroUnitLength rest = 0) ∧
        UnitFree (some c) rest

def Brief : Option Char → List Char → Prop
  | _, [] => True
  | previous, c :: rest =>
      (c = '0' → startsNumber previous = true → startsFraction rest = false ∧
        (previous ≠ some '-' → zeroUnitLength rest = 0)) ∧ Brief (some c) rest

theorem isNameChar_of_isWordChar {c : Char} (word : isWordChar c = true) :
    isNameChar c = true := by
  rw [isWordChar, Bool.or_eq_true] at word
  rcases word with score | letter
  · simp [isNameChar, beq_iff_eq.mp score]
  · simp [isNameChar, letter]

theorem abridged_shortenZeros (previous : Option Char) (text : List Char) :
    Abridged text (shortenZeros previous 0 text) := by
  match text with
  | [] => exact .nil
  | c :: text =>
      rcases shortenZeros_cases previous c text with
        ⟨kept, _⟩ | ⟨front, last, rest, rfl, needless, cut⟩
      · rw [kept]
        exact .keep (abridged_shortenZeros (some c) text)
      · rw [cut, needless.whole]
        exact .unit needless.inert needless.ending (isNameChar_of_isWordChar needless.word)
          (abridged_shortenZeros (some last) rest)
termination_by text.length
decreasing_by
  · simp
  · simp [needless.whole]
    omega

theorem dropLeadingZeros_cases (previous : Option Char) (c : Char) (text : List Char) :
    (dropLeadingZeros previous (c :: text) = c :: dropLeadingZeros (some c) text ∧
      (c = '0' → startsNumber previous = true → startsFraction text = false)) ∨
    ∃ rest, c = '0' ∧ text = '.' :: rest ∧
      dropLeadingZeros previous (c :: text) = '.' :: dropLeadingZeros (some '.') rest := by
  rw [dropLeadingZeros_cons]
  by_cases zero : (c == '0' && startsNumber previous && startsFraction text) = true
  · rw [if_pos zero]
    simp only [Bool.and_eq_true, beq_iff_eq] at zero
    rcases zero with ⟨⟨rfl, _⟩, fraction⟩
    rcases startsFraction_iff.mp fraction with ⟨digit, others, rfl, _⟩
    refine .inr ⟨digit :: others, rfl, rfl, ?_⟩
    rw [dropLeadingZeros_cons, if_neg (by simp)]
  · rw [if_neg zero]
    refine .inl ⟨rfl, ?_⟩
    rintro rfl starts
    simpa [starts] using zero

theorem abridged_dropLeadingZeros (previous : Option Char) (text : List Char) :
    Abridged text (dropLeadingZeros previous text) := by
  match text with
  | [] => exact .nil
  | c :: text =>
      rcases dropLeadingZeros_cases previous c text with ⟨kept, _⟩ | ⟨rest, rfl, rfl, cut⟩
      · rw [kept]
        exact .keep (abridged_dropLeadingZeros (some c) text)
      · rw [cut]
        exact .point (abridged_dropLeadingZeros (some '.') rest)
termination_by text.length

theorem UnitFree.inside {previous other : Option Char} {text : List Char}
    (free : UnitFree previous text) (inside : startsNumber other = false) : UnitFree other text := by
  cases text with
  | nil => trivial
  | cons c rest => exact ⟨fun _ starts => absurd (inside.symm.trans starts) Bool.false_ne_true, free.2⟩

theorem unitFree_shortenZeros (previous : Option Char) (text : List Char) :
    UnitFree previous (shortenZeros previous 0 text) := by
  match text with
  | [] => trivial
  | c :: text =>
      rcases shortenZeros_cases previous c text with
        ⟨kept, unitless⟩ | ⟨front, last, rest, rfl, needless, cut⟩
      · rw [kept]
        refine ⟨?_, unitFree_shortenZeros (some c) text⟩
        rwa [← (sameFront_shortenZeros (some c) text).zeroUnitLength]
      · -- Behind the unit the text may be shorter too, but its front is what decides.
        rw [cut]
        refine ⟨fun _ _ _ => ?_, (unitFree_shortenZeros (some last) rest).inside (by decide)⟩
        rw [← (sameFront_shortenZeros (some last) rest).zeroUnitLength]
        exact zeroUnitLength_of_not_isWordChar needless.apart
termination_by text.length
decreasing_by
  · simp
  · simp [needless.whole]
    omega

theorem startsFraction_dropLeadingZeros {previous : Option Char}
    (inside : startsNumber previous = false) (text : List Char) :
    startsFraction (dropLeadingZeros previous text) = startsFraction text := by
  cases text with
  | nil => rfl
  | cons c rest =>
      rw [dropLeadingZeros_cons, inside, Bool.and_false, Bool.false_and, if_neg Bool.false_ne_true]
      by_cases point : c = '.'
      · subst point
        have behind : startsNumber (some '.') = false := by decide
        cases rest with
        | nil => rfl
        | cons digit others =>
            rw [dropLeadingZeros_cons, behind, Bool.and_false, Bool.false_and, if_neg Bool.false_ne_true]
            rfl
      · rw [startsFraction_cons_of_ne point, startsFraction_cons_of_ne point]

theorem brief_dropLeadingZeros {previous : Option Char} {text : List Char}
    (free : UnitFree previous text) : Brief previous (dropLeadingZeros previous text) := by
  match text with
  | [] => trivial
  | c :: text =>
      rcases dropLeadingZeros_cases previous c text with ⟨kept, whole⟩ | ⟨rest, rfl, rfl, cut⟩
      · rw [kept]
        refine ⟨?_, brief_dropLeadingZeros free.2⟩
        rintro rfl starts
        have inside : startsNumber (some '0') = false := by decide
        rw [startsFraction_dropLeadingZeros inside,
          ← (sameFront_dropLeadingZeros text inside).zeroUnitLength]
        exact ⟨whole rfl starts, free.1 rfl starts⟩
      · rw [cut]
        exact ⟨by simp, brief_dropLeadingZeros free.2.2⟩
termination_by text.length

theorem zeroTailLength_eq_zero {text : List Char} (whole : startsFraction text = false)
    (unitless : zeroUnitLength text = 0) : zeroTailLength text = 0 := by
  by_cases pointed : ∃ digits, text = '.' :: digits
  · rcases pointed with ⟨digits, rfl⟩
    have none : digits.takeWhile (· == '0') = [] := by
      cases digits with
      | nil => rfl
      | cons digit others =>
          refine List.takeWhile_cons_of_neg ?_
          rw [beq_iff_eq]
          rintro rfl
          have decimal : isDecimalDigit '0' = true := by decide
          exact Bool.false_ne_true (whole.symm.trans decimal)
    rw [zeroTailLength, none]
    exact if_pos (.inl rfl)
  · exact (zeroTailLength_of_not_point pointed).trans unitless

theorem Brief.shortenZeros {previous : Option Char} {text : List Char}
    (brief : Brief previous text) : shortenZeros previous 0 text = text := by
  induction text generalizing previous with
  | nil => rfl
  | cons c rest ih =>
      rw [shortenZeros_cons]
      split
      · rename_i zero
        simp only [Bool.and_eq_true, beq_iff_eq, bne_iff_ne] at zero
        rcases zero with ⟨⟨rfl, starts⟩, other⟩
        rcases brief.1 rfl starts with ⟨whole, unitless⟩
        rw [zeroTailLength_eq_zero whole (unitless other), ih brief.2]
      · rw [ih brief.2]

theorem Brief.dropLeadingZeros {previous : Option Char} {text : List Char}
    (brief : Brief previous text) : dropLeadingZeros previous text = text := by
  induction text generalizing previous with
  | nil => rfl
  | cons c rest ih =>
      rw [dropLeadingZeros_cons, ih brief.2, if_neg]
      simp only [Bool.and_eq_true, beq_iff_eq]
      rintro ⟨⟨rfl, starts⟩, fraction⟩
      exact Bool.false_ne_true ((brief.1 rfl starts).1.symm.trans fraction)

end DesignTokens.Stylesheet
