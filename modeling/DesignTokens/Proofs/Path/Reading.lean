import DesignTokens.Path.Basic
import DesignTokens.Proofs.Text.Blank

/-!
A text in the shape of a path can be read as one.  Reading drops blanks at the
ends, and a path text has at most one: a line break after its last segment.  The
dotted text of a path is the text it was read from, without these blanks.
-/

namespace DesignTokens

theorem not_isBlank_of_isSegmentChar (c : Char) (allowed : isSegmentChar c = true) :
    isBlank c = false := by
  simp only [isSegmentChar, isAsciiLetter, isAsciiLower, isAsciiUpper, isAsciiDigit,
    Bool.or_eq_true, Bool.and_eq_true, decide_eq_true_eq, beq_iff_eq, Char.le_def,
    UInt32.le_iff_toNat_le, or_assoc] at allowed
  have code : 45 ≤ c.toNat ∧ c.toNat ≤ 122 := by
    rcases allowed with small | capital | digit | rfl | rfl
    · change 97 ≤ c.toNat ∧ c.toNat ≤ 122 at small
      omega
    · change 65 ≤ c.toNat ∧ c.toNat ≤ 90 at capital
      omega
    · change 48 ≤ c.toNat ∧ c.toNat ≤ 57 at digit
      omega
    · decide
    · decide
  simp only [isBlank, Bool.or_eq_false_iff, Bool.and_eq_false_iff, decide_eq_false_iff_not,
    beq_eq_false_iff_ne]
  omega

def segmentBody (text : List Char) : List Char :=
  (dropTail ['\n'] text).getD text

theorem isSegment_ofList (text : List Char) :
    isSegment (String.ofList text) =
      (!(segmentBody text).isEmpty && (segmentBody text).all isSegmentChar) := by
  simp [isSegment, segmentBody]

theorem segmentBody_concat (text : List Char) (c : Char) :
    segmentBody (text ++ [c]) = if c = '\n' then text else text ++ [c] := by
  by_cases lineBreak : c = '\n'
  · simp [segmentBody, dropTail, dropLead, lineBreak]
  · have other : '\n' ≠ c := Ne.symm lineBreak
    simp [segmentBody, dropTail, dropLead, lineBreak, other]

theorem isSegmentChar_or_lineBreak {segment : String} (valid : isSegment segment = true) {c : Char}
    (member : c ∈ segment.toList) : isSegmentChar c = true ∨ c = '\n' := by
  rw [← @String.ofList_toList segment, isSegment_ofList, Bool.and_eq_true,
    List.all_eq_true] at valid
  rcases valid with ⟨_, allowed⟩
  rcases List.eq_nil_or_concat segment.toList with empty | ⟨front, last, text⟩
  · rw [empty] at member
    exact absurd member List.not_mem_nil
  · rw [text, List.concat_eq_append] at allowed member
    rw [segmentBody_concat] at allowed
    split at allowed
    · rename_i lineBreak
      rcases List.mem_append.mp member with inside | ending
      · exact .inl (allowed c inside)
      · exact .inr ((List.mem_singleton.mp ending).trans lineBreak)
    · exact .inl (allowed c member)

theorem dot_not_mem_of_isSegment {segment : String} (valid : isSegment segment = true) :
    '.' ∉ segment.toList := by
  intro inside
  rcases isSegmentChar_or_lineBreak valid inside with allowed | lineBreak
  · exact absurd allowed (by decide)
  · exact absurd lineBreak (by decide)

theorem isSegmentChar_head (c : Char) (rest : List Char)
    (valid : isSegment (String.ofList (c :: rest)) = true) : isSegmentChar c = true := by
  rw [isSegment_ofList] at valid
  rcases List.eq_nil_or_concat rest with rfl | ⟨front, last, rfl⟩
  · have body := segmentBody_concat [] c
    by_cases lineBreak : c = '\n'
    · simp_all
    · simp_all
  · have body := segmentBody_concat (c :: front) last
    rw [List.concat_eq_append, ← List.cons_append] at valid
    rw [body] at valid
    split at valid <;> simp_all

theorem not_isSegment_empty : isSegment (String.ofList []) ≠ true := by
  rw [isSegment_ofList]
  decide

theorem isSegment_of_isSegmentChar (front : List Char) (c : Char)
    (allowed : ∀ other ∈ front ++ [c], isSegmentChar other = true) :
    isSegment (String.ofList (front ++ [c])) = true := by
  have last := allowed c (by simp)
  have other : c ≠ '\n' := by
    rintro rfl
    exact absurd last (by decide)
  rw [isSegment_ofList, segmentBody_concat, if_neg other, List.all_eq_true.mpr allowed]
  simp

def Segmented (text : List Char) : Prop :=
  ∀ part ∈ splitWhere (· == '.') text, isSegment (String.ofList part) = true

theorem Segmented.ne_nil {text : List Char} (segmented : Segmented text) : text ≠ [] := by
  rintro rfl
  exact not_isSegment_empty (segmented [] (by simp [splitWhere]))

theorem Segmented.head_not_blank {c : Char} {rest : List Char}
    (segmented : Segmented (c :: rest)) : isBlank c = false := by
  by_cases dot : c = '.'
  · subst dot
    decide
  · rcases splitWhere_cons_inner (· == '.') c rest (by simpa using dot) with
      ⟨part, parts, _, split⟩
    have first := segmented (c :: part) (by simp [split])
    exact not_isBlank_of_isSegmentChar c (isSegmentChar_head c part first)

theorem Segmented.before_break {text : List Char} (segmented : Segmented (text ++ ['\n'])) :
    Segmented text ∧ ∃ front last, text = front ++ [last] ∧ isBlank last = false := by
  rcases splitWhere_concat_inner (· == '.') '\n' (by decide) text with
    ⟨parts, part, before, after⟩
  have ending := segmented (part ++ ['\n']) (by simp [after])
  rw [isSegment_ofList, segmentBody_concat, if_pos rfl, Bool.and_eq_true, List.all_eq_true]
    at ending
  rcases ending with ⟨nonempty, allowed⟩
  rcases List.eq_nil_or_concat text with rfl | ⟨front, last, rfl⟩
  · have same := (@List.append_inj' _ [] _ _ _ before rfl).2
    simp_all
  · rw [List.concat_eq_append] at before after ⊢
    by_cases dot : last = '.'
    · rw [splitWhere_concat_separator _ last (by simpa using dot)] at before
      have same := (List.append_inj' before rfl).2
      simp_all
    · rcases splitWhere_concat_inner (· == '.') last (by simpa using dot) front with
        ⟨others, start, _, split⟩
      rw [split] at before
      rcases List.append_inj' before rfl with ⟨rfl, same⟩
      have partEq : part = start ++ [last] := by simpa using same.symm
      subst partEq
      refine ⟨?_, front, last, rfl, not_isBlank_of_isSegmentChar last (allowed last (by simp))⟩
      intro piece member
      rw [split, List.mem_append, List.mem_singleton] at member
      rcases member with earlier | rfl
      · exact segmented piece (by rw [List.concat_eq_append, after]; simp [earlier])
      · exact isSegment_of_isSegmentChar start last allowed

theorem Segmented.last_not_blank {front : List Char} {c : Char}
    (segmented : Segmented (front ++ [c])) (other : c ≠ '\n') : isBlank c = false := by
  by_cases dot : c = '.'
  · subst dot
    decide
  · rcases splitWhere_concat_inner (· == '.') c (by simpa using dot) front with
      ⟨parts, last, _, split⟩
    have ending := segmented (last ++ [c]) (by simp [split])
    rw [isSegment_ofList, segmentBody_concat, if_neg other, Bool.and_eq_true,
      List.all_eq_true] at ending
    exact not_isBlank_of_isSegmentChar c (ending.2 c (by simp))

theorem Segmented.trim {text : List Char} (segmented : Segmented text) :
    Segmented (trim text) := by
  cases text with
  | nil => exact absurd rfl segmented.ne_nil
  | cons c rest =>
      have start : (c :: rest).dropWhile isBlank = c :: rest := by
        rw [List.dropWhile_cons, segmented.head_not_blank]
        rfl
      unfold DesignTokens.trim trimWhere
      rw [start]
      rcases List.eq_nil_or_concat (c :: rest) with empty | ⟨front, last, split⟩
      · simp at empty
      · rw [split, List.concat_eq_append] at segmented ⊢
        rw [trimEndWhere_concat]
        by_cases lineBreak : last = '\n'
        · subst lineBreak
          rcases segmented.before_break with ⟨shorter, before, final, rfl, visible⟩
          have blank : isBlank '\n' = true := by decide
          rw [if_pos blank, trimEndWhere_concat, visible]
          exact shorter
        · rw [segmented.last_not_blank lineBreak]
          exact segmented

theorem isPathText_iff (text : String) : isPathText text = true ↔ Segmented text.toList := by
  simp only [isPathText, splitAtChar, Bool.and_eq_true, List.all_map, List.all_eq_true,
    Function.comp_apply, Segmented]
  constructor
  · exact fun shaped => shaped.2
  · intro segmented
    refine ⟨?_, segmented⟩
    have nonempty := Segmented.ne_nil segmented
    simpa using nonempty

theorem parse_ok_of_isPathText {text : String} (shaped : isPathText text = true) :
    ∃ path, Path.parse text = .ok path := by
  have segmented := ((isPathText_iff text).mp shaped).trim
  have nonempty : (trimmed text).isEmpty = false := by
    have characters := segmented.ne_nil
    simpa [trimmed] using characters
  have segments : splitAtChar '.' (trimmed text) ≠ [] ∧
      ∀ segment ∈ splitAtChar '.' (trimmed text), isSegment segment = true := by
    constructor
    · simpa [splitAtChar] using splitWhere_ne_nil (· == '.') (trimmed text).toList
    · intro segment member
      simp only [splitAtChar, trimmed, String.toList_ofList, List.mem_map] at member
      rcases member with ⟨part, found, rfl⟩
      exact segmented part found
  refine ⟨⟨splitAtChar '.' (trimmed text), segments.1, segments.2⟩, ?_⟩
  simp only [Path.parse, nonempty, Path.ofSegments, dif_pos segments]
  rfl

namespace Path

theorem eq_of_segments {path other : Path} (same : path.segments = other.segments) :
    path = other := by
  cases path
  cases other
  cases same
  rfl

variable {name : String}

theorem single_ne_nil : [name] ≠ [] :=
  List.cons_ne_nil name []

theorem single_valid (valid : isSegment name = true) :
    ∀ segment ∈ [name], isSegment segment = true :=
  List.forall_mem_singleton.mpr valid

def single (name : String) (valid : isSegment name = true) : Path :=
  ⟨[name], single_ne_nil, single_valid valid⟩

theorem segments_of_parse {text : String} {path : Path} (read : parse text = .ok path) :
    path.segments = splitAtChar '.' (trimmed text) := by
  unfold parse at read
  dsimp only at read
  split at read
  · cases read
  · unfold ofSegments at read
    split at read
    · rw [← Except.ok.inj read]
    · split at read
      · cases read
      · split at read <;> cases read

theorem dotted_of_parse {text : String} {path : Path} (read : parse text = .ok path) :
    path.dotted = trimmed text := by
  have joined := intercalate_splitWhere '.' (trimmed text).toList
  rw [dotted, segments_of_parse read, ← String.toList_inj, String.toList_intercalate, splitAtChar,
    List.map_map]
  simpa [Function.comp_def] using joined

end Path

end DesignTokens
