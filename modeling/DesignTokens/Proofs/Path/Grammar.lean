import DesignTokens.Proofs.Path.Reading
import DesignTokens.Proofs.Text.Blank

/-!
Which texts are paths, and which paths are read back from their dotted text.  A line break may
follow the characters of a segment; where it ends the last one, reading drops it as a blank.
-/

namespace DesignTokens

def IsWord (text : String) : Prop :=
  text ≠ "" ∧ ∀ c ∈ text.toList, isSegmentChar c = true

def DotSeparated (part : String → Prop) (text : String) : Prop :=
  ∃ parts : List String, parts ≠ [] ∧ (∀ segment ∈ parts, part segment) ∧
    text = ".".intercalate parts

theorem IsWord.lineBreak_not_mem {text : String} (word : IsWord text) : '\n' ∉ text.toList :=
  fun inside => absurd (word.2 '\n' inside) (by decide)

theorem IsWord.exists_concat {text : String} (word : IsWord text) :
    ∃ front last, text.toList = front ++ [last] ∧ isSegmentChar last = true := by
  rcases List.eq_nil_or_concat text.toList with empty | ⟨front, last, split⟩
  · exact absurd (String.toList_eq_nil_iff.mp empty) word.1
  · rw [List.concat_eq_append] at split
    exact ⟨front, last, split, word.2 last (by simp [split])⟩

theorem isSegment_iff {text : String} :
    isSegment text = true ↔ IsWord text ∨ ∃ word, IsWord word ∧ text = word ++ "\n" := by
  constructor
  · intro valid
    rcases List.eq_nil_or_concat text.toList with empty | ⟨front, last, split⟩
    · rw [← @String.ofList_toList text, empty] at valid
      exact absurd valid not_isSegment_empty
    · rw [List.concat_eq_append] at split
      rw [← @String.ofList_toList text, split, isSegment_ofList, segmentBody_concat,
        Bool.and_eq_true, List.all_eq_true] at valid
      by_cases lineBreak : last = '\n'
      · rw [if_pos lineBreak] at valid
        refine Or.inr ⟨String.ofList front, ⟨by simpa using valid.1, by simpa using valid.2⟩, ?_⟩
        rw [← String.toList_inj, split, lineBreak, String.toList_append, String.toList_ofList]
        rfl
      · rw [if_neg lineBreak, ← split] at valid
        exact Or.inl ⟨by simpa using valid.1, valid.2⟩
  · rintro (word | ⟨word, spelled, rfl⟩)
    · rcases word.exists_concat with ⟨front, last, split, _⟩
      have allowed := word.2
      rw [split] at allowed
      rw [← @String.ofList_toList text, split]
      exact isSegment_of_isSegmentChar front last allowed
    · have ended : (word ++ "\n").toList = word.toList ++ ['\n'] := String.toList_append
      rw [← @String.ofList_toList (word ++ "\n"), ended, isSegment_ofList, segmentBody_concat,
        if_pos rfl, List.all_eq_true.mpr spelled.2]
      simpa using spelled.1

namespace Path

theorem splitAtChar_intercalate {segments : List String} (filled : segments ≠ [])
    (valid : ∀ segment ∈ segments, isSegment segment = true) :
    splitAtChar '.' (".".intercalate segments) = segments := by
  have split : (['.'].intercalate (segments.map String.toList)).splitOn '.' =
      segments.map String.toList := by
    refine List.splitOn_intercalate '.' ?_ (by simpa using filled)
    intro text listed
    obtain ⟨segment, member, rfl⟩ := List.mem_map.mp listed
    exact dot_not_mem_of_isSegment (valid segment member)
  rw [splitAtChar, String.toList_intercalate, splitWhere_eq_splitOnP]
  change ((['.'].intercalate (segments.map String.toList)).splitOn '.').map String.ofList = _
  rw [split, List.map_map]
  simp [Function.comp_def]

theorem ofSegments_segments (path : Path) : ofSegments path.segments = .ok path := by
  rw [ofSegments, dif_pos ⟨path.nonempty, path.valid⟩]

theorem dotted_ne_empty (path : Path) : path.dotted ≠ "" := by
  intro empty
  have split := splitAtChar_intercalate path.nonempty path.valid
  have single : path.segments = [""] := by
    rw [← split]
    change splitAtChar '.' path.dotted = _
    rw [empty]
    rfl
  exact not_isSegment_empty (path.valid "" (by simp [single]))

/-- A text is read as the path whose dotted text it is when its blanks are dropped. -/
theorem parse_eq_ok_iff {raw : String} {path : Path} :
    parse raw = .ok path ↔ path.dotted = trimmed raw := by
  constructor
  · exact dotted_of_parse
  · intro same
    have filled : (trimmed raw).isEmpty = false := by
      rw [← same]
      simpa using path.dotted_ne_empty
    have split : splitAtChar '.' (trimmed raw) = path.segments := by
      rw [← same]
      exact splitAtChar_intercalate path.nonempty path.valid
    rw [parse]
    simp only [filled, split, ofSegments_segments]
    rfl

theorem parse_dotted_of_parse {raw : String} {path : Path} (read : parse raw = .ok path) :
    parse path.dotted = .ok path := by
  rw [parse_eq_ok_iff, parse_eq_ok_iff.mp read, trimmed, trimmed, String.toList_ofList, trim_trim]

theorem exists_parse_iff {raw : String} :
    (∃ path, parse raw = .ok path) ↔ DotSeparated (isSegment · = true) (trimmed raw) := by
  constructor
  · rintro ⟨path, read⟩
    exact ⟨path.segments, path.nonempty, path.valid, (parse_eq_ok_iff.mp read).symm⟩
  · rintro ⟨segments, filled, valid, same⟩
    exact ⟨⟨segments, filled, valid⟩, parse_eq_ok_iff.mpr same.symm⟩

theorem segmented_dotted (path : Path) : Segmented path.dotted.toList := by
  intro part member
  have split := splitAtChar_intercalate path.nonempty path.valid
  refine path.valid _ ?_
  rw [← split]
  exact List.mem_map_of_mem member

theorem exists_intercalate_concat (between : List Char) (texts : List (List Char))
    (last : List Char) : ∃ front, between.intercalate (texts ++ [last]) = front ++ last := by
  induction texts with
  | nil => exact ⟨[], by simp⟩
  | cons first rest ih =>
      rcases ih with ⟨front, joined⟩
      refine ⟨first ++ between ++ front, ?_⟩
      cases rest with
      | nil => simpa using joined
      | cons second rest =>
          rw [List.cons_append, List.cons_append, List.intercalate_cons_cons, ← List.cons_append,
            joined]
          simp

theorem exists_name (path : Path) : ∃ front, path.dotted.toList = front ++ path.name.toList := by
  have split := List.dropLast_append_getLast path.nonempty
  rcases exists_intercalate_concat ['.'] (path.segments.dropLast.map String.toList)
    path.name.toList with ⟨front, joined⟩
  refine ⟨front, ?_⟩
  rw [dotted, String.toList_intercalate, ← joined, ← split]
  simp [name]

/-- A path is read back from its dotted text unless a line break stands at the end of it. -/
theorem parse_dotted_iff (path : Path) : parse path.dotted = .ok path ↔ IsWord path.name := by
  rcases path.exists_name with ⟨front, ending⟩
  rw [parse_eq_ok_iff]
  constructor
  · intro same
    rcases isSegment_iff.mp (path.valid _ (List.getLast_mem path.nonempty)) with
      word | ⟨word, _, broken⟩
    · exact word
    -- Otherwise the dotted text ends in a line break, which reading drops.
    · have last : '\n' ∈ (trim path.dotted.toList).getLast? := by
        have kept := congrArg String.toList same
        rw [trimmed, String.toList_ofList] at kept
        change path.name = _ at broken
        rw [← kept, ending, broken]
        simp
      exact absurd (not_isBlank_of_mem_getLast?_trim last) (by decide)
  · intro word
    rcases word.exists_concat with ⟨start, c, split, allowed⟩
    rw [trimmed, trim_eq_self, String.ofList_toList]
    · intro first member
      have segmented := path.segmented_dotted
      rcases List.head?_eq_some_iff.mp member with ⟨rest, text⟩
      rw [text] at segmented
      exact segmented.head_not_blank
    · intro last member
      rw [ending, split] at member
      obtain rfl : c = last := by simpa using member
      exact not_isBlank_of_isSegmentChar c allowed

theorem mem_intercalate_dot {c : Char} (other : c ≠ '.') (texts : List String) :
    c ∈ (".".intercalate texts).toList ↔ ∃ text ∈ texts, c ∈ text.toList := by
  rw [String.toList_intercalate]
  induction texts with
  | nil => simp
  | cons first rest ih =>
      cases rest with
      | nil => simp
      | cons second rest =>
          rw [List.map_cons] at ih ⊢
          rw [List.map_cons, List.intercalate_cons_cons, List.mem_append, List.mem_append, ih]
          simp [other]

theorem lineBreak_mem_dotted_iff (path : Path) :
    '\n' ∈ path.dotted.toList ↔ ∃ segment ∈ path.segments, '\n' ∈ segment.toList :=
  mem_intercalate_dot (by decide) path.segments

theorem isWord_iff (path : Path) :
    (∀ segment ∈ path.segments, IsWord segment) ↔ '\n' ∉ path.dotted.toList := by
  rw [lineBreak_mem_dotted_iff]
  constructor
  · rintro words ⟨segment, member, inside⟩
    exact (words segment member).lineBreak_not_mem inside
  · intro calm segment member
    rcases isSegment_iff.mp (path.valid segment member) with word | ⟨word, _, rfl⟩
    · exact word
    · exact absurd ⟨_, member, by simp⟩ calm

theorem mem_of_parse {raw : String} {path : Path} (read : parse raw = .ok path) {c : Char}
    (inside : c ∈ path.dotted.toList) : c ∈ raw.toList := by
  rw [parse_eq_ok_iff.mp read, trimmed, String.toList_ofList] at inside
  exact mem_of_mem_trim inside

/-- The paths that the given texts lead to: read from one of them or from several joined,
extended by one of them, or left short of the last segment. -/
inductive Obtained (given : String → Prop) : Path → Prop where
  | parse {raw : String} {path : Path} (text : given raw) (read : Path.parse raw = .ok path) :
      Obtained given path
  | join {segments : List String} {path : Path} (texts : ∀ segment ∈ segments, given segment)
      (read : Path.join segments = .ok path) : Obtained given path
  | child {path longer : Path} {segment : String} (start : Obtained given path)
      (text : given segment) (read : path.child segment = .ok longer) : Obtained given longer
  | parent {path shorter : Path} (start : Obtained given path)
      (left : path.parent? = some shorter) : Obtained given shorter

theorem lineBreak_mem_of_join {segments : List String} {path : Path}
    (read : join segments = .ok path) (inside : '\n' ∈ path.dotted.toList) :
    ∃ segment ∈ segments, '\n' ∈ segment.toList :=
  (mem_intercalate_dot (by decide) segments).mp (mem_of_parse read inside)

theorem segments_of_parent? {path shorter : Path} (left : path.parent? = some shorter) :
    shorter.segments = path.segments.dropLast := by
  rw [parent?] at left
  split at left
  · rw [← Option.some.inj left]
    rfl
  · exact absurd left (by simp)

/-- A line break in a path stands in one of the texts that led to it. -/
theorem Obtained.lineBreak_mem {given : String → Prop} {path : Path}
    (obtained : Obtained given path) (inside : '\n' ∈ path.dotted.toList) :
    ∃ text, given text ∧ '\n' ∈ text.toList := by
  induction obtained with
  | parse text read => exact ⟨_, text, mem_of_parse read inside⟩
  | join texts read =>
      rcases lineBreak_mem_of_join read inside with ⟨segment, member, broken⟩
      exact ⟨segment, texts segment member, broken⟩
  | @child path longer segment start text read ih =>
      rcases lineBreak_mem_of_join read inside with ⟨other, member, broken⟩
      rcases List.mem_append.mp member with before | added
      · exact ih (path.lineBreak_mem_dotted_iff.mpr ⟨other, before, broken⟩)
      · exact ⟨segment, text, List.mem_singleton.mp added ▸ broken⟩
  | @parent path shorter start left ih =>
      rcases shorter.lineBreak_mem_dotted_iff.mp inside with ⟨segment, member, broken⟩
      rw [segments_of_parent? left] at member
      exact ih (path.lineBreak_mem_dotted_iff.mpr
        ⟨segment, (List.dropLast_sublist _).subset member, broken⟩)

theorem exists_parse_word_iff {raw : String} :
    (∃ path, parse raw = .ok path ∧ '\n' ∉ path.dotted.toList) ↔
      DotSeparated IsWord (trimmed raw) := by
  constructor
  · rintro ⟨path, read, calm⟩
    exact ⟨path.segments, path.nonempty, path.isWord_iff.mpr calm, (parse_eq_ok_iff.mp read).symm⟩
  · rintro ⟨segments, filled, words, same⟩
    let path : Path := ⟨segments, filled, fun segment member =>
      isSegment_iff.mpr (Or.inl (words segment member))⟩
    exact ⟨path, parse_eq_ok_iff.mpr same.symm, path.isWord_iff.mp words⟩

end Path

/-- The segments of a path are words, but for a line break that may follow one; it is read back
from its dotted text when the last of them has none.  A text is a path exactly when, without the
blanks around it, it is a list of such segments. -/
theorem path_grammar {given : String → Prop} {path : Path} (obtained : path.Obtained given)
    (raw : String) :
    (∀ segment ∈ path.segments,
      IsWord segment ∨ ∃ word, IsWord word ∧ segment = word ++ "\n") ∧
    (Path.parse path.dotted = .ok path ↔ IsWord path.name) ∧
    ((∀ segment ∈ path.segments, IsWord segment) ∧ Path.parse path.dotted = .ok path ↔
      '\n' ∉ path.dotted.toList) ∧
    ((∀ text, given text → '\n' ∉ text.toList) → '\n' ∉ path.dotted.toList) ∧
    ((∃ read, Path.parse raw = .ok read) ↔
      DotSeparated (fun segment => IsWord segment ∨ ∃ word, IsWord word ∧ segment = word ++ "\n")
        (trimmed raw)) ∧
    (((∃ read, Path.parse raw = .ok read) ↔ DotSeparated IsWord (trimmed raw)) ↔
      ∀ read, Path.parse raw = .ok read → '\n' ∉ read.dotted.toList) := by
  refine ⟨fun segment member => isSegment_iff.mp (path.valid segment member),
    path.parse_dotted_iff, ?_, ?_, ?_, ?_⟩
  · rw [path.parse_dotted_iff, path.isWord_iff]
    exact and_iff_left_of_imp fun calm =>
      path.isWord_iff.mpr calm _ (List.getLast_mem path.nonempty)
  · intro calm inside
    rcases obtained.lineBreak_mem inside with ⟨text, member, broken⟩
    exact calm text member broken
  · simpa only [isSegment_iff] using Path.exists_parse_iff
  · rw [← Path.exists_parse_word_iff]
    constructor
    · intro agree read found
      obtain ⟨other, again, calm⟩ := agree.mp ⟨read, found⟩
      rwa [Except.ok.inj (found.symm.trans again)]
    · intro calm
      exact ⟨fun ⟨read, found⟩ => ⟨read, found, calm read found⟩,
        fun ⟨read, found, _⟩ => ⟨read, found⟩⟩

theorem path_grammar_child :
    ∃ path : Path, path.dotted = "color.primary" ∧ (∀ segment ∈ path.segments, IsWord segment) ∧
      Path.parse path.dotted = .ok path ∧ DotSeparated IsWord (trimmed " color.text\t") := by
  let color : Path := ⟨["color"], by decide, by decide⟩
  let path : Path := ⟨["color", "primary"], by decide, by decide⟩
  have obtained : path.Obtained (· ∈ ["color", "primary"]) :=
    .child (.parse (by decide) (rfl : Path.parse "color" = .ok color))
      (by decide : "primary" ∈ ["color", "primary"]) rfl
  let other : Path := ⟨["color", "text"], by decide, by decide⟩
  have read : Path.parse " color.text\t" = .ok other := rfl
  rcases path_grammar obtained " color.text\t" with ⟨_, _, whole, kept, _, agree⟩
  rcases whole.mpr (kept (by decide)) with ⟨words, again⟩
  refine ⟨path, rfl, words, again, (agree.mpr ?_).mp ⟨other, read⟩⟩
  intro found same
  obtain rfl : other = found := Except.ok.inj (read.symm.trans same)
  decide

/-- With a line break before the dot the text is a path all the same, and the group of that path
is not read back from its dotted text. -/
theorem path_grammar_lineBreak :
    ∃ path shorter : Path, Path.parse "a\n.b" = .ok path ∧ path.parent? = some shorter ∧
      "a\n" ∈ path.segments ∧ ¬ IsWord "a\n" ∧ Path.parse shorter.dotted ≠ .ok shorter ∧
      ¬ DotSeparated IsWord (trimmed "a\n.b") := by
  let path : Path := ⟨["a\n", "b"], by decide, by decide⟩
  let shorter : Path := ⟨["a\n"], by decide, by decide⟩
  have broken : ¬ IsWord "a\n" := fun word => word.lineBreak_not_mem (by decide)
  have read : Path.parse "a\n.b" = .ok path := rfl
  refine ⟨path, shorter, read, rfl, by decide, broken, ?_, ?_⟩
  · rw [Ne, shorter.parse_dotted_iff]
    exact broken
  · rw [← Path.exists_parse_word_iff]
    rintro ⟨other, found, calm⟩
    obtain rfl : path = other := Except.ok.inj (read.symm.trans found)
    exact calm (by decide)

end DesignTokens
