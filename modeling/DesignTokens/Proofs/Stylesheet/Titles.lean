import DesignTokens.Proofs.Path.Reading
import DesignTokens.Proofs.Stylesheet.Whole
import DesignTokens.Stylesheet.Variables

/-!
Sheets with titles and without.  A title is a comment on a line of its own, and so the two are
the same when their blanks are collapsed, if no value runs on into the lines behind it.
-/

namespace DesignTokens.Stylesheet

theorem emit_none (pending : Bool) (glyphs : List Glyph) :
    emit none pending glyphs = emit none true glyphs := by
  cases glyphs with
  | nil => rfl
  | cons glyph rest => cases glyph <;> simp [emit, separator, needsSpace]

theorem emit_gap_end (last : Option Char) (pending : Bool) (glyphs : List Glyph) :
    emit last pending (glyphs ++ [.gap]) = emit last pending glyphs := by
  induction glyphs generalizing last pending with
  | nil => rfl
  | cons glyph rest ih => cases glyph <;> simp [emit, ih]

/-- What is written up to a gap does not depend on what comes behind it. -/
theorem emit_congr {rest other : List Glyph}
    (same : ∀ last, emit last true rest = emit last true other) (last : Option Char)
    (pending : Bool) (front : List Glyph) :
    emit last pending (front ++ .gap :: rest) = emit last pending (front ++ .gap :: other) := by
  induction front generalizing last pending with
  | nil => exact same last
  | cons glyph front ih => cases glyph <;> simp [emit, ih]

structure Alike (text other : String) : Prop where
  whole : Whole text
  wholeOther : Whole other
  written : ∀ last rest,
    emit last true (lineGlyphs text ++ .gap :: rest) =
      emit last true (lineGlyphs other ++ .gap :: rest)

theorem Alike.refl {text : String} (whole : Whole text) : Alike text text :=
  ⟨whole, whole, fun _ _ => rfl⟩

theorem emit_glyphs (css : String) :
    emit none false (glyphs css.toList) = emit none true (lineGlyphs css ++ .gap :: []) := by
  rw [emit_none, emit_gap_end, glyphs_toList]

theorem Alike.minified {css other : String} (alike : Alike css other) :
    minified css = minified other := by
  have same : collapse css.toList = collapse other.toList := by
    rw [collapse_eq, collapse_eq, emit_glyphs, emit_glyphs, alike.written]
  rw [minified_eq, minified_eq, shortForm, shortForm, same]

def textGlyphs (texts : List String) : List Glyph :=
  texts.flatMap fun text => lineGlyphs text ++ [.gap]

theorem textGlyphs_cons (text : String) (texts : List String) (rest : List Glyph) :
    textGlyphs (text :: texts) ++ rest = lineGlyphs text ++ .gap :: (textGlyphs texts ++ rest) := by
  simp [textGlyphs]

theorem emit_intercalate {texts : List String} (whole : ∀ text ∈ texts, Whole text)
    {breaks : String} (parts : breaks = "\n" ∨ breaks = "\n\n") (last : Option Char)
    (rest : List Glyph) :
    emit last true (lineGlyphs (breaks.intercalate texts) ++ .gap :: rest) =
      emit last true (textGlyphs texts ++ rest) := by
  induction texts generalizing last with
  | nil =>
      rw [String.intercalate_nil]
      rfl
  | cons text texts ih =>
      rcases List.forall_mem_cons.mp whole with ⟨first, others⟩
      rw [textGlyphs_cons]
      cases texts with
      | nil =>
          rw [String.intercalate_singleton]
          rfl
      | cons second texts =>
          rcases (lineGlyphs_breaks first parts (breaks.intercalate (second :: texts))).1 with
            ⟨count, glyphs⟩
          rw [String.intercalate_cons_cons, glyphs, List.append_assoc, List.cons_append]
          refine emit_congr (fun last => ?_) last true (lineGlyphs text)
          rw [List.append_assoc, emit_gaps, ih others]

inductive Untitled : List String → List String → Prop
  | nil : Untitled [] []
  | title {line texts rest} : Whole line → (∃ count, lineGlyphs line = List.replicate count .gap) →
      Untitled texts rest → Untitled (line :: texts) rest
  | line {line texts rest} : Whole line → Untitled texts rest →
      Untitled (line :: texts) (line :: rest)

namespace Untitled

variable {texts rest : List String}

theorem whole (untitled : Untitled texts rest) :
    (∀ text ∈ texts, Whole text) ∧ ∀ text ∈ rest, Whole text := by
  induction untitled with
  | nil => simp
  | title whole _ _ ih => exact ⟨List.forall_mem_cons.mpr ⟨whole, ih.1⟩, ih.2⟩
  | line whole _ ih =>
      exact ⟨List.forall_mem_cons.mpr ⟨whole, ih.1⟩, List.forall_mem_cons.mpr ⟨whole, ih.2⟩⟩

theorem append {texts' rest' : List String} (first : Untitled texts rest)
    (second : Untitled texts' rest') : Untitled (texts ++ texts') (rest ++ rest') := by
  induction first with
  | nil => exact second
  | title whole gaps _ ih => exact .title whole gaps ih
  | line whole _ ih => exact .line whole ih

theorem refl {texts : List String} (whole : ∀ text ∈ texts, Whole text) : Untitled texts texts := by
  induction texts with
  | nil => exact .nil
  | cons text texts ih =>
      rcases List.forall_mem_cons.mp whole with ⟨first, others⟩
      exact .line first (ih others)

theorem emit_textGlyphs (untitled : Untitled texts rest) (last : Option Char) (tail : List Glyph) :
    emit last true (textGlyphs texts ++ tail) = emit last true (textGlyphs rest ++ tail) := by
  induction untitled generalizing last with
  | nil => rfl
  | title _ gaps _ ih =>
      rcases gaps with ⟨count, gaps⟩
      rw [textGlyphs_cons, gaps, emit_gaps]
      exact ih last
  | line _ _ ih =>
      rw [textGlyphs_cons, textGlyphs_cons]
      exact emit_congr ih last true _

theorem lines (untitled : Untitled texts rest) : Alike (lines texts) (lines rest) := by
  rcases untitled.whole with ⟨whole, others⟩
  refine ⟨whole_intercalate whole (.inl rfl), whole_intercalate others (.inl rfl), ?_⟩
  intro last tail
  rw [Stylesheet.lines, Stylesheet.lines, emit_intercalate whole (.inl rfl),
    emit_intercalate others (.inl rfl), untitled.emit_textGlyphs]

end Untitled

theorem emit_textGlyphs_filter (texts : List String) (last : Option Char) (rest : List Glyph) :
    emit last true (textGlyphs (texts.filter (!·.isEmpty)) ++ rest) =
      emit last true (textGlyphs texts ++ rest) := by
  induction texts generalizing last with
  | nil => rfl
  | cons text texts ih =>
      by_cases empty : text.isEmpty = true
      · obtain rfl : text = "" := by simpa using empty
        exact ih last
      · rw [List.filter_cons_of_pos (by simpa using empty), textGlyphs_cons, textGlyphs_cons]
        exact emit_congr ih last true _

theorem emit_textGlyphs_alike {texts others : List String} (alike : List.Forall₂ Alike texts others)
    (last : Option Char) (rest : List Glyph) :
    emit last true (textGlyphs texts ++ rest) = emit last true (textGlyphs others ++ rest) := by
  induction alike generalizing last with
  | nil => rfl
  | cons first _ ih =>
      rw [textGlyphs_cons, textGlyphs_cons, first.written]
      exact emit_congr ih last true _

theorem whole_of_alike {texts others : List String} (alike : List.Forall₂ Alike texts others) :
    (∀ text ∈ texts, Whole text) ∧ ∀ other ∈ others, Whole other := by
  induction alike with
  | nil => simp
  | cons first _ ih =>
      exact ⟨List.forall_mem_cons.mpr ⟨first.whole, ih.1⟩,
        List.forall_mem_cons.mpr ⟨first.wholeOther, ih.2⟩⟩

section Blocks

variable {blocks : List String}

theorem whole_filter (whole : ∀ block ∈ blocks, Whole block) :
    ∀ block ∈ blocks.filter (!·.isEmpty), Whole block :=
  fun block member => whole block (List.mem_of_mem_filter member)

theorem lineGlyphs_blocksText (whole : ∀ block ∈ blocks, Whole block) :
    lineGlyphs (blocksText blocks) =
        lineGlyphs ("\n\n".intercalate (blocks.filter (!·.isEmpty))) ++ [.gap] ∧
      Whole (blocksText blocks) := by
  have joined := whole_intercalate (whole_filter whole) (.inr rfl)
  rcases lineGlyphs_lineBreak joined "" with ⟨glyphs, left⟩
  exact ⟨glyphs, left.mpr (by decide)⟩

/-- Blocks with empty lines between them are written as all of them are, as empty ones leave
nothing but gaps. -/
theorem emit_blocksText (whole : ∀ block ∈ blocks, Whole block) (last : Option Char)
    (rest : List Glyph) :
    emit last true (lineGlyphs (blocksText blocks) ++ .gap :: rest) =
      emit last true (textGlyphs blocks ++ .gap :: rest) := by
  rw [(lineGlyphs_blocksText whole).1, List.append_assoc, List.singleton_append,
    emit_intercalate (whole_filter whole) (.inr rfl), emit_textGlyphs_filter]

theorem alike_blocksText {others : List String} (alike : List.Forall₂ Alike blocks others) :
    Alike (blocksText blocks) (blocksText others) := by
  rcases whole_of_alike alike with ⟨whole, wholeOther⟩
  refine ⟨(lineGlyphs_blocksText whole).2, (lineGlyphs_blocksText wholeOther).2, ?_⟩
  intro last rest
  rw [emit_blocksText whole, emit_blocksText wholeOther, emit_textGlyphs_alike alike]

end Blocks

/-! ### The lines of a sheet -/

theorem lineGlyphs_pad (indent : Nat) (text : String) :
    lineGlyphs (String.ofList (List.replicate indent ' ') ++ text) =
        List.replicate indent .gap ++ lineGlyphs text ∧
      (Whole (String.ofList (List.replicate indent ' ') ++ text) ↔ Whole text) := by
  rw [lineGlyphs, Whole, String.toList_append, String.toList_ofList]
  induction indent with
  | zero => exact ⟨rfl, Iff.rfl⟩
  | succ indent ih =>
      -- The blank that is passed stands for the line break before it.
      have unnamed : (some ' ').any isNameChar = (some '\n').any isNameChar := by decide
      have onwards := glyphsFrom_congr unnamed true (List.replicate indent ' ' ++ text.toList)
      rcases ih with ⟨glyphs, left⟩
      rw [← onwards.1] at glyphs
      rw [← onwards.2] at left
      exact ⟨congrArg (Glyph.gap :: ·) glyphs, left⟩

def Plain (text : String) : Prop :=
  text.toList.all (fun c => c != '/' && !isQuote c) = true

instance (text : String) : Decidable (Plain text) :=
  inferInstanceAs (Decidable (_ = true))

theorem plain_iff {text : String} :
    Plain text ↔ ∀ c ∈ text.toList, c ≠ '/' ∧ isQuote c = false := by
  simp [Plain]

theorem Plain.append {text other : String} (plain : Plain text) (more : Plain other) :
    Plain (text ++ other) := by
  rw [Plain, String.toList_append, List.all_append, Bool.and_eq_true]
  exact ⟨plain, more⟩

theorem plain_of_isSegment {segment : String} (valid : isSegment segment = true) :
    Plain segment := by
  refine plain_iff.mpr fun c member => ?_
  rcases isSegmentChar_or_lineBreak valid member with allowed | rfl
  · constructor
    · rintro rfl
      exact absurd allowed (by decide)
    · rw [← Bool.not_eq_true]
      intro quote
      rw [isQuote_iff, List.mem_pair] at quote
      rcases quote with rfl | rfl <;> exact absurd allowed (by decide)
  · decide

theorem plain_customProperty (path : Path) {lead : String} (valid : isSegment lead = true) :
    Plain (path.customProperty lead) := by
  have dashes : Plain "--" := by decide
  have dash : Plain "-" := by decide
  have empty : Plain "" := by decide
  have body : Plain ("-".intercalate path.segments) :=
    intercalate_holds empty (fun first rest => (first.append dash).append rest)
      fun segment member => plain_of_isSegment (path.valid segment member)
  rw [Path.customProperty]
  split
  · exact dashes.append body
  · exact ((dashes.append (plain_of_isSegment valid)).append dash).append body

def EndsOutside (value : String) : Prop :=
  (modeAfter .code (some ' ') false value.toList).isOutside = true

instance (value : String) : Decidable (EndsOutside value) :=
  inferInstanceAs (Decidable (_ = true))

theorem isOutside_semicolon {mode : Mode} (outside : mode.isOutside = true)
    (previous : Option Char) (lineBlank : Bool) :
    (modeAfter mode previous lineBlank [';']).isOutside = true := by
  cases mode with
  | code => rfl
  | lineComment => rfl
  | blockComment | literal => exact absurd outside Bool.false_ne_true

theorem whole_declaration {declaration : Declaration} (plain : Plain declaration.property)
    (ends : EndsOutside declaration.value) : Whole declaration.text := by
  have coded : ∀ mark, Mode.code = .literal mark → isQuote mark = true := nofun
  have named : modeAfter .code (some '\n') true declaration.property.toList = .code :=
    modeAfter_plain (plain_iff.mp plain) (some '\n') true
  have outside := (congrArg Mode.isOutside named).trans rfl
  have colon : ':' ≠ '*' := by decide
  have semicolon : ';' ≠ '*' := by decide
  have text : declaration.text.toList = declaration.property.toList ++
      ':' :: (' ' :: (declaration.value.toList ++ [';'])) := by
    simp [Declaration.text]
  rcases glyphsFrom_append coded outside colon (by decide)
    (' ' :: (declaration.value.toList ++ [';'])) with ⟨before, fresh, _, front⟩
  rcases glyphsFrom_append coded ends semicolon (by decide) [] with ⟨behind, later, _, back⟩
  rw [Whole, text, front, named]
  change (modeAfter .code (some ' ') false (declaration.value.toList ++ [';'])).isOutside = true
  rw [back]
  exact isOutside_semicolon ends behind later

def Calm (sections : List Section) : Prop :=
  ∀ part ∈ sections, ∀ declaration ∈ part.declarations, Whole declaration.text

theorem lineGlyphs_title (category : Category) :
    Whole ("/* " ++ category.title ++ " */") ∧
      ∃ count, lineGlyphs ("/* " ++ category.title ++ " */") = List.replicate count .gap := by
  have gaps : ∀ glyph ∈ lineGlyphs ("/* " ++ category.title ++ " */"), glyph = .gap := by
    cases category <;> decide
  refine ⟨?_, _, List.eq_replicate_of_mem gaps⟩
  cases category <;> decide

theorem untitled_lines {part : Section}
    (whole : ∀ declaration ∈ part.declarations, Whole declaration.text) (indent : Nat) :
    Untitled (part.lines true indent) (part.lines false indent) := by
  rw [Section.lines, Section.lines]
  split
  · exact .nil
  · rcases lineGlyphs_title part.category with ⟨title, count, gaps⟩
    rcases lineGlyphs_pad indent ("/* " ++ part.category.title ++ " */") with ⟨padded, left⟩
    rw [gaps, List.replicate_append_replicate] at padded
    rw [← String.append_assoc, ← String.append_assoc] at padded left
    refine .title (left.mpr title) ⟨_, padded⟩ (.refl fun line member => ?_)
    rcases List.mem_map.mp member with ⟨declaration, found, rfl⟩
    exact (lineGlyphs_pad indent declaration.text).2.mpr (whole declaration found)

section Sheet

variable {sections : List Section} (config : Config)

theorem untitled_sectionLines (calm : Calm sections) (indent : Nat) :
    Untitled (sectionLines { config with minify := false } indent sections)
      (sectionLines { config with minify := true } indent sections) := by
  induction sections with
  | nil => exact .nil
  | cons part sections ih =>
      rcases List.forall_mem_cons.mp calm with ⟨first, others⟩
      exact (untitled_lines first indent).append (ih others)

theorem untitled_enclosed (calm : Calm sections) {front back : List String}
    (opens : ∀ line ∈ front, Whole line) (closes : ∀ line ∈ back, Whole line) (indent : Nat) :
    Alike (lines (front ++ sectionLines { config with minify := false } indent sections ++ back))
      (lines (front ++ sectionLines { config with minify := true } indent sections ++ back)) :=
  (((Untitled.refl opens).append (untitled_sectionLines config calm indent)).append
    (.refl closes)).lines

theorem alike_rootText (calm : Calm sections) :
    Alike (rootText { config with minify := false } sections)
      (rootText { config with minify := true } sections) :=
  untitled_enclosed config calm (by decide) (by decide) 2

theorem alike_darkMediaText (calm : Calm sections) :
    Alike (darkMediaText { config with minify := false } sections)
      (darkMediaText { config with minify := true } sections) :=
  untitled_enclosed config calm (by decide) (by decide) 4

theorem alike_darkClassText (calm : Calm sections) :
    Alike (darkClassText { config with minify := false } sections)
      (darkClassText { config with minify := true } sections) :=
  untitled_enclosed config calm (by decide) (by decide) 2

end Sheet

end DesignTokens.Stylesheet
