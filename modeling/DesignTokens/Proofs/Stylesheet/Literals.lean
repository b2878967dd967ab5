import DesignTokens.Proofs.Stylesheet.Stable

/-!
Quoted strings.  Shortening a style sheet leaves each of them as it is, if all of them are
closed and none of them escapes a line break.
-/

namespace DesignTokens.Stylesheet

def literalsFrom (held : List Char) : List Glyph → List (List Char)
  | [] => []
  | .gap :: rest | .code _ :: rest => literalsFrom held rest
  | .opening mark :: rest => literalsFrom [mark] rest
  | .inner c :: rest | .escaped c :: rest => literalsFrom (c :: held) rest
  | .closing mark :: rest => (mark :: held).reverse :: literalsFrom [] rest

def closedFrom (inside : Bool) : List Glyph → Bool
  | [] => !inside
  | .opening _ :: rest => closedFrom true rest
  | .closing _ :: rest => closedFrom false rest
  | .gap :: rest | .code _ :: rest | .inner _ :: rest | .escaped _ :: rest =>
      closedFrom inside rest

def literals (css : String) : List String :=
  (literalsFrom [] (glyphs css.toList)).map String.ofList

def AllClosed (css : String) : Prop :=
  closedFrom false (glyphs css.toList) = true

def EscapesLineBreak (css : String) : Prop :=
  Glyph.escaped '\n' ∈ glyphs css.toList

instance (css : String) : Decidable (AllClosed css) :=
  inferInstanceAs (Decidable (_ = true))

instance (css : String) : Decidable (EscapesLineBreak css) :=
  inferInstanceAs (Decidable (_ ∈ _))

theorem literalsFrom_filter (held : List Char) (glyphs : List Glyph) :
    literalsFrom held (glyphs.filter Glyph.isQuoted) = literalsFrom held glyphs := by
  induction glyphs generalizing held with
  | nil => rfl
  | cons glyph rest ih =>
      cases glyph <;> simp [List.filter_cons, Glyph.isQuoted, literalsFrom, ih]

theorem closedFrom_filter (inside : Bool) (glyphs : List Glyph) :
    closedFrom inside (glyphs.filter Glyph.isQuoted) = closedFrom inside glyphs := by
  induction glyphs generalizing inside with
  | nil => rfl
  | cons glyph rest ih =>
      cases glyph <;> simp [List.filter_cons, Glyph.isQuoted, closedFrom, ih]

def Site.isInside : Site → Bool
  | .code _ => false
  | .literal _ | .escape _ => true

def Shut : Site → List Char → Prop
  | site, [] => site.isInside = false
  | site, c :: rest => site.glyph c ≠ .escaped '\n' ∧ Shut (site.next c) rest

theorem Site.glyph_code_of_apostrophe {last : Option Char} {c : Char}
    (apostrophe : opens last c = false) :
    (code last).glyph c = .gap ∨ (code last).glyph c = .code c := by
  rw [glyph, apostrophe]
  split
  · exact .inl rfl
  · exact .inr rfl

theorem Site.glyph_inner {mark c : Char} (other : c ≠ mark) :
    (literal mark).glyph c = .inner c := by
  simp [glyph, other]

theorem Site.glyph_mark (mark : Char) : (literal mark).glyph mark = .closing mark := by
  simp [glyph]

theorem Site.isInside_next_inner {mark c : Char} (other : c ≠ mark) :
    ((literal mark).next c).isInside = true := by
  rw [next, if_neg (by simpa using other)]
  split <;> rfl

theorem closedFrom_spell_cons (site : Site) (c : Char) (rest : List Char) :
    closedFrom site.isInside (spell site (c :: rest)) =
      closedFrom (site.next c).isInside (spell (site.next c) rest) := by
  rw [spell]
  cases site with
  | code last =>
      by_cases opening : opens last c = true
      · rw [Site.glyph_of_opening opening, Site.next_of_opening opening]
        rfl
      · have apostrophe := (Bool.not_eq_true _).mp opening
        rw [Site.next_of_apostrophe apostrophe]
        rcases Site.glyph_code_of_apostrophe apostrophe with gap | code
        · rw [gap]
          rfl
        · rw [code]
          rfl
  | literal mark =>
      by_cases same : c = mark
      · subst same
        rw [Site.glyph_mark, Site.next_mark]
        rfl
      · rw [Site.glyph_inner same, Site.isInside_next_inner same]
        rfl
  | escape mark => rfl

theorem shut_iff {site : Site} {text : List Char} :
    Shut site text ↔ closedFrom site.isInside (spell site text) = true ∧
      Glyph.escaped '\n' ∉ spell site text := by
  induction text generalizing site with
  | nil => simp [Shut, spell, closedFrom]
  | cons c rest ih =>
      rw [Shut, ih, closedFrom_spell_cons, spell, List.mem_cons, not_or]
      tauto

theorem Site.glyph_code_ne_escaped (last : Option Char) (c d : Char) :
    (code last).glyph c ≠ .escaped d := by
  rw [glyph]
  split
  · simp
  · split <;> simp

theorem Site.glyph_ne_escaped {site : Site} {c d : Char} (other : c ≠ d) :
    site.glyph c ≠ .escaped d := by
  cases site with
  | code last => exact glyph_code_ne_escaped last c d
  | literal mark =>
      rw [glyph]
      split <;> simp
  | escape mark =>
      rintro ⟨⟩
      exact other rfl

theorem Abridged.shut {text short : List Char} (abridged : Abridged text short)
    {site other : Site} (marked : site.Marked) (alike : Site.Alike site other)
    (shut : Shut site text) : Shut other short := by
  refine abridged.passes ?_ And.right ?_ ?_ marked alike shut
  · intro site other alike shut
    cases alike with
    | same => exact shut
    | named => rfl
  · rintro site c rest (rfl | rfl) onwards <;>
      exact ⟨Site.glyph_ne_escaped (by decide), onwards⟩
  · intro site other c rest short alike _ shut onwards
    refine ⟨?_, onwards⟩
    cases alike with
    | same => exact shut.1
    | named => exact Site.glyph_code_ne_escaped _ c _

theorem closes_of_shut {mark : Char} {text : List Char} :
    (Shut (.literal mark) text → closes mark false text = true) ∧
      (Shut (.escape mark) text → closes mark true text = true) := by
  induction text with
  | nil => simp [Shut, Site.isInside]
  | cons c rest ih =>
      constructor
      · rintro ⟨_, shut⟩
        by_cases same : c = mark
        · simp [closes, same]
        · rw [Site.next, if_neg (by simpa using same)] at shut
          rw [closes, if_neg Bool.false_ne_true, beq_false_of_ne same, Bool.false_or]
          by_cases slash : (c == '\\') = true
          · rw [if_pos slash] at shut
            rw [slash]
            exact ih.2 shut
          · rw [if_neg slash] at shut
            rw [(Bool.not_eq_true _).mp slash]
            exact ih.1 shut
      · rintro ⟨unbroken, shut⟩
        have other : c ≠ '\n' := by
          rintro rfl
          exact unbroken rfl
        rw [closes, if_pos rfl, bne_iff_ne.mpr other, Bool.true_and]
        exact ih.1 shut

/-- Where every string is closed, a quote at which no string is found does not open one. -/
theorem Shut.apostrophe {previous : Option Char} {c : Char} {rest : List Char}
    (shut : Shut (.code previous) (c :: rest)) (none : literalAhead previous c rest = 0) :
    opens previous c = false := by
  rw [← Bool.not_eq_true]
  intro opening
  obtain ⟨_, inner⟩ := shut
  rw [Site.next_of_opening opening] at inner
  have unclosed := literalAhead_eq_zero_iff.mp none opening
  exact Bool.false_ne_true (unclosed.symm.trans (closes_of_shut.1 inner))

/-- A stretch of text in which no string begins that the text closes holds no opening mark. -/
theorem Shut.of_noLiteral {previous : Option Char} {stretch tail : List Char}
    (plain : NoLiteral previous stretch tail) (shut : Shut (.code previous) (stretch ++ tail)) :
    Shut (.code (stretch.getLast?.or previous)) tail ∧
      literalsFrom [] (spell (.code previous) (stretch ++ tail)) =
        literalsFrom [] (spell (.code (stretch.getLast?.or previous)) tail) := by
  induction stretch generalizing previous with
  | nil => exact ⟨shut, rfl⟩
  | cons c rest ih =>
      rcases plain with ⟨none, plain⟩
      have apostrophe := shut.apostrophe none
      rcases shut with ⟨_, shut⟩
      rw [Site.next_of_apostrophe apostrophe] at shut
      rw [or_getLast?_cons, List.cons_append, spell, Site.next_of_apostrophe apostrophe]
      refine ⟨(ih plain shut).1, ?_⟩
      rw [← (ih plain shut).2]
      rcases Site.glyph_code_of_apostrophe apostrophe with gap | code
      · rw [gap, literalsFrom]
      · rw [code, literalsFrom]

theorem Body.literalsFrom {mark : Char} (quote : isQuote mark = true) {body : List Char}
    (closed : Body mark body) {rest : List Char} (held : List Char)
    (shut : Shut (.literal mark) (body ++ rest)) :
    Shut (.code (some mark)) rest ∧
      literalsFrom held (spell (.literal mark) (body ++ rest)) =
        (held.reverse ++ body) :: literalsFrom [] (spell (.code (some mark)) rest) := by
  have slash := (ne_backslash_of_isQuote quote).symm
  induction closed generalizing held with
  | close =>
      rcases shut with ⟨_, shut⟩
      rw [Site.next_mark] at shut
      refine ⟨shut, ?_⟩
      rw [List.singleton_append, spell, Site.glyph_mark, Site.next_mark, Stylesheet.literalsFrom,
        List.reverse_cons]
  | @escape c body _ _ ih =>
      rcases shut with ⟨_, _, shut⟩
      rw [Site.next_backslash quote] at shut
      rcases ih (c :: '\\' :: held) shut with ⟨onwards, read⟩
      refine ⟨onwards, ?_⟩
      rw [List.cons_append, List.cons_append, spell, Site.glyph_inner slash,
        Site.next_backslash quote, spell, Stylesheet.literalsFrom]
      change Stylesheet.literalsFrom (c :: '\\' :: held) (spell (.literal mark) _) = _
      rw [read]
      simp
  | @step c body other plain _ ih =>
      rcases shut with ⟨_, shut⟩
      rw [Site.next_inner other plain] at shut
      rcases ih (c :: held) shut with ⟨onwards, read⟩
      refine ⟨onwards, ?_⟩
      rw [List.cons_append, spell, Site.glyph_inner other, Site.next_inner other plain,
        Stylesheet.literalsFrom, read]
      simp

def literalTexts (parts : List Part) : List (List Char) :=
  parts.filterMap fun part =>
    match part with
    | .plain _ => none
    | .literal text => some text

theorem Splits.literalsFrom {previous : Option Char} {text : List Char} {parts : List Part}
    (splits : Splits previous text parts) (shut : Shut (.code previous) text) :
    literalsFrom [] (spell (.code previous) text) = literalTexts parts := by
  induction splits with
  | @last previous text plain =>
      have read := (Shut.of_noLiteral plain (by rwa [List.append_nil])).2
      rw [List.append_nil] at read
      rw [read]
      rfl
  | @more previous stretch mark body rest parts plain opening closed splits ih =>
      rcases Shut.of_noLiteral plain shut with ⟨⟨_, onwards⟩, read⟩
      rw [Site.next_of_opening opening] at onwards
      rcases closed.literalsFrom (opens_iff.mp opening).1 [mark] onwards with ⟨behind, spelled⟩
      rw [read, spell, Site.glyph_of_opening opening, Site.next_of_opening opening,
        Stylesheet.literalsFrom, spelled, ih behind]
      rfl

theorem literalTexts_map (f : List Char → List Char) (parts : List Part) :
    literalTexts (parts.map (Part.map f)) = literalTexts parts := by
  rw [literalTexts, literalTexts, List.filterMap_map]
  refine List.filterMap_congr fun part _ => ?_
  cases part <;> rfl

theorem literalsFrom_shortened {text : List Char} (shut : Shut (.code none) text) :
    literalsFrom [] (spell (.code none) (shortened text)) =
      literalsFrom [] (spell (.code none) text) := by
  have again := (abridged_shortened text).shut (Site.marked_code none) .same shut
  rw [(splits_shortened text).literalsFrom again, (splits_parts text).literalsFrom shut, shortParts,
    literalTexts_map, literalTexts_map]

theorem closedFrom_spell (site : Site) (text : List Char) :
    closedFrom site.isInside (spell site text) = !(text.foldl Site.next site).isInside := by
  induction text generalizing site with
  | nil => rfl
  | cons c rest ih => rw [closedFrom_spell_cons, ih, List.foldl_cons]

theorem Steady.of_append_right {site : Site} {front rest : List Char}
    (steady : Steady site (front ++ rest)) : Steady (front.foldl Site.next site) rest := by
  induction front generalizing site with
  | nil => exact steady
  | cons c front ih => exact ih steady.2

theorem Site.Marked.foldl {site : Site} (marked : site.Marked) (text : List Char) :
    (text.foldl Site.next site).Marked := by
  induction text generalizing site with
  | nil => exact marked
  | cons c rest ih => exact ih (marked.next c)

/-- A text that ends outside of its strings ends with a character that is visible. -/
theorem Steady.visible_last {site : Site} {text : List Char} (marked : site.Marked)
    (steady : Steady site text) (outside : (text.foldl Site.next site).isInside = false) :
    ∀ c ∈ text.getLast?, isBlank c = false := by
  intro c ending
  obtain ⟨front, rfl⟩ := List.getLast?_eq_some_iff.mp ending
  rcases steady.of_append_right with ⟨admitted, _⟩
  have marked := marked.foldl front
  rw [List.foldl_append, List.foldl_cons, List.foldl_nil] at outside
  rw [← Bool.not_eq_true]
  intro blank
  generalize front.foldl Site.next site = site at admitted marked outside
  cases site with
  | code last =>
      obtain rfl := Site.eq_space_of_admits blank admitted
      rcases Site.admits_space.mp admitted with ⟨_, none, _⟩
      simp at none
  | literal mark =>
      by_cases same : c = mark
      · subst same
        exact Bool.false_ne_true ((not_isBlank_of_isQuote marked).symm.trans blank)
      · exact Bool.false_ne_true (outside.symm.trans (Site.isInside_next_inner same))
  | escape mark => exact Bool.false_ne_true outside.symm

theorem Steady.not_isBlank_last {site : Site} {text : List Char} (marked : site.Marked)
    (steady : Steady site text) (shut : Shut site text) :
    ∀ c ∈ text.getLast?, isBlank c = false := by
  have closed := (shut_iff.mp shut).1
  rw [closedFrom_spell, Bool.not_eq_true'] at closed
  exact steady.visible_last marked closed

theorem shut_emit_glyphs {css : List Char} (closed : closedFrom false (glyphs css) = true)
    (unbroken : Glyph.escaped '\n' ∉ glyphs css) :
    Shut (.code none) (emit none false (glyphs css)) := by
  have same := filter_spell_emit_glyphs css
  refine shut_iff.mpr ⟨?_, fun broken => unbroken ?_⟩
  · rw [← closedFrom_filter, same, closedFrom_filter]
    exact closed
  · have quoted := List.mem_filter.mpr ⟨broken, (rfl : Glyph.isQuoted (.escaped '\n') = true)⟩
    rw [same] at quoted
    exact List.mem_of_mem_filter quoted

theorem glyphs_shortForm {css : List Char} (closed : closedFrom false (glyphs css) = true)
    (unbroken : Glyph.escaped '\n' ∉ glyphs css) (start : ¬ ['/', '/'] <+: shortForm css) :
    closedFrom false (glyphs (shortForm css)) = true ∧
      literalsFrom [] (glyphs (shortForm css)) = literalsFrom [] (glyphs css) := by
  have marked := Site.marked_code none
  have shut := shut_emit_glyphs closed unbroken
  have steady := steady_emit_glyphs css
  have kept : collapse css = emit none false (glyphs css) := by
    rw [collapse_eq]
    exact trim_eq_self steady.first_visible (steady.not_isBlank_last marked shut)
  rw [glyphs_of_steady (steady_shortForm css) start, shortForm, kept]
  refine ⟨(shut_iff.mp ((abridged_shortened _).shut marked .same shut)).1, ?_⟩
  rw [literalsFrom_shortened shut, ← literalsFrom_filter, filter_spell_emit_glyphs,
    literalsFrom_filter]

/-- Where every quoted string is closed, none escapes a line break and the short form does not
begin with two slashes, the short form has the same quoted strings, all of them closed. -/
theorem literals_minified {css : String} (closed : AllClosed css)
    (unbroken : ¬ EscapesLineBreak css) (start : ¬ ['/', '/'] <+: (minified css).toList) :
    AllClosed (minified css) ∧ literals (minified css) = literals css := by
  rw [minified_eq, String.toList_ofList] at start
  rcases glyphs_shortForm closed unbroken start with ⟨again, same⟩
  rw [AllClosed, literals, literals, minified_eq, String.toList_ofList, same]
  exact ⟨again, rfl⟩

theorem literals_minified_zero :
    AllClosed "content : \"0px \\\" /* 0.5 */\" ; /* don't */ " ∧
      literals (minified "content : \"0px \\\" /* 0.5 */\" ; /* don't */ ") =
        ["\"0px \\\" /* 0.5 */\""] := by
  have closed : AllClosed "content : \"0px \\\" /* 0.5 */\" ; /* don't */ " := by decide
  exact ⟨closed, (literals_minified closed (by decide) (by decide)).2.trans (by decide)⟩

/-- A string that escapes a line break is taken for plain text, and its zero loses its unit. -/
theorem literals_minified_lineBreak :
    AllClosed "a\x7bcontent:\"\\\n 0px\"\x7d" ∧
      literals (minified "a\x7bcontent:\"\\\n 0px\"\x7d") ≠
        literals "a\x7bcontent:\"\\\n 0px\"\x7d" := by
  decide

end DesignTokens.Stylesheet
