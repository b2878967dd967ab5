import DesignTokens.Proofs.Stylesheet.Splits
import DesignTokens.Proofs.Stylesheet.Steady
import DesignTokens.Proofs.Stylesheet.Zeros

/-!
Shortening a style sheet twice.  A text without anything needless is read as it was written and
written as it is, unless it begins with a comment.  So the short form is its own short form,
unless two slashes have come to stand at its front, which begin a comment there.
-/

namespace DesignTokens.Stylesheet

inductive Reads : Mode → Option Char → Site → Prop
  | code {last} : Reads .code last (.code last)
  | literal {mark previous} : isQuote mark = true → Reads (.literal mark) previous (.literal mark)

theorem glyphsFrom_of_steady {mode : Mode} {previous : Option Char} {lineBlank : Bool}
    {text : List Char} {site : Site} (reads : Reads mode previous site)
    (steady : Steady site text)
    (start : mode = .code → lineBlank = true → previous = none ∧ ¬ ['/', '/'] <+: text) :
    glyphsFrom mode previous lineBlank text = spell site text := by
  fun_induction glyphsFrom mode previous lineBlank text generalizing site with
  | case1 => rfl
  | case2 previous lineBlank rest ih =>
      cases reads
      have apart := (Site.admits_of_visible (by decide)).mp steady.1
      exact absurd rfl (apart.2 rfl)
  | case3 previous lineBlank c rest apart comment ih =>
      simp only [Bool.and_eq_true, beq_iff_eq] at comment
      rcases comment with ⟨⟨rfl, next⟩, fresh⟩
      rcases List.head?_eq_some_iff.mp next with ⟨others, rfl⟩
      exact absurd ⟨others, rfl⟩ (start rfl fresh).2
  | case4 previous lineBlank c rest apart code blank ih =>
      cases reads
      obtain rfl := Site.eq_space_of_admits blank steady.1
      have later : lineStaysBlank lineBlank ' ' = false := by
        cases lineBlank with
        | false => rfl
        | true =>
            rcases Site.admits_space.mp steady.1 with ⟨_, _, _, needed⟩
            rw [(start rfl rfl).1] at needed
            exact absurd needed Bool.false_ne_true
      have following := steady.2
      rw [Site.next_space] at following
      rw [spell, Site.next_space,
        ih .code following fun _ fresh => absurd (later.symm.trans fresh) Bool.false_ne_true]
      rfl
  | case5 previous lineBlank c rest apart code visible opening ih =>
      cases reads
      have quote := (opens_iff.mp opening).1
      have following := steady.2
      rw [Site.next_of_opening opening] at following
      rw [spell, Site.glyph_of_opening opening, Site.next_of_opening opening,
        ih (.literal quote) following (by simp)]
  | case6 previous lineBlank c rest apart code visible opening ih =>
      cases reads
      have visible := (Bool.not_eq_true _).mp visible
      have apostrophe := (Bool.not_eq_true _).mp opening
      have following := steady.2
      rw [Site.next_of_apostrophe apostrophe] at following
      rw [spell, Site.glyph_of_apostrophe visible apostrophe, Site.next_of_apostrophe apostrophe,
        ih .code following (by simp)]
  | case7 | case8 | case9 | case10 => cases reads
  | case11 previous lineBlank mark c rest ih =>
      cases reads with
      | literal quote =>
          have following := steady.2.2
          rw [Site.next_backslash quote] at following
          rw [spell, spell, Site.next_backslash quote, ih (.literal quote) following (by simp)]
          simp [Site.glyph, Site.next, (ne_backslash_of_isQuote quote).symm]
  | case12 previous lineBlank mark c rest apart closes ih =>
      cases reads with
      | literal quote =>
          obtain rfl := beq_iff_eq.mp closes
          have following := steady.2
          rw [Site.next_mark] at following
          have later := lineStaysBlank_of_isQuote quote lineBlank
          rw [spell, Site.next_mark,
            ih .code following fun _ fresh => absurd (later.symm.trans fresh) Bool.false_ne_true]
          simp [Site.glyph]
  | case13 previous lineBlank mark c rest apart kept ih =>
      cases reads with
      | literal quote =>
          have other : c ≠ mark := by simpa using kept
          have glyph : (Site.literal mark).glyph c = .inner c := by simp [Site.glyph, other]
          by_cases slash : c = '\\'
          · cases rest with
            | nil => simp [spell, glyph, glyphsFrom]
            | cons d others => exact absurd rfl (apart d others slash)
          · have following := steady.2
            rw [Site.next_inner other slash] at following
            rw [spell, glyph, Site.next_inner other slash, ih (.literal quote) following (by simp)]

theorem glyphs_of_steady {text : List Char} (steady : Steady (.code none) text)
    (start : ¬ ['/', '/'] <+: text) : glyphs text = spell (.code none) text :=
  glyphsFrom_of_steady .code steady fun _ _ => ⟨rfl, start⟩

inductive Stands (text : List Char) : Site → Option Char → Bool → Prop
  | code {last} : last ≠ some ' ' → Stands text (.code last) last false
  | spaced {last c} : text.head? = some c → isBlank c = false →
      needsSpace last.toList c = true → Stands text (.code (some ' ')) last true
  | literal {mark last} : isQuote mark = true → Stands text (.literal mark) last false
  | escape {mark last} : isQuote mark = true → Stands text (.escape mark) last false

theorem Stands.next {rest : List Char} {last : Option Char} {c : Char}
    (visible : isBlank c = false) : Stands rest ((Site.code last).next c) (some c) false := by
  by_cases opening : opens last c = true
  · rw [Site.next_of_opening opening]
    exact .literal (opens_iff.mp opening).1
  · rw [Site.next_of_apostrophe ((Bool.not_eq_true _).mp opening)]
    exact .code fun same => ne_space visible (Option.some.inj same)

theorem emit_spell_visible {before last : Option Char} {pending : Bool} {c : Char}
    {rest : List Char} (visible : isBlank c = false)
    (useful : isIdleSemicolon last.toList c = false) :
    emit last pending (spell (.code before) (c :: rest)) =
      separator last pending c ++ c :: emit (some c) false (spell ((Site.code before).next c) rest) := by
  by_cases opening : opens before c = true
  · rw [spell, Site.glyph_of_opening opening, emit]
  · rw [spell, Site.glyph_of_apostrophe visible ((Bool.not_eq_true _).mp opening), emit, useful,
      if_neg Bool.false_ne_true]

theorem emit_spell {text : List Char} {site : Site} {last : Option Char} {pending : Bool}
    (stands : Stands text site last pending) (steady : Steady site text) :
    emit last pending (spell site text) = (if pending then [' '] else []) ++ text := by
  induction text generalizing site last pending with
  | nil =>
      cases stands with
      | spaced next => simp at next
      | _ => rfl
  | cons c rest ih =>
      rcases steady with ⟨admitted, steady⟩
      cases stands with
      | code unspaced =>
          by_cases blank : isBlank c = true
          · obtain rfl := Site.eq_space_of_admits blank admitted
            rcases Site.admits_space.mp admitted with ⟨d, next, visible, needed⟩
            rw [Site.next_space] at steady
            rw [spell, Site.next_space]
            exact ih (.spaced next visible needed) steady
          · have visible := (Bool.not_eq_true _).mp blank
            have useful := ((Site.admits_of_visible visible).mp admitted).1
            rw [emit_spell_visible visible useful, ih (.next visible) steady]
            rfl
      | spaced next visible needed =>
          obtain rfl := Option.some.inj next
          have useful : isIdleSemicolon last.toList c = false := by
            refine isIdleSemicolon_of_ne ?_ _
            rintro rfl
            rw [needsSpace_semicolon] at needed
            exact absurd needed Bool.false_ne_true
          rw [emit_spell_visible visible useful, ih (.next visible) steady, separator, needed]
          rfl
      | @literal mark _ quote =>
          by_cases closes : c = mark
          · subst closes
            rw [Site.next_mark] at steady
            have unspaced : some c ≠ some ' ' := by
              rintro ⟨⟩
              exact absurd quote (by decide)
            rw [spell, Site.next_mark, Site.glyph, if_pos (beq_self_eq_true c), emit,
              ih (.code unspaced) steady]
            rfl
          · rw [spell, Site.glyph, if_neg (by simpa using closes), emit]
            by_cases slash : c = '\\'
            · subst slash
              rw [Site.next_backslash quote] at steady ⊢
              rw [ih (.escape quote) steady]
              rfl
            · rw [Site.next_inner closes slash] at steady ⊢
              rw [ih (.literal quote) steady]
              rfl
      | @escape mark _ quote =>
          have kept : emit (some c) false (spell (.literal mark) rest) = rest :=
            ih (.literal quote) steady
          exact congrArg (c :: ·) kept

/-- A text without anything needless is left as it is, unless it begins with a comment. -/
theorem collapse_eq_self {text : List Char} (steady : Steady (.code none) text)
    (last : ∀ c ∈ text.getLast?, isBlank c = false) (start : ¬ ['/', '/'] <+: text) :
    collapse text = text := by
  have kept : emit none false (spell (.code none) text) = text :=
    emit_spell (.code (by simp)) steady
  rw [collapse_eq, glyphs_of_steady steady start, kept]
  exact trim_eq_self steady.first_visible last

theorem length_glyphsFrom_le (mode : Mode) (previous : Option Char) (lineBlank : Bool)
    (text : List Char) : (glyphsFrom mode previous lineBlank text).length ≤ text.length := by
  fun_induction glyphsFrom mode previous lineBlank text <;> simp_all <;> omega

theorem length_separator_le (last : Option Char) (pending : Bool) (c : Char) :
    (separator last pending c).length ≤ (pending && last.isSome).toNat := by
  cases last with
  | none => simp [separator, needsSpace]
  | some last =>
      rw [separator]
      cases pending <;> split <;> simp_all

/-- All that can be written without a character of its own is a space that is due. -/
theorem length_emit_le (last : Option Char) (pending : Bool) (glyphs : List Glyph) :
    (emit last pending glyphs).length ≤ glyphs.length + (pending && last.isSome).toNat := by
  have undue : ∀ last : Option Char, (false && last.isSome).toNat = 0 := fun _ => rfl
  induction glyphs generalizing last pending with
  | nil => exact Nat.zero_le _
  | cons glyph rest ih =>
      cases glyph with
      | gap =>
          have onwards := ih last true
          have due := Bool.toNat_le (true && last.isSome)
          rw [emit, List.length_cons]
          omega
      | code c =>
          have spaced := length_separator_le last pending c
          have skipped := ih last false
          have onwards := ih (some c) false
          rw [undue] at skipped onwards
          rw [emit]
          split
          · rw [List.length_cons]
            omega
          · rw [List.length_append, List.length_cons, List.length_cons]
            omega
      | opening mark =>
          have spaced := length_separator_le last pending mark
          have onwards := ih (some mark) false
          rw [undue] at onwards
          rw [emit, List.length_append, List.length_cons, List.length_cons]
          omega
      | inner c | escaped c | closing c =>
          have onwards := ih (some c) false
          rw [undue] at onwards
          rw [emit, List.length_cons, List.length_cons]
          omega

theorem length_trim_le (text : List Char) : (trim text).length ≤ text.length := by
  have back := (List.rdropWhile_prefix isBlank (text.dropWhile isBlank)).length_le
  exact back.trans (List.dropWhile_suffix isBlank).length_le

theorem length_collapse_lt {text : List Char} (comment : ['/', '/'] <+: text) :
    (collapse text).length < text.length := by
  rcases comment with ⟨rest, rfl⟩
  rw [collapse_eq]
  have read : glyphs (['/', '/'] ++ rest) =
      .gap :: glyphsFrom .lineComment (some '/') false ('/' :: rest) := rfl
  have written := length_emit_le none true (glyphsFrom .lineComment (some '/') false ('/' :: rest))
  have short := length_glyphsFrom_le .lineComment (some '/') false ('/' :: rest)
  have trimmed := length_trim_le (emit none true (glyphsFrom .lineComment (some '/') false ('/' :: rest)))
  rw [read, emit]
  simp at *
  omega

/-! ### The short form of the short form -/

def shortened (text : List Char) : List Char :=
  (parts text).flatMap Part.shortened

def shortParts (text : List Char) : List Part :=
  ((parts text).map (Part.map (shortenZeros none 0))).map (Part.map (dropLeadingZeros none))

theorem shortened_eq (text : List Char) : shortened text = joined (shortParts text) := by
  rw [shortened, joined, shortParts, List.flatMap_map, List.flatMap_map]
  refine List.flatMap_congr fun part _ => ?_
  cases part <;> rfl

theorem splits_shortened (text : List Char) : Splits none (shortened text) (shortParts text) := by
  have unitless := (splits_parts text).abridged (abridged_shortenZeros none)
  rw [shortened_eq]
  exact unitless.abridged (abridged_dropLeadingZeros none)

theorem abridged_shortened (text : List Char) : Abridged text (shortened text) := by
  have unitless := abridged_joined (abridged_shortenZeros none) (parts text)
  rw [(splits_parts text).joined] at unitless
  rw [shortened_eq]
  exact unitless.trans (abridged_joined (abridged_dropLeadingZeros none) _)

theorem parts_shortened (text : List Char) : parts (shortened text) = shortParts text :=
  (splits_shortened text).partsFrom

theorem shortened_map_map (part : Part) :
    ((part.map (shortenZeros none 0)).map (dropLeadingZeros none)).shortened =
      ((part.map (shortenZeros none 0)).map (dropLeadingZeros none)).text := by
  cases part with
  | plain text =>
      have brief := brief_dropLeadingZeros (unitFree_shortenZeros none text)
      rw [Part.map, Part.map, Part.shortened, Part.text, brief.shortenZeros,
        brief.dropLeadingZeros]
  | literal text => rfl

theorem shortened_shortened (text : List Char) : shortened (shortened text) = shortened text := by
  rw [shortened, parts_shortened, shortened_eq, joined, shortParts, List.flatMap_map,
    List.flatMap_map, List.flatMap_map, List.flatMap_map]
  exact List.flatMap_congr fun part _ => shortened_map_map part

def shortForm (css : List Char) : List Char :=
  shortened (collapse css)

theorem steady_shortForm (css : List Char) : Steady (.code none) (shortForm css) := by
  exact (abridged_shortened _).steady (Site.marked_code none) .same (steady_collapse css)

theorem not_isBlank_of_mem_getLast?_shortForm {css : List Char} {c : Char}
    (last : c ∈ (shortForm css).getLast?) : isBlank c = false := by
  have alike := (abridged_shortened (collapse css)).alike_last
    (.same : Site.Alike (.code none) (.code none))
  rw [Option.or_none, Option.or_none, show (shortened (collapse css)).getLast? = _ from last] at alike
  generalize before : (collapse css).getLast? = front at alike
  cases alike with
  | same => exact not_isBlank_of_mem_getLast?_trim before
  | named _ named =>
      rw [← Bool.not_eq_true]
      intro blank
      exact Bool.false_ne_true ((not_isNameChar_of_isBlank blank).symm.trans named)

theorem shortForm_shortForm_iff (css : List Char) :
    shortForm (shortForm css) = shortForm css ↔ ¬ ['/', '/'] <+: shortForm css := by
  constructor
  · -- What begins with a comment loses it, and nothing becomes longer again.
    intro same comment
    have shorter := length_collapse_lt comment
    have again := (abridged_shortened (collapse (shortForm css))).length_le
    rw [show shortened (collapse (shortForm css)) = _ from same] at again
    omega
  · intro start
    have kept := collapse_eq_self (steady_shortForm css)
      (fun _ => not_isBlank_of_mem_getLast?_shortForm) start
    rw [shortForm, kept, shortForm, shortened_shortened]

theorem minified_eq (css : String) : minified css = String.ofList (shortForm css.toList) := rfl

/-- The short form of a style sheet is its own short form if and only if it does not begin
with two slashes. -/
theorem minified_idempotent_iff (css : String) :
    minified (minified css) = minified css ↔ ¬ ['/', '/'] <+: (minified css).toList := by
  rw [minified_eq (minified css), minified_eq css, String.toList_ofList, String.ofList_inj]
  exact shortForm_shortForm_iff css.toList

theorem minified_not_idempotent : minified (minified "/**///a") ≠ minified "/**///a" := by
  decide

end DesignTokens.Stylesheet
