import DesignTokens.Proofs.Stylesheet.Glyph

/-!
Texts that hold nothing needless: no comments, no blanks but single spaces where they matter,
and no idle semicolons.  What is written of any reading is such a text, and such a text reads
as what it was written from.
-/

namespace DesignTokens.Stylesheet

inductive Site where
  | code (last : Option Char)
  | literal (mark : Char)
  | escape (mark : Char)
deriving DecidableEq, Repr

namespace Site

def next : Site → Char → Site
  | code last, c => if opens last c then literal c else code (some c)
  | literal mark, c =>
      if c == mark then code (some c) else if c == '\\' then escape mark else literal mark
  | escape mark, _ => literal mark

def glyph : Site → Char → Glyph
  | code last, c => if c == ' ' then .gap else if opens last c then .opening c else .code c
  | literal mark, c => if c == mark then .closing c else .inner c
  | escape _, c => .escaped c

def admits : Site → Char → Option Char → Bool
  | code last, c, following =>
      if c == ' ' then following.any fun d => !isBlank d && needsSpace last.toList d
      else !isBlank c && !isIdleSemicolon last.toList c && !(c == '/' && following == some '*')
  | _, _, _ => true

def Ends : Site → Option Char → Prop
  | code last, other => last = other
  | _, _ => True

def Marked : Site → Prop
  | code _ => True
  | literal mark => isQuote mark = true
  | escape mark => isQuote mark = true

theorem marked_code (last : Option Char) : (code last).Marked :=
  trivial

end Site

def Steady : Site → List Char → Prop
  | _, [] => True
  | site, c :: rest => site.admits c rest.head? = true ∧ Steady (site.next c) rest

def spell : Site → List Char → List Glyph
  | _, [] => []
  | site, c :: rest => site.glyph c :: spell (site.next c) rest

inductive Legible : Site → Bool → List Glyph → Prop
  | nil {site pending} : Legible site pending []
  | gap {last pending rest} : Legible (.code last) true rest →
      Legible (.code last) pending (.gap :: rest)
  | idle {last pending c rest} : isIdleSemicolon last.toList c = true →
      Legible (.code last) false rest → Legible (.code last) pending (.code c :: rest)
  | code {last pending c rest} : isBlank c = false → isIdleSemicolon last.toList c = false →
      (isQuote c = true → pending = false ∧ last.any isNameChar = true) →
      (c = '*' → last = some '/' → pending = true) → Legible (.code (some c)) false rest →
      Legible (.code last) pending (.code c :: rest)
  | opening {last pending mark rest} : isQuote mark = true →
      (pending = false → last.any isNameChar = false) → Legible (.literal mark) false rest →
      Legible (.code last) pending (.opening mark :: rest)
  | inner {mark c rest} : c ≠ mark → c ≠ '\\' → Legible (.literal mark) false rest →
      Legible (.literal mark) false (.inner c :: rest)
  | backslash {mark rest} : isQuote mark = true → Legible (.escape mark) false rest →
      Legible (.literal mark) false (.inner '\\' :: rest)
  | escaped {mark c rest} : Legible (.literal mark) false rest →
      Legible (.escape mark) false (.escaped c :: rest)
  | closing {mark rest} : isQuote mark = true → Legible (.code (some mark)) false rest →
      Legible (.literal mark) false (.closing mark :: rest)

inductive Continues (previous : Option Char) (text : List Char) : Mode → Site → Bool → Prop
  | code {last pending} : previous.any isNameChar = (!pending && last.any isNameChar) →
      (last = some '/' → pending = false → text.head? ≠ some '*') →
      Continues previous text .code (.code last) pending
  | blockComment {last pending} : Continues previous text .blockComment (.code last) pending
  | lineComment {last pending} : Continues previous text .lineComment (.code last) pending
  | literal {mark} : isQuote mark = true →
      Continues previous text (.literal mark) (.literal mark) false

theorem legible_glyphsFrom {mode : Mode} {previous : Option Char} {lineBlank : Bool}
    {text : List Char} {site : Site} {pending : Bool}
    (continues : Continues previous text mode site pending) :
    Legible site pending (glyphsFrom mode previous lineBlank text) := by
  fun_induction glyphsFrom mode previous lineBlank text generalizing site pending with
  | case1 => exact .nil
  | case2 previous lineBlank rest ih =>
      cases continues
      exact .gap (ih .blockComment)
  | case3 previous lineBlank c rest apart comment ih =>
      cases continues
      exact .gap (ih .lineComment)
  | case4 previous lineBlank c rest apart code blank ih =>
      cases continues
      refine .gap (ih (.code ?_ (by simp)))
      exact not_isNameChar_of_isBlank blank
  | case5 previous lineBlank c rest apart code visible opening ih =>
      cases continues with
      | code alike clear =>
          rcases opens_iff.mp opening with ⟨quote, unnamed⟩
          refine .opening quote (fun due => ?_) (ih (.literal quote))
          simpa [due, unnamed] using alike.symm
  | case6 previous lineBlank c rest apart code visible opening ih =>
      cases continues with
      | @code last pending alike clear =>
          by_cases idle : isIdleSemicolon last.toList c = true
          · refine .idle idle (ih (.code ?_ ?_))
            · rcases isIdleSemicolon_iff.mp idle with ⟨rfl, rfl | rfl⟩ <;> decide
            · rcases isIdleSemicolon_iff.mp idle with ⟨rfl, rfl | rfl⟩ <;> simp
          · refine .code (by simpa using visible) (by simpa using idle) ?_ ?_ (ih (.code rfl ?_))
            · -- A quote of code is an apostrophe, and no gap parts it from its word.
              intro quote
              have named : previous.any isNameChar = true := by
                simpa [opens, quote] using opening
              simpa [named] using alike.symm
            · rintro rfl slash
              by_contra due
              exact clear slash (by simpa using due) rfl
            · rintro ⟨⟩ _ star
              rcases List.head?_eq_some_iff.mp star with ⟨others, rfl⟩
              exact apart others rfl rfl
  | case7 previous lineBlank rest ih =>
      cases continues
      exact .gap (ih (.code rfl (by simp)))
  | case8 previous lineBlank c rest apart ih =>
      cases continues
      exact .gap (ih .blockComment)
  | case9 previous lineBlank c rest line ih =>
      cases continues
      refine .gap (ih (.code ?_ (by simp)))
      rw [beq_iff_eq.mp line]
      rfl
  | case10 previous lineBlank c rest line ih =>
      cases continues
      exact .gap (ih .lineComment)
  | case11 previous lineBlank mark c rest ih =>
      cases continues with
      | literal quote => exact .backslash quote (.escaped (ih (.literal quote)))
  | case12 previous lineBlank mark c rest apart closes ih =>
      cases continues with
      | literal quote =>
          obtain rfl := beq_iff_eq.mp closes
          refine .closing quote (ih (.code rfl ?_))
          rintro ⟨⟩
          exact absurd quote (by decide)
  | case13 previous lineBlank mark c rest apart kept ih =>
      cases continues with
      | literal quote =>
          by_cases slash : c = '\\'
          · subst slash
            cases rest with
            | nil => exact .backslash quote .nil
            | cons d others => exact absurd rfl (apart d others rfl)
          · exact .inner (by simpa using kept) slash (ih (.literal quote))

def Glyph.isQuoted : Glyph → Bool
  | .gap | .code _ => false
  | .opening _ | .inner _ | .escaped _ | .closing _ => true

theorem ne_space {c : Char} (visible : isBlank c = false) : c ≠ ' ' := by
  rintro rfl
  exact absurd visible (by decide)

theorem opens_space (last : Option Char) : opens last ' ' = false := by
  rw [opens, show isQuote ' ' = false by decide, Bool.false_and]

namespace Site

theorem next_space (last : Option Char) : (code last).next ' ' = code (some ' ') := by
  rw [next, opens_space, if_neg Bool.false_ne_true]

theorem admits_space {last following : Option Char} :
    (code last).admits ' ' following = true ↔
      ∃ d, following = some d ∧ isBlank d = false ∧ needsSpace last.toList d = true := by
  cases following <;> simp [admits]

theorem admits_of_visible {last following : Option Char} {c : Char} (visible : isBlank c = false) :
    (code last).admits c following = true ↔
      isIdleSemicolon last.toList c = false ∧ (c = '/' → following ≠ some '*') := by
  have solid := ne_space visible
  simp [admits, solid, visible, imp_iff_not_or]

theorem next_of_opening {last : Option Char} {c : Char} (opening : opens last c = true) :
    (code last).next c = literal c := by
  rw [next, if_pos opening]

theorem next_of_apostrophe {last : Option Char} {c : Char} (apostrophe : opens last c = false) :
    (code last).next c = code (some c) := by
  rw [next, apostrophe, if_neg Bool.false_ne_true]

theorem next_inner {mark c : Char} (other : c ≠ mark) (plain : c ≠ '\\') :
    (literal mark).next c = literal mark := by
  simp [next, other, plain]

theorem next_backslash {mark : Char} (quote : isQuote mark = true) :
    (literal mark).next '\\' = escape mark := by
  simp [next, (ne_backslash_of_isQuote quote).symm]

theorem next_mark (mark : Char) : (literal mark).next mark = code (some mark) := by
  simp [next]

theorem glyph_of_apostrophe {last : Option Char} {c : Char} (visible : isBlank c = false)
    (apostrophe : opens last c = false) : (code last).glyph c = .code c := by
  have solid := ne_space visible
  simp [glyph, solid, apostrophe]

theorem glyph_of_opening {last : Option Char} {c : Char} (opening : opens last c = true) :
    (code last).glyph c = .opening c := by
  have solid : c ≠ ' ' := by
    rintro rfl
    exact Bool.false_ne_true ((opens_space last).symm.trans opening)
  simp [glyph, solid, opening]

theorem eq_space_of_admits {last following : Option Char} {c : Char} (blank : isBlank c = true)
    (admitted : (code last).admits c following = true) : c = ' ' := by
  by_contra solid
  simp [admits, solid, blank] at admitted

end Site

theorem lineStaysBlank_of_isQuote {mark : Char} (quote : isQuote mark = true) (lineBlank : Bool) :
    lineStaysBlank lineBlank mark = false := by
  have other : mark ≠ '\n' := by
    rintro rfl
    exact absurd quote (by decide)
  simp [lineStaysBlank, other, not_isBlank_of_isQuote quote]

theorem isIdleSemicolon_space (c : Char) : isIdleSemicolon (some ' ').toList c = false := by
  simp [isIdleSemicolon]

theorem opens_lead_of_apostrophe {last : Option Char} {pending : Bool} {c : Char}
    (named : isQuote c = true → pending = false ∧ last.any isNameChar = true) :
    opens (lead last pending c) c = false := by
  rw [opens_lead]
  by_cases quote : isQuote c = true
  · rcases named quote with ⟨rfl, name⟩
    simp [name]
  · simp [quote]

theorem opens_lead_of_opening {last : Option Char} {pending : Bool} {c : Char}
    (quote : isQuote c = true) (before : pending = false → last.any isNameChar = false) :
    opens (lead last pending c) c = true := by
  rw [opens_lead, quote, Bool.true_and]
  cases pending with
  | false => simp [before rfl]
  | true => rfl

theorem steady_separator {last : Option Char} {pending : Bool} {c : Char} {tail : List Char}
    (visible : isBlank c = false) (useful : isIdleSemicolon last.toList c = false)
    (apart : c = '/' → tail.head? ≠ some '*')
    (rest : Steady ((Site.code (lead last pending c)).next c) tail) :
    Steady (.code last) (separator last pending c ++ c :: tail) := by
  rw [lead] at rest
  rw [separator]
  by_cases due : (pending && needsSpace last.toList c) = true
  · rw [if_pos due] at rest ⊢
    have needed := ((Bool.and_eq_true _ _).mp due).2
    refine ⟨Site.admits_space.mpr ⟨c, rfl, visible, needed⟩, ?_⟩
    rw [Site.next_space]
    exact ⟨(Site.admits_of_visible visible).mpr ⟨isIdleSemicolon_space c, apart⟩, rest⟩
  · rw [if_neg due] at rest ⊢
    exact ⟨(Site.admits_of_visible visible).mpr ⟨useful, apart⟩, rest⟩

theorem filter_spell_separator {last : Option Char} {pending : Bool} {c : Char} {tail : List Char} :
    (spell (.code last) (separator last pending c ++ c :: tail)).filter Glyph.isQuoted =
      (spell (.code (lead last pending c)) (c :: tail)).filter Glyph.isQuoted := by
  rw [separator, lead]
  split
  · simp [spell, Site.glyph, Site.next, opens_space, Glyph.isQuoted]
  · rfl

theorem head?_separator_append (last : Option Char) (pending : Bool) (c : Char)
    (tail : List Char) :
    (separator last pending c ++ c :: tail).head? =
      if pending && needsSpace last.toList c then some ' ' else some c := by
  rw [separator]
  split <;> rfl

namespace Legible

/-- A slash and a star that are kept next to each other were so in the text. -/
theorem head?_emit_slash {pending : Bool} {glyphs : List Glyph}
    (legible : Legible (.code (some '/')) pending glyphs) :
    (emit (some '/') pending glyphs).head? ≠ some '*' := by
  generalize same : Site.code (some '/') = site at legible
  induction legible with
  | nil => simp [emit]
  | gap _ ih => exact ih same
  | idle idle _ _ =>
      cases same
      rcases isIdleSemicolon_iff.mp idle with ⟨_, before | before⟩ <;> cases before
  | code visible useful named star _ _ =>
      cases same
      rw [emit, useful, if_neg Bool.false_ne_true, head?_separator_append]
      split
      · simp
      · rename_i due
        rintro ⟨⟩
        exact due (by rw [star rfl rfl]; decide)
  | opening quote _ _ _ =>
      cases same
      rw [emit, head?_separator_append]
      split
      · simp
      · rintro ⟨⟩
        exact absurd quote (by decide)
  | _ => cases same

theorem steady_emit {site : Site} {pending : Bool} {glyphs : List Glyph} {last : Option Char}
    (legible : Legible site pending glyphs) (ends : site.Ends last) :
    Steady site (emit last pending glyphs) := by
  induction legible generalizing last with
  | nil => exact trivial
  | gap _ ih => exact ih ends
  | idle idle _ ih =>
      cases ends
      rw [emit, if_pos idle]
      exact ih rfl
  | code visible useful named star legible ih =>
      cases ends
      rw [emit, useful, if_neg Bool.false_ne_true]
      refine steady_separator visible useful ?_ ?_
      · rintro rfl
        exact legible.head?_emit_slash
      · rw [Site.next, opens_lead_of_apostrophe named, if_neg Bool.false_ne_true]
        exact ih rfl
  | opening quote before legible ih =>
      cases ends
      rw [emit]
      refine steady_separator (not_isBlank_of_isQuote quote)
        (not_isIdleSemicolon_of_isQuote quote _) ?_ ?_
      · rintro rfl
        exact absurd quote (by decide)
      · rw [Site.next, opens_lead_of_opening quote before, if_pos rfl]
        exact ih trivial
  | inner other plain _ ih =>
      rw [emit]
      refine ⟨rfl, ?_⟩
      rw [Site.next_inner other plain]
      exact ih trivial
  | backslash quote _ ih =>
      rw [emit]
      refine ⟨rfl, ?_⟩
      rw [Site.next_backslash quote]
      exact ih trivial
  | escaped _ ih => exact ⟨rfl, ih trivial⟩
  | closing _ _ ih =>
      rw [emit]
      refine ⟨rfl, ?_⟩
      rw [Site.next_mark]
      exact ih rfl

/-- What is written of a reading has the strings of the reading, and nothing else that
belongs to a string. -/
theorem filter_spell_emit {site : Site} {pending : Bool} {glyphs : List Glyph}
    {last : Option Char} (legible : Legible site pending glyphs) (ends : site.Ends last) :
    (spell site (emit last pending glyphs)).filter Glyph.isQuoted =
      glyphs.filter Glyph.isQuoted := by
  induction legible generalizing last with
  | nil => rfl
  | gap _ ih =>
      rw [emit, ih ends]
      rfl
  | idle idle _ ih =>
      cases ends
      rw [emit, if_pos idle, ih rfl]
      rfl
  | code visible useful named _ _ ih =>
      cases ends
      have apostrophe := opens_lead_of_apostrophe named
      rw [emit, useful, if_neg Bool.false_ne_true, filter_spell_separator]
      simp [spell, Site.next, apostrophe, Site.glyph_of_apostrophe visible apostrophe,
        Glyph.isQuoted, ih rfl]
  | opening quote before _ ih =>
      cases ends
      have opening := opens_lead_of_opening quote before
      rw [emit, filter_spell_separator]
      simp [spell, Site.next, opening, Site.glyph_of_opening opening, List.filter_cons, Glyph.isQuoted, ih trivial]
  | inner other plain _ ih =>
      simp [emit, spell, Site.next_inner other plain, Site.glyph, other, List.filter_cons,
        Glyph.isQuoted, ih trivial]
  | backslash quote _ ih =>
      have other := ne_backslash_of_isQuote quote
      simp [emit, spell, Site.next_backslash quote, Site.glyph, other.symm, List.filter_cons,
        Glyph.isQuoted, ih trivial]
  | escaped _ ih => simp [emit, spell, Site.next, Site.glyph, List.filter_cons, Glyph.isQuoted, ih trivial]
  | closing _ _ ih => simp [emit, spell, Site.next_mark, Site.glyph, List.filter_cons, Glyph.isQuoted, ih rfl]

end Legible

theorem steady_emit_glyphs (css : List Char) : Steady (.code none) (emit none false (glyphs css)) := by
  have legible : Legible (.code none) false (glyphs css) :=
    legible_glyphsFrom (.code rfl (by simp))
  exact legible.steady_emit rfl

theorem Steady.first_visible {text : List Char} (steady : Steady (.code none) text) :
    ∀ c ∈ text.head?, isBlank c = false := by
  intro c first
  rcases List.head?_eq_some_iff.mp first with ⟨rest, rfl⟩
  by_contra blank
  obtain rfl := Site.eq_space_of_admits ((Bool.not_eq_false _).mp blank) steady.1
  rcases Site.admits_space.mp steady.1 with ⟨_, _, _, needed⟩
  exact Bool.false_ne_true needed

theorem Site.admits_none {site : Site} {c : Char} {following : Option Char}
    (visible : isBlank c = false) (admitted : site.admits c following = true) :
    site.admits c none = true := by
  cases site with
  | code last =>
      exact (admits_of_visible visible).mpr
        ⟨((admits_of_visible visible).mp admitted).1, by simp⟩
  | _ => rfl

/-- Cutting the end off a text leaves nothing needless behind, unless a space. -/
theorem Steady.of_append {front tail : List Char} {site : Site}
    (steady : Steady site (front ++ tail)) (last : ∀ c ∈ front.getLast?, isBlank c = false) :
    Steady site front := by
  induction front generalizing site with
  | nil => exact trivial
  | cons c rest ih =>
      rcases steady with ⟨admitted, steady⟩
      cases rest with
      | nil => exact ⟨Site.admits_none (last c rfl) admitted, trivial⟩
      | cons d others => exact ⟨admitted, ih steady last⟩

theorem steady_collapse (css : List Char) : Steady (.code none) (collapse css) := by
  rw [collapse_eq]
  have steady := steady_emit_glyphs css
  rcases trim_prefix steady.first_visible with ⟨tail, cut⟩
  rw [← cut] at steady
  exact steady.of_append fun c last => not_isBlank_of_mem_getLast?_trim last

theorem filter_spell_emit_glyphs (css : List Char) :
    (spell (.code none) (emit none false (glyphs css))).filter Glyph.isQuoted =
      (glyphs css).filter Glyph.isQuoted := by
  have legible : Legible (.code none) false (glyphs css) :=
    legible_glyphsFrom (.code rfl (by simp))
  exact legible.filter_spell_emit rfl

end DesignTokens.Stylesheet
