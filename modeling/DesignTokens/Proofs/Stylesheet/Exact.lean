import DesignTokens.Proofs.Stylesheet.Items

/-!
What is left of a style sheet when its blanks are collapsed: its items, but for the semicolons
that say nothing, and a space between two of them where they stood apart and it matters.
-/

namespace DesignTokens.Stylesheet

def keptAfter (last : Option Item) (apart : Bool) : List (Bool × Item) → List (Bool × Item)
  | [] => []
  | (gap, item) :: rest =>
      if item.isIdle last then keptAfter last (apart || gap) rest
      else (apart || gap, item) :: keptAfter (some item) false rest

/-- Items next to each other, with a space between two of them if they stood apart and neither
is tight. -/
def writtenAfter (last : Option Item) : List (Bool × Item) → List Char
  | [] => []
  | (gap, item) :: rest =>
      (if gap && last.any (!·.isTight) && !item.isTight then [' '] else []) ++ item.text ++
        writtenAfter (some item) rest

def written (items : List (Bool × Item)) : List Char :=
  writtenAfter none (keptAfter none false items)

/-- Outside its quoted strings a text has no block comment, no blank but single spaces between
two characters neither of which is tight, and no idle semicolon. -/
def Tidy (text : List Char) : Prop :=
  ∀ front c rest last, text = front ++ c :: rest →
    front.foldl Site.next (.code none) = .code last →
      (isBlank c = true → c = ' ' ∧ (∃ b ∈ front.getLast?, isTight b = false) ∧
        ∃ d ∈ rest.head?, isBlank d = false ∧ isTight d = false) ∧
      (c = '/' → rest.head? ≠ some '*') ∧
      (c = ';' → front.getLast? ≠ some ';' ∧ front.getLast? ≠ some '{')

inductive Item.Ends : Option Item → Option Char → Prop
  | none : Ends none none
  | char {c} : Ends (some (char c)) (some c)
  | literal {text mark} : isQuote mark = true → Ends (some (literal text)) (some mark)

namespace Item.Ends

variable {last : Option Item} {ending : Option Char}

theorem isIdle (ends : Ends last ending) (c : Char) :
    (Item.char c).isIdle last = isIdleSemicolon ending.toList c := by
  rw [Bool.eq_iff_iff, isIdleSemicolon_iff, Item.isIdle, decide_eq_true_iff]
  cases ends with
  | none => simp
  | char => simp
  | @literal text mark quote =>
      have brace : mark ≠ '{' := by
        rintro rfl
        exact absurd quote (by decide)
      simp [ne_semicolon_of_isQuote quote, brace]

theorem needsSpace (ends : Ends last ending) (c : Char) :
    needsSpace ending.toList c = (last.any (!·.isTight) && !Stylesheet.isTight c) := by
  cases ends with
  | none => rfl
  | char => rfl
  | literal quote => simp [Stylesheet.needsSpace, isTight, not_isTight_of_isQuote quote]

/-- A blank is due between two characters if and only if it is between their items. -/
theorem separator (ends : Ends last ending) {pending gap : Bool}
    (due : last.any (!·.isTight) = true → pending = gap) (c : Char) :
    separator ending pending c =
      if gap && last.any (!·.isTight) && !Stylesheet.isTight c then [' '] else [] := by
  rw [Stylesheet.separator, ends.needsSpace]
  cases loose : last.any (!·.isTight) with
  | false => simp
  | true => rw [due loose, Bool.and_assoc]

end Item.Ends

theorem Item.any_loose_of_isIdle {last : Option Item} {item : Item}
    (idle : item.isIdle last = true) : last.any (!·.isTight) = false := by
  rcases (of_decide_eq_true idle).2 with rfl | rfl <;> rfl

/-- What is written of a text are the items that are kept.  Behind a tight item it does not
matter whether others stood apart from it, and so not either what a dropped semicolon hides. -/
theorem Reading.emit {previous : Option Char} {lineBlank apart : Bool} {text : List Char}
    {items : List (Bool × Item)} (reading : Reading previous lineBlank apart text items)
    {last : Option Item} {ending : Option Char} (ends : Item.Ends last ending)
    {before pending : Bool} (due : last.any (!·.isTight) = true → pending = (before || apart)) :
    emit ending pending (glyphsFrom .code previous lineBlank text) =
      writtenAfter last (keptAfter last before items) := by
  induction reading generalizing last ending before pending with
  | nil => rfl
  | blank blank _ ih =>
      rw [glyphsFrom_blank blank, Stylesheet.emit]
      exact ih ends fun _ => (Bool.or_true before).symm
  | comment unclosed _ ih =>
      rw [glyphsFrom, glyphsFrom_comment unclosed, Stylesheet.emit, emit_gaps]
      exact ih ends fun _ => (Bool.or_true before).symm
  | openComment unclosed =>
      rw [glyphsFrom, glyphsFrom_openComment unclosed, Stylesheet.emit,
        ← List.append_nil (List.replicate _ _), emit_gaps]
      rfl
  | lineComment inLine behind _ ih =>
      rw [glyphsFrom_code_lineComment inLine behind, Stylesheet.emit, emit_gaps]
      exact ih ends fun _ => (Bool.or_true before).symm
  | @literal _ _ apart mark body rest items opening quoted _ ih =>
      have quote := (opens_iff.mp opening).1
      have useful : (Item.literal (mark :: body)).isIdle last = false := decide_eq_false (by simp)
      have onwards : Stylesheet.emit (some mark) false (glyphsFrom .code (some mark) false rest) =
          writtenAfter (some (.literal (mark :: body)))
            (keptAfter (some (.literal (mark :: body))) false items) :=
        ih (.literal quote) fun _ => rfl
      rw [glyphsFrom_opening opening, quoted.glyphsFrom quote, Stylesheet.emit, quoted.emit quote,
        onwards, ends.separator due, not_isTight_of_isQuote quote, keptAfter, useful,
        if_neg Bool.false_ne_true, writtenAfter, Item.isTight, Item.text]
      simp
  | @char _ _ apart c rest items visible apostrophe star slash _ ih =>
      rw [glyphsFrom_char visible apostrophe star slash, Stylesheet.emit, keptAfter,
        ← ends.isIdle]
      by_cases idle : (Item.char c).isIdle last = true
      · rw [if_pos idle, if_pos idle]
        refine ih ends fun loose => absurd loose ?_
        rw [Item.any_loose_of_isIdle idle]
        exact Bool.false_ne_true
      · have onwards : Stylesheet.emit (some c) false (glyphsFrom .code (some c) false rest) =
            writtenAfter (some (.char c)) (keptAfter (some (.char c)) false items) :=
          ih .char fun _ => rfl
        rw [if_neg idle, if_neg idle, writtenAfter, onwards, ends.separator due, Item.isTight,
          Item.text]
        simp

namespace Site

theorem ends_next (site : Site) (c : Char) : (site.next c).Ends (some c) := by
  cases site with
  | code last =>
      rw [next]
      split <;> trivial
  | literal mark =>
      rw [next]
      split
      · rfl
      · split <;> trivial
  | escape mark => trivial

theorem ends_foldl (front : List Char) :
    (front.foldl next (code none)).Ends front.getLast? := by
  rcases List.eq_nil_or_concat' front with rfl | ⟨front, c, rfl⟩
  · rfl
  · rw [List.foldl_append, List.getLast?_concat]
    exact ends_next _ c

end Site

theorem needsSpace_iff {last : Option Char} {d : Char} :
    needsSpace last.toList d = true ↔ (∃ b ∈ last, isTight b = false) ∧ isTight d = false := by
  cases last <;> simp [needsSpace]

theorem Steady.tidy {text : List Char} (steady : Steady (.code none) text) : Tidy text := by
  rintro front c rest last rfl outside
  have ends := Site.ends_foldl front
  rcases steady.of_append_right with ⟨admitted, _⟩
  rw [outside] at ends admitted
  obtain rfl : last = front.getLast? := ends
  refine ⟨fun blank => ?_, fun slash => ?_, fun semicolon => ?_⟩
  · obtain rfl := Site.eq_space_of_admits blank admitted
    rcases Site.admits_space.mp admitted with ⟨d, next, visible, needed⟩
    rcases needsSpace_iff.mp needed with ⟨before, loose⟩
    exact ⟨rfl, before, d, next, visible, loose⟩
  · subst slash
    exact ((Site.admits_of_visible (by decide)).mp admitted).2 rfl
  · subst semicolon
    have useful := ((Site.admits_of_visible (by decide)).mp admitted).1
    constructor <;> intro before <;> rw [before] at useful <;> exact absurd useful (by decide)

theorem collapse_of_closed {css : List Char} (closed : closedFrom false (glyphs css) = true) :
    collapse css = emit none false (glyphs css) := by
  have steady := steady_emit_glyphs css
  rw [← closedFrom_filter, ← filter_spell_emit_glyphs, closedFrom_filter] at closed
  have outside := (closedFrom_spell (.code none) _).symm.trans closed
  rw [collapse_eq]
  exact trim_eq_self steady.first_visible
    (steady.visible_last (Site.marked_code none) (by simpa using outside))

theorem allClosed_iff {css : String} :
    AllClosed css ↔ ∃ items, Reading none true false css.toList items :=
  ⟨exists_reading false, fun ⟨_, reading⟩ => reading.glyphs.1⟩

/-- A style sheet whose strings are all closed consists of items in exactly one way.  What is
left of it are these items but for the idle semicolons, with the spaces that are due between them
and with nothing else. -/
theorem collapse_exact {css : String} (closed : AllClosed css) :
    ∃ items, (∀ other, Reading none true false css.toList other ↔ other = items) ∧
      collapse css.toList = written items ∧ Tidy (collapse css.toList) := by
  rcases allClosed_iff.mp closed with ⟨items, reading⟩
  refine ⟨items, fun other => ⟨fun another => ?_, ?_⟩, ?_, ?_⟩
  · exact another.glyphs.2.symm.trans reading.glyphs.2
  · rintro rfl
    exact reading
  · rw [collapse_of_closed closed]
    exact reading.emit .none nofun
  · exact (steady_collapse css.toList).tidy

theorem collapse_exact_comment :
    AllClosed "a /*'*/ b \x7b; ;c : 'd  e' ;\n // f" ∧
      (∃ items, (∀ other,
          Reading none true false "a /*'*/ b \x7b; ;c : 'd  e' ;\n // f".toList other ↔
            other = items) ∧
        "a b\x7bc:'d  e';".toList = written items ∧ Tidy "a b\x7bc:'d  e';".toList) := by
  have closed : AllClosed "a /*'*/ b \x7b; ;c : 'd  e' ;\n // f" := by decide
  have short : collapse "a /*'*/ b \x7b; ;c : 'd  e' ;\n // f".toList =
      "a b\x7bc:'d  e';".toList := by decide
  have reads := collapse_exact closed
  rw [short] at reads
  exact ⟨closed, reads⟩

end DesignTokens.Stylesheet
