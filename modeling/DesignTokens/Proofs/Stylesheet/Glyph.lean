import DesignTokens.Proofs.Text.Blank
import DesignTokens.Stylesheet.Minified

/-!
What the characters of a style sheet stand for.  A style sheet is read first, character
by character, and what is kept of it is then written from the reading alone.
-/

namespace DesignTokens.Stylesheet

inductive Glyph where
  | gap
  | code (c : Char)
  | opening (mark : Char)
  | inner (c : Char)
  | escaped (c : Char)
  | closing (mark : Char)
deriving DecidableEq, Repr

def opens (previous : Option Char) (c : Char) : Bool :=
  isQuote c && !previous.any isNameChar

/-- Reads a text, given the character before it and whether only blanks stand on its line so
far.  Two slashes begin a comment where nothing else precedes them on their line. -/
def glyphsFrom (mode : Mode) (previous : Option Char) (lineBlank : Bool) (text : List Char) :
    List Glyph :=
  match mode, text with
  | _, [] => []
  | .code, '/' :: '*' :: rest => .gap :: glyphsFrom .blockComment (some '*') false rest
  | .code, c :: rest =>
      if c == '/' && rest.head? == some '/' && lineBlank then
        .gap :: glyphsFrom .lineComment (some c) false rest
      else if isBlank c then
        .gap :: glyphsFrom .code (some c) (lineStaysBlank lineBlank c) rest
      else if opens previous c then .opening c :: glyphsFrom (.literal c) (some c) false rest
      else .code c :: glyphsFrom .code (some c) false rest
  | .blockComment, '*' :: '/' :: rest => .gap :: glyphsFrom .code (some '/') false rest
  | .blockComment, c :: rest =>
      .gap :: glyphsFrom .blockComment (some c) (lineStaysBlank lineBlank c) rest
  | .lineComment, c :: rest =>
      if c == '\n' then .gap :: glyphsFrom .code (some c) true rest
      else .gap :: glyphsFrom .lineComment (some c) false rest
  | .literal mark, '\\' :: c :: rest =>
      .inner '\\' :: .escaped c ::
        glyphsFrom (.literal mark) (some c) (lineStaysBlank false c) rest
  | .literal mark, c :: rest =>
      if c == mark then .closing c :: glyphsFrom .code (some c) (lineStaysBlank lineBlank c) rest
      else .inner c :: glyphsFrom (.literal mark) (some c) (lineStaysBlank lineBlank c) rest

def glyphs (css : List Char) : List Glyph :=
  glyphsFrom .code none true css

def separator (last : Option Char) (pending : Bool) (c : Char) : List Char :=
  if pending && needsSpace last.toList c then [' '] else []

def emit (last : Option Char) (pending : Bool) : List Glyph → List Char
  | [] => []
  | .gap :: rest => emit last true rest
  | .code c :: rest =>
      if isIdleSemicolon last.toList c then emit last false rest
      else separator last pending c ++ c :: emit (some c) false rest
  | .opening mark :: rest => separator last pending mark ++ mark :: emit (some mark) false rest
  | .inner c :: rest => c :: emit (some c) false rest
  | .escaped c :: rest => c :: emit (some c) false rest
  | .closing mark :: rest => mark :: emit (some mark) false rest

theorem not_isNameChar_of_isBlank {c : Char} (blank : isBlank c = true) :
    isNameChar c = false := by
  have none : blanks.all (!isNameChar ·) = true := by decide +kernel
  simpa using List.all_eq_true.mp none c (mem_blanks_of_isBlank blank)

theorem isTight_iff {c : Char} : isTight c = true ↔ c ∈ ['{', '}', ';', ':', ',', '>'] := by
  simp [isTight, or_assoc]

theorem isQuote_iff {c : Char} : isQuote c = true ↔ c ∈ ['"', '\''] := by
  simp [isQuote]

theorem opens_iff {previous : Option Char} {c : Char} :
    opens previous c = true ↔ isQuote c = true ∧ previous.any isNameChar = false := by
  rw [opens, Bool.and_eq_true, Bool.not_eq_true']

theorem not_isTight_of_isNameChar {c : Char} (named : isNameChar c = true) :
    isTight c = false := by
  have none : ['{', '}', ';', ':', ',', '>'].all (!isNameChar ·) = true := by decide
  rw [← Bool.not_eq_true]
  intro tight
  have other := List.all_eq_true.mp none c (isTight_iff.mp tight)
  simp [named] at other

theorem not_isTight_of_isQuote {c : Char} (quote : isQuote c = true) : isTight c = false := by
  have none : ['"', '\''].all (!isTight ·) = true := by decide
  simpa using List.all_eq_true.mp none c (isQuote_iff.mp quote)

theorem not_isBlank_of_isQuote {c : Char} (quote : isQuote c = true) : isBlank c = false := by
  have none : ['"', '\''].all (!isBlank ·) = true := by decide
  simpa using List.all_eq_true.mp none c (isQuote_iff.mp quote)

theorem ne_semicolon_of_isQuote {c : Char} (quote : isQuote c = true) : c ≠ ';' := by
  rintro rfl
  exact absurd quote (by decide)

theorem ne_backslash_of_isQuote {c : Char} (quote : isQuote c = true) : c ≠ '\\' := by
  rintro rfl
  exact absurd quote (by decide)

theorem needsSpace_head? (kept : List Char) (c : Char) :
    needsSpace kept.head?.toList c = needsSpace kept c := by
  cases kept <;> rfl

theorem isIdleSemicolon_head? (kept : List Char) (c : Char) :
    isIdleSemicolon kept.head?.toList c = isIdleSemicolon kept c := by
  cases kept <;> rfl

theorem isIdleSemicolon_iff {last : Option Char} {c : Char} :
    isIdleSemicolon last.toList c = true ↔ c = ';' ∧ (last = some ';' ∨ last = some '{') := by
  cases last <;> simp [isIdleSemicolon]

theorem isIdleSemicolon_of_ne {c : Char} (other : c ≠ ';') (kept : List Char) :
    isIdleSemicolon kept c = false := by
  simp only [isIdleSemicolon, beq_false_of_ne other, Bool.false_and]

theorem not_isIdleSemicolon_of_isQuote {c : Char} (quote : isQuote c = true) (kept : List Char) :
    isIdleSemicolon kept c = false :=
  isIdleSemicolon_of_ne (ne_semicolon_of_isQuote quote) kept

theorem needsSpace_semicolon (kept : List Char) : needsSpace kept ';' = false := by
  cases kept <;> simp [needsSpace, isTight]

theorem separator_semicolon (last : Option Char) (pending : Bool) :
    separator last pending ';' = [] := by
  rw [separator, needsSpace_semicolon, Bool.and_false, if_neg Bool.false_ne_true]

def lead (last : Option Char) (pending : Bool) (c : Char) : Option Char :=
  if pending && needsSpace last.toList c then some ' ' else last

theorem head?_separator (kept : List Char) (pending : Bool) (c : Char) :
    ((separator kept.head? pending c).reverse ++ kept).head? = lead kept.head? pending c := by
  rw [separator, lead]
  split <;> rfl

theorem opensLiteral_head? (kept : List Char) (c : Char) :
    opensLiteral kept c = opens kept.head? c := by
  cases kept <;> simp [opensLiteral, opens]

/-- After a gap every quote opens a string: either a space goes before it, or the character
before it is none of a word. -/
theorem opens_lead (last : Option Char) (pending : Bool) (c : Char) :
    opens (lead last pending c) c = (isQuote c && (pending || !last.any isNameChar)) := by
  by_cases quote : isQuote c = true
  · have loose := not_isTight_of_isQuote quote
    have unnamed : isNameChar ' ' = false := by decide
    rcases last with _ | last
    · simp [lead, needsSpace, opens, quote]
    · cases pending with
      | false => simp [lead, opens, quote]
      | true =>
          by_cases tight : isTight last = true
          · have unnamed : isNameChar last = false := by
              rw [← Bool.not_eq_true]
              intro named
              exact Bool.false_ne_true ((not_isTight_of_isNameChar named).symm.trans tight)
            simp [lead, needsSpace, opens, quote, tight, unnamed]
          · simp [lead, needsSpace, opens, quote, tight, loose, unnamed]
  · simp [opens, quote]

theorem keep_eq (kept : List Char) (pending : Bool) (c : Char) :
    keep kept pending c =
      if isIdleSemicolon kept.head?.toList c then (.code, kept)
      else (if isQuote c && (pending || !kept.head?.any isNameChar) then .literal c else .code,
        c :: (separator kept.head? pending c).reverse ++ kept) := by
  have spaced : (if (pending && needsSpace kept c) = true then ' ' :: kept else kept) =
      (separator kept.head? pending c).reverse ++ kept := by
    rw [separator, needsSpace_head?]
    split <;> rfl
  simp only [keep, spaced, opensLiteral_head?, head?_separator, opens_lead, isIdleSemicolon_head?]
  by_cases semicolon : c = ';'
  · subst semicolon
    rw [separator_semicolon]
    rfl
  · simp only [isIdleSemicolon_of_ne semicolon]
    rfl

theorem collapseFrom_eq_emit {mode : Mode} {kept : List Char} {pending lineBlank : Bool}
    {text : List Char} (previous : Option Char)
    (alike : mode = .code →
      previous.any isNameChar = (!pending && kept.head?.any isNameChar)) :
    collapseFrom mode kept pending lineBlank text =
      (emit kept.head? pending (glyphsFrom mode previous lineBlank text)).reverse ++ kept := by
  -- The last character read need not be the last one kept, but over code a quote opens a
  -- string behind the one exactly if it does behind the other.
  fun_induction collapseFrom mode kept pending lineBlank text generalizing previous with
  | case1 => simp [glyphsFrom, emit]
  | case2 kept pending lineBlank rest ih =>
      rw [glyphsFrom, emit]
      exact ih _ (by simp)
  | case3 kept pending lineBlank c rest apart comment ih =>
      rw [glyphsFrom, if_pos comment, emit]
      · exact ih _ (by simp)
      · exact apart
  | case4 kept pending lineBlank c rest apart code blank ih =>
      rw [glyphsFrom, if_neg code, if_pos blank, emit]
      · exact ih _ fun _ => not_isNameChar_of_isBlank blank
      · exact apart
  | case5 kept pending lineBlank c rest apart code visible next ih =>
      have found : opens previous c = (isQuote c && (pending || !kept.head?.any isNameChar)) := by
        rw [opens, alike rfl, Bool.not_and, Bool.not_not]
      have step : next = _ := keep_eq kept pending c
      rw [← found] at step
      clear_value next
      rw [glyphsFrom, if_neg code, if_neg visible]
      · by_cases opening : opens previous c = true
        · have quote := (Bool.and_eq_true _ _ ▸ opening : isQuote c = true ∧ _).1
          rw [not_isIdleSemicolon_of_isQuote quote, if_neg Bool.false_ne_true, if_pos opening] at step
          subst step
          rw [if_pos opening, emit, ih (some c) (by simp)]
          simp
        · rw [if_neg opening] at step ⊢
          rw [emit]
          by_cases idle : isIdleSemicolon kept.head?.toList c = true
          · rw [if_pos idle] at step ⊢
            subst step
            rcases isIdleSemicolon_iff.mp idle with ⟨rfl, before⟩
            refine ih _ fun _ => ?_
            rcases before with before | before <;> rw [before] <;> decide
          · rw [if_neg idle] at step ⊢
            subst step
            rw [ih (some c) fun _ => rfl]
            simp
      · exact apart
  | case6 kept pending lineBlank rest ih =>
      rw [glyphsFrom, emit]
      exact ih _ fun _ => rfl
  | case7 kept pending lineBlank c rest apart ih =>
      rw [glyphsFrom, emit]
      · exact ih _ (by simp)
      · exact apart
  | case8 kept pending lineBlank c rest line ih =>
      rw [glyphsFrom, if_pos line, emit]
      exact ih _ fun _ => by rw [beq_iff_eq.mp line]; rfl
  | case9 kept pending lineBlank c rest line ih =>
      rw [glyphsFrom, if_neg line, emit]
      exact ih _ (by simp)
  | case10 kept pending lineBlank mark c rest ih =>
      rw [glyphsFrom, emit, emit, ih (some c) (by simp)]
      simp
  | case11 kept pending lineBlank mark c rest apart ih =>
      by_cases closes : (c == mark) = true
      · rw [if_pos closes] at ih ⊢
        rw [glyphsFrom, if_pos closes, emit, ih (some c) fun _ => rfl]
        · simp
        · exact apart
      · rw [if_neg closes] at ih ⊢
        rw [glyphsFrom, if_neg closes, emit, ih (some c) (by simp)]
        · simp
        · exact apart

theorem collapse_eq (css : List Char) : collapse css = trim (emit none false (glyphs css)) := by
  rw [collapse, collapseFrom_eq_emit none fun _ => rfl, List.append_nil, List.reverse_reverse]
  rfl

end DesignTokens.Stylesheet
