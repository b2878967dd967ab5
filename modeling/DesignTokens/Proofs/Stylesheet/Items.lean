import DesignTokens.Proofs.Stylesheet.Literals

/-!
Style sheets as sequences of items, which are quoted strings and single characters outside of
them, with blanks and comments between some.
-/

namespace DesignTokens.Stylesheet

inductive Item where
  | char (c : Char)
  | literal (text : List Char)
deriving DecidableEq, Repr

namespace Item

def text : Item → List Char
  | char c => [c]
  | literal text => text

def isTight : Item → Bool
  | char c => Stylesheet.isTight c
  | literal _ => false

def isIdle (last : Option Item) (item : Item) : Bool :=
  item = char ';' ∧ (last = some (char ';') ∨ last = some (char '{'))

end Item

inductive Quoted (mark : Char) : List Char → Prop
  | close : Quoted mark [mark]
  | escape {c rest} : Quoted mark rest → Quoted mark ('\\' :: c :: rest)
  | step {c rest} : c ≠ mark → c ≠ '\\' → Quoted mark rest → Quoted mark (c :: rest)

/-- The items that a text consists of, each with whether blanks or comments stand before it,
where `apart` says whether some stand before the text.  A quote opens a string unless it stands
right behind a character of a word, and two slashes begin a comment if only blanks precede them
on their line.  A block comment that is not closed goes on to the end. -/
inductive Reading : Option Char → Bool → Bool → List Char → List (Bool × Item) → Prop
  | nil {previous lineBlank apart} : Reading previous lineBlank apart [] []
  | blank {previous lineBlank apart c rest items} : isBlank c = true →
      Reading (some c) (lineStaysBlank lineBlank c) true rest items →
      Reading previous lineBlank apart (c :: rest) items
  | comment {previous lineBlank apart body rest items} : ¬ ['*', '/'] <:+: body →
      Reading (some '/') false true rest items →
      Reading previous lineBlank apart ('/' :: '*' :: (body ++ '*' :: '/' :: rest)) items
  | openComment {previous lineBlank apart body} : ¬ ['*', '/'] <:+: body →
      Reading previous lineBlank apart ('/' :: '*' :: body) []
  | lineComment {previous apart body rest items} : '\n' ∉ body → (∀ c ∈ rest.head?, c = '\n') →
      Reading (some '/') false true rest items →
      Reading previous true apart ('/' :: '/' :: (body ++ rest)) items
  | literal {previous lineBlank apart mark body rest items} : opens previous mark = true →
      Quoted mark body → Reading (some mark) false false rest items →
      Reading previous lineBlank apart (mark :: (body ++ rest))
        ((apart, .literal (mark :: body)) :: items)
  | char {previous lineBlank apart c rest items} : isBlank c = false → opens previous c = false →
      (c = '/' → rest.head? ≠ some '*') → (c = '/' → lineBlank = true → rest.head? ≠ some '/') →
      Reading (some c) false false rest items →
      Reading previous lineBlank apart (c :: rest) ((apart, .char c) :: items)

theorem glyphsFrom_openComment {body : List Char} (unclosed : ¬ ['*', '/'] <:+: body)
    (previous : Option Char) (lineBlank : Bool) :
    glyphsFrom .blockComment previous lineBlank body = List.replicate body.length .gap := by
  induction body generalizing previous lineBlank with
  | nil => rfl
  | cons c rest ih =>
      have onwards := ih fun inside => unclosed (inside.trans (List.suffix_cons c rest).isInfix)
      rw [glyphsFrom, onwards]
      · rfl
      · rintro others rfl rfl
        exact unclosed (List.prefix_append ['*', '/'] others).isInfix

theorem glyphsFrom_comment {body : List Char} (unclosed : ¬ ['*', '/'] <:+: body)
    (previous : Option Char) (lineBlank : Bool) (rest : List Char) :
    glyphsFrom .blockComment previous lineBlank (body ++ '*' :: '/' :: rest) =
      List.replicate (body.length + 1) .gap ++ glyphsFrom .code (some '/') false rest := by
  induction body generalizing previous lineBlank with
  | nil => rw [List.nil_append, glyphsFrom]; rfl
  | cons c body ih =>
      have onwards := ih fun inside => unclosed (inside.trans (List.suffix_cons c body).isInfix)
      rw [List.cons_append, glyphsFrom, onwards]
      · rfl
      · rintro others rfl next
        cases body with
        | nil => simp at next
        | cons d body =>
            obtain ⟨rfl, _⟩ := List.cons.inj next
            exact unclosed (List.prefix_append ['*', '/'] body).isInfix

theorem glyphsFrom_lineComment {body rest : List Char} (inLine : '\n' ∉ body)
    (ends : ∀ c ∈ rest.head?, c = '\n') (previous : Option Char) (lineBlank : Bool) :
    glyphsFrom .lineComment previous lineBlank (body ++ rest) =
      List.replicate body.length .gap ++ glyphsFrom .code (some '/') false rest := by
  induction body generalizing previous lineBlank with
  | nil =>
      cases rest with
      | nil => rfl
      | cons c rest =>
          obtain rfl := ends c rfl
          rfl
  | cons c body ih =>
      rcases not_or.mp (mt List.mem_cons.mpr inLine) with ⟨other, inLine⟩
      rw [List.cons_append, glyphsFrom, if_neg (by simpa using Ne.symm other), ih inLine]
      rfl

theorem Quoted.glyphsFrom {mark : Char} (quote : isQuote mark = true) {body : List Char}
    (quoted : Quoted mark body) (previous : Option Char) (lineBlank : Bool) (rest : List Char) :
    glyphsFrom (.literal mark) previous lineBlank (body ++ rest) =
      spell (.literal mark) body ++ glyphsFrom .code (some mark) false rest := by
  have slash := ne_backslash_of_isQuote quote
  induction quoted generalizing previous lineBlank with
  | close =>
      rw [List.singleton_append, Stylesheet.glyphsFrom, if_pos (beq_self_eq_true mark),
        lineStaysBlank_of_isQuote quote, spell, Site.glyph_mark]
      · rfl
      · rintro _ _ same
        exact absurd same slash
  | escape _ ih =>
      rw [List.cons_append, List.cons_append, Stylesheet.glyphsFrom, ih, spell,
        Site.glyph_inner slash.symm, Site.next_backslash quote]
      rfl
  | step other plain _ ih =>
      rw [List.cons_append, Stylesheet.glyphsFrom, if_neg (by simpa using other), ih, spell,
        Site.glyph_inner other, Site.next_inner other plain]
      · rfl
      · rintro _ _ same
        exact absurd same plain

def itemsFrom (apart : Bool) (held : List Char) : List Glyph → List (Bool × Item)
  | [] => []
  | .gap :: rest => itemsFrom true held rest
  | .code c :: rest => (apart, .char c) :: itemsFrom false [] rest
  | .opening mark :: rest => itemsFrom apart [mark] rest
  | .inner c :: rest | .escaped c :: rest => itemsFrom apart (c :: held) rest
  | .closing mark :: rest => (apart, .literal (mark :: held).reverse) :: itemsFrom false [] rest

theorem emit_gaps (last : Option Char) (count : Nat) (rest : List Glyph) :
    emit last true (List.replicate count .gap ++ rest) = emit last true rest := by
  induction count with
  | zero => rfl
  | succ count ih => exact ih

theorem closedFrom_gaps (inside : Bool) (count : Nat) (rest : List Glyph) :
    closedFrom inside (List.replicate count .gap ++ rest) = closedFrom inside rest := by
  induction count with
  | zero => rfl
  | succ count ih => exact ih

theorem itemsFrom_gaps (held : List Char) (count : Nat) (rest : List Glyph) :
    itemsFrom true held (List.replicate count .gap ++ rest) = itemsFrom true held rest := by
  induction count with
  | zero => rfl
  | succ count ih => exact ih

namespace Quoted

variable {mark : Char} {body : List Char}

theorem emit (quote : isQuote mark = true) (quoted : Quoted mark body) (last : Option Char)
    (rest : List Glyph) :
    emit last false (spell (.literal mark) body ++ rest) =
      body ++ Stylesheet.emit (some mark) false rest := by
  have slash := (ne_backslash_of_isQuote quote).symm
  induction quoted generalizing last with
  | close => rw [spell, Site.glyph_mark]; rfl
  | escape _ ih =>
      rw [spell, Site.glyph_inner slash, Site.next_backslash quote, spell]
      exact congrArg (_ :: _ :: ·) (ih _)
  | step other plain _ ih =>
      rw [spell, Site.glyph_inner other, Site.next_inner other plain]
      exact congrArg (_ :: ·) (ih _)

theorem closedFrom (quote : isQuote mark = true) (quoted : Quoted mark body) (rest : List Glyph) :
    closedFrom true (spell (.literal mark) body ++ rest) = Stylesheet.closedFrom false rest := by
  have slash := (ne_backslash_of_isQuote quote).symm
  induction quoted with
  | close => rw [spell, Site.glyph_mark]; rfl
  | escape _ ih =>
      rw [spell, Site.glyph_inner slash, Site.next_backslash quote, spell]
      exact ih
  | step other plain _ ih =>
      rw [spell, Site.glyph_inner other, Site.next_inner other plain]
      exact ih

theorem itemsFrom (quote : isQuote mark = true) (quoted : Quoted mark body) (apart : Bool)
    (held : List Char) (rest : List Glyph) :
    itemsFrom apart held (spell (.literal mark) body ++ rest) =
      (apart, .literal (held.reverse ++ body)) :: Stylesheet.itemsFrom false [] rest := by
  have slash := (ne_backslash_of_isQuote quote).symm
  induction quoted generalizing held with
  | close =>
      rw [spell, Site.glyph_mark, ← List.reverse_cons]
      rfl
  | @escape c _ _ ih =>
      have onwards := ih (c :: '\\' :: held)
      rw [spell, Site.glyph_inner slash, Site.next_backslash quote, spell]
      rw [List.reverse_cons, List.reverse_cons, List.append_assoc, List.append_assoc] at onwards
      exact onwards
  | @step c _ other plain _ ih =>
      have onwards := ih (c :: held)
      rw [spell, Site.glyph_inner other, Site.next_inner other plain]
      rw [List.reverse_cons, List.append_assoc] at onwards
      exact onwards

end Quoted

section Code

variable {previous : Option Char} {c : Char} {rest : List Char} {lineBlank : Bool}

theorem glyphsFrom_blank (blank : isBlank c = true) :
    glyphsFrom .code previous lineBlank (c :: rest) =
      .gap :: glyphsFrom .code (some c) (lineStaysBlank lineBlank c) rest := by
  have solid : c ≠ '/' := by
    rintro rfl
    exact absurd blank (by decide)
  rw [glyphsFrom, if_neg (by simp [solid]), if_pos blank]
  exact fun _ same _ => solid same

theorem glyphsFrom_code_lineComment {body : List Char} (inLine : '\n' ∉ body)
    (ends : ∀ c ∈ rest.head?, c = '\n') :
    glyphsFrom .code previous true ('/' :: '/' :: (body ++ rest)) =
      .gap :: (List.replicate (body.length + 1) .gap ++
        glyphsFrom .code (some '/') false rest) := by
  have inside : '\n' ∉ '/' :: body := by simpa using inLine
  have onwards := glyphsFrom_lineComment inside ends (some '/') false
  rw [glyphsFrom, if_pos (by simp)]
  · exact congrArg (Glyph.gap :: ·) onwards
  · rintro _ _ ⟨⟩

theorem glyphsFrom_opening (opening : opens previous c = true) :
    glyphsFrom .code previous lineBlank (c :: rest) =
      .opening c :: glyphsFrom (.literal c) (some c) false rest := by
  have quote := (opens_iff.mp opening).1
  have solid : c ≠ '/' := by
    rintro rfl
    exact absurd quote (by decide)
  rw [glyphsFrom, if_neg (by simp [solid]), if_neg (by simp [not_isBlank_of_isQuote quote]),
    if_pos opening]
  exact fun _ same _ => solid same

theorem glyphsFrom_char (visible : isBlank c = false) (apostrophe : opens previous c = false)
    (star : c = '/' → rest.head? ≠ some '*')
    (slash : c = '/' → lineBlank = true → rest.head? ≠ some '/') :
    glyphsFrom .code previous lineBlank (c :: rest) =
      .code c :: glyphsFrom .code (some c) false rest := by
  rw [glyphsFrom, if_neg, visible, apostrophe]
  · rfl
  · simp only [Bool.and_eq_true, beq_iff_eq]
    rintro ⟨⟨same, next⟩, fresh⟩
    exact slash same fresh next
  · rintro others same rfl
    exact star same rfl

end Code

namespace Reading

variable {previous : Option Char} {lineBlank apart : Bool} {text : List Char}
  {items : List (Bool × Item)}

/-- A text has one reading at most, and none if a string in it is not closed. -/
theorem glyphs (reading : Reading previous lineBlank apart text items) :
    closedFrom false (glyphsFrom .code previous lineBlank text) = true ∧
      itemsFrom apart [] (glyphsFrom .code previous lineBlank text) = items := by
  induction reading with
  | nil => exact ⟨rfl, rfl⟩
  | blank blank _ ih =>
      rw [glyphsFrom_blank blank]
      exact ih
  | comment unclosed _ ih =>
      rw [glyphsFrom, glyphsFrom_comment unclosed, closedFrom, itemsFrom, closedFrom_gaps,
        itemsFrom_gaps]
      exact ih
  | openComment unclosed =>
      rw [glyphsFrom, glyphsFrom_openComment unclosed, closedFrom, itemsFrom,
        ← List.append_nil (List.replicate _ _), closedFrom_gaps, itemsFrom_gaps]
      exact ⟨rfl, rfl⟩
  | lineComment inLine ends _ ih =>
      rw [glyphsFrom_code_lineComment inLine ends, closedFrom, itemsFrom, closedFrom_gaps,
        itemsFrom_gaps]
      exact ih
  | literal opening quoted _ ih =>
      have quote := (opens_iff.mp opening).1
      rw [glyphsFrom_opening opening, quoted.glyphsFrom quote, closedFrom, itemsFrom,
        quoted.closedFrom quote, quoted.itemsFrom quote, ih.2]
      exact ⟨ih.1, rfl⟩
  | char visible apostrophe star slash _ ih =>
      rw [glyphsFrom_char visible apostrophe star slash, closedFrom, itemsFrom, ih.2]
      exact ⟨ih.1, rfl⟩

end Reading

theorem exists_comment {text : List Char} (closed : ['*', '/'] <:+: text) :
    ∃ body rest, text = body ++ '*' :: '/' :: rest ∧ ¬ ['*', '/'] <:+: body := by
  induction text with
  | nil => simp at closed
  | cons c text ih =>
      by_cases here : ['*', '/'] <+: c :: text
      · rcases here with ⟨rest, here⟩
        exact ⟨[], rest, here.symm, by simp⟩
      · have later := (List.infix_cons_iff.mp closed).resolve_left here
        rcases ih later with ⟨body, rest, rfl, unclosed⟩
        refine ⟨c :: body, rest, rfl, fun inside => ?_⟩
        rcases List.infix_cons_iff.mp inside with first | inside
        · exact here (first.trans (List.prefix_append (c :: body) _))
        · exact unclosed inside

theorem exists_line (text : List Char) :
    ∃ body rest, text = body ++ rest ∧ '\n' ∉ body ∧ ∀ c ∈ rest.head?, c = '\n' := by
  refine ⟨text.takeWhile (· != '\n'), text.dropWhile (· != '\n'),
    List.takeWhile_append_dropWhile.symm, fun inside => ?_, fun c first => ?_⟩
  · simpa using List.mem_takeWhile_imp inside
  · have stops := List.head?_dropWhile_not (· != '\n') text
    rw [Option.mem_def.mp first] at stops
    simpa using stops

theorem exists_quoted {mark : Char} {previous : Option Char} {lineBlank : Bool} {text : List Char}
    (closed : closedFrom true (glyphsFrom (.literal mark) previous lineBlank text) = true) :
    ∃ body rest, text = body ++ rest ∧ Quoted mark body := by
  generalize same : Mode.literal mark = mode at closed
  fun_induction glyphsFrom mode previous lineBlank text with
  | case1 => exact absurd closed (by decide)
  | case11 previous lineBlank mark c rest ih =>
      obtain rfl := Mode.literal.inj same
      rcases ih rfl closed with ⟨body, rest, rfl, quoted⟩
      exact ⟨_, rest, rfl, .escape quoted⟩
  | case12 previous lineBlank mark c rest apart closes ih =>
      obtain rfl := Mode.literal.inj same
      obtain rfl := beq_iff_eq.mp closes
      exact ⟨[c], rest, rfl, .close⟩
  | case13 previous lineBlank mark c rest apart other ih =>
      obtain rfl := Mode.literal.inj same
      rcases ih rfl closed with ⟨body, rest, rfl, quoted⟩
      refine ⟨c :: body, rest, rfl, .step (by simpa using other) ?_ quoted⟩
      rintro rfl
      cases quoted <;> exact apart _ _ rfl rfl
  | _ => cases same

theorem exists_reading {previous : Option Char} {lineBlank : Bool} {text : List Char}
    (apart : Bool)
    (closed : closedFrom false (glyphsFrom .code previous lineBlank text) = true) :
    ∃ items, Reading previous lineBlank apart text items := by
  induction bound : text.length using Nat.strongRecOn
    generalizing previous lineBlank text apart with
  | ind length ih =>
    subst bound
    cases text with
    | nil => exact ⟨[], .nil⟩
    | cons c rest =>
        by_cases star : c = '/' ∧ rest.head? = some '*'
        · rcases star with ⟨rfl, next⟩
          obtain ⟨text, rfl⟩ := List.head?_eq_some_iff.mp next
          by_cases ended : ['*', '/'] <:+: text
          · rcases exists_comment ended with ⟨body, rest, rfl, unclosed⟩
            rw [glyphsFrom, glyphsFrom_comment unclosed, closedFrom, closedFrom_gaps] at closed
            have shorter : rest.length < ('/' :: '*' :: (body ++ '*' :: '/' :: rest)).length := by
              simp only [List.length_cons, List.length_append]
              omega
            rcases ih rest.length shorter true closed rfl with ⟨items, reading⟩
            exact ⟨items, .comment unclosed reading⟩
          · exact ⟨[], .openComment ended⟩
        by_cases slash : c = '/' ∧ lineBlank = true ∧ rest.head? = some '/'
        · rcases slash with ⟨rfl, rfl, next⟩
          obtain ⟨text, rfl⟩ := List.head?_eq_some_iff.mp next
          rcases exists_line text with ⟨body, rest, rfl, inLine, ends⟩
          rw [glyphsFrom_code_lineComment inLine ends, closedFrom, closedFrom_gaps] at closed
          have shorter : rest.length < ('/' :: '/' :: (body ++ rest)).length := by
            simp only [List.length_cons, List.length_append]
            omega
          rcases ih rest.length shorter true closed rfl with ⟨items, reading⟩
          exact ⟨items, .lineComment inLine ends reading⟩
        by_cases blank : isBlank c = true
        · rw [glyphsFrom_blank blank] at closed
          rcases ih rest.length (Nat.lt_succ_self _) true closed rfl with ⟨items, reading⟩
          exact ⟨items, .blank blank reading⟩
        by_cases opening : opens previous c = true
        · rw [glyphsFrom_opening opening] at closed
          rcases exists_quoted closed with ⟨body, rest, rfl, quoted⟩
          have quote := (opens_iff.mp opening).1
          rw [quoted.glyphsFrom quote, closedFrom, quoted.closedFrom quote] at closed
          have shorter : rest.length < (c :: (body ++ rest)).length := by
            simp only [List.length_cons, List.length_append]
            omega
          rcases ih rest.length shorter false closed rfl with ⟨items, reading⟩
          exact ⟨_, .literal opening quoted reading⟩
        · have visible := (Bool.not_eq_true _).mp blank
          have apostrophe := (Bool.not_eq_true _).mp opening
          have noStar : c = '/' → rest.head? ≠ some '*' := fun same next => star ⟨same, next⟩
          have noSlash : c = '/' → lineBlank = true → rest.head? ≠ some '/' :=
            fun same fresh next => slash ⟨same, fresh, next⟩
          rw [glyphsFrom_char visible apostrophe noStar noSlash] at closed
          rcases ih rest.length (Nat.lt_succ_self _) false closed rfl with ⟨items, reading⟩
          exact ⟨_, .char visible apostrophe noStar noSlash reading⟩

end DesignTokens.Stylesheet
