import DesignTokens.Proofs.Stylesheet.Items

/-!
Texts that leave every string and block comment which they enter.  What stands on the next line
is read as if it stood alone.
-/

namespace DesignTokens.Stylesheet

def modeAfter (mode : Mode) (previous : Option Char) (lineBlank : Bool) (text : List Char) : Mode :=
  match mode, text with
  | _, [] => mode
  | .code, '/' :: '*' :: rest => modeAfter .blockComment (some '*') false rest
  | .code, c :: rest =>
      if c == '/' && rest.head? == some '/' && lineBlank then
        modeAfter .lineComment (some c) false rest
      else if isBlank c then modeAfter .code (some c) (lineStaysBlank lineBlank c) rest
      else if opens previous c then modeAfter (.literal c) (some c) false rest
      else modeAfter .code (some c) false rest
  | .blockComment, '*' :: '/' :: rest => modeAfter .code (some '/') false rest
  | .blockComment, c :: rest => modeAfter .blockComment (some c) (lineStaysBlank lineBlank c) rest
  | .lineComment, c :: rest =>
      if c == '\n' then modeAfter .code (some c) true rest
      else modeAfter .lineComment (some c) false rest
  | .literal mark, '\\' :: c :: rest =>
      modeAfter (.literal mark) (some c) (lineStaysBlank false c) rest
  | .literal mark, c :: rest =>
      if c == mark then modeAfter .code (some c) (lineStaysBlank lineBlank c) rest
      else modeAfter (.literal mark) (some c) (lineStaysBlank lineBlank c) rest

def Mode.isOutside : Mode → Bool
  | .code | .lineComment => true
  | .blockComment | .literal _ => false

theorem not_start_append {first second c : Char} (other : c ≠ second) {d : Char}
    {text : List Char} (apart : ∀ others, d = first → text = second :: others → False)
    (rest : List Char) : ∀ others, d = first → text ++ c :: rest = second :: others → False := by
  intro others same next
  cases text with
  | nil => exact other (List.cons.inj next).1
  | cons e text =>
      obtain ⟨rfl, _⟩ := List.cons.inj next
      exact apart text same rfl

theorem head?_append_slash {c : Char} (slash : c ≠ '/') (text rest : List Char) :
    ((text ++ c :: rest).head? == some '/') = (text.head? == some '/') := by
  cases text with
  | nil => simp [slash]
  | cons d text => rfl

theorem glyphsFrom_nil (mode : Mode) (previous : Option Char) (lineBlank : Bool) :
    glyphsFrom mode previous lineBlank [] = [] := by
  cases mode <;> rfl

/-- A text that ends outside of strings and block comments can be read on its own, if what comes
next does not begin a comment with its last character. -/
theorem glyphsFrom_append {mode : Mode} {previous : Option Char} {lineBlank : Bool}
    {text : List Char} (marked : ∀ mark, mode = .literal mark → isQuote mark = true)
    (outside : (modeAfter mode previous lineBlank text).isOutside = true) {c : Char}
    (star : c ≠ '*') (slash : c ≠ '/') (rest : List Char) :
    ∃ before fresh,
      glyphsFrom mode previous lineBlank (text ++ c :: rest) =
        glyphsFrom mode previous lineBlank text ++
          glyphsFrom (modeAfter mode previous lineBlank text) before fresh (c :: rest) ∧
      modeAfter mode previous lineBlank (text ++ c :: rest) =
        modeAfter (modeAfter mode previous lineBlank text) before fresh (c :: rest) := by
  -- The induction follows the reader, whose last step alone could look across the seam.
  fun_induction modeAfter mode previous lineBlank text with
  | case1 => exact ⟨_, _, by rw [glyphsFrom_nil]; rfl, rfl⟩
  | case2 previous lineBlank text ih =>
      rcases ih (by rintro _ ⟨⟩) outside with ⟨before, fresh, read, left⟩
      refine ⟨before, fresh, ?_, left⟩
      exact congrArg (Glyph.gap :: ·) read
  | case3 previous lineBlank d text apart comment ih =>
      rcases ih (by rintro _ ⟨⟩) outside with ⟨before, fresh, read, left⟩
      have behind := not_start_append star apart rest
      have same := head?_append_slash slash text rest
      refine ⟨before, fresh, ?_, ?_⟩
      · rw [List.cons_append, glyphsFrom, same, if_pos comment, read, glyphsFrom, if_pos comment]
        · rfl
        · exact apart
        · exact behind
      · rw [List.cons_append, modeAfter, same, if_pos comment, left]
        exact behind
  | case4 previous lineBlank d text apart code blank ih =>
      rcases ih (by rintro _ ⟨⟩) outside with ⟨before, fresh, read, left⟩
      have behind := not_start_append star apart rest
      have same := head?_append_slash slash text rest
      refine ⟨before, fresh, ?_, ?_⟩
      · rw [List.cons_append, glyphsFrom_blank blank, glyphsFrom_blank blank, read]
        rfl
      · rw [List.cons_append, modeAfter, same, if_neg code, if_pos blank, left]
        exact behind
  | case5 previous lineBlank d text apart code visible opening ih =>
      have quote := (opens_iff.mp opening).1
      rcases ih (by rintro _ ⟨⟩; exact quote) outside with ⟨before, fresh, read, left⟩
      have behind := not_start_append star apart rest
      have same := head?_append_slash slash text rest
      refine ⟨before, fresh, ?_, ?_⟩
      · rw [List.cons_append, glyphsFrom_opening opening, glyphsFrom_opening opening, read]
        rfl
      · rw [List.cons_append, modeAfter, same, if_neg code, if_neg visible, if_pos opening, left]
        exact behind
  | case6 previous lineBlank d text apart code visible opening ih =>
      rcases ih (by rintro _ ⟨⟩) outside with ⟨before, fresh, read, left⟩
      have behind := not_start_append star apart rest
      have same := head?_append_slash slash text rest
      refine ⟨before, fresh, ?_, ?_⟩
      · rw [List.cons_append, glyphsFrom, same, if_neg code, if_neg visible, if_neg opening, read,
          glyphsFrom, if_neg code, if_neg visible, if_neg opening]
        · rfl
        · exact apart
        · exact behind
      · rw [List.cons_append, modeAfter, same, if_neg code, if_neg visible, if_neg opening, left]
        exact behind
  | case7 previous lineBlank text ih =>
      rcases ih (by rintro _ ⟨⟩) outside with ⟨before, fresh, read, left⟩
      refine ⟨before, fresh, ?_, left⟩
      exact congrArg (Glyph.gap :: ·) read
  | case8 previous lineBlank d text apart ih =>
      rcases ih (by rintro _ ⟨⟩) outside with ⟨before, fresh, read, left⟩
      have behind := not_start_append slash apart rest
      refine ⟨before, fresh, ?_, ?_⟩
      · rw [List.cons_append, glyphsFrom, read, glyphsFrom]
        · rfl
        · exact apart
        · exact behind
      · rw [List.cons_append, modeAfter, left]
        exact behind
  | case9 previous lineBlank d text line ih =>
      rcases ih (by rintro _ ⟨⟩) outside with ⟨before, fresh, read, left⟩
      refine ⟨before, fresh, ?_, ?_⟩
      · rw [List.cons_append, glyphsFrom, if_pos line, read, glyphsFrom, if_pos line]
        rfl
      · rw [List.cons_append, modeAfter, if_pos line, left]
  | case10 previous lineBlank d text line ih =>
      rcases ih (by rintro _ ⟨⟩) outside with ⟨before, fresh, read, left⟩
      refine ⟨before, fresh, ?_, ?_⟩
      · rw [List.cons_append, glyphsFrom, if_neg line, read, glyphsFrom, if_neg line]
        rfl
      · rw [List.cons_append, modeAfter, if_neg line, left]
  | case11 previous lineBlank mark d text ih =>
      rcases ih marked outside with ⟨before, fresh, read, left⟩
      refine ⟨before, fresh, ?_, left⟩
      exact congrArg (Glyph.inner '\\' :: Glyph.escaped d :: ·) read
  | case12 previous lineBlank mark d text apart closes ih =>
      rcases ih (by rintro _ ⟨⟩) outside with ⟨before, fresh, read, left⟩
      have behind : ∀ e others, d = '\\' → text ++ c :: rest = e :: others → False := by
        rintro _ _ rfl _
        rw [← beq_iff_eq.mp closes] at marked
        exact absurd (marked _ rfl) (by decide)
      refine ⟨before, fresh, ?_, ?_⟩
      · rw [List.cons_append, glyphsFrom, if_pos closes, read, glyphsFrom, if_pos closes]
        · rfl
        · exact apart
        · exact behind
      · rw [List.cons_append, modeAfter, if_pos closes, left]
        exact behind
  | case13 previous lineBlank mark d text apart kept ih =>
      rcases ih marked outside with ⟨before, fresh, read, left⟩
      have behind : ∀ e others, d = '\\' → text ++ c :: rest = e :: others → False := by
        rintro _ _ rfl _
        cases text with
        | nil => exact Bool.false_ne_true outside
        | cons e text => exact apart e text rfl rfl
      refine ⟨before, fresh, ?_, ?_⟩
      · rw [List.cons_append, glyphsFrom, if_neg kept, read, glyphsFrom, if_neg kept]
        · rfl
        · exact apart
        · exact behind
      · rw [List.cons_append, modeAfter, if_neg kept, left]
        exact behind

theorem opens_congr {previous other : Option Char}
    (alike : previous.any isNameChar = other.any isNameChar) : opens previous = opens other := by
  funext c
  rw [opens, opens, alike]

theorem glyphsFrom_congr {previous other : Option Char}
    (alike : previous.any isNameChar = other.any isNameChar) (lineBlank : Bool)
    (text : List Char) :
    glyphsFrom .code previous lineBlank text = glyphsFrom .code other lineBlank text ∧
      modeAfter .code previous lineBlank text = modeAfter .code other lineBlank text := by
  rw [glyphsFrom.eq_def, glyphsFrom.eq_def .code other, modeAfter.eq_def,
    modeAfter.eq_def .code other]
  simp only [opens_congr alike, and_self]

def lineGlyphs (text : String) : List Glyph :=
  glyphsFrom .code (some '\n') true text.toList

def Whole (text : String) : Prop :=
  (modeAfter .code (some '\n') true text.toList).isOutside = true

instance (text : String) : Decidable (Whole text) :=
  inferInstanceAs (Decidable (_ = true))

theorem glyphs_toList (css : String) : glyphs css.toList = lineGlyphs css := by
  have unnamed : (none : Option Char).any isNameChar = (some '\n').any isNameChar := by decide
  exact (glyphsFrom_congr unnamed true css.toList).1

theorem glyphsFrom_lineBreak {mode : Mode} (outside : mode.isOutside = true)
    (previous : Option Char) (lineBlank : Bool) (rest : List Char) :
    glyphsFrom mode previous lineBlank ('\n' :: rest) =
        .gap :: glyphsFrom .code (some '\n') true rest ∧
      modeAfter mode previous lineBlank ('\n' :: rest) =
        modeAfter .code (some '\n') true rest := by
  cases mode with
  | code => exact ⟨rfl, rfl⟩
  | lineComment => exact ⟨rfl, rfl⟩
  | blockComment | literal => exact absurd outside Bool.false_ne_true

/-- A line break parts a text from what comes before it, if that is whole. -/
theorem lineGlyphs_lineBreak {text : String} (whole : Whole text) (rest : String) :
    lineGlyphs (text ++ ("\n" ++ rest)) = lineGlyphs text ++ .gap :: lineGlyphs rest ∧
      (Whole (text ++ ("\n" ++ rest)) ↔ Whole rest) := by
  have joined : (text ++ ("\n" ++ rest)).toList = text.toList ++ '\n' :: rest.toList := by
    simp
  have coded : ∀ mark, Mode.code = .literal mark → isQuote mark = true := nofun
  have star : '\n' ≠ '*' := by decide
  rcases glyphsFrom_append coded whole star (by decide) rest.toList with
    ⟨before, fresh, glyphs, mode⟩
  rcases glyphsFrom_lineBreak whole before fresh rest.toList with ⟨onwards, left⟩
  rw [onwards] at glyphs
  rw [left] at mode
  rw [lineGlyphs, Whole, joined, glyphs, mode]
  exact ⟨rfl, Iff.rfl⟩

theorem lineGlyphs_breaks {text breaks : String} (whole : Whole text)
    (parts : breaks = "\n" ∨ breaks = "\n\n") (rest : String) :
    (∃ count, lineGlyphs (text ++ breaks ++ rest) =
      lineGlyphs text ++ .gap :: (List.replicate count .gap ++ lineGlyphs rest)) ∧
      (Whole (text ++ breaks ++ rest) ↔ Whole rest) := by
  rcases parts with rfl | rfl
  · rcases lineGlyphs_lineBreak whole rest with ⟨glyphs, left⟩
    rw [String.append_assoc]
    exact ⟨⟨0, glyphs⟩, left⟩
  · have empty : Whole "" := by decide
    have twice : text ++ "\n\n" ++ rest = text ++ ("\n" ++ ("" ++ ("\n" ++ rest))) := by
      rw [← String.toList_inj]
      simp
    rcases lineGlyphs_lineBreak whole ("" ++ ("\n" ++ rest)) with ⟨glyphs, left⟩
    rcases lineGlyphs_lineBreak empty rest with ⟨onwards, last⟩
    rw [twice]
    exact ⟨⟨1, glyphs.trans (by rw [onwards]; rfl)⟩, left.trans last⟩

theorem intercalate_holds {holds : String → Prop} {between : String} (empty : holds "")
    (joined : ∀ {text rest}, holds text → holds rest → holds (text ++ between ++ rest))
    {texts : List String} (each : ∀ text ∈ texts, holds text) :
    holds (between.intercalate texts) := by
  induction texts with
  | nil =>
      rw [String.intercalate_nil]
      exact empty
  | cons text texts ih =>
      rcases List.forall_mem_cons.mp each with ⟨first, others⟩
      cases texts with
      | nil =>
          rw [String.intercalate_singleton]
          exact first
      | cons second texts =>
          rw [String.intercalate_cons_cons]
          exact joined first (ih others)

theorem whole_intercalate {texts : List String} (whole : ∀ text ∈ texts, Whole text)
    {breaks : String} (parts : breaks = "\n" ∨ breaks = "\n\n") :
    Whole (breaks.intercalate texts) := by
  have empty : Whole "" := by decide
  exact intercalate_holds empty (fun first rest => (lineGlyphs_breaks first parts _).2.mpr rest)
    whole

section Code

variable {previous : Option Char} {c : Char} {rest : List Char} {lineBlank : Bool}

theorem modeAfter_blank (blank : isBlank c = true) :
    modeAfter .code previous lineBlank (c :: rest) =
      modeAfter .code (some c) (lineStaysBlank lineBlank c) rest := by
  have solid : c ≠ '/' := by
    rintro rfl
    exact absurd blank (by decide)
  rw [modeAfter, if_neg (by simp [solid]), if_pos blank]
  exact fun _ same _ => solid same

theorem modeAfter_opening (opening : opens previous c = true) :
    modeAfter .code previous lineBlank (c :: rest) =
      modeAfter (.literal c) (some c) false rest := by
  have quote := (opens_iff.mp opening).1
  have solid : c ≠ '/' := by
    rintro rfl
    exact absurd quote (by decide)
  rw [modeAfter, if_neg (by simp [solid]), if_neg (by simp [not_isBlank_of_isQuote quote]),
    if_pos opening]
  exact fun _ same _ => solid same

theorem modeAfter_char (visible : isBlank c = false) (apostrophe : opens previous c = false)
    (star : c = '/' → rest.head? ≠ some '*')
    (slash : c = '/' → lineBlank = true → rest.head? ≠ some '/') :
    modeAfter .code previous lineBlank (c :: rest) = modeAfter .code (some c) false rest := by
  rw [modeAfter, if_neg, visible, apostrophe]
  · rfl
  · simp only [Bool.and_eq_true, beq_iff_eq]
    rintro ⟨⟨same, next⟩, fresh⟩
    exact slash same fresh next
  · rintro others same rfl
    exact star same rfl

end Code

theorem modeAfter_comment {body : List Char} (unclosed : ¬ ['*', '/'] <:+: body)
    (previous : Option Char) (lineBlank : Bool) (rest : List Char) :
    modeAfter .blockComment previous lineBlank (body ++ '*' :: '/' :: rest) =
      modeAfter .code (some '/') false rest := by
  induction body generalizing previous lineBlank with
  | nil => rfl
  | cons c body ih =>
      have onwards := ih fun inside => unclosed (inside.trans (List.suffix_cons c body).isInfix)
      rw [List.cons_append, modeAfter, onwards]
      rintro others rfl next
      cases body with
      | nil => simp at next
      | cons d body =>
          obtain ⟨rfl, _⟩ := List.cons.inj next
          exact unclosed (List.prefix_append ['*', '/'] body).isInfix

theorem modeAfter_lineComment {body : List Char} (inLine : '\n' ∉ body)
    (previous : Option Char) (lineBlank : Bool) (rest : List Char) :
    modeAfter .lineComment previous lineBlank (body ++ '\n' :: rest) =
      modeAfter .code (some '\n') true rest := by
  induction body generalizing previous lineBlank with
  | nil => rfl
  | cons c body ih =>
      rcases not_or.mp (mt List.mem_cons.mpr inLine) with ⟨other, inLine⟩
      rw [List.cons_append, modeAfter, if_neg (by simpa using Ne.symm other), ih inLine]

theorem Quoted.modeAfter {mark : Char} (quote : isQuote mark = true) {body : List Char}
    (quoted : Quoted mark body) (previous : Option Char) (lineBlank : Bool) (rest : List Char) :
    modeAfter (.literal mark) previous lineBlank (body ++ rest) =
      modeAfter .code (some mark) false rest := by
  have slash := ne_backslash_of_isQuote quote
  induction quoted generalizing previous lineBlank with
  | close =>
      rw [List.singleton_append, Stylesheet.modeAfter, if_pos (beq_self_eq_true mark),
        lineStaysBlank_of_isQuote quote]
      rintro _ _ same
      exact absurd same slash
  | escape _ ih =>
      rw [List.cons_append, List.cons_append, Stylesheet.modeAfter, ih]
  | step other plain _ ih =>
      rw [List.cons_append, Stylesheet.modeAfter, if_neg (by simpa using other), ih]
      rintro _ _ same
      exact absurd same plain

theorem modeAfter_plain {text : List Char}
    (plain : ∀ c ∈ text, c ≠ '/' ∧ isQuote c = false) (previous : Option Char) (lineBlank : Bool) :
    modeAfter .code previous lineBlank text = .code := by
  induction text generalizing previous lineBlank with
  | nil => rfl
  | cons c text ih =>
      rcases plain c List.mem_cons_self with ⟨slash, mark⟩
      have onwards := ih fun d member => plain d (List.mem_cons_of_mem c member)
      have apostrophe : opens previous c = false := by rw [opens, mark, Bool.false_and]
      rw [modeAfter, if_neg (by simp [slash]), apostrophe, if_neg Bool.false_ne_true]
      · split
        · exact onwards _ _
        · exact onwards _ _
      · exact fun _ same _ => slash same

end DesignTokens.Stylesheet
