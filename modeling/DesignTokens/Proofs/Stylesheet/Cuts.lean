import DesignTokens.Proofs.Stylesheet.Addresses
import DesignTokens.Proofs.Stylesheet.Exact

/-!
A style sheet cut at its braces.  Where no string and no comment is open, what is in front of a
brace and what begins with it have the short forms that they have on their own.
-/

namespace DesignTokens.Stylesheet

def IsBrace (c : Char) : Prop :=
  c = '{' ∨ c = '}'

theorem IsBrace.parting {c : Char} (brace : IsBrace c) : Parting c := by
  rcases brace with rfl | rfl <;>
    exact ⟨by decide, by decide, by decide, by decide, by decide⟩

theorem IsBrace.inert {c : Char} (brace : IsBrace c) : isInert c = true := by
  rcases brace with rfl | rfl <;> decide

theorem IsBrace.unnamed {c : Char} (brace : IsBrace c) : isNameChar c = false := by
  rcases brace with rfl | rfl <;> decide

/-! ### Cutting what is written -/

/-- Where every string is closed, a stretch without strings has none whatever follows it. -/
theorem NoLiteral.of_shut {previous : Option Char} {stretch tail : List Char}
    (plain : NoLiteral previous stretch tail) (shut : Shut (.code previous) (stretch ++ tail))
    (other : List Char) : NoLiteral previous stretch other := by
  induction stretch generalizing previous with
  | nil => trivial
  | cons c rest ih =>
      have apostrophe := Shut.apostrophe shut plain.1
      obtain ⟨_, onwards⟩ := shut
      rw [Site.next_of_apostrophe apostrophe] at onwards
      refine ⟨literalAhead_eq_zero_iff.mpr fun opening => ?_, ih plain.2 onwards⟩
      exact absurd (apostrophe.symm.trans opening) Bool.false_ne_true

theorem Splits.cons {c : Char} (inert : isInert c = true) {text stretch : List Char}
    {lasts : List Part} (behind : Splits (some c) text (.plain stretch :: lasts))
    {previous : Option Char} : Splits previous (c :: text) (.plain (c :: stretch) :: lasts) :=
  @Splits.prepend previous [c] text stretch lasts
    ⟨literalAhead_of_isInert inert _ _, trivial⟩ behind

/-- A text behind one whose strings are closed is split as on its own, if it begins with a
character that means nothing to strings; only that the stretches on both sides are one. -/
theorem Splits.append {previous : Option Char} {text : List Char} {parts : List Part}
    (splits : Splits previous text parts) (shut : Shut (.code previous) text) {c : Char}
    (inert : isInert c = true) {back stretch : List Char} {lasts : List Part}
    (behind : Splits (some c) back (.plain stretch :: lasts)) :
    ∃ firsts last, parts = firsts ++ [.plain last] ∧
      Splits previous (text ++ c :: back) (firsts ++ .plain (last ++ c :: stretch) :: lasts) := by
  induction splits with
  | @last previous text plain =>
      have here : Splits (text.getLast?.or previous) (c :: back) (.plain (c :: stretch) :: lasts) :=
        behind.cons inert
      have whole := plain.of_shut (by rwa [List.append_nil]) (c :: back)
      exact ⟨[], text, rfl, Splits.prepend whole here⟩
  | @more previous front mark body rest parts plain opening closed splits ih =>
      obtain ⟨⟨_, inner⟩, _⟩ := Shut.of_noLiteral plain shut
      rw [Site.next_of_opening opening] at inner
      have onwards := (closed.literalsFrom (opens_iff.mp opening).1 [mark] inner).1
      obtain ⟨firsts, last, rfl, whole⟩ := ih onwards
      have start := plain.of_shut shut (mark :: (body ++ (rest ++ c :: back)))
      refine ⟨.plain front :: .literal (mark :: body) :: firsts, last, rfl, ?_⟩
      simpa using Splits.more start opening closed whole

theorem shortened_append {text : List Char} (shut : Shut (.code none) text) {c : Char}
    (inert : isInert c = true) (parting : Parting c) (back : List Char) :
    shortened (text ++ c :: back) = shortened text ++ shortened (c :: back) := by
  obtain ⟨parts, behind⟩ := exists_splits (some c) back
  obtain ⟨stretch, lasts, rfl⟩ := behind.exists_plain
  obtain ⟨firsts, last, split, whole⟩ := (splits_parts text).append shut inert behind
  have alone : Splits none (c :: back) (.plain (c :: stretch) :: lasts) :=
    behind.cons inert
  have short : ∀ text, (Part.plain text).shortened = shortNumbers text := fun _ => rfl
  have behindOnly := parting.shortNumbers [] stretch
  rw [List.nil_append, show shortNumbers [] = [] from rfl, List.nil_append] at behindOnly
  rw [shortened, shortened, shortened, split, Stylesheet.parts, whole.partsFrom, Stylesheet.parts,
    alone.partsFrom]
  simp [short, parting.shortNumbers, behindOnly]

theorem parts_congr {previous : Option Char} (unnamed : previous.any isNameChar = false)
    (text : List Char) : partsFrom previous 0 [] text = parts text := by
  cases text with
  | nil => rfl
  | cons c rest =>
      have alike : literalAhead previous c rest = literalAhead none c rest := by
        rw [literalAhead, literalAhead, unnamed]
        rfl
      rw [parts, partsFrom, partsFrom, alike]

theorem shortened_brace {c : Char} (brace : IsBrace c) (text : List Char) :
    shortened (c :: text) = c :: shortened text := by
  obtain ⟨parts, splits⟩ := exists_splits (some c) text
  obtain ⟨stretch, lasts, rfl⟩ := splits.exists_plain
  have here : Splits none (c :: text) (.plain (c :: stretch) :: lasts) :=
    splits.cons brace.inert
  have alone := splits.partsFrom
  rw [parts_congr (by simp [brace.unnamed])] at alone
  have short : (Part.plain (c :: stretch)).shortened = c :: (Part.plain stretch).shortened :=
    brace.parting.shortNumbers [] stretch
  rw [shortened, shortened, Stylesheet.parts, here.partsFrom, alone, List.flatMap_cons,
    List.flatMap_cons, short, List.cons_append]

/-! ### Cutting what is read -/

structure Complete (text : List Char) : Prop where
  outside : modeAfter .code none true text = .code
  unbroken : Glyph.escaped '\n' ∉ glyphs text

theorem Complete.closed {text : List Char} (complete : Complete text) :
    closedFrom false (glyphs text) = true := by
  have read := closedFrom_glyphsFrom .code none true text
  rwa [complete.outside] at read

section

variable {c : Char} (brace : IsBrace c) (back : List Char)

include brace

theorem glyphsFrom_brace (previous : Option Char) (lineBlank : Bool) :
    glyphsFrom .code previous lineBlank (c :: back) =
        .code c :: glyphsFrom .code (some c) false back ∧
      modeAfter .code previous lineBlank (c :: back) = modeAfter .code (some c) false back := by
  rcases brace with rfl | rfl <;> exact ⟨rfl, rfl⟩

theorem glyphs_brace : glyphs (c :: back) = .code c :: glyphsFrom .code (some c) false back :=
  (glyphsFrom_brace brace back none true).1

/-- A brace is written behind everything, and no blank before it. -/
theorem emit_brace (last : Option Char) (pending : Bool) (rest : List Glyph) :
    emit last pending (.code c :: rest) = c :: emit (some c) false rest := by
  have useful : isIdleSemicolon last.toList c = false := by
    refine isIdleSemicolon_of_ne ?_ _
    rcases brace with rfl | rfl <;> decide
  have tight : needsSpace last.toList c = false := by
    rcases brace with rfl | rfl <;> cases last <;> simp [needsSpace, isTight]
  rw [emit, useful, if_neg Bool.false_ne_true, separator, tight, Bool.and_false,
    if_neg Bool.false_ne_true, List.nil_append]

variable {front : List Char} (outside : modeAfter .code none true front = .code)

include outside

theorem glyphs_append_brace :
    glyphs (front ++ c :: back) = glyphs front ++ glyphs (c :: back) ∧
      modeAfter .code none true (front ++ c :: back) = modeAfter .code none true (c :: back) := by
  have coded : ∀ mark, Mode.code = .literal mark → isQuote mark = true := nofun
  have left : (modeAfter .code none true front).isOutside = true := by rw [outside]; rfl
  have star : c ≠ '*' := by rcases brace with rfl | rfl <;> decide
  have slash : c ≠ '/' := by rcases brace with rfl | rfl <;> decide
  obtain ⟨before, fresh, read, mode⟩ := glyphsFrom_append coded left star slash back
  obtain ⟨there, left⟩ := glyphsFrom_brace brace back before fresh
  obtain ⟨alone, kept⟩ := glyphsFrom_brace brace back none true
  rw [outside, there] at read
  rw [outside, left] at mode
  exact ⟨by rw [glyphs, read, glyphs, glyphs, alone], by rw [mode, kept]⟩

theorem emit_append_brace :
    emit none false (glyphs (front ++ c :: back)) =
      emit none false (glyphs front) ++ emit none false (glyphs (c :: back)) := by
  obtain ⟨last, due, written⟩ := emit_append none false (glyphs front)
  rw [(glyphs_append_brace brace back outside).1, written, glyphs_brace brace back,
    emit_brace brace, emit_brace brace]

end

section

variable {front : List Char} (complete : Complete front) {c : Char} (brace : IsBrace c)
  {back : List Char} (behind : Complete (c :: back))

include complete brace behind

theorem Complete.append : Complete (front ++ c :: back) := by
  obtain ⟨glyphs, mode⟩ := glyphs_append_brace brace back complete.outside
  refine ⟨mode.trans behind.outside, ?_⟩
  rw [glyphs, List.mem_append, not_or]
  exact ⟨complete.unbroken, behind.unbroken⟩

/-- What begins with a brace is shortened apart from what is in front of it. -/
theorem Complete.shortForm_append :
    shortForm (front ++ c :: back) = shortForm front ++ shortForm (c :: back) := by
  have whole := complete.append brace behind
  have shut := shut_emit_glyphs complete.closed complete.unbroken
  rw [shortForm, shortForm, shortForm, collapse_of_closed whole.closed,
    collapse_of_closed complete.closed, collapse_of_closed behind.closed,
    emit_append_brace brace back complete.outside]
  rw [glyphs_brace brace, emit_brace brace]
  exact shortened_append shut brace.inert brace.parting _

end

/-! ### What follows a brace -/

structure Writes (lead : Option Char) (text written : List Char) : Prop where
  outside : modeAfter .code lead lead.isNone text = .code
  unbroken : Glyph.escaped '\n' ∉ glyphsFrom .code lead lead.isNone text
  emit : emit lead false (glyphsFrom .code lead lead.isNone text) = written

section

variable {lead : Option Char} (braced : ∀ c ∈ lead, IsBrace c) {text written : List Char}
  (writes : Writes lead text written)

include braced writes

theorem Writes.complete : Complete (lead.toList ++ text) := by
  cases lead with
  | none => exact ⟨writes.outside, writes.unbroken⟩
  | some c =>
      have brace := braced c rfl
      rw [Option.toList_some, List.singleton_append]
      refine ⟨(glyphsFrom_brace brace text none true).2.trans writes.outside, ?_⟩
      rw [glyphs_brace brace, List.mem_cons, not_or]
      exact ⟨nofun, writes.unbroken⟩

theorem Writes.shortForm : shortForm (lead.toList ++ text) = lead.toList ++ shortened written := by
  rw [Stylesheet.shortForm, collapse_of_closed (writes.complete braced).closed, ← writes.emit]
  cases lead with
  | none => rfl
  | some c =>
      have brace := braced c rfl
      rw [Option.toList_some, List.singleton_append, glyphs_brace brace, emit_brace brace,
        shortened_brace brace]
      rfl

end

end DesignTokens.Stylesheet
