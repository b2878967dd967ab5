import DesignTokens.Proofs.Stylesheet.Literals
import DesignTokens.Proofs.Stylesheet.Shortening

/-!
Texts in which no string begins or ends.  How a style sheet is split at its strings does not
depend on such a text, so what is made of the rest does not either.
-/

namespace DesignTokens.Stylesheet

structure Quiet (last : Char) (text : List Char) : Prop where
  inert : text.all isInert = true
  first : ∀ c ∈ text.head?, c ≠ '\n'
  ending : text.getLast? = some last

theorem quiet_singleton {last : Char} (inert : isInert last = true) (unbroken : last ≠ '\n') :
    Quiet last [last] :=
  ⟨by simpa using inert, by simpa using unbroken, rfl⟩

theorem Quiet.exists_cons {last : Char} {text : List Char} (quiet : Quiet last text) :
    ∃ c rest, text = c :: rest ∧ c ≠ '\n' ∧ isInert c = true ∧ rest.all isInert = true := by
  rcases quiet with ⟨inert, first, ending⟩
  cases text with
  | nil => cases ending
  | cons c rest =>
      rw [List.all_cons, Bool.and_eq_true] at inert
      exact ⟨c, rest, rfl, first c rfl, inert⟩

def ClosesAlike (tail other : List Char) : Prop :=
  ∀ mark, isQuote mark = true → ∀ escaped, closes mark escaped tail = closes mark escaped other

theorem ClosesAlike.append {tail other : List Char} (alike : ClosesAlike tail other)
    (front : List Char) : ClosesAlike (front ++ tail) (front ++ other) := by
  intro mark quote escaped
  induction front generalizing escaped with
  | nil => exact alike mark quote escaped
  | cons c front ih => rw [List.cons_append, List.cons_append, closes, closes, ih, ih]

theorem Quiet.closes {last : Char} {text : List Char} (quiet : Quiet last text) {mark : Char}
    (quote : isQuote mark = true) (escaped : Bool) (back : List Char) :
    closes mark escaped (text ++ back) = closes mark false back := by
  obtain ⟨c, rest, rfl, unbroken, inert, others⟩ := quiet.exists_cons
  have onwards := closes_append_of_isInert quote others back
  cases escaped with
  | true =>
      rw [List.cons_append, Stylesheet.closes, if_pos rfl, bne_iff_ne.mpr unbroken,
        Bool.true_and, onwards]
  | false => rw [List.cons_append, closes_of_isInert quote inert, onwards]

theorem Quiet.closesAlike {last : Char} {text other : List Char} (quiet : Quiet last text)
    (same : Quiet last other) (back : List Char) :
    ClosesAlike (text ++ back) (other ++ back) := by
  intro mark quote escaped
  rw [quiet.closes quote, same.closes quote]

theorem NoLiteral.congr {previous : Option Char} {stretch tail other : List Char}
    (alike : ClosesAlike tail other) (plain : NoLiteral previous stretch tail) :
    NoLiteral previous stretch other := by
  induction stretch generalizing previous with
  | nil => trivial
  | cons c rest ih =>
      obtain ⟨none, plain⟩ := plain
      refine ⟨?_, ih plain⟩
      rw [literalAhead_eq_zero_iff] at none ⊢
      intro opening
      rw [← alike.append rest c (opens_iff.mp opening).1]
      exact none opening

theorem NoLiteral.append {previous : Option Char} {front stretch tail : List Char}
    (plain : NoLiteral previous front (stretch ++ tail))
    (onwards : NoLiteral (front.getLast?.or previous) stretch tail) :
    NoLiteral previous (front ++ stretch) tail := by
  induction front generalizing previous with
  | nil => exact onwards
  | cons c front ih =>
      rw [or_getLast?_cons] at onwards
      refine ⟨?_, ih plain.2 onwards⟩
      have here := plain.1
      rwa [← List.append_assoc] at here

theorem noLiteral_of_inert {text : List Char} (inert : text.all isInert = true)
    (previous : Option Char) (tail : List Char) : NoLiteral previous text tail := by
  induction text generalizing previous with
  | nil => trivial
  | cons c rest ih =>
      rw [List.all_cons, Bool.and_eq_true] at inert
      exact ⟨literalAhead_of_isInert inert.1 _ _, ih inert.2 _⟩

theorem closes_append {mark : Char} {text : List Char} {escaped : Bool}
    (closed : closes mark escaped text = true) (more : List Char) :
    closes mark escaped (text ++ more) = true := by
  induction text generalizing escaped with
  | nil => cases closed
  | cons c rest ih =>
      rw [closes] at closed
      rw [List.cons_append, closes]
      split
      · rename_i behind
        rw [if_pos behind, Bool.and_eq_true] at closed
        rw [closed.1, ih closed.2]
        rfl
      · rename_i plain
        rw [if_neg plain, Bool.or_eq_true] at closed
        rw [Bool.or_eq_true]
        exact closed.imp_right ih

/-- A string that no longer text closes is not closed in a shorter one either. -/
theorem NoLiteral.shorter {previous : Option Char} {stretch tail more : List Char}
    (plain : NoLiteral previous stretch (tail ++ more)) : NoLiteral previous stretch tail := by
  induction stretch generalizing previous with
  | nil => trivial
  | cons c rest ih =>
      obtain ⟨none, plain⟩ := plain
      refine ⟨?_, ih plain⟩
      rw [literalAhead_eq_zero_iff] at none ⊢
      intro opening
      by_contra closed
      have longer := closes_append ((Bool.not_eq_false _).mp closed) more
      rw [List.append_assoc, none opening] at longer
      cases longer

theorem Splits.exists_plain {previous : Option Char} {text : List Char} {parts : List Part}
    (splits : Splits previous text parts) :
    ∃ stretch lasts, parts = .plain stretch :: lasts := by
  cases splits with
  | last => exact ⟨_, _, rfl⟩
  | more => exact ⟨_, _, rfl⟩

theorem Splits.prepend {previous : Option Char} {front text stretch : List Char}
    {lasts : List Part} (plain : NoLiteral previous front text)
    (splits : Splits (front.getLast?.or previous) text (.plain stretch :: lasts)) :
    Splits previous (front ++ text) (.plain (front ++ stretch) :: lasts) := by
  cases splits with
  | last rest =>
      refine .last (NoLiteral.append ?_ rest)
      rwa [List.append_nil]
  | @more _ _ mark body rest parts onwards opening closed others =>
      rw [← List.append_assoc]
      refine .more (NoLiteral.append plain onwards) ?_ closed others
      rwa [List.getLast?_append, Option.or_assoc]

theorem exists_opening (previous : Option Char) (front tail : List Char) :
    NoLiteral previous front tail ∨ ∃ stretch mark inner, front = stretch ++ mark :: inner ∧
      NoLiteral previous stretch (mark :: (inner ++ tail)) ∧
      literalAhead (stretch.getLast?.or previous) mark (inner ++ tail) ≠ 0 := by
  induction front generalizing previous with
  | nil => exact .inl trivial
  | cons c rest ih =>
      by_cases none : literalAhead previous c (rest ++ tail) = 0
      · rcases ih (some c) with plain | ⟨stretch, mark, inner, rfl, plain, ahead⟩
        · exact .inl ⟨none, plain⟩
        · refine .inr ⟨c :: stretch, mark, inner, rfl, ⟨?_, plain⟩, ?_⟩
          · rwa [List.append_assoc] at none
          · rwa [or_getLast?_cons]
      · exact .inr ⟨[], c, rest, rfl, trivial, none⟩

theorem body_cons_iff {mark c : Char} {rest : List Char} :
    Body mark (c :: rest) ↔ c = mark ∧ rest = [] ∨ c ≠ mark ∧ c ≠ '\\' ∧ Body mark rest ∨
      c = '\\' ∧ ∃ d others, rest = d :: others ∧ d ≠ '\n' ∧ Body mark others := by
  constructor
  · intro closed
    cases closed with
    | close => exact .inl ⟨rfl, rfl⟩
    | step apart plain closed => exact .inr (.inl ⟨apart, plain, closed⟩)
    | escape kept closed => exact .inr (.inr ⟨rfl, _, _, rfl, kept, closed⟩)
  · rintro (⟨rfl, rfl⟩ | ⟨apart, plain, closed⟩ | ⟨rfl, d, others, rfl, kept, closed⟩)
    · exact .close
    · exact .step apart plain closed
    · exact .escape kept closed

theorem Body.of_inert {mark : Char} (quote : isQuote mark = true) {front back : List Char}
    (inert : front.all isInert = true) :
    Body mark (front ++ back) ↔ Body mark back := by
  induction front with
  | nil => exact Iff.rfl
  | cons c front ih =>
      rw [List.all_cons, Bool.and_eq_true] at inert
      have apart := ne_of_isInert quote inert.1
      have plain := (isInert_iff.mp inert.1).2
      rw [List.cons_append, body_cons_iff, ih inert.2]
      simp [apart, plain]

/-- What stands inside a string can be another text, if neither of them ends it. -/
theorem Body.swap {mark : Char} (quote : isQuote mark = true) {last : Char}
    {front text other back : List Char} (quiet : Quiet last text) (same : Quiet last other)
    (closed : Body mark (front ++ (text ++ back))) : Body mark (front ++ (other ++ back)) := by
  obtain ⟨c, rest, rfl, _, _, inert⟩ := quiet.exists_cons
  obtain ⟨d, rest', rfl, unbroken, _, inert'⟩ := same.exists_cons
  have whole : Body mark (c :: rest ++ back) → Body mark (d :: rest' ++ back) := by
    rw [Body.of_inert quote quiet.inert, Body.of_inert quote same.inert]
    exact id
  -- A backslash takes the character behind it along, which may be the first of the text.
  induction front using List.twoStepInduction with
  | nil => exact whole closed
  | singleton e =>
      rcases body_cons_iff.mp closed with
        ⟨_, empty⟩ | ⟨apart, plain, closed⟩ | ⟨rfl, f, others, split, _, closed⟩
      · cases empty
      · exact .step apart plain (whole closed)
      · obtain ⟨_, rfl⟩ := List.cons.inj split
        have behind := (Body.of_inert quote inert).mp closed
        exact .escape unbroken ((Body.of_inert quote inert').mpr behind)
  | cons_cons e f front ih ih' =>
      rcases body_cons_iff.mp closed with
        ⟨_, empty⟩ | ⟨apart, plain, closed⟩ | ⟨rfl, g, others, split, kept, closed⟩
      · cases empty
      · exact .step apart plain (ih' f closed)
      · obtain ⟨rfl, rfl⟩ := List.cons.inj split
        exact .escape kept (ih closed)

theorem Body.not_append {mark : Char} (quote : isQuote mark = true) {body more : List Char}
    (closed : Body mark body) (longer : Body mark (body ++ more)) : more = [] := by
  have short := closed.literalLength?_append quote more
  have long := longer.literalLength?_append quote []
  rw [List.append_nil, short, Option.some_inj, List.length_append] at long
  exact List.length_eq_zero_iff.mp (by omega)

theorem Body.append_inj {mark : Char} (quote : isQuote mark = true)
    {body other left right : List Char} (closed : Body mark body) (ends : Body mark other)
    (same : body ++ left = other ++ right) : body = other ∧ left = right := by
  rcases List.append_eq_append_iff.mp same with ⟨more, rfl, rfl⟩ | ⟨more, rfl, rfl⟩
  · obtain rfl := Body.not_append quote closed ends
    simp
  · obtain rfl := Body.not_append quote ends closed
    simp

/-- Every string of a text is closed, so one that is open behind it begins there. -/
theorem Shut.exists_body {previous : Option Char} {stretch inner tail : List Char} {mark : Char}
    (shut : Shut (.code previous) (stretch ++ mark :: inner))
    (plain : NoLiteral previous stretch (mark :: (inner ++ tail)))
    (opening : opens (stretch.getLast?.or previous) mark = true) :
    ∃ body rest, inner = body ++ rest ∧ Body mark body ∧ Shut (.code (some mark)) rest := by
  have quote := (opens_iff.mp opening).1
  have short : NoLiteral previous stretch (mark :: inner) := plain.shorter
  obtain ⟨⟨_, inside⟩, _⟩ := Shut.of_noLiteral short shut
  rw [Site.next_of_opening opening] at inside
  have found := closes_of_shut.1 inside
  rw [← isSome_literalLength? quote, Option.isSome_iff_exists] at found
  obtain ⟨length, found⟩ := found
  obtain ⟨body, rest, rfl, closed, _⟩ := DesignTokens.Stylesheet.exists_body found
  exact ⟨body, rest, rfl, closed, (closed.literalsFrom quote [mark] inside).1⟩

theorem closed_within_or_beyond {last : Char} {inner back body rest : List Char}
    (same : inner ++ ([last] ++ back) = body ++ rest) :
    (∃ left, inner = body ++ left) ∨
      ∃ beyond, body = inner ++ ([last] ++ beyond) ∧ back = beyond ++ rest := by
  rcases List.append_eq_append_iff.mp same with ⟨beyond, rfl, split⟩ | ⟨left, rfl, _⟩
  · cases beyond with
    | nil => exact .inl ⟨[], by simp⟩
    | cons c beyond =>
        obtain ⟨rfl, rfl⟩ := List.cons.inj split
        exact .inr ⟨beyond, rfl, rfl⟩
  · exact .inl ⟨left, rfl⟩

/-- Wherever a text without quotes stands, it is all of it in one part, and neither the other
parts nor what else is in that part depend on it.  If the strings before it are closed then
that part is no string. -/
theorem exists_seam {last : Char} (inert : isInert last = true) (unbroken : last ≠ '\n')
    (previous : Option Char) (front back : List Char) :
    ∃ firsts before after lasts, ∃ wrap : List Char → Part,
      (wrap = .plain ∨ wrap = .literal ∧ ¬ Shut (.code previous) front) ∧
      ∀ text, Quiet last text → Splits previous (front ++ (text ++ back))
        (firsts ++ wrap (before ++ (text ++ after)) :: lasts) := by
  have single := quiet_singleton inert unbroken
  rcases exists_opening previous front ([last] ++ back) with
    plain | ⟨stretch, mark, inner, whole, plain, ahead⟩
  · obtain ⟨parts, splits⟩ := exists_splits (some last) back
    obtain ⟨after, lasts, rfl⟩ := splits.exists_plain
    refine ⟨[], front, after, lasts, .plain, .inl rfl, fun text quiet => ?_⟩
    have here := plain.congr (single.closesAlike quiet back)
    have whole := here.append (noLiteral_of_inert quiet.inert _ _)
    rw [← List.append_assoc, ← List.append_assoc]
    refine Splits.prepend whole ?_
    rwa [List.getLast?_append, quiet.ending]
  · obtain ⟨opening, body, rest, same, closed⟩ := exists_body_of_literalAhead ahead
    have quote := (opens_iff.mp opening).1
    have here : ∀ text, Quiet last text →
        NoLiteral previous stretch (mark :: (inner ++ (text ++ back))) := fun text quiet =>
      plain.congr ((single.closesAlike quiet back).append (mark :: inner))
    rcases closed_within_or_beyond same with ⟨left, rfl⟩ | ⟨beyond, rfl, rfl⟩
    · -- A string before the text: what follows it is split in the same way.
      have shorter : left.length < front.length := by
        simp only [whole, List.length_append, List.length_cons]
        omega
      obtain ⟨firsts, before, after, lasts, wrap, kind, splits⟩ :=
        exists_seam inert unbroken (some mark) left back
      refine ⟨.plain stretch :: .literal (mark :: body) :: firsts, before, after, lasts, wrap,
        ?_, ?_⟩
      · refine kind.imp_right fun inside => ⟨inside.1, fun shut => inside.2 ?_⟩
        rw [whole] at shut
        obtain ⟨early, others, split, ends, onwards⟩ := shut.exists_body plain opening
        obtain ⟨rfl, rfl⟩ := Body.append_inj quote closed ends split
        exact onwards
      · intro text quiet
        have onwards := Splits.more (by simpa using here text quiet) opening closed
          (splits text quiet)
        simpa [whole] using onwards
    · -- A string that is closed behind the text holds it.
      obtain ⟨lasts, splits⟩ := exists_splits (some mark) rest
      refine ⟨[.plain stretch], mark :: inner, beyond, lasts, .literal, .inr ⟨rfl, ?_⟩, ?_⟩
      · intro shut
        rw [whole] at shut
        obtain ⟨early, others, rfl, ends, _⟩ := shut.exists_body plain opening
        rw [List.append_assoc] at closed
        simpa using Body.not_append quote ends closed
      · intro text quiet
        have around := closed.swap quote single quiet
        have onwards := Splits.more (by simpa using here text quiet) opening around splits
        simpa [whole] using onwards
termination_by front.length

end DesignTokens.Stylesheet
