import DesignTokens.Proofs.Stylesheet.Abridged

/-!
How a text is split at its quoted strings.  A text whose plain stretches are abridged is split
at the same strings.
-/

namespace DesignTokens.Stylesheet

inductive Body (mark : Char) : List Char → Prop
  | close : Body mark [mark]
  | escape {c rest} : c ≠ '\n' → Body mark rest → Body mark ('\\' :: c :: rest)
  | step {c rest} : c ≠ mark → c ≠ '\\' → Body mark rest → Body mark (c :: rest)

theorem Body.getLast? {mark : Char} {body : List Char} (closed : Body mark body) :
    body.getLast? = some mark := by
  induction closed with
  | close => rfl
  | escape _ _ ih => simp [List.getLast?_cons, ih]
  | step _ _ _ ih => simp [List.getLast?_cons, ih]

theorem Body.literalLength?_append {mark : Char} (quote : isQuote mark = true) {body : List Char}
    (closed : Body mark body) (rest : List Char) :
    literalLength? mark (body ++ rest) = some body.length := by
  have slash := ne_backslash_of_isQuote quote
  induction closed with
  | close =>
      rw [List.singleton_append, literalLength?] <;> simp [slash]
  | escape other _ ih => simp [literalLength?, other, ih]
  | step other plain _ ih =>
      rw [List.cons_append, literalLength?] <;> simp [other, plain, ih]

theorem exists_body {mark : Char} {text : List Char} {length : Nat}
    (found : literalLength? mark text = some length) :
    ∃ body rest, text = body ++ rest ∧ Body mark body ∧ body.length = length := by
  fun_induction literalLength? mark text generalizing length with
  | case1 => simp at found
  | case2 => simp at found
  | case3 c rest other ih =>
      rcases Option.map_eq_some_iff.mp found with ⟨inner, onwards, rfl⟩
      rcases ih onwards with ⟨body, rest, rfl, closed, rfl⟩
      exact ⟨'\\' :: c :: body, rest, rfl, .escape (by simpa using other) closed, rfl⟩
  | case4 c rest apart closes =>
      obtain rfl := beq_iff_eq.mp closes
      exact ⟨[c], rest, rfl, .close, Option.some.inj found⟩
  | case5 => simp at found
  | case6 c rest apart other plain ih =>
      rcases Option.map_eq_some_iff.mp found with ⟨inner, onwards, rfl⟩
      rcases ih onwards with ⟨body, rest, rfl, closed, rfl⟩
      exact ⟨c :: body, rest, rfl, .step (by simpa using other) (by simpa using plain) closed, rfl⟩

def closes (mark : Char) (escaped : Bool) : List Char → Bool
  | [] => false
  | c :: rest =>
      if escaped then c != '\n' && closes mark false rest
      else c == mark || closes mark (c == '\\') rest

theorem isSome_literalLength? {mark : Char} (quote : isQuote mark = true) (text : List Char) :
    (literalLength? mark text).isSome = closes mark false text := by
  have slash := beq_false_of_ne (ne_backslash_of_isQuote quote).symm
  fun_induction literalLength? mark text with
  | case1 => rfl
  | case2 c rest lineBreak => simp [closes, slash, beq_iff_eq.mp lineBreak]
  | case3 c rest other ih =>
      have other : (c != '\n') = true := by simpa using other
      simp [closes, slash, other, ih]
  | case4 c rest apart here => simp [closes, here]
  | case5 c rest apart other slashed =>
      obtain rfl := beq_iff_eq.mp slashed
      cases rest with
      | nil => simp [closes, slash]
      | cons d others => exact absurd rfl (apart d others rfl)
  | case6 c rest apart other plain ih =>
      rw [Bool.not_eq_true] at other plain
      simp [closes, other, plain, ih]

theorem closes_of_isInert {mark : Char} (quote : isQuote mark = true) {c : Char}
    (inert : isInert c = true) (rest : List Char) :
    closes mark false (c :: rest) = closes mark false rest := by
  simp [closes, beq_false_of_ne (ne_of_isInert quote inert),
    beq_false_of_ne (isInert_iff.mp inert).2]

theorem closes_append_of_isInert {mark : Char} (quote : isQuote mark = true) {front : List Char}
    (inert : front.all isInert = true) (rest : List Char) :
    closes mark false (front ++ rest) = closes mark false rest := by
  induction front with
  | nil => rfl
  | cons c front ih =>
      rw [List.all_cons, Bool.and_eq_true] at inert
      rw [List.cons_append, closes_of_isInert quote inert.1, ih inert.2]

theorem Abridged.closes {text short : List Char} (abridged : Abridged text short) {mark : Char}
    (quote : isQuote mark = true) (escaped : Bool) :
    closes mark escaped text = closes mark escaped short := by
  have zero : isInert '0' = true := by decide
  have point : isInert '.' = true := by decide
  induction abridged generalizing escaped with
  | nil => rfl
  | keep _ ih => simp only [Stylesheet.closes, ih]
  | @point text short _ ih =>
      cases escaped with
      | true =>
          rw [Stylesheet.closes, if_pos rfl, closes_of_isInert quote point, Stylesheet.closes,
            if_pos rfl, ih]
          rfl
      | false =>
          rw [closes_of_isInert quote zero, closes_of_isInert quote point,
            closes_of_isInert quote point, ih]
  | @unit dropped last text short inert ending _ _ ih =>
      have behind : Stylesheet.closes mark false (dropped ++ last :: text) =
          Stylesheet.closes mark false short := by
        rw [closes_append_of_isInert quote inert, closes_of_isInert quote ending, ih]
      cases escaped with
      | true => rw [Stylesheet.closes, Stylesheet.closes, if_pos rfl, if_pos rfl, behind]
      | false => rw [closes_of_isInert quote zero, closes_of_isInert quote zero, behind]
  | trans _ _ first second => rw [first, second]

theorem literalAhead_eq_zero_iff {previous : Option Char} {c : Char} {rest : List Char} :
    literalAhead previous c rest = 0 ↔ (opens previous c = true → closes c false rest = false) := by
  change (if opens previous c = true then _ else 0) = 0 ↔ _
  by_cases opening : opens previous c = true
  · rw [if_pos opening, ← isSome_literalLength? (opens_iff.mp opening).1]
    cases found : literalLength? c rest with
    | none => simp
    | some length =>
        rcases exists_body found with ⟨body, _, _, closed, rfl⟩
        cases closed <;> simp [opening]
  · simp [opening]

theorem exists_body_of_literalAhead {previous : Option Char} {c : Char} {text : List Char}
    (found : literalAhead previous c text ≠ 0) :
    opens previous c = true ∧ ∃ body rest, text = body ++ rest ∧ Body c body := by
  have unfolded : literalAhead previous c text =
    if opens previous c = true then (literalLength? c text).getD 0 else 0 := rfl
  rw [unfolded] at found
  by_cases opening : opens previous c = true
  · rw [if_pos opening] at found
    cases length : literalLength? c text with
    | none => exact absurd (by rw [length, Option.getD_none]) found
    | some _ =>
        rcases exists_body length with ⟨body, rest, same, closed, _⟩
        exact ⟨opening, body, rest, same, closed⟩
  · exact absurd (if_neg opening) found

def NoLiteral : Option Char → List Char → List Char → Prop
  | _, [], _ => True
  | previous, c :: rest, tail =>
      literalAhead previous c (rest ++ tail) = 0 ∧ NoLiteral (some c) rest tail

inductive Splits : Option Char → List Char → List Part → Prop
  | last {previous text} : NoLiteral previous text [] → Splits previous text [.plain text]
  | more {previous stretch mark body rest parts} :
      NoLiteral previous stretch (mark :: (body ++ rest)) →
      opens (stretch.getLast?.or previous) mark = true → Body mark body →
      Splits (some mark) rest parts →
      Splits previous (stretch ++ mark :: (body ++ rest))
        (.plain stretch :: .literal (mark :: body) :: parts)

theorem partsFrom_append {previous : Option Char} {stretch tail : List Char}
    (plain : NoLiteral previous stretch tail) (before : List Char) :
    partsFrom previous 0 before (stretch ++ tail) =
      partsFrom (stretch.getLast?.or previous) 0 (stretch.reverse ++ before) tail := by
  induction stretch generalizing previous before with
  | nil => rfl
  | cons c rest ih =>
      rcases plain with ⟨none, plain⟩
      rw [List.cons_append, partsFrom]
      simp only [none]
      rw [ih plain, or_getLast?_cons]
      simp

theorem partsFrom_body (previous : Option Char) (before : List Char) {body : List Char}
    (rest : List Char) (filled : body ≠ []) :
    partsFrom previous body.length before (body ++ rest) =
      .literal (before.reverse ++ body) :: partsFrom body.getLast? 0 [] rest := by
  induction body generalizing previous before with
  | nil => exact absurd rfl filled
  | cons c body ih =>
      cases body with
      | nil => simp [partsFrom]
      | cons d others =>
          have step : partsFrom previous (c :: d :: others).length before
              (c :: d :: others ++ rest) =
            partsFrom (some c) (d :: others).length (c :: before) (d :: others ++ rest) := rfl
          rw [step, ih (some c) (c :: before) (List.cons_ne_nil d others), List.getLast?_cons_cons]
          simp

theorem partsFrom_literal {previous : Option Char} {mark : Char} {rest : List Char} {ahead : Nat}
    (found : literalAhead previous mark rest = ahead + 1) (before : List Char) :
    partsFrom previous 0 before (mark :: rest) =
      .plain before.reverse :: partsFrom (some mark) (ahead + 1) [mark] rest := by
  rw [partsFrom]
  simp only [found]

theorem Body.literalAhead {previous : Option Char} {mark : Char} {body : List Char}
    (closed : Body mark body) (opening : opens previous mark = true) (rest : List Char) :
    literalAhead previous mark (body ++ rest) = body.length := by
  change (if opens previous mark = true then _ else 0) = _
  rw [if_pos opening, closed.literalLength?_append (opens_iff.mp opening).1, Option.getD_some]

theorem Splits.partsFrom {previous : Option Char} {text : List Char} {parts : List Part}
    (splits : Splits previous text parts) : partsFrom previous 0 [] text = parts := by
  induction splits with
  | last plain =>
      have whole := partsFrom_append plain []
      simpa [Stylesheet.partsFrom] using whole
  | @more previous stretch mark body rest parts plain opening closed _ ih =>
      have filled : body ≠ [] := by
        rintro rfl
        simpa using closed.getLast?
      rcases Nat.exists_eq_succ_of_ne_zero (mt List.length_eq_zero_iff.mp filled) with
        ⟨ahead, length⟩
      have found := (closed.literalAhead opening rest).trans length
      rw [partsFrom_append plain, partsFrom_literal found, ← Nat.succ_eq_add_one, ← length,
        partsFrom_body _ _ _ filled, closed.getLast?, ih]
      simp

theorem exists_literal (previous : Option Char) (text : List Char) :
    NoLiteral previous text [] ∨ ∃ stretch mark body rest,
      text = stretch ++ mark :: (body ++ rest) ∧
      NoLiteral previous stretch (mark :: (body ++ rest)) ∧
      opens (stretch.getLast?.or previous) mark = true ∧ Body mark body := by
  induction text generalizing previous with
  | nil => exact .inl trivial
  | cons c text ih =>
      by_cases none : literalAhead previous c text = 0
      · rcases ih (some c) with plain | ⟨stretch, mark, body, rest, rfl, plain, opening, closed⟩
        · exact .inl ⟨by rwa [List.append_nil], plain⟩
        · refine .inr ⟨c :: stretch, mark, body, rest, rfl, ⟨none, plain⟩, ?_, closed⟩
          rwa [or_getLast?_cons]
      · rcases exists_body_of_literalAhead none with ⟨opening, body, rest, rfl, closed⟩
        exact .inr ⟨[], c, body, rest, rfl, trivial, opening, closed⟩

theorem exists_splits (previous : Option Char) (text : List Char) :
    ∃ parts, Splits previous text parts := by
  rcases exists_literal previous text with
    plain | ⟨stretch, mark, body, rest, same, plain, opening, closed⟩
  · exact ⟨_, .last plain⟩
  · have shorter : rest.length < text.length := by
      rw [same, List.length_append, List.length_cons, List.length_append]
      omega
    rcases exists_splits (some mark) rest with ⟨parts, splits⟩
    rw [same]
    exact ⟨_, .more plain opening closed splits⟩
termination_by text.length

theorem splits_parts (text : List Char) : Splits none text (parts text) := by
  rcases exists_splits none text with ⟨found, splits⟩
  rw [parts, splits.partsFrom]
  exact splits

def Part.map (f : List Char → List Char) : Part → Part
  | .plain text => .plain (f text)
  | .literal text => .literal text

def joined (parts : List Part) : List Char :=
  parts.flatMap Part.text

theorem Splits.joined {previous : Option Char} {text : List Char} {parts : List Part}
    (splits : Splits previous text parts) : joined parts = text := by
  induction splits with
  | last => simp [Stylesheet.joined, Part.text]
  | more _ _ _ _ ih =>
      rw [Stylesheet.joined] at ih ⊢
      simp [Part.text, ih]

theorem abridged_joined {f : List Char → List Char} (abridges : ∀ text, Abridged text (f text))
    (parts : List Part) : Abridged (joined parts) (joined (parts.map (Part.map f))) := by
  induction parts with
  | nil => exact .nil
  | cons part parts ih =>
      have here : Abridged part.text (part.map f).text := by
        cases part with
        | plain text => exact abridges text
        | literal text => exact .refl text
      exact here.append ih

theorem Site.Alike.opens {previous other : Option Char}
    (alike : Site.Alike (.code previous) (.code other)) (c : Char) :
    opens previous c = opens other c := by
  cases alike with
  | same => rfl
  | named here there => simp [Stylesheet.opens, here, there]

theorem literalAhead_of_isInert {c : Char} (inert : isInert c = true) (previous : Option Char)
    (rest : List Char) : literalAhead previous c rest = 0 := by
  rw [literalAhead_eq_zero_iff, opens, (isInert_iff.mp inert).1, Bool.false_and]
  exact fun opening => absurd opening Bool.false_ne_true

theorem NoLiteral.of_append {previous : Option Char} {front stretch tail : List Char}
    (plain : NoLiteral previous (front ++ stretch) tail) :
    NoLiteral (front.getLast?.or previous) stretch tail := by
  induction front generalizing previous with
  | nil => exact plain
  | cons c front ih =>
      rw [or_getLast?_cons]
      exact ih plain.2

theorem NoLiteral.abridged {stretch short : List Char} (abridged : Abridged stretch short)
    {previous other : Option Char} (alike : Site.Alike (.code previous) (.code other))
    {tail rest : List Char} (onwards : Abridged tail rest)
    (plain : NoLiteral previous stretch tail) : NoLiteral other short rest := by
  induction abridged generalizing previous other tail rest with
  | nil => trivial
  | keep abridged ih =>
      rcases plain with ⟨none, plain⟩
      refine ⟨?_, ih .same onwards plain⟩
      rw [literalAhead_eq_zero_iff, alike.opens] at none
      rw [literalAhead_eq_zero_iff]
      intro opening
      rw [← (abridged.append onwards).closes (opens_iff.mp opening).1]
      exact none opening
  | point _ ih =>
      exact ⟨literalAhead_of_isInert (by decide) _ _, ih .same onwards plain.2.2⟩
  | @unit dropped last text short _ _ named _ ih =>
      have whole : NoLiteral previous (('0' :: dropped ++ [last]) ++ text) tail := by
        simpa using plain
      have behind := whole.of_append
      rw [List.getLast?_concat] at behind
      exact ⟨literalAhead_of_isInert (by decide) _ _,
        ih (.named named (by decide)) onwards behind⟩
  | trans _ _ first second => exact second .same onwards (first alike (.refl _) plain)

/-- A text with its plain stretches abridged is split into those stretches. -/
theorem Splits.abridged {f : List Char → List Char} (abridges : ∀ text, Abridged text (f text))
    {previous : Option Char} {text : List Char} {parts : List Part}
    (splits : Splits previous text parts) :
    Splits previous (Stylesheet.joined (parts.map (Part.map f))) (parts.map (Part.map f)) := by
  induction splits with
  | @last previous text plain =>
      have whole : Stylesheet.joined [Part.plain (f text)] = f text := by
        simp [Stylesheet.joined, Part.text]
      rw [List.map_singleton, Part.map, whole]
      exact .last (plain.abridged (abridges text) .same .nil)
  | @more previous stretch mark body rest parts plain opening closed splits ih =>
      have onwards := abridged_joined abridges parts
      rw [splits.joined] at onwards
      have following : Abridged (mark :: (body ++ rest))
          (mark :: (body ++ Stylesheet.joined (parts.map (Part.map f)))) :=
        .keep ((Abridged.refl body).append onwards)
      have last := (abridges stretch).alike_last (.same : Site.Alike (.code previous) _)
      rw [last.opens] at opening
      have whole := Splits.more (plain.abridged (abridges stretch) .same following) opening closed ih
      simpa [Stylesheet.joined, Part.map, Part.text] using whole

end DesignTokens.Stylesheet
