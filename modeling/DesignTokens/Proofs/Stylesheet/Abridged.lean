import DesignTokens.Proofs.Stylesheet.Steady

/-!
Texts with some zeros and units left out.  They go on everywhere as the texts they come from: what is left out opens
and closes no string.
-/

namespace DesignTokens.Stylesheet

def isInert (c : Char) : Bool :=
  !isQuote c && c != '\\'

theorem isInert_iff {c : Char} : isInert c = true ↔ isQuote c = false ∧ c ≠ '\\' := by
  simp [isInert]

theorem ne_of_isInert {mark c : Char} (quote : isQuote mark = true) (inert : isInert c = true) :
    c ≠ mark := by
  rintro rfl
  exact Bool.false_ne_true ((isInert_iff.mp inert).1.symm.trans quote)

inductive Abridged : List Char → List Char → Prop
  | nil : Abridged [] []
  | keep {c text short} : Abridged text short → Abridged (c :: text) (c :: short)
  | point {text short} : Abridged text short → Abridged ('0' :: '.' :: text) ('.' :: short)
  | unit {dropped last text short} : dropped.all isInert = true → isInert last = true →
      isNameChar last = true → Abridged text short →
      Abridged ('0' :: (dropped ++ last :: text)) ('0' :: short)
  | trans {text middle short} : Abridged text middle → Abridged middle short →
      Abridged text short

namespace Abridged

@[refl] theorem refl (text : List Char) : Abridged text text := by
  induction text with
  | nil => exact .nil
  | cons c rest ih => exact .keep ih

theorem append {front short : List Char} (abridged : Abridged front short) {tail rest : List Char}
    (onwards : Abridged tail rest) : Abridged (front ++ tail) (short ++ rest) := by
  induction abridged generalizing tail rest with
  | nil => exact onwards
  | keep _ ih => exact .keep (ih onwards)
  | point _ ih => exact .point (ih onwards)
  | unit inert last named _ ih =>
      have whole := Abridged.unit inert last named (ih onwards)
      simpa using whole
  | trans _ _ first second => exact .trans (first onwards) (second (.refl _))

theorem length_le {text short : List Char} (abridged : Abridged text short) :
    short.length ≤ text.length := by
  induction abridged with
  | nil => exact le_rfl
  | keep _ ih => simpa using ih
  | point _ ih => simp; omega
  | unit _ _ _ _ ih => simp; omega
  | trans _ _ first second => exact second.trans first

theorem head? {text short : List Char} (abridged : Abridged text short) :
    short.head? = text.head? ∨ text.head? = some '0' ∧ short.head? = some '.' := by
  induction abridged with
  | nil => exact .inl rfl
  | keep => exact .inl rfl
  | point => exact .inr ⟨rfl, rfl⟩
  | unit => exact .inl rfl
  | trans _ _ first second =>
      rcases second with same | ⟨zero, point⟩
      · rwa [same]
      · rcases first with same | ⟨_, other⟩
        · exact .inr ⟨same.symm.trans zero, point⟩
        · exact absurd (zero.symm.trans other) (by decide)

end Abridged

inductive Site.Alike : Site → Site → Prop
  | same {site} : Alike site site
  | named {first second} : isNameChar first = true → isNameChar second = true →
      Alike (.code (some first)) (.code (some second))

namespace Site

theorem Alike.trans {first second third : Site} (here : Alike first second)
    (there : Alike second third) : Alike first third := by
  cases here with
  | same => exact there
  | named one two =>
      cases there with
      | same => exact .named one two
      | named _ three => exact .named one three

theorem Alike.next {first second : Site} (alike : Alike first second) (c : Char) :
    first.next c = second.next c := by
  cases alike with
  | same => rfl
  | named here there => simp [Site.next, opens, here, there]

theorem needsSpace_of_isNameChar {last : Char} (named : isNameChar last = true) (c : Char) :
    needsSpace (some last).toList c = !isTight c := by
  simp [needsSpace, not_isTight_of_isNameChar named]

theorem isIdleSemicolon_of_isNameChar {last : Char} (named : isNameChar last = true) (c : Char) :
    isIdleSemicolon (some last).toList c = false := by
  rw [← Bool.not_eq_true, isIdleSemicolon_iff]
  rintro ⟨_, ⟨⟨⟩⟩ | ⟨⟨⟩⟩⟩ <;> exact absurd named (by decide)

theorem Alike.admits {first second : Site} (alike : Alike first second) (c : Char)
    (following : Option Char) : first.admits c following = second.admits c following := by
  cases alike with
  | same => rfl
  | named here there =>
      simp only [Site.admits, needsSpace_of_isNameChar here, needsSpace_of_isNameChar there,
        isIdleSemicolon_of_isNameChar here, isIdleSemicolon_of_isNameChar there]

theorem Marked.next {site : Site} (marked : site.Marked) (c : Char) : (site.next c).Marked := by
  cases site with
  | code last =>
      by_cases opening : opens last c = true
      · rw [next_of_opening opening]
        exact (opens_iff.mp opening).1
      · rw [next_of_apostrophe ((Bool.not_eq_true _).mp opening)]
        trivial
  | literal mark =>
      rw [Site.next]
      split
      · trivial
      · split <;> exact marked
  | escape mark => exact marked

def after (site : Site) (text : List Char) : Site :=
  text.foldl next site

def past : Site → Char → Site
  | code _, c => code (some c)
  | literal mark, _ => literal mark
  | escape mark, _ => literal mark

theorem next_of_isInert {site : Site} (marked : site.Marked) {c : Char} (inert : isInert c = true) :
    site.next c = site.past c := by
  have plain := isInert_iff.mp inert
  cases site with
  | code last => exact next_of_apostrophe (by rw [opens, plain.1, Bool.false_and])
  | literal mark => exact next_inner (ne_of_isInert marked inert) plain.2
  | escape mark => rfl

theorem after_concat (site : Site) (text : List Char) (c : Char) :
    site.after (text ++ [c]) = (site.after text).next c := by
  rw [after, List.foldl_concat]
  rfl

theorem Marked.after {site : Site} (marked : site.Marked) (text : List Char) :
    (site.after text).Marked := by
  induction text generalizing site with
  | nil => exact marked
  | cons c rest ih => exact ih (marked.next c)

theorem after_code {last : Option Char} {text : List Char} (inert : text.all isInert = true) :
    ∃ other, (code last).after text = code other := by
  induction text generalizing last with
  | nil => exact ⟨last, rfl⟩
  | cons c rest ih =>
      rw [List.all_cons, Bool.and_eq_true] at inert
      rw [after, List.foldl_cons, next_of_isInert (marked_code last) inert.1]
      exact ih inert.2

theorem after_literal {mark : Char} (quote : isQuote mark = true) {text : List Char}
    (inert : text.all isInert = true) : (literal mark).after text = literal mark := by
  have marked : (literal mark).Marked := quote
  induction text with
  | nil => rfl
  | cons c rest ih =>
      rw [List.all_cons, Bool.and_eq_true] at inert
      rw [after, List.foldl_cons, next_of_isInert marked inert.1]
      exact ih inert.2

theorem alike_after_unit {site : Site} (marked : site.Marked) {dropped : List Char} {last : Char}
    (inert : dropped.all isInert = true) (ending : isInert last = true)
    (named : isNameChar last = true) :
    Alike ((site.next '0').after (dropped ++ [last])) (site.next '0') := by
  have zero := next_of_isInert marked (show isInert '0' = true by decide)
  have behind := next_of_isInert ((marked.next '0').after dropped) ending
  rw [after_concat, behind, zero]
  cases site with
  | code _ =>
      rcases after_code inert with ⟨other, same⟩
      rw [past, same]
      exact .named named (by decide)
  | literal mark | escape mark =>
      rw [past, after_literal marked inert]
      exact .same

theorem next_zero_next_point {site : Site} (marked : site.Marked) :
    (site.next '0').next '.' = site.next '.' := by
  have point : isInert '.' = true := by decide
  rw [next_of_isInert (marked.next '0') point, next_of_isInert marked point,
    next_of_isInert marked (show isInert '0' = true by decide)]
  cases site <;> rfl

theorem admits_of_plain {site : Site} {c : Char} (visible : isBlank c = false) (other : c ≠ ';')
    (apart : c ≠ '/') (following : Option Char) : site.admits c following = true := by
  cases site with
  | code last =>
      exact (admits_of_visible visible).mpr
        ⟨isIdleSemicolon_of_ne other _, fun same => absurd same apart⟩
  | _ => rfl

theorem admits_of_point {site : Site} {c : Char} {following other : Option Char}
    (admitted : site.admits c following = true)
    (near : other = following ∨ following = some '0' ∧ other = some '.') :
    site.admits c other = true := by
  rcases near with rfl | ⟨rfl, rfl⟩
  · exact admitted
  · cases site with
    | code last =>
        by_cases blank : isBlank c = true
        · obtain rfl := eq_space_of_admits blank admitted
          rcases admits_space.mp admitted with ⟨d, same, visible, needed⟩
          refine admits_space.mpr ⟨'.', rfl, by decide, ?_⟩
          cases same
          cases last with
          | none => exact needed
          | some last => simpa [needsSpace, isTight] using needed
        · have visible := (Bool.not_eq_true _).mp blank
          have useful := ((admits_of_visible visible).mp admitted).1
          exact (admits_of_visible visible).mpr ⟨useful, fun _ => by decide⟩
    | _ => rfl

theorem Alike.marked {first second : Site} (alike : Alike first second) (marked : first.Marked) :
    second.Marked := by
  cases alike with
  | same => exact marked
  | named => trivial

end Site

/-- A property that a text has at a site if each of its characters has it there passes to the
abridged text, if it holds at once of the characters of numbers and is blind to what was left out. -/
theorem Abridged.passes {P : Site → List Char → Prop}
    (empty : ∀ {site other}, Site.Alike site other → P site [] → P other [])
    (step : ∀ {site c rest}, P site (c :: rest) → P (site.next c) rest)
    (plain : ∀ {site c rest}, c = '0' ∨ c = '.' → P (site.next c) rest → P site (c :: rest))
    (again : ∀ {site other c rest short}, Site.Alike site other → Abridged rest short →
      P site (c :: rest) → P (other.next c) short → P other (c :: short))
    {text short : List Char} (abridged : Abridged text short) {site other : Site}
    (marked : site.Marked) (alike : Site.Alike site other) (holds : P site text) :
    P other short := by
  have skip : ∀ {front tail : List Char} {site : Site}, P site (front ++ tail) →
      P (site.after front) tail := by
    intro front tail
    induction front with
    | nil => exact fun holds => holds
    | cons c rest ih => exact fun holds => ih (step holds)
  induction abridged generalizing site other with
  | nil => exact empty alike holds
  | @keep c text short abridged ih =>
      refine again alike abridged holds ?_
      rw [← alike.next]
      exact ih (marked.next c) .same (step holds)
  | point _ ih =>
      -- The point leads to the same site behind the zero and in its place.
      have onwards := step (step holds)
      rw [Site.next_zero_next_point marked] at onwards
      refine plain (.inr rfl) ?_
      rw [← alike.next]
      exact ih (marked.next '.') .same onwards
  | @unit dropped last text short inert ending named _ ih =>
      have whole : P (site.next '0') ((dropped ++ [last]) ++ text) := by
        rw [List.append_assoc]
        exact step holds
      refine plain (.inl rfl) ?_
      rw [← alike.next]
      exact ih ((marked.next '0').after _) (Site.alike_after_unit marked inert ending named)
        (skip whole)
  | trans _ _ first second =>
      exact second (alike.marked marked) .same (first marked alike holds)

theorem Abridged.steady {text short : List Char} (abridged : Abridged text short)
    {site other : Site} (marked : site.Marked) (alike : Site.Alike site other)
    (steady : Steady site text) : Steady other short := by
  refine abridged.passes (fun _ _ => trivial) And.right ?_ ?_ marked alike steady
  · rintro site c rest (rfl | rfl) onwards <;>
      exact ⟨Site.admits_of_plain (by decide) (by decide) (by decide) _, onwards⟩
  · intro site other c rest short alike abridged steady onwards
    refine ⟨Site.admits_of_point ?_ abridged.head?, onwards⟩
    rw [← alike.admits]
    exact steady.1

theorem or_getLast?_cons (c : Char) (rest : List Char) (previous : Option Char) :
    (c :: rest).getLast?.or previous = rest.getLast?.or (some c) := by
  rw [List.getLast?_cons]
  cases rest.getLast? <;> rfl

theorem Abridged.alike_last {text short : List Char} (abridged : Abridged text short)
    {previous other : Option Char} (alike : Site.Alike (.code previous) (.code other)) :
    Site.Alike (.code (text.getLast?.or previous)) (.code (short.getLast?.or other)) := by
  induction abridged generalizing previous other with
  | nil => exact alike
  | keep _ ih =>
      rw [or_getLast?_cons, or_getLast?_cons]
      exact ih .same
  | point _ ih =>
      rw [or_getLast?_cons, or_getLast?_cons, or_getLast?_cons]
      exact ih .same
  | unit _ _ named _ ih =>
      rw [or_getLast?_cons, or_getLast?_cons, List.getLast?_append, Option.or_assoc,
        or_getLast?_cons]
      exact ih (.named named (by decide))
  | trans _ _ first second => exact (first alike).trans (second .same)

end DesignTokens.Stylesheet
