import DesignTokens.Proofs.Stylesheet.Selector

/-!
Style sheets of rules, some of them in blocks.  The short form writes every selector with all of
its combinators, unless a blank that is one stands next to a tight character.
-/

namespace DesignTokens.Stylesheet

theorem shortened_eq_self {text : List Char}
    (brief : ∀ stretch, .plain stretch ∈ parts text → Brief none stretch) :
    shortened text = text := by
  have same : (parts text).flatMap Part.shortened = (parts text).flatMap Part.text := by
    refine List.flatMap_congr fun part member => ?_
    cases part with
    | plain stretch => exact (shortNumbers_eq_self_iff stretch).mpr (brief stretch member)
    | literal => rfl
  exact same.trans (splits_parts text).joined

structure Selector where
  steps : List Placed
  ending : List Char
deriving DecidableEq, Repr

namespace Selector

def text (selector : Selector) : List Char :=
  spelling selector.steps ++ selector.ending

def short (selector : Selector) : List Char :=
  shortSpelling none selector.steps

def full (selector : Selector) : List Char :=
  fullSpelling none selector.steps

def meaning (selector : Selector) : List (Bool × Sign) :=
  Stylesheet.meaning none selector.steps

def IsLoose (selector : Selector) : Prop :=
  AllLoose none selector.steps

structure IsValid (fresh : Bool) (selector : Selector) : Prop where
  spelled : Spelled none 0 fresh selector.steps
  ending : ∃ blank, Gap (fresh && selector.steps.isEmpty) blank selector.ending
  brief : ∀ stretch, .plain stretch ∈ parts selector.short → Brief none stretch

theorem IsValid.shortened_short {fresh : Bool} {selector : Selector}
    (valid : selector.IsValid fresh) : shortened selector.short = selector.short :=
  shortened_eq_self valid.brief

theorem length_short_le (selector : Selector) : selector.short.length ≤ selector.full.length :=
  length_shortSpelling_le none selector.steps

end Selector

theorem append_eq_iff {front first back last : List Char} (shorter : front.length ≤ first.length)
    (less : back.length ≤ last.length) :
    front ++ back = first ++ last ↔ front = first ∧ back = last := by
  refine ⟨fun same => List.append_inj same ?_, fun ⟨start, ending⟩ => by rw [start, ending]⟩
  have total := congrArg List.length same
  rw [List.length_append, List.length_append] at total
  omega

theorem separator_lead {lead : Option Char} (braced : ∀ c ∈ lead, IsBrace c) (pending : Bool)
    (c : Char) : separator lead pending c = [] := by
  have needless : needsSpace lead.toList c = false := by
    cases lead with
    | none => rfl
    | some brace => rcases braced brace rfl with rfl | rfl <;> simp [needsSpace, isTight]
  rw [separator, needless, Bool.and_false, if_neg Bool.false_ne_true]

section

variable {lead : Option Char} (braced : ∀ c ∈ lead, IsBrace c)

include braced

theorem not_isNameChar_lead : lead.any isNameChar = false := by
  cases lead with
  | none => rfl
  | some brace => exact (braced brace rfl).unnamed

theorem Selector.IsValid.writes {selector : Selector} (valid : selector.IsValid lead.isNone) :
    Writes lead selector.text selector.short := by
  obtain ⟨_, gap⟩ := valid.ending
  have alike : separator lead = separator none := by
    funext pending c
    rw [separator_lead braced, separator_lead (by simp)]
  obtain ⟨outside, unbroken, written⟩ :=
    valid.spelled.read gap (not_isNameChar_lead braced) alike
  exact ⟨outside, unbroken, written⟩

/-- What is written of a text does not depend on the blanks and comments before it, if it begins
with a visible character that means nothing to the reader. -/
theorem Gap.writes {blank : Bool} {gap : List Char} (gapped : Gap lead.isNone blank gap)
    {query : List Char} (complete : Complete ('@' :: query)) :
    Writes lead (gap ++ '@' :: query) (collapse ('@' :: query)) := by
  obtain ⟨count, before, line, _, _, onwards⟩ := gapped.read lead
  obtain ⟨read, mode⟩ := onwards ('@' :: query)
  have start : ∀ previous line,
      glyphsFrom .code previous line ('@' :: query) =
          .code '@' :: glyphsFrom .code (some '@') false query ∧
        modeAfter .code previous line ('@' :: query) = modeAfter .code (some '@') false query :=
    fun _ _ => ⟨rfl, rfl⟩
  have alone := (start none true).1
  rw [(start before line).1] at read
  rw [(start before line).2, ← (start none true).2, complete.outside] at mode
  refine ⟨mode, ?_, ?_⟩
  · rw [read, ← alone, List.mem_append, not_or]
    exact ⟨not_mem_gap count '\n', complete.unbroken⟩
  · rw [read, emit_gap, collapse_of_closed complete.closed, glyphs, alone, emit, emit,
      separator_lead braced, separator_lead (by simp)]
    rfl

theorem Gap.writes_nil {blank : Bool} {gap : List Char} (gapped : Gap lead.isNone blank gap) :
    Writes lead gap [] := by
  have valid : (Selector.mk [] gap).IsValid lead.isNone := by
    refine ⟨trivial, ⟨blank, by simpa using gapped⟩, fun stretch member => ?_⟩
    obtain ⟨⟩ := List.mem_singleton.mp member
    trivial
  exact valid.writes braced

end

inductive Rules where
  | done (gap : List Char)
  | rule (selector : Selector) (body : List Char) (next : Rules)
  | block (gap query : List Char) (inner next : Rules)

namespace Rules

def text : Rules → List Char
  | done gap => gap
  | rule selector body next => selector.text ++ '{' :: (body ++ '}' :: next.text)
  | block gap query inner next =>
      gap ++ '@' :: query ++ '{' :: (inner.text ++ '}' :: next.text)

def spelled (spell : Selector → List Char) : Rules → List Char
  | done _ => []
  | rule selector body next =>
      spell selector ++ (shortForm ('{' :: body) ++ '}' :: next.spelled spell)
  | block _ query inner next =>
      shortForm ('@' :: query) ++ '{' :: (inner.spelled spell ++ '}' :: next.spelled spell)

def selectors : Rules → List Selector
  | done _ => []
  | rule selector _ next => selector :: next.selectors
  | block _ _ inner next => inner.selectors ++ next.selectors

/-- Heads of blocks and bodies of rules may hold whatever leaves no string and comment open, if
its strings escape no line break. -/
def IsValid (fresh : Bool) : Rules → Prop
  | done gap => ∃ blank, Gap fresh blank gap
  | rule selector body next =>
      selector.IsValid fresh ∧ Complete ('{' :: body) ∧ next.IsValid false
  | block gap query inner next =>
      (∃ blank, Gap fresh blank gap) ∧ Complete ('@' :: query) ∧ inner.IsValid false ∧
        next.IsValid false

/-- Selectors are written by themselves, whatever brace is in front of the rules. -/
theorem IsValid.shortForm {rules : Rules} {lead : Option Char}
    (valid : rules.IsValid lead.isNone) (braced : ∀ c ∈ lead, IsBrace c) :
    Complete (lead.toList ++ rules.text) ∧
      Stylesheet.shortForm (lead.toList ++ rules.text) =
        lead.toList ++ rules.spelled Selector.short := by
  have opening : IsBrace '{' := .inl rfl
  have closing : IsBrace '}' := .inr rfl
  induction rules generalizing lead with
  | done gap =>
      obtain ⟨_, gapped⟩ := valid
      have writes := gapped.writes_nil braced
      exact ⟨writes.complete braced, writes.shortForm braced⟩
  | rule selector body next ih =>
      obtain ⟨selects, complete, others⟩ := valid
      obtain ⟨behind, rest⟩ := @ih (some '}') others (by simp [closing])
      rw [Option.toList_some, List.singleton_append] at behind rest
      have writes := selects.writes braced
      have inner := complete.append closing behind
      have whole : lead.toList ++ (rule selector body next).text =
          (lead.toList ++ selector.text) ++ '{' :: (body ++ '}' :: next.text) := by
        simp [text]
      rw [whole]
      refine ⟨(writes.complete braced).append opening inner, ?_⟩
      have written := complete.shortForm_append closing behind
      rw [List.cons_append] at inner written
      rw [(writes.complete braced).shortForm_append opening inner, writes.shortForm braced,
        written, rest, selects.shortened_short, List.append_assoc]
      rfl
  | block gap query inner next ih ih' =>
      obtain ⟨⟨_, gapped⟩, complete, within, others⟩ := valid
      obtain ⟨behind, rest⟩ := @ih' (some '}') others (by simp [closing])
      obtain ⟨inside, written⟩ := @ih (some '{') within (by simp [opening])
      have writes := gapped.writes braced complete
      rw [Option.toList_some, List.singleton_append] at inside written rest behind
      have braces := inside.append closing behind
      have whole : lead.toList ++ (block gap query inner next).text =
          (lead.toList ++ (gap ++ '@' :: query)) ++
            '{' :: (inner.text ++ '}' :: next.text) := by
        simp [text]
      rw [whole]
      refine ⟨(writes.complete braced).append opening braces, ?_⟩
      have ending := inside.shortForm_append closing behind
      rw [List.cons_append] at braces ending
      rw [(writes.complete braced).shortForm_append opening braces, writes.shortForm braced,
        ending, written, rest, List.append_assoc]
      rfl

theorem IsValid.of_mem {fresh : Bool} {rules : Rules} (valid : rules.IsValid fresh)
    {selector : Selector} (member : selector ∈ rules.selectors) :
    ∃ fresh, selector.IsValid fresh := by
  induction rules generalizing fresh with
  | done => cases member
  | rule first body next ih =>
      obtain ⟨selects, _, others⟩ := valid
      rcases List.mem_cons.mp member with rfl | member
      · exact ⟨fresh, selects⟩
      · exact ih others member
  | block gap query inner next ih ih' =>
      obtain ⟨_, _, within, others⟩ := valid
      rcases List.mem_append.mp member with member | member
      · exact ih within member
      · exact ih' others member

theorem length_spelled_le (rules : Rules) :
    (rules.spelled Selector.short).length ≤ (rules.spelled Selector.full).length := by
  induction rules with
  | done => exact le_rfl
  | rule selector body next ih =>
      have shorter := selector.length_short_le
      simp only [spelled, List.length_append, List.length_cons]
      omega
  | block gap query inner next ih ih' =>
      simp only [spelled, List.length_append, List.length_cons]
      omega

theorem spelled_eq_iff {fresh : Bool} {rules : Rules} (valid : rules.IsValid fresh) :
    rules.spelled Selector.short = rules.spelled Selector.full ↔
      ∀ selector ∈ rules.selectors, selector.IsLoose := by
  induction rules generalizing fresh with
  | done => simp [spelled, selectors]
  | rule selector body next ih =>
      obtain ⟨selects, _, others⟩ := valid
      rw [selectors, List.forall_mem_cons, ← ih others, Selector.IsLoose,
        ← shortSpelling_eq_iff selects.spelled, spelled, spelled,
        append_eq_iff selector.length_short_le (by simpa using next.length_spelled_le)]
      simp [Selector.short, Selector.full]
  | block gap query inner next ih ih' =>
      obtain ⟨_, _, within, others⟩ := valid
      have shorter := next.length_spelled_le
      rw [selectors, List.forall_mem_append, ← ih within, ← ih' others, spelled, spelled,
        List.append_cancel_left_eq, List.cons.injEq,
        append_eq_iff inner.length_spelled_le (by simpa using shorter)]
      simp

end Rules

/-- Rules are written with all combinators of their selectors if and only if none of these is a
blank next to a tight character; and selectors that are written with all of their combinators are
told apart. -/
theorem selectors_minified {rules : Rules} (valid : rules.IsValid true) :
    (minified (String.ofList rules.text) = String.ofList (rules.spelled Selector.full) ↔
        ∀ selector ∈ rules.selectors, selector.IsLoose) ∧
      ∀ selector ∈ rules.selectors, ∀ other ∈ rules.selectors,
        selector.full = other.full → selector.meaning = other.meaning := by
  have written := (@Rules.IsValid.shortForm rules none valid (by simp)).2
  rw [Option.toList_none, List.nil_append, List.nil_append] at written
  refine ⟨?_, fun selector member other member' same => ?_⟩
  · rw [← Rules.spelled_eq_iff valid, minified_eq, String.toList_ofList, written,
      String.ofList_inj]
  · obtain ⟨_, selects⟩ := valid.of_mem member
    obtain ⟨_, selects'⟩ := valid.of_mem member'
    exact meaning_eq_of_fullSpelling selects.spelled selects'.spelled same

theorem selectors_minified_media :
    minified "@media print\x7ba  .b > i\x7bmargin : 0px\x7d\x7d" =
      "@media print\x7ba .b>i\x7bmargin:0\x7d\x7d" := by
  let selector : Selector := ⟨[⟨[], .plain 'a'⟩, ⟨[' ', ' '], .plain '.'⟩, ⟨[], .plain 'b'⟩,
    ⟨[' '], .joint '>'⟩, ⟨[' '], .plain 'i'⟩], []⟩
  let rules : Rules := .block [] "media print".toList
    (.rule selector "margin : 0px".toList (.done [])) (.done [])
  have joined : ∀ {before : Option Sign} {c}, (Sign.plain c).IsValid → c ≠ '*' →
      isQuote c = false → Placed.Fits before 0 false ⟨[], .plain c⟩ :=
    fun valid star quote => ⟨valid, ⟨false, .nil, nofun⟩, nofun, fun _ _ => star,
      fun _ same => absurd (quote.symm.trans same) Bool.false_ne_true⟩
  have apart : ∀ {before : Option Sign} {gap sign}, Gap false true gap → gap ≠ [] →
      sign.IsValid → Placed.Fits before 0 false ⟨gap, sign⟩ :=
    fun gap filled valid => ⟨valid, ⟨true, gap, fun _ => rfl⟩, (absurd rfl ·), (absurd · filled),
      (absurd · filled)⟩
  have space : Gap false true [' '] := .blank (by decide) .nil
  have spaces : Gap false true [' ', ' '] := .blank (by decide) space
  have spelled : Spelled none 0 false selector.steps :=
    ⟨joined ⟨by decide, by decide⟩ (by decide) (by decide),
      apart spaces (by decide) ⟨by decide, by decide⟩,
      joined ⟨by decide, by decide⟩ (by decide) (by decide),
      apart space (by decide) (by simp [Sign.IsValid]),
      apart space (by decide) ⟨by decide, by decide⟩, trivial⟩
  have brief : ∀ stretch, .plain stretch ∈ parts selector.short → Brief none stretch := by
    have whole : parts selector.short = [.plain "a .b>i".toList] := by decide
    intro stretch member
    rw [whole, List.mem_singleton, Part.plain.injEq] at member
    exact (shortNumbers_eq_self_iff _).mp (by rw [member]; decide)
  have valid : rules.IsValid true :=
    ⟨⟨false, .nil⟩, ⟨by decide, by decide⟩,
      ⟨⟨spelled, ⟨false, .nil⟩, brief⟩, ⟨by decide, by decide⟩, false, .nil⟩, false, .nil⟩
  have loose : ∀ selector ∈ rules.selectors, selector.IsLoose := by
    intro _ member
    obtain rfl := List.mem_singleton.mp member
    simp only [Selector.IsLoose, AllLoose, selector]
    decide
  exact (selectors_minified valid).1.mpr loose

/-- A pseudo-class begins with a tight character, and what matches within an element then matches
the element itself. -/
theorem selectors_minified_pseudoClass :
    ∃ steps others : List Placed, spelling steps = "a :hover".toList ∧
      spelling others = "a:hover".toList ∧ meaning none steps ≠ meaning none others ∧
      minified "a :hover\x7bcolor:red;\x7d" = "a:hover\x7bcolor:red;\x7d" ∧
      minified "a:hover\x7bcolor:red;\x7d" = "a:hover\x7bcolor:red;\x7d" := by
  refine ⟨⟨[], .plain 'a'⟩ :: ⟨[' '], .plain ':'⟩ :: "hover".toList.map (⟨[], .plain ·⟩),
    "a:hover".toList.map (⟨[], .plain ·⟩), ?_⟩
  decide +kernel

end DesignTokens.Stylesheet
