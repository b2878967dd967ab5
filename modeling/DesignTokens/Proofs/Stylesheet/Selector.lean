import DesignTokens.Proofs.Stylesheet.Cuts
import DesignTokens.Text.Ascii

/-!
Selectors as sequences of signs, with blanks and comments between some.  Blanks between the signs
of two compound selectors are a combinator.
-/

namespace DesignTokens.Stylesheet

inductive Sign where
  | plain (c : Char)
  | escape (c : Char)
  | quoted (mark : Char) (body : List Char)
  | joint (c : Char)
deriving DecidableEq, Repr

namespace Sign

def text : Sign → List Char
  | plain c => [c]
  | escape c => ['\\', c]
  | quoted mark body => mark :: body
  | joint c => [c]

def first : Sign → Char
  | plain c => c
  | escape _ => '\\'
  | quoted mark _ => mark
  | joint c => c

def last : Sign → Char
  | plain c => c
  | escape c => c
  | quoted mark _ => mark
  | joint c => c

def isJoint : Sign → Bool
  | joint _ => true
  | plain _ | escape _ | quoted _ _ => false

def IsValid : Sign → Prop
  | plain c => isBlank c = false ∧
      c ∉ ['"', '\'', '\\', '/', '{', '}', ';', '>', '+', '~', ',']
  | escape c => isBlank c = false ∧ isQuote c = false
  | quoted mark body => isQuote mark = true ∧ Body mark body
  | joint c => c ∈ ['>', '+', '~', ',']

def glyphs : Sign → List Glyph
  | plain c => [.code c]
  | escape c => [.code '\\', .code c]
  | quoted mark body => .opening mark :: spell (.literal mark) body
  | joint c => [.code c]

end Sign

/-- Blanks and comments, and whether there is a blank outside of the comments.  A comment to the
end of its line begins where only blanks stand before it, which `fresh` says of the text. -/
inductive Gap : (fresh blank : Bool) → List Char → Prop
  | nil {fresh} : Gap fresh false []
  | blank {fresh blank c rest} : c ∈ [' ', '\t', '\n', '\r', '\x0c'] →
      Gap (lineStaysBlank fresh c) blank rest → Gap fresh true (c :: rest)
  | comment {fresh blank body rest} : ¬ ['*', '/'] <:+: body → Gap false blank rest →
      Gap fresh blank ('/' :: '*' :: (body ++ '*' :: '/' :: rest))
  | lineComment {blank body rest} : '\n' ∉ body → Gap true blank rest →
      Gap true true ('/' :: '/' :: (body ++ '\n' :: rest))

structure Placed where
  gap : List Char
  sign : Sign
deriving DecidableEq, Repr

namespace Placed

def text (placed : Placed) : List Char :=
  placed.gap ++ placed.sign.text

def isApart (before : Option Sign) (placed : Placed) : Bool :=
  !placed.gap.isEmpty && before.any (!·.isJoint) && !placed.sign.isJoint

def blank (before : Option Sign) (placed : Placed) : List Char :=
  separator (before.map Sign.last) (!placed.gap.isEmpty) placed.sign.first

def combinator (before : Option Sign) (placed : Placed) : List Char :=
  if placed.isApart before then [' '] else placed.blank before

/-- How many characters behind a sign can still belong to a hexadecimal escape: its digits, which
are six at most, and then a blank that ends it. -/
def openDigits (left : Nat) (placed : Placed) : Nat :=
  match placed.sign with
  | .escape c => if (hexValue? c).isSome then 6 else 0
  | .plain c => if placed.gap = [] ∧ (hexValue? c).isSome then left - 1 else 0
  | .quoted _ _ | .joint _ => 0

structure Fits (before : Option Sign) (left : Nat) (fresh : Bool) (placed : Placed) : Prop where
  sign : placed.sign.IsValid
  gap : ∃ blank, Gap fresh blank placed.gap ∧ (placed.isApart before = true → blank = true)
  escape : left ≠ 0 → placed.gap.length ≤ 1
  comment : placed.gap = [] → before.map Sign.last = some '/' → placed.sign.first ≠ '*'
  string : placed.gap = [] → isQuote placed.sign.first = true →
    (before.map Sign.last).any isNameChar = false

end Placed

def Spelled (before : Option Sign) (left : Nat) (fresh : Bool) : List Placed → Prop
  | [] => True
  | placed :: rest =>
      placed.Fits before left fresh ∧ Spelled (some placed.sign) (placed.openDigits left) false rest

def shortSpelling (before : Option Sign) : List Placed → List Char
  | [] => []
  | placed :: rest =>
      placed.blank before ++ placed.sign.text ++ shortSpelling (some placed.sign) rest

def fullSpelling (before : Option Sign) : List Placed → List Char
  | [] => []
  | placed :: rest =>
      placed.combinator before ++ placed.sign.text ++ fullSpelling (some placed.sign) rest

def meaning (before : Option Sign) : List Placed → List (Bool × Sign)
  | [] => []
  | placed :: rest => (placed.isApart before, placed.sign) :: meaning (some placed.sign) rest

def AllLoose (before : Option Sign) : List Placed → Prop
  | [] => True
  | placed :: rest =>
      (placed.isApart before = true →
        (∀ sign ∈ before, isTight sign.last = false) ∧ isTight placed.sign.first = false) ∧
        AllLoose (some placed.sign) rest

/-! ### Reading gaps -/

theorem gaps_append (first second : Nat) (rest : List Glyph) :
    List.replicate first .gap ++ (List.replicate second .gap ++ rest) =
      List.replicate (first + second) .gap ++ rest := by
  rw [← List.append_assoc, List.replicate_append_replicate]

namespace Gap

variable {fresh blank : Bool} {text : List Char}

theorem head? (gap : Gap fresh blank text) : ∀ c ∈ text.head?, c ≠ '*' := by
  cases gap with
  | nil => nofun
  | blank space => rintro _ ⟨⟩ rfl; exact absurd space (by decide)
  | comment | lineComment => rintro _ ⟨⟩; decide

/-- A gap is read as nothing, and a quote behind it is none of a word. -/
theorem read (gap : Gap fresh blank text) (previous : Option Char) :
    ∃ count before line, (count != 0) = !text.isEmpty ∧
      before.any isNameChar = (text.isEmpty && previous.any isNameChar) ∧
      ∀ rest, glyphsFrom .code previous fresh (text ++ rest) =
          List.replicate count .gap ++ glyphsFrom .code before line rest ∧
        modeAfter .code previous fresh (text ++ rest) = modeAfter .code before line rest := by
  induction gap generalizing previous with
  | nil => exact ⟨0, previous, _, rfl, by simp, fun rest => ⟨rfl, rfl⟩⟩
  | @blank fresh _ c text space _ ih =>
      have unseen : isBlank c = true := by
        simp only [List.mem_cons, List.not_mem_nil, or_false] at space
        rcases space with rfl | rfl | rfl | rfl | rfl <;> decide
      obtain ⟨count, before, line, _, unnamed, onwards⟩ := ih (some c)
      rw [Option.any_some, not_isNameChar_of_isBlank unseen, Bool.and_false] at unnamed
      refine ⟨count + 1, before, line, rfl, unnamed, fun rest => ?_⟩
      obtain ⟨read, mode⟩ := onwards rest
      rw [List.cons_append, glyphsFrom_blank unseen, modeAfter_blank unseen, read]
      exact ⟨rfl, mode⟩
  | @comment fresh _ body text unclosed _ ih =>
      obtain ⟨count, before, line, _, unnamed, onwards⟩ := ih (some '/')
      rw [show (some '/').any isNameChar = false by decide, Bool.and_false] at unnamed
      refine ⟨body.length + 1 + count + 1, before, line, rfl, unnamed, fun rest => ?_⟩
      obtain ⟨read, mode⟩ := onwards rest
      have whole : '/' :: '*' :: (body ++ '*' :: '/' :: text) ++ rest =
          '/' :: '*' :: (body ++ '*' :: '/' :: (text ++ rest)) := by simp
      rw [whole, glyphsFrom, glyphsFrom_comment unclosed, read, modeAfter,
        modeAfter_comment unclosed, mode, gaps_append]
      exact ⟨rfl, rfl⟩
  | @lineComment _ body text inLine _ ih =>
      obtain ⟨count, before, line, _, unnamed, onwards⟩ := ih (some '\n')
      rw [show (some '\n').any isNameChar = false by decide, Bool.and_false] at unnamed
      refine ⟨body.length + 1 + 1 + count + 1, before, line, rfl, unnamed, fun rest => ?_⟩
      obtain ⟨read, mode⟩ := onwards rest
      have whole : '/' :: '/' :: (body ++ '\n' :: text) ++ rest =
          '/' :: '/' :: (body ++ '\n' :: (text ++ rest)) := by simp
      have inside : '\n' ∉ '/' :: body := by simpa using inLine
      have commented : modeAfter .code previous true
          ('/' :: '/' :: (body ++ '\n' :: (text ++ rest))) =
            modeAfter .lineComment (some '/') false ('/' :: body ++ '\n' :: (text ++ rest)) := rfl
      have next : glyphsFrom .code (some '/') false ('\n' :: (text ++ rest)) =
          List.replicate 1 .gap ++ glyphsFrom .code (some '\n') true (text ++ rest) := rfl
      rw [whole, glyphsFrom_code_lineComment inLine (by simp), commented,
        modeAfter_lineComment inside, next, read, mode, gaps_append, gaps_append]
      exact ⟨rfl, rfl⟩

end Gap

/-! ### Reading signs -/

theorem Body.quoted {mark : Char} {body : List Char} (closed : Body mark body) :
    Quoted mark body := by
  induction closed with
  | close => exact .close
  | escape _ _ ih => exact .escape ih
  | step other plain _ ih => exact .step other plain ih

theorem Body.unbroken {mark : Char} (quote : isQuote mark = true) {body : List Char}
    (closed : Body mark body) : Glyph.escaped '\n' ∉ spell (.literal mark) body := by
  have slash := (ne_backslash_of_isQuote quote).symm
  induction closed with
  | close => simp [spell, Site.glyph_mark]
  | escape other _ ih =>
      rw [spell, Site.glyph_inner slash, Site.next_backslash quote, spell]
      simp only [List.mem_cons, not_or]
      exact ⟨by simp, by simpa [Site.glyph] using Ne.symm other, ih⟩
  | step other plain _ ih =>
      rw [spell, Site.glyph_inner other, Site.next_inner other plain, List.mem_cons, not_or]
      exact ⟨by simp, ih⟩

namespace Sign

theorem exists_text (sign : Sign) : ∃ rest, sign.text = sign.first :: rest := by
  cases sign <;> exact ⟨_, rfl⟩

variable {sign : Sign} (valid : sign.IsValid)

include valid

theorem visible : isBlank sign.first = false := by
  cases sign with
  | plain c => exact valid.1
  | escape c => exact (by decide : isBlank '\\' = false)
  | quoted mark body => exact not_isBlank_of_isQuote valid.1
  | joint c =>
      simp only [IsValid, List.mem_cons, List.not_mem_nil, or_false] at valid
      rcases valid with rfl | rfl | rfl | rfl <;> decide

/-- A sign is read on its own, if it does not make the beginning of a comment with what follows. -/
theorem read {previous : Option Char} {line : Bool}
    (string : isQuote sign.first = true → previous.any isNameChar = false) {rest : List Char}
    (uncommented : sign.last = '/' → rest.head? ≠ some '*') :
    glyphsFrom .code previous line (sign.text ++ rest) =
        sign.glyphs ++ glyphsFrom .code (some sign.last) false rest ∧
      modeAfter .code previous line (sign.text ++ rest) =
        modeAfter .code (some sign.last) false rest := by
  have single : ∀ {c : Char} {previous : Option Char}, isBlank c = false → isQuote c = false →
      c ≠ '/' → ∀ line rest,
        glyphsFrom .code previous line (c :: rest) =
            .code c :: glyphsFrom .code (some c) false rest ∧
          modeAfter .code previous line (c :: rest) = modeAfter .code (some c) false rest := by
    intro c previous visible quote slash line rest
    have apostrophe : opens previous c = false := by rw [opens, quote, Bool.false_and]
    exact ⟨glyphsFrom_char visible apostrophe (absurd · slash) (absurd · slash),
      modeAfter_char visible apostrophe (absurd · slash) (absurd · slash)⟩
  cases sign with
  | plain c =>
      obtain ⟨visible, others⟩ := valid
      simp only [List.mem_cons, List.not_mem_nil, or_false, not_or] at others
      obtain ⟨double, quote, _, slash, _⟩ := others
      exact single visible (by simp [isQuote, double, quote]) slash line rest
  | escape c =>
      obtain ⟨visible, quote⟩ := valid
      have apostrophe : opens (some '\\') c = false := by rw [opens, quote, Bool.false_and]
      obtain ⟨read, mode⟩ := @single '\\' previous (by decide) (by decide) (by decide) line
        (c :: rest)
      have fresh : c = '/' → false = true → rest.head? ≠ some '/' := fun _ same =>
        absurd same Bool.false_ne_true
      exact ⟨read.trans (congrArg _ (glyphsFrom_char visible apostrophe uncommented fresh)),
        mode.trans (modeAfter_char visible apostrophe uncommented fresh)⟩
  | quoted mark body =>
      obtain ⟨quote, closed⟩ := valid
      have opening : opens previous mark = true := opens_iff.mpr ⟨quote, string quote⟩
      have inner := closed.quoted
      refine ⟨?_, ?_⟩
      · rw [text, List.cons_append, glyphsFrom_opening opening, inner.glyphsFrom quote]
        rfl
      · rw [text, List.cons_append, modeAfter_opening opening, inner.modeAfter quote]
        rfl
  | joint c =>
      simp only [IsValid, List.mem_cons, List.not_mem_nil, or_false] at valid
      rcases valid with rfl | rfl | rfl | rfl <;>
        exact single (by decide) (by decide) (by decide) line rest

theorem emit (last : Option Char) (pending : Bool) (rest : List Glyph) :
    emit last pending (sign.glyphs ++ rest) =
      separator last pending sign.first ++ sign.text ++
        Stylesheet.emit (some sign.last) false rest := by
  have single : ∀ {c : Char}, c ≠ ';' → ∀ last pending rest,
      Stylesheet.emit last pending (.code c :: rest) =
        separator last pending c ++ [c] ++ Stylesheet.emit (some c) false rest := by
    intro c other last pending rest
    rw [Stylesheet.emit, isIdleSemicolon_of_ne other, if_neg Bool.false_ne_true]
    simp
  cases sign with
  | plain c =>
      refine single ?_ last pending rest
      rintro rfl
      exact valid.2 (by decide)
  | escape c =>
      have useful : isIdleSemicolon (some '\\').toList c = false := by
        rw [← Bool.not_eq_true, isIdleSemicolon_iff]
        simp
      have onwards : Stylesheet.emit (some '\\') false (.code c :: rest) =
          c :: Stylesheet.emit (some c) false rest := by
        rw [Stylesheet.emit, useful, if_neg Bool.false_ne_true]
        rfl
      rw [glyphs, List.cons_append, List.singleton_append, single (by decide), onwards]
      simp [first, text, Sign.last]
  | quoted mark body =>
      obtain ⟨quote, closed⟩ := valid
      rw [glyphs, List.cons_append, Stylesheet.emit, closed.quoted.emit quote]
      simp [first, text, Sign.last]
  | joint c =>
      refine single ?_ last pending rest
      rintro rfl
      simp [IsValid] at valid

theorem unbroken : Glyph.escaped '\n' ∉ sign.glyphs := by
  cases sign with
  | plain c | escape c | joint c => simp [glyphs]
  | quoted mark body => simpa [glyphs] using valid.2.unbroken valid.1

end Sign

/-! ### Reading selectors -/

def spelling (steps : List Placed) : List Char :=
  steps.flatMap Placed.text

theorem emit_gap (last : Option Char) (count : Nat) (rest : List Glyph) :
    emit last false (List.replicate count .gap ++ rest) = emit last (count != 0) rest := by
  cases count with
  | zero => rfl
  | succ count => exact emit_gaps last count rest

theorem not_mem_gap (count : Nat) (c : Char) :
    Glyph.escaped c ∉ List.replicate count Glyph.gap := by
  simp [List.mem_replicate]

/-- What follows a sign does not make the beginning of a comment with its last character. -/
theorem Spelled.uncommented {sign : Sign} {left : Nat} {steps : List Placed}
    (spelled : Spelled (some sign) left false steps) {blank : Bool} {ending : List Char}
    (gap : Gap false blank ending) (slash : sign.last = '/') :
    (spelling steps ++ ending).head? ≠ some '*' := by
  cases steps with
  | nil => exact fun star => gap.head? '*' star rfl
  | cons placed steps =>
      obtain ⟨fits, _⟩ := spelled
      obtain ⟨_, here, _⟩ := fits.gap
      obtain ⟨tail, start⟩ := placed.sign.exists_text
      rw [spelling, List.flatMap_cons, Placed.text, start]
      cases joined : placed.gap with
      | nil => simpa using fits.comment joined (by rw [Option.map_some, slash])
      | cons c rest => exact fun star => here.head? c (by rw [joined]; rfl) (by simpa using star)

theorem Spelled.read {before : Option Sign} {left : Nat} {fresh : Bool} {steps : List Placed}
    (spelled : Spelled before left fresh steps) {blank : Bool} {ending : List Char}
    (gap : Gap (fresh && steps.isEmpty) blank ending) {previous last : Option Char}
    (named : previous.any isNameChar = (before.map Sign.last).any isNameChar)
    (alike : separator last = separator (before.map Sign.last)) :
    modeAfter .code previous fresh (spelling steps ++ ending) = .code ∧
      Glyph.escaped '\n' ∉ glyphsFrom .code previous fresh (spelling steps ++ ending) ∧
      emit last false (glyphsFrom .code previous fresh (spelling steps ++ ending)) =
        shortSpelling before steps := by
  induction steps generalizing before left fresh previous last with
  | nil =>
      rw [List.isEmpty_nil, Bool.and_true] at gap
      obtain ⟨count, _, _, _, _, onwards⟩ := gap.read previous
      obtain ⟨read, mode⟩ := onwards []
      rw [List.append_nil, glyphsFrom_nil] at read
      rw [List.append_nil] at mode
      rw [spelling, List.flatMap_nil, List.nil_append, read, mode, emit_gap]
      exact ⟨rfl, by simp, rfl⟩
  | cons placed steps ih =>
      obtain ⟨fits, others⟩ := spelled
      rw [List.isEmpty_cons, Bool.and_false] at gap
      obtain ⟨_, here, _⟩ := fits.gap
      obtain ⟨count, after, line, apart, unnamed, onwards⟩ := here.read previous
      obtain ⟨read, mode⟩ := onwards (placed.sign.text ++ (spelling steps ++ ending))
      have string : isQuote placed.sign.first = true → after.any isNameChar = false := by
        intro quote
        rw [unnamed, named]
        by_cases joined : placed.gap = []
        · rw [fits.string joined quote, Bool.and_false]
        · simp [joined]
      obtain ⟨readSign, modeSign⟩ :=
        @Sign.read _ fits.sign after line string _ (others.uncommented gap)
      obtain ⟨outside, unbroken, written⟩ :=
        @ih _ _ _ others gap (some placed.sign.last) (some placed.sign.last) rfl rfl
      have whole : spelling (placed :: steps) ++ ending =
          placed.gap ++ (placed.sign.text ++ (spelling steps ++ ending)) := by
        simp [spelling, Placed.text]
      rw [whole, read, mode, readSign, modeSign]
      refine ⟨outside, ?_, ?_⟩
      · simp only [List.mem_append, not_or]
        exact ⟨not_mem_gap count '\n', Sign.unbroken fits.sign, unbroken⟩
      · rw [emit_gap, Sign.emit fits.sign, written, alike, apart]
        rfl

/-! ### Telling selectors apart -/

/-- The first character of a sign tells of which kind it is, so that no sign begins another. -/
theorem Sign.text_append_inj {sign other : Sign} (valid : sign.IsValid) (fits : other.IsValid)
    {rest tail : List Char} (same : sign.text ++ rest = other.text ++ tail) :
    sign = other ∧ rest = tail := by
  simp only [IsValid, isQuote_iff] at valid fits
  cases sign with
  | plain c => cases other <;> grind [text]
  | escape c => cases other <;> grind [text]
  | joint c => cases other <;> grind [text]
  | quoted mark body =>
      cases other with
      | quoted mark' body' =>
          obtain ⟨rfl, behind⟩ := List.cons.inj same
          obtain ⟨rfl, rest⟩ := Body.append_inj (isQuote_iff.mpr valid.1) valid.2 fits.2 behind
          exact ⟨rfl, rest⟩
      | plain | escape | joint => grind [text]

namespace Placed

variable (before : Option Sign) (placed : Placed)

theorem blank_cases : placed.blank before = [] ∨ placed.blank before = [' '] := by
  rw [blank, separator]
  split
  · exact .inr rfl
  · exact .inl rfl

theorem combinator_cases : placed.combinator before = [] ∨ placed.combinator before = [' '] := by
  rw [combinator]
  split
  · exact .inr rfl
  · exact placed.blank_cases before

/-- Where two signs stand apart, the blank between them is kept if and only if neither the end
of the one nor the beginning of the other is tight. -/
theorem blank_eq_combinator_iff :
    placed.blank before = placed.combinator before ↔ (placed.isApart before = true →
      (∀ sign ∈ before, isTight sign.last = false) ∧ isTight placed.sign.first = false) := by
  rw [combinator]
  by_cases apart : placed.isApart before = true
  · obtain ⟨sign, rfl⟩ : ∃ sign, before = some sign := by
      cases before with
      | none => simp [isApart] at apart
      | some sign => exact ⟨sign, rfl⟩
    have gap : (!placed.gap.isEmpty) = true := by
      simp only [isApart, Bool.and_eq_true] at apart
      exact apart.1.1
    rw [if_pos apart, blank, separator, gap, Bool.true_and]
    simp [apart, needsSpace]
  · simp [apart]

/-- Whether signs stand apart is seen from the blanks that are written. -/
theorem isApart_eq :
    placed.isApart before = (before.any (!·.isJoint) && !placed.sign.isJoint &&
      placed.combinator before == [' ']) := by
  cases compounds : before.any (!·.isJoint) && !placed.sign.isJoint with
  | false =>
      rw [isApart, Bool.and_assoc, compounds]
      simp
  | true =>
      have apart : placed.isApart before = !placed.gap.isEmpty := by
        rw [isApart, Bool.and_assoc, compounds, Bool.and_true]
      rw [combinator, apart]
      cases gap : placed.gap.isEmpty <;> simp [blank, separator, gap]

end Placed

/-- A blank in front of a sign and the sign after it are told from another sign. -/
theorem blank_append_inj {here there : List Char} (blank : here = [] ∨ here = [' '])
    (other : there = [] ∨ there = [' ']) {sign : Sign} (valid : sign.IsValid) {next : Sign}
    (fits : next.IsValid) {rest tail : List Char}
    (same : here ++ sign.text ++ rest = there ++ next.text ++ tail) :
    here = there ∧ sign = next ∧ rest = tail := by
  obtain ⟨inner, start⟩ := sign.exists_text
  obtain ⟨inner', start'⟩ := next.exists_text
  have visible := ne_space (Sign.visible valid)
  have visible' := ne_space (Sign.visible fits)
  rcases blank with rfl | rfl <;> rcases other with rfl | rfl
  · exact ⟨rfl, Sign.text_append_inj valid fits same⟩
  · simp [start] at same
    exact absurd same.1 visible
  · simp [start'] at same
    exact absurd same.1.symm visible'
  · exact ⟨rfl, Sign.text_append_inj valid fits (List.cons.inj same).2⟩

theorem shortSpelling_eq_iff {before : Option Sign} {left : Nat} {fresh : Bool}
    {steps : List Placed} (spelled : Spelled before left fresh steps) :
    shortSpelling before steps = fullSpelling before steps ↔ AllLoose before steps := by
  induction steps generalizing before left fresh with
  | nil => exact ⟨fun _ => trivial, fun _ => rfl⟩
  | cons placed steps ih =>
      obtain ⟨fits, others⟩ := spelled
      rw [shortSpelling, fullSpelling, AllLoose, ← placed.blank_eq_combinator_iff, ← ih others]
      constructor
      · intro same
        obtain ⟨blank, _, rest⟩ := blank_append_inj (placed.blank_cases before)
          (placed.combinator_cases before) fits.sign fits.sign same
        exact ⟨blank, rest⟩
      · rintro ⟨blank, rest⟩
        rw [blank, rest]

theorem length_shortSpelling_le (before : Option Sign) (steps : List Placed) :
    (shortSpelling before steps).length ≤ (fullSpelling before steps).length := by
  induction steps generalizing before with
  | nil => exact le_rfl
  | cons placed steps ih =>
      have shorter : (placed.blank before).length ≤ (placed.combinator before).length := by
        rw [Placed.combinator]
        split
        · rcases placed.blank_cases before with blank | blank <;> simp [blank]
        · exact le_rfl
      have others := ih (some placed.sign)
      simp only [shortSpelling, fullSpelling, List.length_append]
      omega

/-- Selectors that are written with all their combinators are the same if they are written
alike. -/
theorem meaning_eq_of_fullSpelling {before : Option Sign} {left right : Nat} {fresh new : Bool}
    {steps others : List Placed} (spelled : Spelled before left fresh steps)
    (spelled' : Spelled before right new others)
    (same : fullSpelling before steps = fullSpelling before others) :
    meaning before steps = meaning before others := by
  induction steps generalizing before left right fresh new others with
  | nil =>
      cases others with
      | nil => rfl
      | cons placed others =>
          obtain ⟨inner, start⟩ := placed.sign.exists_text
          simp [fullSpelling, start] at same
  | cons placed steps ih =>
      cases others with
      | nil =>
          obtain ⟨inner, start⟩ := placed.sign.exists_text
          simp [fullSpelling, start] at same
      | cons placed' others =>
          obtain ⟨fits, spelled⟩ := spelled
          obtain ⟨fits', spelled'⟩ := spelled'
          obtain ⟨blank, sign, rest⟩ := blank_append_inj (placed.combinator_cases before)
            (placed'.combinator_cases before) fits.sign fits'.sign same
          rw [← sign] at rest spelled'
          rw [meaning, meaning, placed.isApart_eq, placed'.isApart_eq, ← sign, blank,
            ih spelled spelled' rest]

end DesignTokens.Stylesheet
