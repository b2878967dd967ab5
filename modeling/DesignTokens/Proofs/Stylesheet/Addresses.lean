import DesignTokens.Proofs.Stylesheet.Seams
import DesignTokens.Proofs.Stylesheet.Whole

/-!
Addresses in a style sheet: `url(...)` without quotes.  The short form has each of them where
the style sheet has it, with nothing changed but numbers that can be shorter.
-/

namespace DesignTokens.Stylesheet

def isLiteralMode : Mode → Bool
  | .literal _ => true
  | _ => false

/-- A reading ends inside a string if the reader is in one behind it. -/
theorem closedFrom_glyphsFrom (mode : Mode) (previous : Option Char) (lineBlank : Bool)
    (text : List Char) :
    closedFrom (isLiteralMode mode) (glyphsFrom mode previous lineBlank text) =
      !isLiteralMode (modeAfter mode previous lineBlank text) := by
  fun_induction modeAfter mode previous lineBlank text with
  | case1 mode => rw [glyphsFrom_nil]; rfl
  | case2 previous lineBlank rest ih => exact ih
  | case3 previous lineBlank c rest apart comment ih =>
      rw [glyphsFrom, if_pos comment]
      · exact ih
      · exact apart
  | case4 previous lineBlank c rest apart code blank ih =>
      rw [glyphsFrom, if_neg code, if_pos blank]
      · exact ih
      · exact apart
  | case5 previous lineBlank c rest apart code visible opening ih =>
      rw [glyphsFrom, if_neg code, if_neg visible, if_pos opening]
      · exact ih
      · exact apart
  | case6 previous lineBlank c rest apart code visible opening ih =>
      rw [glyphsFrom, if_neg code, if_neg visible, if_neg opening]
      · exact ih
      · exact apart
  | case7 previous lineBlank rest ih => exact ih
  | case8 previous lineBlank c rest apart ih =>
      rw [glyphsFrom]
      · exact ih
      · exact apart
  | case9 previous lineBlank c rest line ih =>
      rw [glyphsFrom, if_pos line]
      exact ih
  | case10 previous lineBlank c rest line ih =>
      rw [glyphsFrom, if_neg line]
      exact ih
  | case11 previous lineBlank mark c rest ih => exact ih
  | case12 previous lineBlank mark c rest apart closes ih =>
      rw [glyphsFrom, if_pos closes]
      · exact ih
      · exact apart
  | case13 previous lineBlank mark c rest apart kept ih =>
      rw [glyphsFrom, if_neg kept]
      · exact ih
      · exact apart

/-- Visible characters without quotes that begin no comment are read as themselves. -/
theorem glyphsFrom_visible {text : List Char}
    (visible : ∀ c ∈ text, isBlank c = false ∧ isQuote c = false)
    (uncommented : ¬ ['/', '*'] <:+: text) (ending : text.getLast? ≠ some '/')
    (previous : Option Char) (rest : List Char) :
    glyphsFrom .code previous false (text ++ rest) =
      text.map .code ++ glyphsFrom .code (text.getLast?.or previous) false rest := by
  induction text generalizing previous with
  | nil => rfl
  | cons c text ih =>
      obtain ⟨⟨unblank, unquoted⟩, others⟩ := List.forall_mem_cons.mp visible
      have behind : ¬ ['/', '*'] <:+: text := fun inside =>
        uncommented (inside.trans (List.suffix_cons c text).isInfix)
      have last : text.getLast? ≠ some '/' := by
        intro slash
        rw [List.getLast?_cons, slash] at ending
        exact ending rfl
      have apart : ∀ following, c = '/' → text ++ rest = '*' :: following → False := by
        rintro following rfl star
        cases text with
        | nil => exact ending rfl
        | cons d text =>
            obtain ⟨rfl, _⟩ := List.cons.inj star
            exact uncommented (List.prefix_append ['/', '*'] text).isInfix
      have apostrophe : opens previous c = false := by rw [opens, unquoted, Bool.false_and]
      rw [List.cons_append, glyphsFrom, if_neg (by simp), unblank, if_neg Bool.false_ne_true,
        apostrophe, if_neg Bool.false_ne_true, ih others behind last, or_getLast?_cons]
      · rfl
      · exact apart

theorem emit_append (last : Option Char) (pending : Bool) (glyphs : List Glyph) :
    ∃ before due, ∀ rest, emit last pending (glyphs ++ rest) =
      emit last pending glyphs ++ emit before due rest := by
  induction glyphs generalizing last pending with
  | nil => exact ⟨last, pending, fun _ => rfl⟩
  | cons glyph glyphs ih =>
      cases glyph with
      | gap => exact ih last true
      | code c =>
          by_cases idle : isIdleSemicolon last.toList c = true
          · obtain ⟨before, due, onwards⟩ := ih last false
            refine ⟨before, due, fun rest => ?_⟩
            rw [List.cons_append, emit, emit, if_pos idle, if_pos idle, onwards]
          · obtain ⟨before, due, onwards⟩ := ih (some c) false
            refine ⟨before, due, fun rest => ?_⟩
            rw [List.cons_append, emit, emit, if_neg idle, if_neg idle, onwards]
            simp
      | opening mark =>
          obtain ⟨before, due, onwards⟩ := ih (some mark) false
          refine ⟨before, due, fun rest => ?_⟩
          rw [List.cons_append, emit, emit, onwards]
          simp
      | inner c | escaped c | closing c =>
          obtain ⟨before, due, onwards⟩ := ih (some c) false
          refine ⟨before, due, fun rest => ?_⟩
          rw [List.cons_append, emit, emit, onwards]
          rfl

theorem emit_code {text : List Char} (unended : ';' ∉ text) (last : Option Char)
    (rest : List Glyph) :
    emit last false (text.map .code ++ rest) = text ++ emit (text.getLast?.or last) false rest := by
  induction text generalizing last with
  | nil => rfl
  | cons c text ih =>
      rw [List.mem_cons, not_or] at unended
      rw [List.map_cons, List.cons_append, emit,
        isIdleSemicolon_of_ne (Ne.symm unended.1), if_neg Bool.false_ne_true, ih unended.2,
        or_getLast?_cons]
      rfl

theorem rdropWhile_append_cons {drop : Char → Bool} {c : Char} (kept : drop c = false)
    (front rest : List Char) :
    (front ++ c :: rest).rdropWhile drop = front ++ c :: rest.rdropWhile drop := by
  induction rest using List.reverseRecOn with
  | nil => rw [List.rdropWhile_nil, List.rdropWhile_concat_neg _ _ _ (by simp [kept])]
  | append_singleton rest d ih =>
      rw [← List.cons_append, ← List.append_assoc]
      by_cases dropped : drop d = true
      · rw [List.rdropWhile_concat_pos _ _ _ dropped, List.rdropWhile_concat_pos _ _ _ dropped, ih]
      · rw [List.rdropWhile_concat_neg _ _ _ dropped, List.rdropWhile_concat_neg _ _ _ dropped]
        simp

structure Solid (text : List Char) : Prop where
  visible : ∀ c ∈ text, isBlank c = false ∧ isQuote c = false ∧ c ≠ '\\' ∧ c ≠ ';'
  uncommented : ¬ ['/', '*'] <:+: text
  first : ∀ c ∈ text.head?, c ≠ '/' ∧ c ≠ '*'
  ending : text.getLast? = some ')'

theorem Solid.quiet {text : List Char} (solid : Solid text) : Quiet ')' text where
  inert := by
    rw [List.all_eq_true]
    intro c member
    exact isInert_iff.mpr ⟨(solid.visible c member).2.1, (solid.visible c member).2.2.1⟩
  first c first := by
    rintro rfl
    have visible := (solid.visible '\n' (List.mem_of_mem_head? first)).1
    exact absurd visible (by decide)
  ending := solid.ending

/-- What is read of a style sheet around a text that stands outside of strings and comments. -/
theorem glyphs_around {front : List Char} (outside : modeAfter .code none true front = .code)
    {text : List Char} (solid : Solid text) (rest : List Char) :
    glyphs (front ++ (text ++ rest)) =
      glyphs front ++ (text.map .code ++ glyphsFrom .code (some ')') false rest) := by
  obtain ⟨c, others, rfl⟩ : ∃ c others, text = c :: others := by
    cases text with
    | nil => cases solid.ending
    | cons c others => exact ⟨c, others, rfl⟩
  obtain ⟨slash, star⟩ := solid.first c rfl
  have coded : ∀ mark, Mode.code = .literal mark → isQuote mark = true := nofun
  have left : (modeAfter .code none true front).isOutside = true := by rw [outside]; rfl
  obtain ⟨before, fresh, read, _⟩ := glyphsFrom_append coded left star slash (others ++ rest)
  have visible : ∀ d ∈ c :: others, isBlank d = false ∧ isQuote d = false := fun d member =>
    ⟨(solid.visible d member).1, (solid.visible d member).2.1⟩
  have onwards := glyphsFrom_visible visible solid.uncommented (by simp [solid.ending]) before rest
  -- The first character is none of a comment, wherever it stands on its line.
  have fresher : glyphsFrom .code before fresh (c :: (others ++ rest)) =
      glyphsFrom .code before false (c :: (others ++ rest)) := by
    rw [glyphsFrom.eq_def, glyphsFrom.eq_def .code before false]
    simp [slash, (visible c List.mem_cons_self).1]
  rw [glyphs, List.cons_append, read, outside, fresher, ← List.cons_append, onwards, solid.ending]
  rfl

theorem Shut.append {site : Site} {text tail : List Char} (shut : Shut site text)
    (onwards : ∀ other : Site, other.isInside = false → Shut other tail) :
    Shut site (text ++ tail) := by
  induction text generalizing site with
  | nil => exact onwards site shut
  | cons c rest ih => exact ⟨shut.1, ih shut.2⟩

theorem Shut.separator {text : List Char} (shut : Shut (.code none) text) (last : Option Char)
    (pending : Bool) (c : Char) : Shut (.code none) (text ++ separator last pending c) := by
  refine shut.append fun other outside => ?_
  rw [Stylesheet.separator]
  split
  · cases other with
    | code last => exact ⟨Site.glyph_code_ne_escaped last ' ' '\n', rfl⟩
    | literal mark => cases outside
    | escape mark => cases outside
  · exact outside

/-- What is kept around a text that stands outside of strings and comments. -/
theorem exists_collapse {front : List Char} (outside : modeAfter .code none true front = .code)
    (c : Char) (rest : List Char) :
    ∃ before after, (Glyph.escaped '\n' ∉ glyphs front → Shut (.code none) before) ∧
      ∀ others, Solid (c :: others) →
        collapse (front ++ (c :: others ++ rest)) = before ++ (c :: others ++ after) := by
  obtain ⟨last, due, written⟩ := emit_append none false (glyphs front)
  refine ⟨emit none false (glyphs front) ++ separator last due c,
    (emit (some ')') false (glyphsFrom .code (some ')') false rest)).rdropWhile isBlank, ?_, ?_⟩
  · intro unbroken
    have closed := closedFrom_glyphsFrom .code none true front
    rw [outside] at closed
    exact (shut_emit_glyphs closed unbroken).separator last due c
  · intro others solid
    have unended : ';' ∉ c :: others := fun member => (solid.visible ';' member).2.2.2 rfl
    rw [List.mem_cons, not_or] at unended
    have ending : others.getLast?.or (some c) = some ')' := by
      rw [← or_getLast?_cons c others none, solid.ending]
      rfl
    have whole : emit none false (glyphs (front ++ (c :: others ++ rest))) =
        (emit none false (glyphs front) ++ separator last due c) ++ (c :: others ++
          emit (some ')') false (glyphsFrom .code (some ')') false rest)) := by
      rw [glyphs_around outside solid, written, List.map_cons, List.cons_append, emit,
        isIdleSemicolon_of_ne (Ne.symm unended.1), if_neg Bool.false_ne_true,
        emit_code unended.2, ending]
      simp
    have steady := steady_emit_glyphs (front ++ (c :: others ++ rest))
    rw [collapse_eq, trim_eq_rdropWhile steady.first_visible, whole]
    obtain ⟨inner, split⟩ := List.getLast?_eq_some_iff.mp solid.ending
    have kept : isBlank ')' = false := by decide
    rw [split, ← List.append_assoc, ← List.append_assoc, List.append_assoc (_ ++ inner),
      List.singleton_append, rdropWhile_append_cons kept]
    simp

def IsAddress (content : String) : Prop :=
  (∀ c ∈ content.toList, isBlank c = false ∧ c ∉ ['"', '\'', '(', ')', '\\', ';']) ∧
    ¬ ['/', '*'] <:+: content.toList

instance (content : String) : Decidable (IsAddress content) :=
  have := List.decidableBAll
    (fun c => isBlank c = false ∧ c ∉ ['"', '\'', '(', ')', '\\', ';']) content.toList
  inferInstanceAs (Decidable (_ ∧ _))

def addressText (name content : String) : String :=
  name ++ "(" ++ content ++ ")"

theorem toNat_ofNat_of_lt {code : Nat} (small : code < 128) : (Char.ofNat code).toNat = code := by
  have valid : code.isValidChar := .inl (by omega)
  rw [Char.ofNat, dif_pos valid]
  rfl

theorem eq_of_asciiLowerChar {c lower : Char} (same : asciiLowerChar c = lower) :
    c = lower ∨ c = Char.ofNat (lower.toNat - 32) := by
  rw [asciiLowerChar] at same
  split at same
  · rename_i upper
    right
    have range : 65 ≤ c.toNat ∧ c.toNat ≤ 90 := by
      simp only [isAsciiUpper, Bool.and_eq_true, decide_eq_true_eq] at upper
      exact upper
    rw [← same, toNat_ofNat_of_lt (by omega), Nat.add_sub_cancel, Char.ofNat_toNat]
  · exact .inl same

structure UrlLetters (u r l : Char) : Prop where
  first : u = 'u' ∨ u = 'U'
  second : r = 'r' ∨ r = 'R'
  third : l = 'l' ∨ l = 'L'

theorem exists_urlLetters {name : String} (url : asciiLowerCased name.toList = "url") :
    ∃ u r l, name.toList = [u, r, l] ∧ UrlLetters u r l := by
  have letters : name.toList.map asciiLowerChar = ['u', 'r', 'l'] := by
    rw [asciiLowerCased, ← String.toList_inj, String.toList_ofList] at url
    exact url
  simp only [List.map_eq_cons_iff, List.map_eq_nil_iff] at letters
  obtain ⟨u, _, same, first, r, _, rfl, second, l, _, rfl, third, rfl⟩ := letters
  exact ⟨u, r, l, same, eq_of_asciiLowerChar first, eq_of_asciiLowerChar second,
    eq_of_asciiLowerChar third⟩

theorem not_infix_cons {c : Char} (other : c ≠ '/') {text : List Char}
    (none : ¬ ['/', '*'] <:+: text) : ¬ ['/', '*'] <:+: c :: text := by
  rw [List.infix_cons_iff, not_or]
  refine ⟨?_, none⟩
  rw [List.cons_prefix_cons]
  exact fun same => other same.1.symm

theorem not_infix_concat {c : Char} (other : c ≠ '*') {text : List Char}
    (none : ¬ ['/', '*'] <:+: text) : ¬ ['/', '*'] <:+: text ++ [c] := by
  rw [List.infix_concat_iff, not_or]
  refine ⟨?_, none⟩
  rintro ⟨front, same⟩
  have last := congrArg List.getLast? same
  simp at last
  exact other last.symm

theorem UrlLetters.solid {u r l : Char} (letters : UrlLetters u r l) {content : String}
    (address : IsAddress content) :
    Solid (u :: r :: l :: '(' :: (content.toList ++ [')'])) := by
  have named : ∀ c ∈ ['u', 'U', 'r', 'R', 'l', 'L', '(', ')'], (isBlank c = false ∧
      isQuote c = false ∧ c ≠ '\\' ∧ c ≠ ';') ∧ c ≠ '/' ∧ c ≠ '*' := by
    simp [isBlank, isQuote]
  have first := named u (by rcases letters.first with rfl | rfl <;> simp)
  have second := named r (by rcases letters.second with rfl | rfl <;> simp)
  have third := named l (by rcases letters.third with rfl | rfl <;> simp)
  refine ⟨?_, ?_, ?_, ?_⟩
  · simp only [List.forall_mem_cons, List.forall_mem_append]
    refine ⟨first.1, second.1, third.1, by decide, ?_, by decide, by simp⟩
    intro c member
    obtain ⟨visible, others⟩ := address.1 c member
    simp only [List.mem_cons, List.not_mem_nil, or_false, not_or] at others
    obtain ⟨double, single, _, _, slash, semicolon⟩ := others
    exact ⟨visible, by simp [isQuote, double, single], slash, semicolon⟩
  · refine not_infix_cons first.2.1 (not_infix_cons second.2.1 (not_infix_cons third.2.1 ?_))
    exact not_infix_cons (by decide) (not_infix_concat (by decide) address.2)
  · rintro c ⟨⟩
    exact first.2
  · rw [← List.cons_append, List.getLast?_cons, List.getLast?_cons, List.getLast?_cons,
      List.getLast?_concat]
    rfl

/-- The short form of a style sheet has every address that stands outside of strings and
comments, in a place that the address does not decide.  If none of its numbers can be shorter
then it is kept as it is; otherwise it is shortened like any text, unless a string before it
escapes a line break. -/
theorem address_minified {front name : String}
    (outside : modeAfter .code none true front.toList = .code)
    (url : asciiLowerCased name.toList = "url") (rest : String) :
    ∃ before after : String, ∀ content, IsAddress content → ∃ kept,
      minified (front ++ addressText name content ++ rest) =
        before ++ addressText name kept ++ after ∧
      (Brief none content.toList → kept = content) ∧
      (¬ EscapesLineBreak front → kept = String.ofList (shortNumbers content.toList) ∧
        (kept = content ↔ Brief none content.toList)) := by
  obtain ⟨u, r, l, spelled, letters⟩ := exists_urlLetters url
  obtain ⟨start, ending, shut, collapsed⟩ := exists_collapse outside u rest.toList
  obtain ⟨firsts, left, right, lasts, wrap, kind, splits⟩ :=
    exists_seam (by decide : isInert ')' = true) (by decide) none start ending
  have written : ∀ content, IsAddress content →
      (minified (front ++ addressText name content ++ rest)).toList =
        firsts.flatMap Part.shortened ++ (wrap (left ++
          (u :: r :: l :: '(' :: (content.toList ++ [')']) ++ right))).shortened ++
            lasts.flatMap Part.shortened := by
    intro content address
    have solid := letters.solid address
    have text : (front ++ addressText name content ++ rest).toList = front.toList ++
        (u :: r :: l :: '(' :: (content.toList ++ [')']) ++ rest.toList) := by
      simp [addressText, spelled]
    have split := (splits _ solid.quiet).partsFrom
    rw [minified, String.toList_ofList, text, collapsed _ solid, parts, split]
    simp
  rcases kind with rfl | ⟨rfl, unshut⟩
  · have foreign : u ∉ zeroChars := by rcases letters.first with rfl | rfl <;> decide
    have digit : isDecimalDigit u = false := by rcases letters.first with rfl | rfl <;> decide
    have zeroless : '0' ∉ [r, l] := by
      rcases letters.second with rfl | rfl <;> rcases letters.third with rfl | rfl <;> decide
    obtain ⟨lead, same⟩ := exists_shortNumbers foreign digit zeroless left
    refine ⟨String.ofList (firsts.flatMap Part.shortened ++ lead),
      String.ofList (shortNumbers right ++ lasts.flatMap Part.shortened), fun content address =>
        ⟨String.ofList (shortNumbers content.toList), ?_, ?_, fun _ => ⟨rfl, ?_⟩⟩⟩
    · have whole : left ++ (u :: r :: l :: '(' :: (content.toList ++ [')']) ++ right) =
          (left ++ u :: [r, l]) ++ '(' :: (content.toList ++ ')' :: right) := by simp
      have short : (Part.plain (left ++
          (u :: r :: l :: '(' :: (content.toList ++ [')']) ++ right))).shortened = lead ++
            u :: [r, l] ++ '(' :: (shortNumbers content.toList ++ ')' :: shortNumbers right) := by
        change shortNumbers _ = _
        rw [whole, parting_opening.shortNumbers, parting_closing.shortNumbers, same]
      rw [← String.toList_inj, written content address, short]
      simp [addressText, spelled]
    · intro brief
      rw [(shortNumbers_eq_self_iff _).mpr brief, String.ofList_toList]
    · rw [← shortNumbers_eq_self_iff, ← String.toList_inj, String.toList_ofList]
  · refine ⟨String.ofList (firsts.flatMap Part.shortened ++ left),
      String.ofList (right ++ lasts.flatMap Part.shortened), fun content address =>
        ⟨content, ?_, fun _ => rfl, fun unbroken => absurd (shut unbroken) unshut⟩⟩
    rw [← String.toList_inj, written content address]
    simp [addressText, spelled, Part.shortened]

theorem address_minified_dotted :
    ∃ before after, minified "a\x7bmargin: 0px; background: url(//a/10.5px.png)\x7d" =
      before ++ "url(//a/10.5px.png)" ++ after := by
  have outside : modeAfter .code none true "a\x7bmargin: 0px; background: ".toList = .code := by
    decide
  have url : asciiLowerCased "url".toList = "url" := by decide
  have address : IsAddress "//a/10.5px.png" := by decide +kernel
  have brief : Brief none "//a/10.5px.png".toList :=
    (shortNumbers_eq_self_iff _).mp (by decide +kernel)
  obtain ⟨before, after, placed⟩ := address_minified outside url "\x7d"
  obtain ⟨kept, short, same, _⟩ := placed _ address
  rw [same brief] at short
  exact ⟨before, after, short⟩

/-- A number in an address is shortened, and then it is another address. -/
theorem address_shortened :
    IsAddress "a/0.5.png" ∧
      minified "a\x7bbackground:url(a/0.5.png)\x7d" = "a\x7bbackground:url(a/.5.png)\x7d" ∧
      ¬ "url(a/0.5.png)".toList <:+:
        (minified "a\x7bbackground:url(a/0.5.png)\x7d").toList := by
  decide +kernel

end DesignTokens.Stylesheet
