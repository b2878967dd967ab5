import DesignTokens.Proofs.Json.Writer

/-!
The words for infinities and the undefined number have letters that no standard text has
outside of its strings, so a document with such a number is not written in standard JSON.
-/

namespace DesignTokens

namespace Json

inductive Place where
  | outside
  | inside
  | escaped

def unquoted : Place → List Char → List Char
  | _, [] => []
  | .outside, c :: rest =>
      if c = '"' then unquoted .inside rest else c :: unquoted .outside rest
  | .inside, c :: rest =>
      if c = '"' then unquoted .outside rest
      else if c = '\\' then unquoted .escaped rest
      else unquoted .inside rest
  | .escaped, _ :: rest => unquoted .inside rest

def IsStray (c : Char) : Prop :=
  c = 'I' ∨ c = 'N'

def Strays (text : List Char) : Prop :=
  ∃ c ∈ unquoted .outside text, IsStray c

theorem unquoted_append {text : List Char} (plain : '"' ∉ text) (rest : List Char) :
    unquoted .outside (text ++ rest) = text ++ unquoted .outside rest := by
  induction text with
  | nil => rfl
  | cons c text ih =>
      have first : c ≠ '"' := fun same => plain (same ▸ List.mem_cons_self)
      rw [List.cons_append, unquoted, if_neg first,
        ih fun member => plain (List.mem_cons_of_mem c member), List.cons_append]

theorem strays_append {text : List Char} (plain : '"' ∉ text) (rest : List Char) :
    Strays (text ++ rest) ↔ (∃ c ∈ text, IsStray c) ∨ Strays rest := by
  simp only [Strays, unquoted_append plain, List.mem_append, or_and_right, exists_or]

theorem unquoted_digit {c : Char} {digit : Nat} (read : hexValue? c = some digit)
    (rest : List Char) : unquoted .inside (c :: rest) = unquoted .inside rest := by
  have quote : c ≠ '"' := by
    rintro rfl
    exact nomatch read
  have backslash : c ≠ '\\' := by
    rintro rfl
    exact nomatch read
  rw [unquoted, if_neg quote, if_neg backslash]

theorem unquoted_unit {unit : Nat} {digits : List Char} (spelled : IsUnit unit digits)
    (rest : List Char) :
    unquoted .inside ('\\' :: 'u' :: (digits ++ rest)) = unquoted .inside rest := by
  rcases spelled.exists_digits with ⟨a, b, c, d, first, second, third, fourth, rfl, readFirst,
    readSecond, readThird, readFourth, _⟩
  change unquoted .inside (a :: b :: c :: d :: rest) = _
  rw [unquoted_digit readFirst, unquoted_digit readSecond, unquoted_digit readThird,
    unquoted_digit readFourth]

theorem unquoted_characters {chars text : List Char} (spelled : Characters chars text)
    (rest : List Char) : unquoted .inside (text ++ rest) = unquoted .inside rest := by
  induction spelled with
  | nil => rfl
  | plain printable quote backslash _ ih =>
      rw [List.cons_append, unquoted, if_neg quote, if_neg backslash, ih]
  | short listed _ ih => exact ih
  | unit spelled _ ih =>
      simp only [List.cons_append, List.append_assoc]
      rw [unquoted_unit spelled, ih]
  | pair leads trails _ _ _ _ ih =>
      simp only [List.cons_append, List.append_assoc]
      rw [unquoted_unit leads, unquoted_unit trails, ih]

theorem not_isStray_of_isNumeral {c : Char} (numeral : IsNumeral c) : ¬ IsStray c := by
  rintro (rfl | rfl) <;> simp [IsNumeral, IsMark, isAsciiDigit] at numeral

theorem strays_blank {blank : List Char} (each : IsBlank blank) (rest : List Char) :
    Strays (blank ++ rest) ↔ Strays rest := by
  have plain : '"' ∉ blank := fun member => by simpa using each '"' member
  rw [strays_append plain]
  refine or_iff_right ?_
  rintro ⟨c, member, stray⟩
  rcases each c member with rfl | rfl | rfl | rfl <;> simp [IsStray] at stray

theorem strays_token {token : Token} {text : List Char} (spelled : token.Spells text)
    (rest : List Char) : Strays (text ++ rest) ↔ Strays rest := by
  have numeral : ∀ {text : List Char}, (∀ c ∈ text, IsNumeral c) →
      (Strays (text ++ rest) ↔ Strays rest) := by
    intro text each
    have plain : '"' ∉ text := fun member => by
      simpa [IsNumeral, IsMark, isAsciiDigit] using each '"' member
    rw [strays_append plain]
    refine or_iff_right ?_
    rintro ⟨c, member, stray⟩
    exact not_isStray_of_isNumeral (each c member) stray
  cases spelled with
  | text characters =>
      simp only [Strays, List.cons_append, List.append_assoc, unquoted, if_true,
        unquoted_characters characters, List.nil_append]
  | positive number => exact numeral number.isNumeral
  | negative number =>
      exact numeral (List.forall_mem_cons.mpr ⟨by simp [IsNumeral], number.isNumeral⟩)
  | _ =>
      rw [strays_append (by decide)]
      exact or_iff_right (by simp [IsStray])

theorem not_strays_of_spells {tokens : List Token} {text : List Char}
    (spelled : SpellsAll tokens text) : ¬ Strays text := by
  induction spelled with
  | done each =>
      have none := strays_blank each []
      rw [List.append_nil] at none
      rw [none]
      simp [Strays, unquoted]
  | next each token _ ih => rwa [List.append_assoc, strays_blank each, strays_token token]

theorem strays_infinite {x : Float} (infinite : x.isFinite ≠ true) (rest : List Char) :
    Strays ((NumberLayout.json.write x).toList ++ rest) := by
  have word : NumberLayout.json.write x = "NaN" ∨ NumberLayout.json.write x = "-Infinity" ∨
      NumberLayout.json.write x = "Infinity" := by
    rw [NumberLayout.write]
    split
    · rename_i b parts
      exact absurd (isFinite_iff.mpr ⟨b, parts⟩) infinite
    · split
      · exact Or.inl rfl
      · split
        · exact Or.inr (Or.inl rfl)
        · exact Or.inr (Or.inr rfl)
  rcases word with word | word | word
  · rw [word, strays_append (by decide)]
    exact Or.inl ⟨'N', by decide, Or.inr rfl⟩
  · rw [word, strays_append (by decide)]
    exact Or.inl ⟨'I', by decide, Or.inl rfl⟩
  · rw [word, strays_append (by decide)]
    exact Or.inl ⟨'I', by decide, Or.inl rfl⟩

theorem strays_between (spacing : Spacing) (depth : Nat) (rest : List Char) :
    Strays (spacing.between depth ++ rest) ↔ Strays rest := by
  unfold Spacing.between
  split
  · exact (strays_token .comma _).trans (strays_blank isBlank_space rest)
  · exact (strays_token .comma _).trans (strays_blank (isBlank_line spacing depth) rest)

theorem strays_key (key : String) (rest : List Char) :
    Strays (writeText key ++ ':' :: ' ' :: rest) ↔ Strays rest := by
  rw [strays_token (spells_writeText key)]
  exact (strays_token .colon _).trans (strays_blank isBlank_space rest)

mutual

/-- Behind an infinite number, or before a stray letter, the text has a stray letter. -/
theorem strays_write (spacing : Spacing) : ∀ (json : Json) (depth : Nat) {rest : List Char},
    ¬ json.IsFinite ∨ Strays rest → Strays (json.write spacing depth ++ rest)
  | .null, _, _, bad => by
      rw [write, strays_token .null]
      exact bad.resolve_left (not_not_intro trivial)
  | .boolean true, _, _, bad => by
      rw [write, strays_token .true]
      exact bad.resolve_left (not_not_intro trivial)
  | .boolean false, _, _, bad => by
      rw [write, strays_token .false]
      exact bad.resolve_left (not_not_intro trivial)
  | .integer value, _, _, bad => by
      rw [write, strays_token (spells_integerText value)]
      exact bad.resolve_left (not_not_intro trivial)
  | .number value, _, rest, bad => by
      rw [write]
      by_cases finite : value.isFinite = true
      · rw [strays_token (spells_number finite)]
        exact bad.resolve_left (not_not_intro finite)
      · exact strays_infinite finite rest
  | .text value, _, _, bad => by
      rw [write, strays_token (spells_writeText value)]
      exact bad.resolve_left (not_not_intro trivial)
  | .array [], _, _, bad => by
      rw [write]
      exact (strays_token .openArray _).mpr
        ((strays_token .closeArray _).mpr (bad.resolve_left (not_not_intro trivial)))
  | .array (item :: items), depth, rest, bad => by
      have close : Strays rest → Strays (spacing.line depth ++ (']' :: rest)) := fun stray =>
        (strays_blank (isBlank_line spacing depth) _).mpr ((strays_token .closeArray _).mpr stray)
      have parts : ¬ item.IsFinite ∨ ¬ ItemsFinite items ∨ Strays rest := by
        rwa [← or_assoc, ← not_and_or]
      have others := parts.imp_right fun later =>
        strays_writeItems spacing items (depth + 1) (later.imp_right close)
      have first := strays_write spacing item (depth + 1) others
      rw [write]
      simp only [List.cons_append, List.append_assoc, List.nil_append]
      exact (strays_token .openArray _).mpr
        ((strays_blank (isBlank_line spacing (depth + 1)) _).mpr first)
  | .object [], _, _, bad => by
      rw [write]
      exact (strays_token .openObject _).mpr
        ((strays_token .closeObject _).mpr (bad.resolve_left (not_not_intro trivial)))
  | .object ((key, value) :: entries), depth, rest, bad => by
      have close : Strays rest → Strays (spacing.line depth ++ ('\x7d' :: rest)) := fun stray =>
        (strays_blank (isBlank_line spacing depth) _).mpr ((strays_token .closeObject _).mpr stray)
      have parts : ¬ value.IsFinite ∨ ¬ EntriesFinite entries ∨ Strays rest := by
        rwa [← or_assoc, ← not_and_or]
      have others := parts.imp_right fun later =>
        strays_writeEntries spacing entries (depth + 1) (later.imp_right close)
      have first := strays_write spacing value (depth + 1) others
      rw [write]
      simp only [List.cons_append, List.append_assoc, List.nil_append]
      exact (strays_token .openObject _).mpr
        ((strays_blank (isBlank_line spacing (depth + 1)) _).mpr ((strays_key key _).mpr first))

theorem strays_writeItems (spacing : Spacing) : ∀ (items : List Json) (depth : Nat)
    {rest : List Char}, ¬ ItemsFinite items ∨ Strays rest →
    Strays (writeItems spacing depth items ++ rest)
  | [], _, _, bad => bad.resolve_left (not_not_intro trivial)
  | item :: items, depth, rest, bad => by
      have parts : ¬ item.IsFinite ∨ ¬ ItemsFinite items ∨ Strays rest := by
        rwa [← or_assoc, ← not_and_or]
      have others := parts.imp_right (strays_writeItems spacing items depth)
      rw [writeItems, List.append_assoc, List.append_assoc, strays_between]
      exact strays_write spacing item depth others

theorem strays_writeEntries (spacing : Spacing) : ∀ (entries : List (String × Json))
    (depth : Nat) {rest : List Char}, ¬ EntriesFinite entries ∨ Strays rest →
    Strays (writeEntries spacing depth entries ++ rest)
  | [], _, _, bad => bad.resolve_left (not_not_intro trivial)
  | (key, value) :: entries, depth, rest, bad => by
      have parts : ¬ value.IsFinite ∨ ¬ EntriesFinite entries ∨ Strays rest := by
        rwa [← or_assoc, ← not_and_or]
      have others := parts.imp_right (strays_writeEntries spacing entries depth)
      have first := strays_write spacing value depth others
      rw [writeEntries]
      simp only [List.cons_append, List.append_assoc]
      rw [strays_between, strays_key]
      exact first

end

/-- What is written for a document is standard JSON if and only if its numbers are finite. -/
theorem spells_pretty_iff (json : Json) :
    (∃ other : Json, other.Spells json.pretty) ↔ json.IsFinite := by
  constructor
  · rintro ⟨other, spelled⟩
    by_contra infinite
    have stray := strays_write ⟨some 2⟩ json 0 (Or.inl infinite : _ ∨ Strays [])
    rw [List.append_nil] at stray
    rw [Spells, pretty, String.toList_ofList] at spelled
    exact not_strays_of_spells spelled stray
  · exact fun finite => ⟨json, spells_pretty finite⟩

end Json

end DesignTokens
