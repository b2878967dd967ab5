import DesignTokens.Proofs.Json.Layout
import DesignTokens.Proofs.Json.Reader

/-!
What is written for a document is standard JSON if and only if every number in it is finite,
and then it says that document.
-/

namespace DesignTokens

namespace Json

mutual

def IsFinite : Json → Prop
  | .number value => value.isFinite = true
  | .array items => ItemsFinite items
  | .object entries => EntriesFinite entries
  | _ => True

def ItemsFinite : List Json → Prop
  | [] => True
  | item :: items => item.IsFinite ∧ ItemsFinite items

def EntriesFinite : List (String × Json) → Prop
  | [] => True
  | (_, value) :: entries => value.IsFinite ∧ EntriesFinite entries

end

theorem isUnit_hexDigits {unit : Nat} (small : unit < 0x10000) :
    IsUnit unit (hexDigits 4 unit) := by
  have digit : ∀ value < 16, digitIn? 16 (hexDigit value) = some value := by decide
  refine ⟨rfl, ?_⟩
  simp only [hexDigits, List.nil_append, List.cons_append, numberIn?, List.foldlM_cons,
    List.foldlM_nil, digit _ (Nat.mod_lt _ (by decide : 0 < 16)), Option.map_some,
    Option.bind_eq_bind, Option.bind_some, Option.pure_def, Option.some.injEq]
  omega

theorem characters_escapedChar (c : Char) {chars text : List Char}
    (spelled : Characters chars text) : Characters (c :: chars) (escapedChar c ++ text) := by
  have control : ∀ {code : Nat}, c.toNat = code → c = Char.ofNat code := by
    rintro code rfl
    exact (Char.ofNat_toNat c).symm
  unfold escapedChar
  iterate 5
    split
    · rename_i same
      obtain rfl := beq_iff_eq.mp same
      exact .short (by decide) spelled
  iterate 2
    split
    · rename_i code
      obtain rfl := control code
      exact .short (by decide) spelled
  rename_i quote backslash _ _ _ _ _
  split
  · rename_i printable
    exact .plain printable.1 (by simpa using quote) (by simpa using backslash) spelled
  split
  · rename_i small
    exact .unit (isUnit_hexDigits small) spelled
  · rename_i large
    have bound : c.toNat < 0x110000 := by
      rcases c.valid with below | above
      · exact Nat.lt_trans below (by decide)
      · exact above.2
    rw [List.append_assoc]
    exact .pair (isUnit_hexDigits (by omega)) (isUnit_hexDigits (by omega)) (by omega) (by omega)
      (by omega) spelled

theorem spells_writeText (value : String) : Token.Spells (.text value) (writeText value) := by
  refine .text ?_
  induction value.toList with
  | nil => exact .nil
  | cons c chars ih => exact characters_escapedChar c ih

theorem isBlank_nil : IsBlank [] := by
  simp [IsBlank]

theorem isBlank_space : IsBlank [' '] := by
  simp [IsBlank]

theorem SpellsAll.blank {tokens : List Token} {blank rest : List Char} (each : IsBlank blank)
    (spelled : SpellsAll tokens rest) : SpellsAll tokens (blank ++ rest) := by
  have joined : ∀ {more : List Char}, IsBlank more → IsBlank (blank ++ more) := by
    intro more others c member
    exact (List.mem_append.mp member).elim (each c) (others c)
  cases spelled with
  | done others => exact .done (joined others)
  | next others token later =>
      rw [← List.append_assoc, ← List.append_assoc]
      exact .next (joined others) token later

theorem SpellsAll.token {token : Token} {tokens : List Token} {text rest : List Char}
    (first : token.Spells text) (spelled : SpellsAll tokens rest) :
    SpellsAll (token :: tokens) (text ++ rest) :=
  .next isBlank_nil first spelled

theorem isBlank_line (spacing : Spacing) (depth : Nat) : IsBlank (spacing.line depth) := by
  intro c member
  unfold Spacing.line at member
  split at member
  · exact absurd member List.not_mem_nil
  · rcases List.mem_cons.mp member with rfl | space
    · exact Or.inr (Or.inl rfl)
    · exact Or.inl (List.eq_of_mem_replicate space)

theorem spellsAll_between (spacing : Spacing) (depth : Nat) {tokens : List Token}
    {rest : List Char} (spelled : SpellsAll tokens rest) :
    SpellsAll (.comma :: tokens) (spacing.between depth ++ rest) := by
  unfold Spacing.between
  split
  · change SpellsAll _ ([','] ++ ([' '] ++ rest))
    exact .token .comma (spelled.blank isBlank_space)
  · change SpellsAll _ ([','] ++ (spacing.line depth ++ rest))
    exact .token .comma (spelled.blank (isBlank_line spacing depth))

theorem spellsAll_key (key : String) {tokens : List Token} {rest : List Char}
    (spelled : SpellsAll tokens rest) :
    SpellsAll (.text key :: .colon :: tokens) (writeText key ++ ':' :: ' ' :: rest) := by
  change SpellsAll _ (writeText key ++ ([':'] ++ ([' '] ++ rest)))
  exact .token (spells_writeText key) (.token .colon (spelled.blank isBlank_space))

mutual

theorem spellsAll_write (spacing : Spacing) : ∀ (json : Json) (depth : Nat) {tokens : List Token}
    {rest : List Char}, json.IsFinite → SpellsAll tokens rest →
    SpellsAll (json.tokens ++ tokens) (json.write spacing depth ++ rest)
  | .null, _, _, _, _, later => by
      rw [write]
      exact .token .null later
  | .boolean true, _, _, _, _, later => by
      rw [write]
      exact .token .true later
  | .boolean false, _, _, _, _, later => by
      rw [write]
      exact .token .false later
  | .integer value, _, _, _, _, later => by
      rw [write]
      exact .token (spells_integerText value) later
  | .number value, _, _, _, finite, later => by
      rw [write]
      exact .token (spells_number finite) later
  | .text value, _, _, _, _, later => by
      rw [write]
      exact .token (spells_writeText value) later
  | .array [], _, _, _, _, later => by
      rw [write]
      change SpellsAll _ (['['] ++ ([']'] ++ _))
      exact .token .openArray (.token .closeArray later)
  | .array (item :: items), depth, tokens, rest, finite, later => by
      have close := (SpellsAll.token .closeArray later).blank (isBlank_line spacing depth)
      have others := spellsAll_writeItems spacing items (depth + 1) finite.2 close
      have first := spellsAll_write spacing item (depth + 1) finite.1 others
      rw [write]
      simp only [Json.tokens, List.cons_append, List.append_assoc, List.nil_append] at first ⊢
      exact .token .openArray (first.blank (isBlank_line spacing (depth + 1)))
  | .object [], _, _, _, _, later => by
      rw [write]
      change SpellsAll _ (['\x7b'] ++ (['\x7d'] ++ _))
      exact .token .openObject (.token .closeObject later)
  | .object ((key, value) :: entries), depth, tokens, rest, finite, later => by
      have close := (SpellsAll.token .closeObject later).blank (isBlank_line spacing depth)
      have others := spellsAll_writeEntries spacing entries (depth + 1) finite.2 close
      have first := spellsAll_key key (spellsAll_write spacing value (depth + 1) finite.1 others)
      rw [write]
      simp only [Json.tokens, List.cons_append, List.append_assoc, List.nil_append] at first ⊢
      exact .token .openObject (first.blank (isBlank_line spacing (depth + 1)))

theorem spellsAll_writeItems (spacing : Spacing) : ∀ (items : List Json) (depth : Nat)
    {tokens : List Token} {rest : List Char}, ItemsFinite items → SpellsAll tokens rest →
    SpellsAll (itemTokens items ++ tokens) (writeItems spacing depth items ++ rest)
  | [], _, _, _, _, later => later
  | item :: items, depth, _, _, finite, later => by
      have others := spellsAll_writeItems spacing items depth finite.2 later
      have first := spellsAll_write spacing item depth finite.1 others
      simp only [itemTokens, writeItems, List.cons_append, List.append_assoc] at first ⊢
      exact spellsAll_between spacing depth first

theorem spellsAll_writeEntries (spacing : Spacing) : ∀ (entries : List (String × Json))
    (depth : Nat) {tokens : List Token} {rest : List Char}, EntriesFinite entries →
    SpellsAll tokens rest →
    SpellsAll (entryTokens entries ++ tokens) (writeEntries spacing depth entries ++ rest)
  | [], _, _, _, _, later => later
  | (key, value) :: entries, depth, _, _, finite, later => by
      have others := spellsAll_writeEntries spacing entries depth finite.2 later
      have first := spellsAll_key key (spellsAll_write spacing value depth finite.1 others)
      simp only [entryTokens, writeEntries, List.cons_append, List.append_assoc] at first ⊢
      exact spellsAll_between spacing depth first

end

theorem spells_pretty {json : Json} (finite : json.IsFinite) : json.Spells json.pretty := by
  have spelled := spellsAll_write ⟨some 2⟩ json 0 finite (.done isBlank_nil)
  rw [List.append_nil, List.append_nil] at spelled
  rwa [Spells, pretty, String.toList_ofList]

end Json

end DesignTokens
