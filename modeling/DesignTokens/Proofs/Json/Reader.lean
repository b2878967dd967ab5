import DesignTokens.Proofs.Json.Lexer

/-!
The reader understands all of JSON: whatever text spells a document is read as that document.
So a text spells at most one.
-/

namespace DesignTokens

namespace Json

def Marked (tokens : List Token) : Prop :=
  ∀ token ∈ tokens.head?, token.isPlain = false

theorem marked_cons {token : Token} {tokens : List Token} :
    Marked (token :: tokens) ↔ token.isPlain = false := by
  simp [Marked]

theorem apart_cons_marked {token : Token} {tokens : List Token} (marked : token.isPlain = false)
    (apart : Apart tokens) : Apart (token :: tokens) := by
  refine List.isChain_cons.mpr ⟨fun next _ plain => ?_, apart⟩
  exact nomatch marked.symm.trans plain

theorem apart_cons_plain (json : Json) {tokens : List Token} (apart : Apart tokens)
    (marked : Marked tokens) : Apart (.plain json :: tokens) :=
  List.isChain_cons.mpr ⟨fun next known _ => marked next known, apart⟩

mutual

theorem apart_tokens : ∀ (json : Json) {rest : List Token}, Apart rest → Marked rest →
    Apart (json.tokens ++ rest)
  | .null, _, apart, marked => apart_cons_plain _ apart marked
  | .boolean _, _, apart, marked => apart_cons_plain _ apart marked
  | .integer _, _, apart, marked => apart_cons_plain _ apart marked
  | .number _, _, apart, marked => apart_cons_plain _ apart marked
  | .text _, _, apart, _ => apart_cons_marked rfl apart
  | .array [], _, apart, _ => apart_cons_marked rfl (apart_cons_marked rfl apart)
  | .array (item :: items), rest, apart, _ => by
      have closed : Apart (.closeArray :: rest) := apart_cons_marked rfl apart
      rcases apart_itemTokens items closed (marked_cons.mpr rfl) with ⟨later, comma⟩
      simp only [tokens, List.cons_append, List.append_assoc, List.nil_append]
      exact apart_cons_marked rfl (apart_tokens item later comma)
  | .object [], _, apart, _ => apart_cons_marked rfl (apart_cons_marked rfl apart)
  | .object ((key, value) :: entries), rest, apart, _ => by
      have closed : Apart (.closeObject :: rest) := apart_cons_marked rfl apart
      rcases apart_entryTokens entries closed (marked_cons.mpr rfl) with ⟨later, comma⟩
      simp only [tokens, List.cons_append, List.append_assoc, List.nil_append]
      exact apart_cons_marked rfl (apart_cons_marked rfl (apart_cons_marked rfl
        (apart_tokens value later comma)))

theorem apart_itemTokens : ∀ (items : List Json) {rest : List Token}, Apart rest → Marked rest →
    Apart (itemTokens items ++ rest) ∧ Marked (itemTokens items ++ rest)
  | [], _, apart, marked => ⟨apart, marked⟩
  | item :: items, rest, apart, marked => by
      rcases apart_itemTokens items apart marked with ⟨later, comma⟩
      simp only [itemTokens, List.cons_append, List.append_assoc]
      exact ⟨apart_cons_marked rfl (apart_tokens item later comma), marked_cons.mpr rfl⟩

theorem apart_entryTokens : ∀ (entries : List (String × Json)) {rest : List Token}, Apart rest →
    Marked rest → Apart (entryTokens entries ++ rest) ∧ Marked (entryTokens entries ++ rest)
  | [], _, apart, marked => ⟨apart, marked⟩
  | (key, value) :: entries, rest, apart, marked => by
      rcases apart_entryTokens entries apart marked with ⟨later, comma⟩
      simp only [entryTokens, List.cons_append, List.append_assoc]
      exact ⟨apart_cons_marked rfl (apart_cons_marked rfl (apart_cons_marked rfl
        (apart_tokens value later comma))), marked_cons.mpr rfl⟩

end

theorem foldlM_firstItem (json : Json) (stack : List Frame) (rest : List Token) :
    (json.tokens ++ rest).foldlM Reader.step ⟨stack, .firstItem⟩ =
      (json.tokens ++ rest).foldlM Reader.step ⟨.array [] :: stack, .value⟩ := by
  cases json with
  | array items => cases items <;> rfl
  | object entries => rcases entries with _ | ⟨⟨key, value⟩, entries⟩ <;> rfl
  | _ => rfl

-- By induction on the document, for any stack of what is open around it.
mutual

theorem foldlM_tokens : ∀ (json : Json) (stack : List Frame) (rest : List Token),
    (json.tokens ++ rest).foldlM Reader.step ⟨stack, .value⟩ =
      rest.foldlM Reader.step (Reader.accept stack json)
  | .null, _, _ => rfl
  | .boolean _, _, _ => rfl
  | .integer _, _, _ => rfl
  | .number _, _, _ => rfl
  | .text _, _, _ => rfl
  | .array [], _, _ => rfl
  | .array (item :: items), stack, rest => by
      have first := foldlM_tokens item (.array [] :: stack)
        (itemTokens items ++ .closeArray :: rest)
      have later := foldlM_itemTokens items [item] stack rest
      rw [← foldlM_firstItem] at first
      simp only [tokens, List.cons_append, List.append_assoc, List.nil_append]
      exact first.trans later
  | .object [], _, _ => rfl
  | .object ((key, value) :: entries), stack, rest => by
      have first := foldlM_tokens value (.object [] key :: stack)
        (entryTokens entries ++ .closeObject :: rest)
      have later := foldlM_entryTokens entries [(key, value)] key stack rest
      simp only [tokens, List.cons_append, List.append_assoc, List.nil_append]
      exact first.trans later

theorem foldlM_itemTokens : ∀ (items reversed : List Json) (stack : List Frame)
    (rest : List Token),
    (itemTokens items ++ .closeArray :: rest).foldlM Reader.step
        ⟨stack, .after (.array reversed)⟩ =
      rest.foldlM Reader.step (Reader.accept stack (.array (reversed.reverse ++ items)))
  | [], reversed, stack, rest => by
      rw [List.append_nil]
      rfl
  | item :: items, reversed, stack, rest => by
      have first := foldlM_tokens item (.array reversed :: stack)
        (itemTokens items ++ .closeArray :: rest)
      have later := foldlM_itemTokens items (item :: reversed) stack rest
      rw [List.reverse_cons, List.append_assoc] at later
      simp only [itemTokens, List.cons_append, List.append_assoc]
      exact first.trans later

theorem foldlM_entryTokens : ∀ (entries reversed : List (String × Json)) (last : String)
    (stack : List Frame) (rest : List Token),
    (entryTokens entries ++ .closeObject :: rest).foldlM Reader.step
        ⟨stack, .after (.object reversed last)⟩ =
      rest.foldlM Reader.step (Reader.accept stack (.object (reversed.reverse ++ entries)))
  | [], reversed, last, stack, rest => by
      rw [List.append_nil]
      rfl
  | (key, value) :: entries, reversed, last, stack, rest => by
      have first := foldlM_tokens value (.object reversed key :: stack)
        (entryTokens entries ++ .closeObject :: rest)
      have later := foldlM_entryTokens entries ((key, value) :: reversed) key stack rest
      rw [List.reverse_cons, List.append_assoc] at later
      simp only [entryTokens, List.cons_append, List.append_assoc]
      exact first.trans later

end

theorem ofTokens?_tokens (json : Json) : ofTokens? json.tokens = some json := by
  have read := foldlM_tokens json [] []
  rw [List.append_nil] at read
  rw [ofTokens?, read]
  rfl

theorem parse?_of_spells {json : Json} {text : String} (spelled : json.Spells text) :
    parse? text = some json := by
  have apart := apart_tokens json (List.IsChain.nil : Apart []) (by simp [Marked])
  rw [List.append_nil] at apart
  rw [parse?, tokens?_eq, readOn_spellsAll spelled apart]
  exact ofTokens?_tokens json

theorem Spells.unique {json other : Json} {text : String} (spelled : json.Spells text)
    (again : other.Spells text) : other = json :=
  Option.some.inj ((parse?_of_spells again).symm.trans (parse?_of_spells spelled))

end Json

end DesignTokens
