import DesignTokens.Proofs.Value.Refusal
import DesignTokens.TokenSet.Basic

/-!
How a token document can be refused: with an error of its own, unless some scalar in it has no
text.
-/

namespace DesignTokens

namespace TokenSet

theorem hasDollarKey_fails (entries : List (Scalar × Data)) :
    FailsWith (Refusal (Data.scalarsOfEntries entries)) (hasDollarKey entries) := by
  induction entries with
  | nil => exact FailsWith.ok false
  | cons entry rest ih =>
      obtain ⟨key, data⟩ := entry
      rw [hasDollarKey]
      refine FailsWith.bind (Scalar.readText_fails List.mem_cons_self) fun name _ => ?_
      split
      · exact FailsWith.ok true
      · refine Refusal.fails_mono ih fun scalar member => ?_
        exact List.mem_cons_of_mem _ (List.mem_append_right _ member)

theorem token_fails (segments : List String) (leaf : Data) :
    FailsWith (Refusal leaf.scalars) (token segments leaf) := by
  refine FailsWith.bind (Path.read_fails _) fun path _ => ?_
  exact FailsWith.bind (Value.ofData_fails leaf) fun value _ => FailsWith.ok _

mutual

theorem flatten_fails (parents : List String) : ∀ entries,
    FailsWith (Refusal (Data.scalarsOfEntries entries)) (flatten parents entries)
  | [] => FailsWith.ok []
  | (key, node) :: rest => by
      have inner : node.scalars ⊆ Data.scalarsOfEntries ((key, node) :: rest) :=
        (Data.scalars_subset_of_mem List.mem_cons_self).2
      rw [flatten]
      refine FailsWith.bind (Scalar.readText_fails List.mem_cons_self) fun name _ => ?_
      refine FailsWith.bind ?_ fun first _ => FailsWith.bind ?_ fun others _ => FailsWith.ok _
      · exact Refusal.fails_mono (flattenNode_fails (parents ++ [name]) node) inner
      · refine Refusal.fails_mono (flatten_fails parents rest) fun scalar member => ?_
        exact List.mem_cons_of_mem _ (List.mem_append_right _ member)

theorem flattenNode_fails (segments : List String) : ∀ node : Data,
    FailsWith (Refusal node.scalars) (flattenNode segments node)
  | .scalar value => by
      rw [flattenNode]
      · exact FailsWith.bind (token_fails segments _) fun token _ => FailsWith.ok _
      · simp
  | .list items => by
      rw [flattenNode]
      · exact FailsWith.bind (token_fails segments _) fun token _ => FailsWith.ok _
      · simp
  | .mapping entries => by
      rw [flattenNode]
      refine FailsWith.bind (hasDollarKey_fails entries) fun dollar _ => ?_
      split
      · exact FailsWith.bind (token_fails segments _) fun token _ => FailsWith.ok _
      · exact flatten_fails segments entries

end

theorem metadataOf_fails {scalars : List Scalar} (data : Data) :
    FailsWith (Refusal scalars) (metadataOf data) := by
  have fits : ∀ record : Option Metadata,
      FailsWith (Refusal scalars) (record.elim (.error .record) .ok) := by
    intro record
    cases record with
    | none => exact FailsWith.error .record
    | some metadata => exact FailsWith.ok metadata
  unfold metadataOf
  split
  · exact fits _
  · split
    · split
      · exact fits _
      · exact FailsWith.error .fieldNames
    · exact FailsWith.error .fieldNames

theorem readMetadata_fails (entries : List (Scalar × Data)) :
    FailsWith (Refusal (Data.scalarsOfEntries entries)) (readMetadata entries) := by
  refine FailsWith.mapM fun entry member => ?_
  obtain ⟨key, data⟩ := entry
  refine FailsWith.bind (Scalar.readText_fails (Data.scalars_subset_of_mem member).1) fun _ _ => ?_
  refine FailsWith.bind (Path.read_fails _) fun path _ => ?_
  exact FailsWith.bind (metadataOf_fails data) fun metadata _ => FailsWith.ok _

theorem sectionEntries_subset {document entries : List (Scalar × Data)} {name : String}
    (read : sectionEntries document name = .ok entries) :
    Data.scalarsOfEntries entries ⊆ Data.scalarsOfEntries document := by
  unfold sectionEntries at read
  split at read
  · obtain rfl := Except.ok.inj read
    exact List.nil_subset _
  · rename_i inner found
    obtain rfl := Except.ok.inj read
    exact Data.scalars_subset_of_entry? found
  · split at read
    · obtain rfl := Except.ok.inj read
      exact List.nil_subset _
    · cases read

def DocumentRefusal (document : List (Scalar × Data)) (error : Error) : Prop :=
  error.kind = .serialization ∨
    (error = .data (.tooManyDigits none) ∧
      ∃ scalar ∈ Data.scalarsOfEntries document, scalar.isWritable = false) ∨
    error = .data .endless ∧ ∃ shown, .endless shown ∈ Data.scalarsOfEntries document

theorem sectionEntries_fails (document : List (Scalar × Data)) (name : String) :
    FailsWith (DocumentRefusal document) (sectionEntries document name) := by
  unfold sectionEntries
  split
  · exact FailsWith.ok _
  · exact FailsWith.ok _
  · split
    · exact FailsWith.ok _
    · exact FailsWith.error (Or.inl rfl)

theorem ofDocument_fails (document : List (Scalar × Data)) :
    FailsWith (DocumentRefusal document) (ofDocument document) := by
  refine FailsWith.bind (sectionEntries_fails document "light") fun light lightRead => ?_
  refine FailsWith.bind (sectionEntries_fails document "dark") fun dark darkRead => ?_
  refine FailsWith.bind (sectionEntries_fails document "metadata") fun metadata recordsRead => ?_
  have within : ∀ {α : Type} {entries : List (Scalar × Data)} {name : String}
      {result : Except Error α}, sectionEntries document name = .ok entries →
      FailsWith (Refusal (Data.scalarsOfEntries entries)) result →
      FailsWith (Refusal (Data.scalarsOfEntries document)) result :=
    fun read fails => Refusal.fails_mono fails (sectionEntries_subset read)
  have contents : FailsWith (Refusal (Data.scalarsOfEntries document)) (do
      return (⟨← flatten [] light, ← flatten [] dark, ← readMetadata metadata⟩ : TokenSet)) := by
    refine FailsWith.bind (within lightRead (flatten_fails [] light)) fun _ _ => ?_
    refine FailsWith.bind (within darkRead (flatten_fails [] dark)) fun _ _ => ?_
    exact FailsWith.bind (within recordsRead (readMetadata_fails metadata)) fun _ _ =>
      FailsWith.ok _
  -- Whatever is caught becomes an error of documents, and the rest goes on as it is.
  refine FailsWith.mapError contents fun error refusal => ?_
  cases refusal with
  | token kind =>
      rw [kind]
      exact Or.inl rfl
  | record => exact Or.inl rfl
  | fieldNames => exact Or.inl rfl
  | tooLong member long => exact Or.inr (Or.inl ⟨rfl, _, member, long⟩)
  | endless member => exact Or.inr (Or.inr ⟨rfl, _, member⟩)

end TokenSet

end DesignTokens
