import DesignTokens.Proofs.TokenSet.Leaves

/-!
What a document in JSON says.  Its leaves are listed with all the keys that lead to them, and
it is read if and only if each leaf and each record of its metadata can be read for itself.
-/

namespace DesignTokens

namespace Json

def isGroup : Json → Bool
  | .object entries => !entries.any fun entry => entry.1.toList.head? == some '$'
  | _ => false

mutual

def leaves (keys : List String) : Json → List (List String × Json)
  | .object entries =>
      if isGroup (.object entries) then leavesOf keys entries else [(keys, .object entries)]
  | leaf => [(keys, leaf)]

def leavesOf (keys : List String) : List (String × Json) → List (List String × Json)
  | [] => []
  | (key, node) :: rest => leaves (keys ++ [key]) node ++ leavesOf keys rest

end

def section? (document : List (String × Json)) (name : String) : Option (List (String × Json)) :=
  match Entries.find? document name with
  | none => some []
  | some (.object entries) => some entries
  | some json => if (Data.ofJson json).isVoid then some [] else none

end Json

theorem Data.entry?_ofEntries (entries : List (String × Json)) (key : String) :
    Data.entry? (Data.ofEntries entries) key = (Entries.find? entries key).map Data.ofJson := by
  induction entries with
  | nil => rfl
  | cons entry rest ih =>
      obtain ⟨other, json⟩ := entry
      rw [Data.ofEntries, Data.entry?, Entries.find?, Entries.find?]
      by_cases same : other = key
      · simp [same]
      · have apart : Scalar.text other ≠ .text key := by simpa using same
        rw [if_neg apart, if_neg same]
        exact ih

@[simp] theorem Scalar.readText_text (key : String) : (Scalar.text key).readText = .ok key := by
  rfl

namespace TokenSet

theorem ofEntries_eq_map (entries : List (String × Json)) :
    Data.ofEntries entries =
      entries.map fun entry => (Scalar.text entry.1, Data.ofJson entry.2) := by
  induction entries with
  | nil => rfl
  | cons entry rest ih => rw [Data.ofEntries, ih, List.map_cons]

theorem isGroup_ofJson (json : Json) : (Data.ofJson json).isGroup = json.isGroup := by
  cases json with
  | object entries =>
      rw [Data.ofJson, Data.isGroup, Json.isGroup, ofEntries_eq_map, List.any_map]
      rfl
  | _ => rfl

mutual

theorem leaves_ofJson (keys : List String) : ∀ json : Json,
    (Data.ofJson json).leaves keys =
      (json.leaves keys).map fun leaf => (leaf.1, Data.ofJson leaf.2)
  | .null | .boolean _ | .integer _ | .number _ | .text _ | .array _ => by
      rw [Json.leaves]
      · rfl
      · simp
  | .object entries => by
      rw [Json.leaves]
      cases group : (Json.object entries).isGroup with
      | true =>
          rw [if_pos rfl, ← leavesOf_ofEntries keys entries]
          exact Data.leaves_of_group keys ((isGroup_ofJson (.object entries)).trans group)
      | false =>
          rw [if_neg Bool.false_ne_true]
          exact Data.leaves_of_leaf keys ((isGroup_ofJson (.object entries)).trans group)

theorem leavesOf_ofEntries (keys : List String) : ∀ entries : List (String × Json),
    Data.leavesOf keys (Data.ofEntries entries) =
      (Json.leavesOf keys entries).map fun leaf => (leaf.1, Data.ofJson leaf.2)
  | [] => rfl
  | (key, node) :: rest => by
      rw [Data.ofEntries, Data.leavesOf, Json.leavesOf, List.map_append,
        ← leaves_ofJson (keys ++ [key]) node, ← leavesOf_ofEntries keys rest]
      rfl

end

mutual

theorem legible_ofJson : ∀ json : Json, (Data.ofJson json).Legible
  | .null | .boolean _ | .integer _ | .number _ | .text _ | .array _ => trivial
  | .object entries => by
      have legible := legibleOf_ofEntries entries
      cases group : (Data.mapping (Data.ofEntries entries)).isGroup with
      | true => exact (Data.legible_of_group group).mpr legible
      | false =>
          exact legible_of_writable (fun entry member =>
            (Data.legibleOf_iff.mp legible entry member).1) group

theorem legibleOf_ofEntries : ∀ entries : List (String × Json),
    Data.LegibleOf (Data.ofEntries entries)
  | [] => trivial
  | (_, node) :: rest => ⟨rfl, legible_ofJson node, legibleOf_ofEntries rest⟩

end

theorem flatten_ofEntries (keys : List String) (entries : List (String × Json)) :
    flatten keys (Data.ofEntries entries) =
      (Json.leavesOf keys entries).mapM fun leaf => token leaf.1 (Data.ofJson leaf.2) := by
  rw [flatten_of_legible keys _ (legibleOf_ofEntries entries), leavesOf_ofEntries, List.mapM_map]
  rfl

structure Spells (leaf : List String × Json) (token : Path × Value) : Prop where
  path : Path.join leaf.1 = .ok token.1
  value : Value.ofData (.ofJson leaf.2) = .ok token.2

structure Describes (entry : String × Json) (record : Path × Metadata) : Prop where
  path : Path.parse entry.1 = .ok record.1
  metadata : metadataOf (.ofJson entry.2) = .ok record.2

structure SaidBy (document : List (String × Json)) (tokens : TokenSet) : Prop where
  light : ∃ entries, Json.section? document "light" = some entries ∧
    List.Forall₂ Spells (Json.leavesOf [] entries) tokens.light
  dark : ∃ entries, Json.section? document "dark" = some entries ∧
    List.Forall₂ Spells (Json.leavesOf [] entries) tokens.dark
  metadata : ∃ entries, Json.section? document "metadata" = some entries ∧
    List.Forall₂ Describes entries tokens.metadata

theorem spells_iff {leaf : List String × Json} {result : Path × Value} :
    token leaf.1 (.ofJson leaf.2) = .ok result ↔ Spells leaf result :=
  token_eq_ok_iff.trans ⟨fun ⟨path, value⟩ => ⟨path, value⟩, fun ⟨path, value⟩ => ⟨path, value⟩⟩

theorem flatten_eq_ok_iff {entries : List (String × Json)} {tokens : List (Path × Value)} :
    flatten [] (Data.ofEntries entries) = .ok tokens ↔
      List.Forall₂ Spells (Json.leavesOf [] entries) tokens := by
  rw [flatten_ofEntries, mapM_eq_ok_iff]
  simp only [spells_iff]

theorem readMetadata_eq_ok_iff {entries : List (String × Json)}
    {records : List (Path × Metadata)} :
    readMetadata (Data.ofEntries entries) = .ok records ↔
      List.Forall₂ Describes entries records := by
  have each : ∀ (entry : String × Json) (record : Path × Metadata),
      (do let path ← Path.read (← (Scalar.text entry.1).readText)
          let metadata ← metadataOf (Data.ofJson entry.2)
          return (path, metadata)) = Except.ok record ↔ Describes entry record := by
    intro entry record
    simp only [Scalar.readText_text, bind_eq_ok_iff, Path.read, mapError_eq_ok_iff]
    constructor
    · rintro ⟨key, keyed, path, read, metadata, recorded, same⟩
      obtain rfl := Except.ok.inj keyed
      obtain rfl := Except.ok.inj same
      exact ⟨read, recorded⟩
    · rintro ⟨read, recorded⟩
      exact ⟨_, rfl, record.1, read, record.2, recorded, rfl⟩
  unfold readMetadata
  rw [ofEntries_eq_map, List.mapM_map, mapM_eq_ok_iff]
  simp only [Function.comp_apply, each]

theorem sectionEntries_eq_ok_iff {document : List (String × Json)} {name : String}
    {entries : List (Scalar × Data)} :
    sectionEntries (Data.ofEntries document) name = .ok entries ↔
      ∃ found, Json.section? document name = some found ∧ Data.ofEntries found = entries := by
  rw [sectionEntries, Data.entry?_ofEntries, Json.section?]
  cases Entries.find? document name with
  | none => simp [Data.ofEntries]
  | some json =>
      have absent : ∀ data : Data,
          (if data.isVoid then Except.ok [] else .error (Error.document (.section name))) =
              Except.ok entries ↔
            ∃ found, (if data.isVoid then some [] else none) = some found ∧
              Data.ofEntries found = entries := by
        intro data
        cases data.isVoid <;> simp [Data.ofEntries]
      cases json with
      | object members => simp [Data.ofJson]
      | _ => exact absent _

/-- A document is read as the tokens that it says there are, and else it is refused. -/
theorem ofDocument_eq_ok_iff {document : List (String × Json)} {tokens : TokenSet} :
    ofDocument (Data.ofEntries document) = .ok tokens ↔ SaidBy document tokens := by
  unfold ofDocument
  simp only [bind_eq_ok_iff, mapError_eq_ok_iff, sectionEntries_eq_ok_iff]
  constructor
  · rintro ⟨_, ⟨light, foundLight, rfl⟩, _, ⟨dark, foundDark, rfl⟩, _, ⟨records, foundRecords, rfl⟩,
      lightTokens, lightRead, darkTokens, darkRead, metadata, recordsRead, same⟩
    obtain rfl := Except.ok.inj same
    exact ⟨⟨light, foundLight, flatten_eq_ok_iff.mp lightRead⟩,
      ⟨dark, foundDark, flatten_eq_ok_iff.mp darkRead⟩,
      ⟨records, foundRecords, readMetadata_eq_ok_iff.mp recordsRead⟩⟩
  · rintro ⟨⟨light, foundLight, spelled⟩, ⟨dark, foundDark, darkSpelled⟩,
      ⟨records, foundRecords, described⟩⟩
    exact ⟨_, ⟨light, foundLight, rfl⟩, _, ⟨dark, foundDark, rfl⟩, _, ⟨records, foundRecords, rfl⟩,
      _, flatten_eq_ok_iff.mpr spelled, _, flatten_eq_ok_iff.mpr darkSpelled,
      _, readMetadata_eq_ok_iff.mpr described, rfl⟩

end TokenSet

end DesignTokens
