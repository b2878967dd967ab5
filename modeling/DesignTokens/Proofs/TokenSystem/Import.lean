import DesignTokens.Proofs.Overlay
import DesignTokens.Proofs.Store.Shelves
import DesignTokens.Proofs.TokenSet.Refusal
import DesignTokens.Proofs.TokenSet.Spelling
import DesignTokens.Proofs.TokenSystem.Steps
import DesignTokens.TokenSystem.Workspace

/-!
Importing a document: all of it is laid over the store, or nothing is.  The same holds for the
bytes of a file, where the error is one of documents but for four things that a reading of
bytes can run into.
-/

namespace DesignTokens

namespace Data

mutual

theorem not_endless_ofJson (shown : String) : ∀ json : Json,
    .endless shown ∉ (ofJson json).scalars
  | .null | .boolean _ | .integer _ | .number _ | .text _ => by
      simp [ofJson, null, boolean, integer, number, text, scalars]
  | .array items => not_endless_ofItems shown items
  | .object entries => not_endless_ofEntries shown entries

theorem not_endless_ofItems (shown : String) : ∀ items : List Json,
    .endless shown ∉ scalarsOfItems (ofItems items)
  | [] => List.not_mem_nil
  | item :: items => by
      rw [ofItems, scalarsOfItems, List.mem_append, not_or]
      exact ⟨not_endless_ofJson shown item, not_endless_ofItems shown items⟩

theorem not_endless_ofEntries (shown : String) : ∀ entries : List (String × Json),
    .endless shown ∉ scalarsOfEntries (ofEntries entries)
  | [] => List.not_mem_nil
  | (key, json) :: entries => by
      rw [ofEntries, scalarsOfEntries, List.cons_append, List.mem_cons, List.mem_append, not_or,
        not_or]
      exact ⟨nofun, not_endless_ofJson shown json, not_endless_ofEntries shown entries⟩

end

end Data

def HasLongNumber (document : List (Scalar × Data)) : Prop :=
  ∃ number, .integer number ∈ Data.scalarsOfEntries document ∧
    Nat.pow 10 digitLimit ≤ number.natAbs

theorem Scalar.isWritable_integer (number : Int) :
    (Scalar.integer number).isWritable = decide (number.natAbs < Nat.pow 10 digitLimit) := by
  rw [Scalar.isWritable]

theorem hasLongNumber_of_unwritable {document : List (Scalar × Data)} {scalar : Scalar}
    (member : scalar ∈ Data.scalarsOfEntries document) (long : scalar.isWritable = false) :
    HasLongNumber document := by
  cases scalar with
  | integer number =>
      rw [Scalar.isWritable_integer, decide_eq_false_iff_not, Nat.not_lt] at long
      exact ⟨number, member, long⟩
  | _ => cases long

namespace Store

/-- A token set is laid over a store: of its values for a path the last one counts, what it
does not name stays as it was, and no path loses its place. -/
structure Overlaid (before : Store) (tokens : TokenSet) (after : Store) : Prop where
  light : ∀ path, after.get? path .light =
    (Entries.find? tokens.light.reverse path).or (before.get? path .light)
  dark : ∀ path, after.get? path .dark =
    (Entries.find? tokens.dark.reverse path).or (before.get? path .dark)
  auto : after.items .auto = before.items .auto
  metadata : ∀ path, after.metadata.find? path =
    (Entries.find? tokens.metadata.reverse path).or (before.metadata.find? path)
  order : ∀ theme, before.paths theme <+: after.paths theme

theorem overlaid_load (store : Store) (tokens : TokenSet) :
    store.Overlaid tokens (store.load tokens).2 := by
  have light : (store.load tokens).2.items .light =
      Entries.insertAll (store.items .light) (Entries.collapse tokens.light) := by
    change ((store.setAll _ .light).setAll _ .dark).items .light = _
    rw [items_setAll, items_setAll, if_neg (by decide), if_pos rfl]
  have dark : (store.load tokens).2.items .dark =
      Entries.insertAll (store.items .dark) (Entries.collapse tokens.dark) := by
    change ((store.setAll _ .light).setAll _ .dark).items .dark = _
    rw [items_setAll, items_setAll, if_pos rfl, if_neg (by decide)]
  have auto : (store.load tokens).2.items .auto = store.items .auto := by
    change ((store.setAll _ .light).setAll _ .dark).items .auto = _
    rw [items_setAll, items_setAll, if_neg (by decide), if_neg (by decide)]
  have grown : ∀ entries more : Entries Path Value,
      entries.keys <+: (entries.insertAll more.collapse).keys := by
    intro entries more
    have once : (Entries.collapse more).keys.Nodup :=
      Entries.nodup_keys_insertAll more [] List.nodup_nil
    rw [Entries.keys_insertAll _ _ once]
    exact List.prefix_append _ _
  refine ⟨fun path => ?_, fun path => ?_, auto, fun path => ?_, fun theme => ?_⟩
  · rw [get?_eq_find?_items, get?_eq_find?_items, light, Entries.insertAll_collapse,
      Entries.find?_insertAll]
  · rw [get?_eq_find?_items, get?_eq_find?_items, dark, Entries.insertAll_collapse,
      Entries.find?_insertAll]
  · have kept : (store.load tokens).2.metadata = store.metadata.insertAll tokens.metadata := by
      change (((store.setAll _ .light).setAll _ .dark).setAllMetadata _).metadata = _
      rw [setAllMetadata, metadata_setAll, metadata_setAll]
    rw [kept]
    exact Entries.find?_insertAll _ _ path
  · unfold paths
    cases theme with
    | light =>
        rw [light]
        exact grown _ _
    | dark =>
        rw [dark]
        exact grown _ _
    | auto =>
        exact auto ▸ List.prefix_rfl

end Store

open DesignTokens.Action

/-- An import lays all tokens of a document over the store and counts their paths, or it leaves
the system as it is and fails with an error of documents.  Only a whole number that is too long
to be written can make it fail in another way. -/
theorem importDocument_atomic (system : TokenSystem) (document : List (String × Json)) :
    (∃ tokens after, TokenSet.SaidBy document tokens ∧
      (importDocument (Data.ofEntries document)).run system =
        (.ok ((tokens.light.map Prod.fst).dedup.length + (tokens.dark.map Prod.fst).dedup.length),
          after) ∧
      system.store.Overlaid tokens after.store) ∨
    ∃ error, (∀ tokens, ¬ TokenSet.SaidBy document tokens) ∧
      (importDocument (Data.ofEntries document)).run system = (.error error, system) ∧
      (error.kind = .serialization ∨
        error = .data (.tooManyDigits none) ∧ HasLongNumber (Data.ofEntries document)) := by
  cases read : TokenSet.ofDocument (Data.ofEntries document) with
  | ok tokens =>
      refine Or.inl ⟨tokens, system.withStore (system.store.load tokens).2,
        TokenSet.ofDocument_eq_ok_iff.mp read, ?_, ?_⟩
      · rw [importDocument, run_bind_ok (run_ofExcept_ok read system)]
        change (Except.ok ((Entries.collapse tokens.light).length +
          (Entries.collapse tokens.dark).length), _) = _
        rw [Entries.length_collapse, Entries.length_collapse]
        rfl
      · rw [TokenSystem.withStore_store]
        exact system.store.overlaid_load tokens
  | error error =>
      refine Or.inr ⟨error, fun tokens said => ?_, ?_, ?_⟩
      · rw [TokenSet.ofDocument_eq_ok_iff.mpr said] at read
        cases read
      · exact run_bind_error (run_ofExcept_error read system)
      · rcases TokenSet.ofDocument_fails _ error read with own | ⟨same, scalar, member, long⟩ |
          ⟨_, shown, member⟩
        · exact Or.inl own
        · exact Or.inr ⟨same, hasLongNumber_of_unwritable member long⟩
        · exact absurd member (Data.not_endless_ofEntries shown document)

def longNumber : Int :=
  .ofNat (Nat.pow 10 digitLimit)

theorem readText_longNumber :
    (Data.integer longNumber).readText = .error (.data (.tooManyDigits none)) := by
  have kept : ∀ limit : Nat, ¬ (Int.ofNat limit).natAbs < limit := Nat.lt_irrefl
  have unwritable : (Data.integer longNumber).isWritable = false := by
    rw [Data.integer, Data.isWritable, Scalar.isWritable_integer, decide_eq_false_iff_not]
    exact kept _
  rw [Data.readText, Data.written, unwritable]
  rfl

theorem ofDocument_unreadable {data : Data} {fault : DataFault}
    (unread : data.readText = .error (.data fault)) :
    TokenSet.ofDocument
        [(.text "light", .mapping [(.text "a", .mapping [(.text "$ref", data)])])] =
      .error (.data fault) := by
  have coerced : Value.coerce (.mapping [(.text "$ref", data)]) = .error (.data fault) := by
    change (data.readText >>= fun target => pure (Value.reference target none)) = _
    rw [unread]
    rfl
  have value : Value.ofData (.mapping [(.text "$ref", data)]) = .error (.data fault) := by
    rw [Value.ofData, coerced]
  have path : (Path.join ["a"]).mapError Error.badPath = .ok (.single "a" (by decide)) := by
    rfl
  have token : TokenSet.token ["a"] (.mapping [(.text "$ref", data)]) = .error (.data fault) := by
    rw [TokenSet.token, path, value]
    rfl
  have flat : TokenSet.flatten [] [(.text "a", .mapping [(.text "$ref", data)])] =
      .error (.data fault) := by
    change ((TokenSet.token ["a"] (.mapping [(.text "$ref", data)])).bind _).bind _ = _
    rw [token]
    rfl
  change ((TokenSet.flatten [] [_]).bind _).mapError _ = _
  rw [flat]
  rfl

def longReference : List (String × Json) :=
  [("light", .object [("a", .object [("$ref", .integer longNumber)])])]

theorem importDocument_long_escapes :
    (importDocument (Data.ofEntries longReference)).run (.ofStore {} Store.empty) =
        (.error (.data (.tooManyDigits none)), .ofStore {} Store.empty) ∧
      (Error.data (.tooManyDigits none)).kind ≠ .serialization := by
  refine ⟨?_, by decide⟩
  exact run_bind_error (run_ofExcept_error (ofDocument_unreadable readText_longNumber) _)

theorem Folder.textOf_eq_error_iff {content : ByteArray} {error : Error} :
    textOf content = .error error ↔
      error = .encoding ∧ String.fromUTF8? content = none := by
  unfold textOf
  constructor
  · intro failed
    split at failed
    · cases failed
    · rename_i foreign
      obtain rfl := Except.error.inj failed
      exact ⟨rfl, foreign⟩
  · rintro ⟨rfl, foreign⟩
    rw [foreign]

namespace TokenSet

inductive Lapse (content : ByteArray) : Error → Prop
  | encoding (foreign : String.fromUTF8? content = none) : Lapse content .encoding
  | reading {text fault} (decoded : Folder.textOf content = .ok text)
      (failed : Yaml.parse text = .error (.data fault)) : Lapse content (.data fault)
  | digits {text entries} (decoded : Folder.textOf content = .ok text)
      (read : Yaml.parse text = .ok (.mapping entries)) (long : HasLongNumber entries) :
      Lapse content (.data (.tooManyDigits none))
  | endless {text entries shown} (decoded : Folder.textOf content = .ok text)
      (read : Yaml.parse text = .ok (.mapping entries))
      (inside : .endless shown ∈ Data.scalarsOfEntries entries) : Lapse content (.data .endless)

variable {folder : Folder} {name : FileName} {content : ByteArray}

theorem ofFile_fails (stored : folder.read name = .ok content) :
    FailsWith (fun error => error.kind = .serialization ∨ Lapse content error)
      (ofFile folder name) := by
  unfold ofFile
  rw [stored]
  apply FailsWith.bind
  · intro error failed
    obtain ⟨rfl, foreign⟩ := Folder.textOf_eq_error_iff.mp failed
    exact Or.inr (.encoding foreign)
  · intro text decoded
    split
    · exact FailsWith.error (Or.inl rfl)
    · rename_i fault failed
      exact FailsWith.error (Or.inr (.reading decoded failed))
    · rename_i entries read
      refine (ofDocument_fails entries).mono ?_
      rintro error (own | ⟨rfl, scalar, member, long⟩ | ⟨rfl, shown, member⟩)
      · exact Or.inl own
      · exact Or.inr (.digits decoded read (hasLongNumber_of_unwritable member long))
      · exact Or.inr (.endless decoded read member)
    · exact FailsWith.error (Or.inl rfl)

theorem ofFile_eq_encoding_iff (stored : folder.read name = .ok content) :
    ofFile folder name = .error .encoding ↔ String.fromUTF8? content = none := by
  constructor
  · intro failed
    rcases ofFile_fails stored .encoding failed with own | lapse
    · cases own
    · cases lapse
      assumption
  · intro foreign
    unfold ofFile
    rw [stored]
    dsimp only
    rw [Folder.textOf_eq_error_iff.mpr ⟨rfl, foreign⟩]
    rfl

end TokenSet

namespace Work

variable {workspace : Workspace} {name : FileName}

theorem run_importFile_error {error : Error}
    (failed : TokenSet.ofFile workspace.folder name = .error error) :
    (importFile name).run workspace = (.error error, workspace) := by
  rw [importFile, run_get_bind, failed]
  rfl

theorem run_importFile_ok {tokens : TokenSet}
    (read : TokenSet.ofFile workspace.folder name = .ok tokens) :
    (importFile name).run workspace =
      (.ok ((tokens.light.map Prod.fst).dedup.length + (tokens.dark.map Prod.fst).dedup.length),
        { workspace with
          system := workspace.system.withStore (workspace.system.store.load tokens).2 }) := by
  rw [importFile, run_get_bind, read]
  change (Except.ok ((Entries.collapse tokens.light).length +
    (Entries.collapse tokens.dark).length), _) = _
  rw [Entries.length_collapse, Entries.length_collapse]
  rfl

end Work

open Work

/-- An import of a file lays all of its tokens over the store and counts their paths, or it leaves
the workspace as it is and fails with an error of documents, unless the bytes are no text, the
text has something without a value, or the data has a number that is too long or a collection
inside itself. -/
theorem importFile_atomic (workspace : Workspace) {name : FileName} {content : ByteArray}
    (stored : workspace.folder.read name = .ok content) :
    ((∃ tokens after, TokenSet.ofFile workspace.folder name = .ok tokens ∧
      (importFile name).run workspace =
        (.ok ((tokens.light.map Prod.fst).dedup.length + (tokens.dark.map Prod.fst).dedup.length),
          after) ∧
      workspace.system.store.Overlaid tokens after.system.store) ∨
    ∃ error, TokenSet.ofFile workspace.folder name = .error error ∧
      (importFile name).run workspace = (.error error, workspace) ∧
      (error.kind = .serialization ∨ TokenSet.Lapse content error)) ∧
    (TokenSet.ofFile workspace.folder name = .error .encoding ↔
      String.fromUTF8? content = none) := by
  refine ⟨?_, TokenSet.ofFile_eq_encoding_iff stored⟩
  cases read : TokenSet.ofFile workspace.folder name with
  | ok tokens =>
      refine Or.inl ⟨tokens, _, rfl, run_importFile_ok read, ?_⟩
      rw [TokenSystem.withStore_store]
      exact workspace.system.store.overlaid_load tokens
  | error error =>
      exact Or.inr ⟨error, rfl, run_importFile_error read, TokenSet.ofFile_fails stored error read⟩

namespace Workspace

def withFile (content : ByteArray) : Workspace where
  system := .ofStore {} Store.empty
  folder := ⟨[(FileName.place ⟨"", ["tokens.yaml"]⟩, content)], []⟩

theorem read_withFile (content : ByteArray) :
    (withFile content).folder.read ⟨"", ["tokens.yaml"]⟩ = .ok content := by
  rfl

end Workspace

theorem importFile_atomic_gap :
    ∃ after, (importFile ⟨"", ["tokens.yaml"]⟩).run (.withFile "light: {gap: 4}".toUTF8) =
      (.ok 1, after) := by
  have stored := Workspace.read_withFile "light: {gap: 4}".toUTF8
  obtain ⟨⟨tokens, after, read, run, _⟩ | ⟨error, failed, _⟩, _⟩ :=
    importFile_atomic (.withFile "light: {gap: 4}".toUTF8) stored
  · refine ⟨after, run.trans ?_⟩
    have counted : ((TokenSet.ofFile (Workspace.withFile "light: {gap: 4}".toUTF8).folder
        ⟨"", ["tokens.yaml"]⟩).toOption.map fun tokens =>
          (tokens.light.map Prod.fst).dedup.length + (tokens.dark.map Prod.fst).dedup.length) =
        some 1 := by
      decide +kernel
    rw [read] at counted
    exact congrArg (fun count => (Except.ok count, after)) (Option.some.inj counted)
  · have reads : (TokenSet.ofFile (Workspace.withFile "light: {gap: 4}".toUTF8).folder
        ⟨"", ["tokens.yaml"]⟩).toOption.isSome = true := by
      decide +kernel
    rw [failed] at reads
    cases reads

/-- A byte that begins no character is refused, and not with an error of documents. -/
theorem importFile_foreign :
    (importFile ⟨"", ["tokens.yaml"]⟩).run (.withFile ⟨#[0xff]⟩) =
        (.error .encoding, .withFile ⟨#[0xff]⟩) ∧
      Error.encoding.kind ≠ .serialization := by
  have foreign : String.fromUTF8? ⟨#[0xff]⟩ = none := by decide +kernel
  refine ⟨run_importFile_error ?_, by decide⟩
  exact (TokenSet.ofFile_eq_encoding_iff (Workspace.read_withFile _)).mpr foreign

end DesignTokens
