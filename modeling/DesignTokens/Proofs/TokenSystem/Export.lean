import DesignTokens.Proofs.Dtcg.Finite
import DesignTokens.Proofs.Json.Stray
import DesignTokens.Proofs.Table
import DesignTokens.Proofs.TokenSystem.Transparency

/-!
The file that a token document is written to: it is standard JSON if and only if every number
that is written for a token is finite, and then it says the document and nothing else.  What was
written to a file is read from it.
-/

namespace DesignTokens

namespace Folder

variable {folder : Folder} {name : FileName} {content : ByteArray}

theorem isFolder_insert (target place : Place) :
    { folder with files := folder.files.insert target content }.isFolder place =
      (folder.isFolder place || place.surrounds target) := by
  have around : ∀ files : Entries Place ByteArray,
      (files.any fun file => place.surrounds file.1) = files.keys.any place.surrounds := by
    intro files
    simp only [Entries.keys, List.any_map, Function.comp_def]
  have keys : (folder.files.insert target content).keys.any place.surrounds =
      (folder.files.keys.any place.surrounds || place.surrounds target) := by
    rw [Bool.eq_iff_iff, Bool.or_eq_true, List.any_eq_true, List.any_eq_true]
    simp only [Entries.mem_keys_insert_iff, or_and_right, exists_or, exists_eq_left]
    exact or_comm
  simp only [isFolder, around, keys, Bool.or_assoc]

theorem wayFault?_insert (target : Place) {place : Place} {parts : List String}
    (free : folder.wayFault? place parts = none) :
    { folder with files := folder.files.insert target content }.wayFault? place parts = none := by
  induction parts generalizing place with
  | nil => rfl
  | cons part parts ih =>
      rw [wayFault?] at free ⊢
      split at free
      · exact nomatch free
      · rename_i present
        split at free
        · exact nomatch free
        · rename_i short
          have there : folder.isFolder place = true := by simpa using present
          rw [isFolder_insert, there, Bool.true_or, if_neg (by decide), if_neg short]
          exact ih free

theorem read_put {after : Folder} (put : folder.put name content = .ok after)
    (other : name.place ≠ emptyFile) : after.read name = .ok content := by
  rw [Folder.put] at put
  split at put
  · exact nomatch put
  · rename_i free
    rw [if_neg other] at put
    split at put
    · exact nomatch put
    · obtain rfl := Except.ok.inj put
      have kept : { folder with files := folder.files.insert name.place content }.nameFault? name =
          none := by
        unfold nameFault? at free ⊢
        split at free
        · exact nomatch free
        · split at free
          · exact nomatch free
          · rename_i plain short
            rw [if_neg plain, if_neg short]
            exact wayFault?_insert name.place free
      rw [read, kept, fileAt?, if_neg other, Entries.find?_insert, if_pos rfl]

/-- What is written to a file is read from it, unless it is the file that is always empty. -/
theorem read_write {after : Folder} (written : folder.write name content = (none, after))
    (other : name.place ≠ emptyFile) : after.read name = .ok content := by
  rw [write] at written
  split at written
  · exact nomatch congrArg Prod.fst written
  · split at written
    · rename_i put
      obtain rfl := congrArg Prod.snd written
      exact read_put put other
    · exact nomatch congrArg Prod.fst written

end Folder

namespace Action

theorem run_document {scope : Scope} {system : TokenSystem} {members : Dtcg.Members}
    {after : Cache}
    (made : (system.view.document (scope.themeIn system)).run system.cache =
      (.ok members, after)) :
    (document scope).run system = (.ok members, { system with cache := after }) := by
  change (((system.view.document (scope.themeIn system)).run system.cache).1,
    { system with cache :=
      ((system.view.document (scope.themeIn system)).run system.cache).2 }) = _
  rw [made]

end Action

namespace Work

theorem run_onSystem {α : Type} {action : Action α} {workspace : Workspace}
    {result : Except Error α} {after : TokenSystem}
    (run : action.run workspace.system = (result, after)) :
    (onSystem action).run workspace = (result, { workspace with system := after }) := by
  change ((action.run workspace.system).1,
    { workspace with system := (action.run workspace.system).2 }) = _
  rw [run]

theorem run_writeFile {name : FileName} {text : String} {workspace : Workspace}
    {fault : Option FileFault} {folder : Folder}
    (written : workspace.folder.write name text.toUTF8 = (fault, folder)) :
    (writeFile name text).run workspace =
      (fault.elim (.ok ()) fun fault => .error (.file fault), { workspace with folder }) := by
  rw [writeFile, run_get_bind, written]
  cases fault <;> rfl

theorem run_writeDocument {name : FileName} {scope : Scope} {workspace : Workspace}
    {members : Dtcg.Members} {after : Cache} {fault : Option FileFault} {folder : Folder}
    (made : (workspace.system.view.document (scope.themeIn workspace.system)).run
      workspace.system.cache = (.ok members, after))
    (written : workspace.folder.write name (Json.object members).pretty.toUTF8 =
      (fault, folder)) :
    (writeDocument name scope).run workspace =
      (fault.elim (.ok (Json.object members).pretty) fun fault => .error (.file fault),
        ⟨{ workspace.system with cache := after }, folder⟩) := by
  have stored := @run_writeFile name (Json.object members).pretty
    ⟨{ workspace.system with cache := after }, workspace.folder⟩ fault folder written
  rw [writeDocument, run_bind_ok (run_onSystem (Action.run_document made))]
  cases fault with
  | none => exact run_bind_ok stored
  | some fault => exact run_bind_error stored

end Work

open Work in
/-- Every system can make the document of every theme, and only the folder can refuse its text.
What the file then holds is standard JSON if and only if every number that is written for a token
is finite; then it is read as the document, and there is no other reading of it. -/
theorem exported_standard_iff {workspace : Workspace} (reachable : workspace.system.Reachable)
    (proper : workspace.system.store.Proper) (name : FileName) (scope : Scope) :
    ∃ members after text fault folder,
      (workspace.system.view.document (scope.themeIn workspace.system)).run
          workspace.system.cache = (.ok members, after) ∧
        text = (Json.object members).pretty ∧
        workspace.folder.write name text.toUTF8 = (fault, folder) ∧
        (writeDocument name scope).run workspace =
          (fault.elim (.ok text) fun fault => .error (.file fault),
            ⟨{ workspace.system with cache := after }, folder⟩) ∧
        (fault = none → name.place ≠ Folder.emptyFile → folder.read name = .ok text.toUTF8) ∧
        ((Json.object members).IsFinite ↔
          ∀ path ∈ workspace.system.view.publicPaths (scope.themeIn workspace.system),
            workspace.system.view.WritesFinite (scope.themeIn workspace.system) path) ∧
        ((∃ json : Json, json.Spells text) ↔ (Json.object members).IsFinite) ∧
        ((Json.object members).IsFinite →
          (Json.object members).Spells text ∧ Json.parse? text = some (.object members) ∧
            ∀ other : Json, other.Spells text → other = .object members) := by
  have sound : workspace.system.cache.Sound workspace.system.view.store := reachable.sound
  rcases workspace.system.view.document_total (scope.themeIn workspace.system) sound
    (fun path _ => proper.contained _ _ path) with ⟨members, after, made⟩
  rcases written : workspace.folder.write name (Json.object members).pretty.toUTF8
    with ⟨fault, folder⟩
  refine ⟨members, after, _, fault, folder, made, rfl, written,
    run_writeDocument made written, ?_, View.document_isFinite proper sound made,
    Json.spells_pretty_iff _, ?_⟩
  · rintro rfl other
    exact Folder.read_write written other
  · intro finite
    have spelled := Json.spells_pretty finite
    exact ⟨spelled, Json.parse?_of_spells spelled, fun other again => spelled.unique again⟩

abbrev tokenFile : FileName :=
  ⟨"", ["tokens.json"]⟩

namespace Margins

theorem valid_gap : isSegment "gap" = true := by decide

theorem valid_wide : isSegment "wide" = true := by decide

abbrev gap : Path := .single "gap" valid_gap

abbrev wide : Path := .single "wide" valid_wide

def store : Store :=
  Store.empty.setAll [(gap, .number 1.5), (wide, .reference "gap" (some (.scale 2)))] .light

def workspace : Workspace :=
  ⟨.ofStore {} store, Folder.empty⟩

theorem proper : store.Proper := by
  refine Store.proper_setAll ?_
  simp only [List.forall_mem_cons]
  exact ⟨Value.proper_colorless rfl (by simp), Value.proper_reference rfl,
    List.forall_mem_nil _⟩

theorem shows_gap : Shows store .light gap (.number 1.5) :=
  Shows.own rfl

theorem shows_wide : Shows store .light wide (.reference "gap" (some (.scale 2))) :=
  Shows.own rfl

theorem denotes_wide : Denotes store .light wide (.number (1.5 * 2)) :=
  have reads := Reads.followed (target?_eq_some_iff.mp (by decide))
    (Denotes.shown shows_gap (Means.scalar rfl))
  Denotes.shown shows_wide (Means.reference reads rfl)

theorem writesFinite : ∀ path ∈ workspace.system.view.publicPaths .light,
    workspace.system.view.WritesFinite .light path := by
  have listed : workspace.system.view.publicPaths .light = [gap, wide] := by decide
  intro path member raw shows
  rw [listed, List.mem_cons, List.mem_singleton] at member
  rcases member with rfl | rfl
  · obtain rfl := shows.unique shows_gap
    have finite : Float.isFinite 1.5 = true := by decide +kernel
    exact ⟨finite, nofun⟩
  · obtain rfl := shows.unique shows_wide
    refine ⟨trivial, fun target transform value same denotes => ?_⟩
    obtain ⟨rfl, rfl⟩ : "gap" = target ∧ Transform.scale 2 = transform := by simpa using same
    obtain rfl := denotes.unique denotes_wide
    have finite : Float.isFinite (1.5 * 2) = true ∧ Float.isFinite 2 = true := by decide +kernel
    exact finite

end Margins

open Margins Work in
theorem exported_standard_margins :
    workspace.system.Reachable ∧ workspace.system.store.Proper ∧
      ∃ members text after,
        (writeDocument tokenFile .active).run workspace = (.ok text, after) ∧
          after.folder.read tokenFile = .ok text.toUTF8 ∧
          (Json.object members).Spells text ∧ Json.parse? text = some (.object members) := by
  have reachable : workspace.system.Reachable := TokenSystem.reachable_ofStore store
  rcases exported_standard_iff reachable proper tokenFile .active
    with ⟨members, after, text, fault, folder, _, _, written, run, read, finite, _, standard⟩
  obtain rfl : none = fault := congrArg Prod.fst written
  rcases standard (finite.mpr writesFinite) with ⟨spelled, parsed, _⟩
  exact ⟨reachable, proper, members, text, _, run, read rfl (by decide), spelled, parsed⟩

namespace Overflow

theorem valid_base : isSegment "_a" = true := by decide

theorem valid_scaled : isSegment "b" = true := by decide

abbrev base : Path := .single "_a" valid_base

abbrev scaled : Path := .single "b" valid_scaled

def store : Store :=
  Store.empty.setAll
    [(base, .number 1e308), (scaled, .reference "_a" (some (.scale 10)))] .light

def workspace : Workspace :=
  ⟨.ofStore {} store, Folder.empty⟩

def text : String :=
  "\x7b
  \"b\": \x7b
    \"$type\": \"number\",
    \"$value\": Infinity,
    \"$extensions\": \x7b
      \"tokenweave\": \x7b
        \"reference\": \"_a\",
        \"transform\": \x7b
          \"kind\": \"scale\",
          \"factor\": 10.0
        \x7d
      \x7d
    \x7d
  \x7d
\x7d"

theorem proper : store.Proper := by
  refine Store.proper_setAll ?_
  simp only [List.forall_mem_cons]
  exact ⟨Value.proper_colorless rfl (by simp), Value.proper_reference rfl,
    List.forall_mem_nil _⟩

theorem stores_finite {path : Path} {raw : Value} (shows : Shows store .light path raw) :
    raw.IsFinite := by
  have listed : raw ∈ [Value.number 1e308, .reference "_a" (some (.scale 10))] :=
    Store.mem_values_of_shows shows
  simp only [List.mem_cons, List.not_mem_nil, or_false] at listed
  rcases listed with rfl | rfl
  · have finite : Float.isFinite 1e308 = true := by decide +kernel
    exact finite
  · trivial

theorem writes_infinite : ¬ workspace.system.view.WritesFinite .light scaled := by
  have shows : Shows store .light scaled (.reference "_a" (some (.scale 10))) := Shows.own rfl
  have stored : Shows store .light base (.number 1e308) := Shows.own rfl
  have reads : Reads store .light "_a" (.number 1e308) :=
    Reads.followed (target?_eq_some_iff.mp (by decide)) (Denotes.shown stored (Means.scalar rfl))
  have denotes : Denotes store .light scaled (.number (1e308 * 10)) :=
    Denotes.shown shows (Means.reference reads rfl)
  intro written
  have finite : Float.isFinite (1e308 * 10) = true :=
    ((written _ shows).2 "_a" (.scale 10) _ rfl denotes).1
  exact absurd finite (by decide +kernel)

end Overflow

open Overflow Work in
/-- A reference to a finite number may be scaled beyond all of them, and is written in a word that
JSON does not have. -/
theorem exported_overflow :
    workspace.system.Reachable ∧ workspace.system.store.Proper ∧
      (∀ path raw, Shows workspace.system.store .light path raw → raw.IsFinite) ∧
      ((writeDocument tokenFile .active).run workspace).1.toOption = some text ∧
      ¬ ∃ json : Json, json.Spells text := by
  have reachable : workspace.system.Reachable := TokenSystem.reachable_ofStore store
  have sound : workspace.system.cache.Sound workspace.system.view.store := reachable.sound
  have run : ((writeDocument tokenFile .active).run workspace).1.toOption = some text := by
    decide +kernel
  refine ⟨reachable, proper, fun path raw => stores_finite, run, fun spelled => ?_⟩
  rcases workspace.system.view.document_total .light sound
    (fun path _ => Store.Proper.contained proper _ _ path) with ⟨members, after, made⟩
  have same : (Json.object members).pretty = text := by
    rw [run_writeDocument made rfl] at run
    exact Option.some.inj run
  rw [← same, Json.spells_pretty_iff, View.document_isFinite proper sound made] at spelled
  have listed : scaled ∈ workspace.system.view.publicPaths .light := by decide
  exact writes_infinite (spelled scaled listed)

end DesignTokens
