import DesignTokens.Proofs.Resolution.Steps
import DesignTokens.Proofs.Store.Write
import DesignTokens.TokenSystem.Workspace

/-!
Whatever a system is asked to do, it does in steps of four kinds.  What holds of a
new system and is kept by each of them holds of every system that commands lead to.
-/

namespace DesignTokens

open Relation

namespace TokenSystem

inductive Step : TokenSystem → TokenSystem → Prop
  | resolved {system : TokenSystem} (theme : Theme) (path : Path) :
      Step system { system with
        cache := ((resolve system.store theme system.allowance path).run system.cache).2 }
  | written {system : TokenSystem} (write : Store.Write) :
      Step system (system.withStore (write.apply system.store))
  | switched {system : TokenSystem} (theme : Theme) :
      Step system { system with theme, cache := Table.empty }
  | forgotten {system : TokenSystem} : Step system { system with cache := Table.empty }

theorem withStore_store (system : TokenSystem) (store : Store) :
    (system.withStore store).store = store := by
  unfold withStore
  split <;> rfl

theorem withStore_self (system : TokenSystem) : system.withStore system.store = system := by
  rw [withStore, if_pos rfl]

/-- Two changes of the store in a row are one change, as revisions only grow. -/
theorem withStore_withStore (system : TokenSystem) {middle last : Store}
    (first : system.store.revision ≤ middle.revision) (second : middle.revision ≤ last.revision) :
    (system.withStore middle).withStore last = system.withStore last := by
  by_cases kept : middle.revision = system.store.revision
  · simp [withStore, kept]
  · have changed : last.revision ≠ system.store.revision := by omega
    by_cases same : last.revision = middle.revision
    · simp [withStore, kept, same]
    · simp [withStore, kept, same, changed]

theorem withStore_steps (system : TokenSystem) (writes : List Store.Write) :
    ReflTransGen Step system
      (system.withStore (Store.Write.applyAll system.store writes)) := by
  induction writes generalizing system with
  | nil =>
      change ReflTransGen Step system (system.withStore system.store)
      rw [withStore_self]
  | cons write writes ih =>
      have grows : system.store.revision ≤ (write.apply system.store).revision :=
        Store.revision_le_applyAll system.store [write]
      have rest := ih (system.withStore (write.apply system.store))
      rw [withStore_store, withStore_withStore system grows
        (Store.revision_le_applyAll _ writes)] at rest
      exact ReflTransGen.head (Step.written write) rest

end TokenSystem

namespace Action

open TokenSystem (Step)

theorem ofWalk_steps {α : Type} {walk : TokenSystem → Walk α}
    (resolves : ∀ system, Steps (Resolves system.store system.allowance) (walk system)) :
    Steps Step (ofWalk walk) := by
  intro system
  refine ReflTransGen.lift (fun cache => { system with cache }) ?_ _ _
    (resolves system system.cache)
  rintro before after ⟨theme, path, rfl⟩
  exact @Step.resolved { system with cache := before } theme path

theorem onStore_steps {α : Type} {change : Store → α × Store}
    (writes : ∀ store, ∃ writes, (change store).2 = Store.Write.applyAll store writes) :
    Steps Step (onStore change) := by
  intro system
  rcases writes system.store with ⟨writes, applied⟩
  have steps := system.withStore_steps writes
  rw [← applied] at steps
  exact steps

theorem changeStore_steps {change : Store → Store} (write : Store.Write)
    (applied : ∀ store, change store = write.apply store) : Steps Step (changeStore change) :=
  onStore_steps fun store => ⟨[write], applied store⟩

theorem ask_steps {α : Type} (question : TokenSystem → α) : Steps Step (ask question) :=
  Steps.get.bind fun system => Steps.pure (question system)

theorem ofExcept_steps {α : Type} (result : Except Error α) : Steps Step (ofExcept result) :=
  Steps.ofResult result

theorem clearCache_steps : Steps Step clearCache :=
  fun _ => ReflTransGen.single Step.forgotten

theorem switchTheme_steps (name : String) : Steps Step (switchTheme name) :=
  (ofExcept_steps _).bind fun theme _ => ReflTransGen.single (Step.switched theme)

theorem resolve_steps (raw : String) (scope : Scope) : Steps Step (resolve raw scope) :=
  (ofExcept_steps _).bind fun path =>
    ofWalk_steps fun system => DesignTokens.resolve_steps (scope.themeIn system) path

theorem find?_steps (raw : String) : Steps Step (find? raw) := by
  refine Steps.catching ((resolve_steps raw .active).map some) fun error => ?_
  cases error with
  | notFound path absence => exact Steps.pure none
  | _ => exact Steps.throw _

theorem setAll_steps (entries : List (String × Data)) (scope : Scope) :
    Steps Step (setAll entries scope) := by
  refine (ofExcept_steps _).bind fun values => ?_
  refine Steps.get.bind fun system => ?_
  refine (changeStore_steps (.setAll values (scope.themeIn system)) fun _ => rfl).bind fun _ => ?_
  exact Steps.pure values.length

theorem createVariant_steps (base variant : String) (overrides : List (String × Data)) :
    Steps Step (createVariant base variant overrides) := by
  refine (ofExcept_steps _).bind fun target => ?_
  refine (ofExcept_steps _).bind fun source => ?_
  refine (onStore_steps fun store => ⟨[.copyTheme source target], rfl⟩).bind fun copied => ?_
  split
  · exact ((setAll_steps overrides (.given target)).map _).bind fun _ => Steps.pure copied
  · exact (Steps.pure PUnit.unit).bind fun _ => Steps.pure copied

theorem readThen_steps {α : Type} (raw : String) (question : Path → TokenSystem → α) :
    Steps Step (do let path ← readPath raw; ask (question path)) :=
  (ofExcept_steps _).bind fun path => ask_steps (question path)

theorem set_steps (raw : String) (scope : Scope) (input : Input) :
    Steps Step (set raw scope input) := by
  refine (ofExcept_steps _).bind fun path => ?_
  refine (ofExcept_steps _).bind fun value => ?_
  refine Steps.get.bind fun system => ?_
  exact changeStore_steps (.set path (scope.themeIn system) value) fun _ => rfl

theorem load_steps (tokens : TokenSet) : Steps Step (onStore (·.load tokens)) :=
  onStore_steps fun store => ⟨_, store.load_eq_applyAll tokens⟩

theorem seedWith_steps (tokens : TokenSet) : Steps Step (onStore (·.seed tokens)) :=
  onStore_steps fun store => ⟨_, store.seed_eq_applyAll tokens⟩

theorem importDocument_steps (document : List (Scalar × Data)) :
    Steps Step (importDocument document) :=
  (ofExcept_steps _).bind load_steps

theorem seed_steps (document : Option (List (Scalar × Data))) : Steps Step (seed document) := by
  cases document with
  | none => exact (Steps.pure TokenSet.bundled).bind seedWith_steps
  | some document => exact (ofExcept_steps _).bind seedWith_steps

theorem reset_steps : Steps Step reset := by
  refine (changeStore_steps .clear fun _ => rfl).bind fun _ => ?_
  refine (seedWith_steps TokenSet.bundled).bind fun count => ?_
  exact clearCache_steps.bind fun _ => Steps.pure count

theorem output_steps {α : Type} {make : View → Theme → Walk α}
    (resolves : ∀ view theme, Steps (Resolves view.store view.allowance) (make view theme))
    (scope : Scope) : Steps Step (output make scope) :=
  ofWalk_steps fun system => resolves system.view (scope.themeIn system)

theorem document_steps (scope : Scope) : Steps Step (document scope) :=
  output_steps View.document_steps scope

/-- Every request is done in steps, up to the point where it fails. -/
theorem ofRequest_steps (request : Request) : Steps Step (ofRequest request) := by
  cases request with
  | switchTheme name => exact (switchTheme_steps name).bind fun _ => Steps.pure _
  | createVariant base variant overrides =>
      exact (createVariant_steps base variant overrides).map _
  | find path => exact (find?_steps path).map _
  | resolve path scope => exact (resolve_steps path scope).map _
  | lookup path scope => exact (readThen_steps path _).map _
  | held path theme => exact (readThen_steps path _).map _
  | has path scope => exact (readThen_steps path _).map _
  | holds path theme => exact (readThen_steps path _).map _
  | set path scope input => exact (set_steps path scope input).bind fun _ => Steps.pure _
  | setAll entries scope => exact (setAll_steps entries scope).map _
  | remove path theme =>
      refine Steps.map _ ((ofExcept_steps _).bind fun path => ?_)
      exact onStore_steps fun store => ⟨[.remove path theme], rfl⟩
  | property path => exact (readThen_steps path _).map _
  | setMetadata path metadata =>
      refine Steps.bind ((ofExcept_steps _).bind fun path => ?_) fun _ => Steps.pure _
      exact changeStore_steps (.setMetadata path metadata) fun _ => rfl
  | metadata path => exact (readThen_steps path _).map _
  | referrers path scope => exact (readThen_steps path _).map _
  | compute expression scope =>
      exact (ofWalk_steps fun system => evaluate_steps (scope.themeIn system) expression).map _
  | resolveAll paths theme =>
      exact (ofWalk_steps fun system => DesignTokens.resolveAll_steps theme paths []).map _
  | validate themes =>
      exact (ofWalk_steps fun system => Steps.lift (validate_moves _)).map _
  | importDocument document => exact (importDocument_steps document).map _
  | reset => exact reset_steps.map _
  | seed document => exact (seed_steps document).map _
  | copyTheme source target =>
      exact (onStore_steps fun store => ⟨[.copyTheme source target], rfl⟩).map _
  | clearTheme theme => exact (onStore_steps fun store => ⟨[.clearTheme theme], rfl⟩).map _
  | clear => exact (changeStore_steps .clear fun _ => rfl).bind fun _ => Steps.pure _
  | clearCache => exact clearCache_steps.bind fun _ => Steps.pure _
  | propertyList scope => exact (output_steps View.propertyList_steps scope).map _
  | rootBlock scope => exact (output_steps View.rootBlock_steps scope).map _
  | darkMediaBlock =>
      exact (output_steps (fun view _ => view.darkMediaBlock_steps) .active).map _
  | exportedVariables scope => exact (output_steps View.exportedVariables_steps scope).map _
  | themeSheet scope => exact (output_steps View.themeSheet_steps scope).map _
  | componentSheet component scope =>
      exact (output_steps (fun view => view.componentSheet_steps component) scope).map _
  | utilitySheet scope => exact (output_steps View.utilitySheet_steps scope).map _
  | valueText value => exact (ask_steps _).bind fun config => (ofExcept_steps _).map _
  | document scope => exact (document_steps scope).map _
  | summary scope => exact (document_steps scope).map _
  | activeTheme | paths _ | ownPaths _ | items _ | search _ | themes | describe
  | describeStore => exact (ask_steps _).map _

end Action

def Workspace.Progress (before after : Workspace) : Prop :=
  ReflTransGen TokenSystem.Step before.system after.system

namespace Work

open Workspace (Progress)

theorem onSystem_steps {α : Type} {action : Action α}
    (steps : Steps TokenSystem.Step action) : Steps Progress (onSystem action) :=
  fun workspace => ReflTransGen.single (steps workspace.system)

theorem system_writeFile (name : FileName) (text : String) (workspace : Workspace) :
    ((writeFile name text).run workspace).2.system = workspace.system := by
  unfold writeFile
  rw [run_get_bind]
  rcases workspace.folder.write name text.toUTF8 with ⟨fault, folder⟩
  cases fault <;> rfl

theorem writeFile_steps (name : FileName) (text : String) :
    Steps Progress (writeFile name text) := by
  intro workspace
  refine ReflTransGen.single ?_
  change ReflTransGen _ _ ((writeFile name text).run workspace).2.system
  rw [system_writeFile]

theorem importFile_steps (name : FileName) : Steps Progress (importFile name) := by
  refine Steps.get.bind fun workspace => ?_
  split
  · exact onSystem_steps (Action.load_steps _)
  · exact Steps.throw _

theorem writeSheet_steps (name : FileName) : Steps Progress (writeSheet name) := by
  have sheet := Action.output_steps View.themeSheet_steps .active
  refine (onSystem_steps sheet).bind fun css => ?_
  refine Steps.bind ?_ fun _ => Steps.pure css
  exact (writeFile_steps name css).catching fun error => Steps.throw _

theorem writeDocument_steps (name : FileName) (scope : Scope) :
    Steps Progress (writeDocument name scope) := by
  refine (onSystem_steps (Action.document_steps scope)).bind fun members => ?_
  exact (writeFile_steps name _).bind fun _ => Steps.pure _

end Work

namespace Workspace

theorem perform_steps (command : Command) : Steps Progress (perform command) := by
  cases command with
  | tokens request => exact Work.onSystem_steps (Action.ofRequest_steps request)
  | importFile name => exact (Work.importFile_steps name).map _
  | writeSheet name => exact (Work.writeSheet_steps name).map _
  | writeDocument name scope => exact (Work.writeDocument_steps name scope).map _

theorem after_steps (workspace : Workspace) (command : Command) :
    ReflTransGen TokenSystem.Step workspace.system (workspace.after command).system := by
  have progress := perform_steps command workspace
  exact ReflTransGen.lift' Workspace.system (fun _ _ => id) _ _ progress

theorem afterAll_steps (workspace : Workspace) (commands : List Command) :
    ReflTransGen TokenSystem.Step workspace.system (workspace.afterAll commands).system := by
  induction commands generalizing workspace with
  | nil => exact ReflTransGen.refl
  | cons command commands ih =>
      exact (workspace.after_steps command).trans (ih (workspace.after command))

end Workspace

namespace TokenSystem

/-- Commands lead to a system from one over any store that has found nothing yet. -/
def Reachable (system : TokenSystem) : Prop :=
  ∃ config store allowance folder commands,
    ((⟨ofStore config store allowance, folder⟩ : Workspace).afterAll commands).system = system

theorem reachable_ofStore (store : Store) {allowance : Allowance} :
    (ofStore {} store allowance).Reachable :=
  ⟨{}, store, allowance, Folder.empty, [], rfl⟩

theorem Reachable.invariant {holds : TokenSystem → Prop}
    (fresh : ∀ config store allowance, holds (ofStore config store allowance))
    (kept : ∀ {before after}, Step before after → holds before → holds after)
    {system : TokenSystem} (reachable : Reachable system) : holds system := by
  rcases reachable with ⟨config, store, allowance, folder, commands, ran⟩
  have steps := Workspace.afterAll_steps
    ⟨ofStore config store allowance, folder⟩ commands
  rw [ran] at steps
  clear ran
  induction steps with
  | refl => exact fresh config store allowance
  | tail _ step ih => exact kept step ih

end TokenSystem

/-! ### Operations that write -/

namespace Action

theorem run_ofExcept_ok {α : Type} {result : Except Error α} {value : α}
    (read : result = .ok value) (system : TokenSystem) :
    (ofExcept result).run system = (.ok value, system) := by
  rw [read]
  rfl

theorem run_ofExcept_error {α : Type} {result : Except Error α} {error : Error}
    (refused : result = .error error) (system : TokenSystem) :
    (ofExcept result).run system = (.error error, system) := by
  rw [refused]
  rfl

theorem run_set {raw : String} {path : Path} {input : Input} {value : Value}
    (read : Path.read raw = .ok path) (valued : input.value = .ok value) (theme : Theme)
    (system : TokenSystem) :
    (set raw (.given theme) input).run system =
      (.ok (), system.withStore (system.store.set path theme value)) := by
  rw [set, readPath, run_bind_ok (run_ofExcept_ok read system),
    run_bind_ok (run_ofExcept_ok valued system), run_get_bind]
  rfl

theorem run_setAll {entries : List (String × Data)} {values : List (Path × Value)}
    (read : readBatch entries = .ok values) (theme : Theme) (system : TokenSystem) :
    (setAll entries (.given theme)).run system =
      (.ok values.length, system.withStore (system.store.setAll values theme)) := by
  rw [setAll, run_bind_ok (run_ofExcept_ok read system), run_get_bind]
  rfl

theorem run_remove {raw : String} {path : Path} (read : Path.read raw = .ok path) (theme : Theme)
    (system : TokenSystem) :
    (remove raw theme).run system =
      (.ok (system.store.remove path theme).1,
        system.withStore (system.store.remove path theme).2) := by
  rw [remove, readPath, run_bind_ok (run_ofExcept_ok read system)]
  rfl

theorem run_setMetadata {raw : String} {path : Path} (read : Path.read raw = .ok path)
    (record : Metadata) (system : TokenSystem) :
    (setMetadata raw record).run system =
      (.ok (), system.withStore (system.store.setMetadata path record)) := by
  rw [setMetadata, readPath, run_bind_ok (run_ofExcept_ok read system)]
  rfl

theorem run_createVariant_unnamed {base variant : String} {overrides : List (String × Data)}
    {error : Error} (unnamed : Theme.read variant = .error error ∨
      (∃ target, Theme.read variant = .ok target) ∧ Theme.read base = .error error)
    (system : TokenSystem) :
    (createVariant base variant overrides).run system = (.error error, system) := by
  rw [createVariant]
  rcases unnamed with refused | ⟨⟨target, named⟩, refused⟩
  · exact run_bind_error (run_ofExcept_error refused system)
  · rw [run_bind_ok (run_ofExcept_ok named system)]
    exact run_bind_error (run_ofExcept_error refused system)

/-- What a variant does once its themes are read: it copies first, and then reads the values
to put over the copy. -/
theorem run_createVariant {base variant : String} {source target : Theme}
    (based : Theme.read base = .ok source) (named : Theme.read variant = .ok target)
    (overrides : List (String × Data)) (system : TokenSystem) :
    (createVariant base variant overrides).run system =
      match readBatch overrides with
      | .ok values =>
          (.ok (system.store.items source).length,
            (system.withStore (system.store.copyTheme source target).2).withStore
              ((system.store.copyTheme source target).2.setAll values target))
      | .error error =>
          (.error error, system.withStore (system.store.copyTheme source target).2) := by
  have copied : (onStore (·.copyTheme source target)).run system =
      (.ok (system.store.items source).length,
        system.withStore (system.store.copyTheme source target).2) := rfl
  have held := system.withStore_store (system.store.copyTheme source target).2
  rw [createVariant, run_bind_ok (run_ofExcept_ok named system),
    run_bind_ok (run_ofExcept_ok based system), run_bind_ok copied]
  generalize system.withStore (system.store.copyTheme source target).2 = middle at held
  rw [← held]
  cases overrides with
  | nil => exact congrArg (Prod.mk _) middle.withStore_self.symm
  | cons entry rest =>
      cases read : readBatch (entry :: rest) with
      | ok values =>
          have written := run_map_ok (Function.const Nat PUnit.unit) (run_setAll read target middle)
          exact run_bind_ok written
      | error error =>
          have refused : (setAll (entry :: rest) (.given target)).run middle =
              (.error error, middle) :=
            run_bind_error (run_ofExcept_error read middle)
          exact run_bind_error (run_map_error (Function.const Nat PUnit.unit) refused)

end Action

end DesignTokens
