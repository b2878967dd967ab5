import DesignTokens.Proofs.Computation
import DesignTokens.Proofs.Resolution.Values
import DesignTokens.TokenSystem.Workspace

/-!
Revisions are compared and never read.  A system whose revisions are all higher by the same
number does and answers the same, whatever it is asked to do.
-/

namespace DesignTokens

/-- A computation goes on from a shifted state as from the state itself: with the same result,
and to the shifted state. -/
def Overlooks {σ α : Type} (shift : σ → σ) (computation : ExceptT Error (StateM σ) α) : Prop :=
  ∀ state, computation.run (shift state) =
    ((computation.run state).1, shift (computation.run state).2)

namespace Overlooks

variable {σ α β : Type} {shift : σ → σ}

theorem ofResult (result : Except Error α) :
    Overlooks shift (ExceptT.mk (Pure.pure result) : ExceptT Error (StateM σ) α) :=
  fun _ => rfl

theorem pure (value : α) : Overlooks shift (Pure.pure value : ExceptT Error (StateM σ) α) :=
  fun _ => rfl

theorem throw (error : Error) :
    Overlooks shift (MonadExcept.throw error : ExceptT Error (StateM σ) α) :=
  fun _ => rfl

theorem bind {first : ExceptT Error (StateM σ) α} {next : α → ExceptT Error (StateM σ) β}
    (overlooks : Overlooks shift first) (continues : ∀ value, Overlooks shift (next value)) :
    Overlooks shift (first >>= next) := by
  intro state
  have shifted := overlooks state
  rcases run : first.run state with ⟨result, middle⟩
  rw [run] at shifted
  cases result with
  | error error => rw [run_bind_error run, run_bind_error shifted]
  | ok value =>
      rw [run_bind_ok run, run_bind_ok shifted]
      exact continues value middle

theorem map {first : ExceptT Error (StateM σ) α} (f : α → β) (overlooks : Overlooks shift first) :
    Overlooks shift (f <$> first) := by
  rw [← bind_pure_comp]
  exact overlooks.bind fun value => pure (f value)

theorem catching {first : ExceptT Error (StateM σ) α}
    {handle : Error → ExceptT Error (StateM σ) α} (overlooks : Overlooks shift first)
    (handles : ∀ error, Overlooks shift (handle error)) :
    Overlooks shift (tryCatch first handle) := by
  intro state
  have shifted := overlooks state
  rcases run : first.run state with ⟨result, middle⟩
  rw [run] at shifted
  rw [run_tryCatch, run_tryCatch, run, shifted]
  cases result with
  | error error => exact handles error middle
  | ok value => rfl

/-- What is done with a state must be the same for the shifted one. -/
theorem getting {next : σ → ExceptT Error (StateM σ) β}
    (same : ∀ state, next (shift state) = next state)
    (overlooks : ∀ state, Overlooks shift (next state)) :
    Overlooks shift ((MonadState.get : ExceptT Error (StateM σ) σ) >>= next) := by
  intro state
  rw [run_get_bind, run_get_bind, same]
  exact overlooks state state

end Overlooks

namespace Store

def later (store : Store) (count : Nat) : Store :=
  { store with revision := store.revision + count }

variable (store : Store) (count : Nat)

theorem set_later (path : Path) (theme : Theme) (value : Value) :
    (store.later count).set path theme value = (store.set path theme value).later count := by
  simp only [set, later, Nat.add_right_comm]

theorem setAll_later (entries : List (Path × Value)) (theme : Theme) :
    (store.later count).setAll entries theme = (store.setAll entries theme).later count := by
  unfold setAll
  split
  · rfl
  · simp only [later, Nat.add_right_comm]

theorem remove_later (path : Path) (theme : Theme) :
    (store.later count).remove path theme =
      ((store.remove path theme).1, (store.remove path theme).2.later count) := by
  by_cases held : store.values.contains (path, theme) = true <;>
    simp [remove, later, held, Nat.add_right_comm]

theorem copyTheme_later (source target : Theme) :
    (store.later count).copyTheme source target =
      ((store.copyTheme source target).1, (store.copyTheme source target).2.later count) := by
  have items : (store.later count).items source = store.items source := rfl
  simp only [copyTheme, items, setAll_later]

theorem clearTheme_later (theme : Theme) :
    (store.later count).clearTheme theme =
      ((store.clearTheme theme).1, (store.clearTheme theme).2.later count) := by
  have items : (store.later count).items theme = store.items theme := rfl
  rw [clearTheme, clearTheme, items]
  by_cases bare : (store.items theme).length = 0
  · simp [bare]
  · simp [bare, later, Nat.add_right_comm]

theorem clear_later : (store.later count).clear = store.clear.later count := by
  simp only [clear, later, Nat.add_right_comm]

theorem load_later (tokens : TokenSet) :
    (store.later count).load tokens =
      ((store.load tokens).1, (store.load tokens).2.later count) := by
  simp only [load, setAll_later]
  rfl

theorem seed_later (tokens : TokenSet) :
    (store.later count).seed tokens =
      ((store.seed tokens).1, (store.seed tokens).2.later count) := by
  simp only [seed, setAll_later, copyTheme_later]
  rfl

end Store

namespace TokenSystem

def later (count : Nat) (system : TokenSystem) : TokenSystem :=
  { system with store := system.store.later count }

theorem withStore_later (system : TokenSystem) (store : Store) (count : Nat) :
    (system.later count).withStore (store.later count) = (system.withStore store).later count := by
  -- The memory is kept if the revision is, and adding to both sides keeps an equation.
  by_cases kept : store.revision = system.store.revision <;>
    simp [withStore, later, Store.later, kept]

theorem values_later (system : TokenSystem) (count : Nat) :
    (system.later count).store.values = system.store.values := by
  rfl

theorem metadata_later (system : TokenSystem) (count : Nat) :
    (system.later count).store.metadata = system.store.metadata := by
  rfl

theorem view_later (system : TokenSystem) (count : Nat) :
    (system.later count).view.Twin system.view :=
  ⟨rfl, rfl, rfl⟩

end TokenSystem

namespace Action

open TokenSystem (later)

variable (count : Nat)

theorem ofExcept_later {α : Type} (result : Except Error α) :
    Overlooks (later count) (ofExcept result) :=
  Overlooks.ofResult result

theorem ofWalk_later {α : Type} {walk : TokenSystem → Walk α}
    (same : ∀ system, walk (system.later count) = walk system) :
    Overlooks (later count) (ofWalk walk) := by
  intro system
  change (((walk (system.later count)).run system.cache).1, { system.later count with
    cache := ((walk (system.later count)).run system.cache).2 }) = _
  rw [same]
  rfl

theorem onStore_later {α : Type} {change : Store → α × Store}
    (same : ∀ store, change (store.later count) =
      ((change store).1, (change store).2.later count)) :
    Overlooks (later count) (onStore change) := by
  intro system
  have shifted := system.withStore_later (change system.store).2 count
  change (Except.ok (change (system.store.later count)).1,
    (system.later count).withStore (change (system.store.later count)).2) = _
  rw [same, shifted]
  rfl

theorem changeStore_later {change : Store → Store}
    (same : ∀ store, change (store.later count) = (change store).later count) :
    Overlooks (later count) (changeStore change) :=
  onStore_later count fun store => by rw [same]

theorem ask_later {α : Type} {question : TokenSystem → α}
    (same : ∀ system, question (system.later count) = question system) :
    Overlooks (later count) (ask question) :=
  Overlooks.getting (fun system => by rw [same]) fun _ => Overlooks.pure _

theorem clearCache_later : Overlooks (later count) clearCache :=
  fun _ => rfl

theorem switchTheme_later (name : String) : Overlooks (later count) (switchTheme name) :=
  (ofExcept_later count _).bind fun _ _ => rfl

theorem resolve_later (raw : String) (scope : Scope) :
    Overlooks (later count) (resolve raw scope) := by
  refine (ofExcept_later count _).bind fun path => ofWalk_later count fun system => ?_
  rw [resolve_of_values (system.values_later count)]
  rfl

theorem find?_later (raw : String) : Overlooks (later count) (find? raw) := by
  refine Overlooks.catching ((resolve_later count raw .active).map some) fun error => ?_
  cases error with
  | notFound path absence => exact Overlooks.pure none
  | _ => exact Overlooks.throw _

theorem setAll_later (entries : List (String × Data)) (scope : Scope) :
    Overlooks (later count) (setAll entries scope) := by
  refine (ofExcept_later count _).bind fun values => ?_
  refine Overlooks.getting (fun _ => rfl) fun system => ?_
  refine (changeStore_later count fun store => ?_).bind fun _ => Overlooks.pure values.length
  exact store.setAll_later count values _

theorem createVariant_later (base variant : String) (overrides : List (String × Data)) :
    Overlooks (later count) (createVariant base variant overrides) := by
  refine (ofExcept_later count _).bind fun target => ?_
  refine (ofExcept_later count _).bind fun source => ?_
  refine (onStore_later count fun store => ?_).bind fun copied => ?_
  · exact store.copyTheme_later count source target
  · split
    · exact ((setAll_later count overrides (.given target)).map _).bind fun _ =>
        Overlooks.pure copied
    · exact (Overlooks.pure PUnit.unit).bind fun _ => Overlooks.pure copied

/-- Questions are answered from what the store holds, not from its revision. -/
theorem readThen_later {α : Type} (raw : String) {question : Path → TokenSystem → α}
    (same : ∀ path system, question path (system.later count) = question path system) :
    Overlooks (later count) (do let path ← readPath raw; ask (question path)) :=
  (ofExcept_later count _).bind fun path => ask_later count (same path)

theorem set_later (raw : String) (scope : Scope) (input : Input) :
    Overlooks (later count) (set raw scope input) := by
  refine (ofExcept_later count _).bind fun path => ?_
  refine (ofExcept_later count _).bind fun value => ?_
  refine Overlooks.getting (fun _ => rfl) fun system => ?_
  exact changeStore_later count fun store => store.set_later count path _ value

theorem seedWith_later (tokens : TokenSet) : Overlooks (later count) (onStore (·.seed tokens)) :=
  onStore_later count fun store => store.seed_later count tokens

theorem load_later (tokens : TokenSet) : Overlooks (later count) (onStore (·.load tokens)) :=
  onStore_later count fun store => store.load_later count tokens

theorem clear_later : Overlooks (later count) (changeStore Store.clear) :=
  changeStore_later count fun store => store.clear_later count

theorem reset_later : Overlooks (later count) reset := by
  refine (clear_later count).bind fun _ => ?_
  refine (seedWith_later count TokenSet.bundled).bind fun seeded => ?_
  exact (clearCache_later count).bind fun _ => Overlooks.pure seeded

theorem seed_later (document : Option (List (Scalar × Data))) :
    Overlooks (later count) (seed document) := by
  cases document with
  | none => exact (Overlooks.pure TokenSet.bundled).bind (seedWith_later count)
  | some document => exact (ofExcept_later count _).bind (seedWith_later count)

theorem output_later {α : Type} {make : View → Theme → Walk α} (scope : Scope)
    (same : ∀ {view other : View}, view.Twin other → make view = make other) :
    Overlooks (later count) (output make scope) :=
  ofWalk_later count fun system => congrFun (same (system.view_later count)) _

theorem document_later (scope : Scope) : Overlooks (later count) (document scope) :=
  ofWalk_later count fun system =>
    congrFun (View.document_of_values (system.view_later count) rfl) _

/-- Every request is done and answered alike, whatever the revisions are. -/
theorem ofRequest_later (request : Request) : Overlooks (later count) (ofRequest request) := by
  cases request with
  | switchTheme name => exact (switchTheme_later count name).bind fun _ => Overlooks.pure _
  | createVariant base variant overrides =>
      exact (createVariant_later count base variant overrides).map _
  | find path => exact (find?_later count path).map _
  | resolve path scope => exact (resolve_later count path scope).map _
  | lookup path scope => exact (readThen_later count path fun _ _ => rfl).map _
  | held path theme => exact (readThen_later count path fun _ _ => rfl).map _
  | has path scope => exact (readThen_later count path fun _ _ => rfl).map _
  | holds path theme => exact (readThen_later count path fun _ _ => rfl).map _
  | set path scope input => exact (set_later count path scope input).bind fun _ => Overlooks.pure _
  | setAll entries scope => exact (setAll_later count entries scope).map _
  | remove path theme =>
      refine Overlooks.map _ ((ofExcept_later count _).bind fun path => ?_)
      exact onStore_later count fun store => store.remove_later count path theme
  | property path => exact (readThen_later count path fun _ _ => rfl).map _
  | setMetadata path metadata =>
      refine Overlooks.bind ((ofExcept_later count _).bind fun path => ?_) fun _ =>
        Overlooks.pure _
      exact changeStore_later count fun _ => rfl
  | metadata path => exact (readThen_later count path fun _ _ => rfl).map _
  | referrers path scope => exact (readThen_later count path fun _ _ => rfl).map _
  | compute expression scope =>
      refine Overlooks.map _ (ofWalk_later count fun system => ?_)
      rw [evaluate_of_values (system.values_later count)]
      rfl
  | resolveAll paths theme =>
      refine Overlooks.map _ (ofWalk_later count fun system => ?_)
      rw [resolveAll_of_values (system.values_later count)]
      rfl
  | validate themes =>
      refine Overlooks.map _ (ofWalk_later count fun system => ?_)
      rw [validate_of_values (system.values_later count)]
      rfl
  | importDocument document => exact ((ofExcept_later count _).bind (load_later count)).map _
  | reset => exact (reset_later count).map _
  | seed document => exact (seed_later count document).map _
  | copyTheme source target =>
      exact (onStore_later count fun store => store.copyTheme_later count source target).map _
  | clearTheme theme =>
      exact (onStore_later count fun store => store.clearTheme_later count theme).map _
  | clear => exact (clear_later count).bind fun _ => Overlooks.pure _
  | clearCache => exact (clearCache_later count).bind fun _ => Overlooks.pure _
  | propertyList scope => exact (output_later count scope View.propertyList_of_values).map _
  | rootBlock scope => exact (output_later count scope View.rootBlock_of_values).map _
  | darkMediaBlock =>
      refine (output_later count .active fun alike => ?_).map _
      rw [View.darkMediaBlock_of_values alike]
  | exportedVariables scope =>
      exact (output_later count scope View.exportedVariables_of_values).map _
  | themeSheet scope => exact (output_later count scope View.themeSheet_of_values).map _
  | componentSheet component scope =>
      refine (output_later count scope fun alike => ?_).map _
      rw [View.componentSheet_of_values alike]
  | utilitySheet scope => exact (output_later count scope View.utilitySheet_of_values).map _
  | valueText value =>
      exact (ask_later count fun _ => rfl).bind fun config => (ofExcept_later count _).map _
  | document scope => exact (document_later count scope).map _
  | summary scope => exact (document_later count scope).map _
  | activeTheme | paths _ | ownPaths _ | items _ | search _ | themes | describe
  | describeStore => exact (ask_later count fun _ => rfl).map _

end Action

namespace Workspace

def later (count : Nat) (workspace : Workspace) : Workspace :=
  { workspace with system := workspace.system.later count }

def replies (workspace : Workspace) : List Command → List (Except Error Reply)
  | [] => []
  | command :: commands =>
      ((perform command).run workspace).1 :: (workspace.after command).replies commands

end Workspace

namespace Work

open Workspace (later)

variable (count : Nat)

theorem onSystem_later {α : Type} {action : Action α}
    (overlooks : Overlooks (TokenSystem.later count) action) :
    Overlooks (later count) (onSystem action) := by
  intro workspace
  change ((action.run (workspace.system.later count)).1, { workspace with
    system := (action.run (workspace.system.later count)).2 }) = _
  rw [overlooks]
  rfl

theorem writeFile_later (name : FileName) (text : String) :
    Overlooks (later count) (writeFile name text) := by
  intro workspace
  unfold writeFile
  rw [run_get_bind, run_get_bind]
  rcases written : workspace.folder.write name text.toUTF8 with ⟨fault, folder⟩
  have same : (workspace.later count).folder.write name text.toUTF8 = (fault, folder) := written
  rw [same]
  cases fault <;> rfl

theorem importFile_later (name : FileName) : Overlooks (later count) (importFile name) := by
  refine Overlooks.getting (fun _ => rfl) fun workspace => ?_
  split
  · exact onSystem_later count (Action.load_later count _)
  · exact Overlooks.throw _

theorem writeSheet_later (name : FileName) : Overlooks (later count) (writeSheet name) := by
  refine (onSystem_later count ?_).bind fun css => ?_
  · exact Action.output_later count .active View.themeSheet_of_values
  · refine Overlooks.bind ?_ fun _ => Overlooks.pure css
    exact (writeFile_later count name css).catching fun error => Overlooks.throw _

theorem writeDocument_later (name : FileName) (scope : Scope) :
    Overlooks (later count) (writeDocument name scope) := by
  refine (onSystem_later count (Action.document_later count scope)).bind fun members => ?_
  exact (writeFile_later count name _).bind fun _ => Overlooks.pure _

end Work

namespace Workspace

theorem perform_later (count : Nat) (command : Command) :
    Overlooks (later count) (perform command) := by
  cases command with
  | tokens request => exact Work.onSystem_later count (Action.ofRequest_later count request)
  | importFile name => exact (Work.importFile_later count name).map _
  | writeSheet name => exact (Work.writeSheet_later count name).map _
  | writeDocument name scope => exact (Work.writeDocument_later count name scope).map _

/-- Over a whole run the revisions make no difference to what is answered. -/
theorem replies_later (count : Nat) (workspace : Workspace) (commands : List Command) :
    (workspace.later count).replies commands = workspace.replies commands := by
  induction commands generalizing workspace with
  | nil => rfl
  | cons command commands ih =>
      have after : (workspace.later count).after command = (workspace.after command).later count :=
        congrArg Prod.snd (perform_later count command workspace)
      rw [replies, replies, after, ih, perform_later count command workspace]

end Workspace

end DesignTokens
