import DesignTokens.Proofs.Dtcg.Document
import DesignTokens.Proofs.Store.Revision
import DesignTokens.Proofs.Stylesheet.Settled
import DesignTokens.Proofs.TokenSystem.Reset

/-!
What the revision of a store tells about a system at work.  While it stays, the values stay, and
so does what is made from them; metadata can be written without it.
-/

namespace DesignTokens

open Relation

namespace TokenSystem

theorem Step.settings {before after : TokenSystem} (step : Step before after) :
    after.config = before.config ∧ after.allowance = before.allowance := by
  cases step with
  | written write =>
      unfold withStore
      split <;> exact ⟨rfl, rfl⟩
  | resolved | switched | forgotten => exact ⟨rfl, rfl⟩

theorem Step.dated {before after : TokenSystem} (step : Step before after) :
    Store.Dated Store.values before.store after.store := by
  cases step with
  | written write =>
      rw [withStore_store]
      exact before.store.dated_values write
  | resolved | switched | forgotten => exact Store.Dated.refl _

/-- However a system goes on, its settings stay, and its values stay with the revision. -/
theorem dated_of_steps {before after : TokenSystem} (steps : ReflTransGen Step before after) :
    after.config = before.config ∧ after.allowance = before.allowance ∧
      Store.Dated Store.values before.store after.store := by
  induction steps with
  | refl => exact ⟨rfl, rfl, Store.Dated.refl _⟩
  | tail _ step ih =>
      obtain ⟨config, allowance, dated⟩ := ih
      obtain ⟨sameConfig, sameAllowance⟩ := step.settings
      exact ⟨sameConfig.trans config, sameAllowance.trans allowance, dated.trans step.dated⟩

def Counted (before after : TokenSystem) : Prop :=
  Store.Dated id before.store after.store

end TokenSystem

namespace Action

open TokenSystem (Counted)

theorem ofWalk_counted {α : Type} (walk : TokenSystem → Walk α) : Steps Counted (ofWalk walk) :=
  fun system => ReflTransGen.single (Store.Dated.refl system.store)

theorem onStore_counted {α : Type} {change : Store → α × Store}
    (dated : ∀ store, Store.Dated id store (change store).2) : Steps Counted (onStore change) := by
  intro system
  have counted : Counted system (system.withStore (change system.store).2) := by
    rw [Counted, TokenSystem.withStore_store]
    exact dated system.store
  exact ReflTransGen.single counted

theorem changeStore_counted {change : Store → Store}
    (dated : ∀ store, Store.Dated id store (change store)) : Steps Counted (changeStore change) :=
  onStore_counted dated

theorem ask_counted {α : Type} (question : TokenSystem → α) : Steps Counted (ask question) :=
  Steps.get.bind fun system => Steps.pure (question system)

theorem ofExcept_counted {α : Type} (result : Except Error α) : Steps Counted (ofExcept result) :=
  Steps.ofResult result

theorem readThen_counted {α : Type} (raw : String) (question : Path → TokenSystem → α) :
    Steps Counted (do let path ← readPath raw; ask (question path)) :=
  (ofExcept_counted _).bind fun path => ask_counted (question path)

theorem clearCache_counted : Steps Counted clearCache :=
  fun system => ReflTransGen.single (Store.Dated.refl system.store)

theorem switchTheme_counted (name : String) : Steps Counted (switchTheme name) :=
  (ofExcept_counted _).bind fun _ system =>
    ReflTransGen.single (Store.Dated.refl system.store)

theorem resolve_counted (raw : String) (scope : Scope) : Steps Counted (resolve raw scope) :=
  (ofExcept_counted _).bind fun _ => ofWalk_counted _

theorem find?_counted (raw : String) : Steps Counted (find? raw) := by
  refine Steps.catching ((resolve_counted raw .active).map some) fun error => ?_
  cases error with
  | notFound path absence => exact Steps.pure none
  | _ => exact Steps.throw _

theorem set_counted (raw : String) (scope : Scope) (input : Input) :
    Steps Counted (set raw scope input) := by
  refine (ofExcept_counted _).bind fun path => ?_
  refine (ofExcept_counted _).bind fun value => ?_
  refine Steps.get.bind fun system => ?_
  exact changeStore_counted fun store => store.dated_set path (scope.themeIn system) value

theorem setAll_counted (entries : List (String × Data)) (scope : Scope) :
    Steps Counted (setAll entries scope) := by
  refine (ofExcept_counted _).bind fun values => ?_
  refine Steps.get.bind fun system => ?_
  refine (changeStore_counted fun store => ?_).bind fun _ => Steps.pure values.length
  exact store.dated_setAll values (scope.themeIn system)

theorem createVariant_counted (base variant : String) (overrides : List (String × Data)) :
    Steps Counted (createVariant base variant overrides) := by
  refine (ofExcept_counted _).bind fun target => ?_
  refine (ofExcept_counted _).bind fun source => ?_
  refine (onStore_counted fun store => store.dated_copyTheme source target).bind fun copied => ?_
  split
  · exact ((setAll_counted overrides (.given target)).map _).bind fun _ => Steps.pure copied
  · exact (Steps.pure PUnit.unit).bind fun _ => Steps.pure copied

theorem reset_counted : Steps Counted reset := by
  intro system
  have counted : Counted system (system.anew.later (system.store.revision + 1)) := by
    refine Or.inl ?_
    change system.store.revision < system.anew.store.revision + (system.store.revision + 1)
    omega
  have ran : (reset.run system).2 = system.anew.later (system.store.revision + 1) :=
    congrArg Prod.snd (run_reset system)
  rw [← ran] at counted
  exact ReflTransGen.single counted

end Action

def Request.tokens? : Request → Option TokenSet
  | .importDocument content => (TokenSet.ofDocument content).toOption
  | .seed (some content) => (TokenSet.ofDocument content).toOption
  | .seed none => some TokenSet.bundled
  | _ => none

def Command.DescribesOnly (folder : Folder) : Command → Prop
  | .tokens (.setMetadata path _) => ∃ read, Path.read path = .ok read
  | .tokens request => ∃ tokens, request.tokens? = some tokens ∧ tokens.DescribesOnly
  | .importFile name => ∃ tokens, TokenSet.ofFile folder name = .ok tokens ∧ tokens.DescribesOnly
  | _ => False

namespace Action

open TokenSystem (Counted)

theorem putIn_counted {result : Except Error TokenSet}
    {change : TokenSet → Store → Nat × Store}
    (dated : ∀ tokens, result = .ok tokens → ∀ store,
      Store.Dated id store (change tokens store).2) :
    Steps Counted (do let tokens ← ofExcept result; onStore (change tokens)) := by
  cases result with
  | error error => exact fun _ => ReflTransGen.refl
  | ok tokens => exact onStore_counted (dated tokens rfl)

theorem setMetadata_counted {raw : String} {metadata : Metadata}
    (unread : ¬ ∃ path, Path.read raw = .ok path) : Steps Counted (setMetadata raw metadata) := by
  unfold setMetadata readPath
  cases read : Path.read raw with
  | ok path => exact absurd ⟨path, read⟩ unread
  | error error => exact fun _ => ReflTransGen.refl

/-- What a request changes in the store is counted, unless it is metadata alone. -/
theorem ofRequest_counted (folder : Folder) {request : Request}
    (valued : ¬ (Command.tokens request).DescribesOnly folder) :
    Steps Counted (ofRequest request) := by
  cases request with
  | switchTheme name => exact (switchTheme_counted name).bind fun _ => Steps.pure _
  | createVariant base variant overrides =>
      exact (createVariant_counted base variant overrides).map _
  | find path => exact (find?_counted path).map _
  | resolve path scope => exact (resolve_counted path scope).map _
  | lookup path scope => exact (readThen_counted path _).map _
  | held path theme => exact (readThen_counted path _).map _
  | has path scope => exact (readThen_counted path _).map _
  | holds path theme => exact (readThen_counted path _).map _
  | set path scope input => exact (set_counted path scope input).bind fun _ => Steps.pure _
  | setAll entries scope => exact (setAll_counted entries scope).map _
  | remove path theme =>
      refine Steps.map _ ((ofExcept_counted _).bind fun path => ?_)
      exact onStore_counted fun store => store.dated_remove path theme
  | property path => exact (readThen_counted path _).map _
  | setMetadata path metadata => exact (setMetadata_counted valued).bind fun _ => Steps.pure _
  | metadata path => exact (readThen_counted path _).map _
  | referrers path scope => exact (readThen_counted path _).map _
  | importDocument document =>
      refine Steps.map _ (putIn_counted fun tokens read store => ?_)
      have asked : (Request.importDocument document).tokens? = some tokens := by
        rw [Request.tokens?, read]
        rfl
      exact store.dated_load fun described => valued ⟨tokens, asked, described⟩
  | reset => exact reset_counted.map _
  | seed document =>
      cases document with
      | none =>
          have bundled : Steps Counted (do
              let tokens ← ofExcept (.ok TokenSet.bundled)
              onStore (·.seed tokens)) := by
            refine putIn_counted fun tokens same store => ?_
            obtain rfl := Except.ok.inj same
            exact store.dated_seed fun described => valued ⟨_, rfl, described⟩
          exact bundled.map _
      | some document =>
          refine Steps.map _ (putIn_counted fun tokens read store => ?_)
          have asked : (Request.seed (some document)).tokens? = some tokens := by
            rw [Request.tokens?, read]
            rfl
          exact store.dated_seed fun described => valued ⟨tokens, asked, described⟩
  | copyTheme source target =>
      exact (onStore_counted fun store => store.dated_copyTheme source target).map _
  | clearTheme theme => exact (onStore_counted fun store => store.dated_clearTheme theme).map _
  | clear => exact (changeStore_counted fun store => store.dated_clear).bind fun _ => Steps.pure _
  | clearCache => exact clearCache_counted.bind fun _ => Steps.pure _
  | valueText value => exact (ask_counted _).bind fun config => (ofExcept_counted _).map _
  | compute | resolveAll | validate | propertyList | rootBlock | darkMediaBlock
  | exportedVariables | themeSheet | componentSheet | utilitySheet | document | summary =>
      exact (ofWalk_counted _).map _
  | activeTheme | paths _ | ownPaths _ | items _ | search _ | themes | describe
  | describeStore => exact (ask_counted _).map _

end Action

def Workspace.Counted (before after : Workspace) : Prop :=
  TokenSystem.Counted before.system after.system

namespace Work

open Workspace (Counted)

theorem counted_of_steps {before after : TokenSystem}
    (steps : ReflTransGen TokenSystem.Counted before after) : TokenSystem.Counted before after := by
  induction steps with
  | refl => exact Store.Dated.refl _
  | tail _ step ih => exact ih.trans step

theorem onSystem_counted {α : Type} {action : Action α}
    (steps : Steps TokenSystem.Counted action) : Steps Counted (onSystem action) :=
  fun workspace => ReflTransGen.single (counted_of_steps (steps workspace.system))

theorem output_counted {α : Type} (make : View → Theme → Walk α) (scope : Scope) :
    Steps Counted (onSystem (Action.output make scope)) :=
  onSystem_counted (Action.ofWalk_counted _)

theorem writeFile_counted (name : FileName) (text : String) :
    Steps Counted (writeFile name text) := by
  intro workspace
  have kept := system_writeFile name text workspace
  exact ReflTransGen.single (show TokenSystem.Counted _ _ from kept ▸ Store.Dated.refl _)

theorem importFile_counted {name : FileName} {workspace : Workspace}
    (valued : ¬ (Command.importFile name).DescribesOnly workspace.folder) :
    TokenSystem.Counted workspace.system ((importFile name).run workspace).2.system := by
  rw [importFile, run_get_bind]
  cases read : TokenSet.ofFile workspace.folder name with
  | error error => exact Store.Dated.refl _
  | ok tokens =>
      have loaded : Steps TokenSystem.Counted (Action.onStore (·.load tokens)) :=
        Action.onStore_counted fun store =>
          store.dated_load fun described => valued ⟨tokens, read, described⟩
      exact counted_of_steps (loaded workspace.system)

theorem writeSheet_counted (name : FileName) : Steps Counted (writeSheet name) := by
  refine (output_counted View.themeSheet .active).bind fun css => ?_
  refine Steps.bind ?_ fun _ => Steps.pure css
  exact (writeFile_counted name css).catching fun error => Steps.throw _

theorem writeDocument_counted (name : FileName) (scope : Scope) :
    Steps Counted (writeDocument name scope) := by
  refine (output_counted View.document scope).bind fun members => ?_
  exact (writeFile_counted name _).bind fun _ => Steps.pure _

end Work

namespace Workspace

theorem counted_of_steps {before after : Workspace} (steps : ReflTransGen Counted before after) :
    Counted before after :=
  Work.counted_of_steps (ReflTransGen.lift Workspace.system (fun _ _ => id) _ _ steps)

theorem after_counted (workspace : Workspace) {command : Command}
    (valued : ¬ command.DescribesOnly workspace.folder) :
    workspace.Counted (workspace.after command) := by
  cases command with
  | tokens request =>
      have steps := Action.ofRequest_counted workspace.folder valued
      exact counted_of_steps (Work.onSystem_counted steps workspace)
  | importFile name =>
      rw [after, perform, run_map]
      exact Work.importFile_counted valued
  | writeSheet name => exact counted_of_steps ((Work.writeSheet_counted name).map _ workspace)
  | writeDocument name scope =>
      exact counted_of_steps ((Work.writeDocument_counted name scope).map _ workspace)

def Valued : Workspace → List Command → Prop
  | _, [] => True
  | workspace, command :: commands =>
      ¬ command.DescribesOnly workspace.folder ∧ (workspace.after command).Valued commands

theorem afterAll_counted {workspace : Workspace} {commands : List Command}
    (valued : workspace.Valued commands) : workspace.Counted (workspace.afterAll commands) := by
  induction commands generalizing workspace with
  | nil => exact Store.Dated.refl _
  | cons command commands ih =>
      exact (workspace.after_counted valued.1).trans (ih valued.2)

end Workspace

theorem TokenSystem.Sound.steps {before after : TokenSystem} (sound : before.Sound)
    (steps : ReflTransGen Step before after) : after.Sound := by
  induction steps with
  | refl => exact sound
  | tail _ step ih => exact ih.step step

/-- Between two points of a run with one revision the values and their order stay in every theme,
and so does each sheet that is made from them.  If no metadata was written alone in between,
the whole store stays and so do the documents. -/
theorem revision_dates {workspace : Workspace} (reachable : workspace.system.Reachable)
    {commands : List Command}
    (same : (workspace.afterAll commands).system.store.revision =
      workspace.system.store.revision) :
    let earlier := workspace.system
    let later := (workspace.afterAll commands).system
    later.store.values = earlier.store.values ∧
      (∀ theme, later.store.items theme = earlier.store.items theme) ∧
      (∀ (sheet : Sheet) theme,
        ((sheet.write later.view theme).run later.cache).1 =
            ((sheet.write earlier.view theme).run earlier.cache).1 ∨
          earlier.view.Deep ∧ ∃ path,
            ((sheet.write later.view theme).run later.cache).1 = .error (.tooDeep path) ∨
            ((sheet.write earlier.view theme).run earlier.cache).1 = .error (.tooDeep path)) ∧
      (workspace.Valued commands → later.store = earlier.store ∧
        (earlier.store.Proper → ∀ theme,
          ((later.view.document theme).run later.cache).1 =
            ((earlier.view.document theme).run earlier.cache).1)) := by
  intro earlier later
  have sound : earlier.Sound := reachable.sound
  have steps := workspace.afterAll_steps commands
  have again : later.Sound := sound.steps steps
  obtain ⟨config, allowance, dated⟩ := TokenSystem.dated_of_steps steps
  have values : later.store.values = earlier.store.values := (dated.same same).symm
  have alike : later.view.Twin earlier.view := ⟨values, config, allowance⟩
  -- Soundness is about values alone, so what is remembered later was sound before.
  have known : later.cache.Sound earlier.store := Cache.Sound.of_values values again
  refine ⟨values, fun theme => ?_, fun sheet theme => ?_, fun valued => ?_⟩
  · rw [items_of_values values]
  · rw [sheet.write_of_values alike]
    have settles := sheet.settles earlier.view theme
    exact settles.meet settles known sound
  · have kept : later.store = earlier.store :=
      ((Workspace.afterAll_counted valued).same same).symm
    refine ⟨kept, fun proper theme => ?_⟩
    rw [View.document_of_values alike (congrArg Store.metadata kept)]
    have settles := @document_settles earlier.view proper theme
    rcases settles.meet settles known sound with equal | ⟨impossible, _⟩
    · exact equal
    · exact impossible.elim

namespace Noted

theorem valid : isSegment "a" = true := by decide

abbrev path : Path := .single "a" valid

def store : Store :=
  Store.empty.set path .light .null

def record : Metadata :=
  ⟨some "x", "color", false, [], [], none⟩

def workspace : Workspace :=
  ⟨.ofStore {} store, Folder.empty⟩

theorem shows : Shows store .light path .null :=
  Shows.own rfl

theorem proper : store.Proper :=
  Store.proper_empty.apply (.set path .light .null) fun value written => by
    obtain rfl := List.mem_singleton.mp written
    exact Value.proper_colorless rfl (by simp)

theorem after_resolve :
    (workspace.afterAll [.tokens (.resolve "a" .active)]).system =
      { workspace.system with
        cache := ((resolve store .light workspace.system.allowance path).run Table.empty).2 } :=
  workspace.after_resolve .active (by decide)

end Noted

open Noted in
theorem revision_dates_noted :
    workspace.system.Reachable ∧ workspace.system.store.Proper ∧
      workspace.Valued [.tokens (.resolve "a" .active)] ∧
      let later := (workspace.afterAll [.tokens (.resolve "a" .active)]).system
      later.cache.find? (path, .light) = some .null ∧
        later.store.revision = workspace.system.store.revision ∧
        ((later.view.document .light).run later.cache).1 =
          ((workspace.system.view.document .light).run Table.empty).1 := by
  have reachable : workspace.system.Reachable := TokenSystem.reachable_ofStore store
  have valued : workspace.Valued [.tokens (.resolve "a" .active)] :=
    ⟨fun described => (nomatch described.choose_spec.1), trivial⟩
  have same : (workspace.afterAll [.tokens (.resolve "a" .active)]).system.store.revision =
      workspace.system.store.revision := by
    rw [after_resolve]
  have found : outcome store .light workspace.system.allowance Table.empty path = .ok .null :=
    outcome_of_isScalar (Cache.sound_empty _) (Denotes.shown shows (Means.scalar rfl)) rfl _
  refine ⟨reachable, proper, valued, ?_, same, ?_⟩
  · rw [after_resolve]
    exact find?_after_resolve found
  · exact ((@revision_dates workspace reachable _ same).2.2.2 valued).2 proper .light

namespace Noted

theorem after_setMetadata :
    (workspace.afterAll [.tokens (.setMetadata "a" record)]).system =
      { workspace.system with store := store.setMetadata path record } := by
  have read : Path.read "a" = .ok path := by decide
  have ran := Action.run_setMetadata read record workspace.system
  have done : (Action.ofRequest (.setMetadata "a" record)).run workspace.system =
      (.ok .done, workspace.system.withStore (store.setMetadata path record)) := by
    rw [Action.ofRequest, run_bind_ok ran]
    rfl
  rw [Workspace.afterAll, List.foldl_cons, List.foldl_nil, Workspace.after, Workspace.perform,
    Work.system_onSystem, done]
  rfl

/-- The document of the one token, with any metadata. -/
theorem document (metadata : Table Path Metadata) :
    (((View.mk { store with metadata } {} workspace.system.allowance).document .light).run
        Table.empty).1 =
      .ok (Dtcg.place [] (("$value", .null) ::
        ((metadata.find? path).map Dtcg.metadataFields).getD []) ["a"]) := by
  let view := View.mk { store with metadata } {} workspace.system.allowance
  have denotes : Denotes view.store .light path .null :=
    .shown (Shows.own rfl) (Means.scalar rfl)
  have fields : view.plainFields .light path =
      .ok (("$value", .null) :: ((metadata.find? path).map Dtcg.metadataFields).getD []) := by
    rw [View.plainFields, visible?_eq_some_iff.mpr (Shows.own rfl),
      plainFrom_nil_eq_ok_iff.mpr denotes]
    rfl
  rcases (@document_settles view proper .light Table.empty (Cache.sound_empty _)).2 with
    made | ⟨impossible, _⟩
  · rw [made, View.plainDocument]
    change view.plainTokens .light [] [path] = _
    rw [View.plainTokens, fields]
    rfl
  · exact impossible.elim

end Noted

open Noted in
/-- Metadata that is written alone shows in a document, and the revision does not tell. -/
theorem revision_overlooks_metadata :
    let later := (workspace.afterAll [.tokens (.setMetadata "a" record)]).system
    workspace.system.Reachable ∧ later.store.revision = workspace.system.store.revision ∧
      later.store.metadata.find? path ≠ workspace.system.store.metadata.find? path ∧
      ((later.view.document .light).run later.cache).1 ≠
        ((workspace.system.view.document .light).run workspace.system.cache).1 := by
  intro later
  have made : later = { workspace.system with store := store.setMetadata path record } :=
    after_setMetadata
  rw [made]
  refine ⟨TokenSystem.reachable_ofStore store, rfl, nofun, fun same => ?_⟩
  have noted := document (store.setMetadata path record).metadata
  have clash := Except.ok.inj (noted.symm.trans (same.trans (document store.metadata)))
  have fields : [("a", Json.object [("$value", .null), ("$description", .text "x")])] =
      [("a", Json.object [("$value", .null)])] := clash
  simp at fields

end DesignTokens
