import DesignTokens.Proofs.Resolution.Cycles
import DesignTokens.Proofs.Resolution.Cached
import DesignTokens.Proofs.Resolution.Settled
import DesignTokens.Proofs.Resolution.Reference
import DesignTokens.Stylesheet.Basic

/-!
The tokens that a style sheet shows, and the text of each.  What is remembered has no part in it: it is the
text of what the path denotes, or stands for the first path on the way that has no value.
-/

namespace DesignTokens

theorem mem_publicPaths_iff {view : View} {theme : Theme} {path : Path} :
    path ∈ view.publicPaths theme ↔
      (∃ raw, Shows view.store theme path raw) ∧ path.isPrivate = false := by
  rw [View.publicPaths, List.mem_filter, Store.mem_visiblePaths_iff]
  simp

theorem nodup_publicPaths (view : View) (theme : Theme) : (view.publicPaths theme).Nodup :=
  (Store.nodup_visiblePaths view.store theme).filter _

theorem denotes_of_visible? {store : Store} {theme : Theme} {path : Path} {value : Value}
    (shown : store.visible? path theme = some value) (simple : value.isScalar = true) :
    Denotes store theme path value :=
  .shown (visible?_eq_some_iff.mp shown) (.scalar simple)

def Dangles (store : Store) (theme : Theme) (path missing : Path) : Prop :=
  ∃ absence, plainFrom store theme [] path = .error (.notFound missing absence)

namespace View

def variableOf (view : View) (path : Path) : String :=
  "var(" ++ view.propertyOf path ++ ")"

inductive Renders (view : View) (theme : Theme) (path : Path) : String → Prop
  | resolved {value text} : Denotes view.store theme path value →
      value.css view.config.propertyPrefix = .ok text → Renders view theme path text
  | dangling {missing} : Dangles view.store theme path missing → missing ≠ path →
      Renders view theme path (view.variableOf missing)

variable {view : View} {theme : Theme} {path : Path}

theorem Renders.unique {text other : String} (first : view.Renders theme path text)
    (second : view.Renders theme path other) : text = other := by
  cases first with
  | resolved denotes written =>
      cases second with
      | resolved again rewritten =>
          rw [denotes.unique again] at written
          exact Except.ok.inj (written.symm.trans rewritten)
      | dangling dangles _ =>
          rcases dangles with ⟨absence, failed⟩
          rw [plainFrom_nil_eq_ok_iff.mpr denotes] at failed
          cases failed
  | dangling dangles _ =>
      rcases dangles with ⟨absence, failed⟩
      cases second with
      | resolved denotes _ =>
          rw [plainFrom_nil_eq_ok_iff.mpr denotes] at failed
          cases failed
      | dangling again _ =>
          rcases again with ⟨other, refailed⟩
          rw [failed] at refailed
          rw [(Error.notFound.inj (Except.error.inj refailed)).1]

def textOf (view : View) (path : Path) : Except Error Value → Except Error String
  | .ok value => value.css view.config.propertyPrefix
  | .error (.notFound missing absence) =>
      if missing = path then .error (.notFound missing absence) else .ok (view.variableOf missing)
  | .error error => .error error

theorem run_tokenText (cache : Cache) :
    (view.tokenText theme path).run cache =
      (view.textOf path (outcome view.store theme view.allowance cache path),
        ((DesignTokens.resolve view.store theme view.allowance path).run cache).2) := by
  have lifted : (ExceptT.lift (attempt view.store theme view.allowance path) :
      Walk (Except Error Value)).run cache =
        (.ok (outcome view.store theme view.allowance cache path),
          ((DesignTokens.resolve view.store theme view.allowance path).run cache).2) := rfl
  rw [tokenText, run_bind_ok lifted]
  rcases outcome view.store theme view.allowance cache path with error | value
  · cases error with
    | notFound missing absence =>
        by_cases same : missing = path
        · simp only [textOf, same, if_true]
          rfl
        · simp only [textOf, same, if_false]
          rfl
    | _ => rfl
  · rfl

theorem renders_of_textOf {cache : Cache} (sound : cache.Sound view.store) {text : String}
    (written : view.textOf path (outcome view.store theme view.allowance cache path) = .ok text) :
    view.Renders theme path text := by
  cases found : outcome view.store theme view.allowance cache path with
  | ok value =>
      rw [found] at written
      exact Renders.resolved (denotes_of_outcome sound found) written
  | error error =>
      rw [found] at written
      cases error with
      | notFound missing absence =>
          by_cases same : missing = path
          · simp [textOf, same] at written
          · simp only [textOf, same, if_false, Except.ok.injEq] at written
            rw [← written]
            exact Renders.dangling ⟨absence, plain_of_outcome_error sound found (by simp)⟩ same
      | _ => cases written

theorem renders_of_tokenText {cache after : Cache} (sound : cache.Sound view.store) {text : String}
    (run : (view.tokenText theme path).run cache = (.ok text, after)) :
    view.Renders theme path text ∧ after.Sound view.store := by
  rw [run_tokenText] at run
  obtain ⟨written, rfl⟩ := Prod.mk.inj run
  exact ⟨renders_of_textOf sound written, Cache.Sound.resolve sound path⟩

theorem renders_of_shown {value : Value} {text : String}
    (shown : view.store.visible? path theme = some value) (simple : value.isScalar = true)
    (written : value.css view.config.propertyPrefix = .ok text) :
    Fits view.store theme path view.allowance ∧ view.Renders theme path text := by
  have denotes := denotes_of_visible? shown simple
  exact ⟨denotes.fits_of_isScalar simple view.allowance, .resolved denotes written⟩

theorem Renders.exists_run {cache : Cache} (sound : cache.Sound view.store) {text : String}
    (renders : view.Renders theme path text) (fits : Fits view.store theme path view.allowance) :
    ∃ after, (view.tokenText theme path).run cache = (.ok text, after) ∧
      after.Sound view.store := by
  refine ⟨((DesignTokens.resolve view.store theme view.allowance path).run cache).2, ?_,
    Cache.Sound.resolve sound path⟩
  rw [run_tokenText, outcome_eq_plain sound fits]
  cases renders with
  | resolved denotes written => rw [plainFrom_nil_eq_ok_iff.mpr denotes, textOf, written]
  | dangling dangles elsewhere =>
      rcases dangles with ⟨absence, failed⟩
      rw [failed, textOf, if_neg elsewhere]

/-- Many tokens are written as the text of each, if each path has one text only. -/
theorem run_mapM_tokenText {ε α : Type} {pathOf : ε → Path} {write : ε → String → α}
    {text : Path → String}
    (only : ∀ path other, view.Renders theme path other → other = text path)
    {entries : List ε} {made : List α} {cache after : Cache} (sound : cache.Sound view.store)
    (run : (entries.mapM fun entry => do
        return write entry (← view.tokenText theme (pathOf entry)) : Walk (List α)).run cache =
      (.ok made, after)) :
    after.Sound view.store ∧
      (∀ entry ∈ entries, view.Renders theme (pathOf entry) (text (pathOf entry))) ∧
      made = entries.map fun entry => write entry (text (pathOf entry)) := by
  have each : ∀ {entry : ε} {made : α} {state after : Cache}, state.Sound view.store →
      (do return write entry (← view.tokenText theme (pathOf entry)) : Walk α).run state =
        (.ok made, after) →
      after.Sound view.store ∧ view.Renders theme (pathOf entry) (text (pathOf entry)) ∧
        made = write entry (text (pathOf entry)) := by
    intro entry made state after sound run
    rcases run_bind_eq_ok run with ⟨other, middle, first, last⟩
    obtain ⟨same, rfl⟩ := Prod.mk.inj last
    obtain rfl := Except.ok.inj same
    rcases renders_of_tokenText sound first with ⟨renders, kept⟩
    obtain rfl := only (pathOf entry) other renders
    exact ⟨kept, renders, rfl⟩
  exact run_mapM_eq_ok each sound run

theorem exists_run_mapM_tokenText {ε α : Type} {pathOf : ε → Path} {write : ε → String → α}
    {entries : List ε} {cache : Cache} (sound : cache.Sound view.store)
    (each : ∀ entry ∈ entries, Fits view.store theme (pathOf entry) view.allowance ∧
      ∃ text, view.Renders theme (pathOf entry) text) :
    ∃ made after, (entries.mapM fun entry => do
        return write entry (← view.tokenText theme (pathOf entry)) : Walk (List α)).run cache =
      (.ok made, after) ∧ after.Sound view.store := by
  refine exists_run_mapM_eq_ok (fun entry member state sound => ?_) sound
  rcases each entry member with ⟨fits, text, renders⟩
  rcases renders.exists_run sound fits with ⟨after, run, kept⟩
  refine ⟨write entry text, after, ?_, kept⟩
  rw [run_bind_ok run]
  rfl

end View

end DesignTokens
