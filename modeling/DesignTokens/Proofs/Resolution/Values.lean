import DesignTokens.Dtcg.Document
import DesignTokens.Proofs.Resolution.Cached
import DesignTokens.Proofs.Resolution.Dependency
import DesignTokens.Resolution.Expression
import DesignTokens.Stylesheet.Components
import DesignTokens.Stylesheet.Utilities
import DesignTokens.Stylesheet.Variables

/-!
What is made from a store is made from its values, and documents from its metadata as well:
stores with the same values are resolved and written alike, whatever their revisions are.
-/

namespace DesignTokens

variable {first second : Store} {theme : Theme}

theorem Walk.ext {α : Type} {walk other : Walk α}
    (same : ∀ cache : Cache, walk.run cache = other.run cache) : walk = other :=
  funext same

theorem visible?_of_values (same : first.values = second.values) :
    first.visible? = second.visible? := by
  funext path theme
  simp only [Store.visible?, Store.get?, same]

theorem target?_of_values (same : first.values = second.values) :
    first.target? = second.target? := by
  funext theme text
  simp only [Store.target?, visible?_of_values same]

theorem items_of_values (same : first.values = second.values) : first.items = second.items := by
  funext theme
  simp only [Store.items, same]

theorem paths_of_values (same : first.values = second.values) : first.paths = second.paths := by
  funext theme
  simp only [Store.paths, items_of_values same]

theorem visiblePaths_of_values (same : first.values = second.values) :
    first.visiblePaths = second.visiblePaths := by
  funext theme
  simp only [Store.visiblePaths, paths_of_values same]

theorem resolveFrom_of_values (same : first.values = second.values) (allowance : Allowance)
    (trail : List Path) (current : Path) :
    resolveFrom first theme allowance trail current =
      resolveFrom second theme allowance trail current := by
  induction trail, current using plainFrom.induct first theme generalizing allowance with
  | case1 trail current visited =>
      refine Walk.ext fun cache => ?_
      cases hit : cache.find? (current, theme) with
      | some value => rw [resolveFrom_remembered hit, resolveFrom_remembered hit]
      | none => rw [resolveFrom_visited hit visited, resolveFrom_visited hit visited]
  | case2 trail current fresh missing =>
      refine Walk.ext fun cache => ?_
      cases hit : cache.find? (current, theme) with
      | some value => rw [resolveFrom_remembered hit, resolveFrom_remembered hit]
      | none =>
          rw [resolveFrom_missing hit fresh missing,
            resolveFrom_missing hit fresh (visible?_of_values same ▸ missing)]
  | case3 trail current fresh raw shown ih =>
      refine Walk.ext fun cache => ?_
      cases hit : cache.find? (current, theme) with
      | some value => rw [resolveFrom_remembered hit, resolveFrom_remembered hit]
      | none =>
          rw [resolveFrom_shown hit fresh shown,
            resolveFrom_shown hit fresh (visible?_of_values same ▸ shown)]
          have walked : (fun inner => resolveFrom first theme inner (current :: trail)) =
              fun inner => resolveFrom second theme inner (current :: trail) := by
            funext inner target
            exact ih target inner
          have read : readThrough first theme = readThrough second theme := by
            funext allowance trail current valueOf text transform
            simp only [readThrough, target?_of_values same]
          rw [walked, read]

theorem resolve_of_values (same : first.values = second.values) :
    resolve first = resolve second := by
  funext theme allowance path
  exact resolveFrom_of_values same allowance [] path

theorem attempt_of_values (same : first.values = second.values) :
    attempt first = attempt second := by
  funext theme allowance path
  simp only [attempt, resolve_of_values same]

theorem resolve?_of_values (same : first.values = second.values) :
    resolve? first = resolve? second := by
  funext theme allowance path
  simp only [resolve?, resolve_of_values same]

theorem resolveAll_of_values (same : first.values = second.values) :
    resolveAll first = resolveAll second := by
  funext theme allowance results paths
  induction paths generalizing results with
  | nil => rfl
  | cons raw rest ih => simp only [resolveAll, attempt_of_values same, ih]

theorem failures_of_values (same : first.values = second.values) :
    failures first = failures second := by
  funext theme allowance paths
  induction paths with
  | nil => rfl
  | cons path rest ih => simp only [failures, attempt_of_values same, ih]

theorem validate_of_values (same : first.values = second.values) :
    validate first = validate second := by
  funext allowance themes
  induction themes with
  | nil => rfl
  | cons theme rest ih =>
      simp only [validate, failures_of_values same, visiblePaths_of_values same, ih]

theorem evaluate_of_values (same : first.values = second.values) :
    evaluate first = evaluate second := by
  funext theme allowance text
  simp only [evaluate, operandValue, resolve_of_values same]

namespace View

structure Twin (view other : View) : Prop where
  values : view.store.values = other.store.values
  config : view.config = other.config
  allowance : view.allowance = other.allowance

variable {view other : View}

theorem tokenText_of_values (alike : view.Twin other) : view.tokenText = other.tokenText := by
  funext theme path
  simp only [tokenText, propertyOf, attempt_of_values alike.values, alike.config, alike.allowance]

theorem sections_of_values (alike : view.Twin other) : view.sections = other.sections := by
  funext theme paths
  unfold sections
  congr 1
  funext category
  simp only [sectionOf, propertyOf, tokenText_of_values alike, alike.config]

theorem publicPaths_of_values (alike : view.Twin other) :
    view.publicPaths = other.publicPaths := by
  funext theme
  simp only [publicPaths, visiblePaths_of_values alike.values]

theorem darkPaths_of_values (alike : view.Twin other) : view.darkPaths = other.darkPaths := by
  simp only [darkPaths, paths_of_values alike.values, alike.config]

theorem darkText_of_values (alike : view.Twin other) : view.darkText = other.darkText := by
  funext text sections
  simp only [darkText, darkPaths_of_values alike, alike.config]

theorem propertyList_of_values (alike : view.Twin other) :
    view.propertyList = other.propertyList := by
  funext theme
  simp only [propertyList, sections_of_values alike, publicPaths_of_values alike, alike.config]

theorem rootBlock_of_values (alike : view.Twin other) : view.rootBlock = other.rootBlock := by
  funext theme
  simp only [rootBlock, sections_of_values alike, publicPaths_of_values alike, alike.config]

theorem darkMediaBlock_of_values (alike : view.Twin other) :
    view.darkMediaBlock = other.darkMediaBlock := by
  simp only [darkMediaBlock, sections_of_values alike, darkPaths_of_values alike,
    darkText_of_values alike, alike.config]

theorem exportedVariables_of_values (alike : view.Twin other) :
    view.exportedVariables = other.exportedVariables := by
  funext theme
  simp only [exportedVariables, sections_of_values alike, publicPaths_of_values alike,
    darkPaths_of_values alike, darkText_of_values alike, alike.config]

theorem themeSheet_of_values (alike : view.Twin other) : view.themeSheet = other.themeSheet := by
  funext theme
  simp only [themeSheet, sections_of_values alike, publicPaths_of_values alike,
    darkPaths_of_values alike, darkText_of_values alike, alike.config]

theorem componentSheet_of_values (alike : view.Twin other) :
    view.componentSheet = other.componentSheet := by
  funext component theme
  simp only [componentSheet, componentRules, componentSlots, tokenText_of_values alike,
    visiblePaths_of_values alike.values, alike.config]

theorem utilitySheet_of_values (alike : view.Twin other) :
    view.utilitySheet = other.utilitySheet := by
  funext theme
  simp only [utilitySheet, utilityRules, namespaceValues, View.resolve,
    resolve_of_values alike.values, visiblePaths_of_values alike.values, alike.config,
    alike.allowance]

theorem document_of_values (alike : view.Twin other)
    (metadata : view.store.metadata = other.store.metadata) : view.document = other.document := by
  have fields : view.tokenFields = other.tokenFields := by
    funext theme path
    simp only [tokenFields, visible?_of_values alike.values, resolve?_of_values alike.values,
      alike.allowance, metadata]
  have placed : view.placeTokens = other.placeTokens := by
    funext theme members paths
    induction paths generalizing members with
    | nil => rfl
    | cons path rest ih => simp only [placeTokens, fields, ih]
  funext theme
  simp only [document, placed, publicPaths_of_values alike]

end View

end DesignTokens
