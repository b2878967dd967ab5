import DesignTokens.Proofs.Resolution.Settled
import DesignTokens.Proofs.Resolution.Values
import DesignTokens.Proofs.Stylesheet.Token
import DesignTokens.Stylesheet.Components
import DesignTokens.Stylesheet.Utilities
import DesignTokens.Stylesheet.Variables

/-!
Style sheets without a memory.  What is written over a sound memory is what the rules say that
the tokens denote, unless references nest too deep.
-/

namespace DesignTokens

open Stylesheet

inductive Sheet where
  | propertyList
  | rootBlock
  | darkMediaBlock
  | exportedVariables
  | themeSheet
  | component (name : String)
  | utilities

namespace View

def Deep (view : View) : Prop :=
  ∃ theme path, ¬ Fits view.store theme path view.allowance

def ShowsDeep (view : View) : Prop :=
  ∃ theme, ∃ path ∈ view.publicPaths theme, ¬ Fits view.store theme path view.allowance

theorem ShowsDeep.deep {view : View} : view.ShowsDeep → view.Deep
  | ⟨theme, path, _, deep⟩ => ⟨theme, path, deep⟩

def plainText (view : View) (theme : Theme) (path : Path) : Except Error String :=
  view.textOf path (plainFrom view.store theme [] path)

def plainSections (view : View) (theme : Theme) (paths : List Path) :
    Except Error (List Section) :=
  Category.all.mapM fun category => do
    let declarations ← (paths.filter (·.category = category)).mapM fun path => do
      return Declaration.mk (view.propertyOf path) (← view.plainText theme path)
    return ⟨category, declarations⟩

def plainComponent (view : View) (component : String) (theme : Theme) :
    Except Error (List Rule) := do
  let placed ← (view.componentSlots component theme).mapM fun (path, slot) => do
    let text ← view.plainText theme path
    return (selector slot.component slot.variant slot.state,
      Declaration.mk (propertyName slot.property) text)
  return groupRules placed

def plainValues (view : View) (head : String) (theme : Theme) :
    Except Error (List (Path × Value)) :=
  ((view.store.visiblePaths theme).filter fun path => path.head == head && 1 < path.size).mapM
    fun path => do return (path, ← plainFrom view.store theme [] path)

def plainUtilities (view : View) (theme : Theme) : Except Error (List Rule) := do
  let colors ← view.plainValues "color" theme
  let spacing ← view.plainValues "spacing" theme
  let typography ← view.plainValues "typography" theme
  return colors.flatMap (fun (path, value) => colorRules path value) ++
    spacing.flatMap (fun (path, value) => spacingRules path value) ++
    typography.flatMap (fun (path, value) => fontSizeRules path value)

end View

namespace Sheet

def write (view : View) (theme : Theme) : Sheet → Walk String
  | propertyList => view.propertyList theme
  | rootBlock => view.rootBlock theme
  | darkMediaBlock => view.darkMediaBlock
  | exportedVariables => view.exportedVariables theme
  | themeSheet => view.themeSheet theme
  | component name => view.componentSheet name theme
  | utilities => view.utilitySheet theme

def plain (view : View) (theme : Theme) : Sheet → Except Error String
  | propertyList => do
      let sections ← view.plainSections theme (view.publicPaths theme)
      return finished view.config (lines (sectionLines view.config 0 sections))
  | rootBlock => do
      let sections ← view.plainSections theme (view.publicPaths theme)
      return finished view.config (rootText view.config sections)
  | darkMediaBlock => do
      let sections ← view.plainSections .dark view.darkPaths
      return finished view.config (view.darkText darkMediaText sections)
  | exportedVariables => do
      let sections ← view.plainSections theme (view.publicPaths theme)
      let dark ← view.plainSections .dark view.darkPaths
      return finished view.config <| blocksText [header, rootText view.config sections,
        view.darkText darkMediaText dark]
  | themeSheet => do
      let sections ← view.plainSections theme (view.publicPaths theme)
      let preferred ← view.plainSections .dark view.darkPaths
      let chosen ← view.plainSections .dark view.darkPaths
      return finished view.config <| blocksText [header, rootText view.config sections,
        view.darkText darkMediaText preferred, view.darkText darkClassText chosen, transitionRule]
  | component name => do
      match ← view.plainComponent name theme with
      | [] => do
          let path ← (Path.ofComponent name []).mapError Error.badPath
          throw (.notFound path (.component name))
      | rules => return finished view.config (rulesText rules)
  | utilities => do
      let rules ← view.plainUtilities theme
      return finished view.config ("\n\n".intercalate (rules.map Rule.text ++ visibilityTexts))

end Sheet

namespace Path

variable {path : Path}

theorem not_isPrivate_of_head {head : String} (same : path.head = head)
    (shown : (head.toList.head? == some '_' || head == "internal" || head == "private") = false) :
    path.isPrivate = false := by
  rw [isPrivate, same]
  exact shown

theorem not_isPrivate_of_tier (named : path.tier ≠ .custom) : path.isPrivate = false := by
  cases found : tierHeads.lookup path.head with
  | none =>
      rw [tier, found] at named
      exact absurd rfl named
  | some tier =>
      obtain ⟨before, after, whole, _⟩ := List.lookup_eq_some_iff.mp found
      have listed : (path.head, tier) ∈ tierHeads := by simp [whole]
      have shown : ∀ entry ∈ tierHeads, (entry.1.toList.head? == some '_' ||
          entry.1 == "internal" || entry.1 == "private") = false := by
        simp only [tierHeads, List.forall_mem_cons]
        decide
      exact shown (path.head, tier) listed

theorem not_isPrivate_of_slot {slot : Slot} (placed : path.slot? = some slot) :
    path.isPrivate = false := by
  refine not_isPrivate_of_tier ?_
  intro custom
  rw [slot?, if_neg (by rw [custom]; decide)] at placed
  exact nomatch placed

end Path

namespace View

variable {view : View} {theme : Theme}

theorem mem_publicPaths_of_visible {path : Path} (visible : path ∈ view.store.visiblePaths theme)
    (shown : path.isPrivate = false) : path ∈ view.publicPaths theme :=
  List.mem_filter.mpr ⟨visible, by rw [shown]; rfl⟩

theorem mem_publicPaths_of_dark {path : Path} (listed : path ∈ view.darkPaths) :
    path ∈ view.publicPaths .dark := by
  unfold darkPaths at listed
  split at listed
  · exact listed
  · exact absurd listed List.not_mem_nil

theorem mem_publicPaths_of_slot {component : String} {path : Path} {slot : Slot}
    (listed : (path, slot) ∈ view.componentSlots component theme) :
    path ∈ view.publicPaths theme := by
  obtain ⟨other, visible, kept⟩ := List.mem_filterMap.mp listed
  split at kept
  · rename_i placed
    split at kept
    · obtain ⟨rfl, rfl⟩ := Prod.mk.inj (Option.some.inj kept)
      exact mem_publicPaths_of_visible visible (Path.not_isPrivate_of_slot placed)
    · exact nomatch kept
  · exact nomatch kept

theorem resolve_settles {path : Path} (shown : path ∈ view.publicPaths theme) :
    Settles view.store view.ShowsDeep (view.resolve theme path)
      (plainFrom view.store theme [] path) :=
  (DesignTokens.resolve_settles theme view.allowance path).mono fun deep =>
    ⟨theme, path, shown, deep⟩

theorem tokenText_settles {path : Path} (shown : path ∈ view.publicPaths theme) :
    Settles view.store view.ShowsDeep (view.tokenText theme path) (view.plainText theme path) := by
  intro cache sound
  obtain ⟨kept, ends⟩ := resolve_settles shown cache sound
  rw [run_tokenText]
  refine ⟨kept, ?_⟩
  rcases ends with same | ⟨deep, refused, failed⟩
  · exact Or.inl (congrArg (view.textOf path) same)
  · exact Or.inr ⟨deep, refused, congrArg (view.textOf path) failed⟩

theorem sections_settles {paths : List Path} (shown : ∀ path ∈ paths, path ∈ view.publicPaths theme) :
    Settles view.store view.ShowsDeep (view.sections theme paths)
      (view.plainSections theme paths) := by
  refine Settles.mapM fun category _ => ?_
  refine Settles.bind (Settles.mapM fun path member => ?_) fun declarations _ => Settles.pure _
  have listed := shown path (List.mem_of_mem_filter member)
  exact (tokenText_settles listed).bind fun text _ => Settles.pure _

theorem componentRules_settles (component : String) :
    Settles view.store view.ShowsDeep (view.componentRules component theme)
      (view.plainComponent component theme) := by
  refine Settles.bind (Settles.mapM fun slot member => ?_) fun placed _ => Settles.pure _
  exact (tokenText_settles (mem_publicPaths_of_slot member)).bind fun text _ => Settles.pure _

theorem namespaceValues_settles {head : String}
    (shown : ∀ path : Path, path.head = head → path.isPrivate = false) :
    Settles view.store view.ShowsDeep (view.namespaceValues head theme)
      (view.plainValues head theme) := by
  refine Settles.mapM fun path member => ?_
  obtain ⟨visible, kept⟩ := List.mem_filter.mp member
  rw [Bool.and_eq_true, beq_iff_eq] at kept
  have listed := mem_publicPaths_of_visible visible (shown path kept.1)
  exact (resolve_settles listed).bind fun value _ => Settles.pure _

theorem utilityRules_settles :
    Settles view.store view.ShowsDeep (view.utilityRules theme) (view.plainUtilities theme) := by
  refine (namespaceValues_settles fun _ same => ?_).bind fun colors _ => ?_
  · exact Path.not_isPrivate_of_head same (by decide)
  refine (namespaceValues_settles fun _ same => ?_).bind fun spacing _ => ?_
  · exact Path.not_isPrivate_of_head same (by decide)
  refine (namespaceValues_settles fun _ same => ?_).bind fun typography _ => Settles.pure _
  exact Path.not_isPrivate_of_head same (by decide)

end View

/-- A sheet is written as the rules say, whatever is remembered, unless something that it may
show nests too deep. -/
theorem Sheet.settles_shown (view : View) (theme : Theme) (sheet : Sheet) :
    Settles view.store view.ShowsDeep (sheet.write view theme) (sheet.plain view theme) := by
  have sections := @View.sections_settles view theme (view.publicPaths theme) fun _ => id
  have dark := @View.sections_settles view .dark view.darkPaths
    fun _ => View.mem_publicPaths_of_dark
  cases sheet with
  | propertyList => exact sections.bind fun _ _ => Settles.pure _
  | rootBlock => exact sections.bind fun _ _ => Settles.pure _
  | darkMediaBlock => exact dark.bind fun _ _ => Settles.pure _
  | exportedVariables =>
      exact sections.bind fun _ _ => dark.bind fun _ _ => Settles.pure _
  | themeSheet =>
      refine sections.bind fun _ _ => ?_
      exact dark.bind fun _ _ => dark.bind fun _ _ => Settles.pure _
  | component name =>
      refine (View.componentRules_settles name).bind fun rules _ => ?_
      cases rules with
      | nil => exact (Settles.ofExcept _).bind fun path _ => Settles.throw _
      | cons rule rest => exact Settles.pure _
  | utilities => exact View.utilityRules_settles.bind fun _ _ => Settles.pure _

theorem Sheet.settles (view : View) (theme : Theme) (sheet : Sheet) :
    Settles view.store view.Deep (sheet.write view theme) (sheet.plain view theme) :=
  (sheet.settles_shown view theme).mono View.ShowsDeep.deep

theorem Sheet.write_of_values {view other : View} (alike : view.Twin other) (theme : Theme)
    (sheet : Sheet) : sheet.write view theme = sheet.write other theme := by
  cases sheet with
  | propertyList => exact congrFun (View.propertyList_of_values alike) theme
  | rootBlock => exact congrFun (View.rootBlock_of_values alike) theme
  | darkMediaBlock => exact View.darkMediaBlock_of_values alike
  | exportedVariables => exact congrFun (View.exportedVariables_of_values alike) theme
  | themeSheet => exact congrFun (View.themeSheet_of_values alike) theme
  | component name => exact congrFun (congrFun (View.componentSheet_of_values alike) name) theme
  | utilities => exact congrFun (View.utilitySheet_of_values alike) theme

end DesignTokens
