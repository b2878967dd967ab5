import DesignTokens.Proofs.Resolution.Concrete
import DesignTokens.Proofs.Stylesheet.Components
import DesignTokens.Proofs.Stylesheet.Settled
import DesignTokens.Proofs.Stylesheet.Sheet

/-!
The sheets of a store whose tokens all resolve: each is made, and from the texts of what the
tokens resolve to alone.
-/

namespace DesignTokens

open Stylesheet

namespace Value

mutual

theorem exists_cssWith {reference : String → Except Error String}
    (total : ∀ target, ∃ text, reference target = .ok text) :
    ∀ value : Value, ∃ text, value.cssWith reference = .ok text
  | .string _ | .number _ | .boolean _ | .null | .color _ | .dimension .. | .shadow _
  | .object _ => by simp only [cssWith, css]; exact ⟨_, rfl⟩
  | .typography style => by
      simp only [cssWith, css]
      cases style.fontFamily <;> exact ⟨_, rfl⟩
  | .alias target => by simpa only [cssWith] using total target
  | .reference target _ => by simpa only [cssWith] using total target
  | .array items => by
      obtain ⟨texts, written⟩ := exists_cssItemsWith total items
      rw [cssWith, written]
      exact ⟨_, rfl⟩

theorem exists_cssItemsWith {reference : String → Except Error String}
    (total : ∀ target, ∃ text, reference target = .ok text) :
    ∀ items : List Value, ∃ texts, cssItemsWith reference items = .ok texts
  | [] => ⟨[], rfl⟩
  | item :: items => by
      obtain ⟨text, first⟩ := exists_cssWith total item
      obtain ⟨texts, rest⟩ := exists_cssItemsWith total items
      rw [cssItemsWith, first, rest]
      exact ⟨_, rfl⟩

end

/-- Only a reference can fail to be written, and a concrete value holds none. -/
theorem Concrete.exists_css {value : Value} (concrete : value.Concrete) (lead : String) :
    ∃ text, value.css lead = .ok text := by
  rw [concrete.css_eq lead fun target => .ok target]
  exact exists_cssWith (fun target => ⟨target, rfl⟩) value

end Value

theorem mapM_eq_map {α β : Type} {f : α → Except Error β} {g : α → β} {values : List α}
    (each : ∀ value ∈ values, f value = .ok (g value)) : values.mapM f = .ok (values.map g) := by
  rw [mapM_eq_ok_iff, List.forall₂_map_right_iff, List.forall₂_same]
  exact each

namespace View

structure Legend (view : View) where
  value : Theme → Path → Value
  text : Theme → Path → String
  denotes : ∀ theme, ∀ path ∈ view.store.visiblePaths theme,
    Denotes view.store theme path (value theme path)
  written : ∀ theme, ∀ path ∈ view.store.visiblePaths theme,
    (value theme path).css view.config.propertyPrefix = .ok (text theme path)

theorem exists_legend {view : View}
    (complete : ∀ theme, ∀ path ∈ view.store.visiblePaths theme,
      ∃ value, Denotes view.store theme path value) : Nonempty view.Legend := by
  have each : ∀ theme path, ∃ (value : Value) (text : String),
      path ∈ view.store.visiblePaths theme → Denotes view.store theme path value ∧
        value.css view.config.propertyPrefix = .ok text := by
    intro theme path
    by_cases known : path ∈ view.store.visiblePaths theme
    · obtain ⟨value, denotes⟩ := complete theme path known
      obtain ⟨text, written⟩ := denotes.concrete.exists_css view.config.propertyPrefix
      exact ⟨value, text, fun _ => ⟨denotes, written⟩⟩
    -- Nothing is ever written of a path that is not known.
    · exact ⟨.null, "", fun member => absurd member known⟩
  choose value text fits using each
  exact ⟨⟨value, text, fun theme path known => (fits theme path known).1,
    fun theme path known => (fits theme path known).2⟩⟩

namespace Legend

variable {view : View} (legend : view.Legend) (theme : Theme)

def sections : List Section :=
  view.listing (legend.text theme) (view.publicPaths theme)

def darkSections : List Section :=
  view.listing (legend.text .dark) view.darkPaths

def componentRules (component : String) : List Rule :=
  groupRules <| (view.componentSlots component theme).map fun (path, slot) =>
    (selector slot.component slot.variant slot.state,
      ⟨propertyName slot.property, legend.text theme path⟩)

def namespaceValues (head : String) : List (Path × Value) :=
  ((view.store.visiblePaths theme).filter fun path => path.head == head && 1 < path.size).map
    fun path => (path, legend.value theme path)

def utilityRules : List Rule :=
  let colors := legend.namespaceValues theme "color"
  let spacing := legend.namespaceValues theme "spacing"
  let typography := legend.namespaceValues theme "typography"
  colors.flatMap (fun (path, value) => colorRules path value) ++
    spacing.flatMap (fun (path, value) => spacingRules path value) ++
    typography.flatMap (fun (path, value) => fontSizeRules path value)

end Legend

end View

namespace Sheet

def full {view : View} (legend : view.Legend) (theme : Theme) : Sheet → String
  | propertyList => finished view.config <|
      lines (sectionLines view.config 0 (legend.sections theme))
  | rootBlock => finished view.config (rootText view.config (legend.sections theme))
  | darkMediaBlock => finished view.config (view.darkText darkMediaText legend.darkSections)
  | exportedVariables => finished view.config <| blocksText [header,
      rootText view.config (legend.sections theme), view.darkText darkMediaText legend.darkSections]
  | themeSheet => finished view.config <| blocksText [header,
      rootText view.config (legend.sections theme), view.darkText darkMediaText legend.darkSections,
      view.darkText darkClassText legend.darkSections, transitionRule]
  | component name => finished view.config (rulesText (legend.componentRules theme name))
  | utilities => finished view.config <|
      "\n\n".intercalate ((legend.utilityRules theme).map Rule.text ++ visibilityTexts)

end Sheet

namespace View

variable {view : View} (legend : view.Legend) {theme : Theme}

theorem plainValues_eq (head : String) :
    view.plainValues head theme = .ok (legend.namespaceValues theme head) := by
  refine mapM_eq_map fun path member => ?_
  have known := List.mem_of_mem_filter member
  rw [plainFrom_nil_eq_ok_iff.mpr (legend.denotes theme path known)]
  rfl

theorem plainUtilities_eq :
    view.plainUtilities theme = .ok (legend.utilityRules theme) := by
  rw [plainUtilities, plainValues_eq legend, plainValues_eq legend, plainValues_eq legend]
  rfl

end View

namespace Stylesheet

variable {path : Path} {value : Value} {rule : Rule} {declaration : Declaration}

end Stylesheet

namespace View.Legend

variable {view : View} (legend : view.Legend) {theme : Theme}

end View.Legend

end DesignTokens
