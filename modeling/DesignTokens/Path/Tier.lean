import DesignTokens.Path.Basic

/-!
What the first segment of a path says about a token: its tier, the section of a
style sheet it belongs to, and whether it is private.
-/

namespace DesignTokens

inductive Tier where
  | global
  | alias
  | component
  | custom
deriving DecidableEq, Repr

def Tier.name : Tier → String
  | .global => "global"
  | .alias => "alias"
  | .component => "component"
  | .custom => "custom"

inductive Category where
  | colors
  | spacing
  | typography
  | other
deriving DecidableEq, Repr

def Category.all : List Category := [.colors, .spacing, .typography, .other]

def Category.name : Category → String
  | .colors => "colors"
  | .spacing => "spacing"
  | .typography => "typography"
  | .other => "other"

def Category.title : Category → String
  | .colors => "Colors"
  | .spacing => "Spacing"
  | .typography => "Typography"
  | .other => "Other"

theorem Category.mem_all (category : Category) : category ∈ all := by
  cases category <;> simp [all]

def tierHeads : List (String × Tier) := [
  ("color_palette", .global), ("font_system", .global), ("spacing_system", .global),
  ("border_system", .global), ("shadow_system", .global), ("motion_system", .global),
  ("sizing_system", .global), ("semantic_colors", .alias), ("semantic_typography", .alias),
  ("semantic_spacing", .alias), ("semantic_sizing", .alias), ("component", .component)]

def categoryHeads : List (String × Category) := [
  ("color", .colors), ("color_palette", .colors), ("semantic_colors", .colors),
  ("spacing", .spacing), ("spacing_system", .spacing), ("semantic_spacing", .spacing),
  ("typography", .typography), ("font_system", .typography),
  ("semantic_typography", .typography)]

namespace Path

def tier (path : Path) : Tier :=
  (tierHeads.lookup path.head).getD .custom

def category (path : Path) : Category :=
  (categoryHeads.lookup path.head).getD .other

def isPrivate (path : Path) : Bool :=
  path.head.toList.head? == some '_' || path.head == "internal" || path.head == "private"

end Path

end DesignTokens
