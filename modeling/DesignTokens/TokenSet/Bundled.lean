import DesignTokens.TokenSet.Basic

/-!
The bundled tokens: raw decisions first, then names for them, then the parts of
components, and last the short names that utility classes are made from.
-/

namespace DesignTokens

namespace TokenSet

namespace Bundled

def group (entries : List (String × Data)) : Data :=
  .mapping (entries.map fun (key, data) => (.text key, data))

def link (target : String) : Data :=
  .text ("\x7b" ++ target ++ "\x7d")

def texts (entries : List (String × String)) : Data :=
  group (entries.map fun (key, text) => (key, .text text))

def links (entries : List (String × String)) : Data :=
  group (entries.map fun (key, target) => (key, link target))

def derived (target change : String) (factor : Float) : Data :=
  group [("$ref", .text target), ("transform", group [(change, .number factor)])]

def shadow (offsetX offsetY blur spread color : String) : Data :=
  group [("$shadow", texts [
    ("offset_x", offsetX), ("offset_y", offsetY), ("blur", blur), ("spread", spread),
    ("color", color)])]

def textStyle (family size weight lineHeight : String) : Data :=
  group [("$typography", texts [
    ("font_family", family), ("font_size", size), ("font_weight", weight),
    ("line_height", lineHeight)])]

def colorPalette : Data := group [
  ("blue", texts [
    ("1", "#e6f7ff"), ("2", "#bae7ff"), ("3", "#91d5ff"), ("4", "#69c0ff"), ("5", "#40a9ff"),
    ("6", "#1890ff"), ("7", "#096dd9"), ("8", "#0050b3"), ("9", "#003a8c")]),
  ("green", texts [
    ("1", "#f6ffed"), ("5", "#73d13d"), ("6", "#52c41a"), ("7", "#389e0d")]),
  ("gold", texts [
    ("1", "#fffbe6"), ("5", "#ffc53d"), ("6", "#faad14"), ("7", "#d48806")]),
  ("red", texts [
    ("1", "#fff1f0"), ("5", "#ff4d4f"), ("6", "#f5222d"), ("7", "#cf1322")]),
  ("gray", texts [
    ("1", "#ffffff"), ("2", "#fafafa"), ("3", "#f5f5f5"), ("4", "#f0f0f0"), ("5", "#d9d9d9"),
    ("6", "#bfbfbf"), ("7", "#8c8c8c"), ("8", "#595959"), ("9", "#434343"), ("10", "#262626"),
    ("11", "#1f1f1f"), ("12", "#141414"), ("13", "#000000")])]

def fontSystem : Data := group [
  ("family", texts [
    ("base", "-apple-system, BlinkMacSystemFont, 'Segoe UI', Roboto, 'Helvetica Neue', Arial, sans-serif"),
    ("code", "'SFMono-Regular', Consolas, 'Liberation Mono', Menlo, Courier, monospace")]),
  ("size", texts [
    ("xs", "12px"), ("sm", "14px"), ("base", "14px"), ("lg", "16px"), ("xl", "20px"),
    ("xxl", "24px"), ("h1", "38px"), ("h2", "30px"), ("h3", "24px")]),
  ("weight", group [
    ("light", .integer 300),
    ("normal", .integer 400),
    ("medium", .integer 500),
    ("semibold", .integer 600),
    ("bold", .integer 700)]),
  ("line_height", group [
    ("tight", .number 1.2),
    ("base", .number 1.5715),
    ("loose", .integer 2)])]

def spacingSystem : Data := texts [
  ("base", "4px"), ("xxs", "2px"), ("xs", "4px"), ("sm", "8px"), ("md", "16px"), ("lg", "24px"),
  ("xl", "32px"), ("xxl", "48px")]

def borderSystem : Data := group [
  ("width", texts [
    ("base", "1px"), ("thick", "2px")]),
  ("style", texts [
    ("base", "solid")]),
  ("radius", texts [
    ("none", "0px"), ("sm", "2px"), ("base", "6px"), ("lg", "8px"), ("round", "9999px")])]

def shadowSystem : Data := group [
  ("sm", shadow "0" "1px" "2px" "0" "rgba(0, 0, 0, 0.03)"),
  ("base", shadow "0" "6px" "16px" "0" "rgba(0, 0, 0, 0.08)"),
  ("lg", shadow "0" "9px" "28px" "8px" "rgba(0, 0, 0, 0.05)"),
  ("focus", shadow "0" "0" "0" "2px" "rgba(24, 144, 255, 0.2)")]

def motionSystem : Data := group [
  ("duration", texts [
    ("fast", "100ms"), ("base", "200ms"), ("slow", "300ms")]),
  ("easing", texts [
    ("base", "cubic-bezier(0.645, 0.045, 0.355, 1)"),
    ("out", "cubic-bezier(0.215, 0.61, 0.355, 1)"),
    ("in", "cubic-bezier(0.55, 0.055, 0.675, 0.19)")])]

def sizingSystem : Data := group [
  ("control", texts [
    ("sm", "24px"), ("base", "32px"), ("lg", "40px")]),
  ("icon", texts [
    ("sm", "12px"), ("base", "14px"), ("lg", "16px")])]

def semanticColors : Data := group [
  ("primary", link "color_palette.blue.6"),
  ("primary_hover", derived "color_palette.blue.6" "lighten" 0.1),
  ("primary_active", derived "color_palette.blue.6" "darken" 0.1),
  ("primary_bg", derived "color_palette.blue.6" "alpha" 0.1),
  ("success", link "color_palette.green.6"),
  ("warning", link "color_palette.gold.6"),
  ("error", link "color_palette.red.5"),
  ("info", link "color_palette.blue.6"),
  ("text", group [
    ("primary", .text "rgba(0, 0, 0, 0.88)"),
    ("secondary", .text "rgba(0, 0, 0, 0.65)"),
    ("disabled", .text "rgba(0, 0, 0, 0.25)"),
    ("inverse", link "color_palette.gray.1")]),
  ("background", links [
    ("base", "color_palette.gray.1"), ("container", "color_palette.gray.1"),
    ("layout", "color_palette.gray.3"), ("disabled", "color_palette.gray.3")]),
  ("border", links [
    ("base", "color_palette.gray.5"), ("split", "color_palette.gray.4")])]

def semanticTypography : Data := group [
  ("body", textStyle "-apple-system, BlinkMacSystemFont, 'Segoe UI', Roboto, sans-serif"
    "14px" "400" "1.5715"),
  ("code", textStyle "'SFMono-Regular', Consolas, monospace" "13px" "400" "1.5"),
  ("heading", group [
    ("size", links [
      ("h1", "font_system.size.h1"), ("h2", "font_system.size.h2"),
      ("h3", "font_system.size.h3")]),
    ("weight", link "font_system.weight.semibold")])]

def semanticSpacing : Data := group [
  ("component", links [
    ("padding_x", "spacing_system.md"), ("padding_y", "spacing_system.xs"),
    ("gap", "spacing_system.sm")]),
  ("layout", links [
    ("gutter", "spacing_system.lg"), ("section", "spacing_system.xxl")])]

def semanticSizing : Data := links [
  ("control_height", "sizing_system.control.base"),
  ("control_height_sm", "sizing_system.control.sm"),
  ("control_height_lg", "sizing_system.control.lg")]

def button : Data := group [
  ("height", link "semantic_sizing.control_height"),
  ("padding-inline", link "semantic_spacing.component.padding_x"),
  ("border-radius", link "border_system.radius.base"),
  ("border-width", link "border_system.width.base"),
  ("font-size", link "font_system.size.base"),
  ("font-weight", link "font_system.weight.normal"),
  ("background", link "semantic_colors.background.container"),
  ("color", link "semantic_colors.text.primary"),
  ("border-color", link "semantic_colors.border.base"),
  ("transition-duration", link "motion_system.duration.base"),
  ("hover", links [
    ("color", "semantic_colors.primary_hover"),
    ("border-color", "semantic_colors.primary_hover")]),
  ("active", links [
    ("color", "semantic_colors.primary_active"),
    ("border-color", "semantic_colors.primary_active")]),
  ("focus", links [
    ("box-shadow", "shadow_system.focus")]),
  ("disabled", links [
    ("background", "semantic_colors.background.disabled"),
    ("color", "semantic_colors.text.disabled"), ("border-color", "semantic_colors.border.base")]),
  ("primary", group [
    ("background", link "semantic_colors.primary"),
    ("color", link "semantic_colors.text.inverse"),
    ("border-color", link "semantic_colors.primary"),
    ("hover", links [
      ("background", "semantic_colors.primary_hover"),
      ("border-color", "semantic_colors.primary_hover")]),
    ("active", links [
      ("background", "semantic_colors.primary_active"),
      ("border-color", "semantic_colors.primary_active")])]),
  ("secondary", links [
    ("background", "semantic_colors.background.container"),
    ("color", "semantic_colors.text.primary"), ("border-color", "semantic_colors.border.base")]),
  ("ghost", group [
    ("background", .text "transparent"),
    ("color", link "semantic_colors.text.inverse"),
    ("border-color", link "semantic_colors.text.inverse")]),
  ("link", group [
    ("background", .text "transparent"),
    ("color", link "semantic_colors.primary"),
    ("border-color", .text "transparent"),
    ("hover", links [
      ("color", "semantic_colors.primary_hover")])]),
  ("text", group [
    ("background", .text "transparent"),
    ("color", link "semantic_colors.text.primary"),
    ("border-color", .text "transparent"),
    ("hover", links [
      ("background", "semantic_colors.primary_bg")])])]

def input : Data := group [
  ("height", link "semantic_sizing.control_height"),
  ("padding-inline", link "spacing_system.sm"),
  ("border-radius", link "border_system.radius.base"),
  ("background", link "semantic_colors.background.container"),
  ("color", link "semantic_colors.text.primary"),
  ("border-color", link "semantic_colors.border.base"),
  ("hover", links [
    ("border-color", "semantic_colors.primary_hover")]),
  ("focus", links [
    ("border-color", "semantic_colors.primary"), ("box-shadow", "shadow_system.focus")]),
  ("disabled", links [
    ("background", "semantic_colors.background.disabled"),
    ("color", "semantic_colors.text.disabled")])]

def component : Data := group [("button", button), ("input", input)]

def color : Data := links [
  ("primary", "semantic_colors.primary"), ("success", "semantic_colors.success"),
  ("warning", "semantic_colors.warning"), ("error", "semantic_colors.error"),
  ("info", "semantic_colors.info"), ("text", "semantic_colors.text.primary"),
  ("muted", "semantic_colors.text.secondary")]

def spacing : Data := links [
  ("xs", "spacing_system.xs"), ("sm", "spacing_system.sm"), ("md", "spacing_system.md"),
  ("lg", "spacing_system.lg"), ("xl", "spacing_system.xl")]

def typography : Data := group [
  ("font_size", links [
    ("xs", "font_system.size.xs"), ("sm", "font_system.size.sm"),
    ("base", "font_system.size.base"), ("lg", "font_system.size.lg"),
    ("xl", "font_system.size.xl")])]

def light : Data := group [
  ("color_palette", colorPalette), ("font_system", fontSystem), ("spacing_system", spacingSystem),
  ("border_system", borderSystem), ("shadow_system", shadowSystem),
  ("motion_system", motionSystem), ("sizing_system", sizingSystem),
  ("semantic_colors", semanticColors), ("semantic_typography", semanticTypography),
  ("semantic_spacing", semanticSpacing), ("semantic_sizing", semanticSizing),
  ("component", component), ("color", color), ("spacing", spacing), ("typography", typography)]

def darkSemanticColors : Data := group [
  ("primary", link "color_palette.blue.5"),
  ("primary_hover", derived "color_palette.blue.5" "lighten" 0.1),
  ("primary_active", derived "color_palette.blue.5" "darken" 0.1),
  ("text", texts [
    ("primary", "rgba(255, 255, 255, 0.85)"), ("secondary", "rgba(255, 255, 255, 0.65)"),
    ("disabled", "rgba(255, 255, 255, 0.25)")]),
  ("background", group [
    ("base", link "color_palette.gray.12"),
    ("container", link "color_palette.gray.11"),
    ("layout", link "color_palette.gray.13"),
    ("disabled", .text "rgba(255, 255, 255, 0.08)")]),
  ("border", links [
    ("base", "color_palette.gray.9"), ("split", "color_palette.gray.10")])]

def darkShadowSystem : Data := group [
  ("base", shadow "0" "6px" "16px" "0" "rgba(0, 0, 0, 0.32)")]

def dark : Data := group [
  ("semantic_colors", darkSemanticColors), ("shadow_system", darkShadowSystem)]

def note (description tokenType : String) : Data :=
  texts [("description", description), ("token_type", tokenType)]

def metadata : Data := group [
  ("semantic_colors.primary", note "Brand color used for primary actions and focus rings" "color"),
  ("semantic_colors.text.primary", note "Body text" "color"),
  ("spacing_system.base", note "Base unit every spacing step is derived from" "dimension"),
  ("font_system.family.base", note "Default UI font stack" "fontFamily")]

def document : List (Scalar × Data) :=
  [(.text "metadata", metadata), (.text "light", light), (.text "dark", dark)]

end Bundled

def bundled : TokenSet :=
  match ofDocument Bundled.document with
  | .ok tokens => tokens
  | .error _ => empty

end TokenSet

end DesignTokens
