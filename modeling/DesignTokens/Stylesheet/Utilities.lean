import DesignTokens.Stylesheet.Basic

/-!
Utility rules: a class for each colour, distance and font size, and classes that
hide things on narrow or wide screens.
-/

namespace DesignTokens

namespace Stylesheet

def joinDashes (segments : List String) : String :=
  "-".intercalate segments

def colorRules (path : Path) (value : Value) : List Rule :=
  match value with
  | .color color =>
      let name := joinDashes path.segments.tail
      [⟨".text-" ++ name, [⟨"color", color.css⟩]⟩,
        ⟨".bg-" ++ name, [⟨"background-color", color.css⟩]⟩,
        ⟨".border-" ++ name, [⟨"border-color", color.css⟩]⟩]
  | _ => []

def spacingClasses : List (String × List String) := [
  ("m", ["margin"]), ("p", ["padding"]), ("mx", ["margin-left", "margin-right"]),
  ("my", ["margin-top", "margin-bottom"]), ("px", ["padding-left", "padding-right"]),
  ("py", ["padding-top", "padding-bottom"])]

def spacingRules (path : Path) (value : Value) : List Rule :=
  match value.lengthCss? with
  | some css =>
      spacingClasses.map fun (short, properties) =>
        ⟨"." ++ short ++ "-" ++ joinDashes path.segments.tail,
          properties.map fun property => ⟨property, css⟩⟩
  | none => []

def mentionsSize (segment : String) : Bool :=
  occursIn "size".toList segment.toList

def fontSizeRules (path : Path) (value : Value) : List Rule :=
  let inner := path.segments.tail
  if inner.any mentionsSize then
    match value.lengthCss? with
    | some css =>
        let name :=
          match inner.filter (!mentionsSize ·) with
          | [] => [path.name]
          | segments => segments
        [⟨".text-" ++ joinDashes name, [⟨"font-size", css⟩]⟩]
    | none => []
  else []

def breakpoints : List (String × String) :=
  [("sm", "576px"), ("md", "768px"), ("lg", "992px"), ("xl", "1200px")]

def hidingText (limit width name direction : String) : String :=
  "@media (" ++ limit ++ "-width: " ++ width ++ ") \x7b\n  .hidden-" ++ name ++ "-" ++ direction ++
    " \x7b\n    display: none !important;\n  \x7d\n\x7d"

def visibilityTexts : List String :=
  breakpoints.flatMap fun (name, width) =>
    [hidingText "max" width name "down", hidingText "min" width name "up"]

end Stylesheet

open Stylesheet

namespace View

def namespaceValues (view : View) (head : String) (theme : Theme) : Walk (List (Path × Value)) :=
  ((view.store.visiblePaths theme).filter fun path => path.head == head && 1 < path.size).mapM
    fun path => do return (path, ← view.resolve theme path)

def utilityRules (view : View) (theme : Theme) : Walk (List Rule) := do
  let colors ← view.namespaceValues "color" theme
  let spacing ← view.namespaceValues "spacing" theme
  let typography ← view.namespaceValues "typography" theme
  return colors.flatMap (fun (path, value) => colorRules path value) ++
    spacing.flatMap (fun (path, value) => spacingRules path value) ++
    typography.flatMap (fun (path, value) => fontSizeRules path value)

def utilitySheet (view : View) (theme : Theme) : Walk String := do
  let rules ← view.utilityRules theme
  return finished view.config ("\n\n".intercalate (rules.map Rule.text ++ visibilityTexts))

end View

end DesignTokens
