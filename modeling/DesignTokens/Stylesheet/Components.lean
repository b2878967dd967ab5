import DesignTokens.Path.Slot
import DesignTokens.Stylesheet.Basic

/-!
Rules for the variants and states of a component.
-/

namespace DesignTokens

namespace Stylesheet

def dashCapitals (afterSmall : Bool) : List Char → List Char
  | [] => []
  | c :: rest =>
      let letters := if afterSmall && isAsciiUpper c then ['-', c] else [c]
      letters ++ dashCapitals (isAsciiLower c || isAsciiDigit c) rest

def propertyName (segments : List String) : String :=
  "-".intercalate <| segments.map fun segment =>
    String.ofList (lowerCase (dashCapitals false segment.toList))

def selector (component : String) (variant state : Option String) : String :=
  let base :=
    match variant with
    | some variant => "." ++ component ++ "-" ++ variant
    | none => "." ++ component
  match state with
  | none => base
  | some state =>
      if state == "disabled" then base ++ ".disabled, " ++ base ++ "[disabled]"
      else base ++ ":" ++ state

def addToRules (rules : List Rule) (selector : String) (declaration : Declaration) : List Rule :=
  match rules with
  | [] => [⟨selector, [declaration]⟩]
  | rule :: rest =>
      if rule.selector = selector then
        { rule with declarations := rule.declarations ++ [declaration] } :: rest
      else rule :: addToRules rest selector declaration

def groupRules (placed : List (String × Declaration)) : List Rule :=
  placed.foldl (fun rules (selector, declaration) => addToRules rules selector declaration) []

end Stylesheet

open Stylesheet

namespace View

def componentSlots (view : View) (component : String) (theme : Theme) : List (Path × Slot) :=
  (view.store.visiblePaths theme).filterMap fun path =>
    match path.slot? with
    | some slot => if slot.component = component then some (path, slot) else none
    | none => none

def componentRules (view : View) (component : String) (theme : Theme) : Walk (List Rule) := do
  let placed ← (view.componentSlots component theme).mapM fun (path, slot) => do
    let text ← view.tokenText theme path
    return (selector slot.component slot.variant slot.state,
      Declaration.mk (propertyName slot.property) text)
  return groupRules placed

def componentSheet (view : View) (component : String) (theme : Theme) : Walk String := do
  match ← view.componentRules component theme with
  | [] =>
      let path ← Walk.ofExcept ((Path.ofComponent component []).mapError Error.badPath)
      throw (.notFound path (.component component))
  | rules => return finished view.config (rulesText rules)

end View

end DesignTokens
