import DesignTokens.Resolution.Expression
import DesignTokens.TokenSystem.Basic

/-!
The operations of a system on its tokens.
-/

namespace DesignTokens

inductive Scope where
  | active
  | given (theme : Theme)
deriving DecidableEq, Repr

def Scope.themeIn (scope : Scope) (system : TokenSystem) : Theme :=
  match scope with
  | .active => system.theme
  | .given theme => theme

inductive Input where
  | raw (data : Data)
  | ready (value : Value)

def Input.value : Input → Except Error Value
  | .raw data => Value.ofData data
  | .ready value => .ok value

def readBatch (entries : List (String × Data)) : Except Error (List (Path × Value)) :=
  entries.mapM fun (raw, data) => do
    let path ← Path.read raw
    let value ← Value.ofData data
    return (path, value)

namespace Action

def readPath (raw : String) : Action Path :=
  ofExcept (Path.read raw)

def switchTheme (name : String) : Action Unit := do
  let theme ← ofExcept (Theme.read name)
  modify fun system => { system with theme, cache := Table.empty }

def resolve (raw : String) (scope : Scope) : Action Value := do
  let path ← readPath raw
  ofWalk fun system =>
    DesignTokens.resolve system.store (scope.themeIn system) system.allowance path

def find? (raw : String) : Action (Option Value) :=
  tryCatch (some <$> resolve raw .active) fun error =>
    match error with
    | .notFound .. => return none
    | error => throw error

def lookup (raw : String) (scope : Scope) : Action (Option Value) := do
  let path ← readPath raw
  ask fun system => system.store.visible? path (scope.themeIn system)

def held (raw : String) (theme : Theme) : Action (Option Value) := do
  let path ← readPath raw
  ask fun system => system.store.get? path theme

def set (raw : String) (scope : Scope) (input : Input) : Action Unit := do
  let path ← readPath raw
  let value ← ofExcept input.value
  let system ← get
  changeStore (·.set path (scope.themeIn system) value)

def setAll (entries : List (String × Data)) (scope : Scope) : Action Nat := do
  let values ← ofExcept (readBatch entries)
  let system ← get
  changeStore (·.setAll values (scope.themeIn system))
  return values.length

def remove (raw : String) (theme : Theme) : Action Bool := do
  let path ← readPath raw
  onStore (·.remove path theme)

def createVariant (base variant : String) (overrides : List (String × Data)) : Action Nat := do
  let target ← ofExcept (Theme.read variant)
  let source ← ofExcept (Theme.read base)
  let copied ← onStore (·.copyTheme source target)
  if !overrides.isEmpty then
    discard (setAll overrides (.given target))
  return copied

def search (query : String) : Action (List Path) :=
  ask fun system =>
    (system.store.visiblePaths system.theme).filter fun path =>
      occursIn (lowerCase query.toList) (lowerCase path.dotted.toList)

def propertyOf (raw : String) : Action String := do
  let path ← readPath raw
  ask fun system => system.view.propertyOf path

def setMetadata (raw : String) (metadata : Metadata) : Action Unit := do
  let path ← readPath raw
  changeStore (·.setMetadata path metadata)

def metadata? (raw : String) : Action (Option Metadata) := do
  let path ← readPath raw
  ask fun system => system.store.metadata.find? path

def referrers (raw : String) (scope : Scope) : Action (List Path) := do
  let path ← readPath raw
  ask fun system => system.store.referrers path (scope.themeIn system)

def compute (expression : String) (scope : Scope) : Action Value :=
  ofWalk fun system => evaluate system.store (scope.themeIn system) system.allowance expression

def resolveAll (paths : List String) (theme : Theme) :
    Action (Entries Path (Except Error Value)) :=
  ofWalk fun system => DesignTokens.resolveAll system.store theme system.allowance [] paths

def validate (themes : Option (List Theme)) : Action (List Error) :=
  ofWalk fun system => ExceptT.lift <|
    DesignTokens.validate system.store system.allowance (themes.getD system.store.themes)

def importDocument (document : List (Scalar × Data)) : Action Nat := do
  let tokens ← ofExcept (TokenSet.ofDocument document)
  onStore (·.load tokens)

def seed (document : Option (List (Scalar × Data))) : Action Nat := do
  let tokens ←
    match document with
    | some document => ofExcept (TokenSet.ofDocument document)
    | none => pure TokenSet.bundled
  onStore (·.seed tokens)

def reset : Action Nat := do
  changeStore Store.clear
  let count ← onStore (·.seed TokenSet.bundled)
  clearCache
  return count

end Action

end DesignTokens
