import DesignTokens.Path.Tier

/-!
Component paths: `component`, a name, then a variant or a state or both, and at
last the property that the token sets.
-/

namespace DesignTokens

structure Slot where
  component : String
  variant : Option String
  /-- No state stands for the default one. -/
  state : Option String
  property : List String
deriving DecidableEq, Repr

def selectorStates : List String := ["hover", "active", "focus", "disabled"]

def isState (segment : String) : Bool :=
  segment == "default" || selectorStates.contains segment

def stateOf (segment : String) : Option String :=
  if selectorStates.contains segment then some segment else none

/-- Takes the segments after the component's name apart.  A state word counts
as a state only where a property follows it. -/
def Slot.ofSegments (component : String) : List String → Option Slot
  | [] => none
  | [property] => some ⟨component, none, none, [property]⟩
  | first :: second :: rest =>
      if isState first then some ⟨component, none, stateOf first, second :: rest⟩
      else if isState second && !rest.isEmpty then
        some ⟨component, some first, stateOf second, rest⟩
      else some ⟨component, some first, none, second :: rest⟩

def Path.slot? (path : Path) : Option Slot :=
  if path.tier = .component then
    match path.segments with
    | _ :: component :: rest => Slot.ofSegments component rest
    | _ => none
  else none

def Path.ofComponent (component : String) (rest : List String) : Except PathFault Path :=
  Path.join ("component" :: component :: rest)

end DesignTokens
