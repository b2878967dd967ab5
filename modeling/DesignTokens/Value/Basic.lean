import DesignTokens.Color.Basic
import DesignTokens.Value.Transform

/-!
The values that a token can hold: scalars, composites, and references to other
tokens.
-/

namespace DesignTokens

inductive DimensionUnit where
  | px
  | rem
  | em
  | percent
  | vh
  | vw
  | ms
  | s
  | deg
deriving DecidableEq, Repr

def DimensionUnit.all : List DimensionUnit :=
  [.px, .rem, .em, .percent, .vh, .vw, .ms, .s, .deg]

def DimensionUnit.name : DimensionUnit → String
  | .px => "px"
  | .rem => "rem"
  | .em => "em"
  | .percent => "%"
  | .vh => "vh"
  | .vw => "vw"
  | .ms => "ms"
  | .s => "s"
  | .deg => "deg"

def DimensionUnit.ofName? (name : String) : Option DimensionUnit :=
  all.find? (·.name == name)

structure Typography where
  fontFamily : Option String
  fontSize : Option String
  fontWeight : Option String
  lineHeight : Option String
  letterSpacing : Option String
deriving DecidableEq

structure Shadow where
  offsetX : String
  offsetY : String
  blur : String
  spread : String
  color : Option String
  inset : Bool
deriving DecidableEq

inductive Value where
  | string (text : String)
  | number (value : Float)
  | boolean (value : Bool)
  | null
  | color (color : Color)
  | dimension (value : Float) (unit : DimensionUnit)
  | typography (style : Typography)
  | shadow (layer : Shadow)
  | array (items : List Value)
  | object (entries : List (String × Value))
  | alias (target : String)
  | reference (target : String) (transform : Option Transform)
deriving Inhabited

namespace Value

def kind : Value → String
  | .string _ => "string"
  | .number _ => "number"
  | .boolean _ => "boolean"
  | .null => "null"
  | .color _ => "color"
  | .dimension .. => "dimension"
  | .typography _ => "typography"
  | .shadow _ => "shadow"
  | .array _ => "array"
  | .object _ => "object"
  | .alias _ => "reference"
  | .reference .. => "token_reference"

def isReference : Value → Bool
  | .alias _ => true
  | .reference .. => true
  | _ => false

mutual

/-- Replaces every reference in a value, from left to right.  What it is replaced with may
depend on the number of arrays and objects around it. -/
def replaceReferences {m : Type → Type} [Monad m]
    (replace : Nat → String → Option Transform → m Value) (depth : Nat) : Value → m Value
  | .alias target => replace depth target none
  | .reference target transform => replace depth target transform
  | .array items => return .array (← replaceInItems replace (depth + 1) items)
  | .object entries => return .object (← replaceInEntries replace (depth + 1) entries)
  | value => return value

def replaceInItems {m : Type → Type} [Monad m]
    (replace : Nat → String → Option Transform → m Value) (depth : Nat) :
    List Value → m (List Value)
  | [] => return []
  | item :: items => do
      let first ← replaceReferences replace depth item
      let rest ← replaceInItems replace depth items
      return first :: rest

def replaceInEntries {m : Type → Type} [Monad m]
    (replace : Nat → String → Option Transform → m Value) (depth : Nat) :
    List (String × Value) → m (List (String × Value))
  | [] => return []
  | (key, value) :: entries => do
      let first ← replaceReferences replace depth value
      let rest ← replaceInEntries replace depth entries
      return (key, first) :: rest

end

mutual

def targets : Value → List String
  | .alias target => [target]
  | .reference target _ => [target]
  | .array items => targetsOfItems items
  | .object entries => targetsOfEntries entries
  | _ => []

def targetsOfItems : List Value → List String
  | [] => []
  | item :: items => targets item ++ targetsOfItems items

def targetsOfEntries : List (String × Value) → List String
  | [] => []
  | (_, value) :: entries => targets value ++ targetsOfEntries entries

end

end Value

structure Metadata where
  description : Option String
  tokenType : String
  deprecated : Bool
  aliases : List String
  tags : List String
  version : Option String
deriving DecidableEq

end DesignTokens
