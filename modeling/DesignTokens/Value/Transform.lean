/-!
Transforms: what a reference may do to the value it points at.
-/

namespace DesignTokens

inductive ColorChange where
  | alpha
  | lighten
  | darken
  | saturate
  | desaturate
deriving DecidableEq, Repr

def ColorChange.all : List ColorChange := [.alpha, .lighten, .darken, .saturate, .desaturate]

def ColorChange.name : ColorChange → String
  | .alpha => "alpha"
  | .lighten => "lighten"
  | .darken => "darken"
  | .saturate => "saturate"
  | .desaturate => "desaturate"

inductive Operation where
  | add
  | subtract
  | multiply
  | divide
deriving DecidableEq, Repr

def Operation.all : List Operation := [.add, .subtract, .multiply, .divide]

def Operation.name : Operation → String
  | .add => "add"
  | .subtract => "subtract"
  | .multiply => "multiply"
  | .divide => "divide"

inductive Transform where
  | adjust (change : ColorChange) (factor : Float)
  | math (operation : Operation) (operand : Float)
  | scale (factor : Float)
deriving DecidableEq

def Transform.kind : Transform → String
  | .adjust change _ => change.name
  | .math .. => "math"
  | .scale _ => "scale"

end DesignTokens
