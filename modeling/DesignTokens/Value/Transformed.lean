import DesignTokens.Error
import DesignTokens.Value.Basic

/-!
Applying transforms to values.  Colour changes need a colour; arithmetic needs a
number or a dimension and keeps the unit.
-/

namespace DesignTokens

def Operation.compute (operation : Operation) (magnitude operand : Float) : Except Error Float :=
  match operation with
  | .add => .ok (magnitude + operand)
  | .subtract => .ok (magnitude - operand)
  | .multiply => .ok (magnitude * operand)
  | .divide => if operand == 0 then .error .divisionByZero else .ok (magnitude / operand)

def ColorChange.apply (change : ColorChange) (factor : Float) (color : Color) :
    Except NumberFault Color :=
  match change with
  | .alpha => .ok (color.withAlpha factor)
  | .lighten => color.adjustLightness factor
  | .darken => color.adjustLightness (-factor)
  | .saturate => color.adjustSaturation factor
  | .desaturate => color.adjustSaturation (-factor)

namespace Value

def calculate (value : Value) (operation : Operation) (operand : Float) (path : Option Path) :
    Except Error Value :=
  match value with
  | .number magnitude => (operation.compute magnitude operand).map .number
  | .dimension magnitude unit =>
      (operation.compute magnitude operand).map fun result => .dimension result unit
  | value => .error (.typeMismatch "number or dimension" value.kind path)

def adjustColor (value : Value) (change : ColorChange) (factor : Float) (path : Option Path) :
    Except Error Value :=
  match value with
  | .color shade =>
      if 0 ≤ factor ∧ factor ≤ 1 then
        match change.apply factor shade with
        | .ok changed => .ok (.color changed)
        | .error fault => .error (.color (.arithmetic fault))
      else .error (.factorRange change factor)
  | value => .error (.typeMismatch "color" value.kind path)

def transformed (value : Value) (transform : Transform) (path : Option Path) : Except Error Value :=
  match transform with
  | .math operation operand => value.calculate operation operand path
  | .scale factor => value.calculate .multiply factor path
  | .adjust change factor => value.adjustColor change factor path

end Value

end DesignTokens
