import DesignTokens.Json.Basic
import DesignTokens.Value.Style

/-!
Values in the DTCG format for the exchange of tokens: the type of a value, where
the format has one, and the value as JSON.
-/

namespace DesignTokens

namespace Dtcg

def unitType : DimensionUnit → String
  | .ms => "duration"
  | .s => "duration"
  | _ => "dimension"

def type? : Value → Option String
  | .color _ => some "color"
  | .dimension _ unit => some (unitType unit)
  | .number _ => some "number"
  | .typography _ => some "typography"
  | .shadow _ => some "shadow"
  | .boolean _ => some "boolean"
  | .string _ => some "string"
  | _ => none

def numberJson (value : Float) : Json :=
  match wholeNumber? value with
  | some number => .integer number
  | none => .number value

def aliasJson (target : String) : Json :=
  .text ("\x7b" ++ target ++ "\x7d")

def typographyJson (style : Typography) : Json :=
  .object <| [("fontFamily", style.fontFamily), ("fontSize", style.fontSize),
    ("fontWeight", style.fontWeight), ("lineHeight", style.lineHeight),
    ("letterSpacing", style.letterSpacing)].filterMap fun (key, text) =>
      text.map fun text => (key, .text text)

def shadowJson (layer : Shadow) : Json :=
  .object <|
    [("offsetX", .text layer.offsetX), ("offsetY", .text layer.offsetY),
      ("blur", .text layer.blur), ("spread", .text layer.spread)] ++
      ((layer.color.filter (!·.isEmpty)).map fun color => ("color", .text color)).toList ++
      (if layer.inset then [("inset", .boolean true)] else [])

mutual

def valueJson : Value → Json
  | .string text => .text text
  | .number value => numberJson value
  | .boolean value => .boolean value
  | .null => .null
  | .color shade => .text shade.css
  | .dimension value unit => .text (dimensionText value unit)
  | .typography style => typographyJson style
  | .shadow layer => shadowJson layer
  | .array items => .array (itemsJson items)
  | .object entries => .object (entriesJson entries)
  | .alias target => aliasJson target
  | .reference target _ => aliasJson target

def itemsJson : List Value → List Json
  | [] => []
  | item :: items => valueJson item :: itemsJson items

def entriesJson : List (String × Value) → List (String × Json)
  | [] => []
  | (key, value) :: entries => (key, valueJson value) :: entriesJson entries

end

def transformJson (transform : Transform) : Json :=
  .object <| ("kind", .text transform.kind) ::
    match transform with
    | .adjust _ factor => [("factor", .number factor)]
    | .scale factor => [("factor", .number factor)]
    | .math operation operand => [("op", .text operation.name), ("operand", .number operand)]

end Dtcg

end DesignTokens
