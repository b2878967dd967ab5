import DesignTokens.Error
import DesignTokens.Value.Basic

/-!
Values as the text of a style sheet.
-/

namespace DesignTokens

def dimensionText (value : Float) (unit : DimensionUnit) : String :=
  styleNumber value ++ unit.name

def Shadow.css (shadow : Shadow) : String :=
  let color :=
    match shadow.color with
    | some color => if color.isEmpty then [] else [color]
    | none => []
  " ".intercalate <|
    (if shadow.inset then ["inset"] else []) ++
      [shadow.offsetX, shadow.offsetY, shadow.blur, shadow.spread] ++ color

def genericFamilies : List String :=
  ["serif", "sans-serif", "monospace", "cursive", "fantasy", "system-ui", "inherit", "initial"]

def quotedFamily (name : List Char) : List Char :=
  let bare := genericFamilies.contains (String.ofList name) ||
    name.head? == some '"' || name.head? == some '\''
  if bare then name else '"' :: name ++ ['"']

def familyList (families : String) : String :=
  let names := ((splitWhere (· == ',') families.toList).map trim).filter (!·.isEmpty)
  ", ".intercalate (names.map fun name => String.ofList (quotedFamily name))

namespace Value

def variableText (lead target : String) : Except Error String :=
  (Path.read target).map fun path => "var(" ++ path.customProperty lead ++ ")"

mutual

def css (lead : String) : Value → Except Error String
  | .string text => .ok text
  | .number value => .ok (styleNumber value)
  | .boolean value => .ok (if value then "1" else "0")
  | .null => .ok "initial"
  | .color shade => .ok shade.css
  | .dimension value unit => .ok (dimensionText value unit)
  | .typography style =>
      match style.fontFamily with
      | some families => .ok (if families.isEmpty then "initial" else familyList families)
      | none => .ok "initial"
  | .shadow layer => .ok layer.css
  | .array items => return ", ".intercalate (← cssItems lead items)
  | .object _ => .ok ""
  | .alias target => variableText lead target
  | .reference target _ => variableText lead target

def cssItems (lead : String) : List Value → Except Error (List String)
  | [] => return []
  | item :: items => do
      let first ← css lead item
      let rest ← cssItems lead items
      return first :: rest

end

def lengthCss? : Value → Option String
  | .dimension value unit => some (dimensionText value unit)
  | .number value => some (styleNumber value ++ "px")
  | _ => none

end Value

end DesignTokens
