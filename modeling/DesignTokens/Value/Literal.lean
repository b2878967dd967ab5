import DesignTokens.Error
import DesignTokens.Value.Basic

/-!
Reading the text of a value: the most specific kind that fits wins.
-/

namespace DesignTokens

namespace Value

def dimensionOfText? (text : List Char) : Option Value :=
  (leadingNumber? text).bind fun (magnitude, rest) =>
    (DimensionUnit.ofName? (String.ofList rest)).map fun unit => .dimension magnitude unit

def readDimension (text : String) : Except Error Value :=
  match dimensionOfText? (trim text.toList) with
  | some value => .ok value
  | none => .error (.value (.dimension text))

def ofLiteral (text : String) : Value :=
  let raw := trim text.toList
  let word := String.ofList (lowerCase raw)
  if word == "true" then .boolean true
  else if word == "false" then .boolean false
  else if word == "null" then .null
  else
    match plainNumber? raw with
    | some magnitude => .number magnitude
    | none =>
        match dimensionOfText? raw with
        | some value => value
        | none =>
            match Color.parse (String.ofList raw) with
            | .ok result => .color result
            | .error _ => .string text

def isMagnitude : Value → Bool
  | .number _ => true
  | .dimension .. => true
  | _ => false

end Value

end DesignTokens
