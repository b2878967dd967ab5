import DesignTokens.Data.Fields
import DesignTokens.Value.Literal

/-!
Values, transforms and metadata from records of named fields.  A record whose
fields do not fit has no reading.
-/

namespace DesignTokens

def ColorChange.ofName? (name : String) : Option ColorChange :=
  all.find? (·.name == name)

def Operation.ofName? (name : String) : Option Operation :=
  all.find? (·.name == name)

def Transform.ofFields? (kind : String) (fields : Fields) : Option Transform :=
  if !fields.hasKind kind then none
  else if kind == "math" then do
    let operation ← fields.required "op" fun data => data.asString?.bind Operation.ofName?
    let operand ← fields.required "operand" Data.asFloat?
    return .math operation operand
  else if kind == "scale" then
    (fields.required "factor" Data.asFloat?).map .scale
  else
    (ColorChange.ofName? kind).bind fun change =>
      (fields.required "factor" Data.asFloat?).map (.adjust change)

def Transform.ofRecord? : Data → Option Transform
  | .mapping entries => do
      let fields ← Fields.ofEntries? entries
      let kind ← fields.required "kind" Data.asString?
      Transform.ofFields? kind fields
  | _ => none

def typographyFields : List String :=
  ["kind", "font_family", "font_size", "font_weight", "line_height", "letter_spacing"]

def Typography.ofFields? (fields : Fields) : Option Typography :=
  if !fields.only typographyFields || !fields.hasKind "typography" then none
  else do
    let fontFamily ← fields.optional "font_family" none Data.asStringOrNull?
    let fontSize ← fields.optional "font_size" none Data.asStringOrNull?
    let fontWeight ← fields.optional "font_weight" none Data.asStringOrNull?
    let lineHeight ← fields.optional "line_height" none Data.asStringOrNull?
    let letterSpacing ← fields.optional "letter_spacing" none Data.asStringOrNull?
    return { fontFamily, fontSize, fontWeight, lineHeight, letterSpacing }

def shadowFields : List String :=
  ["kind", "offset_x", "offset_y", "blur", "spread", "color", "inset"]

def Shadow.ofFields? (fields : Fields) : Option Shadow :=
  if !fields.only shadowFields || !fields.hasKind "shadow" then none
  else do
    let offsetX ← fields.optional "offset_x" "0" Data.asString?
    let offsetY ← fields.optional "offset_y" "0" Data.asString?
    let blur ← fields.optional "blur" "0" Data.asString?
    let spread ← fields.optional "spread" "0" Data.asString?
    let color ← fields.optional "color" none Data.asStringOrNull?
    let inset ← fields.optional "inset" false Data.asBoolean?
    return { offsetX, offsetY, blur, spread, color, inset }

def alphaField? (data : Data) : Option Float :=
  data.asFloat?.bind fun alpha => if alpha < 0 ∨ 1 < alpha then none else some alpha

def Color.ofFields? (fields : Fields) : Option Color :=
  if !fields.hasKind "color" then none
  else do
    let text ← fields.required "hex" Data.asString?
    let color ← (Color.parse text).toOption
    let alpha ← fields.optional "alpha" color.alpha alphaField?
    return { color with alpha }

def Color.ofRecord? : Data → Option Color
  | .scalar (.text text) => (Color.parse text).toOption
  | .mapping entries => (Fields.ofEntries? entries).bind Color.ofFields?
  | _ => none

def Metadata.ofFields? (fields : Fields) : Option Metadata := do
  let description ← fields.optional "description" none Data.asStringOrNull?
  let tokenType ← fields.optional "token_type" "unknown" Data.asString?
  let deprecated ← fields.optional "deprecated" false Data.asBoolean?
  let aliases ← fields.optional "aliases" [] Data.asStrings?
  let tags ← fields.optional "tags" [] Data.asStrings?
  let version ← fields.optional "version" none Data.asStringOrNull?
  return { description, tokenType, deprecated, aliases, tags, version }

def Path.ofFields? (fields : Fields) : Option Path :=
  (fields.required "segments" Data.asStrings?).bind fun segments =>
    (Path.ofSegments segments).toOption

namespace Value

def plainOfFields? (kind : String) (fields : Fields) : Option Value :=
  if !fields.hasKind kind then none
  else
    match kind with
    | "string" => (fields.required "value" Data.asString?).map .string
    | "number" => (fields.required "value" Data.asFloat?).map .number
    | "boolean" => (fields.required "value" Data.asBoolean?).map .boolean
    | "null" => some .null
    | "color" => (Color.ofFields? fields).map .color
    | "dimension" => do
        let value ← fields.required "value" Data.asFloat?
        let unit ← fields.optional "unit" DimensionUnit.px fun data =>
          data.asString?.bind DimensionUnit.ofName?
        return .dimension value unit
    | "typography" => (Typography.ofFields? fields).map .typography
    | "shadow" => (Shadow.ofFields? fields).map .shadow
    | "reference" => (fields.required "path" Data.asString?).map .alias
    | "token_reference" => do
        let target ← fields.required "reference" Data.asString?
        let transform ← fields.optional "transform" none fun data =>
          match data with
          | .scalar .null => some none
          | data => (Transform.ofRecord? data).map some
        return .reference target transform
    | _ => none

mutual

def ofFields? (kind : String) (entries : List (Scalar × Data)) : Option Value :=
  (Fields.ofEntries? entries).bind fun fields =>
    if kind == "array" then
      if fields.hasKind kind then (itemsField? entries).map .array else none
    else if kind == "object" then
      if fields.hasKind kind then (entriesField? entries).map .object else none
    else plainOfFields? kind fields

def ofRecord? : Data → Option Value
  | .mapping entries =>
      match Data.entry? entries "kind" with
      | some (.scalar (.text kind)) => ofFields? kind entries
      | _ => none
  | _ => none

def itemsField? : List (Scalar × Data) → Option (List Value)
  | [] => some []
  | (key, data) :: rest => if key = .text "items" then itemsOfData? data else itemsField? rest

def itemsOfData? : Data → Option (List Value)
  | .list items => itemsOfRecords? items
  | _ => none

def itemsOfRecords? : List Data → Option (List Value)
  | [] => some []
  | data :: rest => do
      let item ← ofRecord? data
      let items ← itemsOfRecords? rest
      return item :: items

def entriesField? : List (Scalar × Data) → Option (List (String × Value))
  | [] => some []
  | (key, data) :: rest =>
      if key = .text "entries" then entriesOfData? data else entriesField? rest

def entriesOfData? : Data → Option (List (String × Value))
  | .mapping entries => entriesOfRecords? entries
  | _ => none

def entriesOfRecords? : List (Scalar × Data) → Option (List (String × Value))
  | [] => some []
  | (key, data) :: rest => do
      let name ← (Data.scalar key).asString?
      let value ← ofRecord? data
      let entries ← entriesOfRecords? rest
      return (name, value) :: entries

end

end Value

end DesignTokens
