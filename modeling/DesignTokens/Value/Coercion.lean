import DesignTokens.Theme
import DesignTokens.Value.Record

/-!
Reading raw data as tokens: texts in braces are references, mappings with a key
that starts with a dollar sign are written-out values, and everything else is
read by its shape.
-/

namespace DesignTokens

def aliasTarget? (text : List Char) : Option String :=
  match trim text with
  | '{' :: rest =>
      (dropTail ['}'] rest).bind fun target =>
        if !target.isEmpty && target.all (fun c => isSegmentChar c || c == '.') then
          some (String.ofList target)
        else none
  | _ => none

def Data.readText (data : Data) : Except Error String :=
  (data.written Data.asText).mapError Error.data

def Scalar.readText (key : Scalar) : Except Error String :=
  (Data.scalar key).readText

def faultShowing {α : Type} (fault : String → ValueFault) (data : Data) : Except Error α :=
  match data.written Data.shown with
  | .ok shown => .error (.value (fault shown))
  | .error fault => .error (.data fault)

def fitting {α : Type} : Option α → Except Error α
  | some value => .ok value
  | none => .error .record

def Transform.ofData (data : Data) : Except Error Transform :=
  match data with
  | .mapping [(.text name, argument)] =>
      let misfit : ValueFault := .transformFields name
      if name == "math" then
        match argument with
        | .mapping entries =>
            match (Fields.ofEntries? entries).bind (Transform.ofFields? name) with
            | some transform => .ok transform
            | none => .error (.value misfit)
        | _ => .error (.value misfit)
      else if name == "scale" || (ColorChange.ofName? name).isSome then
        match Transform.ofFields? name [("factor", argument)] with
        | some transform => .ok transform
        | none => .error (.value misfit)
      else faultShowing .transformName (.text name)
  | .mapping [(name, _)] => faultShowing .transformName (.scalar name)
  | _ => faultShowing .transformShape data

def compositeFields (key : String) : Data → Except Error (List (Scalar × Data))
  | .mapping entries => .ok entries
  | data => .error (.value (.compositeShape key data.typeName))

def namedFields (entries : List (Scalar × Data)) (field : Data → Except Error Data) :
    Except Error Fields := do
  let fields ← entries.mapM fun (key, data) => do
    let name ← key.readText
    return (name, ← field data)
  return Entries.collapse fields

def textField (data : Data) : Except Error Data :=
  Data.text <$> data.readText

def textUnlessBoolean : Data → Except Error Data
  | .scalar (.boolean value) => .ok (.boolean value)
  | data => textField data

namespace Value

def ofDollarKey? (entries : List (Scalar × Data)) : Option (Except Error Value) :=
  match Data.entry? entries "$ref" with
  | some data => some do
      let target ← data.readText
      match Data.entry? entries "transform" with
      | none => return .reference target none
      | some (.scalar .null) => return .reference target none
      | some data => return .reference target (some (← Transform.ofData data))
  | none =>
  match Data.entry? entries "$color" with
  | some data => some do
      fitting ((Color.parse (← data.readText)).toOption.map .color)
  | none =>
  match Data.entry? entries "$typography" with
  | some data => some do
      let fields ← namedFields (← compositeFields "$typography" data) textField
      fitting ((Typography.ofFields? fields).map .typography)
  | none =>
  match Data.entry? entries "$shadow" with
  | some data => some do
      let fields ← namedFields (← compositeFields "$shadow" data) textUnlessBoolean
      fitting ((Shadow.ofFields? fields).map .shadow)
  | none => (Data.entry? entries "$string").map fun data => .string <$> data.readText

def ofScalar : Scalar → Except Error Value
  | .null => .ok .null
  | .boolean value => .ok (.boolean value)
  | .integer value => fitting ((finiteFloat? value).map .number)
  | .number value => .ok (.number value)
  | .text text =>
      match aliasTarget? text.toList with
      | some target => .ok (.alias target)
      | none => .ok (ofLiteral text)
  | .endless _ => .error (.data .endless)
  | scalar => .error (.value (.unsupported (Data.scalar scalar).typeName))

mutual

def coerce : Data → Except Error Value
  | .scalar scalar => ofScalar scalar
  | .list items => return .array (← coerceItems items)
  | .mapping entries =>
      match ofDollarKey? entries with
      | some result => result
      | none => return .object (Entries.collapse (← coerceEntries entries))

def coerceItems : List Data → Except Error (List Value)
  | [] => return []
  | data :: rest => do
      let item ← coerce data
      let items ← coerceItems rest
      return item :: items

def coerceEntries : List (Scalar × Data) → Except Error (List (String × Value))
  | [] => return []
  | (key, data) :: rest => do
      let name ← key.readText
      let value ← coerce data
      let entries ← coerceEntries rest
      return (name, value) :: entries

end

/-- The value that raw data stands for.  A fault in the fields of a part is
reported for the data as a whole. -/
def ofData (data : Data) : Except Error Value :=
  match coerce data with
  | .error .record => faultShowing .fields data
  | result => result

end Value

def Path.ofData : Data → Except Error Path
  | .scalar (.text text) => Path.read text
  | data => .error (.badPath ⟨.empty, data.asText⟩)

def Theme.ofData (data : Data) : Except Error Theme :=
  match data.asString?.bind Theme.ofName? with
  | some theme => .ok theme
  | none => .error (.theme data.shown)

def Theme.read (name : String) : Except Error Theme :=
  Theme.ofData (.text name)

end DesignTokens
