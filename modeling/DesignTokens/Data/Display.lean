import DesignTokens.Data.Basic
import DesignTokens.Data.Binary

/-!
Raw data as it is shown in messages, and the text that data stands for.  Data
with a whole number that is too long has neither.
-/

namespace DesignTokens

def Scalar.shown : Scalar → String
  | .null => "None"
  | .boolean true => "True"
  | .boolean false => "False"
  | .integer value => integerText value
  | .number value => numberText value
  | .text value => quoted value
  | .bytes content => bytesShown content
  | .foreign _ _ shown => shown
  | .endless shown => shown

def Scalar.asText : Scalar → String
  | .text value => value
  | .foreign _ written _ => written
  | scalar => scalar.shown

def Scalar.isWritable : Scalar → Bool
  | .integer value => value.natAbs < Nat.pow 10 digitLimit
  | _ => true

namespace Data

mutual

def shown : Data → String
  | .scalar value => value.shown
  | .list items => "[" ++ shownItems items ++ "]"
  | .mapping entries => "\x7b" ++ shownEntries entries ++ "\x7d"

def shownItems : List Data → String
  | [] => ""
  | [item] => shown item
  | item :: items => shown item ++ ", " ++ shownItems items

def shownEntries : List (Scalar × Data) → String
  | [] => ""
  | [(key, value)] => key.shown ++ ": " ++ shown value
  | (key, value) :: entries => key.shown ++ ": " ++ shown value ++ ", " ++ shownEntries entries

end

mutual

def isWritable : Data → Bool
  | .scalar value => value.isWritable
  | .list items => areWritable items
  | .mapping entries => entriesAreWritable entries

def areWritable : List Data → Bool
  | [] => true
  | item :: items => isWritable item && areWritable items

def entriesAreWritable : List (Scalar × Data) → Bool
  | [] => true
  | (key, value) :: entries => key.isWritable && isWritable value && entriesAreWritable entries

end

def asText : Data → String
  | .scalar value => value.asText
  | data => data.shown

def written (data : Data) (text : Data → String) : Except DataFault String :=
  if data.isWritable then .ok (text data) else .error (.tooManyDigits none)

def typeName : Data → String
  | .scalar .null => "NoneType"
  | .scalar (.boolean _) => "bool"
  | .scalar (.integer _) => "int"
  | .scalar (.number _) => "float"
  | .scalar (.text _) => "str"
  | .scalar (.bytes _) => "bytes"
  | .scalar (.foreign name _ _) => name
  | .scalar (.endless _) => "list"
  | .list _ => "list"
  | .mapping _ => "dict"

end Data

end DesignTokens
