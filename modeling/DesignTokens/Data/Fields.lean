import DesignTokens.Data.Display
import DesignTokens.Number.Reading

/-!
Named fields of a record, read with some leniency: a number may be written as
text, and a truth value as a word or as zero or one.
-/

namespace DesignTokens

namespace Data

def isFieldPadding (c : Char) : Bool :=
  isBlank c && !(0x1C ≤ c.toNat && c.toNat ≤ 0x1F)

def asciiNumber? (text : List Char) : Option Float :=
  if text.all (·.toNat < 128) then signedNumber? text else none

def withoutSingleUnderscores? (text : List Char) : Option (List Char) :=
  match splitWhere (· == '_') text with
  | [_] => none
  | parts => if parts.any List.isEmpty then none else some parts.flatten

def readFieldNumber? (text : String) : Option Float :=
  (asciiNumber? (trimWhere isFieldPadding text.toList)).orElse fun _ =>
    (withoutSingleUnderscores? text.toList).bind asciiNumber?

def asString? : Data → Option String
  | .scalar (.text value) => some value
  | .scalar (.bytes content) => String.fromUTF8? ⟨content.toArray⟩
  | _ => none

def asFloat? : Data → Option Float
  | .scalar (.integer value) => finiteFloat? value
  | .scalar (.number value) => some value
  | .scalar (.boolean value) => some (if value then 1.0 else 0.0)
  | data => data.asString?.bind readFieldNumber?

def truthWords : List (String × Bool) := [
  ("0", false), ("off", false), ("f", false), ("false", false), ("n", false), ("no", false),
  ("1", true), ("on", true), ("t", true), ("true", true), ("y", true), ("yes", true)]

def asBoolean? : Data → Option Bool
  | .scalar (.boolean value) => some value
  | .scalar (.integer value) =>
      if value = 0 then some false else if value = 1 then some true else none
  | .scalar (.number value) =>
      if value == 0 then some false else if value == 1 then some true else none
  | data => data.asString?.bind fun value => truthWords.lookup (asciiLowerCased value.toList)

def asStringOrNull? : Data → Option (Option String)
  | .scalar .null => some none
  | data => data.asString?.map some

def asStrings? : Data → Option (List String)
  | .list items => items.mapM asString?
  | _ => none

end Data

abbrev Fields := List (String × Data)

namespace Fields

def ofEntries? (entries : List (Scalar × Data)) : Option Fields :=
  entries.mapM fun (key, value) =>
    match key with
    | .text name => some (name, value)
    | _ => none

def required {α : Type} (fields : Fields) (name : String) (read : Data → Option α) : Option α :=
  (Entries.find? fields name).bind read

def optional {α : Type} (fields : Fields) (name : String) (default : α) (read : Data → Option α) :
    Option α :=
  match Entries.find? fields name with
  | some data => read data
  | none => some default

def only (fields : Fields) (names : List String) : Bool :=
  fields.all fun field => names.contains field.1

def hasKind (fields : Fields) (kind : String) : Bool :=
  (fields.optional "kind" kind Data.asString?) == some kind

end Fields

end DesignTokens
