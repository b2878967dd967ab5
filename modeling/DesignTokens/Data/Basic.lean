import DesignTokens.Data.Moment
import DesignTokens.Json.Basic
import DesignTokens.Table

/-!
Raw data, as it comes from a document before it is read as tokens.  Keys of a
mapping may be any scalar.
-/

namespace DesignTokens

inductive Scalar where
  | null
  | boolean (value : Bool)
  | integer (value : Int)
  | number (value : Float)
  | text (value : String)
  | bytes (content : List UInt8)
  /-- A value of a type that tokens do not know, by its text and by what messages show. -/
  | foreign (typeName text shown : String)
  | endless (shown : String)
deriving DecidableEq, Inhabited

def Scalar.ofDay (date : Day) : Scalar :=
  .foreign "date" date.text date.shown

def Scalar.ofMoment (moment : Moment) : Scalar :=
  .foreign "datetime" moment.text moment.shown

inductive Data where
  | scalar (value : Scalar)
  | list (items : List Data)
  | mapping (entries : List (Scalar × Data))
deriving Inhabited

namespace Data

def null : Data := .scalar .null

def boolean (value : Bool) : Data := .scalar (.boolean value)

def integer (value : Int) : Data := .scalar (.integer value)

def number (value : Float) : Data := .scalar (.number value)

def text (value : String) : Data := .scalar (.text value)

mutual

def ofJson : Json → Data
  | .null => null
  | .boolean value => boolean value
  | .integer value => integer value
  | .number value => number value
  | .text value => text value
  | .array items => .list (ofItems items)
  | .object entries => .mapping (ofEntries entries)

def ofItems : List Json → List Data
  | [] => []
  | item :: items => ofJson item :: ofItems items

def ofEntries : List (String × Json) → List (Scalar × Data)
  | [] => []
  | (key, value) :: entries => (.text key, ofJson value) :: ofEntries entries

end

def entry? (entries : List (Scalar × Data)) (key : String) : Option Data :=
  Entries.find? entries (.text key)

def isVoid : Data → Bool
  | .scalar .null => true
  | .scalar (.boolean value) => !value
  | .scalar (.integer value) => value == 0
  | .scalar (.number value) => value == 0
  | .scalar (.text value) => value.isEmpty
  | .scalar (.bytes content) => content.isEmpty
  | .scalar _ => false
  | .list items => items.isEmpty
  | .mapping entries => entries.isEmpty

end Data

end DesignTokens
