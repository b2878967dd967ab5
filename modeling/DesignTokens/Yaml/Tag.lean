import DesignTokens.Data.Fault
import DesignTokens.Text.Ascii
import DesignTokens.Text.Blank

/-!
Tags of YAML 1.1, which say what a node stands for, and the tags of plain scalars.
-/

namespace DesignTokens.Yaml

inductive Tag where
  | null
  | boolean
  | integer
  | number
  | text
  | moment
  | binary
  | sequence
  | mapping
  | set
  | pairs
  | merge
  | default
  | unknown
deriving DecidableEq, Repr

def Tag.names : List (String × Tag) := [
  ("null", .null), ("bool", .boolean), ("int", .integer), ("float", .number), ("str", .text),
  ("timestamp", .moment), ("binary", .binary), ("seq", .sequence), ("map", .mapping),
  ("set", .set), ("omap", .pairs), ("pairs", .pairs), ("merge", .merge), ("value", .default)]

def Tag.isCollection (tag : Tag) : Bool :=
  [Tag.sequence, .mapping, .set, .pairs].contains tag

def Tag.isScalar (tag : Tag) : Bool :=
  [Tag.null, .boolean, .integer, .number, .text, .binary].contains tag

def tagDomain : String := "tag:yaml.org,2002:"

def Tag.ofText (text : String) : Tag :=
  match dropLead tagDomain.toList text.toList with
  | some name => (Tag.names.lookup (String.ofList name)).getD .unknown
  | none => .unknown

def truthWords : List String := [
  "yes", "Yes", "YES", "no", "No", "NO", "true", "True", "TRUE", "false", "False", "FALSE", "on",
  "On", "ON", "off", "Off", "OFF"]

def nullWords : List String := ["", "~", "null", "Null", "NULL"]

def infiniteWords : List String := [".inf", ".Inf", ".INF"]

def undefinedWords : List String := [".nan", ".NaN", ".NAN"]

def isSpacedDigit (c : Char) : Bool :=
  isAsciiDigit c || c == '_'

def isSpacedNumber (text : List Char) : Bool :=
  text.head?.any isAsciiDigit && text.all isSpacedDigit

def splitSign : List Char → Bool × List Char
  | '-' :: rest => (true, rest)
  | '+' :: rest => (false, rest)
  | text => (false, text)

def isNumberIn (base : Nat) (text : List Char) : Bool :=
  !text.isEmpty && text.all fun c => c == '_' || (digitIn? base c).isSome

def isMinutePart : List Char → Bool
  | [c] => isAsciiDigit c
  | [c, d] => '0' ≤ c && c ≤ '5' && isAsciiDigit d
  | _ => false

def isSexagesimal (text : List Char) : Bool :=
  match splitWhere (· == ':') text with
  | first :: rest => isSpacedNumber first && !rest.isEmpty && rest.all isMinutePart
  | [] => false

def isWholeNumber (text : List Char) : Bool :=
  match (splitSign text).2 with
  | '0' :: 'b' :: digits => isNumberIn 2 digits
  | '0' :: 'x' :: digits => isNumberIn 16 digits
  | ['0'] => true
  | '0' :: digits => isNumberIn 8 digits
  | digits => isSpacedNumber digits || isSexagesimal digits

def isSignedExponent : List Char → Bool
  | [] => true
  | mark :: sign :: digits =>
      (mark == 'e' || mark == 'E') && (sign == '-' || sign == '+') && !digits.isEmpty &&
        digits.all isAsciiDigit
  | _ => false

/-- Whether a plain scalar is a number with a point.  One that starts with the
point has no sign. -/
def isPointNumber (text : List Char) : Bool :=
  let digits := (splitSign text).2
  match cutAt '.' digits with
  | (_, none) => false
  | (whole, some rest) =>
      let fraction := rest.takeWhile isSpacedDigit
      let ending := rest.drop fraction.length
      if whole.isEmpty then
        text.head? == some '.' && fraction.head?.any isAsciiDigit && isSignedExponent ending
      else if isSpacedNumber whole then isSignedExponent ending
      else isSexagesimal whole && ending.isEmpty

def isNamedNumber (text : List Char) : Bool :=
  infiniteWords.contains (String.ofList (splitSign text).2) ||
    undefinedWords.contains (String.ofList text)

end DesignTokens.Yaml
