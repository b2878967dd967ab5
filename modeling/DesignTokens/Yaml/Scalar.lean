import DesignTokens.Data.Basic
import DesignTokens.Data.Binary
import DesignTokens.Number.Quantity
import DesignTokens.Number.Reading
import DesignTokens.Text.LowerCase
import DesignTokens.Yaml.Moment

/-!
The values of YAML scalars.
-/

namespace DesignTokens.Yaml

def Tag.ofPlain (text : String) : Tag :=
  let chars := text.toList
  if truthWords.contains text then .boolean
  else if isPointNumber chars || isNamedNumber chars then .number
  else if isWholeNumber chars then .integer
  else if text == "<<" then .merge
  else if nullWords.contains text then .null
  else if isMoment chars then .moment
  else if text == "=" then .default
  else if text == "!" || text == "&" || text == "*" then .unknown
  else .text

def baseMark? : Nat → Option Char
  | 2 => some 'b'
  | 8 => some 'o'
  | 16 => some 'x'
  | _ => none

def withoutBaseMark (base : Nat) (text : List Char) : List Char :=
  match text with
  | '0' :: mark :: digits => if some (asciiLowerChar mark) == baseMark? base then digits else text
  | _ => text

def readInteger (base : Nat) (text : List Char) : Except DataFault Int :=
  let (negative, rest) := splitSign (trimWhere isNumberPadding (text.map plainCharacter))
  let digits := withoutBaseMark base rest
  if base = 10 ∧ digitLimit < digits.length ∧ digits.all isAsciiDigit then
    .error (.tooManyDigits (some digits.length))
  else
    match if digits.isEmpty then none else numberIn? base digits with
    | some value => .ok (withSign negative value)
    | none => .error (.notWhole base (String.ofList text))

def readNumber (text : List Char) : Except DataFault Float :=
  match readFloat? (String.ofList text) with
  | some value => .ok value
  | none => .error (.notNumber (String.ofList text))

def numberParts (text : List Char) : Except DataFault (Bool × List Char) :=
  if text.isEmpty then .error .noText else .ok (splitSign text)

def negated (negative : Bool) (value : Int) : Int :=
  if negative then -value else value

def integerValue (text : String) : Except DataFault Int := do
  let (negative, digits) ← numberParts (text.toList.filter (· != '_'))
  let value : Int ←
    match digits with
    | [] => .error .noText
    | ['0'] => .ok 0
    | '0' :: 'b' :: rest => readInteger 2 rest
    | '0' :: 'x' :: rest => readInteger 16 rest
    | '0' :: _ => readInteger 8 digits
    | _ =>
        if digits.contains ':' then do
          let parts ← (splitWhere (· == ':') digits).mapM (readInteger 10)
          pure (parts.foldl (fun value part => 60 * value + part) 0)
        else readInteger 10 digits
  return negated negative value

def sexagesimalSum (base : Nat) (sum : Float) : List Float → Except DataFault Float
  | [] => .ok sum
  | part :: parts =>
      match finiteFloat? base with
      | none => .error .tooLarge
      | some factor => sexagesimalSum (60 * base) (sum + part * factor) parts

def numberValue (text : String) : Except DataFault Float := do
  let (negative, digits) ←
    numberParts (lowerCase (text.toList.filter (· != '_')))
  if String.ofList digits == ".nan" then return undefinedNumber
  else if String.ofList digits == ".inf" then return signed negative infinity
  else if digits.contains ':' then do
    let parts ← (splitWhere (· == ':') digits).mapM readNumber
    return signed negative (← sexagesimalSum 1 0 parts.reverse)
  else return signed negative (← readNumber digits)

def truthValue (text : String) : Except DataFault Bool :=
  let word := lowerCased text
  if !truthWords.contains word then .error .truthWord
  else .ok (word == "yes" || word == "true" || word == "on")

def momentValue (text : String) : Except DataFault Scalar :=
  match day? text.toList, moment? text.toList with
  | some date, _ => date.fault?.elim (.ok (.ofDay date)) .error
  | none, some moment => moment.fault?.elim (.ok (.ofMoment moment)) .error
  | none, none => .error .moment

def binaryValue? (text : String) : Option Scalar :=
  if text.toList.all fun c => c.toNat < 128 then
    (base64Bytes? 0 0 0 text.toList).map .bytes
  else none

def scalarValue (tag : Tag) (text : String) : Except ReadingFault Scalar :=
  match tag with
  | .null => .ok .null
  | .text => .ok (.text text)
  | .boolean => ((truthValue text).map Scalar.boolean).mapError .data
  | .integer => ((integerValue text).map Scalar.integer).mapError .data
  | .number => ((numberValue text).map Scalar.number).mapError .data
  | .moment => (momentValue text).mapError .data
  | .binary => wellFormed (binaryValue? text)
  | _ => .error .malformed

/-- Whether two keys of a mapping are one: numbers and truth values are compared
by their number. -/
def sameKey (key other : Scalar) : Bool :=
  match number? key, number? other with
  | some x, some y => Quantity.compare (· == ·) sameBeside x y
  | none, none => key = other
  | _, _ => false
where
  number? : Scalar → Option Quantity
    | .boolean value => some (.whole (if value then 1 else 0))
    | .integer value => some (.whole value)
    | .number value => some (.real value)
    | _ => none
  sameBeside (x y : Float) : Bool :=
    x == y || (x.isNaN && y.isNaN)

def putEntry (entries : List (Scalar × Data)) (key : Scalar) (value : Data) :
    List (Scalar × Data) :=
  match entries with
  | [] => [(key, value)]
  | (other, old) :: rest =>
      if sameKey other key then (other, value) :: rest else (other, old) :: putEntry rest key value

end DesignTokens.Yaml
