import DesignTokens.Number.Decimal
import DesignTokens.Text.Ascii
import DesignTokens.Text.Blank

/-!
Reading doubles from text, and plain numbers from the front of a text.
-/

namespace DesignTokens

def leadingDigits (text : List Char) : List Char :=
  text.takeWhile isDecimalDigit

def Decimal.ofParts (whole fraction : List Char) (exponent : Int) : Decimal :=
  ⟨digitsValue (whole ++ fraction), exponent - fraction.length⟩

/-- A number without sign and exponent at the front of a text, and what follows
it: digits with an optional point, or a point with digits. -/
def leadingDecimal? (text : List Char) : Option (Decimal × List Char) :=
  let whole := leadingDigits text
  match text.drop whole.length with
  | '.' :: rest =>
      let fraction := leadingDigits rest
      if whole.isEmpty && fraction.isEmpty then none
      else some (Decimal.ofParts whole fraction 0, rest.drop fraction.length)
  | rest => if whole.isEmpty then none else some (Decimal.ofParts whole [] 0, rest)

def leadingNumber? (text : List Char) : Option (Float × List Char) :=
  match text with
  | '-' :: rest => (leadingDecimal? rest).map fun (decimal, after) => (decimal.toFloat true, after)
  | _ => (leadingDecimal? text).map fun (decimal, after) => (decimal.toFloat false, after)

def plainNumber? (text : List Char) : Option Float :=
  match leadingNumber? text with
  | some (number, []) => some number
  | _ => none

def exponent? : List Char → Option Int
  | [] => some 0
  | mark :: rest =>
      if mark == 'e' || mark == 'E' then
        let (negative, digits) :=
          match rest with
          | '-' :: digits => (true, digits)
          | '+' :: digits => (false, digits)
          | digits => (false, digits)
        if !digits.isEmpty && digits.all isDecimalDigit then
          some (withSign negative (digitsValue digits))
        else none
      else none

def magnitude? (negative : Bool) (text : List Char) : Option Float :=
  match leadingDecimal? text with
  | some (decimal, rest) =>
      (exponent? rest).map fun exponent =>
        Decimal.toFloat negative { decimal with exponent := decimal.exponent + exponent }
  | none =>
      let name := asciiLowerCased text
      if name == "inf" || name == "infinity" then some (signed negative infinity)
      else if name == "nan" then some undefinedNumber
      else none

def withoutUnderscores (afterDigit : Bool) : List Char → Option (List Char)
  | [] => some []
  | '_' :: next :: rest =>
      if afterDigit && isDecimalDigit next then
        (withoutUnderscores true rest).map (next :: ·)
      else none
  | '_' :: [] => none
  | c :: rest => (withoutUnderscores (isDecimalDigit c) rest).map (c :: ·)

def plainCharacter (c : Char) : Char :=
  if c.toNat < 127 then c
  else if isBlank c then ' '
  else
    match decimalDigit? c with
    | some digit => digitChar digit
    | none => '?'

def isNumberPadding (c : Char) : Bool :=
  c == ' ' || (9 ≤ c.toNat && c.toNat ≤ 13)

def signedNumber? : List Char → Option Float
  | '-' :: rest => magnitude? true rest
  | '+' :: rest => magnitude? false rest
  | text => magnitude? false text

def readFloat? (text : String) : Option Float :=
  (withoutUnderscores false
    (trimWhere isNumberPadding (text.toList.map plainCharacter))).bind signedNumber?

end DesignTokens
