import DesignTokens.Number.Decimal

/-!
The text of a double: digits are laid out around the point, or with an exponent
when the number is very large or very small.
-/

namespace DesignTokens

structure NumberLayout where
  precision : Option Nat
  /-- Numbers with this many digits before the point are written with an exponent. -/
  widest : Int
  pointZero : Bool
  infinityText : String
  undefinedText : String

def NumberLayout.full : NumberLayout :=
  ⟨none, 16, true, "inf", "nan"⟩

def NumberLayout.json : NumberLayout :=
  ⟨none, 16, true, "Infinity", "NaN"⟩

def NumberLayout.compact : NumberLayout :=
  ⟨some 6, 6, false, "inf", "nan"⟩

def significantDigits (significand : Nat) : List Char :=
  match trimTrailingZeros (decimalDigits significand) with
  | [] => ['0']
  | digits => digits
where
  trimTrailingZeros (digits : List Char) : List Char :=
    (digits.reverse.dropWhile (· == '0')).reverse

def exponentText (exponent : Int) : List Char :=
  let digits := decimalDigits exponent.natAbs
  'e' :: (if exponent < 0 then '-' else '+') ::
    (if digits.length < 2 then '0' :: digits else digits)

def NumberLayout.arrange (layout : NumberLayout) (digits : List Char) (exponent : Int) :
    List Char :=
  if exponent < -4 ∨ layout.widest ≤ exponent then
    match digits with
    | [] => []
    | [digit] => digit :: exponentText exponent
    | digit :: fraction => digit :: '.' :: fraction ++ exponentText exponent
  else if exponent < 0 then
    '0' :: '.' :: List.replicate (-exponent - 1).toNat '0' ++ digits
  else
    let count := exponent.toNat + 1
    let whole := digits.take count ++ List.replicate (count - digits.length) '0'
    match digits.drop count with
    | [] => if layout.pointZero then whole ++ ['.', '0'] else whole
    | fraction => whole ++ '.' :: fraction

def NumberLayout.magnitude (layout : NumberLayout) (b : Binary) : List Char :=
  if b.mantissa = 0 then layout.arrange ['0'] 0
  else
    let decimal :=
      match layout.precision with
      | none => b.shortest
      | some digits => b.significant digits
    layout.arrange (significantDigits decimal.significand)
      ((decimalDigits decimal.significand).length + decimal.exponent - 1)

def NumberLayout.write (layout : NumberLayout) (x : Float) : String :=
  match Binary.ofFloat? x with
  | some b =>
      let text := layout.magnitude b
      String.ofList (if b.negative then '-' :: text else text)
  | none =>
      if x.isNaN then layout.undefinedText
      else if isNegative x then "-" ++ layout.infinityText
      else layout.infinityText

def numberText (x : Float) : String :=
  NumberLayout.full.write x

def styleNumber (x : Float) : String :=
  match wholeNumber? x with
  | some number => integerText number
  | none => NumberLayout.compact.write x

end DesignTokens
