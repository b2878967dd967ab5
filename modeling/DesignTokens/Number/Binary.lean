/-!
Doubles as exact fractions: taking one apart, rounding a fraction to the
nearest double, rounding a double to a whole number, and the floored remainder.
-/

namespace DesignTokens

structure Binary where
  negative : Bool
  mantissa : Nat
  exponent : Int
deriving DecidableEq, Repr

def Binary.ofFloat? (x : Float) : Option Binary :=
  let bits := x.toBits.toNat
  let field : Nat := bits / Nat.pow 2 52 % 2048
  let fraction := bits % Nat.pow 2 52
  let negative := bits / Nat.pow 2 63 == 1
  if field = 2047 then none
  else if field = 0 then some ⟨negative, fraction, -1074⟩
  else some ⟨negative, Nat.pow 2 52 + fraction, Int.ofNat field - 1075⟩

def Binary.numerator (b : Binary) : Nat :=
  b.mantissa * Nat.pow 2 b.exponent.toNat

def Binary.denominator (b : Binary) : Nat :=
  Nat.pow 2 (-b.exponent).toNat

def isNegative (x : Float) : Bool :=
  x.toBits.toNat / Nat.pow 2 63 == 1

def infinity : Float :=
  Float.ofBits 0x7FF0000000000000

def undefinedNumber : Float :=
  Float.ofBits 0x7FF8000000000000

def signed (negative : Bool) (x : Float) : Float :=
  if negative then -x else x

def roundQuotient (numerator denominator : Nat) : Nat :=
  let quotient := numerator / denominator
  let remainder := numerator % denominator
  if 2 * remainder < denominator then quotient
  else if denominator < 2 * remainder then quotient + 1
  else if quotient % 2 = 0 then quotient else quotient + 1

def unitExponent (numerator denominator : Nat) : Int :=
  let low : Int := Int.ofNat numerator.log2 - Int.ofNat denominator.log2 - 53
  let scaledNumerator := numerator * Nat.pow 2 (-low).toNat
  let scaledDenominator := denominator * Nat.pow 2 low.toNat
  max (-1074) (if Nat.pow 2 53 * scaledDenominator ≤ scaledNumerator then low + 1 else low)

def nearestFloat (negative : Bool) (numerator denominator : Nat) : Float :=
  if numerator = 0 then signed negative (Float.ofBits 0)
  else
    let unit := unitExponent numerator denominator
    let mantissa :=
      roundQuotient (numerator * Nat.pow 2 (-unit).toNat) (denominator * Nat.pow 2 unit.toNat)
    let bits := (unit + 1074).toNat * Nat.pow 2 52 + mantissa
    if bits < 0x7FF0000000000000 then signed negative (Float.ofBits (UInt64.ofNat bits))
    else signed negative infinity

def nearestToInteger (number : Int) : Float :=
  nearestFloat (number < 0) number.natAbs 1

def finiteFloat? (number : Int) : Option Float :=
  let x := nearestToInteger number
  if x.isFinite then some x else none

def nearestQuotient (numerator denominator : Int) : Float :=
  nearestFloat ((numerator < 0) != (denominator < 0)) numerator.natAbs denominator.natAbs

def withSign (negative : Bool) (magnitude : Nat) : Int :=
  if negative then -Int.ofNat magnitude else Int.ofNat magnitude

def wholeNumber? (x : Float) : Option Int :=
  (Binary.ofFloat? x).bind fun b =>
    if b.numerator % b.denominator = 0 then
      some (withSign b.negative (b.numerator / b.denominator))
    else none

def roundedToEven? (x : Float) : Option Int :=
  (Binary.ofFloat? x).map fun b => withSign b.negative (roundQuotient b.numerator b.denominator)

def truncatedRemainder (x y : Float) : Float :=
  match Binary.ofFloat? x, Binary.ofFloat? y with
  | none, _ => undefinedNumber
  | some _, none => if y.isNaN then y else x
  | some a, some b =>
      if b.mantissa = 0 then undefinedNumber
      else
        let unit := min a.exponent b.exponent
        let remainder :=
          a.mantissa * Nat.pow 2 (a.exponent - unit).toNat %
            (b.mantissa * Nat.pow 2 (b.exponent - unit).toNat)
        nearestFloat a.negative (remainder * Nat.pow 2 unit.toNat) (Nat.pow 2 (-unit).toNat)

/-- The remainder of a division that rounds down: it takes the sign of the
divisor, also when it is zero. -/
def flooredRemainder (x y : Float) : Float :=
  let remainder := truncatedRemainder x y
  if remainder == 0 then signed (isNegative y) (Float.ofBits 0)
  else if (y < 0) != (remainder < 0) then remainder + y
  else remainder

end DesignTokens
