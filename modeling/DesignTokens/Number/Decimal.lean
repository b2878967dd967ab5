import DesignTokens.Number.Binary
import DesignTokens.Text.DecimalDigit

/-!
Decimals beside doubles: the shortest decimal that reads back as a double, the
nearest decimal of a given number of digits, and the double nearest to a decimal.
-/

namespace DesignTokens

structure Decimal where
  significand : Nat
  exponent : Int
deriving DecidableEq, Repr

/-- How many digits stand before the point of a positive fraction; below a
tenth the count is negative, by the zeros after the point. -/
def leadingPlace (numerator denominator : Nat) : Int :=
  let place : Int :=
    Int.ofNat (decimalDigits numerator).length - Int.ofNat (decimalDigits denominator).length
  if denominator * Nat.pow 10 place.toNat ≤ numerator * Nat.pow 10 (-place).toNat then place + 1
  else place

structure RoundingInterval where
  low : Nat
  value : Nat
  high : Nat
  denominator : Nat
  closed : Bool
deriving Repr

def Binary.interval (b : Binary) : RoundingInterval :=
  let scale := Nat.pow 2 (b.exponent - 2).toNat
  let below := if b.mantissa = Nat.pow 2 52 ∧ -1074 < b.exponent then 1 else 2
  { low := (4 * b.mantissa - below) * scale
    value := 4 * b.mantissa * scale
    high := (4 * b.mantissa + 2) * scale
    denominator := Nat.pow 2 (2 - b.exponent).toNat
    closed := b.mantissa % 2 = 0 }

def RoundingInterval.contains (interval : RoundingInterval) (numerator denominator : Nat) : Bool :=
  let point := numerator * interval.denominator
  if interval.closed then
    interval.low * denominator ≤ point && point ≤ interval.high * denominator
  else
    interval.low * denominator < point && point < interval.high * denominator

def RoundingInterval.gridPoint? (interval : RoundingInterval) (grid : Int) : Option Decimal :=
  let up := Nat.pow 10 grid.toNat
  let down := Nat.pow 10 (-grid).toNat
  let floor := interval.value * down / (interval.denominator * up)
  let nearest := roundQuotient (interval.value * down) (interval.denominator * up)
  let other := if nearest = floor then floor + 1 else floor
  if interval.contains (nearest * up) down then some ⟨nearest, grid⟩
  else if interval.contains (other * up) down then some ⟨other, grid⟩
  else none

def RoundingInterval.firstGridPoint? (interval : RoundingInterval) (place : Int) :
    List Nat → Option Decimal
  | [] => none
  | digits :: rest =>
      match interval.gridPoint? (place - digits) with
      | some decimal => some decimal
      | none => interval.firstGridPoint? place rest

/-- The decimal of fewest digits that rounds to a positive double, and of those
the nearest to it.  Seventeen digits always suffice. -/
def Binary.shortest (b : Binary) : Decimal :=
  let place := leadingPlace b.numerator b.denominator
  (b.interval.firstGridPoint? place (List.range' 1 17)).getD ⟨b.numerator, 0⟩

def Binary.significant (digits : Nat) (b : Binary) : Decimal :=
  let grid := leadingPlace b.numerator b.denominator - digits
  ⟨roundQuotient (b.numerator * Nat.pow 10 (-grid).toNat)
    (b.denominator * Nat.pow 10 grid.toNat), grid⟩

/-- The double nearest to a decimal.  Exponents beyond the reach of doubles are
settled without computing the power. -/
def Decimal.toFloat (negative : Bool) (decimal : Decimal) : Float :=
  let place := Int.ofNat (decimalDigits decimal.significand).length + decimal.exponent
  if decimal.significand = 0 ∨ place < -400 then nearestFloat negative 0 1
  else if 400 < place then signed negative infinity
  else
    nearestFloat negative (decimal.significand * Nat.pow 10 decimal.exponent.toNat)
      (Nat.pow 10 (-decimal.exponent).toNat)

def roundedToPlaces (places : Nat) (x : Float) : Float :=
  match Binary.ofFloat? x with
  | none => x
  | some b =>
      nearestFloat b.negative (roundQuotient (b.numerator * Nat.pow 10 places) b.denominator)
        (Nat.pow 10 places)

end DesignTokens
