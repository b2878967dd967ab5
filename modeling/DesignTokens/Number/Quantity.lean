import DesignTokens.Number.Binary

/-!
Whole numbers and doubles side by side.  A whole number stays exact until it
meets a double.
-/

namespace DesignTokens

inductive Quantity where
  | whole (value : Int)
  | real (value : Float)
  | tooLarge

namespace Quantity

def toFloat? : Quantity → Option Float
  | .whole value => finiteFloat? value
  | .real value => some value
  | .tooLarge => none

def combine (operation : Float → Float → Float) (a b : Quantity) : Quantity :=
  match a.toFloat?, b.toFloat? with
  | some x, some y => .real (operation x y)
  | _, _ => .tooLarge

def combineExact (exact : Int → Int → Int) (operation : Float → Float → Float) :
    Quantity → Quantity → Quantity
  | .whole a, .whole b => .whole (exact a b)
  | a, b => combine operation a b

instance : Add Quantity := ⟨combineExact (· + ·) (· + ·)⟩

instance : Sub Quantity := ⟨combineExact (· - ·) (· - ·)⟩

instance : Mul Quantity := ⟨combineExact (· * ·) (· * ·)⟩

def quotient : Quantity → Quantity → Quantity
  | .whole a, .whole b =>
      let result := nearestQuotient a b
      if result.isFinite then .real result else .tooLarge
  | a, b => combine (· / ·) a b

instance : Div Quantity := ⟨quotient⟩

def remainder : Quantity → Nat → Quantity
  | .whole a, divisor => .whole (a % divisor)
  | a, divisor => combine flooredRemainder a (.whole divisor)

def fraction? : Quantity → Option (Int × Nat)
  | .whole value => some (value, 1)
  | .real value =>
      (Binary.ofFloat? value).map fun b => (withSign b.negative b.numerator, b.denominator)
  | .tooLarge => none

def beside : Quantity → Float
  | .real value => value
  | _ => 0

def compare (exact : Int → Int → Bool) (inexact : Float → Float → Bool) (a b : Quantity) : Bool :=
  match a.fraction?, b.fraction? with
  | some (n, d), some (m, e) => exact (n * e) (m * d)
  | _, _ => inexact a.beside b.beside

end Quantity

end DesignTokens
