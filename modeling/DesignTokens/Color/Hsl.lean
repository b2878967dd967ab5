import DesignTokens.Number.Quantity

/-!
Conversion between red, green, blue and hue, saturation, lightness.  The
formulas are stated for any kind of number; the program runs them on doubles.
-/

namespace DesignTokens

inductive NumberFault where
  | undefined
  | infinite
  | tooLarge
  | zeroDivisor
deriving DecidableEq, Repr

def NumberFault.message : NumberFault → String
  | .undefined => "cannot convert float NaN to integer"
  | .infinite => "cannot convert float infinity to integer"
  | .tooLarge => "the number is too large"
  | .zeroDivisor => "division by zero"

class ColorNumber (α : Type) extends Add α, Sub α, Mul α, Div α where
  constant : Int → α
  less : α → α → Bool
  atMost : α → α → Bool
  equal : α → α → Bool
  divided : α → Nat → α
  times : α → Nat → α
  remainder : α → Nat → α
  round : α → Except NumberFault Int
  checked : α → Except NumberFault α

open ColorNumber

variable {α : Type} [ColorNumber α]

def half : α := (constant 1 : α) / constant 2

def third : α := (constant 1 : α) / constant 3

def twoThirds : α := (constant 2 : α) / constant 3

def sixth : α := (constant 1 : α) / constant 6

def larger (a b : α) : α :=
  if less a b then b else a

def smaller (a b : α) : α :=
  if less b a then b else a

def clamp (low high value : α) : α :=
  larger low (smaller high value)

def clampUnit (value : α) : α :=
  clamp (constant 0) (constant 1) value

structure Hsl (α : Type) where
  hue : α
  saturation : α
  lightness : α

def hueSextant (red green blue most least : α) : α :=
  let range := most - least
  let redGap := (most - red) / range
  let greenGap := (most - green) / range
  let blueGap := (most - blue) / range
  if equal red most then blueGap - greenGap
  else if equal green most then constant 2 + redGap - blueGap
  else constant 4 + greenGap - redGap

def checkedQuotient (a b : α) : Except NumberFault α :=
  if equal b (constant 0) then .error .zeroDivisor else .ok (a / b)

def Hsl.ofUnitChannels (red green blue : α) : Except NumberFault (Hsl α) :=
  let most := larger (larger red green) blue
  let least := smaller (smaller red green) blue
  let sum := most + least
  let range := most - least
  let lightness := sum / constant 2
  if equal least most then .ok ⟨constant 0, constant 0, lightness⟩
  else do
    let saturation ←
      checkedQuotient range (if atMost lightness half then sum else constant 2 - sum)
    let turn := remainder (hueSextant red green blue most least / constant 6) 1
    return ⟨turn * constant 360, saturation, lightness⟩

def Hsl.ofChannels (red green blue : α) : Except NumberFault (Hsl α) := do
  Hsl.ofUnitChannels (← checked (divided red 255)) (← checked (divided green 255))
    (← checked (divided blue 255))

def channelAt (low high turn : α) : α :=
  let place := remainder turn 1
  if less place sixth then low + (high - low) * place * constant 6
  else if less place half then high
  else if less place twoThirds then low + (high - low) * (twoThirds - place) * constant 6
  else low

def Hsl.unitChannels (color : Hsl α) : Except NumberFault (α × α × α) :=
  let light := color.lightness
  let saturation := color.saturation
  if equal saturation (constant 0) then .ok (light, light, light)
  else do
    let turn := remainder color.hue 360 / constant 360
    let high ← checked <|
      if atMost light half then light * (constant 1 + saturation)
      else light + saturation - light * saturation
    let low ← checked (constant 2 * light - high)
    return (channelAt low high (turn + third), channelAt low high turn,
      channelAt low high (turn - third))

def Hsl.channels (color : Hsl α) : Except NumberFault (Int × Int × Int) := do
  let (red, green, blue) ← color.unitChannels
  return (← round (times red 255), ← round (times green 255), ← round (times blue 255))

def wholeNumberNear (x : Float) : Except NumberFault Int :=
  match roundedToEven? x with
  | some number => .ok number
  | none => .error (if x.isNaN then .undefined else .infinite)

instance : ColorNumber Float where
  constant := nearestToInteger
  less a b := a < b
  atMost a b := a ≤ b
  equal a b := a == b
  divided a b := a / nearestToInteger b
  times a b := a * nearestToInteger b
  remainder a b := flooredRemainder a (nearestToInteger b)
  round := wholeNumberNear
  checked := .ok

instance : ColorNumber Quantity where
  constant number := .real (nearestToInteger number)
  less := Quantity.compare (· < ·) (· < ·)
  atMost := Quantity.compare (· ≤ ·) (· ≤ ·)
  equal := Quantity.compare (· == ·) (· == ·)
  divided a b := a / .whole b
  times a b := a * .whole b
  remainder := Quantity.remainder
  round
    | .whole number => .ok number
    | .real number => wholeNumberNear number
    | .tooLarge => .error .tooLarge
  checked
    | .tooLarge => .error .tooLarge
    | number => .ok number

end DesignTokens
