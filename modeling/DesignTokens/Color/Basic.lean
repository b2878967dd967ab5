import DesignTokens.Color.Hsl
import DesignTokens.Number.Layout
import DesignTokens.Text.Quoted

/-!
Colours: three channels and an opacity, their text, and their adjustments.
-/

namespace DesignTokens

structure Color where
  red : Int
  green : Int
  blue : Int
  alpha : Float
deriving DecidableEq

def channelDigits (channel : Int) : List Char :=
  let digits := hexDigits (channel.natAbs.log2 / 4 + 1) channel.natAbs
  if channel < 0 then '-' :: digits
  else if digits.length < 2 then '0' :: digits
  else digits

namespace Color

def hex (color : Color) : String :=
  String.ofList <|
    '#' :: channelDigits color.red ++ channelDigits color.green ++ channelDigits color.blue

def css (color : Color) : String :=
  if 1.0 ≤ color.alpha then color.hex
  else
    "rgba(" ++ integerText color.red ++ ", " ++ integerText color.green ++ ", " ++
      integerText color.blue ++ ", " ++ NumberLayout.compact.write color.alpha ++ ")"

def hsl (color : Color) : Except NumberFault (Hsl Float) :=
  Hsl.ofChannels (nearestToInteger color.red) (nearestToInteger color.green)
    (nearestToInteger color.blue)

def ofHsl (hsl : Hsl Float) (alpha : Float) : Except NumberFault Color := do
  let (red, green, blue) ← hsl.channels
  return ⟨red, green, blue, alpha⟩

def adjustLightness (color : Color) (amount : Float) : Except NumberFault Color := do
  let hsl ← color.hsl
  ofHsl { hsl with lightness := clampUnit (hsl.lightness + amount) } color.alpha

def adjustSaturation (color : Color) (amount : Float) : Except NumberFault Color := do
  let hsl ← color.hsl
  ofHsl { hsl with saturation := clampUnit (hsl.saturation + amount) } color.alpha

def withAlpha (color : Color) (alpha : Float) : Color :=
  { color with alpha := clampUnit alpha }

end Color

end DesignTokens
