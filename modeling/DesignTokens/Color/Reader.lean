import DesignTokens.Color.Basic
import DesignTokens.Number.Reading
import DesignTokens.Text.LowerCase

/-!
Reading colours: names, hexadecimal digits, and the functions `rgb`, `rgba`,
`hsl` and `hsla`.
-/

namespace DesignTokens

inductive ColorFault where
  | unknown (text : String)
  | arguments (text : String)
  | number (text : String)
  | arithmetic (fault : NumberFault)
deriving DecidableEq, Repr

def ColorFault.message : ColorFault → String
  | .unknown text => "Invalid color: " ++ quoted text
  | .arguments text => "Invalid color function: " ++ quoted text
  | .number text => "could not convert string to float: " ++ quoted text
  | .arithmetic fault => fault.message

namespace Color

def named : List (String × Color) := [
  ("black", ⟨0, 0, 0, 1.0⟩), ("white", ⟨255, 255, 255, 1.0⟩), ("red", ⟨255, 0, 0, 1.0⟩),
  ("green", ⟨0, 128, 0, 1.0⟩), ("blue", ⟨0, 0, 255, 1.0⟩), ("gray", ⟨128, 128, 128, 1.0⟩),
  ("grey", ⟨128, 128, 128, 1.0⟩), ("transparent", ⟨0, 0, 0, 0.0⟩)]

def byte (high low : Nat) : Int :=
  Int.ofNat (16 * high + low)

def byteAlpha (high low : Nat) : Float :=
  roundedToPlaces 3 (nearestQuotient (byte high low) 255)

def ofHexDigits : List Nat → Option Color
  | [r, g, b] => some ⟨byte r r, byte g g, byte b b, 1.0⟩
  | [r, g, b, a] => some ⟨byte r r, byte g g, byte b b, byteAlpha a a⟩
  | [r, r', g, g', b, b'] => some ⟨byte r r', byte g g', byte b b', 1.0⟩
  | [r, r', g, g', b, b', a, a'] => some ⟨byte r r', byte g g', byte b b', byteAlpha a a'⟩
  | _ => none

def ofHex? : List Char → Option Color
  | '#' :: digits => (digits.mapM hexValue?).bind ofHexDigits
  | _ => none

def isFunctionLetter (letter c : Char) : Bool :=
  asciiLowerChar c == letter || (letter == 's' && c.toNat == 0x17F)

inductive Model where
  | rgb
  | hsl

def functionName? : List Char → Option (Model × List Char)
  | first :: second :: third :: rest =>
      let rest :=
        match rest with
        | c :: after => if asciiLowerChar c == 'a' then after else rest
        | [] => rest
      if isFunctionLetter 'r' first && isFunctionLetter 'g' second &&
          isFunctionLetter 'b' third then
        some (.rgb, rest)
      else if isFunctionLetter 'h' first && isFunctionLetter 's' second &&
          isFunctionLetter 'l' third then
        some (.hsl, rest)
      else none
  | _ => none

def function? (text : List Char) : Option (Model × List Char) :=
  (functionName? text).bind fun (model, rest) =>
    match rest with
    | '(' :: arguments =>
        (dropTail [')'] arguments).bind fun body =>
          if body.contains '\n' then none else some (model, body)
    | _ => none

def splitArguments (body : List Char) : List (List Char) × Option (List Char) :=
  let (channels, alpha) := cutAt '/' body
  (pieces (fun c => isBlank c || c == ',') (trim channels), alpha)

def arguments? (body : List Char) :
    Option ((List Char × List Char × List Char) × Option (List Char)) :=
  match splitArguments body with
  | ([a, b, c, d], none) => some ((a, b, c), some d)
  | ([a, b, c], alpha) => some ((a, b, c), alpha)
  | _ => none

def number (text : List Char) : Except ColorFault Float :=
  match readFloat? (String.ofList text) with
  | some x => .ok x
  | none => .error (.number (String.ofList text))

def alphaArgument (raw : List Char) : Except ColorFault Float := do
  let text := trim raw
  match dropTail ['%'] text with
  | some percent => return clampUnit ((← number percent) / 100.0)
  | none => return clampUnit (← number text)

def rounded (x : Float) : Except ColorFault Int :=
  (ColorNumber.round x).mapError ColorFault.arithmetic

def channelArgument (raw : List Char) : Except ColorFault Int := do
  let text := trim raw
  match dropTail ['%'] text with
  | some percent => rounded (clampUnit ((← number percent) / 100.0) * 255.0)
  | none => rounded (clamp 0.0 255.0 (← number text))

def hueArgument (text : List Char) : Except ColorFault Float := do
  return flooredRemainder (← number ((dropTail "deg".toList text).getD text)) 360.0

def percentArgument (text : List Char) : Except ColorFault Float := do
  return clampUnit ((← number (trimEndWhere (· == '%') text)) / 100.0)

def ofArguments (model : Model) (channels : List Char × List Char × List Char)
    (alpha : Option (List Char)) : Except ColorFault Color := do
  let opacity ←
    match alpha with
    | some text => alphaArgument text
    | none => pure 1.0
  let (first, second, third) := channels
  match model with
  | .rgb =>
      return ⟨← channelArgument first, ← channelArgument second, ← channelArgument third, opacity⟩
  | .hsl =>
      let hue ← hueArgument first
      let saturation ← percentArgument second
      let lightness ← percentArgument third
      (ofHsl ⟨hue, saturation, lightness⟩ opacity).mapError ColorFault.arithmetic

def parse (text : String) : Except ColorFault Color :=
  let value := trim text.toList
  match named.lookup (String.ofList (lowerCase value)) with
  | some color => .ok color
  | none =>
      match ofHex? value with
      | some color => .ok color
      | none =>
          match function? value with
          | some (model, body) =>
              match arguments? body with
              | some (channels, alpha) => ofArguments model channels alpha
              | none => .error (.arguments text)
          | none => .error (.unknown text)

def isColorText (text : String) : Bool :=
  (parse text).isOk

end Color

end DesignTokens
