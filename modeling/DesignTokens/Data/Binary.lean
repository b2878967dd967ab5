import DesignTokens.Text.Ascii

/-!
Bytes in a document: their base 64 form, and how they are shown.
-/

namespace DesignTokens

def base64Value? (c : Char) : Option Nat :=
  if isAsciiUpper c then some (c.toNat - 'A'.toNat)
  else if isAsciiLower c then some (c.toNat - 'a'.toNat + 26)
  else if isAsciiDigit c then some (c.toNat - '0'.toNat + 52)
  else if c == '+' then some 62
  else if c == '/' then some 63
  else none

/-- Bytes from base 64, after some characters of a group of four.  The bits of
these that are not in a byte yet are in `left`, and `padding` counts the padding
characters since the last other one.  Characters of no meaning are skipped. -/
def base64Bytes? (place left padding : Nat) : List Char → Option (List UInt8)
  | [] => if place = 0 then some [] else none
  | c :: rest =>
      if c == '=' then
        if 2 ≤ place && 4 ≤ place + padding + 1 then some []
        else base64Bytes? place left (if 2 ≤ place then padding + 1 else padding) rest
      else
        match base64Value? c, place with
        | none, _ => base64Bytes? place left padding rest
        | some value, 0 => base64Bytes? 1 value 0 rest
        | some value, 1 =>
            (base64Bytes? 2 (value % 16) 0 rest).map (UInt8.ofNat (4 * left + value / 16) :: ·)
        | some value, 2 =>
            (base64Bytes? 3 (value % 4) 0 rest).map (UInt8.ofNat (16 * left + value / 4) :: ·)
        | some value, _ => (base64Bytes? 0 0 0 rest).map (UInt8.ofNat (64 * left + value) :: ·)

def byteShown (mark : Char) (byte : UInt8) : List Char :=
  let c := Char.ofNat byte.toNat
  if c == mark || c == '\\' then ['\\', c]
  else if c == '\t' then ['\\', 't']
  else if c == '\n' then ['\\', 'n']
  else if c == '\r' then ['\\', 'r']
  else if byte < 32 || 127 ≤ byte then '\\' :: 'x' :: hexDigits 2 byte.toNat
  else [c]

def bytesShown (bytes : List UInt8) : String :=
  let mark := if bytes.contains '\''.toUInt8 && !bytes.contains '"'.toUInt8 then '"' else '\''
  String.ofList (['b', mark] ++ bytes.flatMap (byteShown mark) ++ [mark])

end DesignTokens
