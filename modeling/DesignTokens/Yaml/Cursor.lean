import DesignTokens.Data.Fault
import DesignTokens.Text.Ascii

/-!
Places in the text of a YAML document, and the characters that separate its parts.
-/

namespace DesignTokens.Yaml

def isBreak (c : Char) : Bool :=
  c == '\n' || c == '\r' || c.toNat == 0x85 || c.toNat == 0x2028 || c.toNat == 0x2029

def isGap (c : Char) : Bool :=
  c == ' ' || c == '\t'

def atGap : List Char → Bool
  | [] => true
  | c :: _ => isGap c || isBreak c

def atLineEnd : List Char → Bool
  | [] => true
  | c :: _ => isBreak c

def atWordEnd (text : List Char) : Bool :=
  atLineEnd text || text.head? == some ' '

def breakText (c : Char) : Char :=
  if c.toNat == 0x2028 || c.toNat == 0x2029 then c else '\n'

def atDocumentMark (text : List Char) : Bool :=
  let mark := text.take 3
  (mark == ['-', '-', '-'] || mark == ['.', '.', '.']) && atGap (text.drop 3)

def byteOrderMark : Char :=
  Char.ofNat 0xFEFF

def isAllowed (c : Char) : Bool :=
  let code := c.toNat
  code == 9 || code == 10 || code == 13 || (0x20 ≤ code && code ≤ 0x7E) || code == 0x85 ||
    (0xA0 ≤ code && code ≤ 0xFFFD) || 0x10000 ≤ code

structure Cursor where
  rest : List Char
  index : Nat
  line : Nat
  column : Nat

namespace Cursor

def next (cursor : Cursor) : Cursor :=
  match cursor.rest with
  | [] => cursor
  | c :: rest =>
      if isBreak c then ⟨rest, cursor.index + 1, cursor.line + 1, 0⟩
      else if c == byteOrderMark then ⟨rest, cursor.index + 1, cursor.line, cursor.column⟩
      else ⟨rest, cursor.index + 1, cursor.line, cursor.column + 1⟩

def forward (cursor : Cursor) : Nat → Cursor
  | 0 => cursor
  | count + 1 => cursor.next.forward count

end Cursor

def lineRest? (text : List Char) : Option Nat :=
  let spaces := (text.takeWhile (· == ' ')).length
  let rest := text.drop spaces
  if atLineEnd rest then some spaces
  else if rest.head? == some '#' then
    some (spaces + (rest.takeWhile fun c => !isBreak c).length)
  else none

end DesignTokens.Yaml
