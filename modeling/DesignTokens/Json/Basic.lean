import DesignTokens.Number.Layout
import DesignTokens.Text.Quoted

/-!
JSON documents and their text.  Whole numbers and doubles are told apart, and
objects keep the order of their entries.
-/

namespace DesignTokens

inductive Json where
  | null
  | boolean (value : Bool)
  | integer (value : Int)
  | number (value : Float)
  | text (value : String)
  | array (items : List Json)
  | object (entries : List (String × Json))
deriving Inhabited

namespace Json

def unitEscape (unit : Nat) : List Char :=
  '\\' :: 'u' :: hexDigits 4 unit

def escapedChar (c : Char) : List Char :=
  if c == '"' then ['\\', '"']
  else if c == '\\' then ['\\', '\\']
  else if c == '\n' then ['\\', 'n']
  else if c == '\r' then ['\\', 'r']
  else if c == '\t' then ['\\', 't']
  else if c.toNat = 8 then ['\\', 'b']
  else if c.toNat = 12 then ['\\', 'f']
  else if 32 ≤ c.toNat ∧ c.toNat < 127 then [c]
  else if c.toNat < 0x10000 then unitEscape c.toNat
  else
    unitEscape (0xD800 + (c.toNat - 0x10000) / 0x400) ++
      unitEscape (0xDC00 + (c.toNat - 0x10000) % 0x400)

def writeText (text : String) : List Char :=
  '"' :: text.toList.flatMap escapedChar ++ ['"']

structure Spacing where
  indent : Option Nat

def Spacing.line (spacing : Spacing) (depth : Nat) : List Char :=
  match spacing.indent with
  | none => []
  | some width => '\n' :: List.replicate (width * depth) ' '

def Spacing.between (spacing : Spacing) (depth : Nat) : List Char :=
  match spacing.indent with
  | none => [',', ' ']
  | some _ => ',' :: spacing.line depth

mutual

def write (spacing : Spacing) (depth : Nat) : Json → List Char
  | .null => "null".toList
  | .boolean true => "true".toList
  | .boolean false => "false".toList
  | .integer value => (integerText value).toList
  | .number value => (NumberLayout.json.write value).toList
  | .text value => writeText value
  | .array [] => ['[', ']']
  | .array (item :: items) =>
      '[' :: spacing.line (depth + 1) ++ write spacing (depth + 1) item ++
        (writeItems spacing (depth + 1) items ++ (spacing.line depth ++ [']']))
  | .object [] => ['{', '}']
  | .object ((key, value) :: entries) =>
      '{' :: spacing.line (depth + 1) ++ writeText key ++ ':' :: ' ' ::
        write spacing (depth + 1) value ++
        (writeEntries spacing (depth + 1) entries ++ (spacing.line depth ++ ['}']))

def writeItems (spacing : Spacing) (depth : Nat) : List Json → List Char
  | [] => []
  | item :: items =>
      spacing.between depth ++ write spacing depth item ++ writeItems spacing depth items

def writeEntries (spacing : Spacing) (depth : Nat) : List (String × Json) → List Char
  | [] => []
  | (key, value) :: entries =>
      spacing.between depth ++ writeText key ++ ':' :: ' ' :: write spacing depth value ++
        writeEntries spacing depth entries

end

def render (json : Json) : String :=
  String.ofList (json.write ⟨none⟩ 0)

def pretty (json : Json) : String :=
  String.ofList (json.write ⟨some 2⟩ 0)

end Json

end DesignTokens
