import DesignTokens.Json.Reader

/-!
The grammar of JSON.  A text spells a document if it is made of the document's tokens, with
blanks between them as one likes.  It says nothing of how a text is read or written.
-/

namespace DesignTokens

namespace Json

def IsBlank (text : List Char) : Prop :=
  ∀ c ∈ text, c = ' ' ∨ c = '\n' ∨ c = '\r' ∨ c = '\t'

def IsDigits (text : List Char) : Prop :=
  text ≠ [] ∧ ∀ c ∈ text, isAsciiDigit c = true

def IsWhole (digits : List Char) : Prop :=
  IsDigits digits ∧ (digits.head? = some '0' → digits = ['0'])

def IsMark (c : Char) : Prop :=
  c = 'e' ∨ c = 'E'

inductive Exponent : Int → List Char → Prop
  | plain {mark digits} : IsMark mark → IsDigits digits →
      Exponent (digitsValue digits) (mark :: digits)
  | plus {mark digits} : IsMark mark → IsDigits digits →
      Exponent (digitsValue digits) (mark :: '+' :: digits)
  | minus {mark digits} : IsMark mark → IsDigits digits →
      Exponent (-digitsValue digits) (mark :: '-' :: digits)

inductive Magnitude (negative : Bool) : Json → List Char → Prop
  | whole {digits} : IsWhole digits →
      Magnitude negative (.integer (withSign negative (digitsValue digits))) digits
  | fraction {digits fraction} : IsWhole digits → IsDigits fraction →
      Magnitude negative (.number ((Decimal.ofParts digits fraction 0).toFloat negative))
        (digits ++ '.' :: fraction)
  | scaled {digits power text} : IsWhole digits → Exponent power text →
      Magnitude negative (.number ((Decimal.ofParts digits [] power).toFloat negative))
        (digits ++ text)
  | scaledFraction {digits fraction power text} : IsWhole digits → IsDigits fraction →
      Exponent power text →
      Magnitude negative (.number ((Decimal.ofParts digits fraction power).toFloat negative))
        (digits ++ '.' :: (fraction ++ text))

def shortEscapes : List (Char × Char) := [
  ('"', '"'), ('\\', '\\'), ('/', '/'), ('b', Char.ofNat 8), ('f', Char.ofNat 12), ('n', '\n'),
  ('r', '\r'), ('t', '\t')]

def IsUnit (unit : Nat) (digits : List Char) : Prop :=
  digits.length = 4 ∧ numberIn? 16 digits = some unit

inductive Characters : List Char → List Char → Prop
  | nil : Characters [] []
  | plain {c chars text} : 32 ≤ c.toNat → c ≠ '"' → c ≠ '\\' → Characters chars text →
      Characters (c :: chars) (c :: text)
  | short {letter c chars text} : (letter, c) ∈ shortEscapes → Characters chars text →
      Characters (c :: chars) ('\\' :: letter :: text)
  | unit {c digits chars text} : IsUnit c.toNat digits → Characters chars text →
      Characters (c :: chars) ('\\' :: 'u' :: digits ++ text)
  | pair {c high low first second chars text} : IsUnit (0xD800 + high) first →
      IsUnit (0xDC00 + low) second → high < 0x400 → low < 0x400 →
      c.toNat = 0x10000 + high * 0x400 + low → Characters chars text →
      Characters (c :: chars) ('\\' :: 'u' :: first ++ ('\\' :: 'u' :: second ++ text))

inductive Token.Spells : Token → List Char → Prop
  | openArray : Token.Spells .openArray ['[']
  | closeArray : Token.Spells .closeArray [']']
  | openObject : Token.Spells .openObject ['\x7b']
  | closeObject : Token.Spells .closeObject ['\x7d']
  | comma : Token.Spells .comma [',']
  | colon : Token.Spells .colon [':']
  | text {value inner} : Characters value.toList inner →
      Token.Spells (.text value) ('"' :: inner ++ ['"'])
  | null : Token.Spells (.plain .null) "null".toList
  | true : Token.Spells (.plain (.boolean true)) "true".toList
  | false : Token.Spells (.plain (.boolean false)) "false".toList
  | positive {number text} : Magnitude Bool.false number text → Token.Spells (.plain number) text
  | negative {number text} : Magnitude Bool.true number text →
      Token.Spells (.plain number) ('-' :: text)

inductive SpellsAll : List Token → List Char → Prop
  | done {blank} : IsBlank blank → SpellsAll [] blank
  | next {blank token text tokens rest} : IsBlank blank → Token.Spells token text →
      SpellsAll tokens rest → SpellsAll (token :: tokens) (blank ++ text ++ rest)

mutual

def tokens : Json → List Token
  | .text value => [.text value]
  | .array [] => [.openArray, .closeArray]
  | .array (item :: items) => .openArray :: tokens item ++ (itemTokens items ++ [.closeArray])
  | .object [] => [.openObject, .closeObject]
  | .object ((key, value) :: entries) =>
      .openObject :: .text key :: .colon :: tokens value ++ (entryTokens entries ++ [.closeObject])
  | json => [.plain json]

def itemTokens : List Json → List Token
  | [] => []
  | item :: items => .comma :: tokens item ++ itemTokens items

def entryTokens : List (String × Json) → List Token
  | [] => []
  | (key, value) :: entries =>
      .comma :: .text key :: .colon :: tokens value ++ entryTokens entries

end

def Spells (json : Json) (text : String) : Prop :=
  SpellsAll json.tokens text.toList

end Json

end DesignTokens
