import DesignTokens.Text.Ascii
import DesignTokens.Text.Word
import DesignTokens.Text.Blank

/-!
Written-out values in the marks of a console line: numbers, texts, a few names, and
collections of values.
-/

namespace DesignTokens.Console

inductive LiteralKind where
  | real
  | imaginary
  | text
  | bytes
  | other (key : Bool)
deriving DecidableEq, Repr

def LiteralKind.isKey : LiteralKind → Bool
  | .other key => key
  | _ => true

abbrev LiteralReading := LiteralKind × List Char

def isLiteralGap (c : Char) : Bool :=
  c == ' ' || c == '\t' || c == '\n' || c.toNat == 12

def skipLiteralGaps (text : List Char) : List Char :=
  text.dropWhile isLiteralGap

def codeWidth (bytes : Bool) (letter : Char) : Nat :=
  if letter == 'x' then 2
  else if letter == 'u' && !bytes then 4
  else if letter == 'U' && !bytes then 8
  else 0

def isSoundEscape (bytes : Bool) (text : List Char) : Bool :=
  match text with
  | [] => false
  | letter :: rest =>
      let digits := rest.take (codeWidth bytes letter)
      digits.length = codeWidth bytes letter &&
        (digits.isEmpty || (numberIn? 16 digits).any (· ≤ 0x10FFFF))

structure QuotedRule where
  ending : List Char
  bytes : Bool
  raw : Bool

def afterQuoted? (rule : QuotedRule) (escaped : Bool) : List Char → Option (List Char)
  | [] => none
  | c :: rest =>
      if rule.bytes && 128 ≤ c.toNat then none
      else if escaped then afterQuoted? rule false rest
      else
        match dropLead rule.ending (c :: rest) with
        | some after => some after
        | none =>
            if c == '\\' then
              if rule.raw || isSoundEscape rule.bytes rest then afterQuoted? rule true rest
              else none
            else if c == '\n' && rule.ending.length = 1 then none
            else afterQuoted? rule false rest

def afterText? (bytes raw : Bool) (text : List Char) : Option (List Char) :=
  match text with
  | mark :: rest =>
      if mark == '\'' || mark == '"' then
        match dropLead [mark, mark] rest with
        | some body => afterQuoted? ⟨[mark, mark, mark], bytes, raw⟩ false body
        | none => afterQuoted? ⟨[mark], bytes, raw⟩ false rest
      else none
  | [] => none

def afterDigits? (belongs : Char → Bool) (afterDigit : Bool) : List Char → Option (List Char)
  | [] => if afterDigit then some [] else none
  | '_' :: rest => if afterDigit then afterDigits? belongs false rest else none
  | c :: rest =>
      if belongs c then afterDigits? belongs true rest
      else if afterDigit then some (c :: rest)
      else none

def afterExponent? (text : List Char) : Option (List Char) :=
  match text with
  | mark :: rest =>
      if mark == 'e' || mark == 'E' then
        match rest with
        | '+' :: digits => afterDigits? isAsciiDigit false digits
        | '-' :: digits => afterDigits? isAsciiDigit false digits
        | digits => afterDigits? isAsciiDigit false digits
      else some text
  | [] => some []

def afterReal? (text : List Char) : Option (List Char) := do
  let startsWithPoint := text.head? == some '.'
  let rest ← if startsWithPoint then some text else afterDigits? isAsciiDigit false text
  match rest with
  | '.' :: fraction =>
      if startsWithPoint || fraction.head?.any isAsciiDigit then
        afterExponent? (← afterDigits? isAsciiDigit false fraction)
      else afterExponent? fraction
  | rest => afterExponent? rest

def readDecimal? (text : List Char) : Option LiteralReading :=
  (afterReal? text).map fun rest =>
    match rest with
    | 'j' :: rest => (.imaginary, rest)
    | 'J' :: rest => (.imaginary, rest)
    | rest => (.real, rest)

def hasNeedlessZero (text : List Char) : Bool :=
  let digits := text.takeWhile fun c => isAsciiDigit c || c == '_'
  let next := (text.drop digits.length).head?
  digits.head? == some '0' && digits.any (fun c => c != '0' && c != '_') &&
    !(next.any ['.', 'e', 'E', 'j', 'J'].contains)

def letterBase? (letter : Char) : Option Nat :=
  [('x', 16), ('o', 8), ('b', 2)].lookup (asciiLowerChar letter)

def readNumber? (text : List Char) : Option LiteralReading := do
  let (kind, rest) ←
    match text with
    | '0' :: letter :: digits =>
        match letterBase? letter with
        | some base =>
            let digits := (dropLead ['_'] digits).getD digits
            (afterDigits? (fun c => (digitIn? base c).isSome) false digits).map
              (LiteralKind.real, ·)
        | none => if hasNeedlessZero text then none else readDecimal? text
    | _ => readDecimal? text
  if rest.head?.any fun c => isWordChar c || c == '.' then none else some (kind, rest)

def readSum? (text : List Char) : Option LiteralReading := do
  let (kind, rest) ← readNumber? text
  match skipLiteralGaps rest with
  | c :: more =>
      if c == '+' || c == '-' then
        match kind, ← readNumber? (skipLiteralGaps more) with
        | .real, (.imaginary, rest) => some (.imaginary, rest)
        | _, _ => none
      else some (kind, rest)
  | [] => some (kind, rest)

def textPrefixes : List (String × Bool × Bool) := [
  ("", false, false), ("r", false, true), ("u", false, false), ("b", true, false),
  ("br", true, true), ("rb", true, true)]

def readTexts? (before : Option LiteralKind) : Nat → List Char → Option LiteralReading
  | 0, _ => none
  | fuel + 1, text => do
      let lead := text.takeWhile isAsciiLetter
      let (bytes, raw) ← textPrefixes.lookup (asciiLowerCased lead)
      let kind := if bytes then LiteralKind.bytes else .text
      let rest ← afterText? bytes raw (text.drop lead.length)
      if before.any (· ≠ kind) then none
      else
        let more := skipLiteralGaps rest
        if more.head?.any fun c => c == '\'' || c == '"' || isAsciiLetter c then
          readTexts? (some kind) fuel more
        else some (kind, rest)

def literalNames : List String := ["None", "True", "False"]

def readName? (text : List Char) : Option LiteralReading :=
  let word := text.takeWhile isWordChar
  let rest := text.drop word.length
  if literalNames.contains (String.ofList word) then some (.other true, rest)
  else if String.ofList word == "set" then do
    let inside ← dropLead ['('] (skipLiteralGaps rest)
    return (.other false, ← dropLead [')'] (skipLiteralGaps inside))
  else none

inductive BraceContent where
  | unknown
  | members
  | pairs
deriving DecidableEq, Repr

mutual

def readLiteral? : Nat → List Char → Option LiteralReading
  | 0, _ => none
  | fuel + 1, text =>
      match skipLiteralGaps text with
      | [] => none
      | '(' :: rest => readItems? true fuel rest
      | '{' :: rest => readBraces? .unknown fuel rest
      | '.' :: '.' :: '.' :: rest => some (.other true, rest)
      | c :: rest =>
          if c == '+' || c == '-' then readSum? (skipLiteralGaps rest)
          else if isAsciiDigit c || c == '.' then readSum? (c :: rest)
          else (readName? (c :: rest)).orElse fun _ => readTexts? none fuel (c :: rest)

def readItems? (key : Bool) : Nat → List Char → Option LiteralReading
  | 0, _ => none
  | fuel + 1, text =>
      match skipLiteralGaps text with
      | ')' :: rest => some (.other key, rest)
      | text => do
          let (kind, after) ← readLiteral? fuel text
          match skipLiteralGaps after with
          | ')' :: rest => some (.other (key && kind.isKey), rest)
          | ',' :: rest => readItems? (key && kind.isKey) fuel rest
          | _ => none

def readBraces? (content : BraceContent) : Nat → List Char → Option LiteralReading
  | 0, _ => none
  | fuel + 1, text =>
      match skipLiteralGaps text with
      | '}' :: rest => some (.other false, rest)
      | text => do
          let (kind, after) ← readLiteral? fuel text
          if !kind.isKey then none
          else
            match skipLiteralGaps after, content with
            | _, .pairs => readPair? fuel after
            | ':' :: _, .unknown => readPair? fuel after
            | '}' :: rest, _ => some (.other false, rest)
            | ',' :: rest, _ => readBraces? .members fuel rest
            | _, _ => none

def readPair? : Nat → List Char → Option LiteralReading
  | 0, _ => none
  | fuel + 1, text => do
      let (_, after) ← readLiteral? fuel (← dropLead [':'] (skipLiteralGaps text))
      match skipLiteralGaps after with
      | '}' :: rest => some (.other false, rest)
      | ',' :: rest => readBraces? .pairs fuel rest
      | _ => none

end

def isLiteral (text : List Char) : Bool :=
  !(skipLiteralGaps text).isEmpty &&
    ((readItems? true (2 * text.length + 2) (text ++ [')'])).any fun (_, rest) =>
      (skipLiteralGaps rest).isEmpty)

def areParameters (text : List Char) : Bool :=
  let text := trim text
  let name := text.takeWhile fun c => isWordChar c || c == '.'
  match text.drop name.length with
  | [] => true
  | '(' :: rest =>
      if rest.getLast? == some ')' && !rest.contains '\n' then isLiteral ('(' :: rest)
      else isLiteral text
  | _ => isLiteral text

end DesignTokens.Console
