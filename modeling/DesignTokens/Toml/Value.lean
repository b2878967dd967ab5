import DesignTokens.Data.Basic
import DesignTokens.Number.Reading

/-!
Keys and values of TOML documents.  Every reading also returns the rest of the text.
-/

namespace DesignTokens.Toml

abbrev Reading := Except ReadingFault

def isGap (c : Char) : Bool :=
  c == ' ' || c == '\t'

def skipGaps (text : List Char) : List Char :=
  text.dropWhile isGap

def isControl (c : Char) : Bool :=
  (c.toNat < 32 && c != '\t') || c.toNat == 127

def skipComment? (text : List Char) : Option (List Char) :=
  match text with
  | '#' :: rest =>
      if (rest.takeWhile (· != '\n')).any isControl then none else some (rest.dropWhile (· != '\n'))
  | _ => some text

def skipLines? : Nat → List Char → Option (List Char)
  | 0, _ => none
  | fuel + 1, text =>
      match text.dropWhile fun c => isGap c || c == '\n' with
      | '#' :: rest => (skipComment? ('#' :: rest)).bind (skipLines? fuel)
      | rest => some rest

def codedChar? (width : Nat) (text : List Char) : Option (Char × Nat) :=
  if text.length < width then none
  else
    (numberIn? 16 (text.take width)).bind fun code =>
      if code < 0xD800 ∨ (0xDFFF < code ∧ code < 0x110000) then some (Char.ofNat code, width + 1)
      else none

def escapeValue? : List Char → Option (Char × Nat)
  | 'b' :: _ => some (Char.ofNat 8, 1)
  | 't' :: _ => some ('\t', 1)
  | 'n' :: _ => some ('\n', 1)
  | 'f' :: _ => some (Char.ofNat 12, 1)
  | 'r' :: _ => some ('\r', 1)
  | '"' :: _ => some ('"', 1)
  | '\\' :: _ => some ('\\', 1)
  | 'u' :: rest => codedChar? 4 rest
  | 'U' :: rest => codedChar? 8 rest
  | _ => none

def escapedBreak? (text : List Char) : Option Nat :=
  let gaps := (text.takeWhile isGap).length
  match text.drop gaps with
  | '\n' :: rest => some (gaps + 1 + (rest.takeWhile fun c => isGap c || c == '\n').length)
  | [] => if gaps = 0 then none else some gaps
  | _ => none

def closingMarks (mark : Char) (text : List Char) : Nat :=
  min 5 (text.takeWhile (· == mark)).length

def stringText (mark : Char) (escapes multiline : Bool) (reversed : List Char) (skip : Nat) :
    List Char → Option (String × List Char)
  | [] => none
  | c :: rest =>
      match skip with
      | skip + 1 => stringText mark escapes multiline reversed skip rest
      | 0 =>
          if c == mark then
            if !multiline then some (String.ofList reversed.reverse, rest)
            else
              let marks := closingMarks mark (c :: rest)
              if marks < 3 then stringText mark escapes multiline (c :: reversed) 0 rest
              else
                some (String.ofList (List.replicate (marks - 3) mark ++ reversed).reverse,
                  rest.drop (marks - 1))
          else if c == '\\' && escapes then
            match escapeValue? rest with
            | some (value, count) =>
                stringText mark escapes multiline (value :: reversed) count rest
            | none =>
                match if multiline then escapedBreak? rest else none with
                | some count => stringText mark escapes multiline reversed count rest
                | none => none
          else if isControl c && !(multiline && c == '\n') then none
          else stringText mark escapes multiline (c :: reversed) 0 rest

def readString (mark : Char) (rest : List Char) : Option (String × List Char) :=
  let escapes := mark == '"'
  match dropLead [mark, mark] rest with
  | some body => stringText mark escapes true [] 0 ((dropLead ['\n'] body).getD body)
  | none => stringText mark escapes false [] 0 rest

def isBareKeyChar (c : Char) : Bool :=
  isAsciiLetter c || isAsciiDigit c || c == '-' || c == '_'

def readKeyPart (text : List Char) : Option (String × List Char) :=
  match text with
  | '"' :: rest => stringText '"' true false [] 0 rest
  | '\'' :: rest => stringText '\'' false false [] 0 rest
  | _ =>
      let name := text.takeWhile isBareKeyChar
      if name.isEmpty then none else some (String.ofList name, text.drop name.length)

def readKey : Nat → List Char → Option (List String × List Char)
  | 0, _ => none
  | fuel + 1, text => do
      let (part, rest) ← readKeyPart text
      match skipGaps rest with
      | '.' :: rest =>
          let (parts, rest) ← readKey fuel (skipGaps rest)
          return (part :: parts, rest)
      | rest => return ([part], rest)

def spacedDigits (belongs : Char → Bool) (afterDigit : Bool) : List Char → List Char × List Char
  | [] => ([], [])
  | '_' :: c :: rest =>
      if afterDigit && belongs c then
        match spacedDigits belongs true rest with
        | (digits, rest) => (c :: digits, rest)
      else ([], '_' :: c :: rest)
  | c :: rest =>
      if belongs c then
        match spacedDigits belongs true rest with
        | (digits, rest) => (c :: digits, rest)
      else ([], c :: rest)

def readBased? (base : Nat) (text : List Char) : Option (Data × List Char) :=
  let (digits, rest) := spacedDigits (fun c => (digitIn? base c).isSome) false text
  if digits.isEmpty then none
  else (numberIn? base digits).map fun value => (Data.integer (Int.ofNat value), rest)

def readFraction (text : List Char) : List Char × List Char :=
  match text with
  | '.' :: rest =>
      match spacedDigits isAsciiDigit false rest with
      | ([], _) => ([], text)
      | found => found
  | _ => ([], text)

def readExponent? (text : List Char) : Option (Int × List Char) :=
  match text with
  | mark :: rest =>
      if mark == 'e' || mark == 'E' then
        let (negative, digits) :=
          match rest with
          | '-' :: digits => (true, digits)
          | '+' :: digits => (false, digits)
          | digits => (false, digits)
        match spacedDigits isAsciiDigit false digits with
        | ([], _) => none
        | (digits, rest) => some (withSign negative (digitsValue digits), rest)
      else none
  | [] => none

def wholeNumber (negative : Bool) (digits : List Char) : Reading Data :=
  if digitLimit < digits.length then .error (.data (.tooManyDigits (some digits.length)))
  else .ok (Data.integer (withSign negative (digitsValue digits)))

def readDecimal (negative : Bool) (text : List Char) : Reading (Data × List Char) :=
  let (whole, rest) :=
    match text with
    | '0' :: rest => (['0'], rest)
    | _ => spacedDigits isAsciiDigit false text
  if whole.isEmpty then .error .malformed
  else
    let (fraction, rest) := readFraction rest
    match readExponent? rest with
    | some (exponent, rest) =>
        .ok (Data.number ((Decimal.ofParts whole fraction exponent).toFloat negative), rest)
    | none =>
        if fraction.isEmpty then (wholeNumber negative whole).map fun data => (data, rest)
        else .ok (Data.number ((Decimal.ofParts whole fraction 0).toFloat negative), rest)

def isPair (low high : Nat) (tens ones : Char) : Bool :=
  isAsciiDigit tens && isAsciiDigit ones &&
    low ≤ digitsValue [tens, ones] && digitsValue [tens, ones] ≤ high

def afterTime? (text : List Char) : Option (List Char) :=
  match text with
  | h :: h' :: ':' :: m :: m' :: ':' :: s :: s' :: rest =>
      if isPair 0 23 h h' && isPair 0 59 m m' && isPair 0 59 s s' then
        match rest with
        | '.' :: fraction =>
            let digits := fraction.takeWhile isAsciiDigit
            some (if digits.isEmpty then rest else fraction.drop digits.length)
        | _ => some rest
      else none
  | _ => none

def afterOffset (text : List Char) : List Char :=
  match text with
  | 'Z' :: rest => rest
  | 'z' :: rest => rest
  | sign :: h :: h' :: ':' :: m :: m' :: rest =>
      if (sign == '+' || sign == '-') && isPair 0 23 h h' && isPair 0 59 m m' then rest else text
  | _ => text

def foreign (typeName : String) (text rest : List Char) : Data :=
  let own := String.ofList (text.take (text.length - rest.length))
  .scalar (.foreign typeName own own)

def readDay? (text : List Char) : Option (Reading (Data × List Char)) :=
  match text with
  | y :: y' :: y'' :: y''' :: '-' :: m :: m' :: '-' :: d :: d' :: rest =>
      if [y, y', y'', y'''].all isAsciiDigit && isPair 1 12 m m' && isPair 1 31 d d' then
        let date : Day := ⟨digitsValue [y, y', y'', y'''], digitsValue [m, m'], digitsValue [d, d']⟩
        let time? :=
          match rest with
          | mark :: time =>
              if mark == 'T' || mark == 't' || mark == ' ' then (afterTime? time).map afterOffset
              else none
          | [] => none
        some <|
          match date.fault?, time? with
          | some _, _ => .error .malformed
          | none, some rest => .ok (foreign "datetime" text rest, rest)
          | none, none => .ok (.scalar (.ofDay date), rest)
      else none
  | _ => none

def readPlain (text : List Char) : Reading (Data × List Char) :=
  match readDay? text with
  | some result => result
  | none =>
      match afterTime? text with
      | some rest => .ok (foreign "time" text rest, rest)
      | none =>
          match text with
          | '0' :: 'x' :: rest => (readBased? 16 rest).elim (readDecimal false text) .ok
          | '0' :: 'b' :: rest => (readBased? 2 rest).elim (readDecimal false text) .ok
          | '0' :: 'o' :: rest => (readBased? 8 rest).elim (readDecimal false text) .ok
          | 'i' :: 'n' :: 'f' :: rest => .ok (Data.number infinity, rest)
          | 'n' :: 'a' :: 'n' :: rest => .ok (Data.number undefinedNumber, rest)
          | '-' :: 'i' :: 'n' :: 'f' :: rest => .ok (Data.number (-infinity), rest)
          | '+' :: 'i' :: 'n' :: 'f' :: rest => .ok (Data.number infinity, rest)
          | '-' :: 'n' :: 'a' :: 'n' :: rest => .ok (Data.number undefinedNumber, rest)
          | '+' :: 'n' :: 'a' :: 'n' :: rest => .ok (Data.number undefinedNumber, rest)
          | '-' :: rest => readDecimal true rest
          | '+' :: rest => readDecimal false rest
          | _ => readDecimal false text

/-- Puts a value under a key of an inline table.  Tables that dotted keys open
may grow, written ones (`closed`) may not. -/
def putInline (closed : List (List String)) (entries : List (Scalar × Data)) (value : Data)
    (here : List String) : List String → Option (List (Scalar × Data))
  | [] => none
  | [name] =>
      match Data.entry? entries name with
      | some _ => none
      | none => some (Entries.insert entries (.text name) value)
  | name :: rest =>
      let here := here ++ [name]
      if closed.contains here then none
      else
        match Data.entry? entries name with
        | none =>
            (putInline closed [] value here rest).map fun inner =>
              Entries.insert entries (.text name) (.mapping inner)
        | some (.mapping inner) =>
            (putInline closed inner value here rest).map fun inner =>
              Entries.insert entries (.text name) (.mapping inner)
        | some _ => none

def isContainer : Data → Bool
  | .list _ => true
  | .mapping _ => true
  | .scalar _ => false

mutual

def readValue (depth : Nat) : Nat → List Char → Reading (Data × List Char)
  | 0, _ => .error .malformed
  | fuel + 1, text =>
      match text with
      | '"' :: rest =>
          (wellFormed (readString '"' rest)).map fun (value, rest) => (.text value, rest)
      | '\'' :: rest =>
          (wellFormed (readString '\'' rest)).map fun (value, rest) => (.text value, rest)
      | 't' :: 'r' :: 'u' :: 'e' :: rest => .ok (Data.boolean true, rest)
      | 'f' :: 'a' :: 'l' :: 's' :: 'e' :: rest => .ok (Data.boolean false, rest)
      | '[' :: rest =>
          if nestingLimit ≤ depth then .error (.data .tooDeep)
          else do readItems (depth + 1) [] fuel (← wellFormed (skipLines? (fuel + 1) rest))
      | '{' :: rest =>
          match skipGaps rest with
          | '}' :: rest => .ok (.mapping [], rest)
          | rest =>
              if nestingLimit ≤ depth then .error (.data .tooDeep)
              else readEntries (depth + 1) [] [] fuel rest
      | text => readPlain text

def readItems (depth : Nat) (reversed : List Data) : Nat → List Char → Reading (Data × List Char)
  | 0, _ => .error .malformed
  | fuel + 1, text =>
      match text with
      | ']' :: rest => .ok (.list reversed.reverse, rest)
      | text => do
          let (item, rest) ← readValue depth fuel text
          match ← wellFormed (skipLines? (fuel + 1) rest) with
          | ']' :: rest => return (.list (item :: reversed).reverse, rest)
          | ',' :: rest =>
              readItems depth (item :: reversed) fuel (← wellFormed (skipLines? (fuel + 1) rest))
          | _ => .error .malformed

def readEntries (depth : Nat) (closed : List (List String)) (entries : List (Scalar × Data)) :
    Nat → List Char → Reading (Data × List Char)
  | 0, _ => .error .malformed
  | fuel + 1, text => do
      let (key, rest) ← wellFormed (readKey (fuel + 1) text)
      match rest with
      | '=' :: rest =>
          let (value, rest) ← readValue depth fuel (skipGaps rest)
          let entries ← wellFormed (putInline closed entries value [] key)
          let closed := if isContainer value then key :: closed else closed
          match skipGaps rest with
          | '}' :: rest => return (.mapping entries, rest)
          | ',' :: rest => readEntries depth closed entries fuel (skipGaps rest)
          | _ => .error .malformed
      | _ => .error .malformed

end

end DesignTokens.Toml
