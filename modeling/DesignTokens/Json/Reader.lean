import DesignTokens.Json.Basic
import DesignTokens.Number.Reading

/-!
Reading JSON in two steps: characters to tokens, and tokens to a document on a
stack of open containers.
-/

namespace DesignTokens.Json

inductive Token where
  | openArray
  | closeArray
  | openObject
  | closeObject
  | comma
  | colon
  | text (value : String)
  | plain (value : Json)

inductive Lexeme where
  | blank
  | bare (reversed : List Char)
  /-- A string, with its characters in reverse and a first surrogate in waiting. -/
  | text (reversed : List Char) (high : Option Nat)
  | escape (reversed : List Char) (high : Option Nat)
  | unit (reversed : List Char) (high : Option Nat) (missing value : Nat)

structure Lexer where
  tokens : List Token
  lexeme : Lexeme

def isBareChar (c : Char) : Bool :=
  isAsciiLetter c || isAsciiDigit c || c == '-' || c == '+' || c == '.'

def numberOfText? (text : List Char) : Option Json :=
  let (negative, digits) :=
    match text with
    | '-' :: rest => (true, rest)
    | _ => (false, text)
  if digits.isEmpty || !digits.head?.any isDecimalDigit then none
  else if digits.all isDecimalDigit then some (.integer (withSign negative (digitsValue digits)))
  else (magnitude? negative digits).map .number

def bareValue? (text : List Char) : Option Json :=
  if text == "null".toList then some .null
  else if text == "true".toList then some (.boolean true)
  else if text == "false".toList then some (.boolean false)
  else if text == NumberLayout.json.infinityText.toList then some (.number infinity)
  else if text == '-' :: NumberLayout.json.infinityText.toList then some (.number (-infinity))
  else if text == NumberLayout.json.undefinedText.toList then some (.number undefinedNumber)
  else numberOfText? text

def escapeValue? (c : Char) : Option Char :=
  match c with
  | '"' => some '"'
  | '\\' => some '\\'
  | '/' => some '/'
  | 'n' => some '\n'
  | 'r' => some '\r'
  | 't' => some '\t'
  | 'b' => some (Char.ofNat 8)
  | 'f' => some (Char.ofNat 12)
  | _ => none

def addUnit (reversed : List Char) (high : Option Nat) (unit : Nat) : Option Lexeme :=
  match high with
  | some first =>
      if 0xDC00 ≤ unit ∧ unit ≤ 0xDFFF then
        let code := 0x10000 + (first - 0xD800) * 0x400 + (unit - 0xDC00)
        some (.text (Char.ofNat code :: reversed) none)
      else none
  | none =>
      if 0xD800 ≤ unit ∧ unit ≤ 0xDBFF then some (.text reversed (some unit))
      else if 0xDC00 ≤ unit ∧ unit ≤ 0xDFFF then none
      else some (.text (Char.ofNat unit :: reversed) none)

def Lexer.start (tokens : List Token) (c : Char) : Option Lexer :=
  match c with
  | '[' => some ⟨.openArray :: tokens, .blank⟩
  | ']' => some ⟨.closeArray :: tokens, .blank⟩
  | '{' => some ⟨.openObject :: tokens, .blank⟩
  | '}' => some ⟨.closeObject :: tokens, .blank⟩
  | ',' => some ⟨.comma :: tokens, .blank⟩
  | ':' => some ⟨.colon :: tokens, .blank⟩
  | '"' => some ⟨tokens, .text [] none⟩
  | c =>
      if c == ' ' || c == '\n' || c == '\r' || c == '\t' then some ⟨tokens, .blank⟩
      else if isBareChar c then some ⟨tokens, .bare [c]⟩
      else none

def Lexer.step (lexer : Lexer) (c : Char) : Option Lexer :=
  match lexer.lexeme with
  | .blank => Lexer.start lexer.tokens c
  | .bare reversed =>
      if isBareChar c then some { lexer with lexeme := .bare (c :: reversed) }
      else (bareValue? reversed.reverse).bind fun value =>
        Lexer.start (.plain value :: lexer.tokens) c
  | .text reversed high =>
      if c == '\\' then some { lexer with lexeme := .escape reversed high }
      else if high.isSome then none
      else if c == '"' then some ⟨.text (String.ofList reversed.reverse) :: lexer.tokens, .blank⟩
      else some { lexer with lexeme := .text (c :: reversed) none }
  | .escape reversed high =>
      if c == 'u' then some { lexer with lexeme := .unit reversed high 4 0 }
      else if high.isSome then none
      else (escapeValue? c).map fun value => { lexer with lexeme := .text (value :: reversed) none }
  | .unit reversed high missing value =>
      (hexValue? c).bind fun digit =>
        if missing ≤ 1 then
          (addUnit reversed high (16 * value + digit)).map fun lexeme => { lexer with lexeme }
        else some { lexer with lexeme := .unit reversed high (missing - 1) (16 * value + digit) }

def tokens? (text : List Char) : Option (List Token) :=
  (text.foldlM Lexer.step ⟨[], .blank⟩).bind fun lexer =>
    match lexer.lexeme with
    | .blank => some lexer.tokens.reverse
    | .bare reversed =>
        (bareValue? reversed.reverse).map fun value => (.plain value :: lexer.tokens).reverse
    | _ => none

inductive Frame where
  | array (reversed : List Json)
  | object (reversed : List (String × Json)) (key : String)

inductive Phase where
  | value
  | firstItem
  | firstKey (reversed : List (String × Json))
  | key (reversed : List (String × Json))
  | colon (reversed : List (String × Json)) (key : String)
  | after (frame : Frame)
  | done (json : Json)

structure Reader where
  stack : List Frame
  phase : Phase

def Reader.accept (stack : List Frame) (json : Json) : Reader :=
  match stack with
  | [] => ⟨[], .done json⟩
  | .array reversed :: outer => ⟨outer, .after (.array (json :: reversed))⟩
  | .object reversed key :: outer => ⟨outer, .after (.object ((key, json) :: reversed) key)⟩

def Reader.startValue (stack : List Frame) (token : Token) : Option Reader :=
  match token with
  | .text value => some (Reader.accept stack (.text value))
  | .plain json => some (Reader.accept stack json)
  | .openArray => some ⟨stack, .firstItem⟩
  | .openObject => some ⟨stack, .firstKey []⟩
  | _ => none

def Reader.step (reader : Reader) (token : Token) : Option Reader :=
  match reader.phase, token with
  | .value, token => Reader.startValue reader.stack token
  | .firstItem, .closeArray => some (Reader.accept reader.stack (.array []))
  | .firstItem, token => Reader.startValue (.array [] :: reader.stack) token
  | .firstKey _, .closeObject => some (Reader.accept reader.stack (.object []))
  | .firstKey reversed, .text key => some { reader with phase := .colon reversed key }
  | .key reversed, .text key => some { reader with phase := .colon reversed key }
  | .colon reversed key, .colon => some ⟨.object reversed key :: reader.stack, .value⟩
  | .after (.array reversed), .comma => some ⟨.array reversed :: reader.stack, .value⟩
  | .after (.array reversed), .closeArray =>
      some (Reader.accept reader.stack (.array reversed.reverse))
  | .after (.object reversed _), .comma => some { reader with phase := .key reversed }
  | .after (.object reversed _), .closeObject =>
      some (Reader.accept reader.stack (.object reversed.reverse))
  | _, _ => none

def ofTokens? (tokens : List Token) : Option Json :=
  (tokens.foldlM Reader.step ⟨[], .value⟩).bind fun reader =>
    match reader.phase with
    | .done json => some json
    | _ => none

def parse? (text : String) : Option Json :=
  (tokens? text.toList).bind ofTokens?

end DesignTokens.Json
