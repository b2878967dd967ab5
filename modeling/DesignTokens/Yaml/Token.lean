import DesignTokens.Yaml.Block
import DesignTokens.Yaml.Plain
import DesignTokens.Yaml.Property

/-!
Tokens of YAML documents.  Indentation is turned into tokens that open and close
collections, and a key is marked when its colon is found.
-/

namespace DesignTokens.Yaml

inductive Token where
  | directive (value : Directive)
  | documentStart
  | documentEnd
  | blockSequence
  | blockMapping
  | blockEnd
  | entry
  | key
  | value
  | openSequence
  | closeSequence
  | openMapping
  | closeMapping
  | comma
  | anchor (name : String)
  | reference (name : String)
  | tag (text : TagText)
  | scalar (text : String) (plain : Bool)
  | fault (cause : ReadingFault)
deriving DecidableEq, Repr

structure KeyMark where
  tokens : Nat
  index : Nat
  line : Nat
  column : Nat
  required : Bool

structure Lexer where
  cursor : Cursor
  tokens : List Token
  indents : List Nat
  /-- The possible key of each flow collection, innermost first, and of the block around them. -/
  marks : List (Option KeyMark)
  keyAllowed : Bool

namespace Lexer

def inFlow (lexer : Lexer) : Bool :=
  1 < lexer.marks.length

def contentColumn (lexer : Lexer) : Nat :=
  match lexer.indents with
  | [] => 0
  | column :: _ => column + 1

def put (lexer : Lexer) (token : Token) : Lexer :=
  { lexer with tokens := token :: lexer.tokens }

def take (lexer : Lexer) (count : Nat) (token : Token) : Lexer :=
  { lexer with cursor := lexer.cursor.forward count, tokens := token :: lexer.tokens }

def allowKey (lexer : Lexer) (allowed : Bool) : Lexer :=
  { lexer with keyAllowed := allowed }

def dropMark (lexer : Lexer) : Except ReadingFault Lexer :=
  match lexer.marks with
  | some mark :: outer =>
      if mark.required then .error .malformed else .ok { lexer with marks := none :: outer }
  | _ => .ok lexer

def putMark (lexer : Lexer) : Except ReadingFault Lexer :=
  if lexer.keyAllowed then
    lexer.dropMark.map fun lexer =>
      let required := !lexer.inFlow && lexer.indents.head? == some lexer.cursor.column
      let mark := KeyMark.mk lexer.tokens.length lexer.cursor.index lexer.cursor.line
        lexer.cursor.column required
      { lexer with marks := some mark :: lexer.marks.tail }
  else .ok lexer

def dropStaleMarks (lexer : Lexer) : Except ReadingFault Lexer := do
  let marks ← lexer.marks.mapM fun mark =>
    match mark with
    | none => .ok none
    | some mark =>
        if mark.line ≠ lexer.cursor.line ∨ mark.index + 1024 < lexer.cursor.index then
          if mark.required then .error ReadingFault.malformed else .ok none
        else .ok (some mark)
  return { lexer with marks }

def closeBlocks (lexer : Lexer) (width : Nat) : Lexer :=
  if lexer.inFlow then lexer
  else
    let closed := lexer.indents.takeWhile (width ≤ ·)
    { lexer with
      indents := lexer.indents.drop closed.length
      tokens := closed.map (fun _ => Token.blockEnd) ++ lexer.tokens }

def openBlock (lexer : Lexer) (column : Nat) : Lexer × Bool :=
  if lexer.contentColumn ≤ column then
    ({ lexer with indents := column :: lexer.indents }, true)
  else (lexer, false)

def gapLength (flow comment allowed : Bool) (length : Nat) : List Char → Nat × Bool
  | [] => (length, allowed)
  | c :: rest =>
      if isBreak c then gapLength flow false (allowed || !flow) (length + 1) rest
      else if comment then gapLength flow true allowed (length + 1) rest
      else if c == ' ' then gapLength flow false allowed (length + 1) rest
      else if c == '#' then gapLength flow true allowed (length + 1) rest
      else (length, allowed)

def skip (lexer : Lexer) : Lexer :=
  let (length, allowed) := gapLength lexer.inFlow false lexer.keyAllowed 0 lexer.cursor.rest
  { lexer with cursor := lexer.cursor.forward length, keyAllowed := allowed }

def takeQuoted (lexer : Lexer) (quoted : Except ReadingFault Measured) :
    Except ReadingFault Lexer := do
  let lexer ← lexer.putMark
  let (text, length) ← quoted
  return (lexer.allowKey false).take (length + 1) (.scalar (String.ofList text) false)

def takePlain (lexer : Lexer) : Except ReadingFault Lexer := do
  let lexer ← lexer.putMark
  let (text, cursor, broken) := plainText lexer.inFlow lexer.contentColumn lexer.cursor [] false
    (lexer.cursor.rest.length + 1)
  return ({ lexer with cursor, keyAllowed := broken }).put (.scalar (String.ofList text) true)

def takeBlockScalar (lexer : Lexer) (folded : Bool) : Except ReadingFault Lexer := do
  let lexer ← (lexer.allowKey true).dropMark
  let (text, cursor) ← wellFormed (blockText? folded lexer.contentColumn lexer.cursor.next)
  return ({ lexer with cursor }).put (.scalar (String.ofList text) false)

def takeName (lexer : Lexer) (rest : List Char) (token : String → Token) :
    Except ReadingFault Lexer := do
  let lexer ← lexer.putMark
  let (name, length) ← wellFormed (anchorName? rest)
  return (lexer.allowKey false).take (length + 1) (token name)

def takeTag (lexer : Lexer) : Except ReadingFault Lexer := do
  let lexer ← lexer.putMark
  let (tag, length) ← wellFormed (tag? lexer.cursor.rest)
  return (lexer.allowKey false).take length (.tag tag)

def takeValue (lexer : Lexer) : Except ReadingFault Lexer :=
  match lexer.marks with
  | some mark :: outer =>
      let lexer := { lexer with marks := none :: outer, keyAllowed := false }
      let (lexer, opened) :=
        if lexer.inFlow then (lexer, false) else lexer.openBlock mark.column
      let later := lexer.tokens.length - mark.tokens
      let marked := if opened then [Token.key, Token.blockMapping] else [Token.key]
      let tokens := lexer.tokens.take later ++ marked ++ lexer.tokens.drop later
      .ok (({ lexer with tokens }).take 1 .value)
  | _ =>
      if lexer.inFlow then .ok ((lexer.allowKey false).take 1 .value)
      else if lexer.keyAllowed then do
        let (lexer, opened) := lexer.openBlock lexer.cursor.column
        let lexer := if opened then lexer.put .blockMapping else lexer
        return ((← lexer.dropMark).allowKey true).take 1 .value
      else .error .malformed

def takeBlockMark (lexer : Lexer) (opening token : Token) : Except ReadingFault Lexer :=
  if lexer.inFlow then
    lexer.dropMark.map fun lexer => (lexer.allowKey (token == .entry)).take 1 token
  else if lexer.keyAllowed then do
    let (lexer, opened) := lexer.openBlock lexer.cursor.column
    let lexer := if opened then lexer.put opening else lexer
    return ((← lexer.dropMark).allowKey true).take 1 token
  else .error .malformed

def takeOpening (lexer : Lexer) (token : Token) : Except ReadingFault Lexer :=
  lexer.putMark.map fun lexer =>
    (({ lexer with marks := none :: lexer.marks }).allowKey true).take 1 token

def takeClosing (lexer : Lexer) (token : Token) : Except ReadingFault Lexer :=
  if lexer.inFlow then
    lexer.dropMark.map fun lexer =>
      (({ lexer with marks := lexer.marks.tail }).allowKey false).take 1 token
  else .error .malformed

def takeDocumentMark (lexer : Lexer) (token : Token) : Except ReadingFault Lexer :=
  (lexer.closeBlocks 0).dropMark.map fun lexer => (lexer.allowKey false).take 3 token

def takeDirective (lexer : Lexer) (rest : List Char) : Except ReadingFault Lexer := do
  let lexer ← (lexer.closeBlocks 0).dropMark
  let (directive, length) ← wellFormed (directive? rest)
  return (lexer.allowKey false).take (length + 2) (.directive directive)

def takeToken (lexer : Lexer) (c : Char) (rest : List Char) : Except ReadingFault Lexer :=
  if lexer.cursor.column = 0 && c == '%' then lexer.takeDirective rest
  else if lexer.cursor.column = 0 && atDocumentMark (c :: rest) then
    lexer.takeDocumentMark (if c == '-' then .documentStart else .documentEnd)
  else
    match c with
    | '[' => lexer.takeOpening .openSequence
    | '{' => lexer.takeOpening .openMapping
    | ']' => lexer.takeClosing .closeSequence
    | '}' => lexer.takeClosing .closeMapping
    | ',' => lexer.dropMark.map fun lexer => (lexer.allowKey true).take 1 .comma
    | '*' => lexer.takeName rest .reference
    | '&' => lexer.takeName rest .anchor
    | '!' => lexer.takeTag
    | '\'' => lexer.takeQuoted (singleQuoted .empty 0 rest)
    | '"' => lexer.takeQuoted (doubleQuoted .empty 0 0 rest)
    | c =>
        if c == '-' && atGap rest then lexer.takeBlockMark .blockSequence .entry
        else if c == '?' && (lexer.inFlow || atGap rest) then
          lexer.takeBlockMark .blockMapping .key
        else if c == ':' && (lexer.inFlow || atGap rest) then lexer.takeValue
        else if (c == '|' || c == '>') && !lexer.inFlow then lexer.takeBlockScalar (c == '>')
        else if startsPlain lexer.inFlow c rest then lexer.takePlain
        else .error .malformed

def advance (lexer : Lexer) : Except ReadingFault (Option Lexer) := do
  let lexer ← lexer.skip.dropStaleMarks
  match lexer.cursor.rest with
  | [] => return none
  | c :: rest => return some (← (lexer.closeBlocks (lexer.cursor.column + 1)).takeToken c rest)

/-- The tokens in front of a fault.  It shows as soon as the tokens from a possible
key on are asked for, since more text is read before they are settled. -/
def withFault (lexer : Lexer) (fault : ReadingFault) : List Token :=
  let marks := (lexer.dropStaleMarks.toOption.getD lexer).marks
  let settled := (marks.filterMap (·.map KeyMark.tokens)).foldl min lexer.tokens.length
  lexer.tokens.reverse.take settled ++ [.fault fault]

def run (lexer : Lexer) : Nat → List Token
  | 0 => lexer.tokens.reverse
  | fuel + 1 =>
      match lexer.advance with
      | .error fault => lexer.withFault fault
      | .ok (some lexer) => lexer.run fuel
      | .ok none =>
          match (lexer.closeBlocks 0).dropMark with
          | .ok lexer => lexer.tokens.reverse
          | .error fault => lexer.withFault fault

end Lexer

def tokens (text : List Char) : List Token :=
  let start : Cursor := ⟨text, 0, 0, 0⟩
  let cursor := if text.head? == some byteOrderMark then start.next else start
  Lexer.run ⟨cursor, [], [], [none], true⟩ (text.length + 1)

end DesignTokens.Yaml
