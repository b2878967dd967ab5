import DesignTokens.Text.Blank
import DesignTokens.Text.DecimalDigit
import DesignTokens.Text.Word

/-!
The short form of a style sheet: no comments, no needless blanks or semicolons,
short zeros.  Quoted strings pass through as they are.
-/

namespace DesignTokens.Stylesheet

def isTight (c : Char) : Bool :=
  c == '{' || c == '}' || c == ';' || c == ':' || c == ',' || c == '>'

def isQuote (c : Char) : Bool :=
  c == '"' || c == '\''

def isNameChar (c : Char) : Bool :=
  isLetterOrNumber c || c == '_' || c == '-'

inductive Mode where
  | code
  | blockComment
  | lineComment
  | literal (mark : Char)
deriving DecidableEq, Repr

def lineStaysBlank (blankSoFar : Bool) (c : Char) : Bool :=
  if c == '\n' then true else blankSoFar && isBlank c

def needsSpace (kept : List Char) (c : Char) : Bool :=
  match kept with
  | [] => false
  | last :: _ => !isTight last && !isTight c

def isIdleSemicolon (kept : List Char) (c : Char) : Bool :=
  c == ';' &&
    match kept with
    | [] => false
    | last :: _ => last == ';' || last == '{'

def opensLiteral (kept : List Char) (c : Char) : Bool :=
  isQuote c &&
    match kept with
    | [] => true
    | last :: _ => !isNameChar last

def keep (kept : List Char) (pending : Bool) (c : Char) : Mode × List Char :=
  let kept := if pending && needsSpace kept c then ' ' :: kept else kept
  if isIdleSemicolon kept c then (.code, kept)
  else (if opensLiteral kept c then .literal c else .code, c :: kept)

/-- Walks over a text and returns the kept characters in reverse.  A blank or
comment is pending until the next kept character; two slashes start a comment
only if nothing but blanks precedes them on their line. -/
def collapseFrom (mode : Mode) (kept : List Char) (pending lineBlank : Bool) (text : List Char) :
    List Char :=
  match mode, text with
  | _, [] => kept
  | .code, '/' :: '*' :: rest => collapseFrom .blockComment kept true false rest
  | .code, c :: rest =>
      if c == '/' && rest.head? == some '/' && lineBlank then
        collapseFrom .lineComment kept true false rest
      else if isBlank c then collapseFrom .code kept true (lineStaysBlank lineBlank c) rest
      else
        let next := keep kept pending c
        collapseFrom next.1 next.2 false false rest
  | .blockComment, '*' :: '/' :: rest => collapseFrom .code kept true false rest
  | .blockComment, c :: rest =>
      collapseFrom .blockComment kept true (lineStaysBlank lineBlank c) rest
  | .lineComment, c :: rest =>
      if c == '\n' then collapseFrom .code kept true true rest
      else collapseFrom .lineComment kept true false rest
  | .literal mark, '\\' :: c :: rest =>
      collapseFrom (.literal mark) (c :: '\\' :: kept) false (lineStaysBlank false c) rest
  | .literal mark, c :: rest =>
      collapseFrom (if c == mark then .code else .literal mark) (c :: kept) false
        (lineStaysBlank lineBlank c) rest

def collapse (text : List Char) : List Char :=
  trim (collapseFrom .code [] false true text).reverse

inductive Part where
  | plain (text : List Char)
  | literal (text : List Char)
deriving DecidableEq, Repr

def Part.text : Part → List Char
  | .plain text => text
  | .literal text => text

/-- How many characters remain of a quoted string after its opening mark, with
the closing one.  A line break must not be escaped. -/
def literalLength? (mark : Char) : List Char → Option Nat
  | [] => none
  | '\\' :: c :: rest =>
      if c == '\n' then none else (literalLength? mark rest).map (· + 2)
  | c :: rest =>
      if c == mark then some 1
      else if c == '\\' then none
      else (literalLength? mark rest).map (· + 1)

def literalAhead (previous : Option Char) (c : Char) (rest : List Char) : Nat :=
  if isQuote c && !previous.any isNameChar then (literalLength? c rest).getD 0 else 0

/-- Splits a text at its quoted strings.  The characters of the stretch at hand
stand in reverse, and `inside` counts those still to come of a string. -/
def partsFrom (previous : Option Char) (inside : Nat) (stretch : List Char) :
    List Char → List Part
  | [] => [.plain stretch.reverse]
  | c :: rest =>
      match inside with
      | 0 =>
          match literalAhead previous c rest with
          | 0 => partsFrom (some c) 0 (c :: stretch) rest
          | ahead => .plain stretch.reverse :: partsFrom (some c) ahead [c] rest
      | 1 => .literal (c :: stretch).reverse :: partsFrom (some c) 0 [] rest
      | inside + 2 => partsFrom (some c) (inside + 1) (c :: stretch) rest

def parts (text : List Char) : List Part :=
  partsFrom none 0 [] text

/-- Whether a number may start after a character: not inside a word, a number or
a hexadecimal colour. -/
def startsNumber (previous : Option Char) : Bool :=
  !previous.any fun c => isWordChar c || c == '.' || c == '#'

def zeroUnits : List (List Char) :=
  [['p', 'x'], ['e', 'm'], ['r', 'e', 'm'], ['v', 'h'], ['v', 'w']]

def zeroUnitLength (text : List Char) : Nat :=
  match zeroUnits.find? fun unit => unit.isPrefixOf text with
  | some unit => if (text.drop unit.length).head?.any isWordChar then 0 else unit.length
  | none => 0

def zeroTailLength (text : List Char) : Nat :=
  match text with
  | '.' :: rest =>
      let zeros := (rest.takeWhile (· == '0')).length
      let unit := zeroUnitLength (rest.drop zeros)
      if zeros = 0 ∨ unit = 0 then 0 else 1 + zeros + unit
  | _ => zeroUnitLength text

def shortenZeros (previous : Option Char) (skip : Nat) : List Char → List Char
  | [] => []
  | c :: rest =>
      match skip with
      | skip + 1 => shortenZeros (some c) skip rest
      | 0 =>
          if c == '0' && startsNumber previous && previous != some '-' then
            '0' :: shortenZeros (some c) (zeroTailLength rest) rest
          else c :: shortenZeros (some c) 0 rest

def dropLeadingZeros (previous : Option Char) : List Char → List Char
  | [] => []
  | c :: rest =>
      match rest with
      | '.' :: digit :: _ =>
          if c == '0' && startsNumber previous && isDecimalDigit digit then
            dropLeadingZeros (some c) rest
          else c :: dropLeadingZeros (some c) rest
      | _ => c :: dropLeadingZeros (some c) rest

def Part.shortened : Part → List Char
  | .plain text => dropLeadingZeros none (shortenZeros none 0 text)
  | .literal text => text

def minified (css : String) : String :=
  String.ofList ((parts (collapse css.toList)).flatMap Part.shortened)

end DesignTokens.Stylesheet
