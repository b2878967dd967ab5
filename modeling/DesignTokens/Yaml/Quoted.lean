import DesignTokens.Yaml.Cursor

/-!
Quoted scalars of YAML.  Line breaks in them are folded.
-/

namespace DesignTokens.Yaml

inductive Joint where
  | blanks (reversed : List Char)
  | breaks (first : Option Char) (reversed : List Char)

/-- The text of a joint in reverse.  A single line break becomes a space; of
several the first one is dropped. -/
def Joint.reversed : Joint → List Char
  | .blanks reversed => reversed
  | .breaks none reversed => reversed
  | .breaks (some first) reversed =>
      if breakText first ≠ '\n' then reversed ++ [first]
      else if reversed.isEmpty then [' ']
      else reversed

structure QuotedText where
  reversed : List Char
  joint : Joint

namespace QuotedText

def empty : QuotedText :=
  ⟨[], .blanks []⟩

def flush (text : QuotedText) : List Char :=
  text.joint.reversed ++ text.reversed

def add (text : QuotedText) (c : Char) : QuotedText :=
  ⟨c :: text.flush, .blanks []⟩

def gap (text : QuotedText) (c : Char) : QuotedText :=
  match text.joint with
  | .blanks reversed =>
      { text with joint := if isBreak c then .breaks (some c) [] else .blanks (c :: reversed) }
  | .breaks first reversed =>
      if isBreak c then { text with joint := .breaks first (breakText c :: reversed) } else text

def escapedBreak (text : QuotedText) : QuotedText :=
  ⟨text.flush, .breaks none []⟩

end QuotedText

abbrev Measured := List Char × Nat

/-- The rest of a scalar in single quotes, where two of them stand for one.  A
line in it must not look like the start or end of a document. -/
def singleQuoted (text : QuotedText) (length : Nat) : List Char → Except ReadingFault Measured
  | [] => .error .malformed
  | '\'' :: '\'' :: rest => singleQuoted (text.add '\'') (length + 2) rest
  | c :: rest =>
      if c == '\'' then .ok (text.flush.reverse, length + 1)
      else if isBreak c && atDocumentMark rest then .error .malformed
      else if isGap c || isBreak c then singleQuoted (text.gap c) (length + 1) rest
      else singleQuoted (text.add c) (length + 1) rest

def escapes : List (Char × Nat) := [
  ('0', 0), ('a', 7), ('b', 8), ('t', 9), ('\t', 9), ('n', 10), ('v', 11), ('f', 12), ('r', 13),
  ('e', 27), (' ', 32), ('"', 34), ('\\', 92), ('/', 47), ('N', 0x85), ('_', 0xA0), ('L', 0x2028),
  ('P', 0x2029)]

def escapeWidths : List (Char × Nat) := [('x', 2), ('u', 4), ('U', 8)]

def codedChar (code : Nat) : Except ReadingFault Char :=
  if 0x7FFFFFFF < code then .error (.data .hugeCharacter)
  else if 0x10FFFF < code then .error (.data .character)
  else if 0xD800 ≤ code ∧ code ≤ 0xDFFF then .error .malformed
  else .ok (Char.ofNat code)

def escapeValue : List Char → Except ReadingFault (Char × Nat)
  | [] => .error .malformed
  | c :: rest =>
      match escapes.lookup c with
      | some code => .ok (Char.ofNat code, 1)
      | none =>
          match escapeWidths.lookup c with
          | none => .error .malformed
          | some width =>
              if rest.length < width then .error .malformed
              else
                match numberIn? 16 (rest.take width) with
                | some code => (codedChar code).map fun value => (value, width + 1)
                | none => .error .malformed

def doubleQuoted (text : QuotedText) (length skip : Nat) :
    List Char → Except ReadingFault Measured
  | [] => .error .malformed
  | c :: rest =>
      match skip with
      | skip + 1 => doubleQuoted text (length + 1) skip rest
      | 0 =>
          if c == '"' then .ok (text.flush.reverse, length + 1)
          else if isBreak c && atDocumentMark rest then .error .malformed
          else if isGap c || isBreak c then doubleQuoted (text.gap c) (length + 1) 0 rest
          else if c != '\\' then doubleQuoted (text.add c) (length + 1) 0 rest
          else if rest.head?.any isBreak then
            if atDocumentMark (rest.drop 1) then .error .malformed
            else doubleQuoted text.escapedBreak (length + 1) 1 rest
          else
            match escapeValue rest with
            | .error fault => .error fault
            | .ok (value, count) => doubleQuoted (text.add value) (length + 1) count rest

end DesignTokens.Yaml
