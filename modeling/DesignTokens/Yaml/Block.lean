import DesignTokens.Yaml.Quoted

/-!
Block scalars of YAML: lines below a header that are indented by more than what
surrounds them.
-/

namespace DesignTokens.Yaml

inductive Chomping where
  | strip
  | clip
  | keep
deriving DecidableEq, Repr

structure BlockHeader where
  chomping : Chomping
  indentation : Option Nat

def chomping? : Char → Option Chomping
  | '+' => some .keep
  | '-' => some .strip
  | _ => none

def indentation? (c : Char) : Option (Option Nat) :=
  if isAsciiDigit c then some (if c == '0' then none else digitIn? 10 c) else none

def blockMarks? (text : List Char) : Option (BlockHeader × Nat) :=
  match text with
  | [] => some (⟨.clip, none⟩, 0)
  | c :: rest =>
      match chomping? c, indentation? c with
      | some chomping, _ =>
          match rest.head?.bind indentation? with
          | some none => none
          | some width => some (⟨chomping, width⟩, 2)
          | none => some (⟨chomping, none⟩, 1)
      | none, some none => none
      | none, some width =>
          match rest.head?.bind chomping? with
          | some chomping => some (⟨chomping, width⟩, 2)
          | none => some (⟨.clip, width⟩, 1)
      | none, none => some (⟨.clip, none⟩, 0)

def blockHeader? (cursor : Cursor) : Option (BlockHeader × Cursor) := do
  let (header, count) ← blockMarks? cursor.rest
  let cursor := cursor.forward count
  if atWordEnd cursor.rest then
    let rest ← lineRest? cursor.rest
    return (header, cursor.forward (rest + 1))
  else none

def leadingLines (reversed : List Char) (length column largest : Nat) :
    List Char → List Char × Nat × Nat
  | [] => (reversed, length, largest)
  | c :: rest =>
      if c == ' ' then
        leadingLines reversed (length + 1) (column + 1) (max largest (column + 1)) rest
      else if isBreak c then leadingLines (breakText c :: reversed) (length + 1) 0 largest rest
      else (reversed, length, largest)

def linesBetween (indent : Nat) (reversed : List Char) (length column : Nat) :
    List Char → List Char × Nat
  | [] => (reversed, length)
  | c :: rest =>
      if c == ' ' && column < indent then
        linesBetween indent reversed (length + 1) (column + 1) rest
      else if isBreak c then linesBetween indent (breakText c :: reversed) (length + 1) 0 rest
      else (reversed, length)

structure BlockLines where
  text : List Char
  lastBreak : List Char
  empty : List Char
  cursor : Cursor

def startsIndented (cursor : Cursor) : Bool :=
  cursor.rest.head?.any isGap

/-- The lines of a block scalar from a place on.  Between two lines that start
with a character a folded scalar has a space for a single line break and keeps
all but the first of several.  The fuel bounds the number of lines. -/
def blockLines (folded : Bool) (indent : Nat) (empty : List Char) (cursor : Cursor) :
    Nat → BlockLines
  | 0 => ⟨[], [], empty, cursor⟩
  | fuel + 1 =>
      if cursor.column ≠ indent ∨ cursor.rest.isEmpty then ⟨[], [], empty, cursor⟩
      else
        let line := cursor.rest.takeWhile fun c => !isBreak c
        let lineEnd := cursor.forward line.length
        let lineBreak := (lineEnd.rest.take 1).map breakText
        let (breaks, length) := linesBetween indent [] 0 0 (lineEnd.rest.drop 1)
        let next := lineEnd.forward (1 + length)
        let following := blockLines folded indent breaks.reverse next fuel
        if next.column ≠ indent ∨ next.rest.isEmpty then
          ⟨empty ++ line, lineBreak, breaks.reverse, next⟩
        else
          let folds :=
            folded && lineBreak == ['\n'] && !startsIndented cursor && !startsIndented next
          let glue := if !folds then lineBreak else if breaks.isEmpty then [' '] else []
          { following with text := empty ++ line ++ glue ++ following.text }

/-- The text of a block scalar after its first mark, and the place after it;
`outer` is the first column that belongs to the block around it. -/
def blockText? (folded : Bool) (outer : Nat) (cursor : Cursor) : Option (List Char × Cursor) := do
  let (header, start) ← blockHeader? cursor
  let least := max 1 outer
  let (indent, breaks, length) :=
    match header.indentation with
    | some width =>
        let indent := least + width - 1
        let (breaks, length) := linesBetween indent [] 0 start.column start.rest
        (indent, breaks, length)
    | none =>
        let (breaks, length, largest) := leadingLines [] 0 start.column 0 start.rest
        (max least largest, breaks, length)
  let first := start.forward length
  let lines := blockLines folded indent breaks.reverse first (first.rest.length + 1)
  let ending :=
    match header.chomping with
    | .strip => []
    | .clip => lines.lastBreak
    | .keep => lines.lastBreak ++ lines.empty
  return (lines.text ++ ending, lines.cursor)

end DesignTokens.Yaml
