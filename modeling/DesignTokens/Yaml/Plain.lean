import DesignTokens.Yaml.Quoted

/-!
Plain scalars of YAML, which may go over several lines.
-/

namespace DesignTokens.Yaml

def isFlowMark (c : Char) : Bool :=
  c == ',' || c == '[' || c == ']' || c == '{' || c == '}'

def stretchLength (flow : Bool) : List Char → Nat
  | [] => 0
  | c :: rest =>
      let stops :=
        isGap c || isBreak c ||
          (c == ':' && (atGap rest || (flow && rest.head?.any isFlowMark))) ||
          (flow && (c == '?' || isFlowMark c))
      if stops then 0 else stretchLength flow rest + 1

/-- Line breaks and spaces up to the next text: the breaks in reverse, and how many
characters there are.  The text of the breaks is none if a document mark follows one. -/
def emptyLines (reversed : List Char) (length : Nat) : List Char → Option (List Char) × Nat
  | [] => (some reversed, length)
  | c :: rest =>
      if c == ' ' then emptyLines reversed (length + 1) rest
      else if !isBreak c then (some reversed, length)
      else if atDocumentMark rest then (none, length + 1)
      else emptyLines (breakText c :: reversed) (length + 1) rest

structure PlainGap where
  /-- What joins the next stretch, if there may be one. -/
  joint : Option (List Char)
  length : Nat
  broken : Bool

def plainGap (text : List Char) : PlainGap :=
  let spaces := text.takeWhile (· == ' ')
  match text.drop spaces.length with
  | [] => ⟨if spaces.isEmpty then none else some spaces, spaces.length, false⟩
  | c :: rest =>
      if isBreak c then
        let (breaks, length) := emptyLines [] 0 (c :: rest)
        ⟨breaks.map fun reversed => (Joint.breaks (some c) reversed.dropLast).reversed.reverse,
          spaces.length + length, true⟩
      else ⟨if spaces.isEmpty then none else some spaces, spaces.length, false⟩

/-- The text of a plain scalar, the place after it and the blanks behind it, and
whether the last of these blanks have a line break.  The fuel bounds the number
of stretches. -/
def plainText (flow : Bool) (content : Nat) (cursor : Cursor) (joint : List Char) (broken : Bool) :
    Nat → List Char × Cursor × Bool
  | 0 => ([], cursor, broken)
  | fuel + 1 =>
      let length := if cursor.rest.head? == some '#' then 0 else stretchLength flow cursor.rest
      if length = 0 then ([], cursor, broken)
      else
        let stretch := joint ++ cursor.rest.take length
        let cursor := cursor.forward length
        let gap := plainGap cursor.rest
        let next := cursor.forward gap.length
        match gap.joint with
        | none => (stretch, next, gap.broken)
        | some joint =>
            if next.rest.head? == some '#' || (!flow && next.column < content) then
              (stretch, next, gap.broken)
            else
              let (more, last, broken) := plainText flow content next joint gap.broken fuel
              (stretch ++ more, last, broken)

def indicators : List Char :=
  ['-', '?', ':', ',', '[', ']', '{', '}', '#', '&', '*', '!', '|', '>', '\'', '"', '%', '@',
    Char.ofNat 0x60]

def startsPlain (flow : Bool) (c : Char) (rest : List Char) : Bool :=
  (!indicators.contains c && !atGap [c]) ||
    (!atGap rest && (c == '-' || (!flow && (c == '?' || c == ':'))))

end DesignTokens.Yaml
