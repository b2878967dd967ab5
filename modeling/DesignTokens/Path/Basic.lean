import DesignTokens.Text.Blank
import DesignTokens.Text.Quoted
import DesignTokens.Text.Word

/-!
Token paths: the segments of a dotted name.  A path always has a segment, and
every segment is well formed.
-/

namespace DesignTokens

def isSegmentChar (c : Char) : Bool :=
  isAsciiLetter c || isAsciiDigit c || c == '_' || c == '-'

/-- Segments are made of letters, digits, underscores and dashes.  A line break
may follow the last of them. -/
def isSegment (text : String) : Bool :=
  let body := (dropTail ['\n'] text.toList).getD text.toList
  !body.isEmpty && body.all isSegmentChar

structure Path where
  segments : List String
  nonempty : segments ≠ []
  valid : ∀ segment ∈ segments, isSegment segment = true
deriving DecidableEq

inductive PathDefect where
  | empty
  | emptySegment
  | illegalSegment (segment : String)
deriving DecidableEq, Repr

structure PathFault where
  defect : PathDefect
  raw : String
deriving DecidableEq, Repr

def PathFault.message (fault : PathFault) : String :=
  let reason :=
    match fault.defect with
    | .empty => "empty token path"
    | .emptySegment => "empty path segment"
    | .illegalSegment segment => "illegal characters in segment " ++ quoted segment
  reason ++ ": " ++ quoted fault.raw

namespace Path

def ofSegments (segments : List String) : Except PathDefect Path :=
  if h : segments ≠ [] ∧ ∀ segment ∈ segments, isSegment segment = true then
    .ok ⟨segments, h.1, h.2⟩
  else
    match segments.find? (!isSegment ·) with
    | none => .error .empty
    | some segment =>
        if segment.isEmpty then .error .emptySegment else .error (.illegalSegment segment)

def parse (raw : String) : Except PathFault Path :=
  let text := trimmed raw
  if text.isEmpty then .error ⟨.empty, raw⟩
  else (ofSegments (splitAtChar '.' text)).mapError (⟨·, raw⟩)

def dotted (path : Path) : String :=
  ".".intercalate path.segments

def join (segments : List String) : Except PathFault Path :=
  parse (".".intercalate segments)

def size (path : Path) : Nat :=
  path.segments.length

def head (path : Path) : String :=
  path.segments.head path.nonempty

def name (path : Path) : String :=
  path.segments.getLast path.nonempty

def group (path : Path) : List String :=
  path.segments.dropLast

def parent? (path : Path) : Option Path :=
  if h : path.group ≠ [] then
    some ⟨path.group, h, fun segment found =>
      path.valid segment ((List.dropLast_sublist _).subset found)⟩
  else none

def child (path : Path) (segment : String) : Except PathFault Path :=
  join (path.segments ++ [segment])

def startsWith (path : Path) (lead : List String) : Bool :=
  lead.isPrefixOf path.segments

def customProperty (path : Path) (lead : String) : String :=
  let body := "-".intercalate path.segments
  if lead.isEmpty then "--" ++ body else "--" ++ lead ++ "-" ++ body

def precedes (path other : Path) : Bool :=
  path.segments < other.segments

def sort (paths : List Path) : List Path :=
  paths.mergeSort fun path other => !other.precedes path

def shown (path : Path) : String :=
  "TokenPath(" ++ quoted path.dotted ++ ")"

end Path

def isPathText (text : String) : Bool :=
  !text.isEmpty && (splitAtChar '.' text).all isSegment

def Path.ofReference? (text : String) : Option Path :=
  if isPathText text then (Path.parse text).toOption else none

end DesignTokens
