import DesignTokens.Yaml.Node
import DesignTokens.Yaml.Token

/-!
Reading a YAML document from its tokens.
-/

namespace DesignTokens.Yaml

inductive Anchored where
  | ready (node : Node)
  | unfinished (shown : String)

structure Source where
  tokens : List Token
  anchors : List (String × Anchored)
  handles : List (String × String)
  depth : Nat

abbrev Reader := StateT Source (Except ReadingFault)

def unexpected {α : Type} : Reader α := do
  match (← get).tokens with
  | .fault cause :: _ => throw cause
  | _ => throw .malformed

def next? : Reader (Option Token) := do
  return (← get).tokens.head?

def advance : Reader Unit :=
  modify fun source => { source with tokens := source.tokens.tail }

def accept (token : Token) : Reader Bool := do
  if (← next?) == some token then
    advance
    return true
  else return false

def comesNext (tokens : List Token) : Reader Bool := do
  return (← next?).any tokens.contains

structure Properties where
  anchor : Option String
  tag : Option TagText
deriving DecidableEq

def readAnchor : Reader (Option String) := do
  match ← next? with
  | some (.anchor name) => advance; return some name
  | _ => return none

def readTag : Reader (Option TagText) := do
  match ← next? with
  | some (.tag tag) => advance; return some tag
  | _ => return none

def readProperties : Reader Properties := do
  match ← readAnchor with
  | some name => return ⟨some name, ← readTag⟩
  | none =>
      match ← readTag with
      | some tag => return ⟨← readAnchor, some tag⟩
      | none => return ⟨none, none⟩

def resolveTag (text : Option TagText) : Reader (Option Tag) := do
  match text with
  | none => return none
  | some ⟨none, rest⟩ => return if rest == "!" then none else some (Tag.ofText rest)
  | some ⟨some handle, rest⟩ =>
      match (← get).handles.lookup handle with
      | some start => return some (Tag.ofText (start ++ rest))
      | none => throw .malformed

def nameNode (name : Option String) (anchored : Anchored) : Reader Unit := do
  match name with
  | none => return
  | some name =>
      if ((← get).anchors.lookup name).isSome then throw .malformed
      else modify fun source => { source with anchors := (name, anchored) :: source.anchors }

def finishNode (name : Option String) (node : Node) : Reader Node := do
  match name with
  | none => return node
  | some name =>
      modify fun source => { source with anchors := (name, .ready node) :: source.anchors }
      return node

def readReference (name : String) : Reader Node := do
  match (← get).anchors.lookup name with
  | some (.ready node) => return node
  | some (.unfinished shown) => return .endless shown
  | none => throw .malformed

def readInside {α : Type} (parts : Reader α) : Reader α := do
  let depth := (← get).depth
  if nestingLimit ≤ depth then throw (.data .tooDeep)
  modify fun source => { source with depth := depth + 1 }
  let result ← parts
  modify fun source => { source with depth }
  return result

def readLeaf (name : Option String) (node : Node) : Reader Node := do
  nameNode name (.ready node)
  return node

def readEmpty (properties : Properties) (tag : Option Tag) : Reader Node :=
  if properties == ⟨none, none⟩ then unexpected
  else readLeaf properties.anchor (Node.ofScalar tag "" true)

inductive Layout where
  | block
  | indentless
  | flow
deriving DecidableEq, Repr

def Layout.endingKey (layout : Layout) (closing : Token) : List Token :=
  match layout with
  | .flow => [.value, .comma, closing]
  | _ => [.key, .value, closing]

def Layout.endingValue (layout : Layout) (closing : Token) : List Token :=
  match layout with
  | .flow => [.comma, closing]
  | _ => [.key, .value, closing]

mutual

/-- A node: a reference, a scalar or a collection.  Block collections are read only
where they may stand, and so are items that share the column of their key. -/
def readNode (block indentless : Bool) : Nat → Reader Node
  | 0 => unexpected
  | fuel + 1 => do
      match ← next? with
      | some (.reference name) => do advance; readReference name
      | _ =>
          let properties ← readProperties
          let tag ← resolveTag properties.tag
          readContent block indentless properties tag fuel

def readContent (block indentless : Bool) (properties : Properties) (tag : Option Tag) :
    Nat → Reader Node
  | 0 => unexpected
  | fuel + 1 => do
      match ← next? with
      | some (.fault cause) => throw cause
      | some (.scalar text plain) =>
          advance
          readLeaf properties.anchor (Node.ofScalar tag text (plain || properties.tag.isSome))
      | some .openSequence => do advance; readList .flow properties.anchor tag fuel
      | some .openMapping => do advance; readMapping .flow properties.anchor tag fuel
      | some .entry =>
          if indentless then readList .indentless properties.anchor tag fuel
          else readEmpty properties tag
      | some .blockSequence =>
          if block then do advance; readList .block properties.anchor tag fuel
          else readEmpty properties tag
      | some .blockMapping =>
          if block then do advance; readMapping .block properties.anchor tag fuel
          else readEmpty properties tag
      | _ => readEmpty properties tag

def readList (layout : Layout) (name : Option String) (tag : Option Tag) : Nat → Reader Node
  | 0 => unexpected
  | fuel + 1 => do
      nameNode name (.unfinished endlessList)
      let items ← readInside <|
        match layout with
        | .flow => readFlowItems true fuel
        | .indentless => readIndentlessItems fuel
        | .block => readBlockItems fuel
      finishNode name (.list (tag.getD .sequence) items)

def readMapping (layout : Layout) (name : Option String) (tag : Option Tag) : Nat → Reader Node
  | 0 => unexpected
  | fuel + 1 => do
      nameNode name (.unfinished endlessMapping)
      let entries ← readInside <|
        match layout with
        | .flow => readFlowEntries true fuel
        | _ => readBlockEntries fuel
      finishNode name (Node.ofEntries (tag.getD .mapping) entries)

def readPart (block indentless : Bool) (ending : List Token) : Nat → Reader Node
  | 0 => unexpected
  | fuel + 1 => do
      if ← comesNext ending then return Node.nothing
      else readNode block indentless fuel

def readBlockItems : Nat → Reader (List Node)
  | 0 => unexpected
  | fuel + 1 => do
      if ← accept .blockEnd then return []
      else if ← accept .entry then
        let item ← readPart true false [.entry, .blockEnd] fuel
        return item :: (← readBlockItems fuel)
      else unexpected

def readIndentlessItems : Nat → Reader (List Node)
  | 0 => unexpected
  | fuel + 1 => do
      if ← accept .entry then
        let item ← readPart true false [.entry, .key, .value, .blockEnd] fuel
        return item :: (← readIndentlessItems fuel)
      else return []

def readBlockEntries : Nat → Reader (List (Node × Node))
  | 0 => unexpected
  | fuel + 1 => do
      if ← accept .blockEnd then return []
      else if ← accept .key then
        let entry ← readEntry .block .blockEnd fuel
        return entry :: (← readBlockEntries fuel)
      else unexpected

def readEntry (layout : Layout) (closing : Token) : Nat → Reader (Node × Node)
  | 0 => unexpected
  | fuel + 1 => do
      let block := layout == .block
      let key ← readPart block block (layout.endingKey closing) fuel
      if ← accept .value then
        return (key, ← readPart block block (layout.endingValue closing) fuel)
      else return (key, Node.nothing)

def readFlowItems (first : Bool) : Nat → Reader (List Node)
  | 0 => unexpected
  | fuel + 1 => do
      if ← accept .closeSequence then return []
      else if first then readMoreFlowItems fuel
      else if ← accept .comma then
        if ← accept .closeSequence then return [] else readMoreFlowItems fuel
      else unexpected

def readMoreFlowItems : Nat → Reader (List Node)
  | 0 => unexpected
  | fuel + 1 => do
      let item ← readFlowItem fuel
      return item :: (← readFlowItems false fuel)

def readFlowItem : Nat → Reader Node
  | 0 => unexpected
  | fuel + 1 => do
      if ← accept .key then
        return Node.ofEntries .mapping [← readEntry .flow .closeSequence fuel]
      else readNode false false fuel

def readFlowEntries (first : Bool) : Nat → Reader (List (Node × Node))
  | 0 => unexpected
  | fuel + 1 => do
      if ← accept .closeMapping then return []
      else if first then readMoreFlowEntries fuel
      else if ← accept .comma then
        if ← accept .closeMapping then return [] else readMoreFlowEntries fuel
      else unexpected

def readMoreFlowEntries : Nat → Reader (List (Node × Node))
  | 0 => unexpected
  | fuel + 1 => do
      let entry ← readFlowEntry fuel
      return entry :: (← readFlowEntries false fuel)

def readFlowEntry : Nat → Reader (Node × Node)
  | 0 => unexpected
  | fuel + 1 => do
      if ← accept .key then readEntry .flow .closeMapping fuel
      else return (← readNode false false fuel, Node.nothing)

end

/-- Reads directives: at most one version, which must be of the first generation,
and each handle at most once. -/
def readDirectives (versioned : Bool) (handles : List (String × String)) :
    Nat → Reader (List (String × String))
  | 0 => unexpected
  | fuel + 1 => do
      match ← next? with
      | some (.directive directive) =>
          advance
          match directive with
          | .version major =>
              if versioned || major ≠ 1 then throw .malformed
              else readDirectives true handles fuel
          | .handle name start =>
              if (handles.lookup name).isSome then throw .malformed
              else readDirectives versioned ((name, start) :: handles) fuel
          | .other => readDirectives versioned handles fuel
      | _ => return handles

def standardHandles : List (String × String) := [("!", "!"), ("!!", tagDomain)]

def skipDocumentEnds : Reader Unit :=
  modify fun source => { source with tokens := source.tokens.dropWhile (· == .documentEnd) }

def readDocument (fuel : Nat) : Reader Node := do
  match ← next? with
  | none => return Node.nothing
  | some token =>
      let marked :=
        match token with
        | .directive _ => true
        | token => token == .documentStart
      if !marked then readNode true false fuel
      else
        let handles ← readDirectives false [] fuel
        modify fun source => { source with handles := handles ++ standardHandles }
        if ← accept .documentStart then
          match ← next? with
          | none => return Node.nothing
          | some (.directive _) => return Node.nothing
          | some token =>
              if token == .documentStart || token == .documentEnd then return Node.nothing
              else readNode true false fuel
        else unexpected

def readSingle (fuel : Nat) : Reader Node := do
  let node ← readDocument fuel
  skipDocumentEnds
  match ← next? with
  | none => return node
  | some _ => unexpected

def parse (text : String) : Except ReadingFault Data := do
  let chars := text.toList
  if !chars.all isAllowed then throw .malformed
  let tokens := tokens chars
  let (node, _) ← (readSingle (8 * tokens.length + 8)).run ⟨tokens, [], standardHandles, 0⟩
  node.toData

end DesignTokens.Yaml
