import DesignTokens.Toml.Value

/-!
TOML documents: lines that open tables or set keys in them.
-/

namespace DesignTokens.Toml

inductive Line where
  | table (key : List String)
  | element (key : List String)
  | assignment (key : List String) (value : Data)

structure Draft where
  root : List (Scalar × Data)
  header : List String
  declared : List (List String)
  /-- Tables opened by dotted keys, which may not be opened by later lines. -/
  pending : List (List String)
  closed : List (List String)

def Draft.isClosed (draft : Draft) (key : List String) : Bool :=
  draft.closed.any (·.isPrefixOf key)

/-- Changes the table at a key, which is opened if need be.  In an array of
tables the last one is meant. -/
def changeAt (change : List (Scalar × Data) → Option (List (Scalar × Data)))
    (entries : List (Scalar × Data)) : List String → Option (List (Scalar × Data))
  | [] => change entries
  | name :: rest =>
      match Data.entry? entries name with
      | none =>
          (changeAt change [] rest).map fun inner =>
            Entries.insert entries (.text name) (.mapping inner)
      | some (.mapping inner) =>
          (changeAt change inner rest).map fun inner =>
            Entries.insert entries (.text name) (.mapping inner)
      | some (.list items) =>
          match items.reverse with
          | .mapping inner :: earlier =>
              (changeAt change inner rest).map fun inner =>
                Entries.insert entries (.text name) (.list (.mapping inner :: earlier).reverse)
          | _ => none
      | some (.scalar _) => none

def addElement (name : String) (entries : List (Scalar × Data)) : Option (List (Scalar × Data)) :=
  match Data.entry? entries name with
  | none => some (Entries.insert entries (.text name) (.list [.mapping []]))
  | some (.list items) =>
      some (Entries.insert entries (.text name) (.list (items ++ [.mapping []])))
  | some _ => none

def setOnce (name : String) (value : Data) (entries : List (Scalar × Data)) :
    Option (List (Scalar × Data)) :=
  match Data.entry? entries name with
  | none => some (Entries.insert entries (.text name) value)
  | some _ => none

def dottedTables (header key : List String) : List (List String) :=
  (List.range (key.length - 1)).map fun count => header ++ key.take (count + 1)

def Draft.take (draft : Draft) : Line → Option Draft
  | .table key =>
      let declared := draft.pending ++ draft.declared
      if declared.contains key || draft.isClosed key then none
      else
        (changeAt some draft.root key).map fun root =>
          { draft with root, header := key, declared := key :: declared, pending := [] }
  | .element key =>
      if draft.isClosed key then none
      else
        let declared := (draft.pending ++ draft.declared).filter (!key.isPrefixOf ·)
        let closed := draft.closed.filter (!key.isPrefixOf ·)
        match key.getLast? with
        | none => none
        | some name =>
            (changeAt (addElement name) draft.root key.dropLast).map fun root =>
              { root, header := key, declared := key :: declared, pending := [], closed }
  | .assignment key value =>
      let tables := dottedTables draft.header key
      let parent := draft.header ++ key.dropLast
      if tables.any draft.declared.contains || (!parent.isEmpty && draft.isClosed parent) then none
      else
        match key.getLast? with
        | none => none
        | some name =>
            (changeAt (setOnce name value) draft.root parent).map fun root =>
              { draft with
                root
                pending := tables ++ draft.pending
                closed :=
                  if isContainer value then (draft.header ++ key) :: draft.closed
                  else draft.closed }

def readLine (fuel : Nat) (text : List Char) : Reading (Line × List Char) :=
  match text with
  | '[' :: '[' :: rest => do
      let (key, rest) ← wellFormed (readKey fuel (skipGaps rest))
      return (.element key, ← wellFormed (dropLead [']', ']'] rest))
  | '[' :: rest => do
      let (key, rest) ← wellFormed (readKey fuel (skipGaps rest))
      return (.table key, ← wellFormed (dropLead [']'] rest))
  | text => do
      let (key, rest) ← wellFormed (readKey fuel text)
      let (value, rest) ← readValue 0 fuel (skipGaps (← wellFormed (dropLead ['='] rest)))
      return (.assignment key value, rest)

def readLines (draft : Draft) : Nat → List Char → Reading Draft
  | 0, _ => .error .malformed
  | fuel + 1, text =>
      match skipGaps text with
      | [] => .ok draft
      | '\n' :: rest => readLines draft fuel rest
      | '#' :: rest => do readLines draft fuel (← wellFormed (skipComment? ('#' :: rest)))
      | text => do
          let (line, rest) ← readLine (fuel + 1) text
          let draft ← wellFormed (draft.take line)
          match ← wellFormed (skipComment? (skipGaps rest)) with
          | [] => return draft
          | '\n' :: rest => readLines draft fuel rest
          | _ => .error .malformed

def parse (text : String) : Reading (List (Scalar × Data)) :=
  (readLines ⟨[], [], [], [], []⟩ (2 * text.length + 2) text.toList).map Draft.root

end DesignTokens.Toml
