import DesignTokens.Value.Coercion

/-!
Token documents: nested groups of light and dark values, flattened to paths, and
metadata by path.
-/

namespace DesignTokens

def hasDollarKey : List (Scalar × Data) → Except Error Bool
  | [] => .ok false
  | (key, _) :: rest => do
      let name ← key.readText
      if name.toList.head? == some '$' then return true else hasDollarKey rest

structure TokenSet where
  light : List (Path × Value)
  dark : List (Path × Value)
  metadata : List (Path × Metadata)

namespace TokenSet

def empty : TokenSet :=
  ⟨[], [], []⟩

def token (segments : List String) (leaf : Data) : Except Error (Path × Value) := do
  let path ← (Path.join segments).mapError Error.badPath
  let value ← Value.ofData leaf
  return (path, value)

mutual

def flatten (parents : List String) : List (Scalar × Data) → Except Error (List (Path × Value))
  | [] => return []
  | (key, node) :: rest => do
      let name ← key.readText
      let first ← flattenNode (parents ++ [name]) node
      let others ← flatten parents rest
      return first ++ others

/-- A mapping is a group of tokens unless it has a dollar key; everything else
is the value of one token. -/
def flattenNode (segments : List String) : Data → Except Error (List (Path × Value))
  | .mapping entries => do
      if ← hasDollarKey entries then return [← token segments (.mapping entries)]
      else flatten segments entries
  | leaf => return [← token segments leaf]

end

def metadataOf (data : Data) : Except Error Metadata :=
  if data.isVoid then
    (Metadata.ofFields? []).elim (.error .record) .ok
  else
    match data with
    | .mapping entries =>
        match Fields.ofEntries? entries with
        | some fields => (Metadata.ofFields? fields).elim (.error .record) .ok
        | none => .error .fieldNames
    | _ => .error .fieldNames

def readMetadata (entries : List (Scalar × Data)) : Except Error (List (Path × Metadata)) :=
  entries.mapM fun (key, data) => do
    let path ← Path.read (← key.readText)
    let metadata ← metadataOf data
    return (path, metadata)

def sectionEntries (document : List (Scalar × Data)) (name : String) :
    Except Error (List (Scalar × Data)) :=
  match Data.entry? document name with
  | none => .ok []
  | some (.mapping entries) => .ok entries
  | some data => if data.isVoid then .ok [] else .error (.document (.section name))

def ofDocument (document : List (Scalar × Data)) : Except Error TokenSet := do
  let light ← sectionEntries document "light"
  let dark ← sectionEntries document "dark"
  let metadata ← sectionEntries document "metadata"
  let contents : Except Error TokenSet := do
    return ⟨← flatten [] light, ← flatten [] dark, ← readMetadata metadata⟩
  contents.mapError fun error =>
    if error.kind.isTokenError || error == .record || error == .fieldNames then .content error
    else error

end TokenSet

end DesignTokens
