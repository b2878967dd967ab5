import DesignTokens.TokenSet.File
import DesignTokens.TokenSystem.Request

/-!
A system at work in a folder, where it can read and write files.
-/

namespace DesignTokens

structure Workspace where
  system : TokenSystem
  folder : Folder

abbrev Work := ExceptT Error (StateM Workspace)

namespace Work

def onSystem {α : Type} (action : Action α) : Work α :=
  ExceptT.mk fun workspace =>
    let (result, system) := action.run workspace.system
    (result, { workspace with system })

def writeFile (name : FileName) (text : String) : Work Unit := do
  let workspace ← get
  let (fault, folder) := workspace.folder.write name text.toUTF8
  set { workspace with folder }
  match fault with
  | none => return
  | some fault => throw (.file fault)

def importFile (name : FileName) : Work Nat := do
  match TokenSet.ofFile (← get).folder name with
  | .ok tokens => onSystem (Action.onStore (·.load tokens))
  | .error error => throw error

def writeSheet (name : FileName) : Work String := do
  let css ← onSystem (Action.output View.themeSheet .active)
  tryCatch (writeFile name css) fun error =>
    throw (if error == .file .nullByte then error else .document (.unwritable name.text))
  return css

def writeDocument (name : FileName) (scope : Scope) : Work String := do
  let members ← onSystem (Action.document scope)
  let text := (Json.object members).pretty
  writeFile name text
  return text

end Work

inductive Command where
  | tokens (request : Request)
  | importFile (name : FileName)
  | writeSheet (name : FileName)
  | writeDocument (name : FileName) (scope : Scope)

namespace Workspace

def perform : Command → Work Reply
  | .tokens request => Work.onSystem (Action.ofRequest request)
  | .importFile name => .count <$> Work.importFile name
  | .writeSheet name => .file name <$> Work.writeSheet name
  | .writeDocument name scope => .file name <$> Work.writeDocument name scope

def after (workspace : Workspace) (command : Command) : Workspace :=
  ((perform command).run workspace).2

def afterAll (workspace : Workspace) (commands : List Command) : Workspace :=
  commands.foldl after workspace

end Workspace

end DesignTokens
