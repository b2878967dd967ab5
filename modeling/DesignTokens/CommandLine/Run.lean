import DesignTokens.CommandLine.Invocation
import DesignTokens.Config.File
import DesignTokens.Console.Table
import DesignTokens.TokenSystem.Request

/-!
Running a command line: what it prints, which files it writes, and its exit code.
-/

namespace DesignTokens

namespace CommandLine

structure Outcome where
  exit : Nat
  printed : String
  notes : String
  written : List (FileName × String)
deriving DecidableEq, Repr

def failureCode : Nat := 1

def usageCode : Nat := 2

def versionText : String := "tokenweave 0.4.0"

namespace Outcome

def broken : Outcome :=
  ⟨failureCode, "", "", []⟩

def print (text : String) : Outcome :=
  ⟨0, if text.endsWith "\n" then text else text ++ "\n", "", []⟩

def note (outcome : Outcome) (line : String) : Outcome :=
  match Console.shown? line with
  | some shown => { outcome with notes := outcome.notes ++ shown ++ "\n" }
  | none => { outcome with exit := failureCode }

def failure (title : String) (error : Error) : Outcome :=
  broken.note ("[red]" ++ title ++ ":[/red] " ++ error.message)

def write (folder : Folder) (name : FileName) (text : String) : Outcome :=
  match folder.write name text.toUTF8 with
  | (none, _) => Outcome.note ⟨0, "", "", [(name, text)]⟩ ("[green]Wrote[/green] " ++ name.text)
  | (some _, _) => broken

def deliver (folder : Folder) (output : Option FileName) (text : String) : Outcome :=
  match output with
  | some name => write folder name text
  | none => print text

end Outcome

def finishWith {α : Type} (system : TokenSystem) (action : Action α) (success : α → Outcome) :
    Outcome :=
  match (action.run system).1 with
  | .ok result => success result
  | .error error =>
      if error.kind.isTokenError then Outcome.failure "Error" error else Outcome.broken

def Outcome.tabulate (table : Console.Table) (below : String) : Outcome :=
  match table.shown? with
  | some shown => ⟨0, shown ++ below, "", []⟩
  | none => broken

def failureRow (error : Error) : List String :=
  [(error.path?.map Path.dotted).getD "-", error.kind.name, error.detail]

def validation (system : TokenSystem) (errors : List Error) : Outcome :=
  if errors.isEmpty then
    Outcome.print ("All " ++ integerText system.store.size ++ " token entries resolve")
  else
    let title := integerText errors.length ++ " token problem(s)"
    let table := ⟨title, ["Path", "Kind", "Message"], errors.map failureRow⟩
    { Outcome.tabulate table "" with exit := failureCode }

def listing (system : TokenSystem) (paths : List Path) : Outcome :=
  let table : Console.Table := {
    title := "Tokens (" ++ system.theme.name ++ ")"
    headings := ["Path", "CSS variable"]
    rows := paths.map fun path => [path.dotted, system.view.propertyOf path] }
  Outcome.tabulate table (integerText paths.length ++ " token(s)\n")

def jsonListing (system : TokenSystem) (paths : List Path) : Outcome :=
  Outcome.print <| Json.pretty <| .array <| paths.map fun path =>
    .object [("path", .text path.dotted), ("css_var", .text (system.view.propertyOf path))]

def chosenPaths (search : Option String) : Action (List Path) :=
  match search.filter (!·.isEmpty) with
  | some query => Action.search query
  | none => Action.ask fun system => system.store.visiblePaths system.theme

def runTask (folder : Folder) (system : TokenSystem) : Task → Outcome
  | .export output variablesOnly =>
      let sheet := if variablesOnly then View.exportedVariables else View.themeSheet
      finishWith system (Action.output sheet .active) (Outcome.deliver folder output)
  | .component name output =>
      finishWith system (Action.output (fun view theme => view.componentSheet name theme) .active)
        (Outcome.deliver folder output)
  | .utilities output =>
      finishWith system (Action.output View.utilitySheet .active) (Outcome.deliver folder output)
  | .validate => finishWith system (Action.validate none) (validation system)
  | .list search asJson =>
      finishWith system (chosenPaths search) (if asJson then jsonListing system else listing system)
  | .dtcg output =>
      finishWith system (Action.document .active) fun members =>
        let text := (Json.object members).pretty
        match output with
        | some name => Outcome.write folder name text
        | none => (Outcome.print text).note (Dtcg.summary members)

def chosenConfig (folder : Folder) (options : SystemOptions) : Except Error Config := do
  let base ←
    match options.config with
    | some name => Config.ofFile folder name
    | none => pure {}
  let overrides : Fields :=
    (options.minify.map fun value => ("minify", Data.boolean value)).toList ++
      (options.propertyPrefix.map fun text => ("prefix", Data.text text)).toList
  (base.withOverrides? overrides).elim (.error .record) .ok

def buildSystem (folder : Folder) (options : SystemOptions) : Except Outcome TokenSystem :=
  match chosenConfig folder options with
  | .ok config => .ok { TokenSystem.create config with theme := options.theme }
  | .error error =>
      .error <|
        if error.kind.isTokenError || error == .record then
          Outcome.failure "Configuration error" error
        else Outcome.broken

def helpText : String :=
  "\n".intercalate <| "Commands:" :: commandRules.map fun (name, _) => "  " ++ name

def runWith (build : SystemOptions → Except Outcome TokenSystem) (folder : Folder)
    (words : List String) : Outcome :=
  match parse words with
  | .error (.fileName _) => Outcome.broken
  | .error fault => ⟨usageCode, "", "Error: " ++ fault.message ++ "\n", []⟩
  | .ok .version => Outcome.print versionText
  | .ok .help => Outcome.print helpText
  | .ok (.run options task) =>
      match build options with
      | .ok system => runTask folder system task
      | .error outcome => outcome

def run (folder : Folder) (words : List String) : Outcome :=
  runWith (buildSystem folder) folder words

end CommandLine

end DesignTokens
