import DesignTokens.CommandLine.Words
import DesignTokens.Folder.Name
import DesignTokens.Text.Word
import DesignTokens.Theme

/-!
What a command line asks for: options for the system, then a command with options
of its own.
-/

namespace DesignTokens

namespace CommandLine

structure SystemOptions where
  config : Option FileName
  theme : Theme
  minify : Option Bool
  propertyPrefix : Option String
deriving DecidableEq, Repr

inductive Task where
  | export (output : Option FileName) (variablesOnly : Bool)
  | component (name : String) (output : Option FileName)
  | utilities (output : Option FileName)
  | validate
  | list (search : Option String) (asJson : Bool)
  | dtcg (output : Option FileName)
deriving DecidableEq, Repr

inductive Invocation where
  | version
  | help
  | run (options : SystemOptions) (task : Task)
deriving DecidableEq, Repr

def helpRule : OptionRule := ⟨"--help", ["--help"], false⟩

def outputRule : OptionRule := ⟨"--output", ["--output", "-o"], true⟩

def systemRules : List OptionRule := [
  ⟨"--config", ["--config", "-c"], true⟩,
  ⟨"--theme", ["--theme", "-t"], true⟩,
  ⟨"--minify", ["--minify"], false⟩,
  ⟨"--no-minify", ["--no-minify"], false⟩,
  ⟨"--prefix", ["--prefix"], true⟩,
  ⟨"--verbose", ["--verbose", "-v"], false⟩,
  ⟨"--version", ["--version"], false⟩,
  helpRule]

def commandRules : List (String × List OptionRule) := [
  ("export", [outputRule, ⟨"--variables-only", ["--variables-only"], false⟩, helpRule]),
  ("component", [outputRule, helpRule]),
  ("utilities", [outputRule, helpRule]),
  ("validate", [helpRule]),
  ("list", [⟨"--search", ["--search", "-s"], true⟩, ⟨"--json", ["--json"], false⟩, helpRule]),
  ("dtcg", [outputRule, helpRule])]

def minifySwitch (reading : Reading) : Option Bool :=
  (reading.settings.reverse.find? fun setting =>
    setting.name == "--minify" || setting.name == "--no-minify").map (·.name == "--minify")

def fileName? (reading : Reading) (option : String) : Except UsageFault (Option FileName) :=
  match reading.value? option with
  | none => .ok none
  | some text =>
      if text.toList.contains (Char.ofNat 0) then .error (.fileName text)
      else .ok (some (FileName.ofText text))

def systemOptions (reading : Reading) : Except UsageFault SystemOptions := do
  let theme ←
    match reading.value? "--theme" with
    | none => pure Theme.light
    | some name => (Theme.ofName? name).elim (.error (.invalidTheme name)) .ok
  return {
    config := ← fileName? reading "--config"
    theme
    minify := minifySwitch reading
    propertyPrefix := reading.value? "--prefix" }

def noMore (words : List String) : Except UsageFault Unit :=
  match words with
  | [] => .ok ()
  | word :: _ => .error (.extraArgument word)

def taskOf (command : String) (reading : Reading) : Except UsageFault Task := do
  let output ← fileName? reading "--output"
  match command, reading.positional with
  | "component", [] => .error (.missingArgument "NAME")
  | "component", name :: words => do
      noMore words
      return .component name output
  | _, words => do
      noMore words
      match command with
      | "export" => return .export output (reading.has "--variables-only")
      | "utilities" => return .utilities output
      | "validate" => return .validate
      | "list" => return .list (reading.value? "--search") (reading.has "--json")
      | "dtcg" => return .dtcg output
      | name => .error (.unknownCommand name)

def question? (reading : Reading) : Option Invocation :=
  (reading.settings.find? fun setting =>
    setting.name == "--version" || setting.name == "--help").map fun setting =>
      if setting.name == "--version" then .version else .help

def resemblesOption (word : String) : Bool :=
  word.toList.head?.any fun c => !isLetterOrNumber c

/-- The question that words ask which do not start with a command: if the first one
resembles an option, they are read as options once more. -/
def lateQuestion (command : String) (words : List String) : Except UsageFault Invocation := do
  if resemblesOption command then
    match question? (← readWords systemRules false none words) with
    | some question => return question
    | none => throw (.unknownCommand command)
  else throw (.unknownCommand command)

def parse (words : List String) : Except UsageFault Invocation := do
  if words.isEmpty then throw .noWords
  let front ← readWords systemRules false none words
  match question? front with
  | some question => return question
  | none =>
      let options ← systemOptions front
      match front.positional with
      | [] => throw .missingCommand
      | command :: rest =>
          match commandRules.lookup command with
          | none => lateQuestion command front.positional
          | some rules =>
              let reading ← readWords rules true none rest
              if reading.has "--help" then return .help
              else return .run options (← taskOf command reading)

end CommandLine

end DesignTokens
