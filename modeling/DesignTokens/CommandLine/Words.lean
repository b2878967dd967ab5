import DesignTokens.Text.Blank

/-!
The words of a command line: options, their values, and positional words.
-/

namespace DesignTokens

namespace CommandLine

structure OptionRule where
  name : String
  spellings : List String
  takesValue : Bool
deriving DecidableEq, Repr

inductive UsageFault where
  | noWords
  | unknownOption (spelling : String)
  | missingValue (spelling : String)
  | needlessValue (spelling : String)
  | invalidTheme (name : String)
  | missingCommand
  | unknownCommand (name : String)
  | missingArgument (name : String)
  | extraArgument (word : String)
  | fileName (name : String)
deriving DecidableEq, Repr

def UsageFault.message : UsageFault → String
  | .noWords => "Missing command."
  | .unknownOption spelling => "No such option: " ++ spelling
  | .missingValue spelling => "Option '" ++ spelling ++ "' requires an argument."
  | .needlessValue spelling => "Option '" ++ spelling ++ "' does not take a value."
  | .invalidTheme name => "Invalid value for '--theme': '" ++ name ++ "' is not a theme."
  | .missingCommand => "Missing command."
  | .unknownCommand name => "No such command '" ++ name ++ "'."
  | .missingArgument name => "Missing argument '" ++ name ++ "'."
  | .extraArgument word => "Got unexpected extra argument (" ++ word ++ ")"
  | .fileName name => "Invalid file name: " ++ name

structure Setting where
  name : String
  value : String
deriving DecidableEq, Repr

structure WordReading where
  settings : List Setting
  awaiting : Option OptionRule
deriving DecidableEq, Repr

def findRule? (rules : List OptionRule) (spelling : String) : Option OptionRule :=
  rules.find? (·.spellings.contains spelling)

def readSpelled (rule : OptionRule) (spelling : String) (value : Option (List Char)) :
    Except UsageFault WordReading :=
  match value, rule.takesValue with
  | none, true => .ok ⟨[], some rule⟩
  | none, false => .ok ⟨[⟨rule.name, ""⟩], none⟩
  | some value, true => .ok ⟨[⟨rule.name, String.ofList value⟩], none⟩
  | some _, false => .error (.needlessValue spelling)

/-- Options of one letter behind a single dash.  The first that takes a value
takes the letters after it, or the next word if there are none. -/
def readLetters (rules : List OptionRule) : List Char → Except UsageFault WordReading
  | [] => .ok ⟨[], none⟩
  | c :: rest =>
      let spelling := String.ofList ['-', c]
      match findRule? rules spelling with
      | none => .error (.unknownOption spelling)
      | some rule =>
          if rule.takesValue then
            if rest.isEmpty then .ok ⟨[], some rule⟩
            else .ok ⟨[⟨rule.name, String.ofList rest⟩], none⟩
          else
            (readLetters rules rest).map fun reading =>
              { reading with settings := ⟨rule.name, ""⟩ :: reading.settings }

def readOptionWord (rules : List OptionRule) (word : String) : Except UsageFault WordReading :=
  let (before, value) := cutAt '=' word.toList
  let spelling := String.ofList before
  match findRule? rules spelling with
  | some rule =>
      if (dropLead ['-', '-'] before).isSome then readSpelled rule spelling value
      else readLetters rules (word.toList.drop 1)
  | none =>
      if (dropLead ['-', '-'] before).isSome then .error (.unknownOption spelling)
      else readLetters rules (word.toList.drop 1)

structure Reading where
  settings : List Setting
  positional : List String
deriving DecidableEq, Repr

def Reading.withSettings (reading : Reading) (settings : List Setting) : Reading :=
  { reading with settings := settings ++ reading.settings }

def isOptionWord (word : String) : Bool :=
  match word.toList with
  | '-' :: _ :: _ => true
  | _ => false

def readWords (rules : List OptionRule) (mixed : Bool) (awaiting : Option OptionRule) :
    List String → Except UsageFault Reading
  | [] =>
      match awaiting with
      | some rule => .error (.missingValue rule.name)
      | none => .ok ⟨[], []⟩
  | word :: words =>
      match awaiting with
      | some rule =>
          (readWords rules mixed none words).map (·.withSettings [⟨rule.name, word⟩])
      | none =>
          if word == "--" then .ok ⟨[], words⟩
          else if isOptionWord word then do
            let reading ← readOptionWord rules word
            let rest ← readWords rules mixed reading.awaiting words
            return rest.withSettings reading.settings
          else if mixed then
            (readWords rules mixed none words).map fun rest =>
              { rest with positional := word :: rest.positional }
          else .ok ⟨[], word :: words⟩

namespace Reading

def has (reading : Reading) (name : String) : Bool :=
  reading.settings.any (·.name == name)

def value? (reading : Reading) (name : String) : Option String :=
  (reading.settings.reverse.find? (·.name == name)).map Setting.value

end Reading

end CommandLine

end DesignTokens
