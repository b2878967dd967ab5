import DesignTokens.Config
import DesignTokens.Folder.Basic
import DesignTokens.Text.LowerCase
import DesignTokens.Toml.Document
import DesignTokens.Yaml.Reader

/-!
Settings in files: the `tokens` table of a TOML file, or the whole of a YAML file.
-/

namespace DesignTokens

namespace Config

def ofMapping (name : FileName) (entries : List (Scalar × Data)) : Except Error Config :=
  match Fields.ofEntries? entries with
  | none => .error .fieldNames
  | some fields =>
      match ofFields? {} fields with
      | some config => .ok config
      | none => .error (.config (.fields name.text))

def readingError (format : String) (name : FileName) : ReadingFault → Error
  | .malformed => .config (.malformed format name.text)
  | .data fault => .data fault

def ofToml (name : FileName) (text : String) : Except Error Config := do
  let document ← (Toml.parse text).mapError (readingError "TOML" name)
  match Data.entry? document "tokens" with
  | none => ofMapping name []
  | some (.mapping entries) => ofMapping name entries
  | some _ => .error (.config (.tableShape name.text))

def ofYaml (name : FileName) (text : String) : Except Error Config := do
  match ← (Yaml.parse text).mapError (readingError "YAML" name) with
  | .scalar .null => ofMapping name []
  | .mapping entries => ofMapping name entries
  | data => .error (.config (.notMapping name.text data.typeName))

def fileText (folder : Folder) (name : FileName) : Except Error String := do
  Folder.textOf (← (folder.read name).mapError Error.file)

def ofFile (folder : Folder) (name : FileName) : Except Error Config := do
  if !(← (folder.has name).mapError Error.file) then throw (.config (.missing name.text))
  let ending := lowerCased name.suffix
  if ending == ".toml" then ofToml name (← fileText folder name)
  else if ending == ".yaml" || ending == ".yml" then ofYaml name (← fileText folder name)
  else throw (.config (.unknownFormat (if name.suffix.isEmpty then name.last else name.suffix)))

end Config

end DesignTokens
