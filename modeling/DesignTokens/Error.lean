import DesignTokens.Color.Reader
import DesignTokens.Data.Fault
import DesignTokens.Path.Basic
import DesignTokens.Value.Transform

/-!
What can go wrong, by cause, and the words for it.
-/

namespace DesignTokens

inductive Absence where
  | plain
  | referencedFrom (path : Path)
  | component (name : String)
deriving DecidableEq

def Absence.message : Absence → String
  | .plain => "token not found"
  | .referencedFrom path => "referenced from " ++ path.dotted ++ " but not found"
  | .component name => "no tokens defined for component '" ++ name ++ "'"

inductive ValueFault where
  | dimension (text : String)
  | transformShape (shown : String)
  | transformName (shown : String)
  | transformFields (name : String)
  | fields (shown : String)
  | compositeShape (key typeName : String)
  | unsupported (typeName : String)
  | operand (text : String)
deriving DecidableEq, Repr

def ValueFault.message : ValueFault → String
  | .dimension text => "Invalid dimension: " ++ quoted text
  | .transformShape shown => "Invalid transform: " ++ shown
  | .transformName shown => "Unknown transform: " ++ shown
  | .transformFields name => "Invalid " ++ name ++ " transform: the fields do not fit"
  | .fields shown => "Invalid token value " ++ shown ++ ": the fields do not fit"
  | .compositeShape key typeName => key ++ " expects a mapping of fields, got " ++ typeName
  | .unsupported typeName => "Unsupported token value type: " ++ typeName
  | .operand text => "Invalid operand: " ++ quoted text

inductive DocumentFault where
  | section (name : String)
  | unreadable (file : String)
  | malformed (file : String)
  | notMapping (file : String)
  | unwritable (file : String)
  | valueless (path theme : String)
deriving DecidableEq, Repr

def DocumentFault.message : DocumentFault → String
  | .section name => "'" ++ name ++ "' section must be a mapping"
  | .unreadable file => "Cannot read token file " ++ file
  | .malformed file => "Invalid YAML in " ++ file
  | .notMapping file => "Expected a mapping in " ++ file
  | .unwritable file => "Cannot write CSS to " ++ file
  | .valueless path theme => "No value for " ++ path ++ " in " ++ theme

inductive ConfigFault where
  | missing (file : String)
  | unknownFormat (suffix : String)
  | malformed (format file : String)
  | tableShape (file : String)
  | notMapping (file typeName : String)
  | fields (file : String)
deriving DecidableEq, Repr

def ConfigFault.message : ConfigFault → String
  | .missing file => "Config file not found: " ++ file
  | .unknownFormat suffix => "Unsupported config format: " ++ suffix
  | .malformed format file => "Invalid " ++ format ++ " in " ++ file
  | .tableShape file => "[tokens] in " ++ file ++ " must be a table"
  | .notMapping file typeName => "Expected a mapping in " ++ file ++ ", got " ++ typeName
  | .fields file => "Invalid token config in " ++ file ++ ": the fields do not fit"

inductive FileFault where
  | exists
  | notFolder
  | isFolder
  | missing
  | nameTooLong
  | nullByte
deriving DecidableEq, Repr

def FileFault.message : FileFault → String
  | .exists => "a file stands in the way of a folder"
  | .notFolder => "a file is used as a folder"
  | .isFolder => "a folder has the name of the file"
  | .missing => "there is no such file"
  | .nameTooLong => "the name is too long"
  | .nullByte => "embedded null byte"

inductive Error where
  | notFound (path : Path) (absence : Absence)
  | circular (chain : List Path)
  | typeMismatch (expected actual : String) (path : Option Path)
  | factorRange (change : ColorChange) (factor : Float)
  | divisionByZero
  | badPath (fault : PathFault)
  | value (fault : ValueFault)
  /-- References inside composites took more stack frames than there were. -/
  | tooDeep (path : Path)
  | document (fault : DocumentFault)
  | content (cause : Error)
  | config (fault : ConfigFault)
  | record
  | fieldNames
  | encoding
  | data (fault : DataFault)
  | file (fault : FileFault)
  | theme (shown : String)
  | color (fault : ColorFault)
deriving DecidableEq

inductive ErrorKind where
  | tokenNotFound
  | circularReference
  | typeMismatch
  | invalidTransform
  | invalidTokenPath
  | invalidTokenValue
  | serialization
  | config
  | record
  | fieldNames
  | encoding
  | data
  | file
  | theme
  | color
deriving DecidableEq, Repr

def ErrorKind.name : ErrorKind → String
  | .tokenNotFound => "token_not_found"
  | .circularReference => "circular_reference"
  | .typeMismatch => "type_mismatch"
  | .invalidTransform => "invalid_transform"
  | .invalidTokenPath => "invalid_token_path"
  | .invalidTokenValue => "invalid_token_value"
  | .serialization => "serialization"
  | .config => "config"
  | .record => "record"
  | .fieldNames => "field_names"
  | .encoding => "encoding"
  | .data => "data"
  | .file => "file"
  | .theme => "theme"
  | .color => "color"

def ErrorKind.isTokenError : ErrorKind → Bool
  | .record => false
  | .fieldNames => false
  | .encoding => false
  | .data => false
  | .file => false
  | .theme => false
  | .color => false
  | _ => true

namespace Error

def kind : Error → ErrorKind
  | .notFound .. => .tokenNotFound
  | .circular _ => .circularReference
  | .typeMismatch .. => .typeMismatch
  | .factorRange .. => .invalidTransform
  | .divisionByZero => .invalidTransform
  | .badPath _ => .invalidTokenPath
  | .value _ => .invalidTokenValue
  | .tooDeep _ => .invalidTokenValue
  | .document _ => .serialization
  | .content _ => .serialization
  | .config _ => .config
  | .record => .record
  | .fieldNames => .fieldNames
  | .encoding => .encoding
  | .data _ => .data
  | .file _ => .file
  | .theme _ => .theme
  | .color _ => .color

def path? : Error → Option Path
  | .notFound path _ => some path
  | .circular chain => chain.head?
  | .typeMismatch _ _ path => path
  | .tooDeep path => some path
  | _ => none

def atPath (path : Option Path) (text : String) : String :=
  match path with
  | some path => path.dotted ++ ": " ++ text
  | none => text

def detail : Error → String
  | .notFound _ absence => absence.message
  | .circular chain => "circular reference: " ++ " -> ".intercalate (chain.map Path.dotted)
  | .typeMismatch expected actual _ =>
      "type mismatch: expected " ++ expected ++ ", got " ++ actual
  | .factorRange change factor =>
      change.name ++ " factor must be between 0 and 1, got " ++ numberText factor
  | .divisionByZero => "Division by zero"
  | .badPath fault => fault.message
  | .value fault => fault.message
  | .tooDeep _ => "composite references nest too deeply to resolve"
  | .document fault => fault.message
  | .content cause => "Invalid token document: " ++ atPath cause.path? (detail cause)
  | .config fault => fault.message
  | .record => "the fields do not fit"
  | .fieldNames => "field names must be text"
  | .encoding => "the bytes are not UTF-8 text"
  | .data fault => fault.message
  | .file fault => fault.message
  | .theme shown => shown ++ " is not a valid ThemeVariant"
  | .color fault => fault.message

def message (error : Error) : String :=
  atPath error.path? error.detail

end Error

def Path.read (raw : String) : Except Error Path :=
  (Path.parse raw).mapError Error.badPath

end DesignTokens
