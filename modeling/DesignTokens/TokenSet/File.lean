import DesignTokens.Folder.Basic
import DesignTokens.TokenSet.Basic
import DesignTokens.Yaml.Reader

/-!
Token documents in files.
-/

namespace DesignTokens

def TokenSet.ofFile (folder : Folder) (name : FileName) : Except Error TokenSet :=
  match folder.read name with
  | .error .nullByte => .error (.file .nullByte)
  | .error _ => .error (.document (.unreadable name.text))
  | .ok content => do
      match Yaml.parse (← Folder.textOf content) with
      | .error .malformed => throw (.document (.malformed name.text))
      | .error (.data fault) => throw (.data fault)
      | .ok (.mapping entries) => ofDocument entries
      | .ok _ => throw (.document (.notMapping name.text))

end DesignTokens
