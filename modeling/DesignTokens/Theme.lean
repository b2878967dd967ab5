/-!
The named sets of values that a token can have side by side.
-/

namespace DesignTokens

inductive Theme where
  | light
  | dark
  | auto
deriving DecidableEq, Repr, Inhabited

namespace Theme

def all : List Theme := [.light, .dark, .auto]

def name : Theme → String
  | .light => "light"
  | .dark => "dark"
  | .auto => "auto"

def ofName? (name : String) : Option Theme :=
  all.find? (·.name == name)

theorem mem_all (theme : Theme) : theme ∈ all := by
  cases theme <;> simp [all]

end Theme

end DesignTokens
