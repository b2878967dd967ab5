import DesignTokens.Config
import DesignTokens.Path.Tier
import DesignTokens.Resolution.Query
import DesignTokens.Stylesheet.Minified
import DesignTokens.Value.Style

/-!
The parts of a style sheet, and the text of a token in it.
-/

namespace DesignTokens

namespace Stylesheet

structure Declaration where
  property : String
  value : String
deriving DecidableEq, Repr

def Declaration.text (declaration : Declaration) : String :=
  declaration.property ++ ": " ++ declaration.value ++ ";"

structure Rule where
  selector : String
  declarations : List Declaration
deriving DecidableEq, Repr

def lines (texts : List String) : String :=
  "\n".intercalate texts

def Rule.text (rule : Rule) : String :=
  rule.selector ++ " \x7b\n" ++
    lines (rule.declarations.map fun declaration => "  " ++ declaration.text) ++ "\n\x7d"

def rulesText (rules : List Rule) : String :=
  "\n\n".intercalate (rules.map Rule.text)

def finished (config : Config) (css : String) : String :=
  if config.minify then minified css else css

end Stylesheet

structure View where
  store : Store
  config : Config
  allowance : Allowance

namespace View

def resolve (view : View) (theme : Theme) (path : Path) : Walk Value :=
  DesignTokens.resolve view.store theme view.allowance path

def propertyOf (view : View) (path : Path) : String :=
  path.customProperty view.config.propertyPrefix

/-- The text of a token.  When something it refers to is missing, it is left to
the page to define that. -/
def tokenText (view : View) (theme : Theme) (path : Path) : Walk String := do
  match ← ExceptT.lift (attempt view.store theme view.allowance path) with
  | .ok value => Walk.ofExcept (value.css view.config.propertyPrefix)
  | .error error =>
      match error with
      | .notFound missing _ =>
          if missing = path then throw error
          else return "var(" ++ view.propertyOf missing ++ ")"
      | _ => throw error

def publicPaths (view : View) (theme : Theme) : List Path :=
  (view.store.visiblePaths theme).filter (!·.isPrivate)

end View

end DesignTokens
