import DesignTokens.Data.Fields
import DesignTokens.Path.Basic

/-!
Settings of a token system.
-/

namespace DesignTokens

structure Config where
  propertyPrefix : String := "ant"
  minify : Bool := false
  enableDarkTheme : Bool := true
  loadDefaults : Bool := true
deriving DecidableEq, Repr, Inhabited

namespace Config

def fieldNames : List String :=
  ["prefix", "minify", "enable_dark_theme", "load_defaults"]

def ofFields? (base : Config) (fields : Fields) : Option Config :=
  if !fields.only fieldNames then none
  else do
    let propertyPrefix ← fields.optional "prefix" base.propertyPrefix fun data =>
      data.asString?.filter isSegment
    let minify ← fields.optional "minify" base.minify Data.asBoolean?
    let enableDarkTheme ← fields.optional "enable_dark_theme" base.enableDarkTheme Data.asBoolean?
    let loadDefaults ← fields.optional "load_defaults" base.loadDefaults Data.asBoolean?
    return { propertyPrefix, minify, enableDarkTheme, loadDefaults }

def changes (overrides : Fields) : Fields :=
  overrides.filter fun (_, data) =>
    match data with
    | .scalar .null => false
    | _ => true

def withOverrides? (config : Config) (overrides : Fields) : Option Config :=
  config.ofFields? (changes overrides)

end Config

end DesignTokens
