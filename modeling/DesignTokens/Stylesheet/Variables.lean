import DesignTokens.Stylesheet.Basic

/-!
Custom properties: a block for the chosen theme, and the values of the dark theme
both for a page that asks for them and for one that prefers them.
-/

namespace DesignTokens

namespace Stylesheet

structure Section where
  category : Category
  declarations : List Declaration
deriving DecidableEq, Repr

def Section.lines (titled : Bool) (indent : Nat) (part : Section) : List String :=
  let pad := String.ofList (List.replicate indent ' ')
  if part.declarations.isEmpty then []
  else
    (if titled then [pad ++ "/* " ++ part.category.title ++ " */"] else []) ++
      part.declarations.map fun declaration => pad ++ declaration.text

def sectionLines (config : Config) (indent : Nat) (sections : List Section) : List String :=
  sections.flatMap (Section.lines (!config.minify) indent)

def header : String :=
  "/* tokenweave design tokens - auto-generated, do not edit */"

def rootText (config : Config) (sections : List Section) : String :=
  lines ([":root \x7b"] ++ sectionLines config 2 sections ++ ["\x7d"])

def darkMediaText (config : Config) (sections : List Section) : String :=
  lines (["@media (prefers-color-scheme: dark) \x7b", "  :root \x7b"] ++
    sectionLines config 4 sections ++ ["  \x7d", "\x7d"])

def darkClassText (config : Config) (sections : List Section) : String :=
  lines ([".theme-dark \x7b"] ++ sectionLines config 2 sections ++ ["\x7d"])

def transitionRule : String :=
  lines ["*, *::before, *::after \x7b",
    "  transition: color 0.2s ease, background-color 0.2s ease, border-color 0.2s ease, box-shadow 0.2s ease;",
    "\x7d"]

def blocksText (blocks : List String) : String :=
  "\n\n".intercalate (blocks.filter (!·.isEmpty)) ++ "\n"

end Stylesheet

open Stylesheet

namespace View

def sectionOf (view : View) (theme : Theme) (paths : List Path) (category : Category) :
    Walk Section := do
  let members := paths.filter (·.category = category)
  let declarations ← members.mapM fun path => do
    return Declaration.mk (view.propertyOf path) (← view.tokenText theme path)
  return ⟨category, declarations⟩

def sections (view : View) (theme : Theme) (paths : List Path) : Walk (List Section) :=
  Category.all.mapM (view.sectionOf theme paths)

def darkPaths (view : View) : List Path :=
  if view.config.enableDarkTheme then (view.store.paths .dark).filter (!·.isPrivate) else []

def darkText (view : View) (text : Config → List Section → String) (sections : List Section) :
    String :=
  if view.darkPaths.isEmpty then "" else text view.config sections

def propertyList (view : View) (theme : Theme) : Walk String := do
  let sections ← view.sections theme (view.publicPaths theme)
  return finished view.config (lines (sectionLines view.config 0 sections))

def rootBlock (view : View) (theme : Theme) : Walk String := do
  let sections ← view.sections theme (view.publicPaths theme)
  return finished view.config (rootText view.config sections)

def darkMediaBlock (view : View) : Walk String := do
  let sections ← view.sections .dark view.darkPaths
  return finished view.config (view.darkText darkMediaText sections)

def exportedVariables (view : View) (theme : Theme) : Walk String := do
  let sections ← view.sections theme (view.publicPaths theme)
  let dark ← view.sections .dark view.darkPaths
  return finished view.config <| blocksText [header, rootText view.config sections,
    view.darkText darkMediaText dark]

def themeSheet (view : View) (theme : Theme) : Walk String := do
  let sections ← view.sections theme (view.publicPaths theme)
  let preferred ← view.sections .dark view.darkPaths
  let chosen ← view.sections .dark view.darkPaths
  return finished view.config <| blocksText [header, rootText view.config sections,
    view.darkText darkMediaText preferred, view.darkText darkClassText chosen, transitionRule]

end View

end DesignTokens
