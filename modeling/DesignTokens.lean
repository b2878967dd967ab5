import DesignTokens.Number.Layout
import DesignTokens.Number.Quantity
import DesignTokens.Number.Reading
import DesignTokens.Text.Quoted
import DesignTokens.Text.Word
import DesignTokens.Data.Basic
import DesignTokens.Data.Display
import DesignTokens.Json.Reader
import DesignTokens.Color.Basic
import DesignTokens.Color.Reader
import DesignTokens.Path.Basic
import DesignTokens.Path.Slot
import DesignTokens.Theme
import DesignTokens.Error
import DesignTokens.Value.Basic
import DesignTokens.Data.Fields
import DesignTokens.Value.Coercion
import DesignTokens.Value.Style
import DesignTokens.Value.Transformed
import DesignTokens.Stylesheet.Minified
import DesignTokens.Resolution.Basic
import DesignTokens.Resolution.Expression
import DesignTokens.Resolution.Query
import DesignTokens.Config
import DesignTokens.Stylesheet.Basic
import DesignTokens.Stylesheet.Components
import DesignTokens.Stylesheet.Utilities
import DesignTokens.Stylesheet.Variables
import DesignTokens.Yaml.Reader
import DesignTokens.Toml.Document
import DesignTokens.Folder.Basic
import DesignTokens.Config.File
import DesignTokens.TokenSet.Basic
import DesignTokens.TokenSet.File
import DesignTokens.TokenSet.Bundled
import DesignTokens.Dtcg.Document
import DesignTokens.TokenSet.Seeding
import DesignTokens.TokenSystem.Basic
import DesignTokens.TokenSystem.Operation
import DesignTokens.TokenSystem.Request
import DesignTokens.TokenSystem.Workspace
import DesignTokens.TokenSystem.Shared
import DesignTokens.CommandLine.Invocation
import DesignTokens.Console.Table
import DesignTokens.CommandLine.Run
import DesignTokens.Main
import DesignTokens.Proofs.Path.Reading
import DesignTokens.Proofs.Resolution.Reference
import DesignTokens.Proofs.Resolution.Meaning
import DesignTokens.Proofs.Resolution.Plain
import DesignTokens.Proofs.Resolution.Cached
import DesignTokens.Proofs.Resolution.Dependency
import DesignTokens.Proofs.Store.Write
import DesignTokens.Proofs.Resolution.Steps
import DesignTokens.Proofs.TokenSystem.Steps
import DesignTokens.Proofs.TokenSystem.Transparency
import DesignTokens.Proofs.Resolution.Chain
import DesignTokens.Proofs.TokenSystem.Denotation
import DesignTokens.Proofs.Resolution.Bounded
import DesignTokens.Proofs.Resolution.Cycles
import DesignTokens.Proofs.TokenSystem.Frame
import DesignTokens.Proofs.Resolution.Concrete
import DesignTokens.Proofs.Number.Exact
import DesignTokens.Proofs.Number.Rounding
import DesignTokens.Proofs.Number.Nearest
import DesignTokens.Proofs.Number.Interval
import DesignTokens.Proofs.Color.Range
import DesignTokens.Proofs.Color.Bytes
import DesignTokens.Proofs.Resolution.Containment
import DesignTokens.Proofs.Dtcg.Tree
import DesignTokens.Proofs.Dtcg.Document
import DesignTokens.Proofs.Resolution.Warm
import DesignTokens.Proofs.Resolution.Validation
import DesignTokens.Proofs.Dtcg.Aliases
import DesignTokens.Proofs.Dtcg.Expansion
import DesignTokens.Proofs.Dtcg.Meaning
import DesignTokens.Proofs.Stylesheet.Token
import DesignTokens.Proofs.Stylesheet.Fallback
import DesignTokens.Proofs.Stylesheet.Sheet
import DesignTokens.Proofs.Text.Blank
import DesignTokens.Proofs.Stylesheet.Glyph
import DesignTokens.Proofs.Stylesheet.Steady
import DesignTokens.Proofs.Stylesheet.Abridged
import DesignTokens.Proofs.Stylesheet.Splits
import DesignTokens.Proofs.Stylesheet.Zeros
import DesignTokens.Proofs.Stylesheet.Stable
import DesignTokens.Proofs.Stylesheet.Literals
import DesignTokens.Proofs.Store.Shelves
import DesignTokens.Proofs.TokenSystem.Shelves
import DesignTokens.Proofs.TokenSystem.Variants
import DesignTokens.Proofs.Stylesheet.Exact
import DesignTokens.Proofs.Stylesheet.Titles
import DesignTokens.Proofs.Stylesheet.Form
import DesignTokens.Proofs.Value.Refusal
import DesignTokens.Proofs.TokenSet.Refusal
import DesignTokens.Proofs.TokenSet.Leaves
import DesignTokens.Proofs.TokenSet.Spelling
import DesignTokens.Proofs.Overlay
import DesignTokens.Proofs.Store.Seeding
import DesignTokens.Proofs.TokenSystem.Batch
import DesignTokens.Proofs.Path.Slot
import DesignTokens.Proofs.Stylesheet.Components
import DesignTokens.Proofs.Stylesheet.Families
import DesignTokens.Proofs.Stylesheet.Utilities
import DesignTokens.Proofs.TokenSystem.Import
import DesignTokens.Proofs.Resolution.Values
import DesignTokens.Proofs.TokenSystem.Later
import DesignTokens.Proofs.TokenSystem.Reset
import DesignTokens.Proofs.Resolution.Settled
import DesignTokens.Proofs.Stylesheet.Settled
import DesignTokens.Proofs.Store.Revision
import DesignTokens.Proofs.TokenSystem.Revision
import DesignTokens.Proofs.Stylesheet.Clean
import DesignTokens.Proofs.TokenSystem.Clean
import DesignTokens.Proofs.TokenSystem.Containment
import DesignTokens.Proofs.Store.Public
import DesignTokens.Proofs.TokenSystem.Privacy
import DesignTokens.Proofs.Dtcg.Finite
import DesignTokens.Proofs.Json.Stray
import DesignTokens.Proofs.Stylesheet.Names
import DesignTokens.Proofs.TokenSystem.Export
import DesignTokens.Proofs.Path.Grammar
import DesignTokens.Proofs.TokenSet.Nesting
import DesignTokens.Proofs.Resolution.Referrers
import DesignTokens.Proofs.Color.Written
import DesignTokens.Proofs.Stylesheet.Failure
import DesignTokens.Proofs.TokenSystem.Diagnosis
import DesignTokens.Proofs.TokenSystem.Visibility
import DesignTokens.Proofs.TokenSystem.Kinds
import DesignTokens.Proofs.Resolution.Operands
import DesignTokens.Proofs.TokenSystem.Compute
import DesignTokens.Proofs.Stylesheet.Shortening
import DesignTokens.Proofs.Stylesheet.Seams
import DesignTokens.Proofs.Stylesheet.Addresses
import DesignTokens.Proofs.Number.SixDigits
import DesignTokens.Proofs.Number.Numeral
import DesignTokens.Proofs.Value.RoundTrip
import DesignTokens.Proofs.Text.Case
import DesignTokens.Proofs.Color.Case
import DesignTokens.Proofs.Color.Notations
import DesignTokens.Proofs.Color.Arithmetic
import DesignTokens.Proofs.Stylesheet.Cuts
import DesignTokens.Proofs.Stylesheet.Selector
import DesignTokens.Proofs.Stylesheet.Rules
import DesignTokens.Proofs.Value.FontFamilies
import DesignTokens.Proofs.Config.File
