import DesignTokens.Dtcg.Document
import DesignTokens.Folder.Name
import DesignTokens.Stylesheet.Components
import DesignTokens.Stylesheet.Utilities
import DesignTokens.Stylesheet.Variables
import DesignTokens.TokenSystem.Operation

/-!
Everything that a system can be asked to do, and what it answers.
-/

namespace DesignTokens

namespace Action

def output {α : Type} (make : View → Theme → Walk α) (scope : Scope) : Action α :=
  ofWalk fun system => make system.view (scope.themeIn system)

def document (scope : Scope) : Action Dtcg.Members :=
  output View.document scope

end Action

inductive Request where
  | switchTheme (name : String)
  | activeTheme
  | createVariant (base variant : String) (overrides : List (String × Data))
  | find (path : String)
  | resolve (path : String) (scope : Scope)
  | lookup (path : String) (scope : Scope)
  | held (path : String) (theme : Theme)
  | has (path : String) (scope : Scope)
  | holds (path : String) (theme : Theme)
  | set (path : String) (scope : Scope) (input : Input)
  | setAll (entries : List (String × Data)) (scope : Scope)
  | remove (path : String) (theme : Theme)
  | paths (scope : Scope)
  | ownPaths (theme : Theme)
  | items (theme : Theme)
  | search (query : String)
  | property (path : String)
  | setMetadata (path : String) (metadata : Metadata)
  | metadata (path : String)
  | referrers (path : String) (scope : Scope)
  | compute (expression : String) (scope : Scope)
  | resolveAll (paths : List String) (theme : Theme)
  | validate (themes : Option (List Theme))
  | importDocument (document : List (Scalar × Data))
  | reset
  | seed (document : Option (List (Scalar × Data)))
  | copyTheme (source target : Theme)
  | clearTheme (theme : Theme)
  | clear
  | clearCache
  | themes
  | propertyList (scope : Scope)
  | rootBlock (scope : Scope)
  | darkMediaBlock
  | exportedVariables (scope : Scope)
  | themeSheet (scope : Scope)
  | componentSheet (component : String) (scope : Scope)
  | utilitySheet (scope : Scope)
  | valueText (value : Value)
  | document (scope : Scope)
  | summary (scope : Scope)
  | describe
  | describeStore

inductive Reply where
  | done
  | truth (value : Bool)
  | count (number : Nat)
  | text (text : String)
  | theme (theme : Theme)
  | themes (themes : List Theme)
  | value (value : Option Value)
  | paths (paths : List Path)
  | items (items : List (Path × Value))
  | results (results : List (Path × Except Error Value))
  | failures (errors : List Error)
  | metadata (metadata : Option Metadata)
  | document (members : Dtcg.Members)
  | file (name : FileName) (content : String)

namespace Action

def ofRequest : Request → Action Reply
  | .switchTheme name => do switchTheme name; return .done
  | .activeTheme => .theme <$> ask (·.theme)
  | .createVariant base variant overrides => .count <$> createVariant base variant overrides
  | .find path => .value <$> find? path
  | .resolve path scope => (Reply.value ∘ some) <$> resolve path scope
  | .lookup path scope => .value <$> lookup path scope
  | .held path theme => .value <$> held path theme
  | .has path scope => (Reply.truth ∘ Option.isSome) <$> lookup path scope
  | .holds path theme => (Reply.truth ∘ Option.isSome) <$> held path theme
  | .set path scope input => do set path scope input; return .done
  | .setAll entries scope => .count <$> setAll entries scope
  | .remove path theme => .truth <$> remove path theme
  | .paths scope => .paths <$> ask fun system => system.store.visiblePaths (scope.themeIn system)
  | .ownPaths theme => .paths <$> ask (·.store.paths theme)
  | .items theme => .items <$> ask (·.store.items theme)
  | .search query => .paths <$> search query
  | .property path => .text <$> propertyOf path
  | .setMetadata path metadata => do setMetadata path metadata; return .done
  | .metadata path => .metadata <$> metadata? path
  | .referrers path scope => .paths <$> referrers path scope
  | .compute expression scope => (Reply.value ∘ some) <$> compute expression scope
  | .resolveAll paths theme => .results <$> resolveAll paths theme
  | .validate themes => .failures <$> validate themes
  | .importDocument document => .count <$> importDocument document
  | .reset => .count <$> reset
  | .seed document => .count <$> seed document
  | .copyTheme source target => .count <$> onStore (·.copyTheme source target)
  | .clearTheme theme => .count <$> onStore (·.clearTheme theme)
  | .clear => do changeStore Store.clear; return .done
  | .clearCache => do clearCache; return .done
  | .themes => .themes <$> ask (·.store.themes)
  | .propertyList scope => .text <$> output View.propertyList scope
  | .rootBlock scope => .text <$> output View.rootBlock scope
  | .darkMediaBlock => .text <$> output (fun view _ => view.darkMediaBlock) .active
  | .exportedVariables scope => .text <$> output View.exportedVariables scope
  | .themeSheet scope => .text <$> output View.themeSheet scope
  | .componentSheet component scope =>
      .text <$> output (fun view theme => view.componentSheet component theme) scope
  | .utilitySheet scope => .text <$> output View.utilitySheet scope
  | .valueText value => do
      let config ← ask (·.config)
      .text <$> ofExcept (value.css config.propertyPrefix)
  | .document scope => .document <$> document scope
  | .summary scope => (Reply.text ∘ Dtcg.summary) <$> document scope
  | .describe => .text <$> ask (·.shown)
  | .describeStore => .text <$> ask (·.store.shown)

end Action

end DesignTokens
