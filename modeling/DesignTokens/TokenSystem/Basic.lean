import DesignTokens.Stylesheet.Basic
import DesignTokens.TokenSet.Seeding

/-!
Token systems: a store with its settings, the theme in use, and the values that
were found in the store so far.
-/

namespace DesignTokens

structure TokenSystem where
  config : Config
  store : Store
  cache : Cache
  theme : Theme
  /-- The stack frames that resolution has left. -/
  allowance : Allowance

/-- An operation on a system.  What it changed before it failed stays changed. -/
abbrev Action := ExceptT Error (StateM TokenSystem)

namespace TokenSystem

def ofStore (config : Config) (store : Store) (allowance : Allowance := .usual) : TokenSystem :=
  { config, store, cache := Table.empty, theme := .light, allowance }

def create (config : Config) (allowance : Allowance := .usual) : TokenSystem :=
  let store :=
    if config.loadDefaults then (Store.empty.seed TokenSet.bundled).2 else Store.empty
  ofStore config store allowance

def createSeeded (config : Config) (allowance : Allowance := .usual) : TokenSystem :=
  create { config with loadDefaults := true } allowance

def view (system : TokenSystem) : View :=
  ⟨system.store, system.config, system.allowance⟩

/-- Puts another state of the store in place.  Values that were found before a
change are forgotten. -/
def withStore (system : TokenSystem) (store : Store) : TokenSystem :=
  if store.revision = system.store.revision then { system with store }
  else { system with store, cache := Table.empty }

def shown (system : TokenSystem) : String :=
  "DesignTokenSystem(theme=" ++ system.theme.name ++ ", prefix=" ++
    quoted system.config.propertyPrefix ++ ", tokens=" ++ integerText system.store.size ++ ")"

end TokenSystem

namespace Action

def ofExcept {α : Type} (result : Except Error α) : Action α :=
  ExceptT.mk (pure result)

def ofWalk {α : Type} (walk : TokenSystem → Walk α) : Action α :=
  ExceptT.mk fun system =>
    let (result, cache) := (walk system).run system.cache
    (result, { system with cache })

def onStore {α : Type} (change : Store → α × Store) : Action α :=
  ExceptT.mk fun system =>
    let (result, store) := change system.store
    (.ok result, system.withStore store)

def changeStore (change : Store → Store) : Action Unit :=
  onStore fun store => ((), change store)

def ask {α : Type} (question : TokenSystem → α) : Action α :=
  return question (← get)

def clearCache : Action Unit :=
  modify fun system => { system with cache := Table.empty }

end Action

end DesignTokens
