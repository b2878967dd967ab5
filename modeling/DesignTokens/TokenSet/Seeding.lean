import DesignTokens.Store
import DesignTokens.TokenSet.Bundled

/-!
Putting a token set into a store.  Of a path that a set names several times, the
last value counts.
-/

namespace DesignTokens

namespace Store

def load (store : Store) (tokens : TokenSet) : Nat × Store :=
  let light := Entries.collapse tokens.light
  let dark := Entries.collapse tokens.dark
  let filled := (store.setAll light .light).setAll dark .dark
  (light.length + dark.length, filled.setAllMetadata tokens.metadata)

def seed (store : Store) (tokens : TokenSet) : Nat × Store :=
  let light := Entries.collapse tokens.light
  let copied := ((store.setAll light .light).copyTheme .light .dark).2
  let filled := copied.setAll (Entries.collapse tokens.dark) .dark
  (light.length, filled.setAllMetadata tokens.metadata)

end Store

end DesignTokens
