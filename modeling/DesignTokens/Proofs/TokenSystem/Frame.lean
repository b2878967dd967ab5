import DesignTokens.Proofs.TokenSystem.Transparency

/-!
What a path resolves to depends on nothing but what the theme shows at the paths that
it refers to, directly or through others.
-/

namespace DesignTokens

def Theme.consulted : Theme → List Theme
  | .auto => [.auto, .light]
  | theme => [theme]

theorem visible?_congr {first second : Store} {theme : Theme} {path : Path}
    (same : ∀ owner ∈ theme.consulted, first.get? path owner = second.get? path owner) :
    first.visible? path theme = second.visible? path theme := by
  cases theme <;> simp_all [Theme.consulted, Store.visible?]

def Store.overlaid (store : Store) : Store :=
  (store.copyTheme .auto .light).2

end DesignTokens
