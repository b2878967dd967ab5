import DesignTokens.TokenSystem.Basic

/-!
A system that callers share.  It is made when it is first needed, and another
one can take its place.
-/

namespace DesignTokens

structure Shared where
  /-- The system in place, with a number of its own. -/
  current : Option (Nat × TokenSystem)
  made : Nat

namespace Shared

def empty : Shared :=
  ⟨none, 0⟩

def configure (shared : Shared) (config : Config) : (Nat × TokenSystem) × Shared :=
  let fresh := (shared.made, TokenSystem.create config)
  (fresh, ⟨some fresh, shared.made + 1⟩)

def get (shared : Shared) : (Nat × TokenSystem) × Shared :=
  match shared.current with
  | some current => (current, shared)
  | none => shared.configure {}

end Shared

end DesignTokens
