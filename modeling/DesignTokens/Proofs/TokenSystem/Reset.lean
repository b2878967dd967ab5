import DesignTokens.Proofs.TokenSystem.Later
import DesignTokens.Proofs.TokenSystem.Steps

/-!
Starting again.  A system that was reset is a new one with the bundled tokens, apart from the
number of writes that it has seen.
-/

namespace DesignTokens

namespace TokenSystem

def anew (system : TokenSystem) : TokenSystem :=
  { createSeeded system.config with
    config := system.config
    theme := system.theme
    allowance := system.allowance }

theorem anew_eq (system : TokenSystem) :
    system.anew = { system with
      store := (Store.empty.seed TokenSet.bundled).2
      cache := Table.empty } := by
  rfl

end TokenSystem

namespace Store

theorem clear_eq (store : Store) : store.clear = empty.later (store.revision + 1) := by
  simp only [clear, empty, later, Nat.zero_add]

end Store

namespace Action

theorem run_clear (system : TokenSystem) :
    (changeStore Store.clear).run system =
      (.ok (), { system with
        store := Store.empty.later (system.store.revision + 1)
        cache := Table.empty }) := by
  change (Except.ok (), system.withStore system.store.clear) = _
  have changed : system.store.clear.revision ≠ system.store.revision := by
    simp only [Store.clear]
    omega
  rw [TokenSystem.withStore, if_neg changed, Store.clear_eq]

theorem run_refill (tokens : TokenSet) (system : TokenSystem) :
    (do
      changeStore Store.clear
      let count ← onStore (·.seed tokens)
      clearCache
      return count : Action Nat).run system =
      (.ok (Store.empty.seed tokens).1, { system with
        store := (Store.empty.seed tokens).2.later (system.store.revision + 1)
        cache := Table.empty }) := by
  rw [run_bind_ok (run_clear system)]
  generalize system.store.revision + 1 = revision
  have seeded : (onStore (·.seed tokens)).run
      { system with store := Store.empty.later revision, cache := Table.empty } =
      (.ok (Store.empty.seed tokens).1, TokenSystem.withStore
        { system with store := Store.empty.later revision, cache := Table.empty }
        ((Store.empty.seed tokens).2.later revision)) := by
    change (Except.ok ((Store.empty.later revision).seed tokens).1,
      TokenSystem.withStore _ ((Store.empty.later revision).seed tokens).2) = _
    rw [Store.seed_later]
  rw [run_bind_ok seeded, TokenSystem.withStore]
  split <;> rfl

theorem run_reset (system : TokenSystem) :
    reset.run system =
      (.ok (Store.empty.seed TokenSet.bundled).1,
        system.anew.later (system.store.revision + 1)) := by
  rw [reset, run_refill, TokenSystem.anew_eq]
  rfl

end Action

/-- Whatever a system went through, after a reset it holds what a new one with the bundled tokens
holds, and it answers all that is asked of it from then on as that one does. -/
theorem reset_erases_history (system : TokenSystem) :
    ∃ count after, Action.reset.run system = (.ok count, after) ∧
      after.store.values = system.anew.store.values ∧
      (∀ theme, after.store.items theme = system.anew.store.items theme) ∧
      after.store.metadata = system.anew.store.metadata ∧
      ∀ folder commands, Workspace.replies ⟨after, folder⟩ commands =
        Workspace.replies ⟨system.anew, folder⟩ commands := by
  have values := system.anew.values_later (system.store.revision + 1)
  refine ⟨_, _, Action.run_reset system, values, fun theme => ?_, ?_, fun folder commands => ?_⟩
  · rw [items_of_values values]
  · exact system.anew.metadata_later _
  · exact Workspace.replies_later (system.store.revision + 1) ⟨system.anew, folder⟩ commands

end DesignTokens
