import DesignTokens.Proofs.Resolution.Cached
import DesignTokens.Proofs.Resolution.Dependency
import DesignTokens.Proofs.Resolution.Tower
import DesignTokens.Proofs.Resolution.Warm
import DesignTokens.Proofs.TokenSystem.Steps

/-!
Systems never remember anything but what paths denote in their store: each change
of a value drops the memory, and failures leave nothing behind in it.  Whatever a system
resolves, it goes on resolving: lookups in between never make another lookup nest too deep.
-/

namespace DesignTokens

namespace Store

theorem values_eq_of_revision {store : Store} {write : Write}
    (kept : (write.apply store).revision = store.revision) :
    (write.apply store).values = store.values := by
  rcases revision_apply store write with changed | ⟨_, same⟩
  · omega
  · exact same

end Store

theorem visible?_eq_of_values {first second : Store} (same : first.values = second.values)
    (path : Path) (theme : Theme) : first.visible? path theme = second.visible? path theme := by
  simp only [Store.visible?, Store.get?, same]

theorem Cache.Sound.of_values {cache : Cache} {first second : Store}
    (same : first.values = second.values) (sound : cache.Sound first) : cache.Sound second := by
  intro path theme value found
  exact (sound path theme value found).congr fun other => visible?_eq_of_values same other theme

namespace TokenSystem

def Sound (system : TokenSystem) : Prop :=
  system.cache.Sound system.store

theorem Sound.step {before after : TokenSystem} (step : Step before after)
    (sound : before.Sound) : after.Sound := by
  cases step with
  | resolved theme path => exact Cache.Sound.resolve sound path
  | written write =>
      -- A write that keeps the revision keeps the values, and any other empties the memory.
      by_cases kept : (write.apply before.store).revision = before.store.revision
      · rw [withStore, if_pos kept]
        exact Cache.Sound.of_values (Store.values_eq_of_revision kept).symm sound
      · rw [withStore, if_neg kept]
        exact Cache.sound_empty _
  | switched theme => exact Cache.sound_empty _
  | forgotten => exact Cache.sound_empty _

theorem Reachable.sound {system : TokenSystem} (reachable : system.Reachable) : system.Sound :=
  reachable.invariant (fun _ _ _ => Cache.sound_empty _) Sound.step

end TokenSystem

/-- A memory that a system over a store can come to have. -/
def MemoryOf (store : Store) (cache : Cache) : Prop :=
  ∃ system : TokenSystem, system.Reachable ∧ system.store = store ∧ system.cache = cache

theorem MemoryOf.empty (store : Store) : MemoryOf store Table.empty :=
  ⟨TokenSystem.ofStore {} store, TokenSystem.reachable_ofStore store, rfl, rfl⟩

theorem Work.system_onSystem {α : Type} (action : Action α) (workspace : Workspace) :
    ((Work.onSystem action).run workspace).2.system = (action.run workspace.system).2 := by
  rfl

theorem Workspace.after_resolve (workspace : Workspace) {raw : String} {path : Path}
    (scope : Scope) (read : Path.read raw = .ok path) :
    (workspace.after (.tokens (.resolve raw scope))).system =
      { workspace.system with
        cache := ((resolve workspace.system.store (scope.themeIn workspace.system)
          workspace.system.allowance path).run workspace.system.cache).2 } := by
  have opened : (Action.readPath raw).run workspace.system = (.ok path, workspace.system) := by
    rw [Action.readPath, read]
    rfl
  rw [Workspace.after, Workspace.perform, Work.system_onSystem, Action.ofRequest, run_map,
    Action.resolve, run_bind_ok opened]
  rfl

theorem MemoryOf.resolved (store : Store) (theme : Theme) {raw : String} {path : Path}
    (read : Path.read raw = .ok path) (allowance : Allowance) :
    MemoryOf store ((resolve store theme allowance path).run Table.empty).2 := by
  let start : TokenSystem := .ofStore {} store allowance
  let cache := ((resolve store theme allowance path).run Table.empty).2
  have last := Workspace.after_resolve ⟨start, Folder.empty⟩ (.given theme) read
  have reachable : TokenSystem.Reachable { start with cache } := by
    refine ⟨{}, store, allowance, Folder.empty, [.tokens (.resolve raw (.given theme))], ?_⟩
    rw [Workspace.afterAll, List.foldl_cons, List.foldl_nil, last]
    rfl
  exact ⟨{ start with cache }, reachable, rfl, rfl⟩

theorem MemoryOf.sound {store : Store} {cache : Cache} (memory : MemoryOf store cache) :
    cache.Sound store := by
  rcases memory with ⟨system, reachable, rfl, rfl⟩
  exact reachable.sound

/-- Whatever happened before, a path resolves as it would without a memory, and what
is remembered for a path is what it resolves to. -/
theorem memory_transparent {system : TokenSystem} (reachable : system.Reachable) :
    (∀ theme path, outcome system.store theme .unlimited system.cache path =
      outcome system.store theme .unlimited Table.empty path) ∧
    ∀ theme path value, system.cache.find? (path, theme) = some value →
      outcome system.store theme .unlimited Table.empty path = .ok value := by
  have empty := Cache.sound_empty system.store
  constructor
  · intro theme path
    have unlimited := @fits_unlimited system.store theme path
    rw [outcome_eq_plain reachable.sound unlimited, outcome_eq_plain empty unlimited]
  · intro theme path value found
    rw [outcome_eq_ok_iff empty (fits_unlimited path)]
    exact reachable.sound path theme value found

theorem memory_transparent_tower :
    ∃ system : TokenSystem, system.Reachable ∧
      system.cache.find? (Tower.path 0, .light) = some (Tower.value 1) ∧
      outcome system.store .light .unlimited system.cache (Tower.path 0) =
        outcome system.store .light .unlimited Table.empty (Tower.path 0) ∧
      outcome system.store .light .unlimited Table.empty (Tower.path 0) =
        .ok (Tower.value 1) := by
  have empty := Cache.sound_empty (Tower.store 1)
  have found := (outcome_eq_ok_iff empty (fits_unlimited _)).mpr (Tower.denotes 1 0)
  have remembered := find?_after_resolve found
  rcases MemoryOf.resolved (Tower.store 1) .light (Tower.read_label 0) .unlimited with
    ⟨system, reachable, _, cache⟩
  rw [← cache] at remembered
  have transparent := memory_transparent reachable
  exact ⟨system, reachable, remembered, transparent.1 .light (Tower.path 0),
    transparent.2 .light (Tower.path 0) (Tower.value 1) remembered⟩

/-! ### Lookups that go on -/

section

open Relation

theorem Follows.of_values {first second : Store} (same : first.values = second.values)
    {theme : Theme} {path next : Path} (follows : Follows first theme path next) :
    Follows second theme path next := by
  have agree := fun other => visible?_eq_of_values same other theme
  rcases follows with ⟨raw, text, shows, mentions, points⟩
  refine ⟨raw, text, ?_, mentions, ?_⟩
  · rw [← visible?_eq_some_iff, ← agree path, visible?_eq_some_iff]
    exact shows
  · rw [← target?_eq_some_iff] at points ⊢
    rw [← points]
    exact (target?_congr fun other _ => agree other).symm

theorem Cache.Closed.of_values {cache : Cache} {first second : Store}
    (same : first.values = second.values) (closed : cache.Closed first) : cache.Closed second :=
  fun theme path next known follows => closed theme path next known (follows.of_values same.symm)

namespace TokenSystem

def Closed (system : TokenSystem) : Prop :=
  system.cache.Closed system.store

theorem Closed.step {before after : TokenSystem} (step : Step before after)
    (closed : before.Closed) : after.Closed := by
  cases step with
  | resolved theme path => exact Cache.Closed.resolve closed theme _ path
  | written write =>
      by_cases kept : (write.apply before.store).revision = before.store.revision
      · rw [withStore, if_pos kept]
        exact Cache.Closed.of_values (Store.values_eq_of_revision kept).symm closed
      · rw [withStore, if_neg kept]
        exact Cache.closed_empty _
  | switched theme => exact Cache.closed_empty _
  | forgotten => exact Cache.closed_empty _

theorem Reachable.closed {system : TokenSystem} (reachable : system.Reachable) : system.Closed :=
  reachable.invariant (fun _ _ _ => Cache.closed_empty _) Closed.step

end TokenSystem

variable {store : Store} {cache later : Cache} {allowance : Allowance}

theorem MemoryOf.closed (memory : MemoryOf store cache) : cache.Closed store := by
  rcases memory with ⟨system, reachable, rfl, rfl⟩
  exact reachable.closed

theorem MemoryOf.ahead (memory : MemoryOf store cache)
    (steps : ReflTransGen (Resolves store allowance) cache later) (theme : Theme) :
    Ahead store theme cache later := by
  induction steps with
  | refl => exact ⟨memory.sound, memory.sound, memory.closed, fun _ known => known⟩
  | tail _ step ih =>
      rcases step with ⟨owner, path, rfl⟩
      exact ⟨ih.coldSound, ih.warmSound.resolve path, ih.closed.resolve owner allowance path,
        fun other known => knows_after_resolve (ih.covers other known) owner allowance path⟩

theorem MemoryOf.outcome_kept (memory : MemoryOf store cache)
    (steps : ReflTransGen (Resolves store allowance) cache later) {theme : Theme}
    {inner : Allowance} {path : Path} {value : Value}
    (found : outcome store theme inner cache path = .ok value) :
    outcome store theme inner later path = .ok value :=
  outcome_of_ahead (memory.ahead steps theme) found

end

end DesignTokens
