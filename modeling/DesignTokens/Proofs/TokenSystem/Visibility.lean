import DesignTokens.Proofs.Resolution.Reference
import DesignTokens.Proofs.Stylesheet.Fallback
import DesignTokens.Proofs.TokenSystem.Steps

/-!
Which tokens a system shows.  Its listings, its look-ups and its resolver agree, and the
automatic theme lists what it holds before what it borrows.
-/

namespace DesignTokens

namespace Store

variable {store : Store} {theme : Theme} {path : Path}

theorem paths_map_key (store : Store) (theme : Theme) :
    (store.paths theme).map (·, theme) = store.values.keys.filter (·.2 = theme) := by
  rw [paths_eq_filterMap, List.map_filterMap, ← List.filterMap_eq_filter]
  refine List.filterMap_congr fun key _ => ?_
  obtain ⟨path, owner⟩ := key
  by_cases mine : owner = theme <;> simp [mine, Option.guard]

theorem mem_paths_iff_mem_keys : path ∈ store.paths theme ↔ (path, theme) ∈ store.values.keys := by
  have member : (path, theme) ∈ (store.paths theme).map (·, theme) ↔ path ∈ store.paths theme := by
    simp
  rw [← member, paths_map_key]
  simp

theorem mem_visiblePaths_iff_isSome :
    path ∈ store.visiblePaths theme ↔ (store.visible? path theme).isSome := by
  rw [mem_visiblePaths_iff, Option.isSome_iff_exists]
  simp only [visible?_eq_some_iff]

/-- The automatic theme lists its own entries, and then the light ones that it lacks. -/
theorem visiblePaths_auto (store : Store) :
    ∃ own borrowed, store.visiblePaths .auto = own ++ borrowed ∧
      own.map (·, Theme.auto) = store.values.keys.filter (·.2 = .auto) ∧
      borrowed.map (·, Theme.light) = store.values.keys.filter fun key =>
        key.2 = .light ∧ (key.1, Theme.auto) ∉ store.values.keys := by
  refine ⟨store.paths .auto, (store.paths .light).filter (· ∉ store.paths .auto), rfl,
    store.paths_map_key .auto, ?_⟩
  have lacks : ∀ path, decide (path ∉ store.paths .auto) =
      decide ((path, Theme.auto) ∉ store.values.keys) := fun path => by
    simp only [mem_paths_iff_mem_keys]
  calc ((store.paths .light).filter (· ∉ store.paths .auto)).map (·, Theme.light)
      = ((store.paths .light).map (·, Theme.light)).filter
          fun key => (key.1, Theme.auto) ∉ store.values.keys := by
        simp only [List.filter_map, Function.comp_def, lacks]
    _ = store.values.keys.filter fun key =>
          key.2 = .light ∧ (key.1, Theme.auto) ∉ store.values.keys := by
        rw [paths_map_key, List.filter_filter]
        simp only [Bool.and_comm, Bool.decide_and]

end Store

section

variable {store : Store} {theme : Theme} {cache : Cache}

theorem Cache.Sound.find?_eq_none {path : Path} (sound : cache.Sound store)
    (missing : store.visible? path theme = none) : cache.find? (path, theme) = none := by
  cases found : cache.find? (path, theme) with
  | none => rfl
  | some value =>
      cases sound path theme value found with
      | shown shows _ => exact absurd shows (visible?_eq_none_iff.mp missing _)

/-- Resolving a path finds that path missing only where the theme shows nothing for it,
whatever is missing further on. -/
theorem mem_visiblePaths_iff_outcome (sound : cache.Sound store) (allowance : Allowance)
    (path : Path) :
    path ∈ store.visiblePaths theme ↔
      ∀ absence, outcome store theme allowance cache path ≠ .error (.notFound path absence) := by
  constructor
  · intro member absence failed
    rcases Store.mem_visiblePaths_iff.mp member with ⟨raw, shows⟩
    exact (reaches_of_notFound (plain_of_outcome_error sound failed (by simp))).2 raw shows
  -- Nothing is remembered for a path that is not shown, so resolving it fails at once.
  · intro found
    by_contra hidden
    have missing : store.visible? path theme = none := by
      rwa [Store.mem_visiblePaths_iff_isSome, Option.isSome_iff_ne_none, not_not] at hidden
    refine found (absenceAfter []) ?_
    rw [outcome, resolve,
      resolveFrom_missing (sound.find?_eq_none missing) List.not_mem_nil missing]

end

namespace Action

theorem run_lookup {raw : String} {path : Path} (read : Path.read raw = .ok path) (scope : Scope)
    (system : TokenSystem) :
    (lookup raw scope).run system =
      (.ok (system.store.visible? path (scope.themeIn system)), system) := by
  rw [lookup, readPath, run_bind_ok (run_ofExcept_ok read system)]
  rfl

end Action

/-- What a theme lists, what a look-up finds, and what is not missing to the resolver are the
same paths, at every point of every run; the automatic theme lists its own before the light ones
that it lacks. -/
theorem visibility_consistent {system : TokenSystem} (reachable : system.Reachable) :
    (∀ theme, (system.store.visiblePaths theme).Nodup ∧ ∀ path,
      (path ∈ system.store.visiblePaths theme ↔ (system.store.visible? path theme).isSome) ∧
      (path ∈ system.store.visiblePaths theme ↔ ∀ absence,
        outcome system.store theme system.allowance system.cache path ≠
          .error (.notFound path absence))) ∧
    (∃ own borrowed, system.store.visiblePaths .auto = own ++ borrowed ∧
      own.map (·, Theme.auto) = system.store.values.keys.filter (·.2 = .auto) ∧
      borrowed.map (·, Theme.light) = system.store.values.keys.filter fun key =>
        key.2 = .light ∧ (key.1, Theme.auto) ∉ system.store.values.keys) ∧
    ∀ raw path scope, Path.read raw = .ok path → ∃ known value listed,
      (Action.ofRequest (.has raw scope)).run system = (.ok (.truth known), system) ∧
      (Action.ofRequest (.lookup raw scope)).run system = (.ok (.value value), system) ∧
      (Action.ofRequest (.paths scope)).run system = (.ok (.paths listed), system) ∧
      (known = true ↔ path ∈ listed) ∧ (value.isSome ↔ path ∈ listed) := by
  refine ⟨fun theme => ⟨system.store.nodup_visiblePaths theme, fun path =>
    ⟨Store.mem_visiblePaths_iff_isSome,
      mem_visiblePaths_iff_outcome reachable.sound system.allowance path⟩⟩,
    system.store.visiblePaths_auto, ?_⟩
  intro raw path scope read
  have looked := Action.run_lookup read scope system
  exact ⟨_, _, _, run_map_ok _ looked, run_map_ok _ looked, rfl,
    Store.mem_visiblePaths_iff_isSome.symm, Store.mem_visiblePaths_iff_isSome.symm⟩

namespace Borrowing

def text : Path := .single "text" (by decide)

def accent : Path := .single "accent" (by decide)

def link : Path := .single "link" (by decide)

def tokens : Store :=
  (((Store.empty.set text .light .null).set accent .light .null).set link .auto .null).set
    accent .auto .null

def system : TokenSystem :=
  { TokenSystem.ofStore {} tokens with theme := .auto }

theorem reachable : system.Reachable :=
  ⟨{}, tokens, _, Folder.empty, [.tokens (.switchTheme "auto")], rfl⟩

end Borrowing

open Borrowing in
theorem visibility_consistent_borrowing :
    ∃ own borrowed, tokens.visiblePaths .auto = own ++ borrowed ∧
      own.map (·, Theme.auto) = [(link, .auto), (accent, .auto)] ∧
      borrowed.map (·, Theme.light) = [(text, .light)] ∧
      text ∈ tokens.visiblePaths .auto ∧
      ∃ known, (Action.ofRequest (.has "text" .active)).run system =
        (.ok (.truth known), system) ∧ known = true := by
  rcases visibility_consistent reachable with
    ⟨agrees, ⟨own, borrowed, parts, held, lacking⟩, answered⟩
  have shown : text ∈ tokens.visiblePaths .auto := ((agrees .auto).2 text).1.mpr (by decide)
  rcases answered "text" text .active rfl with ⟨known, _, listed, has, _, paths, same, _⟩
  obtain rfl : tokens.visiblePaths .auto = listed :=
    Reply.paths.inj (Except.ok.inj (Prod.mk.inj paths).1)
  refine ⟨own, borrowed, parts, held.trans (by decide), lacking.trans (by decide), shown,
    known, has, same.mpr shown⟩

end DesignTokens
