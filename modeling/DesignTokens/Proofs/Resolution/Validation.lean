import DesignTokens.Proofs.Resolution.Dependency
import DesignTokens.Proofs.Resolution.Cached
import DesignTokens.Proofs.Resolution.Reference
import DesignTokens.Resolution.Query

/-!
What it means that a validation reports nothing: every path that a theme shows denotes a
value.  Where nesting stays within its limit, nothing else is ever reported.
-/

namespace DesignTokens

variable {store : Store} {theme : Theme} {allowance : Allowance} {cache : Cache}

theorem failures_run_ok {path : Path} {value : Value} {after : Cache}
    (run : (resolve store theme allowance path).run cache = (.ok value, after))
    (rest : List Path) :
    (failures store theme allowance (path :: rest)).run cache =
      (failures store theme allowance rest).run after := by
  change StateT.run (attempt store theme allowance path) cache = _ at run
  rw [failures, StateT.run_bind, run]
  rfl

theorem failures_run_error {path : Path} {error : Error} {after : Cache}
    (run : (resolve store theme allowance path).run cache = (.error error, after))
    (rest : List Path) :
    (failures store theme allowance (path :: rest)).run cache =
      (error :: ((failures store theme allowance rest).run after).1,
        ((failures store theme allowance rest).run after).2) := by
  change StateT.run (attempt store theme allowance path) cache = _ at run
  rw [failures, StateT.run_bind, run]
  rfl

theorem Cache.Sound.failures {paths : List Path} (sound : cache.Sound store) :
    Cache.Sound ((DesignTokens.failures store theme allowance paths).run cache).2 store := by
  induction paths generalizing cache with
  | nil => exact sound
  | cons path rest ih =>
      have resolved :
          Cache.Sound ((DesignTokens.resolve store theme allowance path).run cache).2 store :=
        sound.resolve path
      have kept := ih resolved
      rcases run : (DesignTokens.resolve store theme allowance path).run cache with ⟨result, after⟩
      rw [run] at kept
      cases result with
      | ok value => rwa [failures_run_ok run]
      | error error => rwa [failures_run_error run]

theorem denotes_of_failures {paths : List Path} (sound : cache.Sound store)
    (none : ((failures store theme allowance paths).run cache).1 = []) :
    ∀ path ∈ paths, ∃ value, Denotes store theme path value := by
  induction paths generalizing cache with
  | nil => simp
  | cons path rest ih =>
      have kept : Cache.Sound ((resolve store theme allowance path).run cache).2 store :=
        sound.resolve path
      rcases run : (resolve store theme allowance path).run cache with ⟨result, after⟩
      rw [run] at kept
      cases result with
      | error error =>
          rw [failures_run_error run] at none
          exact nomatch none
      | ok value =>
          rw [failures_run_ok run] at none
          intro other member
          rcases List.mem_cons.mp member with rfl | later
          · exact ⟨value, denotes_of_outcome sound (congrArg Prod.fst run)⟩
          · exact ih kept none other later

/-- Paths that all resolve, each leaving the memory as the others need it, have no failures. -/
theorem failures_eq_nil_of {fit : Cache → Prop} {paths : List Path}
    (each : ∀ path ∈ paths, ∀ cache, fit cache →
      (∃ value, outcome store theme allowance cache path = .ok value) ∧
        fit ((resolve store theme allowance path).run cache).2)
    (start : fit cache) :
    ((failures store theme allowance paths).run cache).1 = [] ∧
      fit ((failures store theme allowance paths).run cache).2 := by
  induction paths generalizing cache with
  | nil => exact ⟨rfl, start⟩
  | cons path rest ih =>
      obtain ⟨here, others⟩ := List.forall_mem_cons.mp each
      obtain ⟨⟨value, found⟩, kept⟩ := here cache start
      rcases run : (resolve store theme allowance path).run cache with ⟨result, after⟩
      rw [outcome, run] at found
      obtain rfl : result = .ok value := found
      rw [run] at kept
      rw [failures_run_ok run]
      exact ih others kept

theorem validate_cons_run (themes : List Theme) (cache : Cache) :
    (validate store allowance (theme :: themes)).run cache =
      let first := (failures store theme allowance (store.visiblePaths theme)).run cache
      let rest := (validate store allowance themes).run first.2
      (first.1 ++ rest.1, rest.2) := by
  rfl

theorem denotes_of_validate {themes : List Theme} (sound : cache.Sound store)
    (none : ((validate store allowance themes).run cache).1 = []) :
    ∀ theme ∈ themes, ∀ path ∈ store.visiblePaths theme,
      ∃ value, Denotes store theme path value := by
  induction themes generalizing cache with
  | nil => simp
  | cons theme rest ih =>
      rw [validate_cons_run] at none
      rcases List.append_eq_nil_iff.mp none with ⟨noneHere, noneLater⟩
      intro owner member
      rcases List.mem_cons.mp member with rfl | later
      · exact denotes_of_failures sound noneHere
      · exact ih sound.failures noneLater owner later

theorem validate_eq_nil_of {fit : Cache → Prop} {themes : List Theme}
    (each : ∀ theme ∈ themes, ∀ path ∈ store.visiblePaths theme, ∀ cache, fit cache →
      (∃ value, outcome store theme allowance cache path = .ok value) ∧
        fit ((resolve store theme allowance path).run cache).2)
    (start : fit cache) :
    ((validate store allowance themes).run cache).1 = [] ∧
      fit ((validate store allowance themes).run cache).2 := by
  induction themes generalizing cache with
  | nil => exact ⟨rfl, start⟩
  | cons theme rest ih =>
      obtain ⟨here, others⟩ := List.forall_mem_cons.mp each
      obtain ⟨none, kept⟩ := failures_eq_nil_of here start
      obtain ⟨noneLater, fits⟩ := ih others kept
      rw [validate_cons_run]
      exact ⟨List.append_eq_nil_iff.mpr ⟨none, noneLater⟩, fits⟩

theorem validate_eq_nil {themes : List Theme} (sound : cache.Sound store)
    (fine : ∀ theme ∈ themes, ∀ path ∈ store.visiblePaths theme,
      Fits store theme path allowance ∧ ∃ value, Denotes store theme path value) :
    ((validate store allowance themes).run cache).1 = [] := by
  have each : ∀ theme ∈ themes, ∀ path ∈ store.visiblePaths theme, ∀ cache : Cache,
      cache.Sound store → (∃ value, outcome store theme allowance cache path = .ok value) ∧
        Cache.Sound ((resolve store theme allowance path).run cache).2 store := by
    intro theme listed path member cache sound
    obtain ⟨fits, value, denotes⟩ := fine theme listed path member
    exact ⟨⟨value, (outcome_eq_ok_iff sound fits).mpr denotes⟩, sound.resolve path⟩
  exact (validate_eq_nil_of each sound).1

theorem mem_themes_of_get? {path : Path} {value : Value}
    (found : store.get? path theme = some value) : theme ∈ store.themes := by
  have listed : theme ∈ Theme.all := by cases theme <;> simp [Theme.all]
  have member := Store.mem_paths_iff.mpr ⟨value, found⟩
  refine List.mem_filter.mpr ⟨listed, ?_⟩
  cases paths : store.paths theme with
  | nil => simp [paths] at member
  | cons first others => rfl

/-- Where the automatic theme has no entries, it shows what the light theme shows. -/
theorem Denotes.auto_of_light (empty : ∀ path, store.get? path .auto = none) {path : Path}
    {value : Value} (denotes : Denotes store .light path value) :
    Denotes store .auto path value := by
  have agree : AgreeFrom store .light store .auto path := by
    intro other _
    simp only [Store.visible?, empty other]
    cases store.get? other .light <;> simp
  rw [← plainFrom_nil_eq_ok_iff] at denotes ⊢
  rw [← plainFrom_congr agree]
  exact denotes

theorem denotes_of_clean (sound : cache.Sound store)
    (clean : ((validate store allowance store.themes).run cache).1 = []) {path : Path} {raw : Value}
    (shows : Shows store theme path raw) : ∃ value, Denotes store theme path value := by
  have complete := denotes_of_validate sound clean
  have visible := Store.mem_visiblePaths_iff.mpr ⟨raw, shows⟩
  cases shows with
  | own found => exact complete theme (mem_themes_of_get? found) path visible
  | light missing found =>
      -- Without entries of its own the automatic theme is not validated, but light is.
      by_cases automatic : Theme.auto ∈ store.themes
      · exact complete .auto automatic path visible
      · have empty : ∀ other, store.get? other .auto = none := by
          intro other
          cases held : store.get? other .auto with
          | none => rfl
          | some value => exact absurd (mem_themes_of_get? held) automatic
        have light := Store.mem_visiblePaths_iff.mpr ⟨raw, Shows.own found⟩
        rcases complete .light (mem_themes_of_get? found) path light with ⟨value, denotes⟩
        exact ⟨value, denotes.auto_of_light empty⟩

end DesignTokens
