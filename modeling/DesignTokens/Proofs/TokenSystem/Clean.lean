import Mathlib.Data.List.Forall2
import DesignTokens.Proofs.Resolution.Validation
import DesignTokens.Proofs.Resolution.Warm
import DesignTokens.Proofs.Stylesheet.Clean
import DesignTokens.Proofs.TokenSystem.Transparency

/-!
What a validation says.  It reports the failure of each known path that has one, and when it
reports nothing, whatever is made from the tokens of any theme can be made.
-/

namespace DesignTokens

open Relation

def failure? {α : Type} : Except Error α → Option Error
  | .ok _ => none
  | .error error => some error

def Store.known (store : Store) : List (Theme × Path) :=
  store.themes.flatMap fun theme => (store.visiblePaths theme).map fun path => (theme, path)

section

variable {store : Store} {allowance : Allowance} {cache : Cache}

end

theorem run_validate (system : TokenSystem) :
    (Action.validate none).run system =
      (.ok ((validate system.store system.allowance system.store.themes).run system.cache).1,
        { system with
          cache := ((validate system.store system.allowance system.store.themes).run
            system.cache).2 }) := by
  rfl

/-- Where all that is shown denotes a scalar, nothing nests too deep. -/
theorem View.not_deep_of_scalar {view : View}
    (scalar : ∀ theme path raw, Shows view.store theme path raw →
      ∃ value, Denotes view.store theme path value ∧ value.isScalar = true) : ¬ view.Deep := by
  rintro ⟨theme, path, deep⟩
  refine deep ?_
  by_cases shown : ∃ raw, Shows view.store theme path raw
  · obtain ⟨raw, shows⟩ := shown
    obtain ⟨value, denotes, simple⟩ := scalar theme path raw shows
    exact denotes.fits_of_isScalar simple view.allowance
  · exact Fits.of_within fun raw _ _ _ shows _ => absurd ⟨raw, shows⟩ shown

namespace Buttoned

abbrev gap : Path := ⟨["spacing", "md"], by decide, by decide⟩
abbrev padding : Path := ⟨["component", "button", "padding"], by decide, by decide⟩

def store : Store :=
  Store.empty.setAll [(gap, .number 8), (padding, .alias "spacing.md")] .light

def system : TokenSystem :=
  TokenSystem.ofStore {} store

theorem denotes {theme : Theme} {path : Path} {raw : Value} (shows : Shows store theme path raw) :
    Denotes store theme path (.number 8) := by
  have listed : raw ∈ [Value.number 8, .alias "spacing.md"] := Store.mem_values_of_shows shows
  have points : theme ≠ .dark → Reads store theme "spacing.md" (.number 8) := by
    intro lit
    cases theme with
    | dark => exact absurd rfl lit
    | light =>
        have points : Points store .light "spacing.md" gap := target?_eq_some_iff.mp (by decide)
        exact .followed points (.shown (Shows.own rfl) (.scalar rfl))
    | auto =>
        have points : Points store .auto "spacing.md" gap := target?_eq_some_iff.mp (by decide)
        exact .followed points (.shown (Shows.light rfl rfl) (.scalar rfl))
  have lit : theme ≠ .dark := by
    rintro rfl
    have known := Store.mem_visiblePaths_iff.mpr ⟨raw, shows⟩
    exact absurd known List.not_mem_nil
  rcases List.mem_pair.mp listed with rfl | rfl
  · exact .shown shows (.scalar rfl)
  · exact .shown shows (.alias (points lit))

theorem not_deep : ¬ system.view.Deep :=
  View.not_deep_of_scalar fun _ _ _ shows => ⟨_, denotes shows, rfl⟩

theorem clean : ((Action.validate none).run system).1 = .ok [] := by
  have none : ((validate store system.allowance store.themes).run Table.empty).1 = [] := by
    refine validate_eq_nil (Cache.sound_empty store) fun theme _ path known => ?_
    obtain ⟨raw, shows⟩ := Store.mem_visiblePaths_iff.mp known
    exact ⟨(denotes shows).fits_of_isScalar rfl _, _, denotes shows⟩
  exact congrArg Except.ok none

theorem styleNumber_eight : styleNumber 8 = "8" := by
  decide +kernel

theorem text_eight : (Value.number 8).css "ant" = .ok "8" := by
  rw [Value.css, styleNumber_eight]

theorem text_eq (legend : system.view.Legend) {theme : Theme} {path : Path}
    (known : path ∈ store.visiblePaths theme) :
    legend.value theme path = .number 8 ∧ legend.text theme path = "8" := by
  obtain ⟨raw, shows⟩ := Store.mem_visiblePaths_iff.mp known
  have number := (legend.denotes theme path known).unique (denotes shows)
  have written := legend.written theme path known
  rw [number] at written
  exact ⟨number, Except.ok.inj (written.symm.trans text_eight)⟩

end Buttoned

namespace Overhang

open Tower

theorem cold_after_resolve {store : Store} {cache : Cache} {theme owner : Theme}
    (apart : owner ≠ theme) (cold : ∀ path, cache.find? (path, owner) = none)
    (allowance : Allowance) (path other : Path) :
    Table.find? ((resolve store theme allowance path).run cache).2 (other, owner) = none := by
  have steps : ReflTransGen (Remembers store theme path) cache
      ((resolve store theme allowance path).run cache).2 := resolveFrom_remembers allowance cache
  cases held : Table.find? ((resolve store theme allowance path).run cache).2 (other, owner) with
  | none => rfl
  | some value =>
      rcases reaches_of_remembers steps ⟨value, held⟩ with ⟨before, known⟩ | ⟨same, _⟩
      · rw [cold other] at known
        exact nomatch known
      · exact absurd same apart

variable (count : Nat)

abbrev tokens : Store :=
  store (count / 4 + 1)

def system : TokenSystem :=
  { TokenSystem.ofStore {} (tokens count) (.frames count) with
    cache := ((resolve (tokens count) .light (.frames count) (path 1)).run Table.empty).2 }

theorem reachable : (system count).Reachable := by
  have last := Workspace.after_resolve
    ⟨.ofStore {} (tokens count) (.frames count), Folder.empty⟩ (.given .light) (read_label 1)
  refine ⟨{}, tokens count, .frames count, Folder.empty,
    [.tokens (.resolve (label 1) (.given .light))], ?_⟩
  rw [Workspace.afterAll, List.foldl_cons, List.foldl_nil]
  exact last

structure Warmed (cache : Cache) : Prop where
  sound : cache.Sound (tokens count)
  knows : cache.Knows .light (path 1)
  cold : ∀ path, cache.find? (path, .auto) = none

variable {count}

theorem denotes_level {level : Nat} (within : level ≤ count / 4 + 1) :
    Denotes (tokens count) .light (path level) (value (count / 4 + 1 - level)) := by
  have whole := denotes (count / 4 + 1 - level) level
  rwa [Nat.add_sub_cancel' within] at whole

theorem outcome_above {cache : Cache} (sound : cache.Sound (tokens count)) {level : Nat}
    (above : 1 ≤ level) (within : level ≤ count / 4 + 1) :
    outcome (tokens count) .light (.frames count) cache (path level) =
      .ok (value (count / 4 + 1 - level)) := by
  have fits : Fits (tokens count) .light (path level) (.frames count) :=
    Tower.fits within (by omega)
  exact (outcome_eq_ok_iff sound fits).mpr (denotes_level within)

theorem warmed_system : Warmed count (system count).cache where
  sound := (reachable count).sound
  knows := ⟨_, find?_after_resolve (outcome_above (Cache.sound_empty _) (Nat.le_refl 1) (by omega))⟩
  cold := cold_after_resolve (by decide) (fun _ => Table.find?_empty _) _ (path 1)

theorem Warmed.resolve {cache : Cache} (warmed : Warmed count cache) (path : Path) :
    Warmed count
      ((DesignTokens.resolve (tokens count) .light (.frames count) path).run cache).2 where
  sound := warmed.sound.resolve path
  knows := knows_after_resolve warmed.knows .light _ path
  cold := cold_after_resolve (by decide) warmed.cold _ path

theorem Warmed.outcome {cache : Cache} (warmed : Warmed count cache) (enough : 4 ≤ count)
    {level : Nat} (within : level ≤ count / 4 + 1) :
    ∃ value, outcome (tokens count) .light (.frames count) cache (path level) = .ok value := by
  cases level with
  | zero =>
      obtain ⟨held, hit⟩ := warmed.knows
      have same := (warmed.sound _ _ _ hit).unique (denotes_level (by omega))
      rw [same] at hit
      exact ⟨_, outcome_remembered warmed.sound enough hit⟩
  | succ level => exact ⟨_, outcome_above warmed.sound (by omega) within⟩

theorem validated (enough : 4 ≤ count) :
    ((validate (tokens count) (.frames count) (tokens count).themes).run
        (system count).cache).1 = [] ∧
      Warmed count ((validate (tokens count) (.frames count) (tokens count).themes).run
        (system count).cache).2 := by
  refine validate_eq_nil_of (fun theme listed path known cache warmed => ?_) warmed_system
  -- The automatic theme has no values of its own, and so the memory stays cold under it.
  have lit : theme = .light := by
    obtain ⟨_, filled⟩ := List.mem_filter.mp listed
    cases paths : (tokens count).paths theme with
    | nil => simp [paths] at filled
    | cons first rest =>
        have member : first ∈ (tokens count).paths theme := by simp [paths]
        obtain ⟨value, found⟩ := Store.mem_paths_iff.mp member
        exact (light_of_get? found).1
  subst lit
  obtain ⟨value, found⟩ := Store.mem_paths_iff.mp known
  obtain ⟨_, level, within, rfl⟩ := light_of_get? found
  exact ⟨warmed.outcome enough within, warmed.resolve _⟩

theorem refused (enough : 4 ≤ count) :
    ∃ after, (Action.validate none).run (system count) = (.ok [], after) ∧
      (.light, path 0) ∈ (system count).store.known ∧
      outcome (system count).store .light (system count).allowance Table.empty (path 0) =
        .error (.tooDeep (path 0)) ∧
      path 0 ∈ after.store.visiblePaths .auto ∧
      outcome after.store .auto after.allowance after.cache (path 0) =
        .error (.tooDeep (path 0)) := by
  have clean := run_validate (system count)
  have none : ((validate (system count).store (system count).allowance
      (system count).store.themes).run (system count).cache).1 = [] := (validated enough).1
  rw [none] at clean
  have light : Shows (tokens count) .light (path 0) _ := shows (Nat.zero_le _)
  have automatic : Shows (tokens count) .auto (path 0) _ :=
    shows_unless_dark (by decide) (Nat.zero_le _)
  refine ⟨_, clean, ?_, outcome_refused (by omega), ?_, ?_⟩
  · refine List.mem_flatMap.mpr ⟨.light, ?_, ?_⟩
    · cases light with
      | own found => exact mem_themes_of_get? found
    · exact List.mem_map_of_mem (Store.mem_visiblePaths_iff.mpr ⟨_, light⟩)
  · exact Store.mem_visiblePaths_iff.mpr ⟨_, automatic⟩
  · exact outcome_refused_of_cold (by decide) (validated enough).2.cold (by omega)

end Overhang

namespace Buttoned

theorem utilityRules : ∃ rules, ((system.view.utilityRules .light).run Table.empty).1 = .ok rules ∧
    ⟨".m-md", [⟨"margin", "8px"⟩]⟩ ∈ rules := by
  obtain ⟨legend⟩ : Nonempty system.view.Legend := View.exists_legend fun theme path known => by
    obtain ⟨raw, shows⟩ := Store.mem_visiblePaths_iff.mp known
    exact ⟨_, denotes shows⟩
  have known : gap ∈ store.visiblePaths .light := by decide
  refine ⟨legend.utilityRules .light, ?_, ?_⟩
  · have settles := @View.utilityRules_settles system.view .light
    rw [View.plainUtilities_eq legend] at settles
    rcases (settles Table.empty (Cache.sound_empty store)).2 with made | ⟨deep, _⟩
    · exact made
    · exact absurd deep.deep not_deep
  · refine List.mem_append_left _ (List.mem_append_right _ (List.mem_flatMap.mpr ?_))
    refine ⟨(gap, legend.value .light gap), ?_, ?_⟩
    · exact List.mem_map.mpr ⟨gap, List.mem_filter.mpr ⟨known, by decide⟩, rfl⟩
    · rw [(text_eq legend known).1]
      simp only [Stylesheet.spacingRules, Value.lengthCss?, styleNumber_eight]
      exact List.mem_map.mpr ⟨("m", ["margin"]), List.mem_cons_self, rfl⟩

end Buttoned

end DesignTokens
