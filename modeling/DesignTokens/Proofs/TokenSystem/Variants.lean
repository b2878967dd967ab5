import DesignTokens.Proofs.TokenSystem.Steps

/-!
Variants of a theme that fail.  The copy of the theme is made before the values that go over
it are read, and it stays when they are refused.
-/

namespace DesignTokens

theorem Store.copyTheme_eq_self_iff {store : Store} {source target : Theme} :
    (store.copyTheme source target).2 = store ↔ store.paths source = [] := by
  rw [paths, List.map_eq_nil_iff]
  constructor
  · intro kept
    cases filled : store.items source with
    | nil => rfl
    | cons first rest =>
        have changed : (store.setAll (store.items source) target).revision =
            store.revision + 1 := by
          rw [setAll, filled]
          rfl
        have same : (store.setAll (store.items source) target).revision = store.revision :=
          congrArg Store.revision kept
        exact absurd (changed.symm.trans same) (Nat.succ_ne_self store.revision)
  · intro bare
    rw [copyTheme, bare]
    rfl

theorem store_of_failed_variant {system after : TokenSystem} {base variant : String}
    {overrides : List (String × Data)} {error : Error}
    (failed : (Action.createVariant base variant overrides).run system = (.error error, after))
    {source target : Theme} (based : Theme.read base = .ok source)
    (named : Theme.read variant = .ok target) :
    after.store = (system.store.copyTheme source target).2 := by
  rw [Action.run_createVariant based named] at failed
  cases read : readBatch overrides with
  | ok values =>
      rw [read] at failed
      cases failed
  | error fault =>
      rw [read] at failed
      obtain ⟨_, rfl⟩ := Prod.mk.inj failed
      exact system.withStore_store _

/-- A variant that fails leaves the store as it was if and only if one of its themes has no
name or there was nothing to copy; else the copy stays. -/
theorem createVariant_atomic_iff {system after : TokenSystem} {base variant : String}
    {overrides : List (String × Data)} {error : Error}
    (failed : (Action.createVariant base variant overrides).run system = (.error error, after)) :
    (after.store = system.store ↔
      ∀ source target, Theme.read base = .ok source → Theme.read variant = .ok target →
        system.store.paths source = []) ∧
    ∀ source target, Theme.read base = .ok source → Theme.read variant = .ok target →
      after.store = (system.store.copyTheme source target).2 := by
  refine ⟨⟨?_, ?_⟩, fun source target => store_of_failed_variant failed⟩
  · intro kept source target based named
    rw [store_of_failed_variant failed based named] at kept
    exact Store.copyTheme_eq_self_iff.mp kept
  · intro bare
    cases named : Theme.read variant with
    | error fault =>
        rw [Action.run_createVariant_unnamed (.inl named)] at failed
        rw [(Prod.mk.inj failed).2]
    | ok target =>
        cases based : Theme.read base with
        | error fault =>
            rw [Action.run_createVariant_unnamed (.inr ⟨⟨target, named⟩, based⟩)] at failed
            rw [(Prod.mk.inj failed).2]
        | ok source =>
            rw [store_of_failed_variant failed based named]
            exact Store.copyTheme_eq_self_iff.mpr (bare source target based named)

namespace Half

theorem valid : isSegment "brand" = true := by decide

abbrev brand : Path := .single "brand" valid

def system : TokenSystem :=
  .ofStore {} (Store.empty.setAll [(brand, .null)] .light)

def overrides : List (String × Data) :=
  [("brand", .null), ("a b", .null)]

theorem failed {base : String} {source : Theme} (based : Theme.read base = .ok source) :
    ∃ error, (Action.createVariant base "dark" overrides).run system =
      (.error error, system.withStore (system.store.copyTheme source .dark).2) := by
  obtain ⟨error, refused⟩ : ∃ error, readBatch overrides = .error error := ⟨_, rfl⟩
  have named : Theme.read "dark" = .ok .dark := rfl
  exact ⟨error, by rw [Action.run_createVariant based named, refused]⟩

end Half

open Half in
theorem createVariant_atomic_iff_auto :
    ∃ error after,
      (Action.createVariant "auto" "dark" overrides).run system = (.error error, after) ∧
      after.store = system.store := by
  have based : Theme.read "auto" = .ok .auto := rfl
  obtain ⟨error, run⟩ := failed based
  refine ⟨error, _, run, (createVariant_atomic_iff run).1.mpr ?_⟩
  intro source target read _
  obtain rfl := Except.ok.inj (based.symm.trans read)
  rfl

open Half in
/-- The value under a path is refused, and the copy of the base that was made for it stays. -/
theorem createVariant_leaves_copy :
    system.Reachable ∧
      ∃ error after,
        (Action.createVariant "light" "dark" overrides).run system = (.error error, after) ∧
        after.store.items .dark = [(brand, .null)] ∧ system.store.items .dark = [] ∧
        after.store.revision = system.store.revision + 1 := by
  obtain ⟨error, run⟩ := failed (rfl : Theme.read "light" = .ok .light)
  exact ⟨TokenSystem.reachable_ofStore _, error, _, run, rfl, rfl, rfl⟩

end DesignTokens
