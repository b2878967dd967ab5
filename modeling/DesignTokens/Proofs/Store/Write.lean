import DesignTokens.Proofs.Table
import DesignTokens.Proofs.Resolution.Reference
import DesignTokens.TokenSet.Seeding

/-!
The writes to a store: when they count as a change, and which values they leave as
they are.
-/

namespace DesignTokens

namespace Store

inductive Write where
  | set (path : Path) (theme : Theme) (value : Value)
  | remove (path : Path) (theme : Theme)
  | setAll (entries : List (Path × Value)) (theme : Theme)
  | copyTheme (source target : Theme)
  | clearTheme (theme : Theme)
  | clear
  | setMetadata (path : Path) (metadata : Metadata)
  | setAllMetadata (entries : List (Path × Metadata))

def Write.apply (store : Store) : Write → Store
  | .set path theme value => store.set path theme value
  | .remove path theme => (store.remove path theme).2
  | .setAll entries theme => store.setAll entries theme
  | .copyTheme source target => (store.copyTheme source target).2
  | .clearTheme theme => (store.clearTheme theme).2
  | .clear => store.clear
  | .setMetadata path metadata => store.setMetadata path metadata
  | .setAllMetadata entries => store.setAllMetadata entries

def Write.applyAll (store : Store) (writes : List Write) : Store :=
  writes.foldl Write.apply store

theorem get?_setAll_of_not_mem {store : Store} {path : Path} {theme owner : Theme}
    {entries : List (Path × Value)} (apart : ¬ (path ∈ entries.map Prod.fst ∧ theme = owner)) :
    (store.setAll entries owner).get? path theme = store.get? path theme := by
  unfold setAll
  split
  · rfl
  · refine Table.find?_insertAll_of_not_mem _ _ _ ?_
    intro entry member same
    rcases List.mem_map.mp member with ⟨⟨other, value⟩, found, rfl⟩
    obtain ⟨rfl, rfl⟩ := Prod.mk.inj same
    exact apart ⟨List.mem_map.mpr ⟨_, found, rfl⟩, rfl⟩

theorem mem_items_iff {store : Store} {theme : Theme} {path : Path} {value : Value} :
    (path, value) ∈ store.items theme ↔ store.get? path theme = some value := by
  rw [get?, ← Table.mem_entries_iff]
  simp only [items, List.mem_filterMap]
  constructor
  · rintro ⟨⟨⟨other, owner⟩, held⟩, member, found⟩
    split at found
    · rename_i same
      obtain ⟨rfl, rfl⟩ := Prod.mk.inj (Option.some.inj found)
      obtain rfl : owner = theme := same
      exact member
    · simp at found
  · intro member
    exact ⟨((path, theme), value), member, by simp⟩

theorem get?_copyTheme (store : Store) (source target : Theme) (path : Path) :
    (store.copyTheme source target).2.get? path target =
      match store.get? path source with
      | some value => some value
      | none => store.get? path target := by
  cases held : store.get? path source with
  | none =>
      refine get?_setAll_of_not_mem ?_
      rintro ⟨member, _⟩
      rcases List.mem_map.mp member with ⟨⟨_, value⟩, found, rfl⟩
      rw [mem_items_iff, held] at found
      simp at found
  | some value =>
      have member := mem_items_iff.mpr held
      have nonempty : (store.items source).isEmpty = false := by
        cases items : store.items source with
        | nil => simp [items] at member
        | cons => rfl
      change (store.setAll (store.items source) target).get? path target = some value
      rw [setAll, nonempty]
      refine Table.find?_insertAll_of_mem _ _ _ _ ?_ ?_
      · exact List.mem_map.mpr ⟨(path, value), member, rfl⟩
      · intro other inside
        rcases List.mem_map.mp inside with ⟨⟨found, again⟩, copied, same⟩
        obtain ⟨rfl, rfl⟩ : found = path ∧ again = other := by simpa using same
        rw [mem_items_iff, held] at copied
        exact (Option.some.inj copied).symm

/-- A write counts as a change, or it leaves all values as they are. -/
theorem revision_apply (store : Store) (write : Write) :
    (write.apply store).revision = store.revision + 1 ∨
      (write.apply store).revision = store.revision ∧
        (write.apply store).values = store.values := by
  have setAllCases : ∀ (entries : List (Path × Value)) (theme : Theme),
      (store.setAll entries theme).revision = store.revision + 1 ∨
        (store.setAll entries theme).revision = store.revision ∧
          (store.setAll entries theme).values = store.values := by
    intro entries theme
    unfold setAll
    split
    · exact Or.inr ⟨rfl, rfl⟩
    · exact Or.inl rfl
  cases write with
  | set path theme value => exact Or.inl rfl
  | remove path theme =>
      simp only [Write.apply, remove]
      split
      · exact Or.inl rfl
      · exact Or.inr ⟨rfl, rfl⟩
  | setAll entries theme => exact setAllCases entries theme
  | copyTheme source target => exact setAllCases (store.items source) target
  | clearTheme theme =>
      simp only [Write.apply, clearTheme]
      split
      · exact Or.inr ⟨rfl, rfl⟩
      · exact Or.inl rfl
  | clear => exact Or.inl rfl
  | setMetadata path metadata => exact Or.inr ⟨rfl, rfl⟩
  | setAllMetadata entries => exact Or.inr ⟨rfl, rfl⟩

theorem revision_le_applyAll (store : Store) (writes : List Write) :
    store.revision ≤ (Write.applyAll store writes).revision := by
  induction writes generalizing store with
  | nil => exact Nat.le_refl _
  | cons write writes ih =>
      have first : store.revision ≤ (write.apply store).revision := by
        rcases revision_apply store write with changed | ⟨kept, _⟩ <;> omega
      exact Nat.le_trans first (ih (write.apply store))

theorem load_eq_applyAll (store : Store) (tokens : TokenSet) :
    (store.load tokens).2 = Write.applyAll store
      [.setAll (Entries.collapse tokens.light) .light, .setAll (Entries.collapse tokens.dark) .dark,
        .setAllMetadata tokens.metadata] := by
  rfl

theorem seed_eq_applyAll (store : Store) (tokens : TokenSet) :
    (store.seed tokens).2 = Write.applyAll store
      [.setAll (Entries.collapse tokens.light) .light, .copyTheme .light .dark,
        .setAll (Entries.collapse tokens.dark) .dark, .setAllMetadata tokens.metadata] := by
  rfl

end Store

end DesignTokens
