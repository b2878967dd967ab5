import DesignTokens.Proofs.Overlay
import DesignTokens.Proofs.Store.Write

/-!
What a revision tells.  Values never change without it, and metadata changes without it only
where no value is written along with it.
-/

namespace DesignTokens

def TokenSet.DescribesOnly (tokens : TokenSet) : Prop :=
  tokens.light = [] ∧ tokens.dark = [] ∧ tokens.metadata ≠ []

namespace Store

def Dated {α : Type} (content : Store → α) (before after : Store) : Prop :=
  before.revision < after.revision ∨
    before.revision = after.revision ∧ content before = content after

namespace Dated

variable {α : Type} {content : Store → α} {before middle after : Store}

theorem refl (store : Store) : Dated content store store :=
  Or.inr ⟨rfl, rfl⟩

theorem trans (first : Dated content before middle) (second : Dated content middle after) :
    Dated content before after := by
  rcases first with grown | ⟨kept, same⟩ <;> rcases second with grew | ⟨held, again⟩
  · exact Or.inl (Nat.lt_trans grown grew)
  · exact Or.inl (held ▸ grown)
  · exact Or.inl (kept ▸ grew)
  · exact Or.inr ⟨kept.trans held, same.trans again⟩

theorem revision_le (dated : Dated content before after) : before.revision ≤ after.revision := by
  rcases dated with grown | ⟨kept, _⟩ <;> omega

theorem same (dated : Dated content before after) (kept : after.revision = before.revision) :
    content before = content after := by
  rcases dated with grown | ⟨_, same⟩
  · omega
  · exact same

end Dated

variable (store : Store)

theorem dated_values (write : Write) : Dated Store.values store (write.apply store) := by
  rcases revision_apply store write with grown | ⟨kept, same⟩
  · exact Or.inl (by omega)
  · exact Or.inr ⟨kept.symm, same.symm⟩

theorem revision_setAll {entries : List (Path × Value)} (filled : entries ≠ []) (theme : Theme) :
    (store.setAll entries theme).revision = store.revision + 1 := by
  cases entries with
  | nil => exact absurd rfl filled
  | cons entry rest => rfl

theorem dated_set (path : Path) (theme : Theme) (value : Value) :
    Dated id store (store.set path theme value) :=
  Or.inl (Nat.lt_succ_self store.revision)

theorem dated_setAll (entries : List (Path × Value)) (theme : Theme) :
    Dated id store (store.setAll entries theme) := by
  cases entries with
  | nil => exact Dated.refl store
  | cons entry rest => exact Or.inl (Nat.lt_succ_self store.revision)

theorem dated_copyTheme (source target : Theme) :
    Dated id store (store.copyTheme source target).2 :=
  store.dated_setAll (store.items source) target

theorem dated_remove (path : Path) (theme : Theme) :
    Dated id store (store.remove path theme).2 := by
  unfold remove
  split
  · exact Or.inl (Nat.lt_succ_self store.revision)
  · exact Dated.refl store

theorem dated_clearTheme (theme : Theme) : Dated id store (store.clearTheme theme).2 := by
  unfold clearTheme
  dsimp only
  split
  · exact Dated.refl store
  · exact Or.inl (Nat.lt_succ_self store.revision)

theorem dated_clear : Dated id store store.clear :=
  Or.inl (Nat.lt_succ_self store.revision)

theorem collapse_ne_nil {entries : List (Path × Value)} (filled : entries ≠ []) :
    Entries.collapse entries ≠ [] := by
  cases entries with
  | nil => exact absurd rfl filled
  | cons entry rest =>
      intro none
      have named : entry.1 ∈ (Entries.collapse (entry :: rest)).keys :=
        (Entries.mem_keys_insertAll_iff _ _ _).mpr (Or.inr List.mem_cons_self)
      rw [none] at named
      exact absurd named List.not_mem_nil

variable {store}

/-- Metadata goes unseen where it is written and nothing has been counted yet. -/
theorem Dated.setAllMetadata {filled : Store} (dated : Dated id store filled)
    {entries : List (Path × Metadata)}
    (seen : entries = [] ∨ store.revision < filled.revision) :
    Dated id store (filled.setAllMetadata entries) := by
  rcases seen with rfl | grown
  · exact dated
  · exact Or.inl grown

variable (store)

/-- The values of a token set are counted when they are put in, unless it has none. -/
theorem metadata_seen {tokens : TokenSet} (valued : ¬ tokens.DescribesOnly) {middle last : Store}
    (light : (store.setAll (Entries.collapse tokens.light) .light).revision ≤ middle.revision)
    (dark : (middle.setAll (Entries.collapse tokens.dark) .dark).revision ≤ last.revision) :
    tokens.metadata = [] ∨ store.revision < last.revision := by
  have first := (store.dated_setAll (Entries.collapse tokens.light) .light).revision_le
  have second := (middle.dated_setAll (Entries.collapse tokens.dark) .dark).revision_le
  -- Writing the values of either theme is counted, and no write takes that back.
  by_cases lit : tokens.light = []
  · by_cases dim : tokens.dark = []
    · exact Or.inl (Classical.not_not.mp fun described => valued ⟨lit, dim, described⟩)
    · rw [revision_setAll middle (collapse_ne_nil dim)] at dark
      exact Or.inr (by omega)
  · rw [revision_setAll store (collapse_ne_nil lit)] at light
    exact Or.inr (by omega)

theorem dated_load {tokens : TokenSet} (valued : ¬ tokens.DescribesOnly) :
    Dated id store (store.load tokens).2 := by
  have light := store.dated_setAll (Entries.collapse tokens.light) .light
  have dark := dated_setAll (store.setAll (Entries.collapse tokens.light) .light)
    (Entries.collapse tokens.dark) .dark
  have seen := store.metadata_seen valued (Nat.le_refl _) (Nat.le_refl _)
  exact (light.trans dark).setAllMetadata seen

theorem dated_seed {tokens : TokenSet} (valued : ¬ tokens.DescribesOnly) :
    Dated id store (store.seed tokens).2 := by
  have light := store.dated_setAll (Entries.collapse tokens.light) .light
  have copied := dated_copyTheme (store.setAll (Entries.collapse tokens.light) .light) .light .dark
  have dark := dated_setAll
    ((store.setAll (Entries.collapse tokens.light) .light).copyTheme .light .dark).2
    (Entries.collapse tokens.dark) .dark
  exact ((light.trans copied).trans dark).setAllMetadata
    (store.metadata_seen valued copied.revision_le (Nat.le_refl _))

end Store

end DesignTokens
