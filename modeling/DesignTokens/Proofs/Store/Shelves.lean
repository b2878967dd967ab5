import DesignTokens.Proofs.Resolution.Reference
import DesignTokens.Proofs.Store.Write

/-!
A store with its themes apart.  All themes share one table, but each of them behaves as
an ordered table of its own, next to one for the metadata.
-/

namespace DesignTokens

namespace Entries

variable {κ ω ν : Type} [DecidableEq κ] [DecidableEq ω]

def ownedBy (entries : Entries (κ × ω) ν) (owner : ω) : Entries κ ν :=
  entries.filterMap fun ((key, other), value) => if other = owner then some (key, value) else none

omit [DecidableEq κ] in
theorem ownedBy_cons (key : κ) (holder owner : ω) (value : ν) (rest : Entries (κ × ω) ν) :
    ownedBy (((key, holder), value) :: rest) owner =
      if holder = owner then (key, value) :: rest.ownedBy owner else rest.ownedBy owner := by
  by_cases held : holder = owner <;> simp [ownedBy, held]

theorem ownedBy_insert (entries : Entries (κ × ω) ν) (key : κ) (owner other : ω) (value : ν) :
    (entries.insert (key, owner) value).ownedBy other =
      if owner = other then (entries.ownedBy other).insert key value
      else entries.ownedBy other := by
  induction entries with
  | nil => by_cases mine : owner = other <;> simp [insert, ownedBy, mine]
  | cons entry rest ih =>
      obtain ⟨⟨head, holder⟩, old⟩ := entry
      by_cases same : (head, holder) = (key, owner)
      · obtain ⟨rfl, rfl⟩ := Prod.mk.inj same
        rw [insert, if_pos rfl, ownedBy_cons, ownedBy_cons]
        by_cases mine : holder = other <;> simp [insert, mine]
      · rw [insert, if_neg same, ownedBy_cons, ownedBy_cons, ih]
        by_cases held : holder = other
        · by_cases mine : owner = other
          · have apart : head ≠ key := by
              rintro rfl
              exact same (by rw [held, mine])
            simp [insert, held, mine, apart]
          · simp [held, mine]
        · simp [held]

theorem ownedBy_insertAll (entries : Entries (κ × ω) ν) (more : Entries κ ν) (owner other : ω) :
    (entries.insertAll (more.map fun (key, value) => ((key, owner), value))).ownedBy other =
      if owner = other then (entries.ownedBy other).insertAll more
      else entries.ownedBy other := by
  induction more generalizing entries with
  | nil => simp [insertAll]
  | cons entry rest ih =>
      have later := ih (entries.insert (entry.1, owner) entry.2)
      rw [ownedBy_insert] at later
      by_cases mine : owner = other
      · rw [if_pos mine] at later ⊢
        rw [if_pos mine] at later
        exact later
      · rw [if_neg mine] at later ⊢
        rw [if_neg mine] at later
        exact later

omit [DecidableEq κ] in
theorem ownedBy_eraseWhere (entries : Entries (κ × ω) ν) (drop : κ × ω → Bool) (owner : ω) :
    (entries.eraseWhere drop).ownedBy owner =
      (entries.ownedBy owner).eraseWhere fun key => drop (key, owner) := by
  induction entries with
  | nil => rfl
  | cons entry rest ih =>
      obtain ⟨⟨key, holder⟩, value⟩ := entry
      simp only [ownedBy, eraseWhere] at ih
      by_cases held : holder = owner
      · subst held
        by_cases dropped : drop (key, holder) = true <;>
          simp [ownedBy, eraseWhere, dropped, ih]
      · by_cases dropped : drop (key, holder) = true <;>
          simp [ownedBy, eraseWhere, held, dropped, ih]

end Entries

@[ext]
structure Shelves where
  values : Theme → Table Path Value
  metadata : Table Path Metadata

namespace Shelves

def empty : Shelves :=
  ⟨fun _ => Table.empty, Table.empty⟩

def replace (shelves : Shelves) (theme : Theme) (table : Table Path Value) : Shelves :=
  { shelves with values := fun other => if other = theme then table else shelves.values other }

def apply (shelves : Shelves) : Store.Write → Shelves
  | .set path theme value => shelves.replace theme ((shelves.values theme).insert path value)
  | .remove path theme => shelves.replace theme ((shelves.values theme).erase path)
  | .setAll entries theme => shelves.replace theme ((shelves.values theme).insertAll entries)
  | .copyTheme source target =>
      shelves.replace target ((shelves.values target).insertAll (shelves.values source).entries)
  | .clearTheme theme => shelves.replace theme Table.empty
  | .clear => empty
  | .setMetadata path metadata =>
      { shelves with metadata := shelves.metadata.insert path metadata }
  | .setAllMetadata entries => { shelves with metadata := shelves.metadata.insertAll entries }

def applyAll (shelves : Shelves) (writes : List Store.Write) : Shelves :=
  writes.foldl apply shelves

end Shelves

namespace Store

def shelves (store : Store) : Shelves :=
  ⟨fun theme => ⟨store.items theme, nodup_paths store theme⟩, store.metadata⟩

theorem shelves_empty : empty.shelves = Shelves.empty := by
  rfl

theorem contains_eq (store : Store) (path : Path) (theme : Theme) :
    store.values.contains (path, theme) = decide (path ∈ store.paths theme) := by
  rw [Table.contains, Bool.eq_iff_iff, Option.isSome_iff_exists, decide_eq_true_eq, mem_paths_iff]
  rfl

theorem items_set (store : Store) (path : Path) (theme other : Theme) (value : Value) :
    (store.set path theme value).items other =
      if theme = other then Entries.insert (store.items other) path value
      else store.items other :=
  Entries.ownedBy_insert store.values.entries path theme other value

theorem items_remove (store : Store) (path : Path) (theme other : Theme) :
    (store.remove path theme).2.items other =
      if theme = other then Entries.eraseWhere (store.items other) (· = path)
      else store.items other := by
  by_cases held : path ∈ store.paths theme
  · rw [remove, contains_eq, if_pos (decide_eq_true held)]
    have erased : (store.values.entries.eraseWhere (· = (path, theme))).ownedBy other = _ :=
      Entries.ownedBy_eraseWhere _ _ other
    refine erased.trans ?_
    by_cases same : theme = other
    · subst same
      simp only [Prod.mk.injEq, and_true, if_true]
      rfl
    · rw [if_neg same, Entries.eraseWhere_eq_self]
      · rfl
      · simp [Ne.symm same]
  · rw [remove, contains_eq, if_neg (by simpa using held)]
    by_cases same : theme = other
    · subst same
      rw [if_pos rfl, Entries.eraseWhere_eq_self]
      exact fun key member => decide_eq_false fun found => held (found ▸ member)
    · rw [if_neg same]

theorem items_setAll (store : Store) (entries : List (Path × Value)) (theme other : Theme) :
    (store.setAll entries theme).items other =
      if theme = other then Entries.insertAll (store.items other) entries
      else store.items other := by
  cases entries with
  | nil => simp [setAll, Entries.insertAll]
  | cons entry rest => exact Entries.ownedBy_insertAll store.values.entries _ theme other

theorem items_clearTheme (store : Store) (theme other : Theme) :
    (store.clearTheme theme).2.items other = if theme = other then [] else store.items other := by
  by_cases bare : (store.items theme).length = 0
  · rw [clearTheme, if_pos bare]
    by_cases same : theme = other
    · subst same
      rw [if_pos rfl, List.length_eq_zero_iff.mp bare]
    · rw [if_neg same]
  · rw [clearTheme, if_neg bare]
    have erased : (store.values.entries.eraseWhere (·.2 = theme)).ownedBy other = _ :=
      Entries.ownedBy_eraseWhere _ _ other
    refine erased.trans ?_
    by_cases same : theme = other
    · simp [same, Entries.eraseWhere]
    · rw [if_neg same, Entries.eraseWhere_eq_self]
      · rfl
      · simp [Ne.symm same]

theorem metadata_setAll (store : Store) (entries : List (Path × Value)) (theme : Theme) :
    (store.setAll entries theme).metadata = store.metadata := by
  unfold setAll
  split <;> rfl

theorem metadata_remove (store : Store) (path : Path) (theme : Theme) :
    (store.remove path theme).2.metadata = store.metadata := by
  unfold remove
  split <;> rfl

theorem metadata_clearTheme (store : Store) (theme : Theme) :
    (store.clearTheme theme).2.metadata = store.metadata := by
  simp only [clearTheme]
  split <;> rfl

theorem shelves_eq_replace {store after : Store} {theme : Theme} {table : Table Path Value}
    (change : List (Path × Value) → List (Path × Value))
    (items : ∀ other, after.items other =
      if theme = other then change (store.items other) else store.items other)
    (changed : table.entries = change (store.items theme))
    (kept : after.metadata = store.metadata) :
    after.shelves = store.shelves.replace theme table := by
  refine Shelves.ext (funext fun other => Table.eq_of_entries ?_) kept
  by_cases same : other = theme
  · simpa [shelves, Shelves.replace, same, changed] using items theme
  · simpa [shelves, Shelves.replace, same, Ne.symm same] using items other

/-- A write to the store is the same write with the themes apart. -/
theorem shelves_apply (store : Store) (write : Write) :
    (write.apply store).shelves = store.shelves.apply write := by
  have laid : ∀ (entries : List (Path × Value)) (theme : Theme),
      (store.setAll entries theme).shelves = store.shelves.apply (.setAll entries theme) :=
    fun entries theme => shelves_eq_replace (Entries.insertAll · entries)
      (items_setAll store entries theme) rfl (metadata_setAll store entries theme)
  cases write with
  | set path theme value =>
      exact shelves_eq_replace (Entries.insert · path value)
        (items_set store path theme · value) rfl rfl
  | remove path theme =>
      exact shelves_eq_replace (Entries.eraseWhere · (· = path))
        (items_remove store path theme) rfl (metadata_remove store path theme)
  | setAll entries theme => exact laid entries theme
  | copyTheme source target => exact laid (store.items source) target
  | clearTheme theme =>
      exact shelves_eq_replace (fun _ => []) (items_clearTheme store theme)
        rfl (metadata_clearTheme store theme)
  | clear => exact shelves_empty
  | setMetadata path metadata => rfl
  | setAllMetadata entries => rfl

theorem shelves_applyAll (store : Store) (writes : List Write) :
    (Write.applyAll store writes).shelves = store.shelves.applyAll writes := by
  induction writes generalizing store with
  | nil => rfl
  | cons write writes ih =>
      change (Write.applyAll (write.apply store) writes).shelves = _
      rw [ih, shelves_apply]
      rfl

structure Tells (store : Store) (shelves : Shelves) : Prop where
  get? : ∀ path theme, store.get? path theme = (shelves.values theme).find? path
  holds : ∀ path theme,
    (store.get? path theme).isSome = (shelves.values theme).contains path
  paths : ∀ theme, store.paths theme = (shelves.values theme).keys
  items : ∀ theme, store.items theme = (shelves.values theme).entries
  size : store.size =
    (store.paths .light).length + (store.paths .dark).length + (store.paths .auto).length
  themes : store.themes = Theme.all.filter fun theme => (shelves.values theme).size ≠ 0
  metadata : store.metadata = shelves.metadata

theorem find?_shelves (store : Store) (path : Path) (theme : Theme) :
    (store.shelves.values theme).find? path = store.get? path theme := by
  refine Option.ext fun value => ?_
  rw [← mem_items_iff, ← Table.mem_entries_iff]
  rfl

theorem get?_eq_find?_items (store : Store) (path : Path) (theme : Theme) :
    store.get? path theme = Entries.find? (store.items theme) path :=
  (store.find?_shelves path theme).symm

theorem size_eq (store : Store) :
    store.size =
      (store.paths .light).length + (store.paths .dark).length + (store.paths .auto).length := by
  rw [paths, paths, paths, List.length_map, List.length_map, List.length_map]
  change store.values.entries.length = (store.values.entries.ownedBy Theme.light).length +
    (store.values.entries.ownedBy Theme.dark).length +
      (store.values.entries.ownedBy Theme.auto).length
  induction store.values.entries with
  | nil => rfl
  | cons entry rest ih =>
      obtain ⟨⟨path, owner⟩, value⟩ := entry
      rw [Entries.ownedBy_cons, Entries.ownedBy_cons, Entries.ownedBy_cons, List.length_cons, ih]
      cases owner <;> simp <;> omega

theorem tells_shelves (store : Store) : store.Tells store.shelves where
  get? path theme := (find?_shelves store path theme).symm
  holds path theme := by rw [Table.contains, find?_shelves]
  paths _ := rfl
  items _ := rfl
  size := size_eq store
  themes := by
    refine List.filter_congr fun theme _ => Bool.eq_iff_iff.mpr ?_
    simp [shelves, paths, Table.size]
  metadata := rfl

theorem remove_fst (store : Store) (path : Path) (theme : Theme) :
    (store.remove path theme).1 = (store.shelves.values theme).contains path := by
  rw [← store.tells_shelves.holds]
  change _ = store.values.contains (path, theme)
  rw [remove]
  split
  · rename_i held
    exact held.symm
  · rename_i absent
    exact ((Bool.not_eq_true _).mp absent).symm

theorem clearTheme_fst (store : Store) (theme : Theme) :
    (store.clearTheme theme).1 = (store.shelves.values theme).size := by
  change _ = (store.items theme).length
  rw [clearTheme]
  split
  · rename_i bare
    exact bare.symm
  · rfl

structure KeepsOrder (store : Store) : Prop where
  once : ∀ theme, (store.paths theme).Nodup
  overwritten : ∀ path theme value, path ∈ store.paths theme →
    (store.set path theme value).paths theme = store.paths theme
  added : ∀ path theme value, path ∉ store.paths theme →
    (store.set path theme value).paths theme = store.paths theme ++ [path]
  returned : ∀ path theme value, ((store.remove path theme).2.set path theme value).paths theme =
    (store.paths theme).filter (· ≠ path) ++ [path]
  copied : ∀ source target, (store.copyTheme source target).2.paths target =
    store.paths target ++ (store.paths source).filter (· ∉ store.paths target)
  overlaid : ∀ source target path, (store.copyTheme source target).2.get? path target =
    (store.get? path source).or (store.get? path target)
  copiedApart : ∀ source target other, other ≠ target →
    (store.copyTheme source target).2.items other = store.items other
  copiedMetadata : ∀ source target,
    (store.copyTheme source target).2.metadata = store.metadata
  cleared : ∀ theme, (store.clearTheme theme).2.items theme = []
  clearedApart : ∀ theme other, other ≠ theme →
    (store.clearTheme theme).2.items other = store.items other
  clearedMetadata : ∀ theme, (store.clearTheme theme).2.metadata = store.metadata

theorem paths_set (store : Store) (path : Path) (theme : Theme) (value : Value) :
    (store.set path theme value).paths theme =
      if path ∈ store.paths theme then store.paths theme else store.paths theme ++ [path] := by
  rw [paths, items_set, if_pos rfl]
  exact Entries.keys_insert _ path value

theorem paths_remove (store : Store) (path : Path) (theme : Theme) :
    (store.remove path theme).2.paths theme = (store.paths theme).filter (· ≠ path) := by
  rw [paths, items_remove, if_pos rfl]
  refine (Entries.keys_eraseWhere _ _).trans (List.filter_congr fun other _ => ?_)
  simp

theorem paths_copyTheme (store : Store) (source target : Theme) :
    (store.copyTheme source target).2.paths target =
      store.paths target ++ (store.paths source).filter (· ∉ store.paths target) := by
  rw [copyTheme, paths, items_setAll, if_pos rfl]
  exact Entries.keys_insertAll _ _ (nodup_paths store source)

theorem keepsOrder (store : Store) : store.KeepsOrder where
  once := nodup_paths store
  overwritten path theme value known := by rw [paths_set, if_pos known]
  added path theme value fresh := by rw [paths_set, if_neg fresh]
  returned path theme value := by
    have gone : path ∉ (store.remove path theme).2.paths theme := by
      rw [paths_remove]
      simp
    rw [paths_set, if_neg gone, paths_remove]
  copied := paths_copyTheme store
  overlaid source target path := by
    rw [get?_copyTheme]
    cases store.get? path source <;> rfl
  copiedApart source target other apart := by
    rw [copyTheme, items_setAll, if_neg (Ne.symm apart)]
  copiedMetadata source target := metadata_setAll store _ target
  cleared theme := by rw [items_clearTheme, if_pos rfl]
  clearedApart theme other apart := by rw [items_clearTheme, if_neg (Ne.symm apart)]
  clearedMetadata := metadata_clearTheme store

end Store

end DesignTokens
