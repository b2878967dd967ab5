import Mathlib.Data.List.Dedup
import Mathlib.Data.List.Induction
import DesignTokens.Proofs.Table

/-!
Laying pairs over others.  The last pair with a key counts, and it does not matter whether the
keys that stand in it several times are put together first, each in the place where it first
occurs.
-/

namespace DesignTokens

section

variable {α β : Type} [DecidableEq α] [DecidableEq β]

theorem eraseDups_concat (values : List α) (last : α) :
    (values ++ [last]).eraseDups =
      if last ∈ values then values.eraseDups else values.eraseDups ++ [last] := by
  rw [List.eraseDups_append, List.removeAll]
  by_cases known : last ∈ values
  · simp [known]
  · simp [known, List.eraseDups_cons]

theorem nodup_eraseDups (values : List α) : values.eraseDups.Nodup := by
  induction values using List.reverseRecOn with
  | nil => exact List.nodup_nil
  | append_singleton values last ih =>
      rw [eraseDups_concat]
      split
      · exact ih
      · rename_i fresh
        refine List.nodup_append.mpr ⟨ih, by simp, ?_⟩
        intro value listed other single same
        rw [same, List.mem_singleton.mp single] at listed
        exact fresh (List.mem_eraseDups.mp listed)

/-- Renaming keeps first occurrences where no two values get one name. -/
theorem eraseDups_map {f : α → β} {values : List α}
    (apart : ∀ value ∈ values, ∀ other ∈ values, f value = f other → value = other) :
    (values.map f).eraseDups = values.eraseDups.map f := by
  induction values using List.reverseRecOn with
  | nil => rfl
  | append_singleton values last ih =>
      have earlier := ih fun value member other again =>
        apart value (List.mem_append_left _ member) other (List.mem_append_left _ again)
      have known : f last ∈ values.map f ↔ last ∈ values := by
        constructor
        · intro listed
          obtain ⟨value, member, same⟩ := List.mem_map.mp listed
          have one := apart value (List.mem_append_left _ member) last (by simp) same
          exact one ▸ member
        · exact List.mem_map_of_mem
      rw [List.map_append, List.map_singleton, eraseDups_concat, eraseDups_concat, earlier]
      simp only [known]
      split
      · rfl
      · rw [List.map_append, List.map_singleton]

end

namespace Entries

variable {κ ν : Type} [DecidableEq κ]

theorem find?_append (first second : Entries κ ν) (key : κ) :
    find? (first ++ second) key = (find? first key).or (find? second key) := by
  induction first with
  | nil => rfl
  | cons entry rest ih =>
      obtain ⟨head, value⟩ := entry
      by_cases same : head = key
      · simp [find?, same]
      · simp [find?, same, ih]

/-- Of the pairs with a key that are laid over others, the last one counts. -/
theorem find?_insertAll (entries more : Entries κ ν) (key : κ) :
    (entries.insertAll more).find? key = (find? more.reverse key).or (entries.find? key) := by
  induction more generalizing entries with
  | nil => rfl
  | cons entry rest ih =>
      obtain ⟨head, value⟩ := entry
      change ((entries.insert head value).insertAll rest).find? key = _
      rw [ih, find?_insert, List.reverse_cons, find?_append, Option.or_assoc]
      by_cases same : head = key <;> simp [find?, same]

theorem insert_insert (entries : Entries κ ν) (key : κ) (old value : ν) :
    (entries.insert key old).insert key value = entries.insert key value := by
  induction entries with
  | nil => simp [insert]
  | cons entry rest ih =>
      obtain ⟨head, held⟩ := entry
      by_cases same : head = key <;> simp [insert, same, ih]

/-- A key that is there already keeps its place, whatever else is inserted first. -/
theorem insert_comm {entries : Entries κ ν} {key other : κ} (apart : key ≠ other)
    (known : key ∈ entries.keys) (value further : ν) :
    (entries.insert other further).insert key value =
      (entries.insert key value).insert other further := by
  induction entries with
  | nil => simp [keys] at known
  | cons entry rest ih =>
      obtain ⟨head, held⟩ := entry
      by_cases same : head = key
      · subst same
        simp [insert, apart]
      · have later : key ∈ keys rest := (List.mem_cons.mp known).resolve_left (Ne.symm same)
        by_cases found : head = other
        · subst found
          simp [insert, same]
        · simp [insert, same, found, ih later]

theorem insertAll_insert {entries more : Entries κ ν} {key : κ} (known : key ∈ entries.keys)
    (absent : key ∉ more.keys) (value : ν) :
    (entries.insertAll more).insert key value = (entries.insert key value).insertAll more := by
  induction more generalizing entries with
  | nil => rfl
  | cons entry rest ih =>
      obtain ⟨other, further⟩ := entry
      rw [keys, List.map_cons, List.mem_cons, not_or] at absent
      have kept : key ∈ (entries.insert other further).keys :=
        (mem_keys_insert_iff entries other key further).mpr (Or.inr known)
      change ((entries.insert other further).insertAll rest).insert key value =
        ((entries.insert key value).insert other further).insertAll rest
      rw [ih kept absent.2, insert_comm absent.1 known]

/-- Inserting into the pairs that are laid over others is inserting last. -/
theorem insertAll_of_insert {more : Entries κ ν} (once : more.keys.Nodup)
    (entries : Entries κ ν) (key : κ) (value : ν) :
    entries.insertAll (more.insert key value) = (entries.insertAll more).insert key value := by
  induction more generalizing entries with
  | nil => rfl
  | cons entry rest ih =>
      obtain ⟨head, old⟩ := entry
      obtain ⟨apart, others⟩ := List.nodup_cons.mp once
      by_cases same : head = key
      · subst same
        rw [insert, if_pos rfl]
        change (entries.insert head value).insertAll rest =
          ((entries.insert head old).insertAll rest).insert head value
        have known : head ∈ (entries.insert head old).keys :=
          (mem_keys_insert_iff entries head head old).mpr (Or.inl rfl)
        rw [insertAll_insert known apart, insert_insert]
      · rw [insert, if_neg same]
        exact ih others (entries.insert head old)

/-- It makes no difference whether pairs are laid over others one by one or with each key once. -/
theorem insertAll_collapse (entries more : Entries κ ν) :
    entries.insertAll more.collapse = entries.insertAll more := by
  -- The pairs that were put together so far grow with each one, and their keys stay distinct.
  have laid : ∀ base : Entries κ ν, base.keys.Nodup →
      entries.insertAll (base.insertAll more) = (entries.insertAll base).insertAll more := by
    induction more with
    | nil => exact fun _ _ => rfl
    | cons entry rest ih =>
        intro base once
        have step := ih (base.insert entry.1 entry.2) (nodup_keys_insert base _ _ once)
        rw [insertAll_of_insert once] at step
        exact step
  exact laid [] List.nodup_nil

theorem keys_collapse (entries : Entries κ ν) : entries.collapse.keys = entries.keys.eraseDups := by
  induction entries using List.reverseRecOn with
  | nil => rfl
  | append_singleton entries last ih =>
      have laid : collapse (entries ++ [last]) = (collapse entries).insert last.1 last.2 := by
        simp [collapse, insertAll]
      rw [laid, keys_insert, ih]
      simp only [List.mem_eraseDups, keys, List.map_append, List.map_singleton, eraseDups_concat]

theorem mem_keys_insertAll_iff (entries more : Entries κ ν) (key : κ) :
    key ∈ (entries.insertAll more).keys ↔ key ∈ entries.keys ∨ key ∈ more.keys := by
  induction more generalizing entries with
  | nil => simp [insertAll, keys]
  | cons entry rest ih =>
      have step := ih (entries.insert entry.1 entry.2)
      rw [mem_keys_insert_iff] at step
      refine step.trans ?_
      rw [keys, keys, keys, List.map_cons, List.mem_cons]
      tauto

theorem length_collapse (entries : Entries κ ν) :
    entries.collapse.length = entries.keys.dedup.length := by
  have same : entries.collapse.keys.Perm entries.keys.dedup := by
    refine (List.perm_ext_iff_of_nodup ?_ (List.nodup_dedup _)).mpr fun key => ?_
    · exact nodup_keys_insertAll entries [] List.nodup_nil
    · rw [collapse, mem_keys_insertAll_iff, List.mem_dedup]
      simp [keys]
  rw [← same.length_eq, keys, List.length_map]

end Entries

end DesignTokens
