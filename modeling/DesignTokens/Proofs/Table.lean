import DesignTokens.Table

/-!
What a table holds under a key after it was changed.
-/

namespace DesignTokens

variable {κ ν : Type} [DecidableEq κ]

namespace Entries

theorem find?_insert (entries : Entries κ ν) (key other : κ) (value : ν) :
    (entries.insert key value).find? other =
      if key = other then some value else entries.find? other := by
  induction entries with
  | nil => rfl
  | cons entry rest ih =>
      obtain ⟨head, old⟩ := entry
      by_cases same : head = key
      · subst same
        by_cases asked : head = other <;> simp [insert, find?, asked]
      · by_cases asked : head = other
        · subst asked
          simp [insert, find?, same, Ne.symm same]
        · simp [insert, find?, same, asked, ih]

theorem find?_insertAll_of_not_mem (more entries : Entries κ ν) (key : κ)
    (absent : ∀ entry ∈ more, entry.1 ≠ key) :
    (entries.insertAll more).find? key = entries.find? key := by
  induction more generalizing entries with
  | nil => rfl
  | cons entry rest ih =>
      have head : entry.1 ≠ key := absent entry (by simp)
      have tail : ∀ other ∈ rest, other.1 ≠ key := fun other member =>
        absent other (by simp [member])
      have step := ih (entries.insert entry.1 entry.2) tail
      rw [find?_insert, if_neg head] at step
      exact step

theorem find?_insertAll_of_mem (more entries : Entries κ ν) (key : κ) (value : ν)
    (member : (key, value) ∈ more) (only : ∀ other, (key, other) ∈ more → other = value) :
    (entries.insertAll more).find? key = some value := by
  induction more generalizing entries with
  | nil => simp at member
  | cons entry rest ih =>
      by_cases later : ∃ other, (key, other) ∈ rest
      · rcases later with ⟨other, found⟩
        obtain rfl := only other (by simp [found])
        exact ih (entries.insert entry.1 entry.2) found fun again inside =>
          only again (by simp [inside])
      · have head : (key, value) = entry := by
          rcases List.mem_cons.mp member with same | inside
          · exact same
          · exact absurd ⟨value, inside⟩ later
        have absent : ∀ entry ∈ rest, entry.1 ≠ key := by
          rintro ⟨other, held⟩ inside rfl
          exact later ⟨held, inside⟩
        subst head
        change ((entries.insert key value).insertAll rest).find? key = some value
        rw [find?_insertAll_of_not_mem rest _ key absent, find?_insert, if_pos rfl]

theorem mem_of_find?_eq_some {entries : Entries κ ν} {key : κ} {value : ν}
    (found : entries.find? key = some value) : (key, value) ∈ entries := by
  induction entries with
  | nil => simp [find?] at found
  | cons entry rest ih =>
      obtain ⟨head, held⟩ := entry
      by_cases same : head = key
      · subst same
        simp only [find?, if_true, Option.some.injEq] at found
        simp [found]
      · simp only [find?, same, if_false] at found
        simp [ih found]

theorem find?_eq_some_of_mem {entries : Entries κ ν} {key : κ} {value : ν}
    (distinct : entries.keys.Nodup) (member : (key, value) ∈ entries) :
    entries.find? key = some value := by
  induction entries with
  | nil => simp at member
  | cons entry rest ih =>
      obtain ⟨head, held⟩ := entry
      rw [keys, List.map_cons, List.nodup_cons] at distinct
      rcases List.mem_cons.mp member with same | later
      · obtain ⟨rfl, rfl⟩ := Prod.mk.inj same
        simp [find?]
      · have apart : head ≠ key := by
          rintro rfl
          exact distinct.1 (List.mem_map.mpr ⟨_, later, rfl⟩)
        simp only [find?, apart, if_false]
        exact ih distinct.2 later

theorem mem_insert {entries : Entries κ ν} {key : κ} {value : ν} {entry : κ × ν}
    (member : entry ∈ entries.insert key value) : entry ∈ entries ∨ entry = (key, value) := by
  induction entries with
  | nil => exact Or.inr (List.mem_singleton.mp member)
  | cons first rest ih =>
      obtain ⟨head, old⟩ := first
      by_cases same : head = key
      · subst same
        simp only [insert, if_true, List.mem_cons] at member ⊢
        rcases member with new | later
        · exact Or.inr new
        · exact Or.inl (Or.inr later)
      · simp only [insert, same, if_false, List.mem_cons] at member ⊢
        rcases member with first | later
        · exact Or.inl (Or.inl first)
        · exact (ih later).imp_left Or.inr

theorem mem_insertAll {entries more : Entries κ ν} {entry : κ × ν}
    (member : entry ∈ entries.insertAll more) : entry ∈ entries ∨ entry ∈ more := by
  induction more generalizing entries with
  | nil => exact Or.inl member
  | cons first rest ih =>
      rcases @ih (entries.insert first.1 first.2) member with inserted | later
      · rcases mem_insert inserted with kept | new
        · exact Or.inl kept
        · exact Or.inr (by simp [new])
      · exact Or.inr (List.mem_cons_of_mem _ later)

theorem insert_eq_append (entries : Entries κ ν) (key : κ) (value : ν)
    (absent : key ∉ entries.keys) : entries.insert key value = entries ++ [(key, value)] := by
  induction entries with
  | nil => rfl
  | cons entry rest ih =>
      obtain ⟨head, old⟩ := entry
      rw [keys, List.map_cons, List.mem_cons, not_or] at absent
      simp [insert, Ne.symm absent.1, ih absent.2]

theorem insertAll_eq_append (entries more : Entries κ ν)
    (distinct : (Entries.keys (entries ++ more)).Nodup) :
    entries.insertAll more = entries ++ more := by
  induction more generalizing entries with
  | nil => simp [insertAll]
  | cons entry rest ih =>
      have absent : entry.1 ∉ entries.keys := by
        intro member
        rw [keys, List.map_append, List.nodup_append] at distinct
        exact distinct.2.2 _ member _ (by simp) rfl
      have split : entries ++ entry :: rest = entries ++ [entry] ++ rest := by simp
      rw [split] at distinct ⊢
      rw [← ih _ distinct, ← insert_eq_append entries entry.1 entry.2 absent]
      rfl

theorem keys_insert (entries : Entries κ ν) (key : κ) (value : ν) :
    (entries.insert key value).keys =
      if key ∈ entries.keys then entries.keys else entries.keys ++ [key] := by
  induction entries with
  | nil => rfl
  | cons entry rest ih =>
      obtain ⟨head, old⟩ := entry
      by_cases same : head = key
      · simp [insert, keys, same]
      · simp only [keys] at ih
        by_cases known : key ∈ rest.map Prod.fst <;>
          simp [insert, keys, same, Ne.symm same, ih, known]

theorem keys_insertAll (entries more : Entries κ ν) (once : more.keys.Nodup) :
    (entries.insertAll more).keys =
      entries.keys ++ more.keys.filter (· ∉ entries.keys) := by
  induction more generalizing entries with
  | nil => simp [insertAll, keys]
  | cons entry rest ih =>
      obtain ⟨key, value⟩ := entry
      rcases List.nodup_cons.mp once with ⟨apart, others⟩
      change ((entries.insert key value).insertAll rest).keys = _
      rw [ih _ others, keys_insert]
      change _ = entries.keys ++ (key :: keys rest).filter (· ∉ entries.keys)
      by_cases known : key ∈ entries.keys
      · simp [known]
      · have later : (keys rest).filter (· ∉ entries.keys ++ [key]) =
            (keys rest).filter (· ∉ entries.keys) := by
          refine List.filter_congr fun other member => ?_
          have different : other ≠ key := fun same => apart (same ▸ member)
          simp [different]
        rw [if_neg known, later, List.filter_cons_of_pos (by simpa using known),
          List.append_assoc]
        rfl

omit [DecidableEq κ] in
theorem keys_eraseWhere (entries : Entries κ ν) (drop : κ → Bool) :
    (entries.eraseWhere drop).keys = entries.keys.filter (!drop ·) := by
  rw [keys, keys, eraseWhere, List.filter_map]
  rfl

omit [DecidableEq κ] in
theorem eraseWhere_eq_self {entries : Entries κ ν} {drop : κ → Bool}
    (spared : ∀ key ∈ entries.keys, drop key = false) : entries.eraseWhere drop = entries := by
  refine List.filter_eq_self.mpr fun entry member => ?_
  rw [spared entry.1 (List.mem_map_of_mem member)]
  rfl

end Entries

namespace Table

omit [DecidableEq κ] in
theorem eq_of_entries {first second : Table κ ν} (same : first.entries = second.entries) :
    first = second := by
  cases first
  cases second
  cases same
  rfl

@[simp] theorem find?_empty (key : κ) : (Table.empty : Table κ ν).find? key = none := by
  rfl

theorem find?_insert (table : Table κ ν) (key other : κ) (value : ν) :
    (table.insert key value).find? other = if key = other then some value else table.find? other :=
  Entries.find?_insert table.entries key other value

theorem find?_insertAll_of_not_mem (table : Table κ ν) (more : Entries κ ν) (key : κ)
    (absent : ∀ entry ∈ more, entry.1 ≠ key) :
    (table.insertAll more).find? key = table.find? key :=
  Entries.find?_insertAll_of_not_mem more table.entries key absent

theorem find?_insertAll_of_mem (table : Table κ ν) (more : Entries κ ν) (key : κ) (value : ν)
    (member : (key, value) ∈ more) (only : ∀ other, (key, other) ∈ more → other = value) :
    (table.insertAll more).find? key = some value :=
  Entries.find?_insertAll_of_mem more table.entries key value member only

theorem mem_entries_iff (table : Table κ ν) (key : κ) (value : ν) :
    (key, value) ∈ table.entries ↔ table.find? key = some value :=
  ⟨Entries.find?_eq_some_of_mem table.distinct, Entries.mem_of_find?_eq_some⟩

end Table

end DesignTokens
