/-!
Tables that keep the order in which their keys arrived.  Overwriting a key keeps
its place; a key that was erased and comes back goes to the end.
-/

namespace DesignTokens

abbrev Entries (κ ν : Type) := List (κ × ν)

namespace Entries

variable {κ ν : Type} [DecidableEq κ]

def keys (entries : Entries κ ν) : List κ :=
  entries.map Prod.fst

def find? (entries : Entries κ ν) (key : κ) : Option ν :=
  match entries with
  | [] => none
  | (other, value) :: rest => if other = key then some value else find? rest key

def insert (entries : Entries κ ν) (key : κ) (value : ν) : Entries κ ν :=
  match entries with
  | [] => [(key, value)]
  | (other, old) :: rest =>
      if other = key then (other, value) :: rest else (other, old) :: insert rest key value

def insertAll (entries more : Entries κ ν) : Entries κ ν :=
  more.foldl (fun table entry => table.insert entry.1 entry.2) entries

def collapse (entries : Entries κ ν) : Entries κ ν :=
  insertAll [] entries

def eraseWhere (entries : Entries κ ν) (drop : κ → Bool) : Entries κ ν :=
  entries.filter fun entry => !drop entry.1

theorem mem_keys_insert_iff (entries : Entries κ ν) (key other : κ) (value : ν) :
    other ∈ keys (insert entries key value) ↔ other = key ∨ other ∈ keys entries := by
  induction entries with
  | nil => simp [insert, keys]
  | cons entry rest ih =>
      obtain ⟨head, old⟩ := entry
      simp only [keys] at ih
      by_cases same : head = key
      · subst same
        simp [insert, keys]
      · simp only [insert, same, if_false, keys, List.map_cons, List.mem_cons, ih]
        constructor
        · rintro (found | found | found)
          · exact Or.inr (Or.inl found)
          · exact Or.inl found
          · exact Or.inr (Or.inr found)
        · rintro (found | found | found)
          · exact Or.inr (Or.inl found)
          · exact Or.inl found
          · exact Or.inr (Or.inr found)

theorem nodup_keys_insert (entries : Entries κ ν) (key : κ) (value : ν)
    (distinct : (keys entries).Nodup) : (keys (insert entries key value)).Nodup := by
  induction entries with
  | nil => simp [insert, keys]
  | cons entry rest ih =>
      obtain ⟨head, old⟩ := entry
      simp only [keys, List.map_cons, List.nodup_cons] at distinct
      by_cases same : head = key
      · subst same
        simpa [insert, keys] using distinct
      · simp only [insert, same, if_false, keys, List.map_cons, List.nodup_cons]
        refine ⟨?_, ih distinct.2⟩
        intro found
        rcases (mem_keys_insert_iff rest key head value).mp found with equal | earlier
        · exact same equal
        · exact distinct.1 earlier

theorem nodup_keys_insertAll (more entries : Entries κ ν) (distinct : (keys entries).Nodup) :
    (keys (insertAll entries more)).Nodup := by
  induction more generalizing entries with
  | nil => exact distinct
  | cons entry rest ih => exact ih _ (nodup_keys_insert entries entry.1 entry.2 distinct)

omit [DecidableEq κ] in
theorem nodup_keys_eraseWhere (entries : Entries κ ν) (drop : κ → Bool)
    (distinct : (keys entries).Nodup) : (keys (eraseWhere entries drop)).Nodup := by
  unfold keys eraseWhere
  exact List.Nodup.sublist (List.Sublist.map _ List.filter_sublist) distinct

end Entries

structure Table (κ ν : Type) where
  entries : Entries κ ν
  distinct : entries.keys.Nodup

namespace Table

variable {κ ν : Type} [DecidableEq κ]

def empty : Table κ ν :=
  ⟨[], List.nodup_nil⟩

def keys (table : Table κ ν) : List κ :=
  table.entries.keys

def size (table : Table κ ν) : Nat :=
  table.entries.length

def find? (table : Table κ ν) (key : κ) : Option ν :=
  table.entries.find? key

def contains (table : Table κ ν) (key : κ) : Bool :=
  (table.find? key).isSome

def insert (table : Table κ ν) (key : κ) (value : ν) : Table κ ν :=
  ⟨table.entries.insert key value, Entries.nodup_keys_insert _ _ _ table.distinct⟩

def insertAll (table : Table κ ν) (more : Entries κ ν) : Table κ ν :=
  ⟨table.entries.insertAll more, Entries.nodup_keys_insertAll _ _ table.distinct⟩

def eraseWhere (table : Table κ ν) (drop : κ → Bool) : Table κ ν :=
  ⟨table.entries.eraseWhere drop, Entries.nodup_keys_eraseWhere _ _ table.distinct⟩

def erase (table : Table κ ν) (key : κ) : Table κ ν :=
  table.eraseWhere (· = key)

end Table

end DesignTokens
