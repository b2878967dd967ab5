import DesignTokens.Path.Basic
import DesignTokens.Text.DecimalDigit
import DesignTokens.Table
import DesignTokens.Theme
import DesignTokens.Value.Basic

/-!
The token store: one value for a path and theme, and metadata for a path.  A
write replaces a value as a whole; values are never merged.
-/

namespace DesignTokens

structure Store where
  values : Table (Path × Theme) Value
  metadata : Table Path Metadata
  revision : Nat

namespace Store

def empty : Store :=
  ⟨Table.empty, Table.empty, 0⟩

def size (store : Store) : Nat :=
  store.values.size

def get? (store : Store) (path : Path) (theme : Theme) : Option Value :=
  store.values.find? (path, theme)

def visible? (store : Store) (path : Path) (theme : Theme) : Option Value :=
  match store.get? path theme with
  | some value => some value
  | none => if theme = .auto then store.get? path .light else none

def items (store : Store) (theme : Theme) : List (Path × Value) :=
  store.values.entries.filterMap fun ((path, owner), value) =>
    if owner = theme then some (path, value) else none

def paths (store : Store) (theme : Theme) : List Path :=
  (store.items theme).map Prod.fst

def visiblePaths (store : Store) (theme : Theme) : List Path :=
  if theme = .auto then
    let own := store.paths theme
    own ++ (store.paths .light).filter (· ∉ own)
  else store.paths theme

def themes (store : Store) : List Theme :=
  Theme.all.filter fun theme => !(store.paths theme).isEmpty

def set (store : Store) (path : Path) (theme : Theme) (value : Value) : Store :=
  { store with
    values := store.values.insert (path, theme) value
    revision := store.revision + 1 }

def remove (store : Store) (path : Path) (theme : Theme) : Bool × Store :=
  if store.values.contains (path, theme) then
    (true, { store with
      values := store.values.erase (path, theme)
      revision := store.revision + 1 })
  else (false, store)

def setAll (store : Store) (entries : List (Path × Value)) (theme : Theme) : Store :=
  if entries.isEmpty then store
  else
    { store with
      values := store.values.insertAll (entries.map fun (path, value) => ((path, theme), value))
      revision := store.revision + 1 }

def copyTheme (store : Store) (source target : Theme) : Nat × Store :=
  let entries := store.items source
  (entries.length, store.setAll entries target)

def clearTheme (store : Store) (theme : Theme) : Nat × Store :=
  let count := (store.items theme).length
  if count = 0 then (0, store)
  else
    (count, { store with
      values := store.values.eraseWhere fun (_, owner) => owner = theme
      revision := store.revision + 1 })

def clear (store : Store) : Store :=
  ⟨Table.empty, Table.empty, store.revision + 1⟩

def setMetadata (store : Store) (path : Path) (metadata : Metadata) : Store :=
  { store with metadata := store.metadata.insert path metadata }

def setAllMetadata (store : Store) (entries : List (Path × Metadata)) : Store :=
  { store with metadata := store.metadata.insertAll entries }

def shown (store : Store) : String :=
  let themes := store.themes.map fun theme =>
    "<ThemeVariant." ++ theme.name.toUpper ++ ": '" ++ theme.name ++ "'>"
  "TokenStore(entries=" ++ integerText store.size ++ ", themes=[" ++ ", ".intercalate themes ++ "])"

theorem mem_paths_of_get? {store : Store} {path : Path} {theme : Theme} {value : Value}
    (found : store.get? path theme = some value) : path ∈ store.paths theme := by
  unfold get? Table.find? at found
  unfold paths items
  generalize store.values.entries = entries at found
  induction entries with
  | nil => simp [Entries.find?] at found
  | cons entry rest ih =>
      obtain ⟨⟨other, owner⟩, held⟩ := entry
      by_cases same : (other, owner) = (path, theme)
      · obtain ⟨rfl, rfl⟩ := Prod.mk.inj same
        simp
      · simp only [Entries.find?, same, if_false] at found
        have later := ih found
        by_cases mine : owner = theme
        · simp only [List.filterMap_cons, mine, if_true, List.map_cons, List.mem_cons]
          exact Or.inr later
        · simpa only [List.filterMap_cons, mine, if_false] using later

theorem mem_visiblePaths_of_visible? {store : Store} {path : Path} {theme : Theme} {value : Value}
    (found : store.visible? path theme = some value) : path ∈ store.visiblePaths theme := by
  unfold visible? at found
  unfold visiblePaths
  cases own : store.get? path theme with
  | some held =>
      have member := mem_paths_of_get? own
      by_cases auto : theme = .auto <;> simp [auto] at member ⊢ <;> simp [member]
  | none =>
      simp only [own] at found
      by_cases auto : theme = .auto
      · simp only [auto, if_true] at found ⊢
        have member := mem_paths_of_get? found
        by_cases mine : path ∈ store.paths .auto <;> simp [mine, member]
      · simp [auto] at found

end Store

end DesignTokens
