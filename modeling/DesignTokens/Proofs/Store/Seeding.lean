import DesignTokens.Proofs.Overlay
import DesignTokens.Proofs.Store.Shelves

/-!
Seeding a store.  The dark theme shows what the light one does, in the same order, with its own
values laid over that.
-/

namespace DesignTokens

namespace Store

/-- A store has the values of a token set and no others.  Of several values for a path the last
one counts, and the path stands where it was first named. -/
structure Seeded (tokens : TokenSet) (store : Store) : Prop where
  light : ∀ path, store.get? path .light = Entries.find? tokens.light.reverse path
  dark : ∀ path, store.get? path .dark =
    (Entries.find? tokens.dark.reverse path).or (Entries.find? tokens.light.reverse path)
  lightOrder : store.paths .light = (tokens.light.map Prod.fst).eraseDups
  darkOrder : store.paths .dark = store.paths .light ++
    ((tokens.dark.map Prod.fst).filter (· ∉ tokens.light.map Prod.fst)).eraseDups
  auto : store.items .auto = []

theorem items_of_bare {store : Store} (bare : store.size = 0) (theme : Theme) :
    store.items theme = [] := by
  have none : store.values.entries = [] := List.length_eq_zero_iff.mp bare
  rw [items, none]
  rfl

theorem items_seed {store : Store} (bare : store.size = 0) (tokens : TokenSet) :
    (store.seed tokens).2.items .light = Entries.collapse tokens.light ∧
      (store.seed tokens).2.items .dark = Entries.collapse (tokens.light ++ tokens.dark) ∧
      (store.seed tokens).2.items .auto = [] := by
  let lit := store.setAll (Entries.collapse tokens.light) .light
  have light : lit.items .light = Entries.collapse tokens.light := by
    rw [items_setAll, if_pos rfl, items_of_bare bare, Entries.insertAll_collapse]
    rfl
  -- The copy is laid over a dark theme that has no values yet.
  have copied : (lit.copyTheme .light .dark).2.items .dark = Entries.collapse tokens.light := by
    rw [copyTheme, items_setAll, if_pos rfl, light, items_setAll, if_neg (by decide),
      items_of_bare bare, Entries.insertAll_collapse]
    rfl
  have spared : ∀ theme, theme ≠ .dark →
      (store.seed tokens).2.items theme = lit.items theme := by
    intro theme apart
    change ((lit.copyTheme .light .dark).2.setAll _ .dark).items theme = lit.items theme
    rw [items_setAll, if_neg (Ne.symm apart), copyTheme, items_setAll, if_neg (Ne.symm apart)]
  refine ⟨?_, ?_, ?_⟩
  · rw [spared .light (by decide), light]
  · change ((lit.copyTheme .light .dark).2.setAll _ .dark).items .dark = _
    rw [items_setAll, if_pos rfl, copied, Entries.insertAll_collapse, Entries.collapse,
      Entries.collapse, Entries.insertAll, Entries.insertAll, Entries.insertAll, List.foldl_append]
  · rw [spared .auto (by decide), items_setAll, if_neg (by decide), items_of_bare bare]

/-- Seeding fills a store without values with those of the token set, and counts the light
paths. -/
theorem seed_fills {store : Store} (bare : store.size = 0) (tokens : TokenSet) :
    (store.seed tokens).1 = (tokens.light.map Prod.fst).dedup.length ∧
      (store.seed tokens).2.Seeded tokens := by
  obtain ⟨light, dark, auto⟩ := items_seed bare tokens
  have lightOrder : (store.seed tokens).2.paths .light =
      (tokens.light.map Prod.fst).eraseDups := by
    rw [paths, light]
    exact Entries.keys_collapse tokens.light
  refine ⟨Entries.length_collapse tokens.light, ?_, ?_, lightOrder, ?_, auto⟩
  · intro path
    rw [get?_eq_find?_items, light, Entries.collapse, Entries.find?_insertAll]
    exact Option.or_none
  · intro path
    rw [get?_eq_find?_items, dark, Entries.collapse, Entries.find?_insertAll, List.reverse_append,
      Entries.find?_append]
    exact Option.or_none
  · rw [lightOrder, paths, dark]
    refine (Entries.keys_collapse _).trans ?_
    rw [Entries.keys, List.map_append, List.eraseDups_append, List.removeAll]
    simp

namespace Doubled

theorem valid_ink : isSegment "a" = true := by decide

theorem valid_page : isSegment "b" = true := by decide

theorem valid_edge : isSegment "c" = true := by decide

abbrev ink : Path := .single "a" valid_ink
abbrev page : Path := .single "b" valid_page
abbrev edge : Path := .single "c" valid_edge

def tokens : TokenSet where
  light := [(ink, .null), (page, .null), (ink, .boolean true)]
  dark := [(edge, .null), (page, .boolean false), (edge, .boolean true)]
  metadata := []

def cleared : Store :=
  (empty.set ink .auto .null).clear

end Doubled

open Doubled in
theorem seed_fills_doubled :
    cleared.size = 0 ∧ (cleared.seed tokens).1 = 2 ∧
      (cleared.seed tokens).2.paths .light = [ink, page] ∧
      (cleared.seed tokens).2.paths .dark = [ink, page, edge] ∧
      (cleared.seed tokens).2.get? ink .light = some (.boolean true) ∧
      (cleared.seed tokens).2.get? ink .dark = some (.boolean true) ∧
      (cleared.seed tokens).2.get? page .dark = some (.boolean false) ∧
      (cleared.seed tokens).2.get? edge .dark = some (.boolean true) := by
  have bare : cleared.size = 0 := rfl
  obtain ⟨count, seeded⟩ := seed_fills bare tokens
  have light : (cleared.seed tokens).2.paths .light = [ink, page] := by
    rw [seeded.lightOrder]
    decide
  refine ⟨bare, count, light, ?_, ?_, ?_, ?_, ?_⟩
  · rw [seeded.darkOrder, light]
    decide
  · rw [seeded.light]
    rfl
  · rw [seeded.dark]
    rfl
  · rw [seeded.dark]
    rfl
  · rw [seeded.dark]
    rfl

end Store

end DesignTokens
