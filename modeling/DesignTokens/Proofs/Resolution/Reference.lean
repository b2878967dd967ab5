import Mathlib.Data.List.Nodup
import DesignTokens.Proofs.Path.Reading
import DesignTokens.Proofs.Table
import DesignTokens.Resolution.Basic

/-!
What a theme shows at a path, and what the text of a reference stands for: a path
that is followed, or a literal.  The paths that a theme shows are those with a value, each once.
-/

namespace DesignTokens

inductive Shows (store : Store) : Theme → Path → Value → Prop
  | own {theme path value} : store.get? path theme = some value → Shows store theme path value
  | light {path value} : store.get? path .auto = none → store.get? path .light = some value →
      Shows store .auto path value

theorem visible?_eq_some_iff {store : Store} {theme : Theme} {path : Path} {value : Value} :
    store.visible? path theme = some value ↔ Shows store theme path value := by
  unfold Store.visible?
  constructor
  · intro found
    split at found
    · rename_i held own
      obtain rfl := Option.some.inj found
      exact Shows.own own
    · rename_i missing
      split at found
      · rename_i automatic
        subst automatic
        exact Shows.light missing found
      · simp at found
  · intro shows
    cases shows with
    | own found => simp [found]
    | light missing found => simp [missing, found]

theorem Shows.unique {store : Store} {theme : Theme} {path : Path} {value other : Value}
    (first : Shows store theme path value) (second : Shows store theme path other) :
    value = other := by
  rw [← visible?_eq_some_iff] at first second
  exact Option.some.inj (first.symm.trans second)

theorem visible?_eq_none_iff {store : Store} {theme : Theme} {path : Path} :
    store.visible? path theme = none ↔ ∀ value, ¬ Shows store theme path value := by
  constructor
  · intro missing value shows
    rw [← visible?_eq_some_iff, missing] at shows
    simp at shows
  · intro absent
    cases found : store.visible? path theme with
    | none => rfl
    | some value => exact absurd (visible?_eq_some_iff.mp found) (absent value)

/-- Texts that are literals: those without the shape of a path, those that spell a
magnitude, and keywords and colours that no token is named after. -/
inductive Inline (store : Store) (theme : Theme) (text : String) : Prop
  | shapeless : isPathText text = false → Inline store theme text
  | magnitude : (Value.ofLiteral text).isMagnitude = true → Inline store theme text
  | keyword {path} : isKeywordText text = true → Path.parse text = .ok path →
      (∀ value, ¬ Shows store theme path value) → Inline store theme text

structure Points (store : Store) (theme : Theme) (text : String) (path : Path) : Prop where
  shaped : isPathText text = true
  noMagnitude : (Value.ofLiteral text).isMagnitude = false
  spelled : Path.parse text = .ok path
  named : isKeywordText text = true → ∃ value, Shows store theme path value

theorem ofReference?_eq_some_iff {text : String} {path : Path} :
    Path.ofReference? text = some path ↔ isPathText text = true ∧ Path.parse text = .ok path := by
  unfold Path.ofReference?
  by_cases shaped : isPathText text = true
  · cases parsed : Path.parse text <;> simp [shaped, Except.toOption]
  · simp [shaped]

theorem target?_eq_some_iff {store : Store} {theme : Theme} {text : String} {path : Path} :
    store.target? theme text = some path ↔ Points store theme text path := by
  unfold Store.target?
  constructor
  · intro found
    split at found
    · simp at found
    · rename_i noMagnitude
      split at found
      · simp at found
      · rename_i spelled reference
        rw [ofReference?_eq_some_iff] at reference
        split at found
        · simp at found
        · rename_i named
          obtain rfl := Option.some.inj found
          refine ⟨reference.1, by simpa using noMagnitude, reference.2, ?_⟩
          intro keyword
          rcases visible : store.visible? spelled theme with _ | value
          · simp [keyword, visible] at named
          · exact ⟨value, visible?_eq_some_iff.mp visible⟩
  · rintro ⟨shaped, noMagnitude, spelled, named⟩
    rw [noMagnitude, ofReference?_eq_some_iff.mpr ⟨shaped, spelled⟩]
    by_cases keyword : isKeywordText text = true
    · rcases named keyword with ⟨value, shows⟩
      rw [← visible?_eq_some_iff] at shows
      simp [shows]
    · simp [keyword]

theorem target?_eq_none_iff {store : Store} {theme : Theme} {text : String} :
    store.target? theme text = none ↔ Inline store theme text := by
  constructor
  · intro missing
    by_cases shaped : isPathText text = true
    · rcases parse_ok_of_isPathText shaped with ⟨path, spelled⟩
      by_cases magnitude : (Value.ofLiteral text).isMagnitude = true
      · exact Inline.magnitude magnitude
      · have unnamed : ¬ (isKeywordText text = true → ∃ value, Shows store theme path value) := by
          intro named
          have followed := target?_eq_some_iff.mpr
            ⟨shaped, by simpa using magnitude, spelled, named⟩
          rw [missing] at followed
          simp at followed
        rw [Classical.not_imp, not_exists] at unnamed
        exact Inline.keyword unnamed.1 spelled unnamed.2
    · exact Inline.shapeless (by simpa using shaped)
  · intro literal
    cases followed : store.target? theme text with
    | none => rfl
    | some path =>
        rcases target?_eq_some_iff.mp followed with ⟨shaped, noMagnitude, spelled, named⟩
        cases literal with
        | shapeless unshaped => simp [shaped] at unshaped
        | magnitude magnitude => simp [noMagnitude] at magnitude
        | @keyword other keyword parsed absent =>
            rcases named keyword with ⟨value, shows⟩
            obtain rfl := Except.ok.inj (spelled.symm.trans parsed)
            exact absurd shows (absent value)

theorem Points.unique {store : Store} {theme : Theme} {text : String} {path other : Path}
    (first : Points store theme text path) (second : Points store theme text other) :
    path = other :=
  Except.ok.inj (first.spelled.symm.trans second.spelled)

theorem Points.not_inline {store : Store} {theme : Theme} {text : String} {path : Path}
    (points : Points store theme text path) : ¬ Inline store theme text := by
  rw [← target?_eq_none_iff, target?_eq_some_iff.mpr points]
  simp

/-! ### The paths that a theme shows -/

namespace Store

variable {store : Store} {theme : Theme} {path : Path}

theorem paths_eq_filterMap (store : Store) (theme : Theme) :
    store.paths theme =
      store.values.keys.filterMap fun key => if key.2 = theme then some key.1 else none := by
  unfold paths items Table.keys Entries.keys
  induction store.values.entries with
  | nil => rfl
  | cons entry rest ih =>
      obtain ⟨⟨other, owner⟩, value⟩ := entry
      by_cases mine : owner = theme <;> simp [mine, ih]

theorem nodup_paths (store : Store) (theme : Theme) : (store.paths theme).Nodup := by
  rw [paths_eq_filterMap]
  refine List.Nodup.filterMap ?_ store.values.distinct
  rintro ⟨first, owner⟩ ⟨second, other⟩ path found again
  simp only [Option.mem_def, Option.ite_none_right_eq_some, Option.some.injEq] at found again
  rw [found.1, found.2, again.1, again.2]

theorem mem_paths_iff : path ∈ store.paths theme ↔ ∃ value, store.get? path theme = some value := by
  constructor
  · intro member
    rcases List.mem_map.mp member with ⟨⟨other, value⟩, listed, rfl⟩
    rcases List.mem_filterMap.mp listed with ⟨⟨⟨held, owner⟩, kept⟩, inside, same⟩
    simp only [Option.ite_none_right_eq_some, Option.some.injEq, Prod.mk.injEq] at same
    obtain ⟨rfl, rfl, rfl⟩ := same
    exact ⟨kept, (store.values.mem_entries_iff _ _).mp inside⟩
  · rintro ⟨value, found⟩
    exact mem_paths_of_get? found

theorem nodup_visiblePaths (store : Store) (theme : Theme) : (store.visiblePaths theme).Nodup := by
  unfold visiblePaths
  by_cases automatic : theme = .auto
  · simp only [automatic, if_true]
    refine List.Nodup.append (nodup_paths _ _) ((nodup_paths _ _).filter _) ?_
    intro path own light
    simp [own] at light
  · simp only [automatic, if_false]
    exact nodup_paths _ _

theorem mem_visiblePaths_iff :
    path ∈ store.visiblePaths theme ↔ ∃ raw, Shows store theme path raw := by
  constructor
  · intro member
    unfold visiblePaths at member
    by_cases automatic : theme = .auto
    · subst automatic
      simp only [if_true, List.mem_append, List.mem_filter, decide_not, Bool.not_eq_eq_eq_not,
        Bool.not_true, decide_eq_false_iff_not, mem_paths_iff] at member
      rcases member with ⟨raw, own⟩ | ⟨⟨raw, light⟩, none⟩
      · exact ⟨raw, Shows.own own⟩
      · refine ⟨raw, Shows.light ?_ light⟩
        cases held : store.get? path .auto with
        | none => rfl
        | some other => exact absurd ⟨other, held⟩ none
    · simp only [automatic, if_false, mem_paths_iff] at member
      rcases member with ⟨raw, own⟩
      exact ⟨raw, Shows.own own⟩
  · rintro ⟨raw, shows⟩
    exact mem_visiblePaths_of_visible? (visible?_eq_some_iff.mpr shows)

theorem mem_values_of_shows {raw : Value} (shows : Shows store theme path raw) :
    raw ∈ store.values.entries.map Prod.snd := by
  cases shows with
  | own found => exact List.mem_map_of_mem (Entries.mem_of_find?_eq_some found)
  | light _ found => exact List.mem_map_of_mem (Entries.mem_of_find?_eq_some found)

end Store

end DesignTokens
