import DesignTokens.Proofs.Path.Reading
import DesignTokens.Proofs.Resolution.Dependency
import DesignTokens.Proofs.Resolution.Reference
import DesignTokens.Proofs.Text.Blank

/-!
The paths that are listed as referring to a target.  References are followed to the target as
soon as it has a value, unless its name reads as a number or a dimension.
-/

namespace DesignTokens

def Path.SpellsMagnitude (path : Path) : Prop :=
  (Value.ofLiteral path.dotted).isMagnitude = true

instance (path : Path) : Decidable path.SpellsMagnitude :=
  inferInstanceAs (Decidable (_ = true))

theorem Value.isMagnitude_ofLiteral_congr {text other : String}
    (same : trim text.toList = trim other.toList) :
    (ofLiteral text).isMagnitude = (ofLiteral other).isMagnitude := by
  unfold ofLiteral
  rw [same]
  dsimp only
  split
  · rfl
  · split
    · rfl
    · split
      · rfl
      · split
        · rfl
        · split
          · rfl
          · split <;> rfl

theorem spellsMagnitude_iff {text : String} {path : Path} (read : Path.parse text = .ok path) :
    path.SpellsMagnitude ↔ (Value.ofLiteral text).isMagnitude = true := by
  have same : trim path.dotted.toList = trim text.toList := by
    rw [Path.dotted_of_parse read, trimmed, String.toList_ofList, trim_trim]
  rw [Path.SpellsMagnitude, Value.isMagnitude_ofLiteral_congr same]

def Store.furnished (store : Store) (theme : Theme) (path : Path) (value : Value) : Store :=
  if (store.visible? path theme).isSome then store else store.set path theme value

/-- The value of a path holds a reference that is followed to the target once that has a value. -/
def WouldFollow (store : Store) (theme : Theme) (target : Path) (value : Value) (path : Path) :
    Prop :=
  ∃ raw text, Shows store theme path raw ∧ text ∈ raw.targets ∧
    (store.furnished theme target value).target? theme text = some target

variable {store : Store} {theme : Theme} {target : Path} {value : Value}

theorem exists_shows_furnished (store : Store) (theme : Theme) (path : Path) (value : Value) :
    ∃ held, Shows (store.furnished theme path value) theme path held := by
  unfold Store.furnished
  split
  · rename_i known
    obtain ⟨held, shown⟩ := Option.isSome_iff_exists.mp known
    exact ⟨held, visible?_eq_some_iff.mp shown⟩
  · refine ⟨value, Shows.own ?_⟩
    exact (Table.find?_insert store.values _ _ value).trans (if_pos rfl)

theorem target?_furnished_iff {text : String} :
    (store.furnished theme target value).target? theme text = some target ↔
      Path.ofReference? text = some target ∧ ¬ target.SpellsMagnitude := by
  rw [target?_eq_some_iff, ofReference?_eq_some_iff]
  constructor
  · rintro ⟨shaped, noMagnitude, spelled, _⟩
    rw [spellsMagnitude_iff spelled, noMagnitude]
    exact ⟨⟨shaped, spelled⟩, Bool.false_ne_true⟩
  · rintro ⟨⟨shaped, spelled⟩, noMagnitude⟩
    rw [spellsMagnitude_iff spelled, Bool.not_eq_true] at noMagnitude
    exact ⟨shaped, noMagnitude, spelled, fun _ => exists_shows_furnished store theme target value⟩

theorem wouldFollow_iff {path : Path} :
    WouldFollow store theme target value path ↔
      path ∈ store.referrers target theme ∧ ¬ target.SpellsMagnitude := by
  have listed : path ∈ store.referrers target theme ↔ _ := refersTo_iff
  rw [listed]
  simp only [WouldFollow, target?_furnished_iff, visible?_eq_some_iff]
  constructor
  · rintro ⟨raw, text, shows, mentions, spelled, noMagnitude⟩
    exact ⟨⟨raw, shows, text, mentions, spelled⟩, noMagnitude⟩
  · rintro ⟨⟨raw, shows, text, mentions, spelled⟩, noMagnitude⟩
    exact ⟨raw, text, shows, mentions, spelled, noMagnitude⟩

/-- The referrers of a target stand in the order of the known paths, each once.  They are the
paths with a reference that is followed to the target once that has a value, if and only if
no reference is listed to a name that reads as a number or a dimension. -/
theorem referrers_would_follow_iff (store : Store) (theme : Theme) (target : Path)
    (value : Value) :
    (store.referrers target theme).Sublist (store.visiblePaths theme) ∧
      (store.referrers target theme).Nodup ∧
      (∀ path, WouldFollow store theme target value path ↔
        path ∈ store.referrers target theme ∧ ¬ target.SpellsMagnitude) ∧
      ((∀ path, path ∈ store.referrers target theme ↔
          WouldFollow store theme target value path) ↔
        (target.SpellsMagnitude → store.referrers target theme = [])) := by
  refine ⟨List.filter_sublist, (Store.nodup_visiblePaths store theme).filter _,
    fun path => wouldFollow_iff, ?_, ?_⟩
  · intro followed magnitude
    refine List.eq_nil_iff_forall_not_mem.mpr fun path listed => ?_
    exact (wouldFollow_iff.mp ((followed path).mp listed)).2 magnitude
  · intro empty path
    rw [wouldFollow_iff]
    refine ⟨fun listed => ⟨listed, fun magnitude => ?_⟩, fun both => both.1⟩
    rw [empty magnitude] at listed
    exact List.not_mem_nil listed

namespace Measured

abbrev inset : Path := .single "inset" (by decide)
abbrev eight : Path := .single "8px" (by decide)

def tokens : Store :=
  Store.empty.setAll [(inset, .alias "8px"), (eight, .null)] .light

end Measured

open Measured in
/-- A reference that stands for eight pixels is listed for the token of that name, although no
reference is ever followed there. -/
theorem referrers_list_magnitude :
    tokens.visible? eight .light = some .null ∧ inset ∈ tokens.referrers eight .light ∧
      tokens.target? .light "8px" = none ∧
      ¬ WouldFollow tokens .light eight .null inset := by
  have magnitude : eight.SpellsMagnitude := by decide
  refine ⟨rfl, by decide, by decide, ?_⟩
  intro follows
  exact (wouldFollow_iff.mp follows).2 magnitude

end DesignTokens
