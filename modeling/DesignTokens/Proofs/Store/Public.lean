import DesignTokens.Path.Tier
import DesignTokens.Proofs.Store.Shelves
import DesignTokens.Proofs.TokenSystem.Frame

/-!
The public part of a store.  Two stores with the same public part show the same at every
public path, in the same order, whatever private tokens each of them holds.
-/

namespace DesignTokens

namespace Store

structure SamePublic (first second : Store) : Prop where
  items : ∀ theme, (first.items theme).filter (!·.1.isPrivate) =
    (second.items theme).filter (!·.1.isPrivate)
  metadata : ∀ path, path.isPrivate = false →
    first.metadata.find? path = second.metadata.find? path

def Sealed (store : Store) : Prop :=
  ∀ theme path needed, path.isPrivate = false → DependsOn store theme path needed →
    needed.isPrivate = false

theorem visiblePaths_auto_filter (store : Store) :
    (store.visiblePaths .auto).filter (!·.isPrivate) =
      (store.paths .auto).filter (!·.isPrivate) ++
        ((store.paths .light).filter (!·.isPrivate)).filter
          (· ∉ (store.paths .auto).filter (!·.isPrivate)) := by
  have shadowed : ∀ path : Path, (!path.isPrivate && decide (path ∉ store.paths .auto)) =
      (decide (path ∉ (store.paths .auto).filter (!·.isPrivate)) && !path.isPrivate) := by
    intro path
    cases hidden : path.isPrivate <;> simp [hidden]
  rw [visiblePaths, if_pos rfl]
  simp only [List.filter_append, List.filter_filter, shadowed]

namespace SamePublic

variable {first second : Store} {theme : Theme} {path : Path}

theorem paths (same : first.SamePublic second) (theme : Theme) :
    (first.paths theme).filter (!·.isPrivate) = (second.paths theme).filter (!·.isPrivate) := by
  unfold Store.paths
  rw [List.filter_map, List.filter_map]
  exact congrArg (List.map Prod.fst) (same.items theme)

theorem visiblePaths (same : first.SamePublic second) (theme : Theme) :
    (first.visiblePaths theme).filter (!·.isPrivate) =
      (second.visiblePaths theme).filter (!·.isPrivate) := by
  cases theme with
  | light => exact same.paths .light
  | dark => exact same.paths .dark
  | auto =>
      rw [visiblePaths_auto_filter, visiblePaths_auto_filter, same.paths .auto, same.paths .light]

theorem get? (same : first.SamePublic second) (shown : path.isPrivate = false) (theme : Theme) :
    first.get? path theme = second.get? path theme := by
  have listed : ∀ {store : Store} {value : Value}, store.get? path theme = some value ↔
      (path, value) ∈ (store.items theme).filter (!·.1.isPrivate) := by
    intro store value
    rw [List.mem_filter, mem_items_iff]
    simp [shown]
  refine Option.ext fun value => ?_
  rw [listed, listed, same.items theme]

theorem visible? (same : first.SamePublic second) (shown : path.isPrivate = false)
    (theme : Theme) : first.visible? path theme = second.visible? path theme :=
  visible?_congr fun owner _ => same.get? shown owner

theorem agreeFrom (same : first.SamePublic second) (isolated : first.Sealed)
    (shown : path.isPrivate = false) (theme : Theme) :
    AgreeFrom first theme second theme path :=
  fun needed depends => same.visible? (isolated theme path needed shown depends) theme

/-- What a public path depends on is read off the public part, so both stores are sealed or
neither is. -/
theorem isolated (same : first.SamePublic second) (isolated : first.Sealed) : second.Sealed := by
  intro theme path needed shown depends
  have traced : DependsOn first theme path needed := by
    induction depends with
    | refl => exact .refl
    | tail _ refers ih =>
        obtain ⟨raw, visible, mentions⟩ := refersTo_iff.mp refers
        rw [← same.visible? (isolated theme path _ shown ih)] at visible
        exact ih.tail (refersTo_iff.mpr ⟨raw, visible, mentions⟩)
  exact isolated theme path needed shown traced

/-- A private token can be written and leaves the public part as it was. -/
theorem set (store : Store) (hidden : path.isPrivate = true) (theme : Theme) (value : Value) :
    store.SamePublic (store.set path theme value) := by
  have kept : ∀ entries : Entries Path Value,
      List.filter (!·.1.isPrivate) (entries.insert path value) =
        entries.filter (!·.1.isPrivate) := by
    intro entries
    induction entries with
    | nil => simp [Entries.insert, hidden]
    | cons entry rest ih =>
        obtain ⟨other, old⟩ := entry
        by_cases same : other = path
        · subst same
          simp [Entries.insert, hidden]
        · simp [Entries.insert, same, List.filter_cons, ih]
  refine ⟨fun other => ?_, fun _ _ => rfl⟩
  rw [items_set]
  split
  · exact (kept _).symm
  · rfl

end SamePublic

theorem sealed_of_targets {store : Store}
    (each : ∀ raw ∈ store.values.entries.map Prod.snd, ∀ text ∈ raw.targets, ∀ target,
      Path.ofReference? text = some target → target.isPrivate = false) : store.Sealed := by
  intro theme path needed shown depends
  induction depends with
  | refl => exact shown
  | tail _ refers _ =>
      obtain ⟨raw, visible, text, mentions, spelled⟩ := refersTo_iff.mp refers
      exact each raw (mem_values_of_shows (visible?_eq_some_iff.mp visible)) text mentions _ spelled

end Store

end DesignTokens
