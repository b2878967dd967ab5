import DesignTokens.Value.Basic

/-!
Replacing the references of a value asks for nothing but the references that it
holds.  Computations that agree on these agree on the whole value.
-/

namespace DesignTokens

namespace Value

mutual

def references : Value → List (String × Option Transform)
  | .alias target => [(target, none)]
  | .reference target transform => [(target, transform)]
  | .array items => referencesOfItems items
  | .object entries => referencesOfEntries entries
  | _ => []

def referencesOfItems : List Value → List (String × Option Transform)
  | [] => []
  | item :: items => references item ++ referencesOfItems items

def referencesOfEntries : List (String × Value) → List (String × Option Transform)
  | [] => []
  | (_, value) :: entries => references value ++ referencesOfEntries entries

end

mutual

theorem targets_eq_references : ∀ value : Value, value.targets = value.references.map Prod.fst
  | .string _ | .number _ | .boolean _ | .null | .color _ | .dimension .. | .typography _
  | .shadow _ | .alias _ | .reference .. => by simp [targets, references]
  | .array items => by simpa [targets, references] using targetsOfItems_eq_references items
  | .object entries => by
      simpa [targets, references] using targetsOfEntries_eq_references entries

theorem targetsOfItems_eq_references : ∀ items,
    targetsOfItems items = (referencesOfItems items).map Prod.fst
  | [] => rfl
  | item :: items => by
      rw [targetsOfItems, referencesOfItems, List.map_append, targets_eq_references item,
        targetsOfItems_eq_references items]

theorem targetsOfEntries_eq_references : ∀ entries,
    targetsOfEntries entries = (referencesOfEntries entries).map Prod.fst
  | [] => rfl
  | (key, value) :: entries => by
      rw [targetsOfEntries, referencesOfEntries, List.map_append, targets_eq_references value,
        targetsOfEntries_eq_references entries]

end

theorem mem_targets_of_mem_references {value : Value} {text : String}
    {transform : Option Transform} (member : (text, transform) ∈ value.references) :
    text ∈ value.targets := by
  rw [targets_eq_references]
  exact List.mem_map.mpr ⟨_, member, rfl⟩

theorem exists_mem_references_of_mem_targets {value : Value} {text : String}
    (member : text ∈ value.targets) : ∃ transform, (text, transform) ∈ value.references := by
  rw [targets_eq_references] at member
  rcases List.mem_map.mp member with ⟨⟨_, transform⟩, found, rfl⟩
  exact ⟨transform, found⟩

inductive Holds : Value → Nat → String → Option Transform → Prop
  | alias {text} : Holds (.alias text) 0 text none
  | reference {text transform} : Holds (.reference text transform) 0 text transform
  | item {item items depth text transform} : item ∈ items → Holds item depth text transform →
      Holds (.array items) (depth + 1) text transform
  | entry {key value entries depth text transform} : (key, value) ∈ entries →
      Holds value depth text transform → Holds (.object entries) (depth + 1) text transform

theorem mem_referencesOfItems_iff {items : List Value} {reference : String × Option Transform} :
    reference ∈ referencesOfItems items ↔ ∃ item ∈ items, reference ∈ item.references := by
  induction items with
  | nil => simp [referencesOfItems]
  | cons item items ih => simp [referencesOfItems, ih]

theorem mem_referencesOfEntries_iff {entries : List (String × Value)}
    {reference : String × Option Transform} :
    reference ∈ referencesOfEntries entries ↔
      ∃ key value, (key, value) ∈ entries ∧ reference ∈ value.references := by
  induction entries with
  | nil => simp [referencesOfEntries]
  | cons entry entries ih =>
      obtain ⟨key, value⟩ := entry
      rw [referencesOfEntries, List.mem_append, ih]
      constructor
      · rintro (here | ⟨other, held, listed, there⟩)
        · exact ⟨key, value, List.mem_cons_self, here⟩
        · exact ⟨other, held, List.mem_cons_of_mem _ listed, there⟩
      · rintro ⟨other, held, listed, there⟩
        rcases List.mem_cons.mp listed with same | later
        · obtain ⟨_, rfl⟩ := Prod.mk.inj same
          exact Or.inl there
        · exact Or.inr ⟨other, held, later, there⟩

theorem Holds.mem_references {value : Value} {depth : Nat} {text : String}
    {transform : Option Transform} (holds : value.Holds depth text transform) :
    (text, transform) ∈ value.references := by
  induction holds with
  | «alias» => simp [references]
  | reference => simp [references]
  | item listed _ ih =>
      rw [references]
      exact mem_referencesOfItems_iff.mpr ⟨_, listed, ih⟩
  | entry listed _ ih =>
      rw [references]
      exact mem_referencesOfEntries_iff.mpr ⟨_, _, listed, ih⟩

end Value

structure MonadRelation (m n : Type → Type) [Monad m] [Monad n] where
  relates : {α : Type} → m α → n α → Prop
  pure : ∀ {α : Type} (value : α), relates (Pure.pure value) (Pure.pure value)
  bind : ∀ {α β : Type} {first : m α} {second : n α} {next : α → m β} {after : α → n β},
    relates first second → (∀ value, relates (next value) (after value)) →
      relates (first >>= next) (second >>= after)

namespace Value

variable {m n : Type → Type} [Monad m] [Monad n]

mutual

theorem replaceReferences_relates (relation : MonadRelation m n)
    {replace : Nat → String → Option Transform → m Value}
    {other : Nat → String → Option Transform → n Value} (start : Nat) :
    ∀ value : Value,
      (∀ depth text transform, value.Holds depth text transform →
        relation.relates (replace (start + depth) text transform)
          (other (start + depth) text transform)) →
      relation.relates (value.replaceReferences replace start)
        (value.replaceReferences other start)
  | .string _, _ | .number _, _ | .boolean _, _ | .null, _ | .color _, _ | .dimension .., _
  | .typography _, _ | .shadow _, _ => by
      simpa only [replaceReferences] using relation.pure _
  | .alias target, each => by
      simpa only [replaceReferences, Nat.add_zero] using each 0 target none Holds.alias
  | .reference target transform, each => by
      simpa only [replaceReferences, Nat.add_zero] using each 0 target transform Holds.reference
  | .array items, each => by
      simp only [replaceReferences]
      refine relation.bind (replaceInItems_relates relation (start + 1) items ?_)
        fun results => relation.pure _
      intro item listed depth text transform holds
      rw [Nat.add_right_comm]
      exact each (depth + 1) text transform (Holds.item listed holds)
  | .object entries, each => by
      simp only [replaceReferences]
      refine relation.bind (replaceInEntries_relates relation (start + 1) entries ?_)
        fun results => relation.pure _
      intro key value listed depth text transform holds
      rw [Nat.add_right_comm]
      exact each (depth + 1) text transform (Holds.entry listed holds)

theorem replaceInItems_relates (relation : MonadRelation m n)
    {replace : Nat → String → Option Transform → m Value}
    {other : Nat → String → Option Transform → n Value} (start : Nat) :
    ∀ items : List Value,
      (∀ item ∈ items, ∀ depth text transform, item.Holds depth text transform →
        relation.relates (replace (start + depth) text transform)
          (other (start + depth) text transform)) →
      relation.relates (replaceInItems replace start items) (replaceInItems other start items)
  | [], _ => by simpa only [replaceInItems] using relation.pure _
  | item :: items, each => by
      rw [List.forall_mem_cons] at each
      simp only [replaceInItems]
      refine relation.bind (replaceReferences_relates relation start item each.1) fun first => ?_
      refine relation.bind (replaceInItems_relates relation start items each.2) fun rest => ?_
      exact relation.pure _

theorem replaceInEntries_relates (relation : MonadRelation m n)
    {replace : Nat → String → Option Transform → m Value}
    {other : Nat → String → Option Transform → n Value} (start : Nat) :
    ∀ entries : List (String × Value),
      (∀ key value, (key, value) ∈ entries → ∀ depth text transform,
        value.Holds depth text transform →
          relation.relates (replace (start + depth) text transform)
            (other (start + depth) text transform)) →
      relation.relates (replaceInEntries replace start entries)
        (replaceInEntries other start entries)
  | [], _ => by simpa only [replaceInEntries] using relation.pure _
  | (key, value) :: entries, each => by
      have here := each key value List.mem_cons_self
      have later := fun other held listed => each other held (List.mem_cons_of_mem _ listed)
      simp only [replaceInEntries]
      refine relation.bind (replaceReferences_relates relation start value here) fun first => ?_
      refine relation.bind (replaceInEntries_relates relation start entries later) fun rest => ?_
      exact relation.pure _

end

theorem replaceReferences_congr {replace other : Nat → String → Option Transform → m Value}
    (value : Value)
    (same : ∀ depth text transform, value.Holds depth text transform →
      replace depth text transform = other depth text transform) :
    value.replaceReferences replace 0 = value.replaceReferences other 0 := by
  refine replaceReferences_relates
    ⟨fun first second => first = second, fun _ => rfl,
      fun first next => by rw [first, funext next]⟩ 0 value ?_
  intro depth text transform holds
  rw [Nat.zero_add]
  exact same depth text transform holds

end Value

end DesignTokens
