import Mathlib.Data.List.Induction
import Mathlib.Data.List.Perm.Basic
import DesignTokens.Proofs.Path.Grammar
import DesignTokens.Proofs.TokenSet.Leaves

/-!
Leaves that are put into a document one after the other, each under its own chain of names.
Where no chain leads on from the end of another, flattening gives all of them back, and in the
order of the document.
-/

namespace DesignTokens

namespace Data

def groupOf : Option Data → List (Scalar × Data)
  | some (.mapping entries) => entries
  | _ => []

def plant (leaf : Data) : List String → List (Scalar × Data) → List (Scalar × Data)
  | [], entries => entries
  | [name], entries => Entries.insert entries (.text name) leaf
  | name :: next :: names, entries =>
      Entries.insert entries (.text name)
        (.mapping (plant leaf (next :: names) (groupOf (Data.entry? entries name))))

def nest (pairs : List (List String × Data)) : List (Scalar × Data) :=
  pairs.foldl (fun entries pair => plant pair.2 pair.1 entries) []

def IsLeaf : Data → Prop
  | .mapping entries =>
      (∀ entry ∈ entries, entry.1.isWritable = true) ∧ ∃ entry ∈ entries, entry.1.hasDollar = true
  | _ => True

def under (name : String) (pairs : List (List String × Data)) : List (List String × Data) :=
  pairs.filterMap fun pair =>
    match pair.1 with
    | [] => none
    | head :: names => if head = name then some (names, pair.2) else none

def Apart (names others : List String) : Prop :=
  ¬ names <+: others ∧ ¬ others <+: names

/-- Leaves that can stand in one document: each has names, none of them with a dollar, and no
leaf stands below another. -/
structure Sown (pairs : List (List String × Data)) : Prop where
  rooted : ∀ pair ∈ pairs, pair.1 ≠ []
  plain : ∀ pair ∈ pairs, ∀ name ∈ pair.1, (Scalar.text name).hasDollar = false
  single : ∀ pair ∈ pairs, pair.2.IsLeaf
  apart : pairs.Pairwise fun first second => Apart first.1 second.1

inductive Grown : List (List String × Data) → Option Data → Prop where
  | none : Grown [] none
  | leaf {leaf : Data} : Grown [([], leaf)] (some leaf)
  | group {pairs : List (List String × Data)} (filled : pairs ≠ [])
      (rooted : ∀ pair ∈ pairs, pair.1 ≠ []) : Grown pairs (some (.mapping (nest pairs)))

inductive Ahead (pairs : List (List String × Data)) : List String → List String → Prop where
  | part {shared names others : List String} {name other : String}
      {early late : List (List String × Data)} (split : pairs = early ++ late)
      (known : ∃ pair ∈ early, shared ++ [name] <+: pair.1)
      (new : ∀ pair ∈ early, ¬ shared ++ [other] <+: pair.1) :
      Ahead pairs (shared ++ name :: names) (shared ++ other :: others)

variable {pairs : List (List String × Data)} {name : String} {names : List String} {leaf : Data}

theorem IsLeaf.isGroup (single : leaf.IsLeaf) : leaf.isGroup = false := by
  cases leaf with
  | mapping entries => simpa [Data.isGroup, List.any_eq_true] using single.2
  | _ => rfl

theorem IsLeaf.legible (single : leaf.IsLeaf) : leaf.Legible := by
  cases leaf with
  | mapping entries => exact TokenSet.legible_of_writable single.1 single.isGroup
  | _ =>
      rw [Legible]
      · trivial
      · simp

theorem mem_under_iff : (names, leaf) ∈ under name pairs ↔ (name :: names, leaf) ∈ pairs := by
  rw [under, List.mem_filterMap]
  constructor
  · rintro ⟨⟨chain, held⟩, member, found⟩
    cases chain with
    | nil => simp at found
    | cons head rest =>
        simp only [Option.ite_none_right_eq_some, Option.some.injEq, Prod.mk.injEq] at found
        obtain ⟨rfl, rfl, rfl⟩ := found
        exact member
  · intro member
    exact ⟨(name :: names, leaf), member, by simp⟩

theorem Sown.of_under (sown : Sown pairs) (rooted : ∀ pair ∈ under name pairs, pair.1 ≠ []) :
    Sown (under name pairs) where
  rooted := rooted
  plain := fun ⟨names, leaf⟩ member other inside =>
    sown.plain (name :: names, leaf) (mem_under_iff.mp member) other (List.mem_cons_of_mem _ inside)
  single := fun ⟨names, leaf⟩ member =>
    sown.single (name :: names, leaf) (mem_under_iff.mp member)
  apart := by
    refine sown.apart.filterMap _ ?_
    rintro ⟨first, _⟩ ⟨second, _⟩ apart ⟨names, _⟩ found ⟨others, _⟩ again
    cases first <;> cases second <;> simp_all [Apart, List.cons_prefix_cons]

theorem nest_concat (pairs : List (List String × Data)) (names : List String) (leaf : Data) :
    nest (pairs ++ [(names, leaf)]) = plant leaf names (nest pairs) := by
  rw [nest, List.foldl_append]
  rfl

theorem exists_nest_concat (pairs : List (List String × Data)) (name : String)
    (names : List String) (leaf : Data) :
    ∃ node, nest (pairs ++ [(name :: names, leaf)]) =
      Entries.insert (nest pairs) (.text name) node := by
  rw [nest_concat]
  cases names with
  | nil => exact ⟨leaf, rfl⟩
  | cons next names => exact ⟨_, rfl⟩

theorem under_concat (name head : String) (names : List String) (leaf : Data) :
    under name (pairs ++ [(head :: names, leaf)]) =
      under name pairs ++ if head = name then [(names, leaf)] else [] := by
  rw [under, List.filterMap_append]
  by_cases same : head = name <;> simp [under, same]

theorem Sown.concat_apart {pair : List String × Data} (sown : Sown (pairs ++ [pair]))
    {other : List String × Data} (member : other ∈ pairs) : Apart other.1 pair.1 :=
  (List.pairwise_append.mp sown.apart).2.2 other member pair List.mem_cons_self

theorem Sown.of_concat {pair : List String × Data} (sown : Sown (pairs ++ [pair])) :
    Sown pairs where
  rooted := fun other member => sown.rooted other (List.mem_append_left _ member)
  plain := fun other member => sown.plain other (List.mem_append_left _ member)
  single := fun other member => sown.single other (List.mem_append_left _ member)
  apart := (List.pairwise_append.mp sown.apart).1

@[elab_as_elim]
theorem Sown.induction {motive : List (List String × Data) → Prop} (empty : motive [])
    (concat : ∀ {pairs head names leaf}, Sown (pairs ++ [(head :: names, leaf)]) → motive pairs →
      motive (pairs ++ [(head :: names, leaf)])) (sown : Sown pairs) : motive pairs := by
  induction pairs using List.reverseRecOn with
  | nil => exact empty
  | append_singleton pairs pair ih =>
      obtain ⟨chain, leaf⟩ := pair
      obtain ⟨head, names, rfl⟩ := List.exists_cons_of_ne_nil
        (sown.rooted (chain, leaf) (List.mem_append_right _ List.mem_cons_self))
      exact concat sown (ih sown.of_concat)

theorem entry?_insert (entries : List (Scalar × Data)) (head name : String) (node : Data) :
    entry? (Entries.insert entries (.text head) node) name =
      if head = name then some node else entry? entries name := by
  rw [Data.entry?, Entries.find?_insert]
  by_cases same : head = name <;> simp [same, entry?]

theorem Sown.under_eq_nil (sown : Sown (pairs ++ [([name], leaf)])) : under name pairs = [] := by
  refine List.eq_nil_iff_forall_not_mem.mpr fun ⟨names, held⟩ member => ?_
  exact (sown.concat_apart (mem_under_iff.mp member)).2 (List.prefix_append [name] names)

theorem Sown.under_rooted {next : String} (sown : Sown (pairs ++ [(name :: next :: names, leaf)])) :
    ∀ pair ∈ under name pairs, pair.1 ≠ [] := by
  rintro ⟨chain, held⟩ member rfl
  exact (sown.concat_apart (mem_under_iff.mp member)).1 (List.prefix_append [name] (next :: names))

theorem Grown.groupOf_eq {found : Option Data} (grown : Grown pairs found)
    (rooted : ∀ pair ∈ pairs, pair.1 ≠ []) : groupOf found = nest pairs := by
  cases grown with
  | none => rfl
  | leaf => exact absurd rfl (rooted _ List.mem_cons_self)
  | group => rfl

/-- Under a name the document has what grows from the leaves with that name. -/
theorem Sown.grown (sown : Sown pairs) (name : String) :
    Grown (under name pairs) (Data.entry? (nest pairs) name) := by
  refine sown.induction .none fun {pairs head names leaf} sown before => ?_
  rw [under_concat]
  by_cases same : head = name
  · subst same
    rw [if_pos rfl, nest_concat]
    -- A chain that ends here finds nothing under its name, and one that goes on finds no leaf.
    cases names with
    | nil =>
        rw [sown.under_eq_nil, plant, entry?_insert, if_pos rfl]
        exact .leaf
    | cons next names =>
        have rooted := sown.under_rooted
        rw [plant, entry?_insert, if_pos rfl, before.groupOf_eq rooted, ← nest_concat]
        refine .group (by simp) fun other member => ?_
        rcases List.mem_append.mp member with old | added
        · exact rooted other old
        · simp [List.mem_singleton.mp added]
  · obtain ⟨node, planted⟩ := exists_nest_concat pairs head names leaf
    rw [if_neg same, List.append_nil, planted, entry?_insert, if_neg same]
    exact before

theorem keys_nest_concat (head : String) (names : List String) (leaf : Data) :
    Entries.keys (nest (pairs ++ [(head :: names, leaf)])) =
      if Scalar.text head ∈ Entries.keys (nest pairs) then Entries.keys (nest pairs)
      else Entries.keys (nest pairs) ++ [.text head] := by
  obtain ⟨node, planted⟩ := exists_nest_concat pairs head names leaf
  rw [planted, Entries.keys_insert]

theorem Sown.nodup_keys (sown : Sown pairs) : (Entries.keys (nest pairs)).Nodup := by
  refine sown.induction List.nodup_nil fun {pairs head names leaf} _ before => ?_
  obtain ⟨node, planted⟩ := exists_nest_concat pairs head names leaf
  rw [planted]
  exact Entries.nodup_keys_insert _ _ _ before

theorem Sown.mem_keys_iff (sown : Sown pairs) {key : Scalar} :
    key ∈ Entries.keys (nest pairs) ↔ ∃ name, key = .text name ∧ under name pairs ≠ [] := by
  refine sown.induction (by simp [nest, Entries.keys, under])
    fun {pairs head names leaf} _ before => ?_
  obtain ⟨node, planted⟩ := exists_nest_concat pairs head names leaf
  rw [planted, Entries.mem_keys_insert_iff, before]
  simp only [under_concat]
  constructor
  · rintro (rfl | ⟨name, rfl, filled⟩)
    · exact ⟨head, rfl, by simp⟩
    · exact ⟨name, rfl, by simp [filled]⟩
  · rintro ⟨name, rfl, filled⟩
    by_cases same : head = name
    · exact Or.inl (by rw [same])
    · exact Or.inr ⟨name, rfl, by simpa [same] using filled⟩

theorem Ahead.append {one other : List String} (ahead : Ahead pairs one other)
    (more : List (List String × Data)) : Ahead (pairs ++ more) one other := by
  cases ahead with
  | part split known new => exact .part (by rw [split, List.append_assoc]) known new

theorem Ahead.cons {one other : List String} (ahead : Ahead (under name pairs) one other) :
    Ahead pairs (name :: one) (name :: other) := by
  cases ahead with
  | @part shared names others first second early late split known new =>
      obtain ⟨front, back, rfl, rfl, _⟩ := List.filterMap_eq_append_iff.mp split
      change Ahead _ ((name :: shared) ++ first :: names) ((name :: shared) ++ second :: others)
      refine .part rfl ?_ ?_
      · obtain ⟨⟨chain, leaf⟩, member, leads⟩ := known
        exact ⟨(name :: chain, leaf), mem_under_iff.mp member,
          List.cons_prefix_cons.mpr ⟨rfl, leads⟩⟩
      · rintro ⟨chain, leaf⟩ member leads
        cases chain with
        | nil => simp at leads
        | cons head rest =>
            obtain ⟨rfl, onwards⟩ := List.cons_prefix_cons.mp leads
            exact new (rest, leaf) (mem_under_iff.mpr member) onwards

theorem Ahead.ne {one other : List String} (ahead : Ahead pairs one other) : one ≠ other := by
  cases ahead with
  | @part shared names others first second early late split known new =>
      intro same
      obtain ⟨rfl, _⟩ := List.cons.inj (List.append_cancel_left same)
      obtain ⟨pair, member, leads⟩ := known
      exact new pair member leads

/-- The keys of the document stand in it as the first names arrived. -/
theorem Sown.ahead_keys (sown : Sown pairs) :
    (Entries.keys (nest pairs)).Pairwise fun first second => ∀ rest others,
      Ahead pairs (first.asText :: rest) (second.asText :: others) := by
  refine sown.induction .nil fun {pairs head names leaf} sown before => ?_
  have kept : (Entries.keys (nest pairs)).Pairwise fun first second => ∀ rest others,
      Ahead (pairs ++ [(head :: names, leaf)]) (first.asText :: rest) (second.asText :: others) :=
    before.imp fun ahead rest others => (ahead rest others).append _
  rw [keys_nest_concat]
  split
  · exact kept
  · rename_i fresh
    refine List.pairwise_append.mpr ⟨kept, List.pairwise_singleton _ _, ?_⟩
    intro key member last new rest others
    obtain rfl := List.mem_singleton.mp new
    obtain ⟨name, rfl, filled⟩ := sown.of_concat.mem_keys_iff.mp member
    obtain ⟨⟨chain, held⟩, found⟩ := List.exists_mem_of_ne_nil _ filled
    change Ahead _ ([] ++ name :: rest) ([] ++ head :: others)
    refine .part rfl ⟨(name :: chain, held), mem_under_iff.mp found,
      List.prefix_append [name] chain⟩ ?_
    rintro ⟨chain, held⟩ earlier leads
    obtain ⟨tail, rfl⟩ := leads
    exact fresh (sown.of_concat.mem_keys_iff.mpr
      ⟨head, rfl, List.ne_nil_of_mem (mem_under_iff.mpr earlier)⟩)

/-- What the document has under a key grows from the leaves with the name of the key. -/
theorem Sown.grown_of_mem (sown : Sown pairs) {key : Scalar} {node : Data}
    (member : (key, node) ∈ nest pairs) :
    ∃ name, key = .text name ∧ Grown (under name pairs) (some node) := by
  obtain ⟨name, rfl, _⟩ := sown.mem_keys_iff.mp (List.mem_map.mpr ⟨_, member, rfl⟩)
  have found : entry? (nest pairs) name = some node :=
    Entries.find?_eq_some_of_mem sown.nodup_keys member
  exact ⟨name, rfl, found ▸ sown.grown name⟩

theorem Grown.of_some {node : Data} (grown : Grown pairs (some node)) :
    pairs = [([], node)] ∨
      pairs ≠ [] ∧ (∀ pair ∈ pairs, pair.1 ≠ []) ∧ node = .mapping (nest pairs) := by
  cases grown with
  | leaf => exact Or.inl rfl
  | group filled rooted => exact Or.inr ⟨filled, rooted, rfl⟩

theorem Sown.isGroup (sown : Sown pairs) : IsGroup (nest pairs) := by
  rw [IsGroup, Data.isGroup, Bool.not_eq_true', List.any_eq_false]
  rintro ⟨key, node⟩ member
  obtain ⟨name, rfl, filled⟩ := sown.mem_keys_iff.mp (List.mem_map.mpr ⟨_, member, rfl⟩)
  obtain ⟨⟨names, leaf⟩, found⟩ := List.exists_mem_of_ne_nil _ filled
  simpa using sown.plain _ (mem_under_iff.mp found) name List.mem_cons_self

/-- What holds of leaves that can stand in a document, if it holds of those further down, holds
of all. -/
@[elab_as_elim]
theorem Sown.descend {motive : List (List String × Data) → Prop}
    (step : ∀ {pairs}, Sown pairs → (∀ name, under name pairs ≠ [] → Sown (under name pairs) →
      motive (under name pairs)) → motive pairs) (sown : Sown pairs) : motive pairs := by
  obtain ⟨depth, bound⟩ : ∃ depth, ∀ pair ∈ pairs, pair.1.length ≤ depth :=
    ⟨(pairs.map Prod.fst).flatten.length, fun pair member =>
      (List.sublist_flatten_of_mem (List.mem_map_of_mem member)).length_le⟩
  -- The names that are left get fewer with each step down.
  induction depth generalizing pairs with
  | zero =>
      refine step sown fun name filled _ => ?_
      obtain ⟨⟨names, leaf⟩, member⟩ := List.exists_mem_of_ne_nil _ filled
      simpa using bound _ (mem_under_iff.mp member)
  | succ depth ih =>
      refine step sown fun name _ lower => ih lower fun ⟨names, leaf⟩ member => ?_
      simpa using bound _ (mem_under_iff.mp member)

theorem Sown.legible (sown : Sown pairs) : LegibleOf (nest pairs) := by
  refine sown.descend fun {pairs} sown lower => legibleOf_iff.mpr fun ⟨key, node⟩ member => ?_
  obtain ⟨name, rfl, grown⟩ := sown.grown_of_mem member
  refine ⟨rfl, ?_⟩
  rcases grown.of_some with only | ⟨filled, rooted, rfl⟩
  · exact (sown.single _ (mem_under_iff.mp (only ▸ List.mem_cons_self))).legible
  · have inner := sown.of_under rooted
    exact (legible_of_group inner.isGroup).mpr (lower name filled inner)

theorem Sown.leaves_of_mem (sown : Sown pairs) {key : Scalar} {node : Data}
    (member : (key, node) ∈ nest pairs) :
    ∃ name, key = .text name ∧
      (under name pairs = [([], node)] ∧ node.leaves [] = [([], node)] ∨
        under name pairs ≠ [] ∧ Sown (under name pairs) ∧
          node.leaves [] = leavesOf [] (nest (under name pairs))) := by
  obtain ⟨name, rfl, grown⟩ := sown.grown_of_mem member
  refine ⟨name, rfl, ?_⟩
  rcases grown.of_some with only | ⟨filled, rooted, rfl⟩
  · have single := sown.single _ (mem_under_iff.mp (only ▸ List.mem_cons_self))
    exact Or.inl ⟨only, leaves_of_leaf [] single.isGroup⟩
  · have inner := sown.of_under rooted
    exact Or.inr ⟨filled, inner, leaves_of_group [] inner.isGroup⟩

theorem mem_leaves_singleton_iff {node : Data} :
    (names, leaf) ∈ node.leaves [name] ↔
      ∃ rest, names = name :: rest ∧ (rest, leaf) ∈ node.leaves [] := by
  rw [leaves_singleton, List.mem_map]
  constructor
  · rintro ⟨⟨rest, held⟩, inside, same⟩
    obtain ⟨rfl, rfl⟩ := Prod.mk.inj same
    exact ⟨rest, rfl, inside⟩
  · rintro ⟨rest, rfl, inside⟩
    exact ⟨(rest, leaf), inside, rfl⟩

/-- The document has the leaves that were put into it, under their names, and no others. -/
theorem Sown.mem_leavesOf_iff (sown : Sown pairs) :
    ∀ names leaf, (names, leaf) ∈ leavesOf [] (nest pairs) ↔ (names, leaf) ∈ pairs := by
  refine sown.descend fun {pairs} sown lower names leaf => ?_
  have held : ∀ key node, (key, node) ∈ nest pairs → ∃ name, key = .text name ∧
      ∀ names leaf, (names, leaf) ∈ node.leaves [] ↔ (name :: names, leaf) ∈ pairs := by
    intro key node member
    simp only [← mem_under_iff]
    obtain ⟨name, rfl, ⟨only, leaves⟩ | ⟨filled, inner, leaves⟩⟩ := sown.leaves_of_mem member
    · exact ⟨name, rfl, by simp [only, leaves]⟩
    · exact ⟨name, rfl, leaves ▸ lower name filled inner⟩
  rw [leavesOf_eq_flatMap, List.mem_flatMap]
  constructor
  · rintro ⟨⟨key, node⟩, member, found⟩
    obtain ⟨name, rfl, same⟩ := held key node member
    obtain ⟨rest, rfl, inside⟩ := mem_leaves_singleton_iff.mp found
    exact (same rest leaf).mp inside
  · intro member
    obtain ⟨name, rest, rfl⟩ := List.exists_cons_of_ne_nil (sown.rooted _ member)
    have known : Scalar.text name ∈ Entries.keys (nest pairs) :=
      sown.mem_keys_iff.mpr ⟨name, rfl, List.ne_nil_of_mem (mem_under_iff.mpr member)⟩
    obtain ⟨⟨key, node⟩, entry, keyed⟩ := List.mem_map.mp known
    obtain ⟨other, rfl, same⟩ := held key node entry
    obtain rfl := Scalar.text.inj keyed
    exact ⟨_, entry, mem_leaves_singleton_iff.mpr ⟨rest, rfl, (same rest leaf).mpr member⟩⟩

/-- The leaves of the document stand in it as their names arrived. -/
theorem Sown.ahead (sown : Sown pairs) :
    (leavesOf [] (nest pairs)).Pairwise fun first second => Ahead pairs first.1 second.1 := by
  refine sown.descend fun {pairs} sown lower => ?_
  rw [leavesOf_eq_flatMap, List.pairwise_flatMap]
  constructor
  · rintro ⟨key, node⟩ member
    obtain ⟨name, rfl, ⟨_, leaves⟩ | ⟨filled, inner, leaves⟩⟩ := sown.leaves_of_mem member
    · rw [List.nil_append, leaves_singleton, leaves]
      exact List.pairwise_singleton _ _
    · rw [List.nil_append, leaves_singleton, leaves, List.pairwise_map]
      exact (lower name filled inner).imp Ahead.cons
  · refine (List.pairwise_map.mp sown.ahead_keys).imp ?_
    rintro ⟨first, node⟩ ⟨second, other⟩ ahead ⟨names, leaf⟩ found ⟨others, last⟩ again
    obtain ⟨rest, rfl, _⟩ := mem_leaves_singleton_iff.mp found
    obtain ⟨tail, rfl, _⟩ := mem_leaves_singleton_iff.mp again
    exact ahead rest tail

theorem Sown.perm (sown : Sown pairs) : (leavesOf [] (nest pairs)).Perm pairs := by
  have once : pairs.Nodup := by
    refine sown.apart.imp fun {first second} apart => ?_
    rintro rfl
    exact apart.1 List.prefix_rfl
  have listed : (leavesOf [] (nest pairs)).Nodup :=
    sown.ahead.imp fun ahead same => ahead.ne (congrArg Prod.fst same)
  exact (List.perm_ext_iff_of_nodup listed once).mpr fun ⟨names, leaf⟩ =>
    sown.mem_leavesOf_iff names leaf

end Data

open Data

structure Planting where
  path : Path
  leaf : Data
  value : Value
  read : ∃ raw, Path.parse raw = .ok path
  single : leaf.IsLeaf
  valued : Value.ofData leaf = .ok value

namespace Planting

def pair (planting : Planting) : List String × Data :=
  (planting.path.segments, planting.leaf)

def token (planting : Planting) : Path × Value :=
  (planting.path, planting.value)

theorem stands (planting : Planting) : TokenSet.Stands planting.pair planting.token := by
  obtain ⟨raw, read⟩ := planting.read
  exact ⟨Path.parse_dotted_of_parse read, planting.valued⟩

theorem sown {plantings : List Planting}
    (apart : plantings.Pairwise fun first second =>
      Apart first.path.segments second.path.segments) :
    Sown (plantings.map pair) where
  rooted := by
    simp only [List.forall_mem_map]
    exact fun planting _ => planting.path.nonempty
  plain := by
    simp only [List.forall_mem_map]
    exact fun planting _ name member => not_hasDollar_of_isSegment (planting.path.valid name member)
  single := by
    simp only [List.forall_mem_map]
    exact fun planting _ => planting.single
  apart := List.pairwise_map.mpr apart

end Planting

/-- Flattening undoes nesting.  Leaves that are put into a document under paths of which none
leads on from the end of another are read back, each once under its path and nothing else; where
two paths part, what was begun first comes first. -/
theorem flatten_nest {plantings : List Planting}
    (apart : plantings.Pairwise fun first second =>
      Apart first.path.segments second.path.segments) :
    ∃ tokens, TokenSet.flatten [] (nest (plantings.map Planting.pair)) = .ok tokens ∧
      tokens.Perm (plantings.map Planting.token) ∧ (tokens.map Prod.fst).Nodup ∧
      List.Forall₂ TokenSet.Stands (leavesOf [] (nest (plantings.map Planting.pair))) tokens ∧
      tokens.Pairwise fun first second =>
        Ahead (plantings.map Planting.pair) first.1.segments second.1.segments := by
  have sown := Planting.sown apart
  have placed : List.Forall₂ (fun leaf planting => leaf = planting.pair)
      (plantings.map Planting.pair) plantings := by
    rw [List.forall₂_map_left_iff, List.forall₂_same]
    exact fun _ _ => rfl
  -- The document lists the leaves in an order of its own, and the tokens come in that order.
  obtain ⟨order, found, same⟩ := List.perm_comp_forall₂ sown.perm placed
  have listed : leavesOf [] (nest (plantings.map Planting.pair)) = order.map Planting.pair := by
    rw [← List.forall₂_eq_eq_eq, List.forall₂_map_right_iff]
    exact found
  have stand : List.Forall₂ TokenSet.Stands (leavesOf [] (nest (plantings.map Planting.pair)))
      (order.map Planting.token) := by
    rw [listed, List.forall₂_map_left_iff, List.forall₂_map_right_iff, List.forall₂_same]
    exact fun planting _ => planting.stands
  have ahead : (order.map Planting.token).Pairwise fun first second =>
      Ahead (plantings.map Planting.pair) first.1.segments second.1.segments := by
    have inOrder := sown.ahead
    rw [listed, List.pairwise_map] at inOrder
    exact List.pairwise_map.mpr inOrder
  have once : ((order.map Planting.token).map Prod.fst).Nodup :=
    List.pairwise_map.mpr (ahead.imp fun ahead same => ahead.ne (congrArg Path.segments same))
  exact ⟨order.map Planting.token, TokenSet.flatten_ok_iff.mpr ⟨sown.legible, stand⟩,
    same.map Planting.token, once, stand, ahead⟩

namespace Palette

def link : Planting where
  path := ⟨["color", "link"], by decide, by decide⟩
  leaf := .mapping [(.text "$ref", .text "color.base"), (.text "transform", .null)]
  value := .reference "color.base" none
  read := ⟨"color.link", rfl⟩
  single := ⟨by decide, by decide⟩
  valued := rfl

def space : Planting where
  path := ⟨["space"], by decide, by decide⟩
  leaf := .list []
  value := .array []
  read := ⟨"space", rfl⟩
  single := trivial
  valued := rfl

def base : Planting where
  path := ⟨["color", "base"], by decide, by decide⟩
  leaf := .null
  value := .null
  read := ⟨"color.base", rfl⟩
  single := trivial
  valued := rfl

end Palette

open Palette in
theorem flatten_nest_palette :
    TokenSet.flatten [] (nest ([link, space, base].map Planting.pair)) =
        .ok [link.token, base.token, space.token] ∧
      [link.token, base.token, space.token].Pairwise fun first second =>
        Ahead ([link, space, base].map Planting.pair) first.1.segments second.1.segments := by
  have apart : [link, space, base].Pairwise fun first second =>
      Apart first.path.segments second.path.segments := by
    unfold Apart
    decide
  obtain ⟨tokens, read, _, _, _, ahead⟩ := flatten_nest apart
  have flat : TokenSet.flatten [] (nest ([link, space, base].map Planting.pair)) =
      .ok [link.token, base.token, space.token] := rfl
  obtain rfl : tokens = [link.token, base.token, space.token] :=
    Except.ok.inj (read.symm.trans flat)
  exact ⟨flat, ahead⟩

/-- A mapping with no keys at all is a value by itself, and is a group without tokens where it
stands in a document. -/
theorem flatten_nest_empty :
    Path.parse "a" = .ok ⟨["a"], by decide, by decide⟩ ∧
      Value.ofData (.mapping []) = .ok (.object []) ∧
      (∀ entry ∈ ([] : List (Scalar × Data)), entry.1.hasDollar = true) ∧
      TokenSet.flatten [] (nest [(["a"], .mapping [])]) = .ok [] :=
  ⟨rfl, rfl, by simp, rfl⟩

end DesignTokens
