import DesignTokens.Proofs.Computation
import DesignTokens.Proofs.Path.Reading
import DesignTokens.Proofs.Table
import DesignTokens.TokenSet.Basic

/-!
What becomes of raw data that is flattened.  Its leaves are listed with all the names that lead
to them: each is a token, and there are no others.  Within a leaf, whatever is not read as a
whole is kept under its names.
-/

namespace DesignTokens

theorem mapError_eq_ok_iff {α fault other : Type} {result : Except fault α} {turn : fault → other}
    {value : α} : result.mapError turn = .ok value ↔ result = .ok value := by
  cases result <;> simp [Except.mapError]

theorem exists_of_mem_of_forall₂ {α β : Type} {relates : α → β → Prop} {firsts : List α}
    {seconds : List β} (pairs : List.Forall₂ relates firsts seconds) {first : α}
    (member : first ∈ firsts) : ∃ second ∈ seconds, relates first second := by
  induction pairs with
  | nil => simp at member
  | @cons head other _ _ here _ ih =>
      rcases List.mem_cons.mp member with rfl | later
      · exact ⟨other, List.mem_cons_self, here⟩
      · obtain ⟨second, found, related⟩ := ih later
        exact ⟨second, List.mem_cons_of_mem _ found, related⟩

theorem Scalar.readText_eq_ok_iff {key : Scalar} {name : String} :
    key.readText = .ok name ↔ key.isWritable = true ∧ key.asText = name := by
  rw [Scalar.readText, Data.readText, mapError_eq_ok_iff, Data.written]
  change (if key.isWritable = true then Except.ok key.asText else _) = _ ↔ _
  by_cases short : key.isWritable = true <;> simp [short]

def Scalar.hasDollar (key : Scalar) : Bool :=
  key.asText.toList.head? == some '$'

theorem not_hasDollar_of_isSegment {name : String} (valid : isSegment name = true) :
    (Scalar.text name).hasDollar = false := by
  rw [Scalar.hasDollar, beq_eq_false_iff_ne]
  intro dollar
  rcases isSegmentChar_or_lineBreak valid (List.mem_of_head? dollar) with allowed | lineBreak
  · exact absurd allowed (by decide)
  · exact absurd lineBreak (by decide)

namespace Data

def isGroup : Data → Bool
  | .mapping entries => !entries.any fun entry => entry.1.hasDollar
  | _ => false

mutual

def leaves (names : List String) : Data → List (List String × Data)
  | .mapping entries =>
      if isGroup (.mapping entries) then leavesOf names entries else [(names, .mapping entries)]
  | leaf => [(names, leaf)]

def leavesOf (names : List String) : List (Scalar × Data) → List (List String × Data)
  | [] => []
  | (key, node) :: rest => leaves (names ++ [key.asText]) node ++ leavesOf names rest

end

mutual

def Legible : Data → Prop
  | .mapping entries =>
      if isGroup (.mapping entries) then LegibleOf entries else hasDollarKey entries = .ok true
  | _ => True

def LegibleOf : List (Scalar × Data) → Prop
  | [] => True
  | (key, node) :: rest => key.isWritable = true ∧ Legible node ∧ LegibleOf rest

end

theorem legibleOf_iff {entries : List (Scalar × Data)} :
    LegibleOf entries ↔ ∀ entry ∈ entries, entry.1.isWritable = true ∧ entry.2.Legible := by
  induction entries with
  | nil => simp [LegibleOf]
  | cons entry rest ih => rw [LegibleOf, ih, List.forall_mem_cons, and_assoc]

inductive Below (passes : List (Scalar × Data) → Prop) :
    List (Scalar × Data) → List String → Data → Prop where
  | here {entries key node} (member : (key, node) ∈ entries) :
      Below passes entries [key.asText] node
  | deeper {entries key inner names node} (member : (key, Data.mapping inner) ∈ entries)
      (through : passes inner) (below : Below passes inner names node) :
      Below passes entries (key.asText :: names) node

def IsGroup (entries : List (Scalar × Data)) : Prop :=
  (Data.mapping entries).isGroup = true

theorem leaves_of_leaf (names : List String) {node : Data} (leaf : node.isGroup = false) :
    node.leaves names = [(names, node)] := by
  cases node with
  | mapping entries => rw [leaves, leaf, if_neg Bool.false_ne_true]
  | _ => rw [leaves]; simp

theorem leaves_of_group (names : List String) {entries : List (Scalar × Data)}
    (group : IsGroup entries) : (Data.mapping entries).leaves names = leavesOf names entries := by
  rw [leaves]
  exact if_pos group

theorem legible_of_group {entries : List (Scalar × Data)} (group : IsGroup entries) :
    (Data.mapping entries).Legible ↔ LegibleOf entries := by
  rw [Legible]
  exact iff_of_eq (if_pos group)

theorem leavesOf_eq_flatMap (names : List String) (entries : List (Scalar × Data)) :
    leavesOf names entries =
      entries.flatMap fun entry => entry.2.leaves (names ++ [entry.1.asText]) := by
  induction entries with
  | nil => rfl
  | cons entry rest ih => rw [leavesOf, ih, List.flatMap_cons]

mutual

theorem leaves_append (front names : List String) : ∀ node : Data,
    node.leaves (front ++ names) =
      (node.leaves names).map fun leaf => (front ++ leaf.1, leaf.2)
  | .scalar _ => by rw [leaves, leaves] <;> simp
  | .list _ => by rw [leaves, leaves] <;> simp
  | .mapping entries => by
      cases group : (Data.mapping entries).isGroup with
      | true => rw [leaves_of_group _ group, leaves_of_group _ group, leavesOf_append]
      | false =>
          rw [leaves_of_leaf _ group, leaves_of_leaf _ group, List.map_cons, List.map_nil]

theorem leavesOf_append (front names : List String) : ∀ entries : List (Scalar × Data),
    leavesOf (front ++ names) entries =
      (leavesOf names entries).map fun leaf => (front ++ leaf.1, leaf.2)
  | [] => rfl
  | (key, node) :: rest => by
      rw [leavesOf, leavesOf, List.map_append, List.append_assoc, leaves_append,
        leavesOf_append front names rest]

end

theorem leaves_singleton (name : String) (node : Data) :
    node.leaves [name] = (node.leaves []).map fun leaf => (name :: leaf.1, leaf.2) :=
  leaves_append [name] [] node

theorem isGroup_iff {node : Data} :
    node.isGroup = true ↔ ∃ entries, node = .mapping entries ∧ IsGroup entries := by
  cases node with
  | mapping entries => simp [IsGroup]
  | _ => simp [isGroup]

theorem Below.mono {passes : List (Scalar × Data) → Prop} {entries wider : List (Scalar × Data)}
    {names : List String} {node : Data} (within : entries ⊆ wider)
    (below : Below passes entries names node) : Below passes wider names node := by
  cases below with
  | here member => exact .here (within member)
  | deeper member through below => exact .deeper (within member) through below

theorem below_of_mem_leavesOf {leaf : Data} :
    ∀ (entries : List (Scalar × Data)) (names : List String), (names, leaf) ∈ leavesOf [] entries →
      Below IsGroup entries names leaf ∧ leaf.isGroup = false
  | [], _, member => by simp [leavesOf] at member
  | (key, node) :: rest, names, member => by
      rw [leavesOf, List.mem_append, List.nil_append] at member
      rcases member with first | later
      · cases group : node.isGroup with
        | false =>
            rw [leaves_of_leaf _ group, List.mem_singleton] at first
            obtain ⟨rfl, rfl⟩ := Prod.mk.inj first
            exact ⟨.here List.mem_cons_self, group⟩
        | true =>
            obtain ⟨inner, rfl, group⟩ := isGroup_iff.mp group
            rw [leaves_singleton, leaves_of_group [] group] at first
            obtain ⟨⟨chain, found⟩, member, same⟩ := List.mem_map.mp first
            obtain ⟨rfl, rfl⟩ := Prod.mk.inj same
            have inside := below_of_mem_leavesOf inner chain member
            exact ⟨.deeper List.mem_cons_self group inside.1, inside.2⟩
      · have inside := below_of_mem_leavesOf rest names later
        exact ⟨inside.1.mono (List.subset_cons_self _ _), inside.2⟩

theorem mem_leavesOf_of_below {entries : List (Scalar × Data)} {names : List String} {leaf : Data}
    (below : Below IsGroup entries names leaf) (single : leaf.isGroup = false) :
    (names, leaf) ∈ leavesOf [] entries := by
  induction below with
  | @here entries key node member =>
      rw [leavesOf_eq_flatMap, List.mem_flatMap]
      exact ⟨(key, node), member, by rw [leaves_of_leaf _ single]; simp⟩
  | @deeper entries key inner names node member group below ih =>
      rw [leavesOf_eq_flatMap, List.mem_flatMap]
      refine ⟨(key, .mapping inner), member, ?_⟩
      rw [List.nil_append, leaves_singleton, leaves_of_group [] group]
      exact List.mem_map.mpr ⟨(names, node), ih single, rfl⟩

/-- The leaves are what stands below groups alone, and is no group. -/
theorem mem_leavesOf_iff {entries : List (Scalar × Data)} {names : List String} {leaf : Data} :
    (names, leaf) ∈ leavesOf [] entries ↔ Below IsGroup entries names leaf ∧ leaf.isGroup = false :=
  ⟨below_of_mem_leavesOf entries names, fun ⟨below, single⟩ => mem_leavesOf_of_below below single⟩

end Data

namespace TokenSet

theorem hasDollarKey_of_ok {entries : List (Scalar × Data)} {found : Bool}
    (read : hasDollarKey entries = .ok found) : found = !(Data.mapping entries).isGroup := by
  rw [Data.isGroup, Bool.not_not]
  induction entries with
  | nil => exact (Except.ok.inj read).symm
  | cons entry rest ih =>
      obtain ⟨key, node⟩ := entry
      rw [hasDollarKey, bind_eq_ok_iff] at read
      obtain ⟨name, keyed, read⟩ := read
      obtain ⟨_, rfl⟩ := Scalar.readText_eq_ok_iff.mp keyed
      rw [List.any_cons]
      split at read
      · rename_i dollar
        obtain rfl := Except.ok.inj read
        simp [Scalar.hasDollar, dollar]
      · rename_i plain
        rw [ih read, Scalar.hasDollar, (Bool.not_eq_true _).mp plain, Bool.false_or]

theorem hasDollarKey_of_writable {entries : List (Scalar × Data)}
    (short : ∀ entry ∈ entries, entry.1.isWritable = true) :
    hasDollarKey entries = .ok (!(Data.mapping entries).isGroup) := by
  rw [Data.isGroup, Bool.not_not]
  induction entries with
  | nil => rfl
  | cons entry rest ih =>
      obtain ⟨key, node⟩ := entry
      have keyed := Scalar.readText_eq_ok_iff.mpr ⟨short (key, node) List.mem_cons_self, rfl⟩
      rw [hasDollarKey, keyed, List.any_cons]
      change (if _ then _ else _) = _
      split
      · rename_i dollar
        rw [Scalar.hasDollar, dollar]
        rfl
      · rename_i plain
        rw [Scalar.hasDollar, (Bool.not_eq_true _).mp plain, Bool.false_or]
        exact ih fun other member => short other (List.mem_cons_of_mem _ member)

theorem legible_of_writable {entries : List (Scalar × Data)}
    (short : ∀ entry ∈ entries, entry.1.isWritable = true)
    (single : (Data.mapping entries).isGroup = false) : (Data.mapping entries).Legible := by
  rw [Data.Legible, single, if_neg Bool.false_ne_true, hasDollarKey_of_writable short, single]
  rfl

theorem mapM_single {α β : Type} (f : α → Except Error β) (value : α) :
    [value].mapM f = f value >>= fun first => return [first] := by
  rw [List.mapM_cons, List.mapM_nil]
  rfl

mutual

/-- Flattening reads the leaves, one after the other, if the keys can be written. -/
theorem flatten_of_legible (names : List String) : ∀ entries : List (Scalar × Data),
    Data.LegibleOf entries →
    flatten names entries = (Data.leavesOf names entries).mapM fun leaf => token leaf.1 leaf.2
  | [], _ => by
      rw [flatten, Data.leavesOf]
      rfl
  | (key, node) :: rest, legible => by
      rw [Data.LegibleOf] at legible
      have keyed := Scalar.readText_eq_ok_iff.mpr ⟨legible.1, rfl⟩
      rw [flatten, Data.leavesOf, List.mapM_append, keyed,
        ← flattenNode_of_legible (names ++ [key.asText]) node legible.2.1,
        ← flatten_of_legible names rest legible.2.2]
      rfl

theorem flattenNode_of_legible (names : List String) : ∀ node : Data, node.Legible →
    flattenNode names node = (node.leaves names).mapM fun leaf => token leaf.1 leaf.2
  | .scalar value, _ => by
      rw [Data.leaves_of_leaf names rfl, mapM_single, flattenNode.eq_def]
  | .list items, _ => by
      rw [Data.leaves_of_leaf names rfl, mapM_single, flattenNode.eq_def]
  | .mapping entries, legible => by
      rw [flattenNode]
      cases group : (Data.mapping entries).isGroup with
      | true =>
          rw [Data.legible_of_group group] at legible
          rw [Data.leaves_of_group names group, ← flatten_of_legible names entries legible,
            hasDollarKey_of_writable fun entry member =>
              (Data.legibleOf_iff.mp legible entry member).1, group]
          simp [bind, Except.bind]
      | false =>
          rw [Data.Legible, group, if_neg Bool.false_ne_true] at legible
          rw [Data.leaves_of_leaf names group, mapM_single, legible]
          simp [bind, Except.bind]

end

mutual

theorem legibleOf_of_flatten {names : List String} {tokens : List (Path × Value)} :
    ∀ entries : List (Scalar × Data), flatten names entries = .ok tokens → Data.LegibleOf entries
  | [], _ => by
      rw [Data.LegibleOf]
      trivial
  | (key, node) :: rest, read => by
      rw [flatten, bind_eq_ok_iff] at read
      obtain ⟨name, keyed, read⟩ := read
      obtain ⟨first, here, read⟩ := bind_eq_ok_iff.mp read
      obtain ⟨others, later, _⟩ := bind_eq_ok_iff.mp read
      rw [Data.LegibleOf]
      exact ⟨(Scalar.readText_eq_ok_iff.mp keyed).1, legible_of_flattenNode node here,
        legibleOf_of_flatten rest later⟩

theorem legible_of_flattenNode {names : List String} {tokens : List (Path × Value)} :
    ∀ node : Data, flattenNode names node = .ok tokens → node.Legible
  | .scalar _, _ => by
      rw [Data.Legible]
      · trivial
      · simp
  | .list _, _ => by
      rw [Data.Legible]
      · trivial
      · simp
  | .mapping entries, read => by
      rw [flattenNode, bind_eq_ok_iff] at read
      obtain ⟨found, looked, read⟩ := read
      rw [Data.Legible]
      split
      · rename_i group
        rw [hasDollarKey_of_ok looked, group] at read
        exact legibleOf_of_flatten entries read
      · rename_i single
        rw [looked, hasDollarKey_of_ok looked, (Bool.not_eq_true _).mp single]
        rfl

end

structure Stands (leaf : List String × Data) (token : Path × Value) : Prop where
  path : Path.join leaf.1 = .ok token.1
  value : Value.ofData leaf.2 = .ok token.2

theorem token_eq_ok_iff {segments : List String} {leaf : Data} {result : Path × Value} :
    token segments leaf = .ok result ↔
      Path.join segments = .ok result.1 ∧ Value.ofData leaf = .ok result.2 := by
  unfold token
  simp only [bind_eq_ok_iff, mapError_eq_ok_iff]
  constructor
  · rintro ⟨path, read, value, valued, same⟩
    obtain rfl := Except.ok.inj same
    exact ⟨read, valued⟩
  · rintro ⟨read, valued⟩
    exact ⟨result.1, read, result.2, valued, rfl⟩

theorem stands_iff {leaf : List String × Data} {result : Path × Value} :
    token leaf.1 leaf.2 = .ok result ↔ Stands leaf result :=
  token_eq_ok_iff.trans ⟨fun ⟨path, value⟩ => ⟨path, value⟩, fun ⟨path, value⟩ => ⟨path, value⟩⟩

/-- Data is flattened to the tokens that its leaves stand for, in order. -/
theorem flatten_ok_iff {names : List String} {entries : List (Scalar × Data)}
    {tokens : List (Path × Value)} :
    flatten names entries = .ok tokens ↔
      Data.LegibleOf entries ∧ List.Forall₂ Stands (Data.leavesOf names entries) tokens := by
  constructor
  · intro read
    have legible := legibleOf_of_flatten entries read
    rw [flatten_of_legible names entries legible, mapM_eq_ok_iff] at read
    exact ⟨legible, read.imp fun _ _ => stands_iff.mp⟩
  · rintro ⟨legible, stand⟩
    rw [flatten_of_legible names entries legible, mapM_eq_ok_iff]
    exact stand.imp fun _ _ => stands_iff.mpr

end TokenSet

namespace Value

def at? : List String → Value → Option Value
  | [], value => some value
  | name :: names, .object entries => (Entries.find? entries name).bind (at? names)
  | _ :: _, _ => none

theorem ofData_eq_ok_iff {data : Data} {value : Value} :
    ofData data = .ok value ↔ coerce data = .ok value := by
  unfold ofData
  split
  · rename_i misfit
    rw [misfit, faultShowing]
    cases data.written Data.shown <;> simp
  · exact Iff.rfl

def forms : List String :=
  ["$ref", "$color", "$typography", "$shadow", "$string"]

structure EntryWise (entries : List (Scalar × Data)) : Prop where
  formless : ∀ form ∈ forms, Data.entry? entries form = none
  distinct : (entries.map fun entry => entry.1.asText).Nodup

theorem ofDollarKey?_of_entryWise {entries : List (Scalar × Data)} (each : EntryWise entries) :
    ofDollarKey? entries = none := by
  have none := each.formless
  simp only [forms, List.forall_mem_cons] at none
  simp [ofDollarKey?, none]

theorem coerceEntries_ok {entries : List (Scalar × Data)} {results : List (String × Value)}
    (read : coerceEntries entries = .ok results) :
    List.Forall₂ (fun entry result => entry.1.asText = result.1 ∧ coerce entry.2 = .ok result.2)
      entries results := by
  induction entries generalizing results with
  | nil =>
      rw [coerceEntries] at read
      obtain rfl := Except.ok.inj read
      exact .nil
  | cons entry rest ih =>
      obtain ⟨key, data⟩ := entry
      rw [coerceEntries, bind_eq_ok_iff] at read
      obtain ⟨name, keyed, read⟩ := read
      obtain ⟨value, valued, read⟩ := bind_eq_ok_iff.mp read
      obtain ⟨others, later, same⟩ := bind_eq_ok_iff.mp read
      obtain rfl := Except.ok.inj same
      exact .cons ⟨(Scalar.readText_eq_ok_iff.mp keyed).2, valued⟩ (ih later)

theorem coerce_entry {entries : List (Scalar × Data)} (each : EntryWise entries) {value : Value}
    (read : coerce (.mapping entries) = .ok value) {key : Scalar} {node : Data}
    (member : (key, node) ∈ entries) :
    ∃ held results, value = .object results ∧ Entries.find? results key.asText = some held ∧
      coerce node = .ok held := by
  rw [coerce, ofDollarKey?_of_entryWise each] at read
  obtain ⟨results, readEntries, same⟩ := bind_eq_ok_iff.mp read
  obtain rfl := Except.ok.inj same
  have pairs := coerceEntries_ok readEntries
  have names : entries.map (fun entry => entry.1.asText) = Entries.keys results := by
    rw [Entries.keys, ← List.forall₂_eq_eq_eq, List.forall₂_map_left_iff,
      List.forall₂_map_right_iff]
    exact pairs.imp fun _ _ related => related.1
  obtain ⟨⟨name, held⟩, found, rfl, coerced⟩ := exists_of_mem_of_forall₂ pairs member
  have distinct : (Entries.keys results).Nodup := names.subst each.distinct
  refine ⟨held, Entries.collapse results, rfl, ?_, coerced⟩
  rw [Entries.collapse, Entries.insertAll_eq_append [] results distinct, List.nil_append]
  exact Entries.find?_eq_some_of_mem distinct found

/-- What is read entry by entry is kept, under the names that led to it. -/
theorem at?_of_below {entries : List (Scalar × Data)} {names : List String} {node : Data}
    (below : Data.Below EntryWise entries names node) (each : EntryWise entries) {value : Value}
    (read : coerce (.mapping entries) = .ok value) :
    ∃ held, value.at? names = some held ∧ coerce node = .ok held := by
  induction below generalizing value with
  | here member =>
      obtain ⟨held, results, rfl, found, coerced⟩ := coerce_entry each read member
      exact ⟨held, by simp [at?, found], coerced⟩
  | deeper member through _ ih =>
      obtain ⟨held, results, rfl, found, coerced⟩ := coerce_entry each read member
      obtain ⟨last, kept, coerced⟩ := ih through coerced
      exact ⟨last, by simp [at?, found, kept], coerced⟩

end Value

open TokenSet in
/-- Nothing that flattening reads is lost.  What stands below groups alone, and is no group, is a
token under the names that lead to it; there are no other tokens; and a token that is read from a
mapping entry by entry keeps all that stands below such mappings in it. -/
theorem flatten_complete {entries : List (Scalar × Data)} {tokens : List (Path × Value)}
    (read : flatten [] entries = .ok tokens) :
    (∀ names leaf, Data.Below Data.IsGroup entries names leaf → leaf.isGroup = false →
      ∃ token ∈ tokens, Stands (names, leaf) token) ∧
    (∀ token ∈ tokens, ∃ names leaf, Data.Below Data.IsGroup entries names leaf ∧
      leaf.isGroup = false ∧ Stands (names, leaf) token) ∧
    ∀ names inner, Data.Below Data.IsGroup entries names (.mapping inner) →
      (Data.mapping inner).isGroup = false → Value.EntryWise inner →
      ∃ token ∈ tokens, Path.join names = .ok token.1 ∧
        ∀ rest node, Data.Below Value.EntryWise inner rest node →
          ∃ held, token.2.at? rest = some held ∧ Value.ofData node = .ok held := by
  have stand := (flatten_ok_iff.mp read).2
  have each : ∀ names leaf, Data.Below Data.IsGroup entries names leaf → leaf.isGroup = false →
      ∃ token ∈ tokens, Stands (names, leaf) token := fun names leaf below single =>
    exists_of_mem_of_forall₂ stand (Data.mem_leavesOf_iff.mpr ⟨below, single⟩)
  refine ⟨each, ?_, ?_⟩
  · intro token member
    have flipped : List.Forall₂ (flip Stands) tokens (Data.leavesOf [] entries) := stand.flip
    obtain ⟨⟨names, leaf⟩, found, stands⟩ := exists_of_mem_of_forall₂ flipped member
    obtain ⟨below, single⟩ := Data.mem_leavesOf_iff.mp found
    exact ⟨names, leaf, below, single, stands⟩
  · intro names inner below single entryWise
    obtain ⟨token, member, spelled, valued⟩ :=
      each names (.mapping inner) below single
    refine ⟨token, member, spelled, fun rest node inside => ?_⟩
    obtain ⟨held, kept, coerced⟩ :=
      Value.at?_of_below inside entryWise (Value.ofData_eq_ok_iff.mp valued)
    exact ⟨held, kept, Value.ofData_eq_ok_iff.mpr coerced⟩

namespace Annotated

def panel : List (Scalar × Data) :=
  [(.text "$note", .boolean true), (.text "size", .mapping [(.text "width", .null)])]

def entries : List (Scalar × Data) :=
  [(.text "space", .mapping [(.text "inset", .list [])]), (.text "panel", .mapping panel)]

def tokens : List (Path × Value) :=
  [(⟨["space", "inset"], by decide, by decide⟩, .array []),
    (⟨["panel"], by decide, by decide⟩,
      .object [("$note", .boolean true), ("size", .object [("width", .null)])])]

theorem flatten_entries : TokenSet.flatten [] entries = .ok tokens := by
  rfl

theorem space_mem : (Scalar.text "space", Data.mapping [(.text "inset", .list [])]) ∈ entries :=
  List.mem_cons_self

theorem panel_mem : (Scalar.text "panel", Data.mapping panel) ∈ entries :=
  List.mem_cons_of_mem _ List.mem_cons_self

theorem size_mem : (Scalar.text "size", Data.mapping [(.text "width", .null)]) ∈ panel :=
  List.mem_cons_of_mem _ List.mem_cons_self

end Annotated

open Annotated in
theorem flatten_complete_annotated :
    (∃ token ∈ tokens, TokenSet.Stands (["space", "inset"], .list []) token) ∧
      ∃ token ∈ tokens, Path.join ["panel"] = .ok token.1 ∧
        token.2.at? ["size", "width"] = some .null := by
  rcases flatten_complete flatten_entries with ⟨each, _, within⟩
  have whole : Value.EntryWise panel := ⟨by decide, by decide⟩
  have inner : Value.EntryWise [(.text "width", .null)] := ⟨by decide, by decide⟩
  rcases within ["panel"] panel (.here panel_mem) rfl whole with
    ⟨token, member, spelled, kept⟩
  refine ⟨each ["space", "inset"] (.list []) (.deeper space_mem rfl
    (.here List.mem_cons_self)) rfl, token, member, spelled, ?_⟩
  rcases kept ["size", "width"] .null (.deeper size_mem inner (.here List.mem_cons_self)) with
    ⟨held, found, read⟩
  obtain rfl : Value.null = held := Except.ok.inj read
  exact found

open Annotated in
/-- A mapping with a dollar key is one token.  What stands in it has no path of its own, though no
key that leads there has a dollar. -/
theorem flatten_annotated_single :
    TokenSet.flatten [] entries = .ok tokens ∧
      Data.Below (fun _ => True) entries ["panel", "size", "width"] .null ∧
      (∀ name ∈ ["panel", "size", "width"], name.toList.head? ≠ some '$') ∧
      ∀ token ∈ tokens, Path.join ["panel", "size", "width"] ≠ .ok token.1 := by
  refine ⟨flatten_entries, .deeper panel_mem trivial (.deeper size_mem trivial
    (.here List.mem_cons_self)), by decide, ?_⟩
  let inner : Path := ⟨["panel", "size", "width"], by decide, by decide⟩
  have spelled : Path.join ["panel", "size", "width"] = .ok inner := rfl
  have apart : ∀ token ∈ tokens, token.1 ≠ inner := by
    simp only [tokens, List.forall_mem_cons]
    decide
  intro token member same
  exact apart token member (Except.ok.inj (same.symm.trans spelled))

end DesignTokens
