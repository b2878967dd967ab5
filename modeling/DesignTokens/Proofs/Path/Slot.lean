import DesignTokens.Path.Slot
import DesignTokens.Proofs.Path.Reading

/-!
The places that component tokens have in the rules of their component, read off the segments
of a path from the left.  A slot divides the segments of its path and loses none of them but
the word of the default state.
-/

namespace DesignTokens

namespace Slot

/-- What may follow the name of a component, and the slot that it spells.  A state word in the
place of a variant is a state, and after a variant it is one only with a property behind it. -/
inductive Spells (component : String) : List String → Slot → Prop
  | plain (property) : Spells component [property] ⟨component, none, none, [property]⟩
  | state {word} (known : isState word = true) (first rest) :
      Spells component (word :: first :: rest) ⟨component, none, stateOf word, first :: rest⟩
  | variant {name first rest} (fresh : isState name = false)
      (last : isState first = true → rest = []) :
      Spells component (name :: first :: rest) ⟨component, some name, none, first :: rest⟩
  | both {name word} (fresh : isState name = false) (known : isState word = true) (first rest) :
      Spells component (name :: word :: first :: rest)
        ⟨component, some name, stateOf word, first :: rest⟩

variable {component : String} {rest : List String} {slot : Slot}

theorem Spells.component_eq (spells : Spells component rest slot) : slot.component = component := by
  cases spells <;> rfl

theorem Spells.variant_mem (spells : Spells component rest slot) :
    ∀ name ∈ slot.variant, name ∈ rest := by
  cases spells <;> simp

theorem Spells.exists_cons (spells : Spells component rest slot) :
    ∃ first more, rest = first :: more := by
  cases spells <;> exact ⟨_, _, rfl⟩

theorem exists_spells (component first : String) (rest : List String) :
    ∃ slot, Spells component (first :: rest) slot := by
  cases rest with
  | nil => exact ⟨_, .plain first⟩
  | cons second rest =>
      cases known : isState first with
      | true => exact ⟨_, .state known second rest⟩
      | false =>
          cases word : isState second with
          | false => exact ⟨_, .variant known fun clash => by simp [word] at clash⟩
          | true =>
              cases rest with
              | nil => exact ⟨_, .variant known fun _ => rfl⟩
              | cons third rest => exact ⟨_, .both known word third rest⟩

theorem ofSegments_of_spells (spells : Spells component rest slot) :
    ofSegments component rest = some slot := by
  cases spells with
  | plain => rfl
  | state known => rw [ofSegments, if_pos known]
  | @variant name first rest fresh last =>
      have alone : (isState first && !rest.isEmpty) = false := by
        cases word : isState first with
        | false => rfl
        | true => simp [last word]
      rw [ofSegments, if_neg (by simp [fresh]), if_neg (by simp [alone])]
  | both fresh known => simp [ofSegments, fresh, known]

theorem spells_of_ofSegments (read : ofSegments component rest = some slot) :
    Spells component rest slot := by
  unfold ofSegments at read
  split at read
  · cases read
  · obtain rfl := Option.some.inj read
    exact .plain _
  · rename_i name first rest
    by_cases known : isState name = true
    · rw [if_pos known] at read
      obtain rfl := Option.some.inj read
      exact .state known first rest
    · have fresh := Bool.not_eq_true _ ▸ known
      rw [if_neg known] at read
      by_cases both : (isState first && !rest.isEmpty) = true
      · rw [if_pos both] at read
        obtain rfl := Option.some.inj read
        cases rest with
        | nil => simp at both
        | cons second rest => exact .both fresh (Bool.and_eq_true_iff.mp both).1 second rest
      · rw [if_neg both] at read
        obtain rfl := Option.some.inj read
        refine .variant fresh fun word => ?_
        simpa [word] using both

structure Place where
  variant : Option String
  state : Option String
deriving DecidableEq, Repr

def place (slot : Slot) : Place :=
  ⟨slot.variant, slot.state⟩

end Slot

namespace Path

variable {path : Path} {slot : Slot}

def Occupies (path : Path) (slot : Slot) : Prop :=
  ∃ rest, path.segments = "component" :: slot.component :: rest ∧
    Slot.Spells slot.component rest slot

theorem tier_eq_component_iff : path.tier = .component ↔ path.head = "component" := by
  constructor
  · intro tier
    rw [Path.tier, Option.getD_eq_iff] at tier
    rcases tier with found | ⟨_, other⟩
    · obtain ⟨before, after, heads, _⟩ := List.lookup_eq_some_iff.mp found
      have listed : (path.head, Tier.component) ∈ tierHeads := heads ▸ by simp
      simpa [tierHeads] using listed
    · cases other
  · intro head
    rw [Path.tier, head]
    rfl

theorem head_of_segments {first : String} {rest : List String}
    (segments : path.segments = first :: rest) : path.head = first := by
  simp [head, segments]

theorem slot?_eq_some_iff : path.slot? = some slot ↔ path.Occupies slot := by
  unfold slot?
  constructor
  · intro read
    split at read
    · rename_i tier
      split at read
      · rename_i first component rest segments
        have spells := Slot.spells_of_ofSegments read
        have named := tier_eq_component_iff.mp tier
        rw [head_of_segments segments] at named
        obtain rfl := spells.component_eq
        exact ⟨rest, named ▸ segments, spells⟩
      · cases read
    · cases read
  · rintro ⟨rest, segments, spells⟩
    rw [if_pos (tier_eq_component_iff.mpr (head_of_segments segments)), segments]
    exact Slot.ofSegments_of_spells spells

theorem Occupies.isSegment_variant (occupies : path.Occupies slot) :
    ∀ name ∈ slot.variant, isSegment name = true := by
  obtain ⟨rest, segments, spells⟩ := occupies
  intro name given
  refine path.valid name ?_
  rw [segments]
  exact List.mem_cons_of_mem _ (List.mem_cons_of_mem _ (spells.variant_mem name given))

/-- Every path with a segment below a component belongs to that component. -/
theorem exists_occupies_iff {component : String} :
    (∃ slot, path.Occupies slot ∧ slot.component = component) ↔
      ∃ first rest, path.segments = "component" :: component :: first :: rest := by
  constructor
  · rintro ⟨slot, ⟨rest, segments, spells⟩, rfl⟩
    obtain ⟨first, more, rfl⟩ := spells.exists_cons
    exact ⟨first, more, segments⟩
  · rintro ⟨first, rest, segments⟩
    obtain ⟨slot, spells⟩ := Slot.exists_spells component first rest
    obtain rfl := spells.component_eq
    exact ⟨slot, ⟨_, segments, spells⟩, rfl⟩

end Path

/-! ### Segments divided by a slot -/

namespace Slot

def stateWords : List String := ["default", "hover", "active", "focus", "disabled"]

theorem isState_iff {word : String} : isState word = true ↔ word ∈ stateWords := by
  simp [isState, stateWords, selectorStates]

inductive Tells : Option String → List String → Prop
  | named {word} (known : word ∈ selectorStates) : Tells (some word) [word]
  | silent : Tells none []
  | spoken : Tells none ["default"]

theorem tells_stateOf {word : String} (known : isState word = true) :
    Tells (stateOf word) [word] := by
  unfold stateOf
  by_cases listed : word ∈ selectorStates
  · simp only [List.contains_iff_mem, listed, if_true]
    exact .named listed
  · simp only [List.contains_iff_mem, listed, if_false]
    have last : word = "default" := by simpa [isState, listed] using known
    subst word
    exact .spoken

def lead (slot : Slot) : List String :=
  "component" :: slot.component :: slot.variant.toList

structure Divides (slot : Slot) (segments : List String) : Prop where
  property_ne_nil : slot.property ≠ []
  variant_not_mem : ∀ name ∈ slot.variant, name ∉ stateWords
  segments_eq : ∃ words, Tells slot.state words ∧
    segments = slot.lead ++ words ++ slot.property ∧
    (words = [] → ∀ word rest, slot.property = word :: rest → word ∈ stateWords → rest = [])

theorem not_mem_stateWords {name : String} (fresh : isState name = false) :
    name ∉ stateWords := by
  intro listed
  rw [isState_iff.mpr listed] at fresh
  cases fresh

variable {component : String} {rest : List String} {slot : Slot}

theorem Spells.divides (spells : Spells component rest slot) :
    slot.Divides ("component" :: component :: rest) := by
  cases spells with
  | plain property =>
      refine ⟨by simp, by simp, [], .silent, rfl, ?_⟩
      intro _ word rest same _
      exact (List.cons.inj same).2.symm
  | state known first rest =>
      exact ⟨by simp, by simp, _, tells_stateOf known, rfl, by simp⟩
  | variant fresh last =>
      refine ⟨by simp, ?_, [], .silent, rfl, ?_⟩
      · intro name given
        obtain rfl := Option.some.inj given
        exact not_mem_stateWords fresh
      · intro _ word rest same listed
        obtain ⟨rfl, rfl⟩ := List.cons.inj same
        exact last (isState_iff.mpr listed)
  | both fresh known first rest =>
      refine ⟨by simp, ?_, _, tells_stateOf known, rfl, by simp⟩
      intro name given
      obtain rfl := Option.some.inj given
      exact not_mem_stateWords fresh

/-- The second list is the first one with the word of the default state somewhere in it. -/
def AddsDefault (segments longer : List String) : Prop :=
  ∃ before after, segments = before ++ after ∧ longer = before ++ "default" :: after

theorem addsDefault_of_silent (slot : Slot) :
    AddsDefault (slot.lead ++ [] ++ slot.property) (slot.lead ++ ["default"] ++ slot.property) := by
  refine ⟨slot.lead, slot.property, ?_, ?_⟩
  · rw [List.append_nil]
  · rw [List.append_assoc, List.singleton_append]

/-- The segments of a slot are known up to the word of the default state. -/
theorem Divides.eq_or_addsDefault {segments others : List String} (first : slot.Divides segments)
    (second : slot.Divides others) :
    segments = others ∨ AddsDefault segments others ∨ AddsDefault others segments := by
  obtain ⟨_, _, words, told, rfl, _⟩ := first
  obtain ⟨_, _, more, again, rfl, _⟩ := second
  generalize slot.state = state at told again
  cases told with
  | named =>
      cases again
      exact Or.inl rfl
  | silent =>
      cases again with
      | silent => exact Or.inl rfl
      | spoken => exact Or.inr (Or.inl slot.addsDefault_of_silent)
  | spoken =>
      cases again with
      | silent => exact Or.inr (Or.inr slot.addsDefault_of_silent)
      | spoken => exact Or.inl rfl

end Slot

namespace Path

variable {path : Path} {slot : Slot}

theorem Occupies.divides (occupies : path.Occupies slot) : slot.Divides path.segments := by
  obtain ⟨rest, segments, spells⟩ := occupies
  rw [segments]
  exact spells.divides

theorem exists_slot?_iff :
    (∃ slot, path.slot? = some slot) ↔
      path.segments.head? = some "component" ∧ 3 ≤ path.segments.length := by
  simp only [slot?_eq_some_iff]
  constructor
  · rintro ⟨slot, occupies⟩
    obtain ⟨first, rest, segments⟩ := exists_occupies_iff.mp ⟨slot, occupies, rfl⟩
    simp [segments]
  · rintro ⟨head, long⟩
    match segments : path.segments with
    | [] | [_] | [_, _] => simp [segments] at long
    | lead :: component :: first :: rest =>
        obtain rfl : lead = "component" := by simpa [segments] using head
        obtain ⟨slot, occupies, _⟩ := exists_occupies_iff.mpr ⟨first, rest, segments⟩
        exact ⟨slot, occupies⟩

end Path

/-- A slot is read of every path below a component, and it divides the segments of the path.
Paths with one slot differ by the word of the default state at most. -/
theorem slot?_lossless (path : Path) :
    ((∃ slot, path.slot? = some slot) ↔
      path.segments.head? = some "component" ∧ 3 ≤ path.segments.length) ∧
    ∀ slot, path.slot? = some slot → slot.Divides path.segments ∧
      ∀ other : Path, other.slot? = some slot →
        path = other ∨ Slot.AddsDefault path.segments other.segments ∨
          Slot.AddsDefault other.segments path.segments := by
  refine ⟨Path.exists_slot?_iff, ?_⟩
  intro slot read
  have divided := (Path.slot?_eq_some_iff.mp read).divides
  refine ⟨divided, ?_⟩
  intro other again
  rcases divided.eq_or_addsDefault (Path.slot?_eq_some_iff.mp again).divides with same | added
  · exact Or.inl (Path.eq_of_segments same)
  · exact Or.inr added

theorem slot?_lossless_button :
    let spoken : Path := ⟨["component", "button", "primary", "default", "border", "hover"],
      by decide, by decide⟩
    let silent : Path := ⟨["component", "button", "primary", "border", "hover"],
      by decide, by decide⟩
    let slot : Slot := ⟨"button", some "primary", none, ["border", "hover"]⟩
    spoken.slot? = some slot ∧ silent.slot? = some slot ∧ slot.Divides spoken.segments ∧
      Slot.AddsDefault silent.segments spoken.segments := by
  intro spoken silent slot
  have first : spoken.slot? = some slot := by decide
  have second : silent.slot? = some slot := by decide
  obtain ⟨divided, others⟩ := (slot?_lossless spoken).2 slot first
  refine ⟨first, second, divided, ?_⟩
  rcases others silent second with same | shorter | longer
  · exact absurd same (by decide)
  · obtain ⟨before, after, short, long⟩ := shorter
    have lengths := congrArg List.length short
    have more := congrArg List.length long
    simp [spoken, silent] at lengths more
    omega
  · exact longer

end DesignTokens
