import Mathlib.Logic.Relation
import DesignTokens.Proofs.Resolution.Reference
import DesignTokens.Proofs.Resolution.Replacement

/-!
What paths and stored values denote, by rules that know nothing of how values are
found or remembered.  A path with a meaning can never be reached from itself.  Walks
take stack frames for the references that they follow out of arrays and objects.
-/

namespace DesignTokens

open Relation

namespace Value

def isScalar : Value → Bool
  | .array _ => false
  | .object _ => false
  | value => !value.isReference

def applied (value : Value) (transform : Option Transform) (path : Option Path) :
    Except Error Value :=
  match transform with
  | none => .ok value
  | some transform => value.transformed transform path

def appliedAll (value : Value) : List (Option Transform) → Except Error Value
  | [] => .ok value
  | transform :: transforms => do (← value.appliedAll transforms).applied transform none

theorem applied_eq_ok_iff (value result : Value) (transform : Option Transform)
    (path other : Option Path) :
    value.applied transform path = .ok result ↔ value.applied transform other = .ok result := by
  cases transform with
  | none => rfl
  | some transform =>
      cases transform <;> cases value <;>
        simp [applied, transformed, calculate, adjustColor]

end Value

mutual

inductive Denotes (store : Store) (theme : Theme) : Path → Value → Prop
  | shown {path raw value} : Shows store theme path raw → Means store theme raw value →
      Denotes store theme path value

inductive Means (store : Store) (theme : Theme) : Value → Value → Prop
  | scalar {value} : value.isScalar = true → Means store theme value value
  | array {items results} : MeansEach store theme items results →
      Means store theme (.array items) (.array results)
  | object {entries results} : MeansEntries store theme entries results →
      Means store theme (.object entries) (.object results)
  | alias {text value} : Reads store theme text value → Means store theme (.alias text) value
  | reference {text transform operand value} : Reads store theme text operand →
      operand.applied transform none = .ok value →
      Means store theme (.reference text transform) value

inductive MeansEach (store : Store) (theme : Theme) : List Value → List Value → Prop
  | nil : MeansEach store theme [] []
  | cons {item result items results} : Means store theme item result →
      MeansEach store theme items results →
      MeansEach store theme (item :: items) (result :: results)

inductive MeansEntries (store : Store) (theme : Theme) :
    List (String × Value) → List (String × Value) → Prop
  | nil : MeansEntries store theme [] []
  | cons {key value result entries results} : Means store theme value result →
      MeansEntries store theme entries results →
      MeansEntries store theme ((key, value) :: entries) ((key, result) :: results)

inductive Reads (store : Store) (theme : Theme) : String → Value → Prop
  | literal {text value} : Inline store theme text → Value.ofLiteral text = value →
      Reads store theme text value
  | followed {text path value} : Points store theme text path → Denotes store theme path value →
      Reads store theme text value

end

/-- One path leads to another if its value holds a reference that is followed there. -/
def Follows (store : Store) (theme : Theme) (path next : Path) : Prop :=
  ∃ raw text, Shows store theme path raw ∧ text ∈ raw.targets ∧ Points store theme text next

abbrev Reaches (store : Store) (theme : Theme) : Path → Path → Prop :=
  ReflTransGen (Follows store theme)

def Cyclic (store : Store) (theme : Theme) (path : Path) : Prop :=
  TransGen (Follows store theme) path path

abbrev Grounded (store : Store) (theme : Theme) : Path → Prop :=
  Acc fun next path => Follows store theme path next

mutual

/-- A path with a meaning starts no endless walk: each step goes to a smaller derivation. -/
theorem Denotes.grounded {store : Store} {theme : Theme} {path : Path} {value : Value} :
    Denotes store theme path value → Grounded store theme path
  | .shown shows means => by
      refine Acc.intro path ?_
      rintro next ⟨held, text, found, member, points⟩
      rw [← shows.unique found] at member
      exact means.grounded text member next points

theorem Means.grounded {store : Store} {theme : Theme} {raw value : Value} :
    Means store theme raw value →
      ∀ text ∈ raw.targets, ∀ next, Points store theme text next → Grounded store theme next
  | .scalar simple => by
      cases raw <;> simp_all [Value.isScalar, Value.isReference, Value.targets]
  | .array each => by simpa only [Value.targets] using each.grounded
  | .object each => by simpa only [Value.targets] using each.grounded
  | .alias reads => by
      intro text member
      rw [Value.targets, List.mem_singleton] at member
      rw [member]
      exact reads.grounded
  | .reference reads _ => by
      intro text member
      rw [Value.targets, List.mem_singleton] at member
      rw [member]
      exact reads.grounded

theorem MeansEach.grounded {store : Store} {theme : Theme} {items results : List Value} :
    MeansEach store theme items results →
      ∀ text ∈ Value.targetsOfItems items, ∀ next, Points store theme text next →
        Grounded store theme next
  | .nil => by simp [Value.targetsOfItems]
  | .cons first rest => by
      intro text member
      rw [Value.targetsOfItems, List.mem_append] at member
      rcases member with member | member
      · exact first.grounded text member
      · exact rest.grounded text member

theorem MeansEntries.grounded {store : Store} {theme : Theme}
    {entries results : List (String × Value)} :
    MeansEntries store theme entries results →
      ∀ text ∈ Value.targetsOfEntries entries, ∀ next, Points store theme text next →
        Grounded store theme next
  | .nil => by simp [Value.targetsOfEntries]
  | .cons first rest => by
      intro text member
      rw [Value.targetsOfEntries, List.mem_append] at member
      rcases member with member | member
      · exact first.grounded text member
      · exact rest.grounded text member

theorem Reads.grounded {store : Store} {theme : Theme} {text : String} {value : Value} :
    Reads store theme text value →
      ∀ next, Points store theme text next → Grounded store theme next
  | .literal literal _ => fun next points => absurd literal points.not_inline
  | .followed points denotes => by
      intro next other
      rw [← points.unique other]
      exact denotes.grounded

end

theorem Grounded.not_cyclic {store : Store} {theme : Theme} {path : Path}
    (grounded : Grounded store theme path) : ¬ Cyclic store theme path := by
  intro cyclic
  have backwards := transGen_swap.mpr cyclic
  have accessible := grounded.transGen
  clear grounded cyclic
  induction accessible with
  | intro path _ ih => exact ih path backwards backwards

theorem Denotes.not_cyclic {store : Store} {theme : Theme} {path : Path} {value : Value}
    (denotes : Denotes store theme path value) : ¬ Cyclic store theme path :=
  denotes.grounded.not_cyclic

/-- A walk leads from one path to another and takes a number of stack frames. -/
inductive Leads (store : Store) (theme : Theme) : Path → Nat → Path → Prop
  | here {path} : Leads store theme path 0 path
  | step {path raw depth text transform next frames last} : Shows store theme path raw →
      raw.Holds depth text transform → Points store theme text next →
      Leads store theme next frames last →
      Leads store theme path (Allowance.cost depth + frames) last

/-- No reference that a walk from a path comes to takes more stack frames than there are. -/
def Fits (store : Store) (theme : Theme) (path : Path) : Allowance → Prop
  | .unlimited => True
  | .frames count => ∀ frames last raw depth text transform,
      Leads store theme path frames last → Shows store theme last raw →
      raw.Holds depth text transform → frames + Allowance.cost depth ≤ count

variable {store : Store} {theme : Theme}

@[simp] theorem Allowance.within?_zero (allowance : Allowance) :
    allowance.within? 0 = some allowance := by
  cases allowance <;> simp [Allowance.within?, Allowance.cost]

theorem Allowance.within?_frames_eq_some_iff {count depth : Nat} {inner : Allowance} :
    (Allowance.frames count).within? depth = some inner ↔
      cost depth ≤ count ∧ .frames (count - cost depth) = inner := by
  simp [Allowance.within?]

theorem fits_unlimited (path : Path) : Fits store theme path .unlimited :=
  trivial

/-- Where every reference is a whole value, walks take no frames. -/
theorem fits_of_flat (flat : ∀ path raw depth text transform, Shows store theme path raw →
      raw.Holds depth text transform → depth = 0) (path : Path) (allowance : Allowance) :
    Fits store theme path allowance := by
  cases allowance with
  | unlimited => trivial
  | frames count =>
      intro frames last raw depth text transform leads shows holds
      obtain rfl := flat last raw depth text transform shows holds
      suffices none : frames = 0 by
        rw [none]
        exact Nat.zero_le count
      clear shows holds
      induction leads with
      | here => rfl
      | step shown mention _ _ ih =>
          rw [ih, flat _ _ _ _ _ shown mention]
          rfl

theorem Fits.within {path : Path} {raw : Value} {depth : Nat} {text : String}
    {transform : Option Transform} {allowance : Allowance}
    (fits : Fits store theme path allowance) (shows : Shows store theme path raw)
    (holds : raw.Holds depth text transform) :
    ∃ inner, allowance.within? depth = some inner ∧
      ∀ next, Points store theme text next → Fits store theme next inner := by
  cases allowance with
  | unlimited => exact ⟨.unlimited, rfl, fun _ _ => trivial⟩
  | frames count =>
      have enough := fits 0 path raw depth text transform Leads.here shows holds
      rw [Nat.zero_add] at enough
      refine ⟨_, Allowance.within?_frames_eq_some_iff.mpr ⟨enough, rfl⟩, ?_⟩
      intro next points frames last held inner mention changed leads shown member
      have bound := fits _ last held inner mention changed (Leads.step shows holds points leads)
        shown member
      omega

/-- A path fits if there is room for what its own value refers to, and for what comes after. -/
theorem Fits.of_within {path : Path} {allowance : Allowance}
    (each : ∀ raw depth text transform, Shows store theme path raw →
      raw.Holds depth text transform → ∃ inner, allowance.within? depth = some inner ∧
        ∀ next, Points store theme text next → Fits store theme next inner) :
    Fits store theme path allowance := by
  cases allowance with
  | unlimited => trivial
  | frames count =>
      intro frames last raw depth text transform leads shows holds
      cases leads with
      | here =>
          obtain ⟨inner, within, _⟩ := each raw depth text transform shows holds
          rw [Nat.zero_add]
          exact (Allowance.within?_frames_eq_some_iff.mp within).1
      | step shown mention points rest =>
          obtain ⟨inner, within, fitting⟩ := each _ _ _ _ shown mention
          obtain ⟨enough, rfl⟩ := Allowance.within?_frames_eq_some_iff.mp within
          have bound := fitting _ points _ last raw depth text transform rest shows holds
          omega

theorem Fits.of_alias {path next : Path} {text : String} {allowance : Allowance}
    (shows : Shows store theme path (.alias text)) (points : Points store theme text next)
    (fits : Fits store theme next allowance) : Fits store theme path allowance := by
  refine Fits.of_within fun raw depth text transform shown holds => ?_
  obtain rfl := shown.unique shows
  cases holds
  refine ⟨allowance, allowance.within?_zero, fun other pointed => ?_⟩
  rwa [pointed.unique points]

end DesignTokens
