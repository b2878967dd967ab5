import DesignTokens.Store
import DesignTokens.Value.Literal
import DesignTokens.Value.Transformed

/-!
Resolution: following references to the values they stand for.  Every value that
is found is remembered, and a walk never visits a path twice.
-/

namespace DesignTokens

abbrev Cache := Table (Path × Theme) Value

/-- A computation that fills the cache, also when it fails later on. -/
abbrev Walk := ExceptT Error (StateM Cache)

def Walk.ofExcept {α : Type} (result : Except Error α) : Walk α :=
  ExceptT.mk (pure result)

def styleKeywords : List String :=
  ["none", "auto", "inherit", "initial", "unset", "revert", "currentcolor"]

def isKeywordText (text : String) : Bool :=
  styleKeywords.contains (lowerCased text) || Color.isColorText text

namespace Store

def target? (store : Store) (theme : Theme) (text : String) : Option Path :=
  if (Value.ofLiteral text).isMagnitude then none
  else
    match Path.ofReference? text with
    | none => none
    | some path =>
        if isKeywordText text && (store.visible? path theme).isNone then none else some path

def unvisited (store : Store) (theme : Theme) (trail : List Path) : Nat :=
  (store.visiblePaths theme).countP (· ∉ trail)

end Store

theorem countP_not_mem_cons_lt (paths trail : List Path) (current : Path)
    (known : current ∈ paths) (fresh : current ∉ trail) :
    paths.countP (· ∉ current :: trail) < paths.countP (· ∉ trail) := by
  induction paths with
  | nil => simp at known
  | cons path rest ih =>
      have weaker : rest.countP (· ∉ current :: trail) ≤ rest.countP (· ∉ trail) :=
        List.countP_mono_left fun other _ apart => by
          simp only [decide_eq_true_eq, List.mem_cons, not_or] at apart ⊢
          exact apart.2
      simp only [List.countP_cons]
      by_cases same : path = current
      · subst same
        simp only [List.mem_cons, true_or, not_true_eq_false, decide_false, Bool.false_eq_true,
          if_false, fresh, not_false_eq_true, decide_true, if_true] at weaker ⊢
        omega
      · have member : current ∈ rest := (List.mem_cons.mp known).resolve_left (Ne.symm same)
        have smaller := ih member
        simp only [List.mem_cons, same, false_or] at smaller ⊢
        omega

def absenceAfter (trail : List Path) : Absence :=
  match trail with
  | [] => .plain
  | last :: _ => .referencedFrom last

/-- The stack frames that are left for following references. -/
inductive Allowance where
  | unlimited
  | frames (count : Nat)
deriving DecidableEq, Repr

namespace Allowance

/-- The frames that a reference takes inside so many arrays and objects: three for each of
them and one for the reference.  A reference that is a whole value takes none, since chains
of such references are followed in a loop. -/
def cost : Nat → Nat
  | 0 => 0
  | depth + 1 => 3 * (depth + 1) + 1

def within? (allowance : Allowance) (depth : Nat) : Option Allowance :=
  match allowance with
  | .unlimited => some .unlimited
  | .frames count => if cost depth ≤ count then some (.frames (count - cost depth)) else none

/-- What a stack of 1000 frames usually leaves. -/
def usual : Allowance :=
  .frames 984

end Allowance

def finish (value : Value) (transform : Option Transform) (path : Path) : Walk Value :=
  match transform with
  | none => return value
  | some transform => Walk.ofExcept (value.transformed transform (some path))

/-- Resolves a path at the end of a trail, which stands in reverse.  The value
found is remembered before it is returned. -/
def resolveFrom (store : Store) (theme : Theme) (allowance : Allowance) (trail : List Path)
    (current : Path) : Walk Value := do
  match (← get).find? (current, theme) with
  | some value => return value
  | none =>
      if _ : current ∈ trail then
        throw (.circular (trail.reverse ++ [current]))
      else
        match _ : store.visible? current theme with
        | none => throw (.notFound current (absenceAfter trail))
        | some raw =>
            let value ← raw.replaceReferences (fun depth text transform => do
              match allowance.within? depth with
              | none => throw (.tooDeep ((current :: trail).getLast (List.cons_ne_nil _ _)))
              | some allowance =>
                  match store.target? theme text with
                  | none => finish (Value.ofLiteral text) transform current
                  | some target =>
                      finish (← resolveFrom store theme allowance (current :: trail) target)
                        transform current) 0
            modify (·.insert (current, theme) value)
            return value
termination_by store.unvisited theme trail
decreasing_by
  exact countP_not_mem_cons_lt _ _ _ (Store.mem_visiblePaths_of_visible? ‹_›) ‹_›

def resolve (store : Store) (theme : Theme) (allowance : Allowance) (path : Path) : Walk Value :=
  resolveFrom store theme allowance [] path

end DesignTokens
