import DesignTokens.Proofs.Resolution.Cached

/-!
Walks that end.  A walk that may enter each path of a list only once, and is cut short
when it leaves the list, does all that a walk without this bound does, if the list
holds the paths that the theme shows.
-/

namespace DesignTokens

abbrev Guarded := ExceptT Error (StateT Cache Option)

namespace Guarded

def ofWalk {α : Type} (walk : Walk α) : Guarded α :=
  ExceptT.mk fun cache => some (walk.run cache)

def cutShort {α : Type} : Guarded α :=
  ExceptT.mk fun _ => none

def Completes {α : Type} (walk : Walk α) (guarded : Guarded α) : Prop :=
  ∀ cache, guarded.run cache = some (walk.run cache)

theorem completes_bind {α β : Type} {first : Walk α} {guarded : Guarded α} {next : α → Walk β}
    {after : α → Guarded β} (start : Completes first guarded)
    (rest : ∀ value, Completes (next value) (after value)) :
    Completes (first >>= next) (guarded >>= after) := by
  intro cache
  have begun : StateT.run (ExceptT.run guarded) cache = some (first.run cache) := start cache
  change StateT.run (ExceptT.run (guarded >>= after)) cache = _
  rw [ExceptT.run_bind, StateT.run_bind, begun]
  rcases run : first.run cache with ⟨result, middle⟩
  cases result with
  | error error =>
      rw [run_bind_error run]
      rfl
  | ok value =>
      rw [run_bind_ok run]
      exact rest value middle

def completion : MonadRelation Walk Guarded where
  relates := Completes
  pure _ _ := rfl
  bind := completes_bind

theorem completes_ofWalk {α : Type} (walk : Walk α) : Completes walk (ofWalk walk) :=
  fun _ => rfl

end Guarded

def crossOff (current : Path) (left : List Path) : List Path :=
  left.filter (· ≠ current)

theorem length_crossOff_lt {current : Path} {left : List Path} (listed : current ∈ left) :
    (crossOff current left).length < left.length := by
  refine List.length_filter_lt_length_iff_exists.mpr ⟨current, listed, ?_⟩
  simp

theorem mem_crossOff {current other : Path} {left : List Path} :
    other ∈ crossOff current left ↔ other ∈ left ∧ other ≠ current := by
  simp [crossOff]

/-- Resolves a path like `resolveFrom`, but enters a path only while it is left on a
list, and takes it off. -/
def resolveWithin (store : Store) (theme : Theme) (left : List Path) (allowance : Allowance)
    (trail : List Path) (current : Path) : Guarded Value := do
  match (← get).find? (current, theme) with
  | some value => return value
  | none =>
      if current ∈ trail then throw (.circular (trail.reverse ++ [current]))
      else
        match store.visible? current theme with
        | none => throw (.notFound current (absenceAfter trail))
        | some raw =>
            if _ : current ∈ left then
              let value ← raw.replaceReferences (fun depth text transform => do
                match allowance.within? depth with
                | none => throw (.tooDeep ((current :: trail).getLast (List.cons_ne_nil _ _)))
                | some allowance =>
                    match store.target? theme text with
                    | none => Guarded.ofWalk (finish (Value.ofLiteral text) transform current)
                    | some target =>
                        let operand ← resolveWithin store theme (crossOff current left)
                          allowance (current :: trail) target
                        Guarded.ofWalk (finish operand transform current)) 0
              modify (·.insert (current, theme) value)
              return value
            else Guarded.cutShort
termination_by left.length
decreasing_by
  exact length_crossOff_lt ‹_›

open Guarded

variable {store : Store} {theme : Theme}

/-- As long as every shown path is on the list or on the trail, a walk is not cut short. -/
theorem resolveWithin_completes {left trail : List Path} {current : Path} (allowance : Allowance)
    (listed : ∀ path value, store.visible? path theme = some value → path ∉ trail → path ∈ left) :
    Completes (resolveFrom store theme allowance trail current)
      (resolveWithin store theme left allowance trail current) := by
  induction trail, current using plainFrom.induct store theme generalizing left allowance with
  | case1 trail current visited =>
      rw [resolveFrom, resolveWithin]
      refine completes_bind (fun _ => rfl) fun cache => ?_
      cases cache.find? (current, theme) with
      | some value => exact fun _ => rfl
      | none =>
          simp only [visited]
          exact fun _ => rfl
  | case2 trail current fresh missing =>
      rw [resolveFrom, resolveWithin]
      refine completes_bind (fun _ => rfl) fun cache => ?_
      cases cache.find? (current, theme) with
      | some value => exact fun _ => rfl
      | none =>
          simp only [fresh, dif_neg, not_false_eq_true, if_false, missing]
          split
          · exact fun _ => rfl
          · rename_i raw shown
            simp [missing] at shown
  | case3 trail current fresh raw shown ih =>
      have entered : current ∈ left := listed current raw shown fresh
      rw [resolveFrom, resolveWithin]
      refine completes_bind (fun _ => rfl) fun cache => ?_
      cases cache.find? (current, theme) with
      | some value => exact fun _ => rfl
      | none =>
          simp only [fresh, dif_neg, not_false_eq_true, if_false, shown, entered, dif_pos]
          split
          · rename_i missing
            simp [missing] at shown
          · rename_i held found
            obtain rfl := Option.some.inj (found.symm.trans shown)
            refine completes_bind ?_ fun value => completes_bind (fun _ => rfl) fun _ _ => rfl
            refine Value.replaceReferences_relates completion 0 held ?_
            intro depth text transform _
            cases allowance.within? (0 + depth) with
            | none => exact fun _ => rfl
            | some inner =>
                dsimp only
                cases followed : store.target? theme text with
                | none => exact completes_ofWalk _
                | some target =>
                    refine completes_bind (ih target inner ?_) fun value => completes_ofWalk _
                    -- The list loses no path but the one that is now on the trail.
                    intro path value shown apart
                    rw [List.mem_cons, not_or] at apart
                    exact mem_crossOff.mpr ⟨listed path value shown apart.2, apart.1⟩

theorem resolve_completes (store : Store) (theme : Theme) (allowance : Allowance) (path : Path) :
    Completes (resolve store theme allowance path)
      (resolveWithin store theme (store.visiblePaths theme) allowance [] path) :=
  resolveWithin_completes allowance fun _ _ shown _ => Store.mem_visiblePaths_of_visible? shown

end DesignTokens
