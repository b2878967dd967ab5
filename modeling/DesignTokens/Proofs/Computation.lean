import Mathlib.Data.List.Forall2
import Mathlib.Logic.Relation
import DesignTokens.Error

/-!
Computations that have a state and may fail.  What they did to the state before a
failure stays done, so a run of them is one walk through the states.
-/

namespace DesignTokens

open Relation

variable {σ α β : Type} {step : σ → σ → Prop}

theorem bind_eq_ok_iff {fault : Type} {first : Except fault α} {next : α → Except fault β}
    {result : β} :
    (first >>= next) = .ok result ↔ ∃ value, first = .ok value ∧ next value = .ok result := by
  cases first <;> simp [bind, Except.bind]

theorem map_eq_ok_iff {fault : Type} {first : Except fault α} {f : α → β} {result : β} :
    first.map f = .ok result ↔ ∃ value, first = .ok value ∧ f value = result := by
  cases first <;> simp [Except.map]

theorem map_eq_error_iff {fault : Type} {first : Except fault α} {f : α → β} {error : fault} :
    first.map f = .error error ↔ first = .error error := by
  cases first <;> simp [Except.map]

theorem mapM_eq_ok_iff {fault : Type} {f : α → Except fault β} {values : List α}
    {results : List β} :
    values.mapM f = .ok results ↔
      List.Forall₂ (fun value result => f value = .ok result) values results := by
  induction values generalizing results with
  | nil =>
      rw [List.forall₂_nil_left_iff]
      constructor
      · intro read
        exact (Except.ok.inj read).symm
      · rintro rfl
        rfl
  | cons value values ih =>
      rw [List.mapM_cons, bind_eq_ok_iff, List.forall₂_cons_left_iff]
      constructor
      · rintro ⟨first, here, read⟩
        obtain ⟨others, later, same⟩ := bind_eq_ok_iff.mp read
        exact ⟨first, others, here, ih.mp later, (Except.ok.inj same).symm⟩
      · rintro ⟨first, others, here, later, rfl⟩
        exact ⟨first, here, bind_eq_ok_iff.mpr ⟨others, ih.mpr later, rfl⟩⟩

/-- The first value that cannot be read makes the whole list fail, and it fails as that value. -/
theorem mapM_eq_error_iff {fault : Type} {f : α → Except fault β} {values : List α}
    {error : fault} :
    values.mapM f = .error error ↔
      ∃ before value after, values = before ++ value :: after ∧
        (∀ earlier ∈ before, ∃ result, f earlier = .ok result) ∧ f value = .error error := by
  induction values with
  | nil => simp [pure, Except.pure]
  | cons first rest ih =>
      rw [List.mapM_cons]
      constructor
      · intro failed
        cases here : f first with
        | error fault =>
            rw [here] at failed
            obtain rfl := Except.error.inj failed
            exact ⟨[], first, rest, rfl, by simp, here⟩
        | ok result =>
            cases others : rest.mapM f with
            | ok results =>
                rw [here, others] at failed
                cases failed
            | error fault =>
                rw [here, others] at failed
                obtain rfl := Except.error.inj failed
                obtain ⟨before, value, after, rfl, fine, last⟩ := ih.mp others
                exact ⟨first :: before, value, after, rfl,
                  List.forall_mem_cons.mpr ⟨⟨result, here⟩, fine⟩, last⟩
      · rintro ⟨before, value, after, whole, fine, last⟩
        cases before with
        | nil =>
            obtain ⟨rfl, rfl⟩ := List.cons.inj whole
            rw [last]
            rfl
        | cons earlier before =>
            obtain ⟨rfl, rfl⟩ := List.cons.inj whole
            obtain ⟨⟨result, here⟩, others⟩ := List.forall_mem_cons.mp fine
            rw [here, ih.mpr ⟨before, value, after, rfl, others, last⟩]
            rfl

theorem run_bind_ok {first : ExceptT Error (StateM σ) α} {next : α → ExceptT Error (StateM σ) β}
    {value : α} {state middle : σ} (run : first.run state = (.ok value, middle)) :
    (first >>= next).run state = (next value).run middle := by
  change StateT.run first.run state = _ at run
  change StateT.run (ExceptT.run (first >>= next)) state = _
  rw [ExceptT.run_bind, StateT.run_bind, run]
  rfl

theorem run_bind_error {first : ExceptT Error (StateM σ) α}
    {next : α → ExceptT Error (StateM σ) β} {error : Error} {state middle : σ}
    (run : first.run state = (.error error, middle)) :
    (first >>= next).run state = (.error error, middle) := by
  change StateT.run first.run state = _ at run
  change StateT.run (ExceptT.run (first >>= next)) state = _
  rw [ExceptT.run_bind, StateT.run_bind, run]
  rfl

theorem run_bind_eq_ok {first : ExceptT Error (StateM σ) α}
    {next : α → ExceptT Error (StateM σ) β} {result : β} {state after : σ}
    (run : (first >>= next).run state = (.ok result, after)) :
    ∃ value middle, first.run state = (.ok value, middle) ∧
      (next value).run middle = (.ok result, after) := by
  rcases start : first.run state with ⟨outcome, middle⟩
  cases outcome with
  | error error =>
      rw [run_bind_error start] at run
      exact nomatch run
  | ok value =>
      rw [run_bind_ok start] at run
      exact ⟨value, middle, rfl, run⟩

theorem run_get_bind (next : σ → ExceptT Error (StateM σ) β) (state : σ) :
    ((MonadState.get : ExceptT Error (StateM σ) σ) >>= next).run state =
      (next state).run state := by
  have run : (MonadState.get : ExceptT Error (StateM σ) σ).run state = (.ok state, state) := rfl
  exact run_bind_ok run

theorem run_map (f : α → β) (first : ExceptT Error (StateM σ) α) (state : σ) :
    ((f <$> first).run state).2 = (first.run state).2 := by
  rcases run : first.run state with ⟨result, after⟩
  rw [← bind_pure_comp]
  cases result with
  | error error => rw [run_bind_error run]
  | ok value =>
      rw [run_bind_ok run]
      rfl

theorem run_map_ok (f : α → β) {first : ExceptT Error (StateM σ) α} {value : α} {state after : σ}
    (run : first.run state = (.ok value, after)) :
    (f <$> first).run state = (.ok (f value), after) := by
  rw [← bind_pure_comp, run_bind_ok run]
  rfl

theorem run_map_error (f : α → β) {first : ExceptT Error (StateM σ) α} {error : Error}
    {state after : σ} (run : first.run state = (.error error, after)) :
    (f <$> first).run state = (.error error, after) := by
  rw [← bind_pure_comp, run_bind_error run]

/-- What holds of a list that is worked through without a failure, if each of its values keeps
the state as it should be. -/
theorem run_mapM_eq_ok {f : α → ExceptT Error (StateM σ) β} {result : α → β} {fit : σ → Prop}
    {holds : α → Prop}
    (each : ∀ {value made state after}, fit state → (f value).run state = (.ok made, after) →
      fit after ∧ holds value ∧ made = result value)
    {values : List α} {results : List β} {state after : σ} (start : fit state)
    (run : (values.mapM f).run state = (.ok results, after)) :
    fit after ∧ (∀ value ∈ values, holds value) ∧ results = values.map result := by
  induction values generalizing results state with
  | nil =>
      obtain ⟨same, rfl⟩ := Prod.mk.inj run
      obtain rfl := Except.ok.inj same
      simp [start]
  | cons value values ih =>
      rw [List.mapM_cons] at run
      rcases run_bind_eq_ok run with ⟨made, middle, first, run⟩
      rcases run_bind_eq_ok run with ⟨others, last, rest, run⟩
      obtain ⟨same, rfl⟩ := Prod.mk.inj run
      obtain rfl := Except.ok.inj same
      rcases each start first with ⟨kept, here, rfl⟩
      rcases ih kept rest with ⟨fits, later, rfl⟩
      exact ⟨fits, List.forall_mem_cons.mpr ⟨here, later⟩, rfl⟩

/-- A list is worked through if each of its values is, whatever fit state it finds. -/
theorem exists_run_mapM_eq_ok {f : α → ExceptT Error (StateM σ) β} {fit : σ → Prop}
    {values : List α}
    (each : ∀ value ∈ values, ∀ state, fit state →
      ∃ made after, (f value).run state = (.ok made, after) ∧ fit after)
    {state : σ} (start : fit state) :
    ∃ results after, (values.mapM f).run state = (.ok results, after) ∧ fit after := by
  induction values generalizing state with
  | nil => exact ⟨[], state, rfl, start⟩
  | cons value values ih =>
      rcases each value List.mem_cons_self state start with ⟨made, middle, first, kept⟩
      have others := fun other member => each other (List.mem_cons_of_mem value member)
      rcases ih others kept with ⟨results, after, rest, fits⟩
      refine ⟨made :: results, after, ?_, fits⟩
      rw [List.mapM_cons, run_bind_ok first, run_bind_ok rest]
      rfl

theorem run_tryCatch {first : ExceptT Error (StateM σ) α}
    {handle : Error → ExceptT Error (StateM σ) α} (state : σ) :
    (tryCatch first handle).run state =
      match first.run state with
      | (.ok value, after) => (.ok value, after)
      | (.error error, after) => (handle error).run after := by
  change StateT.run (ExceptT.run (tryCatch first handle)) state = _
  rw [ExceptT.run_tryCatch, StateT.run_bind]
  rcases run : StateT.run first.run state with ⟨result, after⟩
  change first.run state = _ at run
  rw [run]
  cases result <;> rfl

def Moves (step : σ → σ → Prop) (computation : StateM σ α) : Prop :=
  ∀ state, ReflTransGen step state (computation.run state).2

namespace Moves

theorem pure (value : α) : Moves step (Pure.pure value : StateM σ α) :=
  fun _ => ReflTransGen.refl

theorem bind {first : StateM σ α} {next : α → StateM σ β} (moved : Moves step first)
    (continues : ∀ value, Moves step (next value)) : Moves step (first >>= next) := by
  intro state
  rw [StateT.run_bind]
  exact (moved state).trans (continues _ _)

end Moves

def Steps (step : σ → σ → Prop) (computation : ExceptT Error (StateM σ) α) : Prop :=
  Moves step computation.run

namespace Steps

theorem of_run {computation : ExceptT Error (StateM σ) α} (moved : Steps step computation)
    {result : Except Error α} {before after : σ} (run : computation.run before = (result, after)) :
    ReflTransGen step before after := by
  have walked : ReflTransGen step before (computation.run before).2 := moved before
  rwa [run] at walked

theorem pure (value : α) : Steps step (Pure.pure value : ExceptT Error (StateM σ) α) :=
  fun _ => ReflTransGen.refl

theorem throw (error : Error) :
    Steps step (MonadExcept.throw error : ExceptT Error (StateM σ) α) :=
  fun _ => ReflTransGen.refl

theorem ofResult (result : Except Error α) :
    Steps step (ExceptT.mk (Pure.pure result) : ExceptT Error (StateM σ) α) :=
  fun _ => ReflTransGen.refl

theorem get : Steps step (MonadState.get : ExceptT Error (StateM σ) σ) :=
  fun _ => ReflTransGen.refl

theorem lift {computation : StateM σ α} (moved : Moves step computation) :
    Steps step (ExceptT.lift computation) :=
  moved

theorem bind {first : ExceptT Error (StateM σ) α} {next : α → ExceptT Error (StateM σ) β}
    (moved : Steps step first) (continues : ∀ value, Steps step (next value)) :
    Steps step (first >>= next) := by
  rw [Steps, ExceptT.run_bind]
  refine Moves.bind moved fun result => ?_
  cases result with
  | error error => exact Moves.pure _
  | ok value => exact continues value

theorem map {first : ExceptT Error (StateM σ) α} (f : α → β) (moved : Steps step first) :
    Steps step (f <$> first) := by
  rw [← bind_pure_comp]
  exact moved.bind fun value => pure (f value)

theorem catching {first : ExceptT Error (StateM σ) α}
    {handle : Error → ExceptT Error (StateM σ) α} (moved : Steps step first)
    (handles : ∀ error, Steps step (handle error)) : Steps step (tryCatch first handle) := by
  rw [Steps, ExceptT.run_tryCatch]
  refine Moves.bind moved fun result => ?_
  cases result with
  | error error => exact handles error
  | ok value => exact Moves.pure _

theorem mapM {f : α → ExceptT Error (StateM σ) β} (each : ∀ value, Steps step (f value)) :
    ∀ values : List α, Steps step (values.mapM f) := by
  intro values
  induction values with
  | nil => exact pure []
  | cons value values ih =>
      rw [List.mapM_cons]
      exact (each value).bind fun first => ih.bind fun rest => pure (first :: rest)

end Steps

end DesignTokens
