import DesignTokens.Proofs.Resolution.Chain
import DesignTokens.Proofs.Resolution.Concrete
import DesignTokens.Proofs.Resolution.Cached

/-!
Walks that end alike over every sound memory: with one result, or where references nest too
deep for a cold memory with the error that says so.  No scalar is ever too deep.
-/

namespace DesignTokens

/-- A walk keeps a memory sound, and over every one it ends with the same result.  Where stack
frames are limited it may be refused for that instead. -/
def Settles {α : Type} (store : Store) (limited : Prop) (walk : Walk α) (result : Except Error α) :
    Prop :=
  ∀ cache : Cache, cache.Sound store → Cache.Sound (walk.run cache).2 store ∧
    ((walk.run cache).1 = result ∨
      limited ∧ ∃ path, (walk.run cache).1 = .error (.tooDeep path))

namespace Settles

variable {store : Store} {limited : Prop} {α β : Type}

theorem ofExcept (result : Except Error α) :
    Settles store limited (Walk.ofExcept result) result :=
  fun _ sound => ⟨sound, Or.inl rfl⟩

theorem pure (value : α) : Settles store limited (Pure.pure value : Walk α) (.ok value) :=
  fun _ sound => ⟨sound, Or.inl rfl⟩

theorem throw (error : Error) :
    Settles store limited (MonadExcept.throw error : Walk α) (.error error) :=
  fun _ sound => ⟨sound, Or.inl rfl⟩

theorem mono {walk : Walk α} {result : Except Error α} {wider : Prop}
    (settles : Settles store limited walk result) (weaker : limited → wider) :
    Settles store wider walk result := by
  intro cache sound
  obtain ⟨kept, ends⟩ := settles cache sound
  exact ⟨kept, ends.imp_right fun deep => ⟨weaker deep.1, deep.2⟩⟩

theorem bind {first : Walk α} {result : Except Error α} {next : α → Walk β}
    {after : α → Except Error β} (settles : Settles store limited first result)
    (continues : ∀ value, result = .ok value → Settles store limited (next value) (after value)) :
    Settles store limited (first >>= next) (result >>= after) := by
  intro cache sound
  obtain ⟨kept, ends⟩ := settles cache sound
  rcases run : first.run cache with ⟨outcome, middle⟩
  rw [run] at kept ends
  cases outcome with
  | error error =>
      rw [run_bind_error run]
      refine ⟨kept, ?_⟩
      rcases ends with rfl | ⟨deep, path, same⟩
      · exact Or.inl rfl
      · obtain rfl := Except.error.inj same
        exact Or.inr ⟨deep, path, rfl⟩
  | ok value =>
      rw [run_bind_ok run]
      -- A refusal is an error, so the first part has its one result.
      rcases ends with rfl | ⟨_, path, impossible⟩
      · exact continues value rfl middle kept
      · cases impossible

theorem mapM {f : α → Walk β} {plain : α → Except Error β} {values : List α}
    (each : ∀ value ∈ values, Settles store limited (f value) (plain value)) :
    Settles store limited (values.mapM f) (values.mapM plain) := by
  induction values with
  | nil => exact pure []
  | cons value values ih =>
      obtain ⟨here, others⟩ := List.forall_mem_cons.mp each
      rw [List.mapM_cons, List.mapM_cons]
      refine here.bind fun first _ => ?_
      exact (ih others).bind fun rest _ => pure (first :: rest)

/-- Walks that settle alike, over one store or two, differ only where one was refused. -/
theorem meet {other : Store} {first second : Walk α} {result : Except Error α}
    (here : Settles store limited first result) (there : Settles other limited second result)
    {cache memory : Cache} (sound : cache.Sound store) (again : memory.Sound other) :
    (first.run cache).1 = (second.run memory).1 ∨
      limited ∧ ∃ path, (first.run cache).1 = .error (.tooDeep path) ∨
        (second.run memory).1 = .error (.tooDeep path) := by
  rcases (here cache sound).2 with one | ⟨deep, path, refused⟩
  · rcases (there memory again).2 with two | ⟨deep, path, refused⟩
    · exact Or.inl (one.trans two.symm)
    · exact Or.inr ⟨deep, path, Or.inr refused⟩
  · exact Or.inr ⟨deep, path, Or.inl refused⟩

end Settles

variable {store : Store} {theme : Theme}

theorem resolve_settles (theme : Theme) (allowance : Allowance) (path : Path) :
    Settles store (¬ Fits store theme path allowance) (resolve store theme allowance path)
      (plainFrom store theme [] path) := by
  intro cache sound
  obtain ⟨kept, ends⟩ := resolve_agrees allowance path cache sound
  exact ⟨kept, ends.imp_right fun deep => ⟨deep.1, path, deep.2⟩⟩

theorem Value.isScalar_of_operand {operand result : Value} {transform : Transform}
    {path : Option Path} (done : operand.transformed transform path = .ok result) :
    operand.isScalar = true := by
  cases operand <;> cases transform <;>
    simp_all [transformed, calculate, adjustColor, isScalar, isReference]

theorem Value.isScalar_of_applied {operand result : Value} {transform : Option Transform}
    {path : Option Path} (done : operand.applied transform path = .ok result)
    (simple : result.isScalar = true) : operand.isScalar = true := by
  cases transform with
  | none =>
      obtain rfl := Except.ok.inj done
      exact simple
  | some transform => exact isScalar_of_operand done

/-- A scalar is made of scalars: no composite refers to what it is made of. -/
theorem Means.scalar_of_holds {raw value : Value} {depth : Nat} {text : String}
    {transform : Option Transform} (holds : raw.Holds depth text transform)
    (simple : value.isScalar = true) : Means store theme raw value →
    depth = 0 ∧ ∀ path, Points store theme text path →
      ∃ operand, Denotes store theme path operand ∧ operand.isScalar = true
  | .scalar plain => by
      cases holds <;> simp [Value.isScalar, Value.isReference] at plain
  | .array _ => nomatch simple
  | .object _ => nomatch simple
  | .alias reads => by
      cases holds
      exact ⟨rfl, fun path points => ⟨value, reads.denotes points, simple⟩⟩
  | .reference reads applied => by
      cases holds
      exact ⟨rfl, fun path points =>
        ⟨_, reads.denotes points, Value.isScalar_of_applied applied simple⟩⟩

theorem Leads.scalar {path last : Path} {frames : Nat} (leads : Leads store theme path frames last)
    {value : Value} (denotes : Denotes store theme path value) (simple : value.isScalar = true) :
    frames = 0 ∧ ∃ operand, Denotes store theme last operand ∧ operand.isScalar = true := by
  induction leads generalizing value with
  | here => exact ⟨rfl, value, denotes, simple⟩
  | step shows holds points _ ih =>
      rcases denotes with ⟨found, means⟩
      obtain rfl := shows.unique found
      obtain ⟨rfl, onwards⟩ := means.scalar_of_holds holds simple
      obtain ⟨operand, denotes, simple⟩ := onwards _ points
      obtain ⟨rfl, later⟩ := ih denotes simple
      exact ⟨rfl, later⟩

theorem Denotes.fits_of_isScalar {path : Path} {value : Value}
    (denotes : Denotes store theme path value) (simple : value.isScalar = true)
    (allowance : Allowance) : Fits store theme path allowance := by
  cases allowance with
  | unlimited => trivial
  | frames count =>
      intro frames last raw depth text transform leads shows holds
      obtain ⟨rfl, operand, denotes, simple⟩ := leads.scalar denotes simple
      rcases denotes with ⟨found, means⟩
      obtain rfl := shows.unique found
      obtain ⟨rfl, _⟩ := means.scalar_of_holds holds simple
      exact Nat.zero_le count

/-- Every scalar that a path denotes is found, at whatever depth. -/
theorem outcome_of_isScalar {cache : Cache} (sound : cache.Sound store) {path : Path}
    {value : Value} (denotes : Denotes store theme path value) (simple : value.isScalar = true)
    (allowance : Allowance) : outcome store theme allowance cache path = .ok value :=
  (outcome_eq_ok_iff sound (denotes.fits_of_isScalar simple allowance)).mpr denotes

end DesignTokens
