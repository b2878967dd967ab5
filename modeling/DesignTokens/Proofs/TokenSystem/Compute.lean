import DesignTokens.Proofs.Resolution.Operands
import DesignTokens.Proofs.TokenSystem.Transparency

/-!
Expressions over the tokens of a system.  Sums and products can be turned round, and operands
are read as references are, unless their text is also a literal that is no operand.
-/

namespace DesignTokens

namespace TokenSystem

def computed (system : TokenSystem) (scope : Scope) (text : String) : Except Error Value :=
  ((Action.compute text scope).run system).1

theorem computed_eq (system : TokenSystem) (scope : Scope) (text : String) :
    system.computed scope text = ((evaluate system.store (scope.themeIn system) system.allowance
      text).run system.cache).1 := rfl

end TokenSystem

/-- A sum or a product has a value if it has one the other way round, and it is the same. -/
theorem computed_swapped {system : TokenSystem} (reachable : system.Reachable) (scope : Scope)
    {operation : Operation} (commutes : operation.Commutes) {left right : String}
    (whole : Unbroken left) (other : Unbroken right) (value : Value) :
    system.computed scope (expressionText left operation right) = .ok value ↔
      system.computed scope (expressionText right operation left) = .ok value := by
  rw [TokenSystem.computed_eq, TokenSystem.computed_eq]
  constructor
  · exact evaluate_swapped reachable.sound commutes whole other
  · exact evaluate_swapped reachable.sound commutes other whole

namespace Scaled

theorem valid_gap : isSegment "gap" = true := by decide

theorem valid_pace : isSegment "pace" = true := by decide

theorem valid_red : isSegment "red" = true := by decide

abbrev gap : Path := .single "gap" valid_gap
abbrev pace : Path := .single "pace" valid_pace
abbrev red : Path := .single "red" valid_red

def tokens : Store :=
  Store.empty.setAll [(gap, .dimension 4 .px), (pace, .number 2), (red, .number 2)] .light

def system : TokenSystem :=
  .ofStore {} tokens

theorem points_gap : Points tokens .light "gap" gap :=
  target?_eq_some_iff.mp (by decide +kernel)

theorem points_pace : Points tokens .light "pace" pace :=
  target?_eq_some_iff.mp (by decide +kernel)

theorem points_red : Points tokens .light "red" red :=
  target?_eq_some_iff.mp (by decide +kernel)

theorem reads_gap : Reads tokens .light "gap" (.dimension 4 .px) :=
  .followed points_gap (.shown (.own rfl) (.scalar rfl))

theorem reads_pace : Reads tokens .light "pace" (.number 2) :=
  .followed points_pace (.shown (.own rfl) (.scalar rfl))

theorem reads_red : Reads tokens .light "red" (.number 2) :=
  .followed points_red (.shown (.own rfl) (.scalar rfl))

theorem fit_gap : (Value.ofLiteral "gap").kind ∉ wordKinds := by decide +kernel

theorem fit_pace : (Value.ofLiteral "pace").kind ∉ wordKinds := by decide +kernel

theorem word_red : (Value.ofLiteral "red").kind ∈ wordKinds := by decide +kernel

end Scaled

open Scaled in
theorem computed_swapped_scaled :
    system.computed .active "gap * pace" = .ok (.dimension (4 * 2) .px) ∧
      system.computed .active "pace * gap" = .ok (.dimension (4 * 2) .px) := by
  have reachable : system.Reachable := TokenSystem.reachable_ofStore tokens
  have parsed : Expression.parse? "gap * pace" = some ⟨"gap", .multiply, "pace"⟩ := by decide
  have found : system.computed .active "gap * pace" = .ok (.dimension (4 * 2) .px) :=
    (evaluate_eq_ok_iff reachable.sound parsed).mpr
      ⟨_, _, reads_gap.operand rfl fit_gap, reads_pace.operand rfl fit_pace, rfl⟩
  have whole : Unbroken "gap" := by decide
  have other : Unbroken "pace" := by decide
  have swapped := computed_swapped reachable .active (Or.inr rfl) whole other
    (.dimension (4 * 2) .px)
  exact ⟨found, swapped.mp found⟩

/-- Wherever a reference would stand for a magnitude, an operand with the same text does, unless
the text can also be read as a truth value, as nothing or as a colour: then it is refused. -/
theorem operands_as_references {store : Store} {cache : Cache} (memory : MemoryOf store cache)
    (theme : Theme) (allowance : Allowance) :
    (∀ path text value, Shows store theme path (.alias text) →
      outcome store theme allowance cache path = .ok value → Reads store theme text value) ∧
    (∀ text value, Reads store theme text value → value.isMagnitude = true →
      ((operandValue store theme allowance text).run cache).1 =
        if (Value.ofLiteral text).kind ∈ wordKinds then .error (.value (.operand text))
        else .ok value) ∧
    ∀ text expression left right, Expression.parse? text = some expression →
      Reads store theme expression.left left → left.isMagnitude = true →
      Reads store theme expression.right right → right.isMagnitude = true →
      ((evaluate store theme allowance text).run cache).1 =
        if (Value.ofLiteral expression.left).kind ∈ wordKinds then
          .error (.value (.operand expression.left))
        else if (Value.ofLiteral expression.right).kind ∈ wordKinds then
          .error (.value (.operand expression.right))
        else combine left expression.operation right := by
  have sound := memory.sound
  refine ⟨?_, ?_, ?_⟩
  · intro path text value shows found
    rcases denotes_of_outcome sound found with ⟨shown, means⟩
    obtain rfl := shows.unique shown
    rcases means with simple | _ | _ | reads
    · cases simple
    · exact reads
  · exact fun text value reads measured => operandValue_reads allowance sound reads measured
  · exact fun text expression left right parsed first leftMeasured second rightMeasured =>
      evaluate_reads sound parsed first leftMeasured second rightMeasured

open Scaled in
theorem operands_as_references_scaled :
    ((evaluate tokens .light .unlimited "gap * pace").run Table.empty).1 =
        .ok (.dimension (4 * 2) .px) ∧
      ((operandValue tokens .light .unlimited "red").run Table.empty).1 =
        .error (.value (.operand "red")) := by
  obtain ⟨_, operand, expression⟩ :=
    operands_as_references (MemoryOf.empty tokens) .light .unlimited
  have parsed : Expression.parse? "gap * pace" = some ⟨"gap", .multiply, "pace"⟩ := by decide
  have product := expression _ _ _ _ parsed reads_gap rfl reads_pace rfl
  rw [if_neg fit_gap, if_neg fit_pace] at product
  have refused := operand _ _ reads_red rfl
  rw [if_pos word_red] at refused
  exact ⟨product, refused⟩

open Scaled in
/-- A token that is named after a colour can be referred to, but is no operand. -/
theorem operand_red_refused :
    ¬ (Reads tokens .light "red" (.number 2) → Value.isMagnitude (.number 2) = true →
      ((operandValue tokens .light .unlimited "red").run Table.empty).1 = .ok (.number 2)) := by
  intro claimed
  have found := claimed reads_red rfl
  rw [operandValue_word tokens .light .unlimited word_red] at found
  cases found

end DesignTokens
