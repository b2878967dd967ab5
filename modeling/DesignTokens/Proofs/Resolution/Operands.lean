import DesignTokens.Proofs.Path.Grammar
import DesignTokens.Proofs.Resolution.Settled
import DesignTokens.Resolution.Expression

/-!
Operands: what their texts denote, and what an expression makes of them.  An expression has a
value only if both operands denote magnitudes, and magnitudes are found over every memory.  Sums
and products do not depend on which operand comes first.
-/

namespace DesignTokens

open Float.Model (Format UnpackedFloat)
open Float.Model.UnpackedFloat

theorem sign_mul_comm (first second : Sign) : first * second = second * first := by
  cases first <;> cases second <;> rfl

theorem unpacked_add_comm (format : Format) (first second : UnpackedFloat) :
    UnpackedFloat.add format first second = UnpackedFloat.add format second first := by
  cases first with
  | notANumber => cases second <;> rfl
  | infinity sign =>
      cases second with
      | infinity other => cases sign <;> cases other <;> rfl
      | notANumber => rfl
      | zero other => rfl
      | finite other mantissa exponent positive => rfl
  | zero sign =>
      cases second with
      | zero other => cases sign <;> cases other <;> rfl
      | infinity other => rfl
      | notANumber => rfl
      | finite other mantissa exponent positive => rfl
  | finite sign mantissa exponent positive =>
      cases second with
      | finite other factor power nonzero =>
          change normalize format (_ + _) (min exponent power) _ =
            normalize format (_ + _) (min power exponent) _
          rw [Int.min_comm power exponent, Int.add_comm]
      | infinity other => rfl
      | notANumber => rfl
      | zero other => rfl

theorem unpacked_mul_comm (format : Format) (first second : UnpackedFloat) :
    UnpackedFloat.mul format first second = UnpackedFloat.mul format second first := by
  cases first <;> cases second
  case finite.finite sign mantissa exponent positive other factor power nonzero =>
    change roundWithAccuracy format (sign * other) (mantissa * factor) (exponent + power) .exact =
      roundWithAccuracy format (other * sign) (factor * mantissa) (power + exponent) .exact
    rw [sign_mul_comm, Nat.mul_comm, Int.add_comm]
  all_goals first
    | rfl
    | exact congrArg UnpackedFloat.infinity (sign_mul_comm _ _)
    | exact congrArg UnpackedFloat.zero (sign_mul_comm _ _)

theorem float_add_comm (x y : Float) : x + y = y + x :=
  congrArg (fun sum => Float.ofModel (.pack sum)) (unpacked_add_comm Format.binary64 _ _)

theorem float_mul_comm (x y : Float) : x * y = y * x :=
  congrArg (fun product => Float.ofModel (.pack product)) (unpacked_mul_comm Format.binary64 _ _)

def Operation.Commutes (operation : Operation) : Prop :=
  operation = .add ∨ operation = .multiply

theorem Operation.Commutes.compute {operation : Operation} (commutes : operation.Commutes)
    (x y : Float) : operation.compute x y = operation.compute y x := by
  rcases commutes with rfl | rfl
  · exact congrArg Except.ok (float_add_comm x y)
  · exact congrArg Except.ok (float_mul_comm x y)

theorem measured_of_calculate {value result : Value} {operation : Operation} {operand : Float}
    {path : Option Path} (done : value.calculate operation operand path = .ok result) :
    value.isMagnitude = true := by
  cases value <;> first | rfl | cases done

theorem isMagnitude_of_combine {left right result : Value} {operation : Operation}
    (done : combine left operation right = .ok result) :
    left.isMagnitude = true ∧ right.isMagnitude = true := by
  unfold combine at done
  split at done
  · exact ⟨rfl, rfl⟩
  · exact ⟨rfl, rfl⟩
  · exact ⟨measured_of_calculate done, rfl⟩
  · cases done

/-- Operands that have a sum or a product have the same one the other way round. -/
theorem combine_comm {operation : Operation} (commutes : operation.Commutes)
    {left right result : Value} (done : combine left operation right = .ok result) :
    combine right operation left = .ok result := by
  have swapped := commutes.compute
  have allowed : operation = .add ∨ operation = .multiply := commutes
  obtain ⟨measured, other⟩ := isMagnitude_of_combine done
  cases left with
  | number x =>
      cases right with
      | number y => simpa only [combine, Value.calculate, swapped y x] using done
      | dimension y unit =>
          simpa only [combine, Value.calculate, if_pos allowed] using done
      | _ => cases other
  | dimension x unit =>
      cases right with
      | number y => simpa only [combine, Value.calculate, if_pos allowed] using done
      | dimension y unit' =>
          simp only [combine] at done ⊢
          split at done
          · rename_i same
            subst same
            simpa only [if_true, Value.calculate, swapped y x] using done
          · cases done
      | _ => cases other
  | _ => cases measured

def wordKinds : List String := ["boolean", "null", "color"]

theorem ofLiteral_cases (text : String) :
    (Value.ofLiteral text).isMagnitude = true ∨ (Value.ofLiteral text).kind ∈ wordKinds ∨
      Value.ofLiteral text = .string text := by
  have dimension : ∀ {raw : List Char} {value : Value}, Value.dimensionOfText? raw = some value →
      value.isMagnitude = true := by
    intro raw value read
    simp only [Value.dimensionOfText?, Option.bind_eq_some_iff, Option.map_eq_some_iff] at read
    rcases read with ⟨_, _, _, _, rfl⟩
    rfl
  rw [Value.ofLiteral]
  split
  · simp [Value.kind, wordKinds]
  · split
    · simp [Value.kind, wordKinds]
    · split
      · simp [Value.kind, wordKinds]
      · split
        · exact Or.inl rfl
        · split
          · rename_i read
            exact Or.inl (dimension read)
          · split
            · simp [Value.kind, wordKinds]
            · exact Or.inr (Or.inr rfl)

theorem Walk.run_ofExcept {α : Type} (result : Except Error α) (cache : Cache) :
    (Walk.ofExcept result).run cache = (result, cache) := rfl

theorem Walk.run_eq {α : Type} {walk : Walk α} {cache : Cache} {result : Except Error α}
    (found : (walk.run cache).1 = result) : walk.run cache = (result, (walk.run cache).2) :=
  Prod.ext found rfl

inductive Operand (store : Store) (theme : Theme) (text : String) : Value → Prop
  | spelled {value} : Value.ofLiteral text = value → value.isMagnitude = true →
      Operand store theme text value
  | named {path value} : Value.ofLiteral text = .string text →
      Path.ofReference? text = some path → Denotes store theme path value →
      value.isMagnitude = true → Operand store theme text value

variable {store : Store} {theme : Theme} {cache : Cache} {allowance : Allowance} {text : String}

section

variable (store theme allowance)

theorem operandValue_spelled (measured : (Value.ofLiteral text).isMagnitude = true) :
    operandValue store theme allowance text = pure (Value.ofLiteral text) := by
  unfold operandValue
  generalize Value.ofLiteral text = value at measured
  cases value <;> first | rfl | cases measured

theorem operandValue_word (word : (Value.ofLiteral text).kind ∈ wordKinds) :
    operandValue store theme allowance text = throw (.value (.operand text)) := by
  unfold operandValue
  generalize Value.ofLiteral text = value at word
  cases value <;> first | rfl | simp [Value.kind, wordKinds] at word

theorem operandValue_shapeless (literal : Value.ofLiteral text = .string text)
    (shapeless : Path.ofReference? text = none) :
    operandValue store theme allowance text = throw (.value (.operand text)) := by
  rw [operandValue, literal]
  simp only [shapeless]

theorem operandValue_named (literal : Value.ofLiteral text = .string text) {path : Path}
    (spelled : Path.ofReference? text = some path) :
    operandValue store theme allowance text = resolve store theme allowance path := by
  rw [operandValue, literal]
  simp only [spelled]

theorem operandValue_sound (text : String) (sound : cache.Sound store) :
    Cache.Sound ((operandValue store theme allowance text).run cache).2 store := by
  rcases ofLiteral_cases text with measured | word | literal
  · rw [operandValue_spelled store theme allowance measured]
    exact sound
  · rw [operandValue_word store theme allowance word]
    exact sound
  · cases spelled : Path.ofReference? text with
    | none =>
        rw [operandValue_shapeless store theme allowance literal spelled]
        exact sound
    | some path =>
        rw [operandValue_named store theme allowance literal spelled]
        exact sound.resolve path

end

/-- The magnitudes that an operand is found to have are those it denotes. -/
theorem operandValue_eq_ok_iff (sound : cache.Sound store) {value : Value}
    (measured : value.isMagnitude = true) :
    ((operandValue store theme allowance text).run cache).1 = .ok value ↔
      Operand store theme text value := by
  constructor
  · intro found
    rcases ofLiteral_cases text with literal | word | literal
    · rw [operandValue_spelled store theme allowance literal] at found
      exact Operand.spelled (Except.ok.inj found) measured
    · rw [operandValue_word store theme allowance word] at found
      cases found
    · cases spelled : Path.ofReference? text with
      | none =>
          rw [operandValue_shapeless store theme allowance literal spelled] at found
          cases found
      | some path =>
          rw [operandValue_named store theme allowance literal spelled] at found
          exact Operand.named literal spelled (denotes_of_outcome sound found) measured
  · intro operand
    cases operand with
    | spelled literal _ =>
        subst literal
        rw [operandValue_spelled store theme allowance measured]
        rfl
    | named literal spelled denotes _ =>
        rw [operandValue_named store theme allowance literal spelled]
        exact outcome_of_isScalar sound denotes (Value.isScalar_of_isMagnitude measured) allowance

/-- An expression has the value that its operation makes of what the operands denote. -/
theorem evaluate_eq_ok_iff (sound : cache.Sound store) {expression : Expression}
    (parsed : Expression.parse? text = some expression) {value : Value} :
    ((evaluate store theme allowance text).run cache).1 = .ok value ↔
      ∃ left right, Operand store theme expression.left left ∧
        Operand store theme expression.right right ∧
        combine left expression.operation right = .ok value := by
  have middle := operandValue_sound store theme allowance expression.left sound
  simp only [evaluate, parsed]
  constructor
  · intro found
    obtain ⟨left, memory, first, rest⟩ := run_bind_eq_ok (Walk.run_eq found)
    obtain ⟨right, after, second, last⟩ := run_bind_eq_ok rest
    have combined : combine left expression.operation right = .ok value := congrArg Prod.fst last
    obtain ⟨leftMeasured, rightMeasured⟩ := isMagnitude_of_combine combined
    rw [first] at middle
    exact ⟨left, right, (operandValue_eq_ok_iff sound leftMeasured).mp (congrArg Prod.fst first),
      (operandValue_eq_ok_iff middle rightMeasured).mp (congrArg Prod.fst second), combined⟩
  · rintro ⟨left, right, first, second, combined⟩
    obtain ⟨leftMeasured, rightMeasured⟩ := isMagnitude_of_combine combined
    rw [run_bind_ok (Walk.run_eq ((operandValue_eq_ok_iff sound leftMeasured).mpr first)),
      run_bind_ok (Walk.run_eq ((operandValue_eq_ok_iff middle rightMeasured).mpr second))]
    exact combined

/-- Unless its text is a literal word, an operand denotes the magnitude that a reference does. -/
theorem Reads.operand {value : Value} (reads : Reads store theme text value)
    (measured : value.isMagnitude = true) (fit : (Value.ofLiteral text).kind ∉ wordKinds) :
    Operand store theme text value := by
  cases reads with
  | literal _ literal => exact Operand.spelled literal measured
  | followed points denotes =>
      rcases ofLiteral_cases text with spelled | word | literal
      · exact absurd spelled (by simp [points.noMagnitude])
      · exact absurd word fit
      · have spelled := ofReference?_eq_some_iff.mpr ⟨points.shaped, points.spelled⟩
        exact Operand.named literal spelled denotes measured

theorem operandValue_reads (allowance : Allowance) (sound : cache.Sound store) {value : Value}
    (reads : Reads store theme text value) (measured : value.isMagnitude = true) :
    ((operandValue store theme allowance text).run cache).1 =
      if (Value.ofLiteral text).kind ∈ wordKinds then .error (.value (.operand text))
      else .ok value := by
  by_cases word : (Value.ofLiteral text).kind ∈ wordKinds
  · rw [if_pos word, operandValue_word store theme allowance word]
    rfl
  · rw [if_neg word, operandValue_eq_ok_iff sound measured]
    exact reads.operand measured word

theorem evaluate_reads (sound : cache.Sound store) {expression : Expression}
    (parsed : Expression.parse? text = some expression) {left right : Value}
    (first : Reads store theme expression.left left) (leftMeasured : left.isMagnitude = true)
    (second : Reads store theme expression.right right) (rightMeasured : right.isMagnitude = true) :
    ((evaluate store theme allowance text).run cache).1 =
      if (Value.ofLiteral expression.left).kind ∈ wordKinds then
        .error (.value (.operand expression.left))
      else if (Value.ofLiteral expression.right).kind ∈ wordKinds then
        .error (.value (.operand expression.right))
      else combine left expression.operation right := by
  have leftRun := operandValue_reads allowance sound first leftMeasured
  have middle := operandValue_sound store theme allowance expression.left sound
  have rightRun := operandValue_reads allowance middle second rightMeasured
  simp only [evaluate, parsed]
  split
  · rename_i word
    rw [if_pos word] at leftRun
    rw [run_bind_error (Walk.run_eq leftRun)]
  · rename_i fit
    rw [if_neg fit] at leftRun
    rw [run_bind_ok (Walk.run_eq leftRun)]
    split
    · rename_i word
      rw [if_pos word] at rightRun
      rw [run_bind_error (Walk.run_eq rightRun)]
    · rename_i fit
      rw [if_neg fit] at rightRun
      rw [run_bind_ok (Walk.run_eq rightRun), Walk.run_ofExcept]

def Unbroken (text : String) : Prop :=
  ∀ c ∈ text.toList, isBlank c = false

instance (text : String) : Decidable (Unbroken text) :=
  List.decidableBAll _ _

theorem Unbroken.splitWhere (unbroken : Unbroken text) :
    DesignTokens.splitWhere isBlank text.toList = [text.toList] := by
  rw [splitWhere_eq_splitOnP]
  exact List.splitOnP_eq_singleton unbroken

theorem Unbroken.splitWhere_append (unbroken : Unbroken text) (rest : List Char) :
    DesignTokens.splitWhere isBlank (text.toList ++ ' ' :: rest) =
      text.toList :: DesignTokens.splitWhere isBlank rest := by
  rw [splitWhere_eq_splitOnP, splitWhere_eq_splitOnP]
  exact List.splitOnP_append_cons_of_forall_mem unbroken ' ' (by decide) rest

def Operation.symbol : Operation → Char
  | .add => '+'
  | .subtract => '-'
  | .multiply => '*'
  | .divide => '/'

theorem Operation.ofSymbol?_symbol (operation : Operation) :
    ofSymbol? [operation.symbol] = some operation := by
  cases operation <;> rfl

theorem Operation.unbroken_symbol (operation : Operation) :
    Unbroken (String.ofList [operation.symbol]) := by
  cases operation <;> simp [Unbroken, symbol] <;> decide

def expressionText (left : String) (operation : Operation) (right : String) : String :=
  left ++ " " ++ String.ofList [operation.symbol] ++ " " ++ right

theorem toList_expressionText (left : String) (operation : Operation) (right : String) :
    (expressionText left operation right).toList =
      left.toList ++ ' ' :: ((String.ofList [operation.symbol]).toList ++ ' ' :: right.toList) := by
  simp [expressionText]

theorem pieces_expressionText {left right : String} (whole : Unbroken left)
    (other : Unbroken right) (operation : Operation) :
    pieces isBlank (expressionText left operation right).toList =
      [left.toList, [operation.symbol], right.toList].filter (!·.isEmpty) := by
  rw [pieces, toList_expressionText, whole.splitWhere_append,
    operation.unbroken_symbol.splitWhere_append, other.splitWhere, String.toList_ofList]

theorem parse?_expressionText {left right : String} (whole : Unbroken left)
    (other : Unbroken right) (operation : Operation) :
    Expression.parse? (expressionText left operation right) =
      if left = "" ∨ right = "" then none else some ⟨left, operation, right⟩ := by
  rw [Expression.parse?, pieces_expressionText whole other]
  by_cases noLeft : left = ""
  · subst noLeft
    by_cases noRight : right = ""
    · subst noRight
      simp
    · have filled : right.toList ≠ [] := by simpa using noRight
      simp [filled]
  · have filled : left.toList ≠ [] := by simpa using noLeft
    by_cases noRight : right = ""
    · subst noRight
      simp [filled]
    · have present : right.toList ≠ [] := by simpa using noRight
      simp [filled, present, noLeft, noRight, Operation.ofSymbol?_symbol]

theorem Path.mem_dotted {path : Path} {c : Char} (inside : c ∈ path.dotted.toList) :
    c = '.' ∨ isSegmentChar c = true ∨ c = '\n' := by
  by_cases dot : c = '.'
  · exact Or.inl dot
  · obtain ⟨segment, member, within⟩ := (mem_intercalate_dot dot path.segments).mp inside
    exact Or.inr (isSegmentChar_or_lineBreak (path.valid segment member) within)

theorem read_marked {operation : Operation} (commutes : operation.Commutes)
    (marked : operation.symbol ∈ text.toList) (path : Path) :
    Path.read (trimmed text) ≠ .ok path := by
  intro read
  have parsed : Path.parse (trimmed text) = .ok path := by
    rw [Path.read] at read
    cases parsed : Path.parse (trimmed text) with
    | error fault =>
        rw [parsed] at read
        cases read
    | ok other =>
        rw [parsed] at read
        exact congrArg Except.ok (Except.ok.inj read)
  have visible : isBlank operation.symbol = false := by
    rcases commutes with rfl | rfl <;> decide
  have inside : operation.symbol ∈ path.dotted.toList := by
    rw [Path.parse_eq_ok_iff.mp parsed, trimmed, String.toList_ofList, trimmed,
      String.toList_ofList]
    exact mem_trimWhere visible (mem_trimWhere visible marked)
  have stray := Path.mem_dotted inside
  rcases commutes with rfl | rfl <;> revert stray <;> decide

theorem evaluate_marked {operation : Operation} (commutes : operation.Commutes)
    (marked : operation.symbol ∈ text.toList) (unparsed : Expression.parse? text = none)
    (value : Value) : ((evaluate store theme allowance text).run cache).1 ≠ .ok value := by
  intro found
  rcases run : (evaluate store theme allowance text).run cache with ⟨result, after⟩
  rw [run] at found
  subst found
  simp only [evaluate, unparsed] at run
  obtain ⟨path, memory, read, _⟩ := run_bind_eq_ok run
  rw [Walk.run_ofExcept] at read
  exact read_marked commutes marked path (Prod.mk.inj read).1

/-- The sum and the product of two operands do not depend on which of them comes first. -/
theorem evaluate_swapped (sound : cache.Sound store) {operation : Operation}
    (commutes : operation.Commutes) {left right : String} (whole : Unbroken left)
    (other : Unbroken right) {value : Value}
    (found : ((evaluate store theme allowance (expressionText left operation right)).run
      cache).1 = .ok value) :
    ((evaluate store theme allowance (expressionText right operation left)).run
      cache).1 = .ok value := by
  by_cases missing : left = "" ∨ right = ""
  · have unparsed := parse?_expressionText whole other operation
    rw [if_pos missing] at unparsed
    have marked : operation.symbol ∈ (expressionText left operation right).toList := by
      simp [toList_expressionText]
    exact absurd found (evaluate_marked commutes marked unparsed value)
  · have parsed := parse?_expressionText whole other operation
    have swapped := parse?_expressionText other whole operation
    rw [if_neg missing] at parsed
    rw [if_neg (mt Or.symm missing)] at swapped
    obtain ⟨first, second, one, two, combined⟩ := (evaluate_eq_ok_iff sound parsed).mp found
    exact (evaluate_eq_ok_iff sound swapped).mpr
      ⟨second, first, two, one, combine_comm commutes combined⟩

end DesignTokens
