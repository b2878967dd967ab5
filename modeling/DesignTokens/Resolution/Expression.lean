import DesignTokens.Resolution.Basic

/-!
Expressions: two operands with an operation between them, or one path.  An
operand is a number, a dimension or a path.
-/

namespace DesignTokens

def Operation.ofSymbol? : List Char → Option Operation
  | ['+'] => some .add
  | ['-'] => some .subtract
  | ['*'] => some .multiply
  | ['/'] => some .divide
  | _ => none

structure Expression where
  left : String
  operation : Operation
  right : String
deriving DecidableEq, Repr

def Expression.parse? (text : String) : Option Expression :=
  match pieces isBlank text.toList with
  | [left, symbol, right] =>
      (Operation.ofSymbol? symbol).map fun operation =>
        ⟨String.ofList left, operation, String.ofList right⟩
  | _ => none

def operandValue (store : Store) (theme : Theme) (allowance : Allowance) (text : String) :
    Walk Value :=
  match Value.ofLiteral text with
  | .number magnitude => return .number magnitude
  | .dimension magnitude unit => return .dimension magnitude unit
  | .string _ =>
      match Path.ofReference? text with
      | some path => resolve store theme allowance path
      | none => throw (.value (.operand text))
  | _ => throw (.value (.operand text))

/-- Combines two operands.  Two dimensions must have the same unit, and a number
may stand in front of a dimension if the order does not matter. -/
def combine (left : Value) (operation : Operation) (right : Value) : Except Error Value :=
  match left, right with
  | .dimension magnitude unit, .dimension operand other =>
      if unit = other then (Value.dimension magnitude unit).calculate operation operand none
      else .error (.typeMismatch ("dimension in " ++ unit.name) other.name none)
  | .number magnitude, .dimension operand unit =>
      if operation = .add ∨ operation = .multiply then
        (Value.dimension operand unit).calculate operation magnitude none
      else .error (.typeMismatch "number or dimension" "dimension" none)
  | left, .number operand => left.calculate operation operand none
  | _, right => .error (.typeMismatch "number or dimension" right.kind none)

def evaluate (store : Store) (theme : Theme) (allowance : Allowance) (text : String) :
    Walk Value := do
  match Expression.parse? text with
  | some expression =>
      let left ← operandValue store theme allowance expression.left
      let right ← operandValue store theme allowance expression.right
      Walk.ofExcept (combine left expression.operation right)
  | none =>
      let path ← Walk.ofExcept (Path.read (trimmed text))
      resolve store theme allowance path

end DesignTokens
