import AssignScript.Operator
import AssignScript.Value

/-!
# Typed expressions

What the checker makes of an expression: every node carries the type of its value, and arguments that were
left out are absent.

## Main definitions

* `TypedExpr`, `TypedExpr.dataType`, `TypedExpr.constant`.
-/

namespace AssignScript

/-- Expressions with the type of each node. -/
inductive TypedExpr where
  /-- A constant. -/
  | const (type : DataType) (value : Value)
  /-- A name whose value is looked up. -/
  | var (type : DataType) (name : String)
  /-- An operation on one operand. -/
  | unary (type : DataType) (op : UnaryOp) (operand : TypedExpr)
  /-- An operation on two operands. -/
  | binary (type : DataType) (op : BinaryOp) (left right : TypedExpr)
  /-- Whether the operand lies between two bounds, both included. -/
  | between (type : DataType) (operand lower upper : TypedExpr)
  /-- The characters from one offset up to another. -/
  | substr (type : DataType) (operand : TypedExpr) (first last : Option TypedExpr)
  /-- A text with every match of a pattern replaced. -/
  | replace (type : DataType) (operand pattern : TypedExpr) (replacement : Option TypedExpr)
  /-- Where a text occurs in another. -/
  | instr (type : DataType) (operand pattern : TypedExpr) (start occurrence : Option TypedExpr)
  /-- A choice between two expressions. -/
  | conditional (type : DataType) (condition thenBranch elseBranch : TypedExpr)
  deriving Inhabited

namespace TypedExpr

/-- The type of an expression's value. -/
def dataType : TypedExpr → DataType
  | .const t _ | .var t _ | .unary t _ _ | .binary t _ _ _ | .between t _ _ _
  | .substr t _ _ _ | .replace t _ _ _ | .instr t _ _ _ _ | .conditional t _ _ _ => t

/-- A constant with the type of its value. -/
def constant (v : Value) : TypedExpr :=
  .const v.dataType v

end TypedExpr

end AssignScript
