import AssignScript.Operator
import AssignScript.Span
import AssignScript.Value

/-!
# Expressions and statements as written

The syntax of the language: every node carries the span of the source that it was read from.

## Main definitions

* `Literal`, `Expr`, `Statement`, `Script`;
* `Expr.span`, `Expr.isOmitted`.
-/

namespace AssignScript

/-- Constants as written. -/
inductive Literal where
  /-- The unknown value. -/
  | null
  /-- A truth value. -/
  | boolean (b : Bool)
  /-- A whole number without a sign. -/
  | integer (i : Int64)
  /-- A number with a point or an exponent. -/
  | number (x : Float)
  /-- A text. -/
  | string (s : String)
  deriving DecidableEq, Inhabited

/-- The value of a constant. -/
def Literal.value : Literal → Value
  | .null => .null
  | .boolean b => .boolean b
  | .integer i => .integer i
  | .number x => .number x
  | .string s => .string s

/-- Expressions as written. -/
inductive Expr where
  /-- A constant. -/
  | literal (span : Span) (value : Literal)
  /-- A name that stands for its value. -/
  | variable (span : Span) (name : String)
  /-- An expression in parentheses. -/
  | parens (span : Span) (inner : Expr)
  /-- An operation on one operand. -/
  | unary (span : Span) (op : UnaryOp) (operand : Expr)
  /-- An operation on two operands. -/
  | binary (span : Span) (op : BinaryOp) (left right : Expr)
  /-- A choice between two expressions. -/
  | conditional (span : Span) (condition thenBranch elseBranch : Expr)
  /-- A function by name, with its arguments. -/
  | call (span : Span) (name : String) (args : List Expr)
  /-- The placeholder of an argument that is left out. -/
  | omitted (span : Span)
  deriving Inhabited

namespace Expr

/-- The piece of source that an expression was read from. -/
def span : Expr → Span
  | .literal s _ | .variable s _ | .parens s _ | .unary s _ _ | .binary s _ _ _
  | .conditional s _ _ _ | .call s _ _ | .omitted s => s

/-- Whether an argument is left out. -/
def isOmitted : Expr → Bool
  | .omitted _ => true
  | _ => false

end Expr

/-- `target := expression`. -/
structure Statement where
  /-- The name that is bound. -/
  target : String
  /-- What it is bound to. -/
  expression : Expr
  /-- The piece of source that the statement was read from. -/
  span : Span
  deriving Inhabited

/-- Statements in order. -/
abbrev Script := List Statement

end AssignScript
