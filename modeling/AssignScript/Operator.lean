import AssignScript.DataType

/-!
# Operators

The operations that take one or two operands, with the types they accept and give.

## Main definitions

* `UnaryOp`, `BinaryOp`;
* `UnaryOp.outputType`, `BinaryOp.outputType`: the type of a result, if the operands fit;
* `UnaryOp.symbol`, `BinaryOp.symbol`: how an operation is named in messages and results.
-/

namespace AssignScript

/-- Operations on one operand. -/
inductive UnaryOp where
  /-- Logical negation. -/
  | not
  /-- The test for null. -/
  | isNull
  /-- The sign that changes nothing. -/
  | plus
  /-- The sign that negates. -/
  | minus
  /-- Removal of blanks and control characters at both ends. -/
  | trim
  /-- Removal of blanks at the front. -/
  | ltrim
  /-- Removal of blanks at the back. -/
  | rtrim
  /-- Upper case. -/
  | upper
  /-- Lower case. -/
  | lower
  /-- The number of characters. -/
  | length
  deriving DecidableEq, Repr, Inhabited

/-- Operations on two operands. -/
inductive BinaryOp where
  /-- Sum. -/
  | add
  /-- Difference. -/
  | sub
  /-- Product. -/
  | mul
  /-- Quotient. -/
  | div
  /-- Equality. -/
  | eq
  /-- Inequality. -/
  | ne
  /-- Less than. -/
  | lt
  /-- At most. -/
  | le
  /-- Greater than. -/
  | gt
  /-- At least. -/
  | ge
  /-- Conjunction. -/
  | and
  /-- Disjunction. -/
  | or
  /-- Exclusive disjunction. -/
  | xor
  /-- Texts one after the other. -/
  | concat
  /-- A text against a pattern. -/
  | matches
  deriving DecidableEq, Repr, Inhabited

namespace UnaryOp

/-- How an operation is named. -/
def symbol : UnaryOp → String
  | .not => "not"
  | .isNull => "isnull"
  | .plus => "+"
  | .minus => "-"
  | .trim => "trim"
  | .ltrim => "ltrim"
  | .rtrim => "rtrim"
  | .upper => "upper"
  | .lower => "lower"
  | .length => "length"

/-- The type of a result, if the operand fits. -/
def outputType : UnaryOp → DataType → Option DataType
  | .not, .boolean => some .boolean
  | .isNull, _ => some .boolean
  | .plus, t | .minus, t => if t.isNumeric then some t else none
  | .trim, .string | .ltrim, .string | .rtrim, .string | .upper, .string | .lower, .string =>
    some .string
  | .length, .string => some .integer
  | _, _ => none

end UnaryOp

namespace BinaryOp

/-- How an operation is named. -/
def symbol : BinaryOp → String
  | .add => "+"
  | .sub => "-"
  | .mul => "*"
  | .div => "/"
  | .eq => "="
  | .ne => "<>"
  | .lt => "<"
  | .le => "<="
  | .gt => ">"
  | .ge => ">="
  | .and => "and"
  | .or => "or"
  | .xor => "xor"
  | .concat => "||"
  | .matches => "match_characters"

/-- The type of a result, if the operands fit. -/
def outputType (op : BinaryOp) (left right : DataType) : Option DataType :=
  match op with
  | .add | .sub | .mul => (left.widen right).filter (·.isNumeric)
  | .div => ((left.widen right).filter (·.isNumeric)).map fun _ => .number
  | .eq | .ne => ((left.widen right).filter (· != .null)).map fun _ => .boolean
  | .lt | .le | .gt | .ge =>
    ((left.widen right).filter fun t => t.isNumeric || t.isString).map fun _ => .boolean
  | .and | .or | .xor => if left.isBoolean && right.isBoolean then some .boolean else none
  | .concat => if left.isString && right.isString then some .string else none
  | .matches => if left.isString && right.isString then some .boolean else none

end BinaryOp

end AssignScript
