import AssignScript.EvalError
import AssignScript.Operator

/-!
# Arithmetic and order of values

Whole numbers are added, subtracted, multiplied and negated exactly or not at all. As soon as one operand
is a double-precision number, and in every division, both are.

## Main definitions

* `exactInteger`: a whole number, if it has 64 bits;
* `arithmetic`, `negate`: operations on numbers;
* `compareValues`, `between`: the order of values.
-/

namespace AssignScript

/-- A whole number, if it has 64 bits. -/
def exactInteger (operation : String) (n : Int) : Evaluated Value :=
  if Int64.minValue.toInt ≤ n ∧ n ≤ Int64.maxValue.toInt then .ok (.integer (.ofInt n))
  else .error (.overflow operation)

/-- The operation on whole numbers that is exact, if there is one. -/
def exactOperation? : BinaryOp → Option (Int → Int → Int)
  | .add => some (· + ·)
  | .sub => some (· - ·)
  | .mul => some (· * ·)
  | _ => none

/-- A number as an operand of double precision. -/
def floatOperand (op : BinaryOp) (v : Value) : Evaluated Float :=
  match v.toFloat? with
  | some x => .ok x
  | none => unexpected v op.symbol

/-- An operation on two double-precision numbers. Division by a zero of either sign is refused. -/
def floatArithmetic (op : BinaryOp) (x y : Float) : Evaluated Value :=
  match op with
  | .add => .ok (.number (x + y))
  | .sub => .ok (.number (x - y))
  | .mul => .ok (.number (x * y))
  | _ => if y == 0.0 then .error .divisionByZero else .ok (.number (x / y))

/-- Sum, difference, product or quotient of two values that are not null. -/
def arithmetic (op : BinaryOp) (left right : Value) : Evaluated Value :=
  match exactOperation? op, left, right with
  | some f, .integer i, .integer j => exactInteger op.symbol (f i.toInt j.toInt)
  | _, _, _ => do
    let x ← floatOperand op left
    let y ← floatOperand op right
    floatArithmetic op x y

/-- A value that is not null with the other sign. -/
def negate : Value → Evaluated Value
  | .integer i => exactInteger UnaryOp.minus.symbol (-i.toInt)
  | .number x => .ok (.number (-x))
  | v => unexpected v UnaryOp.minus.symbol

/-! ### Order -/

/-- Whether a value is a number. -/
def Value.isNumeric (v : Value) : Bool :=
  v.toFloat?.isSome

/-- Whether a comparison holds for an order of its operands. -/
def BinaryOp.holdsFor (op : BinaryOp) (order : Ordering) : Bool :=
  match op with
  | .eq => order == .eq
  | .ne => order != .eq
  | .lt => order == .lt
  | .le => order != .gt
  | .gt => order == .gt
  | _ => order != .lt

/-- Compares two values that are not null. Of numbers without an order only inequality holds. -/
def compareValues (op : BinaryOp) (left right : Value) : Evaluated Value :=
  match left.order right with
  | some order => .ok (.boolean (op.holdsFor order))
  | none =>
    if left.isNumeric && right.isNumeric then .ok (.boolean (op == .ne))
    else unexpected right op.symbol

/-- Whether a value lies between two others, both included. Null leaves it open, and a number without
    an order lies nowhere. -/
def between (value lower upper : Value) : Evaluated Value :=
  if value.isNull || lower.isNull || upper.isNull then .ok .null
  else
    match value.order lower, value.order upper with
    | some l, some u => .ok (.boolean (l != .lt && u != .gt))
    | _, _ =>
      if value.isNumeric && lower.isNumeric && upper.isNumeric then .ok (.boolean false)
      else unexpected value "between"

end AssignScript
