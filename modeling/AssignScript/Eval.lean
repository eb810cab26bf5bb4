import AssignScript.NameMap
import AssignScript.Operation.Basic
import AssignScript.TypedExpr

/-!
# Evaluating typed expressions

All operands of an operation are evaluated, from left to right, before the operation itself is; of a choice
only the branch that is taken.

## Main definitions

* `Context`: the values that names stand for;
* `TypedExpr.eval`: the value of an expression in a context.
-/

namespace AssignScript

/-- The values that names stand for. -/
abbrev Context := NameMap Value

/-- The value of a name, brought to the type it was checked with. -/
def Context.read (context : Context) (type : DataType) (name : String) : Evaluated Value :=
  match context.get? name with
  | some v => conform type (.variable name type) v
  | none => .error (.unboundVariable name)

/-- Whether a condition takes the first branch; null takes the second one. -/
def takesFirst : Value → Evaluated Bool
  | .boolean b => .ok b
  | .null => .ok false
  | v => .error (.unexpectedValue v .condition)

/-- The value of a branch, brought to the common type of both branches if they have one. -/
def conformBranch (first second : DataType) (v : Value) : Evaluated Value :=
  match first.widen second with
  | some type => conform type (.choice type) v
  | none => .ok v

namespace TypedExpr

variable [PatternLibrary]

mutual

/-- The value of an expression. -/
def eval (context : Context) : TypedExpr → Evaluated Value
  | .const _ v => .ok v
  | .var type name => context.read type name
  | .unary _ op operand => do
    let v ← operand.eval context
    applyUnary op v
  | .binary _ op left right => do
    let l ← left.eval context
    let r ← right.eval context
    applyBinary op l r
  | .between _ operand lower upper => do
    let v ← operand.eval context
    let l ← lower.eval context
    let u ← upper.eval context
    AssignScript.between v l u
  | .substr _ operand first last => do
    let v ← operand.eval context
    let first ← evalOptional context first
    let last ← evalOptional context last
    substring v first last
  | .replace _ operand pattern replacement => do
    let v ← operand.eval context
    let p ← pattern.eval context
    let replacement ← evalOptional context replacement
    replaceMatches v p replacement
  | .instr _ operand pattern start occurrence => do
    let v ← operand.eval context
    let p ← pattern.eval context
    let start ← evalOptional context start
    let occurrence ← evalOptional context occurrence
    AssignScript.occurrence v p start occurrence
  | .conditional _ condition thenBranch elseBranch => do
    let c ← condition.eval context
    let first ← takesFirst c
    let v ← if first then thenBranch.eval context else elseBranch.eval context
    conformBranch thenBranch.dataType elseBranch.dataType v

/-- The value of an operand, if it is there. -/
def evalOptional (context : Context) : Option TypedExpr → Evaluated (Option Value)
  | none => .ok none
  | some e => do
    let v ← e.eval context
    return some v

end

end TypedExpr

end AssignScript
