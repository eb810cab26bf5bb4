import AssignScript.Expr
import AssignScript.FunctionTable
import AssignScript.SemanticError
import AssignScript.TypedExpr

/-!
# Checking expressions

The checker gives every expression a type, from the declared types of the names in it and the rules of a
function table, and says what is wrong with an expression that has none.

## Main definitions

* `Declarations`: the declared types of names;
* `requireType`, `commonType`: the two ways in which operands must fit;
* `Checker`, `Checker.check`.

## Design notes

As in the parser, one level of nesting takes the check of the next level as an argument, and
`Checker.checkWithin` ties the knot by recursion on the levels that are left of the limit. How the levels are counted
is a matter of that argument: the rules are given over any monad in which an expression can be refused.
-/

namespace AssignScript

/-- The declared types of names. -/
abbrev Declarations := NameMap DataType

/-- The outcome of a check. -/
abbrev Checked (α : Type) := Except SemanticError α

/-- The check of an expression at the next level of nesting. -/
abbrev Check := Expr → Checked TypedExpr

section Rules

variable {m : Type → Type} [Monad m] [MonadExceptOf SemanticError m]

/-! ### How operands must fit -/

/-- An operand that must have a type, or one that widens to it. -/
def requireType (expected : DataType) (e : TypedExpr) (span : Span) : m TypedExpr :=
  if e.dataType.widensTo expected then return e
  else throw (.invalidType expected e.dataType span)

/-- The common type of operands that must have one. -/
def commonType (es : List TypedExpr) (span : Span) : m DataType :=
  match DataType.widenAll (es.map TypedExpr.dataType) with
  | some t => return t
  | none => throw (.conflictingTypes (distinctTypes (es.map TypedExpr.dataType)) span)

/-! ### Rules -/

/-- Two operands, both checked before either must fit. -/
def checkPair (check : Expr → m TypedExpr) (expected : DataType) (left right : Expr) :
    m (TypedExpr × TypedExpr) := do
  let l ← check left
  let r ← check right
  let l ← requireType expected l left.span
  let r ← requireType expected r right.span
  return (l, r)

/-- Operators with one operand. -/
def checkUnary (check : Expr → m TypedExpr) (rule : UnaryRule) (op : UnaryOp) (operand : Expr) :
    m TypedExpr := do
  match rule with
  | .logical =>
    let e ← requireType .boolean (← check operand) operand.span
    return .unary ((op.outputType e.dataType).getD .boolean) op e
  | .sign =>
    let e ← requireType .number (← check operand) operand.span
    return .unary e.dataType op e

/-- Operators with two operands. -/
def checkBinary (check : Expr → m TypedExpr) (rule : BinaryRule) (op : BinaryOp) (left right : Expr)
    (span : Span) : m TypedExpr := do
  match rule with
  | .logical =>
    let (l, r) ← checkPair check .boolean left right
    return .binary ((op.outputType l.dataType r.dataType).getD .boolean) op l r
  | .comparison =>
    let l ← check left
    let r ← check right
    let common ← commonType [l, r] span
    match op.outputType l.dataType r.dataType with
    | some t => return .binary t op l r
    | none => throw (.invalidType .number common left.span)
  | .arithmetic =>
    let (l, r) ← checkPair check .number left right
    return .binary ((op.outputType l.dataType r.dataType).getD .number) op l r
  | .concatenation =>
    let (l, r) ← checkPair check .string left right
    return .binary .string op l r

/-- An argument of a type. -/
def checkArgument (check : Expr → m TypedExpr) (expected : DataType) (arg : Expr) : m TypedExpr := do
  requireType expected (← check arg) arg.span

/-- An argument of a type that may be left out, by the placeholder or at the end. -/
def checkOptional (check : Expr → m TypedExpr) (expected : DataType) (arg : Option Expr) :
    m (Option TypedExpr) := do
  match arg with
  | none => return none
  | some arg => if arg.isOmitted then return none else return some (← checkArgument check expected arg)

/-- `between(operand, lower, upper)`. -/
def checkBetween (check : Expr → m TypedExpr) (operand lower upper : Expr) (span : Span) :
    m TypedExpr := do
  let e ← check operand
  let l ← check lower
  let u ← check upper
  let common ← commonType [e, l, u] span
  if common.isNumeric then return .between .boolean e l u
  else throw (.invalidType .number common operand.span)

/-- `match_characters(operand, pattern)`. -/
def checkMatching (check : Expr → m TypedExpr) (operand pattern : Expr) : m TypedExpr := do
  let (e, p) ← checkPair check .string operand pattern
  return .binary .boolean .matches e p

/-- A function of one text. -/
def checkText (check : Expr → m TypedExpr) (op : UnaryOp) (operand : Expr) : m TypedExpr := do
  let e ← checkArgument check .string operand
  return .unary ((op.outputType e.dataType).getD .string) op e

/-- `substr(operand, first, last)`; the last two may be left out. -/
def checkSubstring (check : Expr → m TypedExpr) (operand : Expr) (first last : Option Expr) :
    m TypedExpr := do
  let e ← checkArgument check .string operand
  let first ← checkOptional check .integer first
  let last ← checkOptional check .integer last
  return .substr .string e first last

/-- `replace(operand, pattern, replacement)`; the last may be left out. -/
def checkReplacement (check : Expr → m TypedExpr) (operand pattern : Expr) (replacement : Option Expr) :
    m TypedExpr := do
  let e ← checkArgument check .string operand
  let p ← checkArgument check .string pattern
  let replacement ← checkOptional check .string replacement
  return .replace .string e p replacement

/-- `instr(operand, pattern, start, occurrence)`; the last two may be left out. -/
def checkOccurrence (check : Expr → m TypedExpr) (operand pattern : Expr) (start occurrence : Option Expr) :
    m TypedExpr := do
  let e ← checkArgument check .string operand
  let p ← checkArgument check .string pattern
  let start ← checkOptional check .integer start
  let occurrence ← checkOptional check .integer occurrence
  return .instr .integer e p start occurrence

/-- Functions called by name, which is in lower case. The number of arguments must fit before any of
    them is checked. -/
def checkCall (check : Expr → m TypedExpr) (rule : CallRule) (name : String) (args : List Expr)
    (span : Span) : m TypedExpr :=
  match rule, args with
  | .between, [operand, lower, upper] => checkBetween check operand lower upper span
  | .between, _ => throw (.argumentCount name 3 3 args.length span)
  | .matching, [operand, pattern] => checkMatching check operand pattern
  | .matching, _ => throw (.argumentCount name 2 2 args.length span)
  | .nullTest, [operand] => do return .unary .boolean .isNull (← check operand)
  | .nullTest, _ => throw (.argumentCount name 1 1 args.length span)
  | .text, _ =>
    match textOperation? name, args with
    | none, _ => throw (.unknownFunction name span)
    | some op, [operand] => checkText check op operand
    | some _, _ => throw (.argumentCount name 1 1 args.length span)
  | .substring, [operand] => checkSubstring check operand none none
  | .substring, [operand, first] => checkSubstring check operand (some first) none
  | .substring, [operand, first, last] => checkSubstring check operand (some first) (some last)
  | .substring, _ => throw (.argumentCount name 1 3 args.length span)
  | .replacement, [operand, pattern] => checkReplacement check operand pattern none
  | .replacement, [operand, pattern, replacement] =>
    checkReplacement check operand pattern (some replacement)
  | .replacement, _ => throw (.argumentCount name 2 3 args.length span)
  | .occurrence, [operand, pattern] => checkOccurrence check operand pattern none none
  | .occurrence, [operand, pattern, start] =>
    checkOccurrence check operand pattern (some start) none
  | .occurrence, [operand, pattern, start, occurrence] =>
    checkOccurrence check operand pattern (some start) (some occurrence)
  | .occurrence, _ => throw (.argumentCount name 2 4 args.length span)

/-- `if condition then expression else expression`. The condition must fit before the branches are
    checked. -/
def checkConditional (check : Expr → m TypedExpr) (condition thenBranch elseBranch : Expr) (span : Span) :
    m TypedExpr := do
  let c ← requireType .boolean (← check condition) condition.span
  let t ← check thenBranch
  let e ← check elseBranch
  return .conditional (← commonType [t, e] span) c t e

/-! ### The checker -/

/-- What an expression is checked against. -/
structure Checker where
  /-- The declared types of names. -/
  declarations : Declarations
  /-- The operators and functions there are. -/
  functions : FunctionTable
  /-- How many expressions may stand inside one another. -/
  limit : Nat

/-- One expression, given the check of those inside it. -/
def Checker.checkNode (c : Checker) (check : Expr → m TypedExpr) : Expr → m TypedExpr
  | .literal _ value => return .constant value.value
  | .variable span name =>
    match c.declarations.get? name with
    | some t => return .var t name
    | none => throw (.undefinedVariable name span)
  | .parens _ inner => check inner
  | .unary span op operand =>
    match c.functions.unary op with
    | some rule => checkUnary check rule op operand
    | none => throw (.unknownFunction op.symbol span)
  | .binary span op left right =>
    match c.functions.binary op with
    | some rule => checkBinary check rule op left right span
    | none => throw (.unknownFunction op.symbol span)
  | .conditional span condition thenBranch elseBranch =>
    checkConditional check condition thenBranch elseBranch span
  | .call span name args =>
    match c.functions.call? (Text.toLower name) with
    | some rule => checkCall check rule (Text.toLower name) args span
    | none => throw (.unknownFunction (Text.toLower name) span)
  | .omitted span => throw (.missingOperand span)

end Rules

namespace Checker

/-- An expression with some levels of nesting left. -/
def checkWithin (c : Checker) : Nat → Check
  | 0, e => .error (.nestingTooDeep c.limit e.span)
  | room + 1, e => c.checkNode (c.checkWithin room) e

/-- A whole expression. -/
def check (c : Checker) (e : Expr) : Checked TypedExpr :=
  c.checkWithin c.limit e

end Checker

end AssignScript
