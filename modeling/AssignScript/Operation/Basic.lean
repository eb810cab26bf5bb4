import AssignScript.Operation.Arithmetic
import AssignScript.Operation.TextFunction
import AssignScript.Text.Blank
import AssignScript.Text.Case

/-!
# Operations on values

What the operators and the functions of one or two operands do to values.

## Main definitions

* `applyUnary`, `applyBinary`: the result of an operation;
* `resultOfNull`: what an operation gives where an operand is null;
* `conform`: a value brought to the type of its place.
-/

namespace AssignScript

open Text

/-- A value brought to the type of its place. -/
def conform (type : DataType) (site : Site) (value : Value) : Evaluated Value :=
  match value.conformTo type with
  | some v => .ok v
  | none => .error (.unexpectedValue value site)

/-- A function of the characters of a text. -/
def mapText (f : List Char → List Char) (s : String) : Value :=
  .string (.ofList (f s.toList))

/-- An operation on one operand. Null stays null, except that one can test for it. -/
def applyUnary : UnaryOp → Value → Evaluated Value
  | .isNull, v => .ok (.boolean v.isNull)
  | _, .null => .ok .null
  | .not, .boolean b => .ok (.boolean !b)
  | .plus, .integer i => .ok (.integer i)
  | .plus, .number x => .ok (.number x)
  | .minus, v => negate v
  | .trim, .string s => .ok (mapText (trimBoth isControlOrSpace) s)
  | .ltrim, .string s => .ok (mapText (trimLeft isAsciiBlank) s)
  | .rtrim, .string s => .ok (mapText (trimRight isAsciiBlank) s)
  | .upper, .string s => .ok (.string (toUpper s))
  | .lower, .string s => .ok (.string (toLower s))
  | .length, .string s => .ok (.integer (lengthOf s))
  | op, v => unexpected v op.symbol

/-- What an operation gives where an operand is null: an operand that decides a conjunction or a
    disjunction by itself does so, and otherwise the result is open. -/
def resultOfNull (op : BinaryOp) (left right : Value) : Value :=
  match op with
  | .and => if left = .boolean false ∨ right = .boolean false then .boolean false else .null
  | .or => if left = .boolean true ∨ right = .boolean true then .boolean true else .null
  | _ => .null

/-- A logical operation on two values that are not null. -/
def logical (op : BinaryOp) : Value → Value → Evaluated Value
  | .boolean a, .boolean b =>
    .ok (.boolean (match op with | .and => a && b | .or => a || b | _ => a != b))
  | .boolean _, other => unexpected other op.symbol
  | other, _ => unexpected other op.symbol

/-- An operation on two texts. -/
def onTexts (op : BinaryOp) (f : String → String → Evaluated Value) : Value → Value → Evaluated Value
  | .string s, .string t => f s t
  | .string _, other => unexpected other op.symbol
  | other, _ => unexpected other op.symbol

/-- An operation on two operands. -/
def applyBinary [PatternLibrary] (op : BinaryOp) (left right : Value) : Evaluated Value :=
  if left.isNull || right.isNull then .ok (resultOfNull op left right)
  else
    match op with
    | .add | .sub | .mul | .div => arithmetic op left right
    | .eq | .ne | .lt | .le | .gt | .ge => compareValues op left right
    | .and | .or | .xor => logical op left right
    | .concat => onTexts op (fun s t => .ok (.string (s ++ t))) left right
    | .matches => onTexts op matchesWhole left right

end AssignScript
