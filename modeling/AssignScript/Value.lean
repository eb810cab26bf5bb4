import AssignScript.DataType
import AssignScript.Decimal.Notation

/-!
# Values

What expressions evaluate to: null, truth values, whole numbers of 64 bits, double-precision numbers and
texts.

## Main definitions

* `Value`, `Value.dataType`, `Value.describe`;
* `Value.conformTo`: a value brought to a declared type;
* `Value.order`: the order of two values, if they have one.
-/

namespace AssignScript

/-- The values of expressions. -/
inductive Value where
  /-- The unknown value. -/
  | null
  /-- A truth value. -/
  | boolean (b : Bool)
  /-- A whole number of 64 bits. -/
  | integer (i : Int64)
  /-- A double-precision number. -/
  | number (x : Float)
  /-- A text. -/
  | string (s : String)
  deriving DecidableEq, Inhabited

namespace Value

/-- Numbers are written with the fewest digits that read back, without an exponent from `0.0001` up to
    but not including `1e16`; a whole number keeps `.0`. -/
def numberNotation : Decimal.Notation where
  leastPlain := -4
  greatestPlain := 15
  wholeMark := ".0"
  exponentMark := "e"
  infinity := "inf"
  notANumber := "NaN"

/-- The type of a value. -/
def dataType : Value → DataType
  | .null => .null
  | .boolean _ => .boolean
  | .integer _ => .integer
  | .number _ => .number
  | .string _ => .string

/-- Whether a value is null. -/
def isNull : Value → Bool
  | .null => true
  | _ => false

/-- The double-precision number nearest to a whole number. -/
def widenInteger (i : Int64) : Float :=
  Float.ofInt i.toInt

/-- The numeric view of a value; whole numbers are widened. -/
def toFloat? : Value → Option Float
  | .integer i => some (widenInteger i)
  | .number x => some x
  | _ => none

/-- A value brought to a declared type: null fits any type, a whole number widens to a number, and any
    other value must have the type already. -/
def conformTo : Value → DataType → Option Value
  | .null, _ => some .null
  | .integer i, .number => some (.number (widenInteger i))
  | v, t => if v.dataType = t then some v else none

/-- The order of two numbers; none if one of them is not a number. -/
def orderFloats (x y : Float) : Option Ordering :=
  if x < y then some .lt
  else if y < x then some .gt
  else if x == y then some .eq
  else none

/-- The order of two values of compatible types. Two whole numbers are ordered exactly, a whole number
    and a number after widening, `false` before `true`, and texts by code points. -/
def order : Value → Value → Option Ordering
  | .integer i, .integer j => some (compare i.toInt j.toInt)
  | .boolean a, .boolean b => some (compare a b)
  | .string s, .string t => some (compare s t)
  | v, w => do orderFloats (← v.toFloat?) (← w.toFloat?)

/-- The text of a value: texts stand in quotes, with nothing escaped. -/
def describe : Value → String
  | .null => "null"
  | .boolean b => if b then "true" else "false"
  | .integer i => toString i.toInt
  | .number x => numberNotation.write x
  | .string s => "\"" ++ s ++ "\""

end Value

end AssignScript
