/-!
# Data types

Five types, and one implicit conversion between them: an `Integer` may stand where a `Number` is
wanted.

## Main definitions

* `DataType`, `DataType.widen`, `DataType.widenAll`, `DataType.widensTo`;
* `DataType.isNumeric`, `DataType.name`.
-/

namespace AssignScript

/-- The static types of expressions. -/
inductive DataType where
  /-- Truth values. -/
  | boolean
  /-- Whole numbers of 64 bits. -/
  | integer
  /-- Double-precision numbers. -/
  | number
  /-- Texts. -/
  | string
  /-- The type of the literal `null`. -/
  | null
  deriving DecidableEq, Repr, Inhabited

namespace DataType

/-- The common type of two operands: equal types keep their type, `Integer` and `Number` meet in
    `Number`, and no other pair has one. -/
def widen : DataType → DataType → Option DataType
  | .integer, .number => some .number
  | .number, .integer => some .number
  | a, b => if a = b then some a else none

/-- The common type of a list of operands; the empty list has none. -/
def widenAll : List DataType → Option DataType
  | [] => none
  | t :: ts => ts.foldlM widen t

/-- Whether a value of the first type may stand where the second is wanted. -/
def widensTo (t target : DataType) : Bool :=
  t.widen target == some target

/-- Whether a type is one of the two numeric ones. -/
def isNumeric : DataType → Bool
  | .integer | .number => true
  | _ => false

/-- Whether a type is the type of texts. -/
def isString : DataType → Bool
  | .string => true
  | _ => false

/-- Whether a type is the type of truth values. -/
def isBoolean : DataType → Bool
  | .boolean => true
  | _ => false

/-- The name of a type in messages and results. -/
def name : DataType → String
  | .boolean => "Boolean"
  | .integer => "Integer"
  | .number => "Number"
  | .string => "String"
  | .null => "Null"

end DataType

end AssignScript
