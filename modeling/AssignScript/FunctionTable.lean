import AssignScript.NameMap
import AssignScript.Operator
import AssignScript.Text.Case

/-!
# Tables of operators and functions

A table says which operators and named functions there are, and by which rule each is checked. Names of
functions are kept in lower case.

## Main definitions

* `UnaryRule`, `BinaryRule`, `CallRule`: the rules;
* `FunctionTable`, `FunctionTable.register`, `FunctionTable.registerCall`;
* `FunctionTable.standard`: everything built in.
-/

namespace AssignScript

/-- Rules for operators with one operand. -/
inductive UnaryRule where
  /-- A truth value to a truth value. -/
  | logical
  /-- A number to a number of the same type. -/
  | sign
  deriving DecidableEq, Repr

/-- Rules for operators with two operands. -/
inductive BinaryRule where
  /-- Truth values to a truth value. -/
  | logical
  /-- Operands of a common type to a truth value. -/
  | comparison
  /-- Numbers to a number. -/
  | arithmetic
  /-- Texts to a text. -/
  | concatenation
  deriving DecidableEq, Repr

/-- Rules for functions called by name. -/
inductive CallRule where
  /-- A number between two bounds. -/
  | between
  /-- A text against a pattern. -/
  | matching
  /-- The test for null. -/
  | nullTest
  /-- The operation on one text that the name stands for. -/
  | text
  /-- A part of a text. -/
  | substring
  /-- Replacement of a pattern. -/
  | replacement
  /-- The place of a text in another. -/
  | occurrence
  deriving DecidableEq, Repr

/-- The operations on one text, by name; some have two names. -/
def textOperations : List (String × UnaryOp) :=
  [("trim", .trim), ("ltrim", .ltrim), ("rtrim", .rtrim), ("upper", .upper), ("ucase", .upper),
   ("lower", .lower), ("lcase", .lower), ("length", .length), ("len", .length)]

/-- The operation on one text that a name stands for. -/
def textOperation? (name : String) : Option UnaryOp :=
  textOperations.lookup name

/-- Groups of operators and functions that come together. -/
inductive Family where
  /-- `and`, `or`, `xor` and `not`. -/
  | boolean
  /-- The comparisons, `between`, `match_characters` and `isnull`. -/
  | comparison
  /-- `||` and the functions on texts. -/
  | string
  /-- The arithmetic operators and the signs. -/
  | arithmetic
  deriving DecidableEq, Repr

/-- Which operators and functions there are, and the rule for each. -/
structure FunctionTable where
  /-- The rule for an operator with one operand. -/
  unary : UnaryOp → Option UnaryRule
  /-- The rule for an operator with two operands. -/
  binary : BinaryOp → Option BinaryRule
  /-- The rules for functions, by their names in lower case. -/
  calls : NameMap CallRule

namespace FunctionTable

/-- The table of nothing. -/
def empty : FunctionTable := ⟨fun _ => none, fun _ => none, .empty⟩

/-- Adds operators with one operand. -/
def registerUnary (table : FunctionTable) (ops : List UnaryOp) (rule : UnaryRule) :
    FunctionTable :=
  { table with unary := fun op => if op ∈ ops then some rule else table.unary op }

/-- Adds operators with two operands. -/
def registerBinary (table : FunctionTable) (ops : List BinaryOp) (rule : BinaryRule) :
    FunctionTable :=
  { table with binary := fun op => if op ∈ ops then some rule else table.binary op }

/-- Adds a function, over any of the same name. -/
def registerCall (table : FunctionTable) (name : String) (rule : CallRule) : FunctionTable :=
  { table with calls := table.calls.insert (Text.toLower name) rule }

/-- Adds functions by the same rule. -/
def registerCalls (table : FunctionTable) (names : List String) (rule : CallRule) :
    FunctionTable :=
  names.foldl (fun table name => table.registerCall name rule) table

/-- Adds a family. -/
def register (table : FunctionTable) : Family → FunctionTable
  | .boolean =>
    (table.registerUnary [.not] .logical).registerBinary [.and, .or, .xor] .logical
  | .comparison =>
    (((table.registerBinary [.eq, .ne, .lt, .le, .gt, .ge] .comparison).registerCall
      "between" .between).registerCall "match_characters" .matching).registerCall
      "isnull" .nullTest
  | .string =>
    ((((table.registerCalls (textOperations.map (·.1)) .text).registerCall
      "substr" .substring).registerCall "replace" .replacement).registerCall
      "instr" .occurrence).registerBinary [.concat] .concatenation
  | .arithmetic =>
    (table.registerBinary [.add, .sub, .mul, .div] .arithmetic).registerUnary
      [.plus, .minus] .sign

/-- The table of some families. -/
def ofFamilies (families : List Family) : FunctionTable :=
  families.foldl register empty

/-- Everything built in. -/
def standard : FunctionTable :=
  ofFamilies [.boolean, .comparison, .string, .arithmetic]

/-- The rule for a function, given its name in lower case. -/
def call? (table : FunctionTable) (name : String) : Option CallRule :=
  table.calls.get? name

/-- The names of all functions, in ascending order. -/
def functionNames (table : FunctionTable) : List String :=
  table.calls.names

end FunctionTable

end AssignScript
