import AssignScript.Value

/-!
# Errors of evaluation

## Main definitions

* `Site`: where a value was wanted;
* `EvalError`, `EvalError.message`;
* `Evaluated`: the outcome of an evaluation.
-/

namespace AssignScript

/-- Where a value was wanted that did not fit. -/
inductive Site where
  /-- In an operation or function. -/
  | operation (name : String)
  /-- As the condition of a choice. -/
  | condition
  /-- As what a name of some type stands for. -/
  | variable (name : String) (type : DataType)
  /-- As the value of a choice of some type. -/
  | choice (type : DataType)
  deriving DecidableEq, Repr

/-- How a site is named in a message. -/
def Site.describe : Site → String
  | .operation name => name
  | .condition => "if condition"
  | .variable name type => s!"{name} of type {type.name}"
  | .choice type => s!"if of type {type.name}"

/-- Why an expression has no value. -/
inductive EvalError where
  /-- A name without a value. -/
  | unboundVariable (name : String)
  /-- A value of a type that is not wanted where it stands. -/
  | unexpectedValue (value : Value) (site : Site)
  /-- Offsets that are not in order within a text of some length. -/
  | indexOutOfRange (first last : Int64) (length : Nat)
  /-- A text that is no pattern, for a reason. -/
  | invalidPattern (pattern reason : String)
  /-- A division by zero. -/
  | divisionByZero
  /-- A whole number of more than 64 bits. -/
  | overflow (operation : String)
  deriving DecidableEq

/-- The message of an error. -/
def EvalError.message : EvalError → String
  | .unboundVariable name => s!"variable {name} has no value in the evaluation context"
  | .unexpectedValue value site => s!"unexpected value {value.describe} in {site.describe}"
  | .indexOutOfRange first last length =>
    s!"index {first.toInt}..{last.toInt} out of range for string of length {length}"
  | .invalidPattern pattern reason => s!"invalid pattern {pattern}: {reason}"
  | .divisionByZero => "division by zero"
  | .overflow operation => s!"integer overflow in {operation}"

/-- The outcome of an evaluation. -/
abbrev Evaluated (α : Type) := Except EvalError α

/-- A value that does not fit where it is wanted. -/
def unexpected {α : Type} (value : Value) (name : String) : Evaluated α :=
  .error (.unexpectedValue value (.operation name))

end AssignScript
