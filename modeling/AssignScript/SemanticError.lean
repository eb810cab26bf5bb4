import AssignScript.DataType
import AssignScript.Span

/-!
# Errors of checking an expression

## Main definitions

* `SemanticError`, `SemanticError.span`, `SemanticError.message`;
* `distinctTypes`: the types of a conflict, each once.
-/

namespace AssignScript

/-- Why an expression has no type. Each error points at the piece of source it is about. -/
inductive SemanticError where
  /-- A name that is not declared. -/
  | undefinedVariable (name : String) (span : Span)
  /-- An operand of another type than the operation wants. -/
  | invalidType (expected actual : DataType) (span : Span)
  /-- Operands without a common type. -/
  | conflictingTypes (types : List DataType) (span : Span)
  /-- An operator or function that there is no rule for. -/
  | unknownFunction (name : String) (span : Span)
  /-- A call with too few or too many arguments. -/
  | argumentCount (function : String) (least most actual : Nat) (span : Span)
  /-- A placeholder where a value is needed. -/
  | missingOperand (span : Span)
  /-- An expression inside too many others. -/
  | nestingTooDeep (limit : Nat) (span : Span)
  deriving DecidableEq, Repr

/-- The types of a list, each once, in the order in which they first occur. -/
def distinctTypes (ts : List DataType) : List DataType :=
  ts.foldl (fun seen t => if t ∈ seen then seen else seen ++ [t]) []

namespace SemanticError

/-- The piece of source that an error is about. -/
def span : SemanticError → Span
  | .undefinedVariable _ s | .invalidType _ _ s | .conflictingTypes _ s | .unknownFunction _ s
  | .argumentCount _ _ _ _ s | .missingOperand s | .nestingTooDeep _ s => s

/-- The message of an error. -/
def message : SemanticError → String
  | .undefinedVariable name _ => s!"undefined variable {name}"
  | .invalidType expected actual span =>
    s!"invalid type {actual.name}, expected {span.text} to be {expected.name}"
  | .conflictingTypes types _ =>
    "conflicting types: [" ++ ", ".intercalate (types.map DataType.name) ++ "]"
  | .unknownFunction name _ => s!"unknown function {name}"
  | .argumentCount function least most actual _ =>
    let expected := if least = most then toString least else s!"{least} to {most}"
    s!"function {function} expects {expected} arguments, got {actual}"
  | .missingOperand span => s!"missing operand at {span.describe}"
  | .nestingTooDeep limit span =>
    s!"expression nested deeper than {limit} levels at {span.describe}"

end SemanticError

end AssignScript
