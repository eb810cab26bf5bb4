import AssignScript.Checker
import AssignScript.Eval

/-!
# Bindings

What the names of a scope are bound to: a declared type and a value. Checking sees the types and evaluation
the values.

## Main definitions

* `Binding`, `Bindings`;
* `Bindings.assign`, `Bindings.set`, `Bindings.declare`: how names are bound;
* `Bindings.declarations`, `Bindings.context`: what checking and evaluation see.
-/

namespace AssignScript

/-- What a name is bound to. -/
structure Binding where
  /-- The type that the name was given. -/
  type : DataType
  /-- The value that it has. -/
  value : Value
  deriving DecidableEq

/-- Names with what they are bound to. -/
abbrev Bindings := NameMap Binding

namespace Bindings

/-- Binds a name to a value of a declared type. -/
def assign (b : Bindings) (name : String) (type : DataType) (value : Value) : Bindings :=
  b.insert name ⟨type, value⟩

/-- Binds a name to a value of its own type. -/
def set (b : Bindings) (name : String) (value : Value) : Bindings :=
  assign b name value.dataType value

/-- Binds a name of a type to null. -/
def declare (b : Bindings) (name : String) (type : DataType) : Bindings :=
  assign b name type .null

/-- The value of a name. -/
def value? (b : Bindings) (name : String) : Option Value :=
  (b.get? name).map Binding.value

/-- The type of a name. -/
def type? (b : Bindings) (name : String) : Option DataType :=
  (b.get? name).map Binding.type

/-- The types of all names. -/
def declarations (b : Bindings) : Declarations :=
  b.map Binding.type

/-- The values of all names. -/
def context (b : Bindings) : Context :=
  b.map Binding.value

end Bindings

end AssignScript
