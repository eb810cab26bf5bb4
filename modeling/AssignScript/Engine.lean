import AssignScript.Bindings
import AssignScript.Parser

/-!
# Running scripts

An engine holds bindings. A script binds its targets one after the other, each statement in the scope that
the one before leaves; if any of them fails, the engine keeps the bindings that it had.

## Main definitions

* `ScriptError`, `ScriptError.message`;
* `Statement.execute`, `Script.execute`: the scope that statements leave;
* `Engine.eval`, `Engine.compile`, `Engine.evaluate`, `Engine.runFile`.
-/

namespace AssignScript

/-- Why a script or an expression fails. -/
inductive ScriptError where
  /-- It cannot be read. -/
  | parse (e : ParseError)
  /-- It has no type. -/
  | semantic (e : SemanticError)
  /-- It has no value. -/
  | runtime (e : EvalError)
  deriving DecidableEq

/-- The message of an error. -/
def ScriptError.message : ScriptError → String
  | .parse e => e.message
  | .semantic e => e.message
  | .runtime e => e.message

/-- Reads a text. -/
def readText {α : Type} (p : Parser α) (text : String) : Except ScriptError α :=
  (p.runText text).mapError .parse

/-- Checks an expression in a scope, with the standard functions. -/
def checkIn (limit : Nat) (scope : Bindings) (e : Expr) : Except ScriptError TypedExpr :=
  (Checker.check ⟨scope.declarations, .standard, limit⟩ e).mapError .semantic

/-- Evaluates a checked expression. -/
def evalIn [PatternLibrary] (context : Context) (e : TypedExpr) : Except ScriptError Value :=
  (e.eval context).mapError .runtime

/-- The scope that a statement leaves. -/
def Statement.execute [PatternLibrary] (limit : Nat) (scope : Bindings) (s : Statement) :
    Except ScriptError Bindings := do
  let e ← checkIn limit scope s.expression
  let v ← evalIn scope.context e
  return scope.assign s.target e.dataType v

/-- The scope that statements leave, each run in the scope of the one before. -/
def Script.execute [PatternLibrary] (limit : Nat) (scope : Bindings) (script : Script) :
    Except ScriptError Bindings :=
  script.foldlM (Statement.execute limit) scope

/-- How deeply an expression may nest unless a limit is given. -/
def defaultLimit : Nat := 256

/-- Bindings, and how deeply expressions may nest. -/
structure Engine where
  /-- How deeply an expression may nest. -/
  limit : Nat := defaultLimit
  /-- What names are bound to. -/
  bindings : Bindings := .empty

namespace Engine

variable [PatternLibrary]

/-- Binds a name to a value of its own type. -/
def set (e : Engine) (name : String) (value : Value) : Engine :=
  { e with bindings := e.bindings.set name value }

/-- Binds a name of a type to null. -/
def declare (e : Engine) (name : String) (type : DataType) : Engine :=
  { e with bindings := e.bindings.declare name type }

/-- The bindings after a script. -/
def scopeAfter (e : Engine) (text : String) : Except ScriptError Bindings := do
  let script ← readText (.script e.limit) text
  script.execute e.limit e.bindings

/-- Runs a script, giving whether it succeeds and the engine after it. -/
def eval (e : Engine) (text : String) : Except ScriptError Unit × Engine :=
  match e.scopeAfter text with
  | .ok scope => (.ok (), { e with bindings := scope })
  | .error err => (.error err, e)

/-- Checks an expression against the current bindings. -/
def compile (e : Engine) (text : String) : Except ScriptError TypedExpr := do
  checkIn e.limit e.bindings (← readText (.standalone e.limit) text)

/-- The value of an expression under the current bindings. -/
def evaluate (e : Engine) (text : String) : Except ScriptError Value := do
  evalIn e.bindings.context (← e.compile text)

end Engine

/-! ### Script files -/

/-- Why a script file fails. -/
inductive FileError where
  /-- It cannot be read, for a reason. -/
  | unreadable (path reason : String)
  /-- Its script fails. -/
  | failed (path : String) (cause : ScriptError)

namespace FileError

/-- What failed. -/
def message : FileError → String
  | .unreadable path _ => s!"Failed to read script {path}"
  | .failed path _ => s!"Failed to evaluate script {path}"

/-- Why it failed. -/
def cause : FileError → String
  | .unreadable _ reason => reason
  | .failed _ e => e.message

end FileError

/-- Runs a script file, given its content or the reason why it cannot be read. -/
def Engine.runFile [PatternLibrary] (e : Engine) (path : String) (content : Except String String) :
    Except FileError Unit × Engine :=
  match content with
  | .error reason => (.error (.unreadable path reason), e)
  | .ok text =>
    let (result, e) := e.eval text
    (result.mapError (.failed path), e)

end AssignScript
