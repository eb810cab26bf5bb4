import AssignScript.Engine
import AssignScript.Proofs.Typing.Checked

/-!
# Reachable engines

Whatever is done with an engine, every name stays bound to null or to a value of exactly its type. Binding a
name checks nothing by itself: the types come from the checker, and the soundness of evaluation carries them
over to the values, statement by statement.

## Main definitions

* `Operation`, `Engine.step`, `Engine.run`: what is done with an engine;
* `Bindings.Typed`: bindings whose values fit their types;
* `ScriptError.OfValues`: the errors that types do not exclude.

## Main statements

* `Script.execute_settled`: a script keeps typed bindings typed and its names bound;
* `Engine.run_sound`: so does every run of operations.
-/

namespace AssignScript

/-- What can be done with an engine. -/
inductive Operation where
  /-- A name is bound to a value of its own type. -/
  | set (name : String) (value : Value)
  /-- A name of a type is bound to null. -/
  | declare (name : String) (type : DataType)
  /-- A script is run, whether it succeeds or not. -/
  | eval (text : String)
  /-- An expression is evaluated. -/
  | evaluate (text : String)
  /-- An expression is checked. -/
  | compile (text : String)

namespace Engine

/-- A new engine with a limit of nesting. -/
def new (limit : Nat) : Engine := ⟨limit, .empty⟩

variable [PatternLibrary]

/-- The engine after an operation. Evaluating and checking an expression only read it. -/
def step (e : Engine) : Operation → Engine
  | .set name value => e.set name value
  | .declare name type => e.declare name type
  | .eval text => (e.eval text).2
  | .evaluate _ | .compile _ => e

/-- The engine after some operations. -/
def run (e : Engine) (ops : List Operation) : Engine :=
  ops.foldl step e

theorem run_append (e : Engine) (ops ops' : List Operation) :
    e.run (ops ++ ops') = (e.run ops).run ops' :=
  List.foldl_append

end Engine

/-! ### Typed bindings -/

namespace Bindings

/-- Bindings of null or of values of exactly the declared types. -/
def Typed (b : Bindings) : Prop :=
  ∀ name binding, b.get? name = some binding → binding.value.Fits binding.type

/-- Bindings that still bind the names of others. -/
def Extends (b' b : Bindings) : Prop :=
  ∀ name, b.contains name → b'.contains name

theorem Extends.refl (b : Bindings) : b.Extends b := fun _ h => h

theorem Extends.trans {b b' b'' : Bindings} (h' : b''.Extends b') (h : b'.Extends b) :
    b''.Extends b := fun name hname => h' name (h name hname)

theorem typed_empty : Typed .empty := fun _ _ h => nomatch h

/-- A value that fits the type under which it is bound keeps bindings typed. -/
theorem Typed.assign {b : Bindings} (hb : b.Typed) (name : String) {t : DataType} {v : Value}
    (hv : v.Fits t) : (b.assign name t v).Typed := by
  intro other binding h
  rw [Bindings.assign, NameMap.get?_insert] at h
  split at h
  · cases h
    exact hv
  · exact hb other binding h

theorem assign_extends (b : Bindings) (name : String) (t : DataType) (v : Value) :
    (b.assign name t v).Extends b := by
  intro other h
  rw [NameMap.contains, Bindings.assign, NameMap.get?_insert]
  split
  · rfl
  · exact h

/-- What evaluation sees of typed bindings conforms to what checking sees. -/
theorem Typed.context_conforms {b : Bindings} (hb : b.Typed) :
    b.context.Conforms b.declarations := by
  intro x t h
  rw [declarations, NameMap.get?_map, Option.map_eq_some_iff] at h
  obtain ⟨binding, hbinding, rfl⟩ := h
  refine ⟨binding.value, binding.value, ?_, (hb x binding hbinding).conformTo⟩
  rw [context, NameMap.get?_map, hbinding]
  rfl

/-- A name with a type is bound. -/
theorem contains_of_declarations {b : Bindings} {x : String} {t : DataType}
    (h : b.declarations.get? x = some t) : b.contains x := by
  rw [declarations, NameMap.get?_map, Option.map_eq_some_iff] at h
  obtain ⟨binding, hbinding, -⟩ := h
  rw [NameMap.contains, hbinding]
  rfl

/-- A bound name has a value. -/
theorem context_get?_ne_none {b : Bindings} {x : String} (h : b.contains x) :
    b.context.get? x ≠ none := by
  obtain ⟨binding, hbinding⟩ := Option.isSome_iff_exists.1 h
  rw [context, NameMap.get?_map, hbinding]
  exact Option.some_ne_none _

end Bindings

/-! ### Statements and scripts -/

/-- The errors of scripts that types do not exclude. -/
def ScriptError.OfValues : ScriptError → Prop
  | .parse _ | .semantic _ => True
  | .runtime e => e.OfValues

theorem readText_settled {α : Type} (p : Parser α) (text : String) :
    Settled ScriptError.OfValues (fun _ => True) (readText p text) := by
  unfold readText
  cases p.runText text <;> exact trivial

theorem checkIn_settled (limit : Nat) (scope : Bindings) (e : Expr) :
    Settled ScriptError.OfValues (WellTyped scope.declarations) (checkIn limit scope e) := by
  unfold checkIn
  cases h : Checker.check ⟨scope.declarations, .standard, limit⟩ e with
  | ok t => exact Checker.check_wellTyped .standard h
  | error err => exact trivial

variable [PatternLibrary]

/-- In typed bindings the value of a well-typed expression fits its type. -/
theorem evalIn_settled {scope : Bindings} (hscope : scope.Typed) {t : TypedExpr}
    (ht : WellTyped scope.declarations t) :
    Settled ScriptError.OfValues (·.Fits t.dataType) (evalIn scope.context t) := by
  have hsettled := ht.eval_settled scope.context
  unfold evalIn
  cases h : t.eval scope.context with
  | ok v =>
    rw [h] at hsettled
    exact hsettled
  | error err =>
    rw [h] at hsettled
    exact EvalError.Justified.ofValues hsettled hscope.context_conforms fun x => ht.declared

/-- A statement keeps typed bindings typed and names bound. -/
theorem Statement.execute_settled (limit : Nat) {scope : Bindings} (hscope : scope.Typed)
    (s : Statement) :
    Settled ScriptError.OfValues (fun scope' => scope'.Typed ∧ scope'.Extends scope)
      (s.execute limit scope) := by
  -- The type that the checker announces is the one that the name is bound under.
  refine (checkIn_settled limit scope s.expression).bind fun t ht => ?_
  refine (evalIn_settled hscope ht).bind fun v hv => ?_
  exact .ok ⟨hscope.assign s.target hv, scope.assign_extends s.target t.dataType v⟩

/-- A script keeps typed bindings typed and names bound. -/
theorem Script.execute_settled (limit : Nat) {scope : Bindings} (hscope : scope.Typed)
    (script : Script) :
    Settled ScriptError.OfValues (fun scope' => scope'.Typed ∧ scope'.Extends scope)
      (script.execute limit scope) := by
  -- Later statements run in the scope that the first one leaves, so the scope must vary.
  induction script generalizing scope with
  | nil => exact .ok ⟨hscope, .refl scope⟩
  | cons s script ih =>
    refine (s.execute_settled limit hscope).bind fun middle hmiddle => ?_
    refine (ih hmiddle.1).mono (fun _ => id) fun scope' hscope' => ?_
    exact ⟨hscope'.1, hscope'.2.trans hmiddle.2⟩

/-! ### Runs -/

namespace Engine

theorem scopeAfter_settled {e : Engine} (he : e.bindings.Typed) (text : String) :
    Settled ScriptError.OfValues (fun scope => scope.Typed ∧ scope.Extends e.bindings)
      (e.scopeAfter text) :=
  (readText_settled _ text).bind fun script _ => script.execute_settled e.limit he

theorem eval_settled {e : Engine} (he : e.bindings.Typed) (text : String) :
    Settled ScriptError.OfValues (fun _ => True) (e.eval text).1 := by
  have hsettled := scopeAfter_settled he text
  unfold eval
  cases h : e.scopeAfter text with
  | ok scope => exact trivial
  | error err =>
    rw [h] at hsettled
    exact hsettled

omit [PatternLibrary] in
theorem compile_settled (e : Engine) (text : String) :
    Settled ScriptError.OfValues (WellTyped e.bindings.declarations) (e.compile text) :=
  (readText_settled _ text).bind fun expr _ => checkIn_settled e.limit e.bindings expr

theorem evaluate_settled {e : Engine} (he : e.bindings.Typed) (text : String) :
    Settled ScriptError.OfValues (fun _ => True) (e.evaluate text) :=
  (e.compile_settled text).bind fun _ ht =>
    (evalIn_settled he ht).mono (fun _ => id) fun _ _ => trivial

/-- One operation keeps typed bindings typed and names bound. -/
theorem step_typed {e : Engine} (he : e.bindings.Typed) (op : Operation) :
    (e.step op).bindings.Typed ∧ (e.step op).bindings.Extends e.bindings := by
  cases op with
  | set name value =>
    exact ⟨he.assign name (.of_dataType value), Bindings.assign_extends _ _ _ _⟩
  | declare name type => exact ⟨he.assign name (.null type), Bindings.assign_extends _ _ _ _⟩
  | eval text =>
    have hsettled := scopeAfter_settled he text
    simp only [step, Engine.eval]
    cases h : e.scopeAfter text with
    | ok scope =>
      rw [h] at hsettled
      exact hsettled
    -- A script that fails changes nothing.
    | error err => exact ⟨he, .refl _⟩
  | evaluate text => exact ⟨he, .refl _⟩
  | compile text => exact ⟨he, .refl _⟩

/-- A run of operations keeps typed bindings typed and names bound. -/
theorem run_typed {e : Engine} (he : e.bindings.Typed) (ops : List Operation) :
    (e.run ops).bindings.Typed ∧ (e.run ops).bindings.Extends e.bindings := by
  induction ops generalizing e with
  | nil => exact ⟨he, .refl _⟩
  | cons op ops ih =>
    obtain ⟨hstep, hextends⟩ := step_typed he op
    obtain ⟨hrun, hrest⟩ := ih hstep
    exact ⟨hrun, hrest.trans hextends⟩

omit [PatternLibrary] in
/-- An outcome that types settle is no failure of a name without a value, nor of a value of a wrong type. -/
theorem ne_runtime_of_settled {α : Type} {good : α → Prop} {x : Except ScriptError α}
    (h : Settled ScriptError.OfValues good x) :
    (∀ name, x ≠ .error (.runtime (.unboundVariable name))) ∧
      ∀ v site, x ≠ .error (.runtime (.unexpectedValue v site)) := by
  constructor
  · rintro name rfl
    exact h
  · rintro v site rfl
    exact h

/-- However a new engine is used, before some point and after it: every binding holds null or a value of
    exactly its type; names bound at that point are still bound; no script and no expression can fail for a
    name without a value or a value of a wrong type; and an expression that was checked at that point finds
    a value for every name. -/
theorem run_sound (limit : Nat) (before after : List Operation) :
    let earlier := (new limit).run before
    let e := (new limit).run (before ++ after)
    (∀ name binding, e.bindings.get? name = some binding →
      binding.value = .null ∨ binding.value.dataType = binding.type) ∧
    (∀ name, earlier.bindings.contains name → e.bindings.contains name) ∧
    (∀ text, (∀ x, (e.eval text).1 ≠ .error (.runtime (.unboundVariable x))) ∧
      ∀ v site, (e.eval text).1 ≠ .error (.runtime (.unexpectedValue v site))) ∧
    (∀ text, (∀ x, e.evaluate text ≠ .error (.runtime (.unboundVariable x))) ∧
      ∀ v site, e.evaluate text ≠ .error (.runtime (.unexpectedValue v site))) ∧
    ∀ text tree, earlier.compile text = .ok tree →
      ∀ x, tree.eval e.bindings.context ≠ .error (.unboundVariable x) := by
  intro earlier e
  obtain ⟨hearlier, -⟩ := run_typed (e := new limit) Bindings.typed_empty before
  obtain ⟨he, hextends⟩ := run_typed hearlier after
  rw [← run_append] at he hextends
  refine ⟨he, hextends, fun text => ne_runtime_of_settled (eval_settled he text),
    fun text => ne_runtime_of_settled (evaluate_settled he text), ?_⟩
  intro text tree htree x hx
  have hwell := earlier.compile_settled text
  rw [htree] at hwell
  -- The names of the expression were declared then, so they are bound now.
  have hsettled := hwell.eval_settled e.bindings.context
  rw [hx] at hsettled
  obtain ⟨hmem, hnone⟩ := hsettled
  obtain ⟨t, ht⟩ := hwell.declared hmem
  exact Bindings.context_get?_ne_none (hextends x (Bindings.contains_of_declarations ht)) hnone

end Engine

end AssignScript
