import AssignScript.CommandLine.Session
import AssignScript.Proofs.Engine.Assignment
import AssignScript.Proofs.Engine.Reachable
import AssignScript.Proofs.Pattern.Fragment
import AssignScript.Proofs.Typing.Known

/-!
# Engines without declarations

Declaring a name is the only way to bind null under a type other than `Null`. In an engine in which nothing was
declared, every name has a value of its very type, and so has every expression. So it is one thing to bind a name to
the value of an expression and to run the statement that assigns the expression to it.

## Main definitions

* `Bindings.Exact`: bindings of values of the very types of the names;
* `Operation.declaresNone`: operations other than declarations.

## Main statements

* `Script.execute_exact`: a script keeps bindings exact;
* `Statement.execute_of_exact`: in exact bindings a statement sets its target to the value of its expression;
* `Engine.run_exact`: without declarations bindings stay exact, and setting and assigning agree.
-/

namespace AssignScript

namespace Bindings

/-- Bindings in which every name has a value of its very type. -/
def Exact (b : Bindings) : Prop :=
  ∀ name binding, b.get? name = some binding → binding.value.dataType = binding.type

theorem exact_empty : Exact .empty := fun _ _ h => nomatch h

/-- A value that is bound under its own type keeps bindings exact. -/
theorem Exact.assign {b : Bindings} (hb : b.Exact) (name : String) {t : DataType} {v : Value}
    (hv : v.dataType = t) : (b.assign name t v).Exact := by
  intro other binding h
  rw [get?_assign] at h
  split at h
  · cases h
    exact hv
  · exact hb other binding h

/-- What evaluation sees of exact bindings is exact for what checking sees. -/
theorem Exact.context_exact {b : Bindings} (hb : b.Exact) : b.context.Exact b.declarations := by
  intro x t v ht hv
  rw [declarations, NameMap.get?_map, Option.map_eq_some_iff] at ht
  rw [context, NameMap.get?_map, Option.map_eq_some_iff] at hv
  obtain ⟨binding, hbinding, rfl⟩ := ht
  obtain ⟨binding', hbinding', rfl⟩ := hv
  obtain rfl := Option.some.inj (hbinding.symm.trans hbinding')
  exact hb x binding hbinding

end Bindings

section Execution

variable [PatternLibrary] {limit : Nat} {scope : Bindings}

/-- In exact bindings the value of an expression has the very type of the expression. -/
theorem evalIn_dataType (hscope : scope.Exact) {x : Expr} {t : TypedExpr} {v : Value}
    (ht : checkIn limit scope x = .ok t) (hv : evalIn scope.context t = .ok v) : v.dataType = t.dataType := by
  have hwell := checkIn_settled limit scope x
  rw [ht] at hwell
  exact WellTyped.eval_dataType hwell hscope.context_exact (mapError_eq_ok.1 hv)

/-- In exact bindings a statement sets its target to the value of its expression. -/
theorem Statement.execute_of_exact (hscope : scope.Exact) (s : Statement) {scope' : Bindings} :
    s.execute limit scope = .ok scope' ↔ ∃ t v, checkIn limit scope s.expression = .ok t ∧
      evalIn scope.context t = .ok v ∧ scope' = scope.set s.target v := by
  rw [execute, bind_eq_ok]
  refine exists_congr fun t => ?_
  rw [bind_eq_ok, ← exists_and_left]
  refine exists_congr fun v => and_congr_right fun ht => and_congr_right fun hv => ?_
  rw [Bindings.set, evalIn_dataType hscope ht hv, eq_comm]
  exact ⟨Except.ok.inj, congrArg Except.ok⟩

/-- A statement keeps bindings exact. -/
theorem Statement.execute_exact (hscope : scope.Exact) {s : Statement} {scope' : Bindings}
    (h : s.execute limit scope = .ok scope') : scope'.Exact := by
  obtain ⟨t, v, -, -, rfl⟩ := (s.execute_of_exact hscope).1 h
  exact hscope.assign s.target rfl

/-- A script keeps bindings exact. -/
theorem Script.execute_exact (hscope : scope.Exact) {script : Script} {scope' : Bindings}
    (h : script.execute limit scope = .ok scope') : scope'.Exact := by
  induction script generalizing scope with
  | nil =>
    cases h
    exact hscope
  | cons s script ih =>
    obtain ⟨middle, hmiddle, hrest⟩ := bind_eq_ok.1 h
    exact ih (Statement.execute_exact hscope hmiddle) hrest

end Execution

/-- Whether an operation is none that declares a name. -/
def Operation.declaresNone : Operation → Bool
  | .declare _ _ => false
  | _ => true

namespace Engine

section Evaluation

variable [PatternLibrary] {e : Engine}

/-- An operation that declares nothing keeps bindings exact. -/
theorem step_exact (he : e.bindings.Exact) {op : Operation} (hop : op.declaresNone) :
    (e.step op).bindings.Exact := by
  cases op with
  | set name value => exact he.assign name rfl
  | declare name type => cases hop
  | eval text =>
    simp only [step, Engine.eval]
    cases h : e.scopeAfter text with
    | ok scope =>
      obtain ⟨script, -, hscript⟩ := bind_eq_ok.1 h
      exact Script.execute_exact he hscript
    | error err => exact he
  | evaluate text => exact he
  | compile text => exact he

theorem bindings_run_exact (he : e.bindings.Exact) {ops : List Operation} (h : ∀ op ∈ ops, op.declaresNone) :
    (e.run ops).bindings.Exact := by
  induction ops generalizing e with
  | nil => exact he
  | cons op ops ih =>
    obtain ⟨hop, hops⟩ := List.forall_mem_cons.1 h
    exact ih (step_exact he hop) hops

/-- In exact bindings the statement that assigns an expression to a name leaves the bindings in which the name is set
    to the value of the expression, or fails as evaluating the expression does. -/
theorem execute_eq_set (he : e.bindings.Exact) {text : String} {x : Expr}
    (hx : readText (.standalone e.limit) text = .ok x) (name : String) (span : Span) :
    Statement.execute e.limit e.bindings ⟨name, x, span⟩ =
      (e.evaluate text).map fun v => (e.set name v).bindings := by
  have hevaluate : e.evaluate text = checkIn e.limit e.bindings x >>= evalIn e.bindings.context := by
    rw [evaluate, compile, hx]
    rfl
  rw [hevaluate, Statement.execute]
  cases ht : checkIn e.limit e.bindings x with
  | error err => rfl
  | ok t =>
    change (evalIn e.bindings.context t >>= fun v => _) = (evalIn e.bindings.context t).map _
    cases hv : evalIn e.bindings.context t with
    | error err => rfl
    | ok v =>
      change Except.ok (e.bindings.assign name t.dataType v) = Except.ok (e.bindings.assign name v.dataType v)
      rw [evalIn_dataType he ht hv]

/-- In exact bindings a script of one statement sets its target to the value of any text of its expression. -/
theorem eval_eq_set (he : e.bindings.Exact) {text script : String} {x : Expr} {s : Statement}
    (hx : readText (.standalone e.limit) text = .ok x) (hs : readText (.script e.limit) script = .ok [s])
    (hbare : s.expression.bare = x.bare) (e' : Engine) :
    e.eval script = (.ok (), e') ↔ ∃ v, e.evaluate text = .ok v ∧ e' = e.set s.target v := by
  have hscope : e.scopeAfter script = s.execute e.limit e.bindings := by
    rw [scopeAfter, hs]
    change Script.execute e.limit e.bindings [s] = _
    rw [Script.execute, List.foldlM_cons]
    simp only [List.foldlM_nil, bind_pure]
  have hsame : s.bare = (Statement.mk s.target x s.span).bare := by
    rw [Statement.bare, Statement.bare, hbare]
  rw [eval_eq_ok, hscope]
  simp only [Statement.execute_eq_ok_of_bare_eq hsame, execute_eq_set he hx]
  cases e.evaluate text with
  | error err =>
    constructor
    · rintro ⟨_, ⟨⟩, _⟩
    · rintro ⟨_, ⟨⟩, _⟩
  | ok v =>
    constructor
    · rintro ⟨scope, ⟨⟩, rfl⟩
      exact ⟨v, rfl, rfl⟩
    · rintro ⟨v, ⟨⟩, rfl⟩
      exact ⟨_, rfl, rfl⟩

/-- In exact bindings a setting binds its name as the statement would that assigns its text to the name. -/
theorem applySetting_eq_ok (he : e.bindings.Exact) {setting name text : String} {x : Expr}
    (hsetting : splitSetting? setting = some (name, text)) (hx : readText (.standalone e.limit) text = .ok x)
    (span : Span) (e' : Engine) :
    applySetting e setting = .ok e' ↔ ∃ scope, Statement.execute e.limit e.bindings ⟨name, x, span⟩ = .ok scope ∧
      e' = { e with bindings := scope } := by
  rw [execute_eq_set he hx, applySetting, hsetting]
  dsimp only
  cases e.evaluate text with
  | error err => exact ⟨nofun, nofun⟩
  | ok v =>
    constructor
    · rintro ⟨⟩
      exact ⟨_, rfl, rfl⟩
    · rintro ⟨scope, ⟨⟩, rfl⟩
      rfl

/-- However a new engine is used without declaring names: every name is bound under the very type of its value, and
    where an expression has a value, that has the very type of the expression. Therefore a statement that assigns an
    expression to a name leaves the bindings in which the name is set to the value of the expression, or fails as
    evaluating the expression does; the same holds of the scripts of such a statement, and of the settings that bind
    the name to the text. -/
theorem run_exact (limit : Nat) (ops : List Operation) (h : ∀ op ∈ ops, op.declaresNone) :
    let e := (new limit).run ops
    (∀ name binding, e.bindings.get? name = some binding → binding.type = binding.value.dataType) ∧
    (∀ text t v, e.compile text = .ok t → t.eval e.bindings.context = .ok v → v.dataType = t.dataType) ∧
    (∀ text x, readText (.standalone e.limit) text = .ok x →
      (∀ name span, Statement.execute e.limit e.bindings ⟨name, x, span⟩ =
        (e.evaluate text).map fun v => (e.set name v).bindings) ∧
      (∀ script s, readText (.script e.limit) script = .ok [s] → s.expression.bare = x.bare →
        ∀ e', e.eval script = (.ok (), e') ↔ ∃ v, e.evaluate text = .ok v ∧ e' = e.set s.target v) ∧
      ∀ setting name, splitSetting? setting = some (name, text) → ∀ span e', applySetting e setting = .ok e' ↔
        ∃ scope, Statement.execute e.limit e.bindings ⟨name, x, span⟩ = .ok scope ∧
          e' = { e with bindings := scope }) ∧
    ∀ name text v, IsPlainName name → e.evaluate text = .ok v →
      e.eval (name ++ " := " ++ text) = (.ok (), e.set name v) := by
  intro e
  have he : e.bindings.Exact := bindings_run_exact Bindings.exact_empty h
  refine ⟨fun name binding hbinding => (he name binding hbinding).symm, ?_, ?_, ?_⟩
  · intro text t v ht hv
    obtain ⟨x, -, hcheck⟩ := bind_eq_ok.1 ht
    exact evalIn_dataType he hcheck (mapError_eq_ok.2 hv)
  · intro text x hx
    refine ⟨fun name span => execute_eq_set he hx name span, ?_, ?_⟩
    · intro script s hs hbare e'
      exact eval_eq_set he hx hs hbare e'
    · intro setting name hsetting span e'
      exact applySetting_eq_ok he hsetting hx span e'
  · intro name text v hname hv
    -- The script checks and evaluates the expression at other places, which leaves its type and value.
    obtain ⟨t, ht, hvalue⟩ := bind_eq_ok.1 hv
    obtain ⟨x, hx, hcheck⟩ := bind_eq_ok.1 ht
    have hscope : e.scopeAfter (name ++ " := " ++ text) = .ok (e.bindings.assign name t.dataType v) := by
      rw [scopeAfter_target hname hx]
      exact bind_eq_ok.2 ⟨t, mapError_eq_ok.2 hcheck, bind_eq_ok.2 ⟨v, hvalue, rfl⟩⟩
    rw [← evalIn_dataType he hcheck hvalue] at hscope
    exact eval_eq_ok.2 ⟨_, hscope, rfl⟩

end Evaluation

open scoped Fragment in
/-- Names that are set, one of them to null, and a third one that is assigned the first. -/
theorem run_exact_letter :
    let ops := [Operation.set "x" (.integer 1), .set "z" .null]
    let e := (new 2).run ops
    (∀ op ∈ ops, op.declaresNone) ∧ IsPlainName "x" ∧ e.evaluate "x" = .ok (.integer 1) ∧
      e.eval ("x" ++ " := " ++ "x") = (.ok (), e.set "x" (.integer 1)) := by
  intro ops e
  have hops : ∀ op ∈ ops, op.declaresNone := by decide
  have hplain : IsPlainName "x" := ⟨_, tokenize_letter, rfl⟩
  have hevaluate : e.evaluate "x" = .ok (.integer 1) := by
    rw [evaluate, compile, readText, Parser.runText, TokenStream.ofText, tokenize_letter]
    rfl
  obtain ⟨-, -, -, htarget⟩ := run_exact 2 ops hops
  exact ⟨hops, hplain, hevaluate, htarget "x" "x" _ hplain hevaluate⟩

end Engine

end AssignScript
