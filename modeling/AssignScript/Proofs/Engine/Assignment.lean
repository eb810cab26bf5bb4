import AssignScript.Proofs.Engine.Transaction
import AssignScript.Proofs.Pattern.Fragment
import AssignScript.Proofs.Syntax.Assignment
import AssignScript.Proofs.Typing.Meaning

/-!
# Evaluating and assigning

An engine reads and runs a whole expression in one way and a script in another. The two agree: the script that
binds a plain name to an expression does what evaluating the expression does, and then binds the name.

## Main definitions

* `ScriptError.mapSpan`: an error that points at another span.

## Main statements

* `Engine.scopeAfter_target`: what the script that binds a name to an expression does;
* `Engine.eval_target`: evaluating an expression and binding a name to it agree.
-/

namespace AssignScript

open AssignScript.Parser

/-- An error that points at another span, if it points at one. -/
def ScriptError.mapSpan (g : Span → Span) : ScriptError → ScriptError
  | .semantic e => .semantic (e.mapSpan g)
  | .parse e => .parse e
  | .runtime e => .runtime e

theorem checkIn_mapSpan (limit : Nat) (scope : Bindings) (g : Span → Span) (e : Expr) :
    checkIn limit scope (e.mapSpan g) = (checkIn limit scope e).mapError (ScriptError.mapSpan g) := by
  rw [checkIn, checkIn, Checker.check_mapSpan]
  cases Checker.check ⟨scope.declarations, .standard, limit⟩ e <;> rfl

namespace Engine

section Evaluation

variable [PatternLibrary] {e : Engine} {name text : String} {x : Expr}

/-- The script that binds a plain name to an expression checks and evaluates the expression as it is, but for its
    places. -/
theorem scopeAfter_target (h : IsPlainName name) (hx : readText (.standalone e.limit) text = .ok x) :
    e.scopeAfter (name ++ " := " ++ text) = do
      let t ← (checkIn e.limit e.bindings x).mapError (ScriptError.mapSpan (Span.behindTarget name))
      let v ← evalIn e.bindings.context t
      return e.bindings.assign name t.dataType v := by
  obtain ⟨span, hscript⟩ := script_target h (mapError_eq_ok.1 hx)
  have hread : readText (.script e.limit) (name ++ " := " ++ text) =
      .ok [⟨name, x.mapSpan (Span.behindTarget name), span⟩] := mapError_eq_ok.2 hscript
  have hexecute : Script.execute e.limit e.bindings [⟨name, x.mapSpan (Span.behindTarget name), span⟩] =
      Statement.execute e.limit e.bindings ⟨name, x.mapSpan (Span.behindTarget name), span⟩ := by
    rw [Script.execute, List.foldlM_cons]
    simp only [List.foldlM_nil, bind_pure]
  rw [scopeAfter, hread]
  change Script.execute _ _ _ = _
  rw [hexecute, Statement.execute, checkIn_mapSpan]

/-- An expression with a semantic error can be read. -/
theorem evaluate_eq_semantic {err : SemanticError} (h : e.evaluate text = .error (.semantic err)) :
    ∃ x, readText (.standalone e.limit) text = .ok x ∧
      checkIn e.limit e.bindings x = .error (.semantic err) := by
  rw [evaluate, bind_eq_error, compile, bind_eq_error] at h
  obtain (hread | ⟨x, hx, hcheck⟩) | ⟨t, -, hv⟩ := h
  · obtain ⟨_, -, ⟨⟩⟩ := mapError_eq_error.1 hread
  · exact ⟨x, hx, hcheck⟩
  · obtain ⟨_, -, ⟨⟩⟩ := mapError_eq_error.1 hv

/-- An expression with a runtime error can be read and has a type. -/
theorem evaluate_eq_runtime {err : EvalError} (h : e.evaluate text = .error (.runtime err)) :
    ∃ x t, readText (.standalone e.limit) text = .ok x ∧ checkIn e.limit e.bindings x = .ok t ∧
      evalIn e.bindings.context t = .error (.runtime err) := by
  rw [evaluate, bind_eq_error, compile, bind_eq_error] at h
  obtain (hread | ⟨x, -, hcheck⟩) | ⟨t, ht, hv⟩ := h
  · obtain ⟨_, -, ⟨⟩⟩ := mapError_eq_error.1 hread
  · obtain ⟨_, -, ⟨⟩⟩ := mapError_eq_error.1 hcheck
  · obtain ⟨x, hx, hcheck⟩ := bind_eq_ok.1 ht
    exact ⟨x, t, hx, hcheck, hv⟩

/-- Evaluating an expression and binding a plain name to it agree. If the expression has a value, the name is bound
    to it, with the type of the expression, and no other name is bound anew. If it has none, the engine stays as it
    is, and the error is the same; where it points at a span, the span moves along with the text. -/
theorem eval_target (e : Engine) (h : IsPlainName name) (text : String) :
    (∀ v, e.evaluate text = .ok v → ∃ t e', e.compile text = .ok t ∧
      e.eval (name ++ " := " ++ text) = (.ok (), e') ∧ e'.limit = e.limit ∧
      e'.bindings.get? name = some ⟨t.dataType, v⟩ ∧
      ∀ y, y ≠ name → e'.bindings.get? y = e.bindings.get? y) ∧
    (∀ err, e.evaluate text = .error (.semantic err) →
      e.eval (name ++ " := " ++ text) = (.error (.semantic (err.mapSpan (Span.behindTarget name))), e)) ∧
    (∀ err, e.evaluate text = .error (.runtime err) →
      e.eval (name ++ " := " ++ text) = (.error (.runtime err), e)) := by
  refine ⟨fun v h' => ?_, fun err h' => ?_, fun err h' => ?_⟩
  · obtain ⟨t, hcompile, hv⟩ := bind_eq_ok.1 h'
    obtain ⟨x, hx, hcheck⟩ := bind_eq_ok.1 hcompile
    have hscope : e.scopeAfter (name ++ " := " ++ text) = .ok (e.bindings.assign name t.dataType v) := by
      rw [scopeAfter_target h hx]
      exact bind_eq_ok.2 ⟨t, mapError_eq_ok.2 hcheck, bind_eq_ok.2 ⟨v, hv, rfl⟩⟩
    refine ⟨t, _, hcompile, eval_eq_ok.2 ⟨_, hscope, rfl⟩, rfl, ?_, fun y hy => ?_⟩
    · exact (e.bindings.get?_assign name name t.dataType v).trans (if_pos rfl)
    · exact (e.bindings.get?_assign name y t.dataType v).trans (if_neg hy)
  · obtain ⟨x, hx, hcheck⟩ := evaluate_eq_semantic h'
    have hscope : e.scopeAfter (name ++ " := " ++ text) =
        .error (.semantic (err.mapSpan (Span.behindTarget name))) := by
      rw [scopeAfter_target h hx]
      exact bind_eq_error.2 (.inl (mapError_eq_error.2 ⟨_, hcheck, rfl⟩))
    rw [eval, hscope]
  · obtain ⟨x, t, hx, hcheck, hv⟩ := evaluate_eq_runtime h'
    have hscope : e.scopeAfter (name ++ " := " ++ text) = .error (.runtime err) := by
      rw [scopeAfter_target h hx]
      exact bind_eq_error.2 (.inr ⟨t, mapError_eq_ok.2 hcheck, bind_eq_error.2 (.inl hv)⟩)
    rw [eval, hscope]

end Evaluation

open scoped Fragment in
/-- A letter in front of a text. -/
theorem eval_target_letter :
    IsPlainName "x" ∧ ∀ text,
      (∀ v, ({} : Engine).evaluate text = .ok v → ∃ t e', ({} : Engine).compile text = .ok t ∧
        ({} : Engine).eval ("x" ++ " := " ++ text) = (.ok (), e') ∧ e'.limit = defaultLimit ∧
        e'.bindings.get? "x" = some ⟨t.dataType, v⟩ ∧
        ∀ y, y ≠ "x" → e'.bindings.get? y = ({} : Engine).bindings.get? y) ∧
      (∀ err, ({} : Engine).evaluate text = .error (.semantic err) →
        ({} : Engine).eval ("x" ++ " := " ++ text) =
          (.error (.semantic (err.mapSpan (Span.behindTarget "x"))), {})) ∧
      (∀ err, ({} : Engine).evaluate text = .error (.runtime err) →
        ({} : Engine).eval ("x" ++ " := " ++ text) = (.error (.runtime err), {})) := by
  have hfront : front ['x'] = .token (.identifier "x") 1 := by decide
  have hplain : IsPlainName "x" :=
    ⟨_, Cursor.tokens_front (by decide) (by decide) hfront Cursor.tokens_nil, rfl⟩
  exact ⟨hplain, eval_target {} hplain⟩

end Engine

end AssignScript
