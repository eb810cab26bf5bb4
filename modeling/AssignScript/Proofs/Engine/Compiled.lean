import AssignScript.Proofs.Engine.Reachable
import AssignScript.Proofs.Lexing.Tokens
import AssignScript.Proofs.Pattern.Fragment
import AssignScript.Proofs.Typing.Dependence
import AssignScript.Proofs.Typing.Places

/-!
# Compiled expressions

An expression that an engine has checked once need not be checked again. Whatever is done with the engine afterwards,
checking it anew gives the same typed expression, as long as its variables keep their types. What else the scope holds,
and what values the variables have, does not get into the typed expression.

## Main statements

* `Engine.compile_congr`: what an engine makes of a text depends on the types of its variables;
* `Engine.compile_run`: a typed expression evaluates like its text in every later state that keeps those types.
-/

namespace AssignScript

/-- Bindings in which some names have the same types, or none. -/
def Bindings.TypedAlike (names : List String) (b b' : Bindings) : Prop :=
  ∀ x ∈ names, b.type? x = b'.type? x

/-- Scopes in which the variables of an expression have the same types make the same of it. -/
theorem checkIn_congr (limit : Nat) {scope scope' : Bindings} {e : Expr} (h : scope.TypedAlike e.names scope') :
    checkIn limit scope e = checkIn limit scope' e := by
  have hagree : Checker.AgreeOn ⟨scope.declarations, .standard, limit⟩ ⟨scope'.declarations, .standard, limit⟩ e := by
    refine Checker.agreeOn_of_mentions (fun x hx => ?_) (fun _ _ _ _ => rfl) (fun _ _ _ _ _ => rfl) fun _ _ _ _ => rfl
    rw [Bindings.declarations, Bindings.declarations, NameMap.get?_map, NameMap.get?_map]
    exact h x hx
  have hlimit : (Checker.mk scope.declarations .standard limit).limit =
      (Checker.mk scope'.declarations .standard limit).limit := rfl
  rw [checkIn, checkIn, Checker.check_congr hlimit hagree]

namespace Engine

/-- Operations leave the limit of nesting as it is. -/
theorem step_limit [PatternLibrary] (e : Engine) (op : Operation) : (e.step op).limit = e.limit := by
  cases op with
  | eval text =>
    simp only [step, Engine.eval]
    split <;> rfl
  | _ => rfl

theorem run_limit [PatternLibrary] (e : Engine) (ops : List Operation) : (e.run ops).limit = e.limit := by
  induction ops generalizing e with
  | nil => rfl
  | cons op ops ih => exact (ih (e.step op)).trans (e.step_limit op)

/-- Engines with one limit, in which the variables of an expression have the same types, make the same of its text. -/
theorem compile_congr {e e' : Engine} {text : String} {x : Expr} (hlimit : e'.limit = e.limit)
    (hread : readText (.standalone e.limit) text = .ok x) (h : e.bindings.TypedAlike x.names e'.bindings) :
    e'.compile text = e.compile text := by
  rw [compile, compile, hlimit, hread]
  exact (checkIn_congr e.limit h).symm

/-- A text that an engine compiles holds an expression, and for as long as the variables of that have the types that
    they had then, whatever else is done with the engine: compiling the text gives the same typed expression again,
    and evaluating the text gives the value or error that the typed expression has under the current bindings. -/
theorem compile_run [PatternLibrary] {e : Engine} {text : String} {t : TypedExpr} (h : e.compile text = .ok t)
    (ops : List Operation) :
    ∃ x, readText (.standalone e.limit) text = .ok x ∧
      (e.bindings.TypedAlike x.names (e.run ops).bindings →
        (e.run ops).compile text = .ok t ∧
          (e.run ops).evaluate text = evalIn (e.run ops).bindings.context t) := by
  obtain ⟨x, hread, -⟩ := bind_eq_ok.1 h
  refine ⟨x, hread, fun htypes => ?_⟩
  have hcompile : (e.run ops).compile text = .ok t :=
    (compile_congr (e.run_limit ops) hread htypes).trans h
  refine ⟨hcompile, ?_⟩
  rw [evaluate, hcompile]
  rfl

open scoped Fragment in
/-- A variable that is bound to another value later. -/
theorem compile_run_letter :
    let e := (new 2).set "x" (.integer 1)
    let e' := e.run [.set "x" (.integer 2), .declare "y" .string]
    e.compile "x" = .ok (.var .integer "x") ∧
      e'.evaluate "x" = evalIn e'.bindings.context (.var .integer "x") ∧ e'.evaluate "x" = .ok (.integer 2) := by
  intro e e'
  have hread : readText (.standalone e.limit) "x" = .ok (.variable ⟨⟨1, 1, 0⟩, ⟨1, 2, 1⟩, "x"⟩ "x") := by
    rw [readText, Parser.runText, TokenStream.ofText, tokenize_letter]
    rfl
  have hcompile : e.compile "x" = .ok (.var .integer "x") := by
    rw [compile, hread]
    rfl
  obtain ⟨x, hx, hrun⟩ := compile_run hcompile [.set "x" (.integer 2), .declare "y" .string]
  obtain rfl := Except.ok.inj (hread.symm.trans hx)
  have htypes : e.bindings.TypedAlike ["x"] e'.bindings := by
    intro y hy
    obtain rfl := List.mem_singleton.1 hy
    rfl
  obtain ⟨-, hevaluate⟩ := hrun htypes
  exact ⟨hcompile, hevaluate, hevaluate.trans rfl⟩

end Engine

end AssignScript
