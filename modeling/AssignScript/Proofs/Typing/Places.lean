import AssignScript.Proofs.Typing.Parallel

/-!
# Checking does not look at places

The checker makes the same typed expression of an expression whatever spans stand in it, and finds the same
error, which points at the span that stands there.

## Main definitions

* `SemanticError.mapSpan`: an error that points elsewhere;
* `Check.Carries`: a check that treats spans as they come;
* `Comparison.mapSpan`: what is compared.

## Main statements

* `Checker.check_mapSpan`: checking commutes with changing spans;
* `Checker.check_eq_ok_of_bare_eq`: expressions that differ in their spans only have one typed expression.
-/

namespace AssignScript

/-- An error that points at another span. -/
def SemanticError.mapSpan (g : Span → Span) : SemanticError → SemanticError
  | .undefinedVariable name s => .undefinedVariable name (g s)
  | .invalidType expected actual s => .invalidType expected actual (g s)
  | .conflictingTypes types s => .conflictingTypes types (g s)
  | .unknownFunction name s => .unknownFunction name (g s)
  | .argumentCount function least most actual s => .argumentCount function least most actual (g s)
  | .missingOperand s => .missingOperand (g s)
  | .nestingTooDeep limit s => .nestingTooDeep limit (g s)

/-- What succeeds is not changed. -/
theorem mapError_eq_ok {ε ε' α : Type} {f : ε → ε'} {x : Except ε α} {a : α} :
    x.mapError f = .ok a ↔ x = .ok a := by
  cases x with
  | ok b => exact ⟨fun h => by cases h; rfl, fun h => by cases h; rfl⟩
  | error e => exact ⟨nofun, nofun⟩

/-- What fails failed before, for a reason that the error tells. -/
theorem mapError_eq_error {ε ε' α : Type} {f : ε → ε'} {x : Except ε α} {e' : ε'} :
    x.mapError f = .error e' ↔ ∃ e, x = .error e ∧ f e = e' := by
  cases x with
  | ok b => exact ⟨nofun, nofun⟩
  | error e =>
    constructor
    · exact fun h => ⟨e, rfl, Except.error.inj h⟩
    · rintro ⟨_, ⟨⟩, rfl⟩
      rfl

/-- Checking commutes with changing spans. -/
def Check.Carries (g : Span → Span) (check : Check) : Prop :=
  ∀ e, check (e.mapSpan g) = (check e).mapError (SemanticError.mapSpan g)

/-- The check of an expression beside that of the expression with other spans. -/
def Comparison.mapSpan (g : Span → Span) : Comparison where
  stops _ := False
  errors e e' := e' = e.mapSpan g
  spans s s' := s' = g s
  trees := (· = ·)
  errors_of_alike h := by
    cases h <;> rename_i h <;> subst h <;> rfl
  congruence := TypedExpr.congruence_eq

theorem Comparison.related_mapSpan_iff {g : Span → Span} {x y : Checked TypedExpr} :
    (Comparison.mapSpan g).Related (· = ·) x y ↔ y = x.mapError (SemanticError.mapSpan g) := by
  constructor
  · rintro (⟨⟨⟩⟩ | h | h)
    · exact congrArg Except.error h
    · exact congrArg Except.ok h.symm
  · rintro rfl
    cases x with
    | ok t => exact .ok rfl
    | error e => exact .error rfl

theorem Expr.mapSpan_eq_mapChildren (g : Span → Span) (e : Expr) :
    e.mapSpan g = e.mapChildren (Expr.mapSpan g) g := by
  cases e with
  | call s x args => rw [Expr.mapSpan, mapSpanArgs_eq_map, mapChildren]
  | _ => rfl

namespace Checker

variable {c : Checker} {check : Check} {g : Span → Span}

theorem checkNode_mapSpan (hc : check.Carries g) : Check.Carries g (c.checkNode check) := by
  intro e
  rw [Expr.mapSpan_eq_mapChildren, ← Comparison.related_mapSpan_iff]
  refine checkNode_mapChildren_related (K := .mapSpan g) (c.seesAlike_self e) (fun _ _ _ _ _ => rfl) rfl fun i _ => ?_
  exact ⟨i.span_mapSpan g, (i.isOmitted_mapSpan g).symm, Comparison.related_mapSpan_iff.2 (hc i)⟩

theorem checkWithin_mapSpan (c : Checker) (room : Nat) : Check.Carries g (c.checkWithin room) := by
  induction room with
  | zero =>
    intro e
    simp only [checkWithin, Expr.span_mapSpan]
    rfl
  | succ room ih => exact checkNode_mapSpan ih

/-- Checking commutes with changing spans. -/
theorem check_mapSpan (c : Checker) (g : Span → Span) (e : Expr) :
    c.check (e.mapSpan g) = (c.check e).mapError (SemanticError.mapSpan g) :=
  c.checkWithin_mapSpan c.limit e

/-- Expressions that differ in their spans only have one typed expression, or none. -/
theorem check_eq_ok_of_bare_eq {c : Checker} {e e' : Expr} (h : e.bare = e'.bare) {t : TypedExpr} :
    c.check e = .ok t ↔ c.check e' = .ok t := by
  have hbare : ∀ e : Expr, c.check e = .ok t ↔ c.check e.bare = .ok t := by
    intro e
    rw [Expr.bare, check_mapSpan, mapError_eq_ok]
  rw [hbare e, hbare e', h]

end Checker

end AssignScript
