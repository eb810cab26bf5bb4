import AssignScript.Proofs.Engine.Transaction
import AssignScript.Proofs.Pattern.Fragment
import AssignScript.Proofs.Typing.Meaning

/-!
# Statements that do not depend on each other

What a statement binds its target to depends on what the names in its expression are bound to, and on nothing
else. Two neighbouring statements of which neither uses the target of the other may therefore change places.

## Main definitions

* `Bindings.bindingOf`: what a statement binds its target to.

## Main statements

* `Bindings.bindingOf_congr`: an expression depends on its names only;
* `Statement.execute_comm`: two independent statements leave the same scope in either order;
* `Script.execute_swap`: two independent neighbours in a script may change places.
-/

namespace AssignScript

/-- What follows two checks side by side is the same if it is for every two trees of one meaning. -/
theorem Comparison.Related.mapError_bind_eq [PatternLibrary] {context context' : Context} {x y : Checked TypedExpr}
    (h : (agreeing context context').Related (TypedExpr.EvalsAlike context context') x y)
    {f f' : TypedExpr → Except ScriptError Binding}
    (hf : ∀ t t', TypedExpr.EvalsAlike context context' t t' → f t = f' t') :
    x.mapError ScriptError.semantic >>= f = y.mapError ScriptError.semantic >>= f' := by
  cases h with
  | stop h => cases h
  | error h => cases h; rfl
  | ok h => exact hf _ _ h

/-- What a statement with an expression binds its target to. -/
def Bindings.bindingOf [PatternLibrary] (limit : Nat) (scope : Bindings) (e : Expr) : Except ScriptError Binding := do
  let t ← checkIn limit scope e
  let v ← evalIn scope.context t
  return ⟨t.dataType, v⟩

theorem Statement.execute_eq_ok [PatternLibrary] {limit : Nat} {scope scope' : Bindings} {s : Statement} :
    s.execute limit scope = .ok scope' ↔
      ∃ b, scope.bindingOf limit s.expression = .ok b ∧ scope.insert s.target b = scope' := by
  simp only [execute, Bindings.bindingOf, bind_eq_ok]
  constructor
  · rintro ⟨t, ht, v, hv, h⟩
    exact ⟨_, ⟨t, ht, v, hv, rfl⟩, Except.ok.inj h⟩
  · rintro ⟨_, ⟨t, ht, v, hv, ⟨⟩⟩, h⟩
    exact ⟨t, ht, v, hv, congrArg Except.ok h⟩

namespace Bindings

variable [PatternLibrary] {limit : Nat} {scope scope' : Bindings} {e : Expr}

/-- What an expression makes of two scopes that bind its names alike is the same, errors included. -/
theorem bindingOf_congr (h : scope.AgreeOn e.names scope') :
    scope.bindingOf limit e = scope'.bindingOf limit e := by
  refine (Checker.checkWithin_related_of_agree .standard limit limit e h).mapError_bind_eq fun t t' ht => ?_
  rw [evalIn, evalIn, ht.1, ht.2]

/-- An expression without a name does not see what is bound to it. -/
theorem bindingOf_insert {x : String} (hx : x ∉ e.names) (b : Binding) :
    Bindings.bindingOf limit (scope.insert x b) e = scope.bindingOf limit e :=
  bindingOf_congr (agreeOn_assign hx scope b.type b.value)

end Bindings

/-- Insertions of different names commute. -/
theorem NameMap.insert_comm {α : Type} (m : NameMap α) {x y : String} (h : x ≠ y) (a b : α) :
    (m.insert x a).insert y b = (m.insert y b).insert x a := by
  refine ext_get? fun z => ?_
  simp only [get?_insert]
  by_cases hy : z = y
  · subst hy
    rw [if_pos rfl, if_neg (Ne.symm h), if_pos rfl]
  · rw [if_neg hy, if_neg hy]

/-! ### Statements -/

/-- Statements of which neither uses nor binds the target of the other. -/
structure Statement.Independent (s₁ s₂ : Statement) : Prop where
  targets : s₁.target ≠ s₂.target
  first : s₁.target ∉ s₂.expression.names
  second : s₂.target ∉ s₁.expression.names

namespace Statement

variable [PatternLibrary] {limit : Nat} {scope scope' : Bindings} {s₁ s₂ : Statement}

/-- Two statements leave a scope exactly if both their expressions have a binding in the scope before. -/
theorem execute_execute_eq_ok (h : s₁.target ∉ s₂.expression.names) :
    s₁.execute limit scope >>= s₂.execute limit = .ok scope' ↔
      ∃ b₁ b₂, scope.bindingOf limit s₁.expression = .ok b₁ ∧ scope.bindingOf limit s₂.expression = .ok b₂ ∧
        (scope.insert s₁.target b₁).insert s₂.target b₂ = scope' := by
  simp only [bind_eq_ok, execute_eq_ok]
  constructor
  · rintro ⟨_, ⟨b₁, h₁, rfl⟩, b₂, h₂, hscope⟩
    rw [Bindings.bindingOf_insert h] at h₂
    exact ⟨b₁, b₂, h₁, h₂, hscope⟩
  · rintro ⟨b₁, b₂, h₁, h₂, hscope⟩
    refine ⟨_, ⟨b₁, h₁, rfl⟩, b₂, ?_, hscope⟩
    rwa [Bindings.bindingOf_insert h]

/-- Two independent statements leave the same scope in either order. -/
theorem execute_comm (h : Independent s₁ s₂) :
    s₁.execute limit scope >>= s₂.execute limit = .ok scope' ↔
      s₂.execute limit scope >>= s₁.execute limit = .ok scope' := by
  rw [execute_execute_eq_ok h.first, execute_execute_eq_ok h.second, exists_comm]
  refine exists_congr fun b₂ => exists_congr fun b₁ => ?_
  rw [NameMap.insert_comm scope h.targets, and_left_comm]

end Statement

/-! ### Scripts -/

namespace Script

section Execution

variable [PatternLibrary] {limit : Nat} {scope scope' : Bindings} {s₁ s₂ : Statement}

theorem execute_pair (limit : Nat) (scope : Bindings) (s₁ s₂ : Statement) :
    Script.execute limit scope [s₁, s₂] = s₁.execute limit scope >>= s₂.execute limit := by
  simp only [execute, List.foldlM_cons, List.foldlM_nil, bind_pure]

theorem execute_swap_eq_ok (h : s₁.Independent s₂) (before behind : Script) :
    Script.execute limit scope (before ++ s₁ :: s₂ :: behind) = .ok scope' ↔
      Script.execute limit scope (before ++ s₂ :: s₁ :: behind) = .ok scope' := by
  -- Only the pair is executed differently, and what is behind it runs in the scope that the pair leaves.
  have hpair : ∀ middle middle', Script.execute limit middle [s₁, s₂] = .ok middle' ↔
      Script.execute limit middle [s₂, s₁] = .ok middle' := by
    intro middle middle'
    rw [execute_pair, execute_pair]
    exact Statement.execute_comm h
  change execute limit scope (before ++ ([s₁, s₂] ++ behind)) = _ ↔
    execute limit scope (before ++ ([s₂, s₁] ++ behind)) = _
  simp only [execute_append, hpair]

/-- Two neighbours in a script of which neither uses nor binds the target of the other may change places: either
    way the script fails, or it leaves the same scope. -/
theorem execute_swap (h : s₁.Independent s₂) (limit : Nat) (scope : Bindings) (before behind : Script) :
    (∃ final, Script.execute limit scope (before ++ s₁ :: s₂ :: behind) = .ok final ∧
        Script.execute limit scope (before ++ s₂ :: s₁ :: behind) = .ok final) ∨
      (∃ err, Script.execute limit scope (before ++ s₁ :: s₂ :: behind) = .error err) ∧
        ∃ err, Script.execute limit scope (before ++ s₂ :: s₁ :: behind) = .error err := by
  cases hfirst : execute limit scope (before ++ s₁ :: s₂ :: behind) with
  | ok final => exact .inl ⟨final, rfl, (execute_swap_eq_ok h before behind).1 hfirst⟩
  | error err =>
    refine .inr ⟨⟨err, rfl⟩, ?_⟩
    cases hsecond : execute limit scope (before ++ s₂ :: s₁ :: behind) with
    | error err => exact ⟨err, rfl⟩
    | ok final =>
      rw [(execute_swap_eq_ok h before behind).2 hsecond] at hfirst
      cases hfirst

end Execution

open scoped Fragment in
/-- `x := 1` and `y := not z`, of which the second fails unless `z` is bound. -/
theorem execute_swap_negation :
    let s : Span := .unplaced ""
    let x : Statement := ⟨"x", .literal s (.integer 1), s⟩
    let y : Statement := ⟨"y", .unary s .not (.variable s "z"), s⟩
    x.Independent y ∧ ∀ scope : Bindings,
      (∃ final, Script.execute 2 scope ([] ++ x :: y :: []) = .ok final ∧
        Script.execute 2 scope ([] ++ y :: x :: []) = .ok final) ∨
      (∃ err, Script.execute 2 scope ([] ++ x :: y :: []) = .error err) ∧
        ∃ err, Script.execute 2 scope ([] ++ y :: x :: []) = .error err := by
  intro s x y
  have h : x.Independent y := ⟨by decide, by decide, by decide⟩
  exact ⟨h, fun scope => execute_swap h 2 scope [] []⟩

end Script

end AssignScript
