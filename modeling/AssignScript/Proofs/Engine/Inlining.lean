import AssignScript.Engine
import AssignScript.Proofs.Pattern.Fragment
import AssignScript.Proofs.Typing.Checked
import AssignScript.Proofs.Typing.Meaning
import AssignScript.Proofs.Typing.Places

/-!
# Expressions for the variables bound to them

A variable that a statement has bound means what the expression of the statement meant before: where the
variable stands, the expression may stand in parentheses, in the scope that the statement was run in. The
variable may occur in that expression itself, which then means what it was bound to before.

## Main definitions

* `Expr.inline`: an expression in which another one stands for a variable;
* `BindsTo`: scopes of which the second binds a variable to what an expression is worth in the first.

## Main statements

* `BindsTo.checkWithin_inline_related`: the two expressions are checked and evaluated alike;
* `Statement.execute_inline`: a statement that was run may be inlined behind it.
-/

namespace AssignScript

/-! ### Inlining -/

namespace Expr

mutual

/-- An expression with another one, in parentheses, for every occurrence of a variable. -/
def inline (x : String) (d : Expr) : Expr → Expr
  | .literal s v => .literal s v
  | .variable s y => if y = x then .parens s d else .variable s y
  | .parens s e => .parens s (inline x d e)
  | .unary s op e => .unary s op (inline x d e)
  | .binary s op l r => .binary s op (inline x d l) (inline x d r)
  | .conditional s c a b => .conditional s (inline x d c) (inline x d a) (inline x d b)
  | .call s f args => .call s f (inlineArgs x d args)
  | .omitted s => .omitted s

/-- Arguments with an expression, in parentheses, for every occurrence of a variable. -/
def inlineArgs (x : String) (d : Expr) : List Expr → List Expr
  | [] => []
  | a :: as => inline x d a :: inlineArgs x d as

end

variable {x : String} {d : Expr}

theorem inlineArgs_eq_map (args : List Expr) : inlineArgs x d args = args.map (inline x d) := by
  induction args with
  | nil => rfl
  | cons a as ih => rw [inlineArgs, ih, List.map_cons]

theorem inline_variable (s : Span) : inline x d (.variable s x) = .parens s d := by
  rw [inline, if_pos rfl]

/-- Unless it is the variable itself, an expression keeps its form. -/
theorem variable_or_inline (x : String) (d e : Expr) :
    (∃ s, e = .variable s x) ∨ (∀ s, e ≠ .variable s x) ∧ inline x d e = e.mapChildren (inline x d) id := by
  cases e with
  | «variable» s y =>
    by_cases hy : y = x
    · subst hy
      exact .inl ⟨s, rfl⟩
    · refine .inr ⟨fun _ h => hy (by cases h; rfl), ?_⟩
      rw [inline, if_neg hy]
      rfl
  | call s f args => exact .inr ⟨(fun _ h => by cases h), by rw [inline, inlineArgs_eq_map, mapChildren, id]⟩
  | _ => exact .inr ⟨(fun _ h => by cases h), rfl⟩

/-- What is inlined stands in parentheses, so it leaves no argument out. -/
theorem isOmitted_inline (e : Expr) : (inline x d e).isOmitted = e.isOmitted := by
  cases e with
  | «variable» s y =>
    rw [inline]
    split <;> rfl
  | _ => rfl

end Expr

/-! ### Checking and evaluating -/

/-- The check of an expression with another one inlined beside that of the expression itself, of which the trees
    are evaluated each in a context of its own. Inlining takes room. -/
def Comparison.inlined [PatternLibrary] (limit : Nat) (context context' : Context) : Comparison where
  stops e := ∃ span, e = .nestingTooDeep limit span
  errors _ _ := True
  spans _ _ := True
  trees := TypedExpr.EvalsAlike context context'
  errors_of_alike _ := trivial
  congruence := TypedExpr.congruence_evalsAlike context context'

/-- Scopes of which the second binds a variable to what an expression is worth in the first, and every other name
    like the first. -/
structure BindsTo [PatternLibrary] (functions : FunctionTable) (limit : Nat) (x : String) (d : Expr) (b b' : Bindings) : Prop where
  worth : ∃ t v, Checker.check ⟨b.declarations, functions, limit⟩ d = .ok t ∧ t.eval b.context = .ok v ∧
    v.Fits t.dataType ∧ b'.get? x = some ⟨t.dataType, v⟩
  other : ∀ y, y ≠ x → b.get? y = b'.get? y

namespace BindsTo

variable [PatternLibrary] {functions : FunctionTable} {limit : Nat} {x : String} {d : Expr} {b b' : Bindings}

/-- Where the expression is inlined it means what the variable is bound to. -/
theorem variable_related (h : BindsTo functions limit x d b b') (s : Span) {room room' : Nat}
    (hroom : room ≤ limit) :
    (Comparison.inlined limit b.context b'.context).Related (TypedExpr.EvalsAlike b.context b'.context)
      (Checker.checkWithin ⟨b.declarations, functions, limit⟩ (room + 1) (.parens s d))
      (Checker.checkWithin ⟨b'.declarations, functions, limit⟩ (room' + 1) (.variable s x)) := by
  obtain ⟨t, v, hd, hv, hfits, hx⟩ := h.worth
  have htype : b'.declarations.get? x = some t.dataType := by
    rw [Bindings.declarations, NameMap.get?_map, hx, Option.map_some]
  have hvalue : b'.context.get? x = some v := by
    rw [Bindings.context, NameMap.get?_map, hx, Option.map_some]
  have hvariable : Checker.checkWithin ⟨b'.declarations, functions, limit⟩ (room' + 1) (.variable s x) =
      .ok (.var t.dataType x) := by
    simp only [Checker.checkWithin, Checker.checkNode, htype]
    rfl
  rw [hvariable]
  change Comparison.Related _ _ (Checker.checkWithin ⟨b.declarations, functions, limit⟩ room d) _
  rcases Checker.checkWithin_eq_of_le ⟨b.declarations, functions, limit⟩ d hroom with ⟨span, hspan⟩ | hsame
  · rw [hspan]
    exact .stop ⟨span, rfl⟩
  · have hd' : Checker.checkWithin ⟨b.declarations, functions, limit⟩ room d = .ok t := hsame.trans hd
    rw [hd']
    -- A value that fits the type of its variable is read back as it is.
    have hread : b'.context.read t.dataType x = .ok v := by
      simp only [Context.read, hvalue, conform, hfits.conformTo]
    refine .ok ⟨rfl, ?_⟩
    rw [hv, TypedExpr.eval, hread]

/-- Other nodes are seen alike, since other names are bound alike. -/
theorem seesAlike (h : BindsTo functions limit x d b b') {e : Expr} (he : ∀ s, e ≠ .variable s x) :
    Checker.SeesAlike ⟨b.declarations, functions, limit⟩ ⟨b'.declarations, functions, limit⟩ e := by
  cases e with
  | «variable» s y => exact Bindings.declarations_get?_eq (h.other y fun hy => he s (hy ▸ rfl))
  | _ => first | rfl | trivial

/-- An expression with the other one inlined, in the first scope, beside the expression itself, in the second. -/
theorem checkWithin_inline_related (h : BindsTo functions limit x d b b') (room : Nat) :
    ∀ room' e, room ≤ limit → room ≤ room' →
      (Comparison.inlined limit b.context b'.context).Related (TypedExpr.EvalsAlike b.context b'.context)
        (Checker.checkWithin ⟨b.declarations, functions, limit⟩ room (Expr.inline x d e))
        (Checker.checkWithin ⟨b'.declarations, functions, limit⟩ room' e) := by
  induction room with
  | zero => exact fun _ e _ _ => .stop ⟨(Expr.inline x d e).span, rfl⟩
  | succ room ih =>
    intro room' e hlimit hle
    obtain ⟨room', rfl⟩ : ∃ n, room' = n + 1 := ⟨room' - 1, by omega⟩
    have hchildren : ∀ i ∈ e.children, (Comparison.inlined limit b.context b'.context).Operands
        (Checker.checkWithin ⟨b.declarations, functions, limit⟩ room)
        (Checker.checkWithin ⟨b'.declarations, functions, limit⟩ room') (Expr.inline x d i) (id i) := by
      intro i _
      exact ⟨trivial, Expr.isOmitted_inline i, ih room' i (Nat.le_of_succ_le hlimit) (Nat.le_of_succ_le_succ hle)⟩
    rcases Expr.variable_or_inline x d e with ⟨s, rfl⟩ | ⟨hother, hinline⟩
    · rw [Expr.inline_variable]
      exact h.variable_related s (Nat.le_of_succ_le hlimit)
    · have hvariable : ∀ s y t, e = .variable s y → b.declarations.get? y = some t →
          TypedExpr.EvalsAlike b.context b'.context (.var t y) (.var t y) := by
        rintro s y t rfl -
        exact TypedExpr.evalsAlike_var
          (Bindings.context_get?_eq (h.other y fun hy => hother s (hy ▸ rfl))) t
      have hspan : (Comparison.inlined limit b.context b'.context).spans (id e.span) (id e.span) := trivial
      have hnode := Checker.checkNode_related (h.seesAlike hother) hvariable hspan hchildren
      rw [Expr.mapChildren_id] at hnode
      rw [hinline]
      exact hnode

end BindsTo

/-! ### Statements -/

/-- A statement that was run binds its target to what its expression was worth. -/
theorem Statement.bindsTo_of_execute [PatternLibrary] {limit : Nat} {scope scope' : Bindings} {s : Statement}
    (h : s.execute limit scope = .ok scope') : BindsTo .standard limit s.target s.expression scope scope' := by
  simp only [execute, bind_eq_ok, checkIn, evalIn, mapError_eq_ok] at h
  obtain ⟨t, ht, v, hv, ⟨⟩⟩ := h
  refine ⟨⟨t, v, ht, hv, ?_, ?_⟩, fun y hy => ?_⟩
  · have hsettled := (Checker.check_wellTyped .standard ht).eval_settled scope.context
    rwa [hv] at hsettled
  · rw [Bindings.get?_assign, if_pos rfl]
  · rw [Bindings.get?_assign, if_neg hy]

/-- Behind a statement that was run, an expression is accepted exactly if it is with the statement inlined, in the
    scope that the statement was run in, unless there the limit of nesting is reached. Its type is then the same,
    and so is its value or its error. -/
theorem Statement.execute_inline [PatternLibrary] {limit : Nat} {scope scope' : Bindings} {s : Statement}
    (h : s.execute limit scope = .ok scope') (e : Expr)
    (hroom : Checker.HasRoomFor ⟨scope.declarations, .standard, limit⟩ (Expr.inline s.target s.expression e)) :
    ((∃ t, checkIn limit scope' e = .ok t) ↔
        ∃ t, checkIn limit scope (Expr.inline s.target s.expression e) = .ok t) ∧
      ∀ t t', checkIn limit scope' e = .ok t →
        checkIn limit scope (Expr.inline s.target s.expression e) = .ok t' →
          t.dataType = t'.dataType ∧ evalIn scope'.context t = evalIn scope.context t' := by
  have hrelated := (bindsTo_of_execute h).checkWithin_inline_related limit limit e (Nat.le_refl _) (Nat.le_refl _)
  simp only [checkIn, evalIn, mapError_eq_ok, Checker.check]
  change ∀ span, Checker.checkWithin _ limit _ ≠ .error (.nestingTooDeep limit span) at hroom
  generalize Checker.checkWithin _ limit (Expr.inline s.target s.expression e) = x,
    Checker.checkWithin _ limit e = y at hrelated hroom ⊢
  rcases hrelated with ⟨span, rfl⟩ | _ | ⟨htype, heval⟩
  · exact absurd rfl (hroom span)
  · exact ⟨⟨nofun, nofun⟩, nofun⟩
  · refine ⟨⟨fun _ => ⟨_, rfl⟩, fun _ => ⟨_, rfl⟩⟩, ?_⟩
    rintro t t' ⟨⟩ ⟨⟩
    exact ⟨htype.symm, by rw [heval]⟩

open scoped Fragment in
/-- `x := not y`, with `y` true, inlined in `x or y`. -/
theorem Statement.execute_inline_negation :
    let p : Span := .unplaced ""
    let scope : Bindings := Bindings.set .empty "y" (.boolean true)
    let s : Statement := ⟨"x", .unary p .not (.variable p "y"), p⟩
    let e : Expr := .binary p .or (.variable p "x") (.variable p "y")
    let inlined : Expr := .binary p .or (.parens p (.unary p .not (.variable p "y"))) (.variable p "y")
    s.execute 4 scope = .ok (scope.set "x" (.boolean false)) ∧
      Checker.HasRoomFor ⟨scope.declarations, .standard, 4⟩ inlined ∧
      (((∃ t, checkIn 4 (scope.set "x" (.boolean false)) e = .ok t) ↔ ∃ t, checkIn 4 scope inlined = .ok t) ∧
        ∀ t t', checkIn 4 (scope.set "x" (.boolean false)) e = .ok t → checkIn 4 scope inlined = .ok t' →
          t.dataType = t'.dataType ∧
            evalIn (scope.set "x" (.boolean false)).context t = evalIn scope.context t') := by
  intro p scope s e inlined
  have h : s.execute 4 scope = .ok (scope.set "x" (.boolean false)) := rfl
  have hinlined : Expr.inline s.target s.expression e = inlined := rfl
  have hroom : Checker.HasRoomFor ⟨scope.declarations, .standard, 4⟩ inlined := nofun
  exact ⟨h, hroom, execute_inline h e hroom⟩

end AssignScript
