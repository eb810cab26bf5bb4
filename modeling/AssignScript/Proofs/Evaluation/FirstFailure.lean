import AssignScript.Eval
import AssignScript.Proofs.Evaluation.Parts

/-!
# The first failure is reported

Evaluation goes through the expressions inside an expression from left to right, each behind its parts, and leaves out
only the branches that a choice does not take. Some of these expressions may fail by themselves: their parts have
values, and what they do to those is an error. The error of the first one is the error of the whole.

## Main definitions

* `TypedExpr.reached`: the expressions that evaluation comes by, in its order;
* `TypedExpr.operation?`: what an expression does to the values of its parts;
* `TypedExpr.Fails`: expressions that fail by themselves.

## Main statements

* `TypedExpr.failure_eval`: evaluation stops at the first expression that fails by itself, and nowhere else;
* `TypedExpr.eval_firstFailure`: no failure is hidden by another operand.
-/

namespace AssignScript

/-- The error of an outcome, if it is one. -/
def failure {α : Type} : Evaluated α → Option EvalError
  | .ok _ => none
  | .error err => some err

namespace TypedExpr

variable [PatternLibrary]

/-! ### What is reached -/

mutual

/-- The expressions inside another that its evaluation comes by, from left to right, each behind its parts. All parts
    are, but of the branches of a choice only the one that it takes, and none if its condition has no value or one that
    is no truth value. -/
def reached (context : Context) : TypedExpr → List TypedExpr
  | .const t v => [.const t v]
  | .var t x => [.var t x]
  | .unary t op e => e.reached context ++ [.unary t op e]
  | .binary t op l r => l.reached context ++ (r.reached context ++ [.binary t op l r])
  | .between t e l u => e.reached context ++ (l.reached context ++ (u.reached context ++ [.between t e l u]))
  | .substr t e a b =>
    e.reached context ++ (reachedOptional context a ++ (reachedOptional context b ++ [.substr t e a b]))
  | .replace t e p a =>
    e.reached context ++ (p.reached context ++ (reachedOptional context a ++ [.replace t e p a]))
  | .instr t e p a b =>
    e.reached context ++ (p.reached context ++
      (reachedOptional context a ++ (reachedOptional context b ++ [.instr t e p a b])))
  | .conditional t c a b =>
    let branch :=
      match c.eval context with
      | .ok (.boolean true) => a.reached context
      | .ok (.boolean false) | .ok .null => b.reached context
      | _ => []
    c.reached context ++ (branch ++ [.conditional t c a b])

/-- The expressions that the evaluation of an operand comes by, if it is there. -/
def reachedOptional (context : Context) : Option TypedExpr → List TypedExpr
  | none => []
  | some e => e.reached context

end

/-! ### What fails by itself -/

/-- What an expression does to the values of its parts, if they have values. Of a choice the parts are its condition
    and, if that takes one, a branch. -/
def operation? (context : Context) : TypedExpr → Option (Evaluated Value)
  | .const _ v => some (.ok v)
  | .var t x => some (context.read t x)
  | .unary _ op e => do
    let v ← (e.eval context).toOption
    return applyUnary op v
  | .binary _ op l r => do
    let v ← (l.eval context).toOption
    let w ← (r.eval context).toOption
    return applyBinary op v w
  | .between _ e l u => do
    let v ← (e.eval context).toOption
    let lower ← (l.eval context).toOption
    let upper ← (u.eval context).toOption
    return AssignScript.between v lower upper
  | .substr _ e a b => do
    let v ← (e.eval context).toOption
    let first ← (evalOptional context a).toOption
    let last ← (evalOptional context b).toOption
    return substring v first last
  | .replace _ e p a => do
    let v ← (e.eval context).toOption
    let pattern ← (p.eval context).toOption
    let replacement ← (evalOptional context a).toOption
    return replaceMatches v pattern replacement
  | .instr _ e p a b => do
    let v ← (e.eval context).toOption
    let pattern ← (p.eval context).toOption
    let start ← (evalOptional context a).toOption
    let n ← (evalOptional context b).toOption
    return occurrence v pattern start n
  | .conditional _ c a b => do
    let v ← (c.eval context).toOption
    match takesFirst v with
    | .error err => return .error err
    | .ok first =>
      let w ← ((if first then a else b).eval context).toOption
      return conformBranch a.dataType b.dataType w

/-- An expression whose parts have values and which fails on these. -/
def Fails (context : Context) (e : TypedExpr) (err : EvalError) : Prop :=
  e.operation? context = some (.error err)

/-- The error with which an expression fails by itself, if it does. -/
def ownFailure? (context : Context) (e : TypedExpr) : Option EvalError :=
  (e.operation? context).bind failure

theorem ownFailure?_eq_some {context : Context} {e : TypedExpr} {err : EvalError} :
    e.ownFailure? context = some err ↔ e.Fails context err := by
  unfold ownFailure? Fails
  rcases e.operation? context with _ | ⟨err' | v⟩ <;> simp [failure]

theorem ownFailure?_eq_none {context : Context} {e : TypedExpr} :
    e.ownFailure? context = none ↔ ∀ err, ¬ e.Fails context err := by
  simp only [Option.eq_none_iff_forall_ne_some, ne_eq, ownFailure?_eq_some]

/-! ### The order of failures -/

section Order

variable {context : Context} {α β : Type} {nodes nodes' : List TypedExpr}

/-- Steps one after the other fail as the first of them that does. -/
theorem findSome?_bind {x : Evaluated α} {f : α → Evaluated β}
    (h : nodes.findSome? (ownFailure? context) = failure x)
    (hf : ∀ a, x = .ok a → nodes'.findSome? (ownFailure? context) = failure (f a)) :
    (nodes ++ nodes').findSome? (ownFailure? context) = failure (x >>= f) := by
  rw [List.findSome?_append, h]
  cases x with
  | ok a => exact hf a rfl
  | error err => rfl

/-- An expression whose parts have values fails by itself or not at all. -/
theorem findSome?_self {e : TypedExpr} {x : Evaluated Value} (h : e.operation? context = some x) :
    [e].findSome? (ownFailure? context) = failure x := by
  rw [List.findSome?_singleton, ownFailure?, h]
  rfl

theorem findSome?_reachedOptional {o : Option TypedExpr}
    (h : ∀ e ∈ o.toList, (e.reached context).findSome? (ownFailure? context) = failure (e.eval context)) :
    (reachedOptional context o).findSome? (ownFailure? context) = failure (evalOptional context o) := by
  cases o with
  | none => rfl
  | some e =>
    rw [reachedOptional, evalOptional, h e List.mem_cons_self]
    cases e.eval context <;> rfl

end Order

/-- Evaluation stops at the first expression that it comes by and that fails by itself, and nowhere else. -/
theorem failure_eval (context : Context) (e : TypedExpr) :
    (e.reached context).findSome? (ownFailure? context) = failure (e.eval context) := by
  induction e using induction_on_children with
  | h e ih =>
    -- One step for each part, in the order in which they stand, and the last one for the expression itself.
    cases e <;> simp only [children, List.forall_mem_cons, List.forall_mem_append] at ih <;> rw [eval, reached]
    case const t v => exact findSome?_self rfl
    case var t x => exact findSome?_self rfl
    case unary t op e =>
      refine findSome?_bind ih.1 fun v hv => findSome?_self ?_
      rw [operation?, hv]
      rfl
    case binary t op l r =>
      refine findSome?_bind ih.1 fun v hv => findSome?_bind ih.2.1 fun w hw => findSome?_self ?_
      rw [operation?, hv, hw]
      rfl
    case between t e l u =>
      refine findSome?_bind ih.1 fun v hv => findSome?_bind ih.2.1 fun lower hl => ?_
      refine findSome?_bind ih.2.2.1 fun upper hu => findSome?_self ?_
      rw [operation?, hv, hl, hu]
      rfl
    case substr t e a b =>
      obtain ⟨he, ha, hb⟩ := ih
      refine findSome?_bind he fun v hv => findSome?_bind (findSome?_reachedOptional ha) fun i hi => ?_
      refine findSome?_bind (findSome?_reachedOptional hb) fun j hj => findSome?_self ?_
      rw [operation?, hv, hi, hj]
      rfl
    case replace t e p a =>
      obtain ⟨he, hp, ha⟩ := ih
      refine findSome?_bind he fun v hv => findSome?_bind hp fun w hw => ?_
      refine findSome?_bind (findSome?_reachedOptional ha) fun r hr => findSome?_self ?_
      rw [operation?, hv, hw, hr]
      rfl
    case instr t e p a b =>
      obtain ⟨he, hp, ha, hb⟩ := ih
      refine findSome?_bind he fun v hv => findSome?_bind hp fun w hw => ?_
      refine findSome?_bind (findSome?_reachedOptional ha) fun i hi => ?_
      refine findSome?_bind (findSome?_reachedOptional hb) fun n hn => findSome?_self ?_
      rw [operation?, hv, hw, hi, hn]
      rfl
    case conditional t c a b =>
      obtain ⟨hc, ha, hb, -⟩ := ih
      have hbranch : ∀ v first branch, c.eval context = .ok v → takesFirst v = .ok first →
          (if first then a else b) = branch →
          (branch.reached context).findSome? (ownFailure? context) = failure (branch.eval context) →
          (branch.reached context ++ [TypedExpr.conditional t c a b]).findSome? (ownFailure? context) =
            failure (branch.eval context >>= conformBranch a.dataType b.dataType) := by
        intro v first branch hv hfirst hbranch h
        refine findSome?_bind h fun w hw => findSome?_self ?_
        rw [← hbranch] at hw
        simp only [operation?, hv, Except.toOption, Option.bind_eq_bind, Option.bind_some, hfirst, hw]
        rfl
      refine findSome?_bind hc fun v hv => ?_
      cases v with
      | boolean first =>
        simp only [hv]
        cases first with
        | true => exact hbranch _ true a hv rfl rfl ha
        | false => exact hbranch _ false b hv rfl rfl hb
      | null =>
        simp only [hv]
        exact hbranch _ false b hv rfl rfl hb
      -- A condition that is no truth value takes no branch, and the choice itself fails.
      | integer i | number x | string s =>
        simp only [hv]
        refine findSome?_self ?_
        simp only [operation?, hv]
        rfl

/-- No failure is hidden. Evaluation fails exactly if some expression that it comes by fails by itself on the values of
    its parts, and the error is that of the first one, from left to right and each behind its parts. No other operand,
    whether it is null, true or false, keeps a failure from being reported, and only the branches that a choice does
    not take are left out. This holds of every typed expression, checked or not, and in every context. -/
theorem eval_firstFailure (e : TypedExpr) (context : Context) :
    ((∃ err, e.eval context = .error err) ↔ ∃ n ∈ e.reached context, ∃ err, n.Fails context err) ∧
    ∀ err, e.eval context = .error err ↔ ∃ before n behind, e.reached context = before ++ n :: behind ∧
      (∀ m ∈ before, ∀ err', ¬ m.Fails context err') ∧ n.Fails context err := by
  have hfailure : ∀ err, e.eval context = .error err ↔
      (e.reached context).findSome? (ownFailure? context) = some err := by
    intro err
    rw [failure_eval]
    cases e.eval context <;> simp [failure]
  refine ⟨?_, fun err => ?_⟩
  · simp only [hfailure, ← ownFailure?_eq_some, ← Option.isSome_iff_exists, List.findSome?_isSome_iff]
  · rw [hfailure, List.findSome?_eq_some_iff]
    simp only [ownFailure?_eq_some, ownFailure?_eq_none]
    refine exists_congr fun before => exists_congr fun n => exists_congr fun behind => and_congr_right' ?_
    exact and_comm

/-- An operand that decides a conjunction does not hide that the other one has no value. -/
example : (binary .boolean .and (.const .boolean (.boolean false)) (.var .boolean "x")).eval .empty =
    .error (.unboundVariable "x") := rfl

end TypedExpr

end AssignScript
