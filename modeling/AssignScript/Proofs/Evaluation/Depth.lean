import AssignScript.Eval
import AssignScript.Proofs.Evaluation.Parts

/-!
# How deeply evaluation recurses

An expression is evaluated by the evaluation of those right inside it, and so the levels of recursion are no more than
the expressions that stand inside one another.

## Main definitions

* `TypedExpr.height`: how many typed expressions stand inside one another;
* `TypedExpr.evalNode`: one expression, given the values of those right inside it;
* `TypedExpr.evalWithin`: evaluation that recurses to some depth.

## Main statements

* `TypedExpr.eval_eq_evalNode`: this is how evaluation recurses;
* `TypedExpr.evalWithin_eq_eval`: as many levels as an expression is high are enough.
-/

namespace AssignScript.TypedExpr

/-! ### Height -/

mutual

/-- How many expressions stand inside one another. -/
def height : TypedExpr → Nat
  | .const _ _ | .var _ _ => 1
  | .unary _ _ e => e.height + 1
  | .binary _ _ l r => max l.height r.height + 1
  | .between _ e l u => max e.height (max l.height u.height) + 1
  | .substr _ e a b => max e.height (max (heightOptional a) (heightOptional b)) + 1
  | .replace _ e p a => max e.height (max p.height (heightOptional a)) + 1
  | .instr _ e p a b => max e.height (max p.height (max (heightOptional a) (heightOptional b))) + 1
  | .conditional _ c a b => max c.height (max a.height b.height) + 1

/-- How many expressions stand inside one another in an argument, if it is there. -/
def heightOptional : Option TypedExpr → Nat
  | none => 0
  | some e => e.height

end

theorem heightOptional_le_iff {o : Option TypedExpr} {n : Nat} :
    heightOptional o ≤ n ↔ ∀ e ∈ o.toList, e.height ≤ n := by
  cases o <;> simp [heightOptional]

/-- An expression is one higher than the highest right inside it. -/
theorem height_le_succ_iff {e : TypedExpr} {n : Nat} : e.height ≤ n + 1 ↔ ∀ i ∈ e.children, i.height ≤ n := by
  cases e <;>
    simp only [height, children, Nat.add_le_add_iff_right, Nat.max_le, heightOptional_le_iff, List.forall_mem_cons,
      List.forall_mem_append, List.not_mem_nil, false_imp_iff, implies_true, and_true, Nat.le_add_left]

theorem height_pos (e : TypedExpr) : 0 < e.height := by
  cases e <;> simp only [height, Nat.zero_lt_succ]

/-! ### Levels of recursion -/

section Levels

variable [PatternLibrary] (context : Context)

/-- The value of an operand, if it is there, given that of an expression. -/
def evalNodeOptional (inside : TypedExpr → Evaluated Value) : Option TypedExpr → Evaluated (Option Value)
  | none => .ok none
  | some e => do
    let v ← inside e
    return some v

/-- One expression, given the values of those right inside it. -/
def evalNode (inside : TypedExpr → Evaluated Value) : TypedExpr → Evaluated Value
  | .const _ v => .ok v
  | .var type name => context.read type name
  | .unary _ op operand => do
    let v ← inside operand
    applyUnary op v
  | .binary _ op left right => do
    let l ← inside left
    let r ← inside right
    applyBinary op l r
  | .between _ operand lower upper => do
    let v ← inside operand
    let l ← inside lower
    let u ← inside upper
    AssignScript.between v l u
  | .substr _ operand first last => do
    let v ← inside operand
    let first ← evalNodeOptional inside first
    let last ← evalNodeOptional inside last
    substring v first last
  | .replace _ operand pattern replacement => do
    let v ← inside operand
    let p ← inside pattern
    let replacement ← evalNodeOptional inside replacement
    replaceMatches v p replacement
  | .instr _ operand pattern start occurrence => do
    let v ← inside operand
    let p ← inside pattern
    let start ← evalNodeOptional inside start
    let occurrence ← evalNodeOptional inside occurrence
    AssignScript.occurrence v p start occurrence
  | .conditional _ condition thenBranch elseBranch => do
    let c ← inside condition
    let first ← takesFirst c
    let v ← if first then inside thenBranch else inside elseBranch
    conformBranch thenBranch.dataType elseBranch.dataType v

/-- Evaluation that recurses to some depth; what happens further inside is left open. -/
def evalWithin (outside : TypedExpr → Evaluated Value) : Nat → TypedExpr → Evaluated Value
  | 0, e => outside e
  | levels + 1, e => e.evalNode context (evalWithin outside levels)

variable {context}

omit [PatternLibrary] in
theorem evalNodeOptional_congr {f g : TypedExpr → Evaluated Value} {o : Option TypedExpr}
    (h : ∀ i ∈ o.toList, f i = g i) : evalNodeOptional f o = evalNodeOptional g o := by
  cases o with
  | none => rfl
  | some e => rw [evalNodeOptional, evalNodeOptional, h e List.mem_cons_self]

/-- What an expression comes to depends on what those right inside it come to, and on no other. -/
theorem evalNode_congr {f g : TypedExpr → Evaluated Value} {e : TypedExpr} (h : ∀ i ∈ e.children, f i = g i) :
    e.evalNode context f = e.evalNode context g := by
  cases e <;> simp only [children, List.forall_mem_cons, List.forall_mem_append] at h <;> rw [evalNode, evalNode]
  case unary t op e => rw [h.1]
  case binary t op l r => rw [h.1, h.2.1]
  case between t e l u => rw [h.1, h.2.1, h.2.2.1]
  case substr t e a b => rw [h.1, evalNodeOptional_congr h.2.1, evalNodeOptional_congr h.2.2]
  case replace t e p a => rw [h.1, h.2.1, evalNodeOptional_congr h.2.2]
  case instr t e p a b =>
    rw [h.1, h.2.1, evalNodeOptional_congr h.2.2.1, evalNodeOptional_congr h.2.2.2]
  case conditional t c a b => rw [h.1, h.2.1, h.2.2.1]

theorem evalOptional_eq_evalNodeOptional (o : Option TypedExpr) :
    evalOptional context o = evalNodeOptional (eval context) o := by
  cases o with
  | none => rfl
  | some e => rw [evalOptional, evalNodeOptional]

/-- Evaluation of an expression is that of those right inside it and what is done to their values. -/
theorem eval_eq_evalNode (e : TypedExpr) : e.eval context = e.evalNode context (eval context) := by
  cases e <;> simp only [eval, evalNode, evalOptional_eq_evalNodeOptional]

/-- Evaluation does not recurse more deeply than expressions stand inside one another. -/
theorem evalWithin_eq_eval (outside : TypedExpr → Evaluated Value) (levels : Nat) :
    ∀ e : TypedExpr, e.height ≤ levels → e.evalWithin context outside levels = e.eval context := by
  induction levels with
  | zero => exact fun e h => absurd e.height_pos (Nat.not_lt_of_le h)
  | succ levels ih =>
    intro e h
    rw [evalWithin, eval_eq_evalNode]
    exact evalNode_congr fun i hi => ih i (height_le_succ_iff.1 h i hi)

end Levels

end AssignScript.TypedExpr
