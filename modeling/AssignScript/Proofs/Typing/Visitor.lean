import AssignScript.Checker
import AssignScript.Proofs.Typing.Parentheses

/-!
# A counter of the levels of nesting

A checker that knows how many levels of nesting are open keeps a counter: it raises it whenever an expression is
entered, unless the limit is reached, and sets it back when the expression is left, with an error or without one. The
rules of the checker are run here with such a counter, which each of them hands on to the operands that it enters,
beside the checker that is given the levels that are left.

## Main definitions

* `Visiting`: checks that keep a counter;
* `entered`: a check between raising the counter and setting it back;
* `Checker.visit`, `Checker.visits`: one expression, and expressions one after the other with one counter;
* `Mirrors`: a counting check comes to what another check does, and leaves the counter as it was.

## Main statements

* `Checker.checkNode_mirrors`: the rules mirror each other if what they make of the operands does;
* `Checker.visit_mirrors`: an expression that is visited mirrors one that is checked with the levels that are left;
* `Checker.visit_eq`: a visit is a check of this expression by visits of those inside.
-/

namespace AssignScript

/-- Checks that keep a counter of the levels of nesting that are open. An error leaves the counter as it is. -/
abbrev Visiting (α : Type) := EStateM SemanticError Nat α

/-- What a check comes to, with a counter beside. -/
def withCounter {α : Type} (depth : Nat) : Checked α → EStateM.Result SemanticError Nat α
  | .ok a => .ok a depth
  | .error err => .error err depth

/-- The check of an expression inside a level of its own, which is closed even after an error. It is refused if as many
    levels are open as the limit allows. -/
def entered (limit : Nat) (e : Expr) (p : Visiting TypedExpr) : Visiting TypedExpr := do
  let depth ← get
  if limit ≤ depth then throw (.nestingTooDeep limit e.span)
  else
    set (depth + 1)
    try p finally set depth

/-! ### Visits -/

namespace Checker

/-- A visit that recurses to some depth. -/
def visitWithin (c : Checker) : Nat → Expr → Visiting TypedExpr
  | 0, e => throw (.nestingTooDeep c.limit e.span)
  | levels + 1, e => entered c.limit e (c.checkNode (c.visitWithin levels) e)

/-- A visit of an expression, which recurses as deeply as the expression nests. -/
def visit (c : Checker) (e : Expr) : Visiting TypedExpr :=
  c.visitWithin (e.height + 1) e

/-- Visits one after the other, each with the counter that the one before it leaves, and what they come to. -/
def visits (c : Checker) : List Expr → Nat → List (Checked TypedExpr) × Nat
  | [], depth => ([], depth)
  | e :: es, depth =>
    match (c.visit e).run depth with
    | .ok t depth =>
      let (outcomes, last) := c.visits es depth
      (.ok t :: outcomes, last)
    | .error err depth =>
      let (outcomes, last) := c.visits es depth
      (.error err :: outcomes, last)

end Checker

/-! ### Counting checks beside others -/

/-- With some levels open, a counting check comes to what another check does, and leaves as many open. -/
def Mirrors {α : Type} (depth : Nat) (p : Visiting α) (q : Checked α) : Prop :=
  p.run depth = withCounter depth q

namespace Mirrors

variable {α β : Type} {depth : Nat}

theorem pure (a : α) : Mirrors depth (Pure.pure a) (Pure.pure a) := rfl

theorem throw (err : SemanticError) : Mirrors depth (α := α) (MonadExcept.throw err) (MonadExcept.throw err) := rfl

theorem bind {p : Visiting α} {q : Checked α} {f : α → Visiting β} {g : α → Checked β} (h : Mirrors depth p q)
    (hf : ∀ a, Mirrors depth (f a) (g a)) : Mirrors depth (p >>= f) (q >>= g) := by
  unfold Mirrors at h ⊢
  rw [EStateM.run_bind, h]
  cases q with
  | ok a => exact hf a
  | error err => rfl

end Mirrors

section Rules

variable {visit : Expr → Visiting TypedExpr} {check : Check} {depth : Nat} {i l r : Expr}

theorem requireType_mirrors (expected : DataType) (e : TypedExpr) (span : Span) :
    Mirrors depth (requireType expected e span) (requireType expected e span) := by
  unfold requireType
  split
  · exact .pure e
  · exact .throw _

theorem commonType_mirrors (es : List TypedExpr) (span : Span) :
    Mirrors depth (commonType es span) (commonType es span) := by
  unfold commonType
  split
  · exact .pure _
  · exact .throw _

theorem checkPair_mirrors (hl : Mirrors depth (visit l) (check l)) (hr : Mirrors depth (visit r) (check r))
    (expected : DataType) : Mirrors depth (checkPair visit expected l r) (checkPair check expected l r) :=
  hl.bind fun _ => hr.bind fun _ => (requireType_mirrors _ _ _).bind fun _ =>
    (requireType_mirrors _ _ _).bind fun _ => .pure _

theorem checkArgument_mirrors (hi : Mirrors depth (visit i) (check i)) (expected : DataType) :
    Mirrors depth (checkArgument visit expected i) (checkArgument check expected i) :=
  hi.bind fun _ => requireType_mirrors _ _ _

theorem checkOptional_mirrors {arg : Option Expr} (harg : ∀ i ∈ arg, Mirrors depth (visit i) (check i))
    (expected : DataType) : Mirrors depth (checkOptional visit expected arg) (checkOptional check expected arg) := by
  cases arg with
  | none => exact .pure none
  | some i =>
    simp only [checkOptional]
    split
    · exact .pure none
    · exact (checkArgument_mirrors (harg i rfl) expected).bind fun _ => .pure _

theorem checkUnary_mirrors (hi : Mirrors depth (visit i) (check i)) (rule : UnaryRule) (op : UnaryOp) :
    Mirrors depth (checkUnary visit rule op i) (checkUnary check rule op i) := by
  cases rule with
  | logical => exact hi.bind fun _ => (requireType_mirrors _ _ _).bind fun _ => .pure _
  | sign => exact hi.bind fun _ => (requireType_mirrors _ _ _).bind fun _ => .pure _

theorem checkBinary_mirrors (hl : Mirrors depth (visit l) (check l)) (hr : Mirrors depth (visit r) (check r))
    (rule : BinaryRule) (op : BinaryOp) (span : Span) :
    Mirrors depth (checkBinary visit rule op l r span) (checkBinary check rule op l r span) := by
  cases rule with
  | logical => exact (checkPair_mirrors hl hr .boolean).bind fun _ => .pure _
  | arithmetic => exact (checkPair_mirrors hl hr .number).bind fun _ => .pure _
  | concatenation => exact (checkPair_mirrors hl hr .string).bind fun _ => .pure _
  | comparison =>
    refine hl.bind fun t => hr.bind fun u => (commonType_mirrors _ _).bind fun _ => ?_
    cases op.outputType t.dataType u.dataType with
    | some _ => exact .pure _
    | none => exact .throw _

theorem checkConditional_mirrors (hi : Mirrors depth (visit i) (check i)) (hl : Mirrors depth (visit l) (check l))
    (hr : Mirrors depth (visit r) (check r)) (span : Span) :
    Mirrors depth (checkConditional visit i l r span) (checkConditional check i l r span) :=
  hi.bind fun _ => (requireType_mirrors _ _ _).bind fun _ => hl.bind fun _ => hr.bind fun _ =>
    (commonType_mirrors _ _).bind fun _ => .pure _

theorem checkBetween_mirrors (hi : Mirrors depth (visit i) (check i)) (hl : Mirrors depth (visit l) (check l))
    (hr : Mirrors depth (visit r) (check r)) (span : Span) :
    Mirrors depth (checkBetween visit i l r span) (checkBetween check i l r span) := by
  refine hi.bind fun _ => hl.bind fun _ => hr.bind fun _ => (commonType_mirrors _ _).bind fun _ => ?_
  split
  · exact .pure _
  · exact .throw _

theorem checkSubstring_mirrors {a b : Option Expr} (hi : Mirrors depth (visit i) (check i))
    (ha : ∀ i ∈ a, Mirrors depth (visit i) (check i)) (hb : ∀ i ∈ b, Mirrors depth (visit i) (check i)) :
    Mirrors depth (checkSubstring visit i a b) (checkSubstring check i a b) :=
  (checkArgument_mirrors hi .string).bind fun _ => (checkOptional_mirrors ha .integer).bind fun _ =>
    (checkOptional_mirrors hb .integer).bind fun _ => .pure _

theorem checkReplacement_mirrors {a : Option Expr} (hl : Mirrors depth (visit l) (check l))
    (hr : Mirrors depth (visit r) (check r)) (ha : ∀ i ∈ a, Mirrors depth (visit i) (check i)) :
    Mirrors depth (checkReplacement visit l r a) (checkReplacement check l r a) :=
  (checkArgument_mirrors hl .string).bind fun _ => (checkArgument_mirrors hr .string).bind fun _ =>
    (checkOptional_mirrors ha .string).bind fun _ => .pure _

theorem checkOccurrence_mirrors {a b : Option Expr} (hl : Mirrors depth (visit l) (check l))
    (hr : Mirrors depth (visit r) (check r)) (ha : ∀ i ∈ a, Mirrors depth (visit i) (check i))
    (hb : ∀ i ∈ b, Mirrors depth (visit i) (check i)) :
    Mirrors depth (checkOccurrence visit l r a b) (checkOccurrence check l r a b) :=
  (checkArgument_mirrors hl .string).bind fun _ => (checkArgument_mirrors hr .string).bind fun _ =>
    (checkOptional_mirrors ha .integer).bind fun _ => (checkOptional_mirrors hb .integer).bind fun _ => .pure _

theorem checkCall_mirrors (rule : CallRule) (name : String) {args : List Expr} (span : Span)
    (h : ∀ i ∈ args, Mirrors depth (visit i) (check i)) :
    Mirrors depth (checkCall visit rule name args span) (checkCall check rule name args span) := by
  have hnone : ∀ i ∈ (none : Option Expr), Mirrors depth (visit i) (check i) := nofun
  have hsome : ∀ {a : Expr}, Mirrors depth (visit a) (check a) →
      ∀ i ∈ some a, Mirrors depth (visit i) (check i) := by
    rintro a ha _ ⟨⟩
    exact ha
  cases rule with
  | between =>
    match args, h with
    | [i, l, u], h =>
      simp only [List.forall_mem_cons] at h
      exact checkBetween_mirrors h.1 h.2.1 h.2.2.1 span
    | [], _ | [_], _ | [_, _], _ | _ :: _ :: _ :: _ :: _, _ => exact .throw _
  | matching =>
    match args, h with
    | [i, p], h =>
      simp only [List.forall_mem_cons] at h
      exact (checkPair_mirrors h.1 h.2.1 .string).bind fun _ => .pure _
    | [], _ | [_], _ | _ :: _ :: _ :: _, _ => exact .throw _
  | nullTest =>
    match args, h with
    | [i], h => exact (h i List.mem_cons_self).bind fun _ => .pure _
    | [], _ | _ :: _ :: _, _ => exact .throw _
  | substring =>
    match args, h with
    | [i], h =>
      simp only [List.forall_mem_cons] at h
      exact checkSubstring_mirrors h.1 hnone hnone
    | [i, a], h =>
      simp only [List.forall_mem_cons] at h
      exact checkSubstring_mirrors h.1 (hsome h.2.1) hnone
    | [i, a, b], h =>
      simp only [List.forall_mem_cons] at h
      exact checkSubstring_mirrors h.1 (hsome h.2.1) (hsome h.2.2.1)
    | [], _ | _ :: _ :: _ :: _ :: _, _ => exact .throw _
  | replacement =>
    match args, h with
    | [i, p], h =>
      simp only [List.forall_mem_cons] at h
      exact checkReplacement_mirrors h.1 h.2.1 hnone
    | [i, p, a], h =>
      simp only [List.forall_mem_cons] at h
      exact checkReplacement_mirrors h.1 h.2.1 (hsome h.2.2.1)
    | [], _ | [_], _ | _ :: _ :: _ :: _ :: _, _ => exact .throw _
  | occurrence =>
    match args, h with
    | [i, p], h =>
      simp only [List.forall_mem_cons] at h
      exact checkOccurrence_mirrors h.1 h.2.1 hnone hnone
    | [i, p, a], h =>
      simp only [List.forall_mem_cons] at h
      exact checkOccurrence_mirrors h.1 h.2.1 (hsome h.2.2.1) hnone
    | [i, p, a, b], h =>
      simp only [List.forall_mem_cons] at h
      exact checkOccurrence_mirrors h.1 h.2.1 (hsome h.2.2.1) (hsome h.2.2.2.1)
    | [], _ | [_], _ | _ :: _ :: _ :: _ :: _ :: _, _ => exact .throw _
  | text =>
    simp only [checkCall]
    cases textOperation? name with
    | none => exact .throw _
    | some op =>
      match args, h with
      | [i], h => exact (checkArgument_mirrors (h i List.mem_cons_self) .string).bind fun _ => .pure _
      | [], _ | _ :: _ :: _, _ => exact .throw _

/-- The rules do the same to what is made of the operands, and do not touch the counter. -/
theorem Checker.checkNode_mirrors (c : Checker) {e : Expr} (h : ∀ i ∈ e.children, Mirrors depth (visit i) (check i)) :
    Mirrors depth (c.checkNode visit e) (c.checkNode check e) := by
  cases e with
  | literal s v => exact .pure _
  | «variable» s x =>
    simp only [Checker.checkNode]
    cases c.declarations.get? x with
    | some t => exact .pure _
    | none => exact .throw _
  | parens s i => exact h i (List.mem_singleton_self i)
  | unary s op i =>
    simp only [Checker.checkNode]
    cases c.functions.unary op with
    | some rule => exact checkUnary_mirrors (h i (List.mem_singleton_self i)) rule op
    | none => exact .throw _
  | binary s op l r =>
    simp only [Expr.children, List.forall_mem_cons] at h
    simp only [Checker.checkNode]
    cases c.functions.binary op with
    | some rule => exact checkBinary_mirrors h.1 h.2.1 rule op s
    | none => exact .throw _
  | conditional s i a b =>
    simp only [Expr.children, List.forall_mem_cons] at h
    exact checkConditional_mirrors h.1 h.2.1 h.2.2.1 s
  | call s x args =>
    simp only [Checker.checkNode]
    cases c.functions.call? (Text.toLower x) with
    | some rule => exact checkCall_mirrors rule (Text.toLower x) s h
    | none => exact .throw _
  | omitted s => exact .throw _

end Rules

/-- A level that is opened is closed again, whatever becomes of the counter inside. -/
theorem entered_run (limit : Nat) (e : Expr) (p : Visiting TypedExpr) (depth : Nat) :
    (entered limit e p).run depth =
      if limit ≤ depth then .error (.nestingTooDeep limit e.span) depth
      else match p.run (depth + 1) with
        | .ok t _ => .ok t depth
        | .error err _ => .error err depth := by
  unfold entered
  rw [EStateM.run_bind]
  change (if limit ≤ depth then throw _ else _ : Visiting TypedExpr).run depth = _
  split
  · rfl
  · change (tryFinally p (set depth)).run (depth + 1) = _
    unfold EStateM.run
    cases hp : p (depth + 1) <;>
      simp only [tryFinally, tryFinally', hp, Functor.map, EStateM.map, set] <;> rfl

namespace Checker

variable (c : Checker)

/-- An expression that is entered mirrors its check with the levels that are left, if it does inside. -/
theorem entered_mirrors {depth : Nat} {e : Expr} {p : Visiting TypedExpr}
    (h : ∀ room, c.limit = depth + 1 + room → Mirrors (depth + 1) p (c.checkNode (c.checkWithin room) e)) :
    Mirrors depth (entered c.limit e p) (c.checkWithin (c.limit - depth) e) := by
  unfold Mirrors
  rw [entered_run]
  split
  · next hfull =>
    rw [Nat.sub_eq_zero_of_le hfull]
    rfl
  · next hfree =>
    obtain ⟨room, hlimit⟩ : ∃ room, c.limit = depth + 1 + room := ⟨c.limit - depth - 1, by omega⟩
    have hroom : c.limit - depth = room + 1 := by omega
    have hinside : p.run (depth + 1) = withCounter (depth + 1) (c.checkNode (c.checkWithin room) e) := h room hlimit
    rw [hinside, hroom, checkWithin]
    cases c.checkNode (c.checkWithin room) e <;> rfl

/-- A visit that recurses deeply enough mirrors the check with the levels that are left. -/
theorem visitWithin_mirrors (levels : Nat) : ∀ e depth, Expr.heightArgs [e] < levels →
    Mirrors depth (c.visitWithin levels e) (c.checkWithin (c.limit - depth) e) := by
  induction levels with
  | zero => exact fun e depth h => absurd h (Nat.not_lt_zero _)
  | succ levels ih =>
    intro e depth hlevels
    refine c.entered_mirrors fun room hroom => c.checkNode_mirrors fun i hi => ?_
    have hinside := ih i (depth + 1) (Nat.lt_of_lt_of_le (Expr.heightArgs_lt_of_mem_children hi) (by omega))
    rwa [hroom, Nat.add_sub_cancel_left] at hinside

/-- A visit mirrors the check with the levels that are left. -/
theorem visit_mirrors (e : Expr) (depth : Nat) : Mirrors depth (c.visit e) (c.checkWithin (c.limit - depth) e) :=
  c.visitWithin_mirrors (e.height + 1) e depth (Nat.lt_succ_of_le (Expr.heightArgs_le_iff.2 (by simp)))

/-- To visit an expression is to enter it and to visit those inside as its rule says. -/
theorem visit_eq (e : Expr) : c.visit e = entered c.limit e (c.checkNode c.visit e) := by
  funext depth
  have hentered : Mirrors depth (entered c.limit e (c.checkNode c.visit e))
      (c.checkWithin (c.limit - depth) e) := by
    refine c.entered_mirrors fun room hroom => c.checkNode_mirrors fun i _ => ?_
    have hinside := c.visit_mirrors i (depth + 1)
    rwa [hroom, Nat.add_sub_cancel_left] at hinside
  exact (c.visit_mirrors e depth).trans hentered.symm

/-- Visits one after the other leave the counter as it was, and each comes to what the check of its expression does. -/
theorem visits_eq (es : List Expr) (depth : Nat) :
    c.visits es depth = (es.map (c.checkWithin (c.limit - depth)), depth) := by
  induction es with
  | nil => rfl
  | cons e es ih =>
    have hvisit : (c.visit e).run depth = withCounter depth (c.checkWithin (c.limit - depth) e) :=
      c.visit_mirrors e depth
    rw [visits, hvisit, List.map_cons]
    cases c.checkWithin (c.limit - depth) e <;> simp only [withCounter, ih]

end Checker

end AssignScript
