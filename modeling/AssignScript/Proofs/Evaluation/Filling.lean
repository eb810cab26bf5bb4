import AssignScript.Proofs.Evaluation.Strictness
import AssignScript.Proofs.Pattern.Fragment

/-!
# Null means unknown

A value that is known without the values of some variables stays the same once they are known, or turns out to be an
error. Conjunctions and disjunctions keep this although they can be decided by one operand: the operand that decides
is known already. A choice does not, since null takes its second branch, nor does the test for null.

## Main definitions

* `Value.Below`: a value that is unknown, or the same as another;
* `Comparable`: outcomes whose values are related if both have one;
* `TypedExpr.IsMonotone`: nodes for which null means unknown;
* `Context.Fills`: contexts that agree with another wherever it knows a value.

## Main statements

* `applyBinary_below`: operators keep the order in which null is below every value;
* `TypedExpr.eval_filled`: so do expressions.
-/

namespace AssignScript

/-- Null is below every value, and every other value below itself only. -/
def Value.Below (v w : Value) : Prop :=
  v = .null ∨ v = w

/-- The order of arguments that may be left out: one that is null is below every other. -/
def ArgumentBelow (o p : Option Value) : Prop :=
  o = some .null ∨ o = p

theorem Value.Below.refl (v : Value) : v.Below v := .inr rfl

theorem Value.Below.argument {v w : Value} (h : v.Below w) : ArgumentBelow (some v) (some w) := by
  rcases h with rfl | rfl
  · exact .inl rfl
  · exact .inr rfl

/-! ### Outcomes -/

/-- Outcomes that stand in a relation if both are values. -/
def Comparable {α : Type} (R : α → α → Prop) (x y : Evaluated α) : Prop :=
  Settled (fun _ => True) (fun a => Settled (fun _ => True) (R a) y) x

namespace Comparable

variable {α β : Type} {R : α → α → Prop} {S : β → β → Prop} {x y : Evaluated α}

theorem ok {a b : α} (h : R a b) : Comparable R (.ok a) (.ok b) := h

theorem error_left (e : EvalError) (y : Evaluated α) : Comparable R (.error e) y := trivial

theorem error_right (x : Evaluated α) (e : EvalError) : Comparable R x (.error e) := by
  cases x <;> trivial

/-- Steps whose outcomes are comparable, one after the other. -/
theorem bind {f g : α → Evaluated β} (h : Comparable R x y)
    (hf : ∀ a b, R a b → Comparable S (f a) (g b)) : Comparable S (x >>= f) (y >>= g) := by
  cases x with
  | error e => exact .error_left e _
  | ok a =>
    cases y with
    | error e => exact .error_right _ e
    | ok b => exact hf a b h

/-- Of an outcome that is its own, only one value comes. -/
theorem refl (hrefl : ∀ a, R a a) (x : Evaluated α) : Comparable R x x := by
  cases x with
  | error e => exact .error_left e _
  | ok a => exact hrefl a

/-- An outcome that is null at best is below every other. -/
theorem of_unknown {x : Evaluated Value} (h : Unknown x) (y : Evaluated Value) : Comparable Value.Below x y := by
  rcases h.cases with rfl | ⟨err, rfl⟩
  · cases y with
    | ok w => exact .inl rfl
    | error e => trivial
  · exact .error_left err y

/-- Outcomes that are the same value, if they are values at all. -/
theorem of_settled {x y : Evaluated Value} {v : Value} (hx : Settled (fun _ => True) (· = v) x)
    (hy : Settled (fun _ => True) (· = v) y) : Comparable Value.Below x y :=
  hx.mono (fun _ => id) fun _ ha => hy.mono (fun _ => id) fun _ hb => .inr (ha.trans hb.symm)

end Comparable

/-! ### Operators -/

theorem applyUnary_below {op : UnaryOp} (hop : op ≠ .isNull) {v w : Value} (h : v.Below w) :
    Comparable Value.Below (applyUnary op v) (applyUnary op w) := by
  rcases h with rfl | rfl
  · rw [applyUnary_null hop]
    exact .of_unknown Unknown.null _
  · exact .refl Value.Below.refl _

/-- The operand that decides a conjunction or a disjunction by itself. -/
def BinaryOp.decisive? : BinaryOp → Option Bool
  | .and => some false
  | .or => some true
  | _ => none

/-- Whatever the other operand is, the one that decides is the result, if there is one. -/
theorem applyBinary_decided [PatternLibrary] {op : BinaryOp} {b : Bool} (hop : op.decisive? = some b) {l r : Value}
    (h : l = .boolean b ∨ r = .boolean b) : Settled (fun _ => True) (· = .boolean b) (applyBinary op l r) := by
  rcases h with rfl | rfl
  · cases op <;> cases hop <;> cases r <;> first | rfl | trivial
  · cases op <;> cases hop <;> cases l with
    | boolean c => cases c <;> rfl
    | _ => first | rfl | trivial

/-- Where an operand is null, another one decides, or the result is null. -/
theorem applyBinary_null [PatternLibrary] (op : BinaryOp) {l r : Value} (h : l = .null ∨ r = .null) :
    (∃ b, op.decisive? = some b ∧ (l = .boolean b ∨ r = .boolean b)) ∨ Unknown (applyBinary op l r) := by
  have hnull : applyBinary op l r = .ok (resultOfNull op l r) := by
    unfold applyBinary
    rw [if_pos (by rcases h with rfl | rfl <;> simp [Value.isNull])]
  cases op with
  | and =>
    by_cases hd : l = .boolean false ∨ r = .boolean false
    · exact .inl ⟨false, rfl, hd⟩
    · rw [hnull, resultOfNull, if_neg hd]
      exact .inr Unknown.null
  | or =>
    by_cases hd : l = .boolean true ∨ r = .boolean true
    · exact .inl ⟨true, rfl, hd⟩
    · rw [hnull, resultOfNull, if_neg hd]
      exact .inr Unknown.null
  | _ => exact .inr (applyBinary_unknown BinaryOp.noConfusion BinaryOp.noConfusion h)

/-- An operator keeps the order of its operands: what decides it is known, and stays when the rest gets known. -/
theorem applyBinary_below [PatternLibrary] (op : BinaryOp) {l l' r r' : Value} (hl : l.Below l') (hr : r.Below r') :
    Comparable Value.Below (applyBinary op l r) (applyBinary op l' r') := by
  by_cases hnull : l = .null ∨ r = .null
  · rcases applyBinary_null op hnull with ⟨b, hop, hd⟩ | hunknown
    · refine .of_settled (applyBinary_decided hop hd) (applyBinary_decided hop ?_)
      -- The operand that decides is not null, so it is the same on the other side.
      rcases hd with rfl | rfl
      · exact .inl (hl.resolve_left Value.noConfusion).symm
      · exact .inr (hr.resolve_left Value.noConfusion).symm
    · exact .of_unknown hunknown _
  · rw [not_or] at hnull
    rw [hl.resolve_left hnull.1, hr.resolve_left hnull.2]
    exact .refl Value.Below.refl _

/-! ### Functions of more operands -/

theorem between_below {v v' l l' u u' : Value} (hv : v.Below v') (hl : l.Below l') (hu : u.Below u') :
    Comparable Value.Below (between v l u) (between v' l' u') := by
  by_cases hnull : v = .null ∨ l = .null ∨ u = .null
  · exact .of_unknown (between_unknown hnull) _
  · rw [not_or, not_or] at hnull
    rw [hv.resolve_left hnull.1, hl.resolve_left hnull.2.1, hu.resolve_left hnull.2.2]
    exact .refl Value.Below.refl _

theorem substring_below {v v' : Value} {i i' j j' : Option Value} (hv : v.Below v') (hi : ArgumentBelow i i')
    (hj : ArgumentBelow j j') : Comparable Value.Below (substring v i j) (substring v' i' j') := by
  by_cases hnull : v = .null ∨ i = some .null ∨ j = some .null
  · exact .of_unknown (substring_unknown hnull) _
  · rw [not_or, not_or] at hnull
    rw [hv.resolve_left hnull.1, hi.resolve_left hnull.2.1, hj.resolve_left hnull.2.2]
    exact .refl Value.Below.refl _

theorem replaceMatches_below [PatternLibrary] {v v' p p' : Value} {r r' : Option Value} (hv : v.Below v') (hp : p.Below p')
    (hr : ArgumentBelow r r') : Comparable Value.Below (replaceMatches v p r) (replaceMatches v' p' r') := by
  by_cases hnull : v = .null ∨ p = .null ∨ r = some .null
  · exact .of_unknown (replaceMatches_unknown hnull) _
  · rw [not_or, not_or] at hnull
    rw [hv.resolve_left hnull.1, hp.resolve_left hnull.2.1, hr.resolve_left hnull.2.2]
    exact .refl Value.Below.refl _

theorem occurrence_below {v v' p p' : Value} {i i' n n' : Option Value} (hv : v.Below v') (hp : p.Below p')
    (hi : ArgumentBelow i i') (hn : ArgumentBelow n n') :
    Comparable Value.Below (occurrence v p i n) (occurrence v' p' i' n') := by
  by_cases hnull : v = .null ∨ p = .null ∨ i = some .null ∨ n = some .null
  · exact .of_unknown (occurrence_unknown hnull) _
  · rw [not_or, not_or, not_or] at hnull
    obtain ⟨hv', hp', hi', hn'⟩ := hnull
    rw [hv.resolve_left hv', hp.resolve_left hp', hi.resolve_left hi', hn.resolve_left hn']
    exact .refl Value.Below.refl _

/-! ### Expressions -/

/-- A context that agrees with another on every variable that is not null there. -/
def Context.Fills (context' context : Context) : Prop :=
  ∀ x v, context.get? x = some v → v ≠ .null → context'.get? x = some v

theorem Context.read_below {context context' : Context} (h : context'.Fills context) (t : DataType) (x : String) :
    Comparable Value.Below (context.read t x) (context'.read t x) := by
  rw [Context.read]
  split
  · next v hv =>
    by_cases hnull : v = .null
    · subst hnull
      exact .of_unknown Unknown.null _
    · rw [Context.read, h x v hv hnull]
      exact .refl Value.Below.refl _
  · exact .error_left _ _

namespace TypedExpr

variable {context context' : Context}

/-- A node for which null means unknown: no choice, and no test for null. -/
def IsMonotone : TypedExpr → Prop
  | .unary _ op _ => op ≠ .isNull
  | .conditional _ _ _ _ => False
  | _ => True

section Evaluation

variable [PatternLibrary]

theorem evalOptional_below {o : Option TypedExpr}
    (h : ∀ c ∈ o.toList, Comparable Value.Below (c.eval context) (c.eval context')) :
    Comparable ArgumentBelow (evalOptional context o) (evalOptional context' o) := by
  cases o with
  | none => exact .ok (.inr rfl)
  | some c =>
    rw [evalOptional, evalOptional]
    exact Comparable.bind (h c List.mem_cons_self) fun v w hvw => .ok hvw.argument

/-- In two contexts of which the second fills nulls of the first, an expression of monotone nodes has comparable
    outcomes. -/
theorem eval_below (h : context'.Fills context) (e : TypedExpr) (hmono : ∀ n : TypedExpr, n.Inside e → n.IsMonotone) :
    Comparable Value.Below (e.eval context) (e.eval context') := by
  induction e using induction_on_children with
  | h e ih =>
    have hself := hmono e .self
    have hparts : ∀ c ∈ e.children, Comparable Value.Below (c.eval context) (c.eval context') :=
      fun c hc => ih c hc fun n hn => hmono n (.child hc hn)
    clear ih hmono
    cases e <;> simp only [children, List.forall_mem_cons, List.forall_mem_append] at hparts <;> rw [eval, eval]
    case const t v => exact .refl Value.Below.refl _
    case var t x => exact Context.read_below h t x
    case unary t op e => exact Comparable.bind hparts.1 fun v w hvw => applyUnary_below hself hvw
    case binary t op l r =>
      refine Comparable.bind hparts.1 fun l l' hl => Comparable.bind hparts.2.1 fun r r' hr => ?_
      exact applyBinary_below op hl hr
    case between t e l u =>
      refine Comparable.bind hparts.1 fun v v' hv => Comparable.bind hparts.2.1 fun l l' hl => ?_
      exact Comparable.bind hparts.2.2.1 fun u u' hu => between_below hv hl hu
    case substr t e a b =>
      obtain ⟨he, ha, hb⟩ := hparts
      refine Comparable.bind he fun v v' hv => (evalOptional_below ha).bind fun i i' hi => ?_
      exact (evalOptional_below hb).bind fun j j' hj => substring_below hv hi hj
    case replace t e p a =>
      obtain ⟨he, hp, ha⟩ := hparts
      refine Comparable.bind he fun v v' hv => Comparable.bind hp fun p p' hp => ?_
      exact (evalOptional_below ha).bind fun r r' hr => replaceMatches_below hv hp hr
    case instr t e p a b =>
      obtain ⟨he, hp, ha, hb⟩ := hparts
      refine Comparable.bind he fun v v' hv => Comparable.bind hp fun p p' hp => ?_
      refine (evalOptional_below ha).bind fun i i' hi => ?_
      exact (evalOptional_below hb).bind fun n n' hn => occurrence_below hv hp hi hn
    case conditional => exact hself.elim

/-- Null means unknown: where an expression without choices and tests for null has a value other than null, it has
    the same value once nulls of the context are filled in, or fails. This holds of every typed expression, so of
    every one that the checker makes, and of all contexts of which the second agrees with the first wherever that
    is not null. -/
theorem eval_filled (e : TypedExpr) (context context' : Context) (v : Value)
    (hmono : ∀ n : TypedExpr, n.Inside e → n.IsMonotone) (hfills : context'.Fills context)
    (hv : e.eval context = .ok v) (hknown : v ≠ .null) :
    e.eval context' = .ok v ∨ ∃ err, e.eval context' = .error err := by
  have hbelow := eval_below hfills e hmono
  rw [hv] at hbelow
  cases hout : e.eval context' with
  | error err => exact .inr ⟨err, rfl⟩
  | ok w =>
    rw [hout] at hbelow
    exact .inl (congrArg Except.ok (hbelow.resolve_left hknown).symm)

end Evaluation

open scoped Fragment in
/-- A conjunction that is false whatever its other side is, and stays so once that is known. -/
theorem eval_filled_conjunction :
    let e : TypedExpr := .binary .boolean .and (.var .boolean "x") (.const .boolean (.boolean false))
    let unknown : Context := NameMap.empty.insert "x" .null
    let known : Context := NameMap.empty.insert "x" (.boolean true)
    (∀ n : TypedExpr, n.Inside e → n.IsMonotone) ∧ known.Fills unknown ∧
      e.eval unknown = .ok (.boolean false) ∧ e.eval known = .ok (.boolean false) := by
  intro e unknown known
  have hmono : ∀ n : TypedExpr, n.Inside e → n.IsMonotone := by
    rintro n (_ | ⟨hc, hinside⟩)
    · trivial
    · simp only [e, children, List.mem_cons, List.not_mem_nil, or_false] at hc
      rcases hc with rfl | rfl <;> rcases hinside with _ | ⟨⟨⟩, -⟩ <;> trivial
  have hfills : known.Fills unknown := by
    intro x v hx hv
    rw [NameMap.get?_insert] at hx
    split at hx
    · cases hx
      exact absurd rfl hv
    · cases hx
  have heval : e.eval unknown = .ok (.boolean false) := rfl
  refine ⟨hmono, hfills, heval, ?_⟩
  refine (eval_filled e unknown known _ hmono hfills heval Value.noConfusion).resolve_right ?_
  rintro ⟨err, herr⟩
  cases herr

end TypedExpr

end AssignScript
