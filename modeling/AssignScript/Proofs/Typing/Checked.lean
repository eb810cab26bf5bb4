import AssignScript.Proofs.Pattern.Fragment
import AssignScript.Proofs.Typing.WellTyped
import AssignScript.Proofs.Typing.Widening

/-!
# Checked expressions are well typed

Whatever the checker accepts under a table of built-in rules is well typed, and so its evaluation keeps
the type that the checker announced.

## Main definitions

* `FunctionTable.BuiltIn`: tables put together from the built-in families and text functions;
* `Context.Conforms`: contexts that hold a fitting value for every declared name.

## Main statements

* `Checker.check_wellTyped`: what the checker accepts is well typed;
* `Checker.check_eval_sound`: its value has the announced type, and its errors lie in values.
-/

namespace AssignScript

/-- Two steps succeed together if the second succeeds on what the first gives. -/
theorem bind_eq_ok {ε α β : Type} {x : Except ε α} {f : α → Except ε β} {b : β} :
    (x >>= f) = .ok b ↔ ∃ a, x = .ok a ∧ f a = .ok b := by
  cases x with
  | ok a =>
    constructor
    · exact fun h => ⟨a, rfl, h⟩
    · rintro ⟨_, hx, h⟩
      cases hx
      exact h
  | error e =>
    constructor
    · exact fun h => nomatch h
    · rintro ⟨_, hx, _⟩
      cases hx

/-- The first step fails, or the second does. -/
theorem bind_eq_error {ε α β : Type} {x : Except ε α} {f : α → Except ε β} {e : ε} :
    x >>= f = .error e ↔ x = .error e ∨ ∃ a, x = .ok a ∧ f a = .error e := by
  cases x with
  | ok a =>
    constructor
    · exact fun h => .inr ⟨a, rfl, h⟩
    · rintro (⟨⟨⟩⟩ | ⟨_, ⟨⟩, h⟩)
      exact h
  | error e' =>
    constructor
    · intro h
      exact .inl (congrArg Except.error (Except.error.inj h))
    · rintro (h | ⟨_, ⟨⟩, -⟩)
      exact congrArg Except.error (Except.error.inj h)

/-! ### How operands fit -/

theorem requireType_eq_ok {expected : DataType} {e e' : TypedExpr} {span : Span} :
    (requireType expected e span : Checked TypedExpr) = .ok e' ↔
      e.dataType.widensTo expected = true ∧ e = e' := by
  unfold requireType
  split
  · next h => simp [h, pure, Except.pure]
  · next h => simp [h, throw, throwThe, MonadExceptOf.throw]

theorem commonType_eq_ok {es : List TypedExpr} {span : Span} {t : DataType} :
    (commonType es span : Checked DataType) = .ok t ↔
      DataType.widenAll (es.map TypedExpr.dataType) = some t := by
  unfold commonType
  split
  · next h => simp [h, pure, Except.pure]
  · next h => simp [h, throw, throwThe, MonadExceptOf.throw]

/-! ### Rules -/

/-- A check that accepts well-typed expressions only. -/
def Check.Sound (Γ : Declarations) (check : Check) : Prop :=
  ∀ e t, check e = .ok t → WellTyped Γ t

/-- The operators with one operand that a rule is made for. -/
def UnaryRule.Covers : UnaryRule → UnaryOp → Prop
  | .logical, op => op = .not
  | .sign, op => op = .plus ∨ op = .minus

/-- The operators with two operands that a rule is made for. -/
def BinaryRule.Covers : BinaryRule → BinaryOp → Prop
  | .logical, op => op = .and ∨ op = .or ∨ op = .xor
  | .comparison, op => op = .eq ∨ op = .ne ∨ op = .lt ∨ op = .le ∨ op = .gt ∨ op = .ge
  | .arithmetic, op => op = .add ∨ op = .sub ∨ op = .mul ∨ op = .div
  | .concatenation, op => op = .concat

section Rules

variable {Γ : Declarations} {check : Check} {t : TypedExpr}

/-- Two operands that fit are well typed and have the type that was wanted, up to widening. -/
theorem checkPair_wellTyped {expected : DataType} {left right : Expr} {l r : TypedExpr}
    (hc : check.Sound Γ) (h : checkPair check expected left right = .ok (l, r)) :
    (WellTyped Γ l ∧ l.dataType.widensTo expected = true) ∧
      (WellTyped Γ r ∧ r.dataType.widensTo expected = true) := by
  simp only [checkPair, bind_eq_ok, requireType_eq_ok] at h
  obtain ⟨l', hl, r', hr, _, ⟨tl, rfl⟩, _, ⟨tr, rfl⟩, h⟩ := h
  cases h
  exact ⟨⟨hc _ _ hl, tl⟩, ⟨hc _ _ hr, tr⟩⟩

theorem checkUnary_wellTyped {rule : UnaryRule} {op : UnaryOp} {operand : Expr}
    (hc : check.Sound Γ) (hop : rule.Covers op) (h : checkUnary check rule op operand = .ok t) :
    WellTyped Γ t := by
  cases rule with
  | logical =>
    simp only [checkUnary, bind_eq_ok, requireType_eq_ok] at h
    obtain ⟨e, he, _, ⟨te, rfl⟩, h⟩ := h
    cases h
    cases hop
    -- Only numbers widen, so a truth value was there.
    have te := DataType.eq_of_widensTo te (by decide)
    rw [te]
    exact .unary (hc _ _ he) (by rw [te]; rfl)
  | sign =>
    simp only [checkUnary, bind_eq_ok, requireType_eq_ok] at h
    obtain ⟨e, he, _, ⟨te, rfl⟩, h⟩ := h
    cases h
    have te := DataType.isNumeric_of_widensTo te
    refine .unary (hc _ _ he) ?_
    rcases hop with rfl | rfl <;> exact if_pos te

/-- Operands of a type that an operation accepts make a well-typed operation. -/
theorem checkPair_binary_wellTyped {expected default : DataType} {op : BinaryOp}
    {left right : Expr} {l r : TypedExpr} (hc : check.Sound Γ)
    (h : checkPair check expected left right = .ok (l, r))
    (hop : ∀ t₁ t₂ : DataType, t₁.widensTo expected → t₂.widensTo expected →
      (op.outputType t₁ t₂).isSome) :
    WellTyped Γ (.binary ((op.outputType l.dataType r.dataType).getD default) op l r) := by
  obtain ⟨⟨hl, tl⟩, ⟨hr, tr⟩⟩ := checkPair_wellTyped hc h
  obtain ⟨u, hu⟩ := Option.isSome_iff_exists.1 (hop _ _ tl tr)
  rw [hu, Option.getD_some]
  exact .binary hl hr hu

theorem checkBinary_wellTyped {rule : BinaryRule} {op : BinaryOp} {left right : Expr} {span : Span}
    (hc : check.Sound Γ) (hop : rule.Covers op)
    (h : checkBinary check rule op left right span = .ok t) : WellTyped Γ t := by
  cases rule with
  | logical =>
    simp only [checkBinary, bind_eq_ok] at h
    obtain ⟨⟨l, r⟩, hp, h⟩ := h
    cases h
    refine checkPair_binary_wellTyped hc hp ?_
    intro t₁ t₂
    rcases hop with rfl | rfl | rfl <;> cases t₁ <;> cases t₂ <;> decide
  | comparison =>
    simp only [checkBinary, bind_eq_ok] at h
    obtain ⟨l, hl, r, hr, _, -, h⟩ := h
    split at h
    · next u hu =>
      cases h
      exact .binary (hc _ _ hl) (hc _ _ hr) hu
    · cases h
  | arithmetic =>
    simp only [checkBinary, bind_eq_ok] at h
    obtain ⟨⟨l, r⟩, hp, h⟩ := h
    cases h
    refine checkPair_binary_wellTyped hc hp ?_
    intro t₁ t₂
    rcases hop with rfl | rfl | rfl | rfl <;> cases t₁ <;> cases t₂ <;> decide
  | concatenation =>
    simp only [checkBinary, bind_eq_ok] at h
    obtain ⟨⟨l, r⟩, hp, h⟩ := h
    cases h
    cases hop
    obtain ⟨⟨hl, tl⟩, ⟨hr, tr⟩⟩ := checkPair_wellTyped hc hp
    refine .binary hl hr ?_
    rw [DataType.eq_of_widensTo tl (by decide), DataType.eq_of_widensTo tr (by decide)]
    rfl

theorem checkArgument_wellTyped {expected : DataType} {arg : Expr} (hc : check.Sound Γ)
    (hn : expected ≠ .number) (h : checkArgument check expected arg = .ok t) :
    WellTyped Γ t ∧ t.dataType = expected := by
  simp only [checkArgument, bind_eq_ok, requireType_eq_ok] at h
  obtain ⟨_, ht, te, rfl⟩ := h
  exact ⟨hc _ _ ht, DataType.eq_of_widensTo te hn⟩

theorem checkOptional_wellTyped {expected : DataType} {arg : Option Expr} {o : Option TypedExpr}
    (hc : check.Sound Γ) (hn : expected ≠ .number)
    (h : checkOptional check expected arg = .ok o) :
    (∀ e ∈ o, WellTyped Γ e) ∧ ∀ e ∈ o, e.dataType = expected := by
  unfold checkOptional at h
  split at h
  · cases h
    simp
  · split at h
    · cases h
      simp
    · simp only [bind_eq_ok] at h
      obtain ⟨a, ha, h⟩ := h
      cases h
      simpa using checkArgument_wellTyped hc hn ha

theorem checkBetween_wellTyped {operand lower upper : Expr} {span : Span} (hc : check.Sound Γ)
    (h : checkBetween check operand lower upper span = .ok t) : WellTyped Γ t := by
  simp only [checkBetween, bind_eq_ok, commonType_eq_ok] at h
  obtain ⟨e, he, l, hl, u, hu, common, hcommon, h⟩ := h
  split at h
  · next hnumeric =>
    cases h
    -- The common type of all three is found from the left: first that of the operand and the lower bound.
    simp only [List.map_cons, List.map_nil, DataType.widenAll, List.foldlM_cons, List.foldlM_nil,
      Option.bind_eq_bind, Option.bind_eq_some_iff, Option.pure_def, Option.some.injEq] at hcommon
    obtain ⟨m, hm, _, hlast, rfl⟩ := hcommon
    obtain ⟨hmnumeric, tu⟩ := DataType.isNumeric_of_widen hlast hnumeric
    obtain ⟨te, tl⟩ := DataType.isNumeric_of_widen hm hmnumeric
    exact .between (hc _ _ he) (hc _ _ hl) (hc _ _ hu) te tl tu
  · cases h

theorem checkMatching_wellTyped {operand pattern : Expr} (hc : check.Sound Γ)
    (h : checkMatching check operand pattern = .ok t) : WellTyped Γ t := by
  simp only [checkMatching, bind_eq_ok] at h
  obtain ⟨⟨e, p⟩, hp, h⟩ := h
  cases h
  obtain ⟨⟨he, te⟩, ⟨hp, tp⟩⟩ := checkPair_wellTyped hc hp
  refine .binary he hp ?_
  rw [DataType.eq_of_widensTo te (by decide), DataType.eq_of_widensTo tp (by decide)]
  rfl

/-- The operations that function names stand for accept texts. -/
theorem textOperation?_outputType {name : String} {op : UnaryOp}
    (h : textOperation? name = some op) : ∃ t, op.outputType .string = some t := by
  have hall : ∀ p ∈ textOperations, (p.2.outputType .string).isSome = true := by decide
  obtain ⟨before, after, hsplit, -⟩ := List.lookup_eq_some_iff.1 h
  have hmem : (name, op) ∈ textOperations := by simp [hsplit]
  exact Option.isSome_iff_exists.1 (hall _ hmem)

theorem checkText_wellTyped {op : UnaryOp} {operand : Expr} (hc : check.Sound Γ)
    (hop : ∃ u, op.outputType .string = some u) (h : checkText check op operand = .ok t) :
    WellTyped Γ t := by
  simp only [checkText, bind_eq_ok] at h
  obtain ⟨e, he, h⟩ := h
  cases h
  obtain ⟨he, te⟩ := checkArgument_wellTyped hc (by decide) he
  obtain ⟨u, hu⟩ := hop
  rw [te, hu]
  exact .unary he (by rw [te]; exact hu)

theorem checkSubstring_wellTyped {operand : Expr} {first last : Option Expr} (hc : check.Sound Γ)
    (h : checkSubstring check operand first last = .ok t) : WellTyped Γ t := by
  simp only [checkSubstring, bind_eq_ok] at h
  obtain ⟨e, he, f, hf, l, hl, h⟩ := h
  cases h
  obtain ⟨he, te⟩ := checkArgument_wellTyped hc (by decide) he
  obtain ⟨hf, tf⟩ := checkOptional_wellTyped hc (by decide) hf
  obtain ⟨hl, tl⟩ := checkOptional_wellTyped hc (by decide) hl
  exact .substr he hf hl te tf tl

theorem checkReplacement_wellTyped {operand pattern : Expr} {replacement : Option Expr}
    (hc : check.Sound Γ) (h : checkReplacement check operand pattern replacement = .ok t) :
    WellTyped Γ t := by
  simp only [checkReplacement, bind_eq_ok] at h
  obtain ⟨e, he, p, hp, r, hr, h⟩ := h
  cases h
  obtain ⟨he, te⟩ := checkArgument_wellTyped hc (by decide) he
  obtain ⟨hp, tp⟩ := checkArgument_wellTyped hc (by decide) hp
  obtain ⟨hr, tr⟩ := checkOptional_wellTyped hc (by decide) hr
  exact .replace he hp hr te tp tr

theorem checkOccurrence_wellTyped {operand pattern : Expr} {start n : Option Expr}
    (hc : check.Sound Γ) (h : checkOccurrence check operand pattern start n = .ok t) :
    WellTyped Γ t := by
  simp only [checkOccurrence, bind_eq_ok] at h
  obtain ⟨e, he, p, hp, s, hs, n, hn, h⟩ := h
  cases h
  obtain ⟨he, te⟩ := checkArgument_wellTyped hc (by decide) he
  obtain ⟨hp, tp⟩ := checkArgument_wellTyped hc (by decide) hp
  obtain ⟨hs, ts⟩ := checkOptional_wellTyped hc (by decide) hs
  obtain ⟨hn, tn⟩ := checkOptional_wellTyped hc (by decide) hn
  exact .instr he hp hs hn te tp ts tn

theorem checkCall_wellTyped {rule : CallRule} {name : String} {args : List Expr} {span : Span}
    (hc : check.Sound Γ) (h : checkCall check rule name args span = .ok t) : WellTyped Γ t := by
  unfold checkCall at h
  split at h
  case h_1 => exact checkBetween_wellTyped hc h
  case h_3 => exact checkMatching_wellTyped hc h
  case h_5 =>
    simp only [bind_eq_ok] at h
    obtain ⟨e, he, h⟩ := h
    cases h
    exact .unary (hc _ _ he) rfl
  case h_7 =>
    split at h
    · cases h
    · next hop => exact checkText_wellTyped hc (textOperation?_outputType hop) h
    · cases h
  case h_8 | h_9 | h_10 => exact checkSubstring_wellTyped hc h
  case h_12 | h_13 => exact checkReplacement_wellTyped hc h
  case h_15 | h_16 | h_17 => exact checkOccurrence_wellTyped hc h
  all_goals cases h

theorem checkConditional_wellTyped {condition first second : Expr} {span : Span}
    (hc : check.Sound Γ) (h : checkConditional check condition first second span = .ok t) :
    WellTyped Γ t := by
  simp only [checkConditional, bind_eq_ok, requireType_eq_ok, commonType_eq_ok] at h
  obtain ⟨_, hcond, c, ⟨tc, rfl⟩, a, ha, b, hb, u, hu, h⟩ := h
  cases h
  refine .conditional (hc _ _ hcond) (hc _ _ ha) (hc _ _ hb)
    (DataType.eq_of_widensTo tc (by decide)) ?_
  simpa [DataType.widenAll] using hu

end Rules

/-! ### Built-in tables -/

namespace FunctionTable

/-- A table whose rules stand at operators that they are made for. Functions by name need no such care,
    since their rules find the operation themselves. -/
structure Covered (table : FunctionTable) : Prop where
  unary : ∀ op rule, table.unary op = some rule → rule.Covers op
  binary : ∀ op rule, table.binary op = some rule → rule.Covers op

/-- Tables put together from the built-in families, in any order, with the functions on one text under any
    further names. -/
inductive BuiltIn : FunctionTable → Prop where
  | empty : BuiltIn .empty
  | register {table : FunctionTable} (h : BuiltIn table) (family : Family) :
    BuiltIn (table.register family)
  | registerCall {table : FunctionTable} (h : BuiltIn table) (name : String) :
    BuiltIn (table.registerCall name .text)

theorem BuiltIn.ofFamilies (families : List Family) : BuiltIn (.ofFamilies families) := by
  have hfold : ∀ table, BuiltIn table → BuiltIn (families.foldl FunctionTable.register table) := by
    induction families with
    | nil => exact fun _ h => h
    | cons family families ih => exact fun _ h => ih _ (h.register family)
  exact hfold _ .empty

theorem BuiltIn.standard : BuiltIn .standard := .ofFamilies _

namespace Covered

variable {table : FunctionTable}

theorem registerUnary (h : table.Covered) {ops : List UnaryOp} {rule : UnaryRule}
    (hops : ∀ op ∈ ops, rule.Covers op) : (table.registerUnary ops rule).Covered := by
  refine ⟨fun op r hr => ?_, h.binary⟩
  simp only [FunctionTable.registerUnary] at hr
  split at hr
  · next hop =>
    cases hr
    exact hops op hop
  · exact h.unary op r hr

theorem registerBinary (h : table.Covered) {ops : List BinaryOp} {rule : BinaryRule}
    (hops : ∀ op ∈ ops, rule.Covers op) : (table.registerBinary ops rule).Covered := by
  refine ⟨h.unary, fun op r hr => ?_⟩
  simp only [FunctionTable.registerBinary] at hr
  split at hr
  · next hop =>
    cases hr
    exact hops op hop
  · exact h.binary op r hr

theorem registerCall (h : table.Covered) (name : String) (rule : CallRule) :
    (table.registerCall name rule).Covered := ⟨h.unary, h.binary⟩

theorem registerCalls (h : table.Covered) (names : List String) (rule : CallRule) :
    (table.registerCalls names rule).Covered := by
  induction names generalizing table with
  | nil => exact h
  | cons name names ih => exact ih (h.registerCall name rule)

theorem register (h : table.Covered) (family : Family) : (table.register family).Covered := by
  cases family with
  | boolean =>
    refine (h.registerUnary ?_).registerBinary ?_ <;> simp [UnaryRule.Covers, BinaryRule.Covers]
  | comparison =>
    refine (((h.registerBinary ?_).registerCall _ _).registerCall _ _).registerCall _ _
    simp [BinaryRule.Covers]
  | string =>
    refine ((((h.registerCalls _ _).registerCall _ _).registerCall _ _).registerCall _ _).registerBinary ?_
    simp [BinaryRule.Covers]
  | arithmetic =>
    refine (h.registerBinary ?_).registerUnary ?_ <;> simp [UnaryRule.Covers, BinaryRule.Covers]

end Covered

theorem BuiltIn.covered {table : FunctionTable} (h : table.BuiltIn) : table.Covered := by
  -- Families bring rules for their own operators, and names bring none for operators.
  induction h with
  | empty =>
    constructor
    · intro op rule h
      cases h
    · intro op rule h
      cases h
  | register _ family ih => exact ih.register family
  | registerCall _ name ih => exact ih.registerCall name .text

end FunctionTable

/-! ### The checker -/

namespace Checker

variable {c : Checker} {check : Check} {e : Expr} {t : TypedExpr}

/-- One expression is well typed if those inside it are. -/
theorem checkNode_wellTyped (hf : c.functions.Covered) (hc : check.Sound c.declarations)
    (h : c.checkNode check e = .ok t) : WellTyped c.declarations t := by
  cases e with
  | literal span value =>
    cases h
    exact .const value.value
  | «variable» span name =>
    simp only [checkNode] at h
    split at h
    · next hname =>
      cases h
      exact .var hname
    · cases h
  | parens span inner => exact hc inner t h
  | unary span op operand =>
    simp only [checkNode] at h
    split at h
    · next rule hrule => exact checkUnary_wellTyped hc (hf.unary op rule hrule) h
    · cases h
  | binary span op left right =>
    simp only [checkNode] at h
    split at h
    · next rule hrule => exact checkBinary_wellTyped hc (hf.binary op rule hrule) h
    · cases h
  | conditional span condition first second => exact checkConditional_wellTyped hc h
  | call span name args =>
    simp only [checkNode] at h
    split at h
    · exact checkCall_wellTyped hc h
    · cases h
  | omitted span => cases h

theorem checkWithin_sound (hf : c.functions.Covered) (room : Nat) :
    Check.Sound c.declarations (c.checkWithin room) := by
  induction room with
  | zero => exact fun _ _ h => nomatch h
  | succ room ih => exact fun _ _ h => checkNode_wellTyped hf ih h

/-- What the checker accepts is well typed. -/
theorem check_wellTyped (hf : c.functions.BuiltIn) (h : c.check e = .ok t) :
    WellTyped c.declarations t :=
  checkWithin_sound hf.covered c.limit e t h

end Checker

/-! ### Evaluating what was checked -/

/-- A context that holds, for every declared name, a value that can be brought to the type of the name. -/
def Context.Conforms (context : Context) (Γ : Declarations) : Prop :=
  ∀ x t, Γ.get? x = some t → ∃ v w, context.get? x = some v ∧ v.conformTo t = some w

/-- Where the context conforms to the declarations, a justified error is one that types do not exclude. -/
theorem EvalError.Justified.ofValues {Γ : Declarations} {context : Context} {names : List String}
    {e : EvalError} (h : e.Justified Γ context names) (hcontext : context.Conforms Γ)
    (hnames : ∀ x ∈ names, ∃ t, Γ.get? x = some t) : e.OfValues := by
  cases e with
  | unboundVariable x =>
    obtain ⟨hx, hnone⟩ := h
    obtain ⟨t, ht⟩ := hnames x hx
    obtain ⟨v, _, hv, -⟩ := hcontext x t ht
    rw [hnone] at hv
    cases hv
  | unexpectedValue v site =>
    obtain ⟨x, -, t, v, ht, hv, hconform⟩ := h
    obtain ⟨v', w, hv', hw⟩ := hcontext x t ht
    rw [hv] at hv'
    cases hv'
    rw [hconform] at hw
    cases hw
  | _ => trivial

/-- Whatever the checker accepts under a built-in table keeps its type when it is evaluated, in any context:
    a value is null or of exactly the announced type; a name is unbound only if the expression has it and
    the context does not; a value is unexpected only if the context holds, for a name of the expression, one
    that cannot be brought to the declared type. Where the context conforms, only errors that types do not
    exclude are left. -/
theorem Checker.check_eval_sound [PatternLibrary] (c : Checker) (hf : c.functions.BuiltIn) (e : Expr) (t : TypedExpr)
    (h : c.check e = .ok t) (context : Context) :
    (∀ v, t.eval context = .ok v → v = .null ∨ v.dataType = t.dataType) ∧
    (∀ x, t.eval context = .error (.unboundVariable x) →
      x ∈ t.names ∧ context.get? x = none) ∧
    (∀ v site, t.eval context = .error (.unexpectedValue v site) →
      ∃ x ∈ t.names, ∃ type held, c.declarations.get? x = some type ∧
        context.get? x = some held ∧ held.conformTo type = none) ∧
    (context.Conforms c.declarations → ∀ err, t.eval context = .error err →
      (∃ first last length, err = .indexOutOfRange first last length) ∨
      (∃ pattern reason, err = .invalidPattern pattern reason) ∨ err = .divisionByZero ∨
      ∃ operation, err = .overflow operation) := by
  have hwell := c.check_wellTyped hf h
  have hsettled := hwell.eval_settled context
  refine ⟨fun v hv => ?_, fun x hx => ?_, fun v site hv => ?_, fun hcontext err herr => ?_⟩
  · rw [hv] at hsettled
    exact hsettled
  · rw [hx] at hsettled
    exact hsettled
  · rw [hv] at hsettled
    exact hsettled
  · rw [herr] at hsettled
    have hvalues : err.OfValues :=
      EvalError.Justified.ofValues hsettled hcontext fun x hx => hwell.declared hx
    cases err with
    | unboundVariable x => cases hvalues
    | unexpectedValue v site => cases hvalues
    | indexOutOfRange first last length => exact .inl ⟨first, last, length, rfl⟩
    | invalidPattern pattern reason => exact .inr (.inl ⟨pattern, reason, rfl⟩)
    | divisionByZero => exact .inr (.inr (.inl rfl))
    | overflow operation => exact .inr (.inr (.inr ⟨operation, rfl⟩))

open scoped Fragment in
/-- The quotient of a declared name by one, which a division announces as a number: a text for the name is
    unexpected, and no value for it leaves the name unbound. -/
theorem Checker.check_eval_sound_quotient :
    let x : Span := .unplaced "x"
    let c : Checker := ⟨NameMap.empty.insert "x" .integer, .ofFamilies [.arithmetic], 2⟩
    let e : Expr := .binary x .div (.variable x "x") (.literal x (.integer 1))
    let t : TypedExpr := .binary .number .div (.var .integer "x") (.const .integer (.integer 1))
    let held : Context := NameMap.empty.insert "x" (.string "one")
    c.check e = .ok t ∧
      (t.eval held = .error (.unexpectedValue (.string "one") (.variable "x" .integer)) ∧
        ∃ x ∈ t.names, ∃ type v, c.declarations.get? x = some type ∧ held.get? x = some v ∧
          v.conformTo type = none) ∧
      (t.eval .empty = .error (.unboundVariable "x") ∧
        "x" ∈ t.names ∧ (NameMap.empty : Context).get? "x" = none) := by
  intro x c e t held
  have hchecked : c.check e = .ok t := rfl
  have hheld : t.eval held = .error (.unexpectedValue (.string "one") (.variable "x" .integer)) := rfl
  have hempty : t.eval .empty = .error (.unboundVariable "x") := rfl
  have hsound := c.check_eval_sound (.ofFamilies _) e t hchecked
  exact ⟨hchecked, ⟨hheld, (hsound held).2.2.1 _ _ hheld⟩, hempty, (hsound .empty).2.1 _ hempty⟩

end AssignScript
