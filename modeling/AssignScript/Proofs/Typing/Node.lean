import Mathlib.Data.List.Forall2
import AssignScript.Proofs.Evaluation.Parts
import AssignScript.Proofs.Syntax.Shape
import AssignScript.Proofs.Typing.Checked

/-!
# One step of the checker

What the check of an expression comes to, given the checks of those right inside it: a typed expression of one form
for each form of expressions, or an error for one of few reasons.

## Main definitions

* `Expr.compared`: the operands that must have a common type;
* `Builds`, `Arguments`: the typed expressions that may come of an expression, and of arguments;
* `Checker.Raises`: the errors that may come of an expression.

## Main statements

* `Checker.checkNode_settled`: nothing else comes of an expression.
-/

namespace AssignScript

/-- The operands for which a common type is looked for, where one is: the branches of a choice, and else all of
    them. -/
def Expr.compared : Expr → List Expr
  | .conditional _ _ a b => [a, b]
  | e => e.children

/-- What comes of arguments: a typed expression of each that is given. -/
inductive Arguments (check : Check) : List Expr → List TypedExpr → Prop where
  | nil : Arguments check [] []
  | given {i : Expr} {is : List Expr} {t : TypedExpr} {ts : List TypedExpr} (h : check i = .ok t)
    (hs : Arguments check is ts) : Arguments check (i :: is) (t :: ts)
  | omitted {i : Expr} {is : List Expr} {ts : List TypedExpr} (h : i.isOmitted = true)
    (hs : Arguments check is ts) : Arguments check (i :: is) ts

/-- Arguments behind others. -/
theorem Arguments.append {check : Check} {is is' : List Expr} {ts ts' : List TypedExpr} (h : Arguments check is ts)
    (h' : Arguments check is' ts') : Arguments check (is ++ is') (ts ++ ts') := by
  induction h with
  | nil => exact h'
  | given h _ ih => exact .given h ih
  | omitted h _ ih => exact .omitted h ih

/-- What may come of an expression, given what comes of those right inside it. -/
inductive Builds (check : Check) : Expr → TypedExpr → Prop where
  | literal (s : Span) (v : Literal) : Builds check (.literal s v) (.constant v.value)
  | variable (s : Span) (x : String) (type : DataType) : Builds check (.variable s x) (.var type x)
  | parens {s : Span} {i : Expr} {t : TypedExpr} (h : check i = .ok t) : Builds check (.parens s i) t
  | unary {s : Span} {op : UnaryOp} {i : Expr} {t : TypedExpr} (type : DataType) (h : check i = .ok t) :
    Builds check (.unary s op i) (.unary type op t)
  | binary {s : Span} {op : BinaryOp} {l r : Expr} {t u : TypedExpr} (type : DataType) (hl : check l = .ok t)
    (hr : check r = .ok u) : Builds check (.binary s op l r) (.binary type op t u)
  | conditional {s : Span} {i a b : Expr} {t u v : TypedExpr} (type : DataType) (hi : check i = .ok t)
    (ha : check a = .ok u) (hb : check b = .ok v) :
    Builds check (.conditional s i a b) (.conditional type t u v)
  | call {s : Span} {x : String} {args : List Expr} {t : TypedExpr} (h : Arguments check args t.children) :
    Builds check (.call s x args) t

section Parts

variable {check : Check} {i : Expr}

theorem Arguments.given_or_omitted {is : List Expr} {ts : List TypedExpr} (h : Arguments check is ts) (hi : i ∈ is) :
    i.isOmitted = true ∨ ∃ u, check i = .ok u := by
  induction h with
  | nil => cases hi
  | given h _ ih =>
    rcases List.mem_cons.1 hi with rfl | hi
    · exact .inr ⟨_, h⟩
    · exact ih hi
  | omitted h _ ih =>
    rcases List.mem_cons.1 hi with rfl | hi
    · exact .inl h
    · exact ih hi

/-- Whatever is inside an expression that is accepted is accepted itself, or is a placeholder. -/
theorem Builds.given_or_omitted {e : Expr} {t : TypedExpr} (h : Builds check e t) (hi : i ∈ e.children) :
    i.isOmitted = true ∨ ∃ u, check i = .ok u := by
  cases h with
  | literal s v => cases hi
  | «variable» s x type => cases hi
  | call h => exact h.given_or_omitted hi
  | parens h | unary _ h =>
    obtain rfl := List.mem_singleton.1 hi
    exact .inr ⟨_, h⟩
  | binary _ hl hr =>
    simp only [Expr.children, List.mem_cons, List.not_mem_nil, or_false] at hi
    rcases hi with rfl | rfl
    · exact .inr ⟨_, hl⟩
    · exact .inr ⟨_, hr⟩
  | conditional _ hc ha hb =>
    simp only [Expr.children, List.mem_cons, List.not_mem_nil, or_false] at hi
    rcases hi with rfl | rfl | rfl
    · exact .inr ⟨_, hc⟩
    · exact .inr ⟨_, ha⟩
    · exact .inr ⟨_, hb⟩

end Parts

namespace Checker

/-- The errors that may come of an expression, given what comes of those right inside it. -/
inductive Raises (c : Checker) (check : Check) : Expr → SemanticError → Prop where
  /-- The error of an expression right inside. -/
  | inside {e i : Expr} {err : SemanticError} (hi : i ∈ e.children) (h : check i = .error err) :
    Raises c check e err
  | undefined {s : Span} {x : String} (h : c.declarations.get? x = none) :
    Raises c check (.variable s x) (.undefinedVariable x s)
  | omitted (s : Span) : Raises c check (.omitted s) (.missingOperand s)
  | noUnary {s : Span} {op : UnaryOp} {i : Expr} (h : c.functions.unary op = none) :
    Raises c check (.unary s op i) (.unknownFunction op.symbol s)
  | noBinary {s : Span} {op : BinaryOp} {l r : Expr} (h : c.functions.binary op = none) :
    Raises c check (.binary s op l r) (.unknownFunction op.symbol s)
  | noCall {s : Span} {x : String} {args : List Expr} (h : c.functions.call? (Text.toLower x) = none ∨
      c.functions.call? (Text.toLower x) = some .text ∧ textOperation? (Text.toLower x) = none) :
    Raises c check (.call s x args) (.unknownFunction (Text.toLower x) s)
  | count {s : Span} {x : String} {args : List Expr} {least most : Nat}
    (h : args.length < least ∨ most < args.length) :
    Raises c check (.call s x args) (.argumentCount (Text.toLower x) least most args.length s)
  /-- An operand of another type than is wanted. -/
  | misfit {e i : Expr} {t : TypedExpr} {expected : DataType} (hi : i ∈ e.children) (ht : check i = .ok t)
    (h : t.dataType.widensTo expected = false) : Raises c check e (.invalidType expected t.dataType i.span)
  /-- Operands of a common type that has no order. -/
  | unordered {s : Span} {op : BinaryOp} {l r : Expr} {t u : TypedExpr} {common : DataType}
    (hrule : c.functions.binary op = some .comparison) (hl : check l = .ok t) (hr : check r = .ok u)
    (hcommon : t.dataType.widen u.dataType = some common) (h : op.outputType t.dataType u.dataType = none) :
    Raises c check (.binary s op l r) (.invalidType .number common l.span)
  /-- Operands without a common type. -/
  | conflict {e : Expr} {ts : List TypedExpr} (hts : List.Forall₂ (fun i t => check i = .ok t) e.compared ts)
    (hne : ts ≠ []) (h : DataType.widenAll (ts.map TypedExpr.dataType) = none) :
    Raises c check e (.conflictingTypes (distinctTypes (ts.map TypedExpr.dataType)) e.span)

/-! ### How operands fit -/

section Operands

variable {c : Checker} {check : Check} {e i l r : Expr} {t : TypedExpr}

theorem operand_settled (hi : i ∈ e.children) :
    Settled (c.Raises check e) (fun t => check i = .ok t) (check i) := by
  cases h : check i with
  | ok t => exact .ok rfl
  | error err => exact .error (.inside hi h)

theorem requireType_settled (expected : DataType) (hi : i ∈ e.children) (ht : check i = .ok t) :
    Settled (c.Raises check e) (fun u => check i = .ok u) (requireType expected t i.span) := by
  unfold requireType
  split
  · exact .ok ht
  · next h => exact .error (.misfit hi ht (Bool.eq_false_iff.2 h))

theorem commonType_settled {ts : List TypedExpr} (hts : List.Forall₂ (fun i t => check i = .ok t) e.compared ts)
    (hne : ts ≠ []) :
    Settled (c.Raises check e) (fun common => DataType.widenAll (ts.map TypedExpr.dataType) = some common)
      (commonType ts e.span) := by
  unfold commonType
  split
  · next h => exact .ok h
  · next h => exact .error (.conflict hts hne h)

theorem checkPair_settled (expected : DataType) (hl : l ∈ e.children) (hr : r ∈ e.children) :
    Settled (c.Raises check e) (fun p => check l = .ok p.1 ∧ check r = .ok p.2) (checkPair check expected l r) := by
  refine (operand_settled hl).bind fun t ht => (operand_settled hr).bind fun u hu => ?_
  refine (requireType_settled expected hl ht).bind fun t ht => ?_
  exact (requireType_settled expected hr hu).bind fun u hu => .ok ⟨ht, hu⟩

theorem checkArgument_settled (expected : DataType) (hi : i ∈ e.children) :
    Settled (c.Raises check e) (fun t => check i = .ok t) (checkArgument check expected i) :=
  (operand_settled hi).bind fun _ ht => requireType_settled expected hi ht

end Operands

/-! ### Operators and choices -/

section Rules

variable {c : Checker} {check : Check}

theorem checkUnary_settled (s : Span) (rule : UnaryRule) (op : UnaryOp) (i : Expr) :
    Settled (c.Raises check (.unary s op i)) (Builds check (.unary s op i)) (checkUnary check rule op i) := by
  have hi : i ∈ (Expr.unary s op i).children := List.mem_singleton_self i
  cases rule with
  | logical =>
    exact (operand_settled hi).bind fun t ht => (requireType_settled .boolean hi ht).bind fun t ht => .ok (.unary _ ht)
  | sign =>
    exact (operand_settled hi).bind fun t ht => (requireType_settled .number hi ht).bind fun t ht => .ok (.unary _ ht)

theorem checkBinary_settled (s : Span) {rule : BinaryRule} {op : BinaryOp} (l r : Expr)
    (hrule : c.functions.binary op = some rule) :
    Settled (c.Raises check (.binary s op l r)) (Builds check (.binary s op l r))
      (checkBinary check rule op l r s) := by
  have hl : l ∈ (Expr.binary s op l r).children := List.mem_cons_self
  have hr : r ∈ (Expr.binary s op l r).children := List.mem_cons_of_mem l List.mem_cons_self
  cases rule with
  | logical => exact (checkPair_settled .boolean hl hr).bind fun p hp => .ok (.binary _ hp.1 hp.2)
  | arithmetic => exact (checkPair_settled .number hl hr).bind fun p hp => .ok (.binary _ hp.1 hp.2)
  | concatenation => exact (checkPair_settled .string hl hr).bind fun p hp => .ok (.binary _ hp.1 hp.2)
  | comparison =>
    refine (operand_settled hl).bind fun t ht => (operand_settled hr).bind fun u hu => ?_
    have hts : List.Forall₂ (fun i t => check i = .ok t) (Expr.binary s op l r).compared [t, u] :=
      .cons ht (.cons hu .nil)
    refine (commonType_settled hts (List.cons_ne_nil _ _)).bind fun common hcommon => ?_
    have hcommon : t.dataType.widen u.dataType = some common := by simpa [DataType.widenAll] using hcommon
    split
    · exact .ok (.binary _ ht hu)
    · next h => exact .error (.unordered hrule ht hu hcommon h)

theorem checkConditional_settled (s : Span) (i a b : Expr) :
    Settled (c.Raises check (.conditional s i a b)) (Builds check (.conditional s i a b))
      (checkConditional check i a b s) := by
  have hi : i ∈ (Expr.conditional s i a b).children := by simp [Expr.children]
  have ha : a ∈ (Expr.conditional s i a b).children := by simp [Expr.children]
  have hb : b ∈ (Expr.conditional s i a b).children := by simp [Expr.children]
  refine (operand_settled hi).bind fun t ht => (requireType_settled .boolean hi ht).bind fun t ht => ?_
  refine (operand_settled ha).bind fun u hu => (operand_settled hb).bind fun v hv => ?_
  have hts : List.Forall₂ (fun i t => check i = .ok t) (Expr.conditional s i a b).compared [u, v] :=
    .cons hu (.cons hv .nil)
  exact (commonType_settled hts (List.cons_ne_nil _ _)).bind fun common _ => .ok (.conditional _ ht hu hv)

end Rules

/-! ### Calls -/

section Calls

variable {c : Checker} {check : Check} {e : Expr} {s : Span} {x : String}

theorem checkOptional_settled (expected : DataType) (arg : Option Expr) (harg : ∀ i ∈ arg, i ∈ e.children) :
    Settled (c.Raises check e) (fun o => Arguments check arg.toList o.toList) (checkOptional check expected arg) := by
  cases arg with
  | none => exact .ok .nil
  | some i =>
    simp only [checkOptional]
    split
    · next h => exact .ok (.omitted h .nil)
    · exact (checkArgument_settled expected (harg i rfl)).bind fun t ht => .ok (.given ht .nil)

theorem checkBetween_settled (i l u : Expr) :
    Settled (c.Raises check (.call s x [i, l, u])) (Builds check (.call s x [i, l, u]))
      (checkBetween check i l u s) := by
  have hi : i ∈ (Expr.call s x [i, l, u]).children := by simp [Expr.children]
  have hl : l ∈ (Expr.call s x [i, l, u]).children := by simp [Expr.children]
  have hu : u ∈ (Expr.call s x [i, l, u]).children := by simp [Expr.children]
  refine (operand_settled hi).bind fun t ht => (operand_settled hl).bind fun lower hlower => ?_
  refine (operand_settled hu).bind fun upper hupper => ?_
  have hts : List.Forall₂ (fun i t => check i = .ok t) (Expr.call s x [i, l, u]).compared [t, lower, upper] :=
    .cons ht (.cons hlower (.cons hupper .nil))
  refine (commonType_settled hts (List.cons_ne_nil _ _)).bind fun common hcommon => ?_
  split
  · exact .ok (.call (.given ht (.given hlower (.given hupper .nil))))
  · next h =>
    have hnumeric : common.isNumeric = false := Bool.eq_false_iff.2 h
    simp only [List.map_cons, List.map_nil, DataType.widenAll, List.foldlM_cons, List.foldlM_nil,
      Option.bind_eq_bind, Option.bind_eq_some_iff, Option.pure_def, Option.some.injEq] at hcommon
    obtain ⟨first, hfirst, _, hlast, rfl⟩ := hcommon
    obtain ⟨rfl, -⟩ := DataType.eq_of_widen hlast hnumeric
    obtain ⟨rfl, -⟩ := DataType.eq_of_widen hfirst hnumeric
    exact .error (.misfit hi ht (DataType.widensTo_number_eq_false hnumeric))

theorem checkSubstring_settled (i : Expr) (a b : Option Expr) :
    Settled (c.Raises check (.call s x (i :: (a.toList ++ b.toList))))
      (Builds check (.call s x (i :: (a.toList ++ b.toList)))) (checkSubstring check i a b) := by
  refine (checkArgument_settled .string (by simp [Expr.children])).bind fun t ht => ?_
  refine (checkOptional_settled .integer a (by simp +contextual [Expr.children])).bind fun first hfirst => ?_
  refine (checkOptional_settled .integer b (by simp +contextual [Expr.children])).bind fun last hlast => ?_
  exact .ok (.call (.given ht (hfirst.append hlast)))

theorem checkReplacement_settled (i p : Expr) (a : Option Expr) :
    Settled (c.Raises check (.call s x (i :: p :: a.toList))) (Builds check (.call s x (i :: p :: a.toList)))
      (checkReplacement check i p a) := by
  refine (checkArgument_settled .string (by simp [Expr.children])).bind fun t ht => ?_
  refine (checkArgument_settled .string (by simp [Expr.children])).bind fun u hu => ?_
  refine (checkOptional_settled .string a (by simp +contextual [Expr.children])).bind fun v hv => ?_
  exact .ok (.call (.given ht (.given hu hv)))

theorem checkOccurrence_settled (i p : Expr) (a b : Option Expr) :
    Settled (c.Raises check (.call s x (i :: p :: (a.toList ++ b.toList))))
      (Builds check (.call s x (i :: p :: (a.toList ++ b.toList)))) (checkOccurrence check i p a b) := by
  refine (checkArgument_settled .string (by simp [Expr.children])).bind fun t ht => ?_
  refine (checkArgument_settled .string (by simp [Expr.children])).bind fun u hu => ?_
  refine (checkOptional_settled .integer a (by simp +contextual [Expr.children])).bind fun start hstart => ?_
  refine (checkOptional_settled .integer b (by simp +contextual [Expr.children])).bind fun n hn => ?_
  exact .ok (.call (.given ht (.given hu (hstart.append hn))))

theorem checkCall_settled {rule : CallRule} (args : List Expr)
    (hrule : c.functions.call? (Text.toLower x) = some rule) :
    Settled (c.Raises check (.call s x args)) (Builds check (.call s x args))
      (checkCall check rule (Text.toLower x) args s) := by
  -- Every number of arguments that a rule is not made for is outside the range that it allows.
  have hcount : ∀ least most, args.length < least ∨ most < args.length →
      Settled (c.Raises check (.call s x args)) (Builds check (.call s x args))
        (.error (.argumentCount (Text.toLower x) least most args.length s)) :=
    fun least most h => .error (.count h)
  cases rule with
  | between =>
    match args with
    | [i, l, u] => exact checkBetween_settled i l u
    | [] | [_] | [_, _] | _ :: _ :: _ :: _ :: _ => exact hcount 3 3 (by simp only [List.length]; omega)
  | matching =>
    match args with
    | [i, p] =>
      exact (checkPair_settled .string List.mem_cons_self (List.mem_cons_of_mem i List.mem_cons_self)).bind
        fun _ h => .ok (.call (.given h.1 (.given h.2 .nil)))
    | [] | [_] | _ :: _ :: _ :: _ => exact hcount 2 2 (by simp only [List.length]; omega)
  | nullTest =>
    match args with
    | [i] => exact (operand_settled List.mem_cons_self).bind fun _ h => .ok (.call (.given h .nil))
    | [] | _ :: _ :: _ => exact hcount 1 1 (by simp only [List.length]; omega)
  | text =>
    simp only [checkCall]
    cases htext : textOperation? (Text.toLower x) with
    | none => exact .error (.noCall (.inr ⟨hrule, htext⟩))
    | some op =>
      match args with
      | [i] => exact (checkArgument_settled .string List.mem_cons_self).bind fun _ h => .ok (.call (.given h .nil))
      | [] | _ :: _ :: _ => exact hcount 1 1 (by simp only [List.length]; omega)
  | substring =>
    match args with
    | [i] => exact checkSubstring_settled i none none
    | [i, a] => exact checkSubstring_settled i (some a) none
    | [i, a, b] => exact checkSubstring_settled i (some a) (some b)
    | [] | _ :: _ :: _ :: _ :: _ => exact hcount 1 3 (by simp only [List.length]; omega)
  | replacement =>
    match args with
    | [i, p] => exact checkReplacement_settled i p none
    | [i, p, a] => exact checkReplacement_settled i p (some a)
    | [] | [_] | _ :: _ :: _ :: _ :: _ => exact hcount 2 3 (by simp only [List.length]; omega)
  | occurrence =>
    match args with
    | [i, p] => exact checkOccurrence_settled i p none none
    | [i, p, a] => exact checkOccurrence_settled i p (some a) none
    | [i, p, a, b] => exact checkOccurrence_settled i p (some a) (some b)
    | [] | [_] | _ :: _ :: _ :: _ :: _ :: _ => exact hcount 2 4 (by simp only [List.length]; omega)

end Calls

/-- Of an expression comes a typed one of its form or an error that it may raise, and nothing else. -/
theorem checkNode_settled (c : Checker) (check : Check) (e : Expr) :
    Settled (c.Raises check e) (Builds check e) (c.checkNode check e) := by
  cases e with
  | literal s v => exact .ok (.literal s v)
  | «variable» s x =>
    simp only [checkNode]
    split
    · next t h => exact .ok (.variable s x t)
    · next h => exact .error (.undefined h)
  | parens s i =>
    have hi : Settled (c.Raises check (.parens s i)) (fun t => check i = .ok t) (check i) :=
      operand_settled (List.mem_singleton_self i)
    exact hi.mono (fun _ h => h) fun _ h => .parens h
  | unary s op i =>
    simp only [checkNode]
    split
    · next rule _ => exact checkUnary_settled s rule op i
    · next h => exact .error (.noUnary h)
  | binary s op l r =>
    simp only [checkNode]
    split
    · next hrule => exact checkBinary_settled s l r hrule
    · next h => exact .error (.noBinary h)
  | conditional s i a b => exact checkConditional_settled s i a b
  | call s x args =>
    simp only [checkNode]
    split
    · next hrule => exact checkCall_settled args hrule
    · next h => exact .error (.noCall (.inl h))
  | omitted s => exact .error (.omitted s)

end Checker

end AssignScript
