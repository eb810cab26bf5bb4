import Mathlib.Data.List.Forall2
import AssignScript.Checker
import AssignScript.Proofs.Syntax.Shape

/-!
# Two checks side by side

The checker treats the parts of an expression alike, whatever they are: what it makes of a node depends on what
it makes of the parts, and of those on their types only. So the checks of two expressions of one form, by two
checkers, run side by side, as long as the checks of the parts do. What is compared is a parameter: the typed
expressions, the errors and the spans they point at may be equal, or related in another way.

## Main definitions

* `Expr.mapChildren`: an expression with other parts and another span;
* `TypedExpr.Congruence`: relations that hold of typed expressions if they hold of their parts;
* `Comparison`, `Comparison.Related`: how outcomes of two checks are compared.

## Main statements

* `Checker.checkNode_related`: two checks of a node run side by side if those of its parts do.
-/

namespace AssignScript

/-- An expression with a function applied to the parts right inside it, and one to its span. -/
def Expr.mapChildren (f : Expr → Expr) (g : Span → Span) : Expr → Expr
  | .literal s v => .literal (g s) v
  | .variable s x => .variable (g s) x
  | .parens s e => .parens (g s) (f e)
  | .unary s op e => .unary (g s) op (f e)
  | .binary s op l r => .binary (g s) op (f l) (f r)
  | .conditional s c a b => .conditional (g s) (f c) (f a) (f b)
  | .call s x args => .call (g s) x (args.map f)
  | .omitted s => .omitted (g s)

@[simp] theorem Expr.mapChildren_id (e : Expr) : e.mapChildren id id = e := by
  cases e <;> simp [mapChildren]

/-! ### What is compared -/

/-- Errors of a rule with the same cause, which point at spans that correspond. That the limit of nesting is
    reached is no matter of rules. -/
inductive SemanticError.Alike (spans : Span → Span → Prop) : SemanticError → SemanticError → Prop where
  | undefinedVariable (name : String) {s s' : Span} (h : spans s s') :
    Alike spans (.undefinedVariable name s) (.undefinedVariable name s')
  | invalidType (expected actual : DataType) {s s' : Span} (h : spans s s') :
    Alike spans (.invalidType expected actual s) (.invalidType expected actual s')
  | conflictingTypes (types : List DataType) {s s' : Span} (h : spans s s') :
    Alike spans (.conflictingTypes types s) (.conflictingTypes types s')
  | unknownFunction (name : String) {s s' : Span} (h : spans s s') :
    Alike spans (.unknownFunction name s) (.unknownFunction name s')
  | argumentCount (function : String) (least most actual : Nat) {s s' : Span} (h : spans s s') :
    Alike spans (.argumentCount function least most actual s) (.argumentCount function least most actual s')
  | missingOperand {s s' : Span} (h : spans s s') : Alike spans (.missingOperand s) (.missingOperand s')

/-- Relations between typed expressions of one type that hold of two nodes if they hold of their parts. -/
structure TypedExpr.Congruence (R : TypedExpr → TypedExpr → Prop) : Prop where
  dataType_eq : ∀ {e e'}, R e e' → e.dataType = e'.dataType
  constant : ∀ v, R (.constant v) (.constant v)
  unary : ∀ {e e'} t op, R e e' → R (.unary t op e) (.unary t op e')
  binary : ∀ {l l' r r'} t op, R l l' → R r r' → R (.binary t op l r) (.binary t op l' r')
  between : ∀ {e e' l l' u u'} t, R e e' → R l l' → R u u' → R (.between t e l u) (.between t e' l' u')
  substr : ∀ {e e' a a' b b'} t, R e e' → Option.Rel R a a' → Option.Rel R b b' →
    R (.substr t e a b) (.substr t e' a' b')
  replace : ∀ {e e' p p' a a'} t, R e e' → R p p' → Option.Rel R a a' →
    R (.replace t e p a) (.replace t e' p' a')
  instr : ∀ {e e' p p' a a' b b'} t, R e e' → R p p' → Option.Rel R a a' → Option.Rel R b b' →
    R (.instr t e p a b) (.instr t e' p' a' b')
  conditional : ∀ {c c' a a' b b'} t, R c c' → R a a' → R b b' →
    R (.conditional t c a b) (.conditional t c' a' b')

theorem option_eq_of_rel {α : Type} {o o' : Option α} (h : Option.Rel (· = ·) o o') : o = o' := by
  cases h with
  | none => rfl
  | some h => rw [h]

/-- Equality is such a relation. -/
theorem TypedExpr.congruence_eq : TypedExpr.Congruence (· = ·) where
  dataType_eq h := by rw [h]
  constant _ := rfl
  unary _ _ h := by rw [h]
  binary _ _ hl hr := by rw [hl, hr]
  between _ he hl hu := by rw [he, hl, hu]
  substr _ he ha hb := by rw [he, option_eq_of_rel ha, option_eq_of_rel hb]
  replace _ he hp ha := by rw [he, hp, option_eq_of_rel ha]
  instr _ he hp ha hb := by rw [he, hp, option_eq_of_rel ha, option_eq_of_rel hb]
  conditional _ hc ha hb := by rw [hc, ha, hb]

/-- How the outcomes of two checks are compared. -/
structure Comparison where
  /-- The errors for which the first check may stop by itself. -/
  stops : SemanticError → Prop
  /-- The errors with which both may fail. -/
  errors : SemanticError → SemanticError → Prop
  /-- The spans that correspond. -/
  spans : Span → Span → Prop
  /-- The typed expressions that correspond. -/
  trees : TypedExpr → TypedExpr → Prop
  errors_of_alike : ∀ {e e'}, e.Alike spans e' → errors e e'
  congruence : TypedExpr.Congruence trees

namespace Comparison

variable {K : Comparison}

/-- Outcomes side by side: the first check stops by itself, or both fail, or both succeed. -/
inductive Related (K : Comparison) {α β : Type} (R : α → β → Prop) : Checked α → Checked β → Prop where
  | stop {e : SemanticError} {y : Checked β} (h : K.stops e) : Related K R (.error e) y
  | error {e e' : SemanticError} (h : K.errors e e') : Related K R (.error e) (.error e')
  | ok {a : α} {b : β} (h : R a b) : Related K R (.ok a) (.ok b)

namespace Related

variable {α β α' β' : Type} {R : α → β → Prop} {R' : α' → β' → Prop} {x : Checked α} {y : Checked β}

theorem alike {e e' : SemanticError} (h : e.Alike K.spans e') : K.Related R (.error e) (.error e') :=
  .error (K.errors_of_alike h)

/-- Steps that run side by side one after the other do so together. -/
theorem bind {f : α → Checked α'} {f' : β → Checked β'} (h : K.Related R x y)
    (hf : ∀ a b, R a b → K.Related R' (f a) (f' b)) : K.Related R' (x >>= f) (y >>= f') := by
  cases h with
  | stop h => exact .stop h
  | error h => exact .error h
  | ok h => exact hf _ _ h

end Related

/-- Operands whose checks run side by side. -/
structure Operands (K : Comparison) (check check' : Check) (e e' : Expr) : Prop where
  span : K.spans e.span e'.span
  isOmitted : e.isOmitted = e'.isOmitted
  outcome : K.Related K.trees (check e) (check' e')

/-! ### Rules -/

section Rules

variable {check check' : Check} {e e' l l' r r' : Expr}

theorem requireType_related (expected : DataType) {t t' : TypedExpr} {span span' : Span} (h : K.trees t t')
    (hspan : K.spans span span') :
    K.Related K.trees (requireType expected t span) (requireType expected t' span') := by
  unfold requireType
  rw [K.congruence.dataType_eq h]
  split
  · exact .ok h
  · exact .alike (.invalidType _ _ hspan)

theorem commonType_related {ts ts' : List TypedExpr} {span span' : Span}
    (h : ts.map TypedExpr.dataType = ts'.map TypedExpr.dataType) (hspan : K.spans span span') :
    K.Related (· = ·) (commonType ts span) (commonType ts' span') := by
  unfold commonType
  rw [h]
  split
  · exact .ok rfl
  · exact .alike (.conflictingTypes _ hspan)

/-- An operand of a type. -/
theorem checkArgument_related (h : K.Operands check check' e e') (expected : DataType) :
    K.Related K.trees (checkArgument check expected e) (checkArgument check' expected e') :=
  h.outcome.bind fun _ _ ht => requireType_related expected ht h.span

theorem checkPair_related (hl : K.Operands check check' l l') (hr : K.Operands check check' r r')
    (expected : DataType) :
    K.Related (fun p p' => K.trees p.1 p'.1 ∧ K.trees p.2 p'.2) (checkPair check expected l r)
      (checkPair check' expected l' r') := by
  refine hl.outcome.bind fun _ _ hl' => hr.outcome.bind fun _ _ hr' => ?_
  refine (requireType_related expected hl' hl.span).bind fun _ _ hl' => ?_
  exact (requireType_related expected hr' hr.span).bind fun _ _ hr' => .ok ⟨hl', hr'⟩

theorem checkUnary_related (h : K.Operands check check' e e') (rule : UnaryRule) (op : UnaryOp) :
    K.Related K.trees (checkUnary check rule op e) (checkUnary check' rule op e') := by
  cases rule with
  | logical =>
    refine h.outcome.bind fun t t' ht => (requireType_related .boolean ht h.span).bind fun t t' ht => .ok ?_
    rw [K.congruence.dataType_eq ht]
    exact K.congruence.unary _ op ht
  | sign =>
    refine h.outcome.bind fun t t' ht => (requireType_related .number ht h.span).bind fun t t' ht => .ok ?_
    rw [K.congruence.dataType_eq ht]
    exact K.congruence.unary _ op ht

theorem checkBinary_related (hl : K.Operands check check' l l') (hr : K.Operands check check' r r')
    (rule : BinaryRule) (op : BinaryOp) {span span' : Span} (hspan : K.spans span span') :
    K.Related K.trees (checkBinary check rule op l r span) (checkBinary check' rule op l' r' span') := by
  cases rule with
  | logical =>
    refine (checkPair_related hl hr .boolean).bind fun p p' hp => .ok ?_
    rw [K.congruence.dataType_eq hp.1, K.congruence.dataType_eq hp.2]
    exact K.congruence.binary _ op hp.1 hp.2
  | arithmetic =>
    refine (checkPair_related hl hr .number).bind fun p p' hp => .ok ?_
    rw [K.congruence.dataType_eq hp.1, K.congruence.dataType_eq hp.2]
    exact K.congruence.binary _ op hp.1 hp.2
  | concatenation =>
    exact (checkPair_related hl hr .string).bind fun p p' hp => .ok (K.congruence.binary _ op hp.1 hp.2)
  | comparison =>
    refine hl.outcome.bind fun t t' ht => hr.outcome.bind fun u u' hu => ?_
    have htypes : [t, u].map TypedExpr.dataType = [t', u'].map TypedExpr.dataType := by
      simp only [List.map_cons, List.map_nil, K.congruence.dataType_eq ht, K.congruence.dataType_eq hu]
    refine (commonType_related htypes hspan).bind fun common _ hcommon => ?_
    subst hcommon
    rw [K.congruence.dataType_eq ht, K.congruence.dataType_eq hu]
    split
    · exact .ok (K.congruence.binary _ op ht hu)
    -- Only the error of the last step points at an operand.
    · exact .alike (.invalidType _ _ hl.span)

theorem checkConditional_related {c c' : Expr} (hc : K.Operands check check' c c')
    (hl : K.Operands check check' l l') (hr : K.Operands check check' r r') {span span' : Span}
    (hspan : K.spans span span') :
    K.Related K.trees (checkConditional check c l r span) (checkConditional check' c' l' r' span') := by
  refine hc.outcome.bind fun _ _ hc' => (requireType_related .boolean hc' hc.span).bind fun c c' hc' => ?_
  refine hl.outcome.bind fun t t' ht => hr.outcome.bind fun u u' hu => ?_
  have htypes : [t, u].map TypedExpr.dataType = [t', u'].map TypedExpr.dataType := by
    simp only [List.map_cons, List.map_nil, K.congruence.dataType_eq ht, K.congruence.dataType_eq hu]
  refine (commonType_related htypes hspan).bind fun common _ hcommon => .ok ?_
  subst hcommon
  exact K.congruence.conditional _ hc' ht hu

/-! ### Calls -/

theorem checkOptional_related {arg arg' : Option Expr} (h : Option.Rel (K.Operands check check') arg arg')
    (expected : DataType) :
    K.Related (Option.Rel K.trees) (checkOptional check expected arg)
      (checkOptional check' expected arg') := by
  cases h with
  | none => exact .ok .none
  | some h =>
    simp only [checkOptional, h.isOmitted]
    split
    · exact .ok .none
    · exact (checkArgument_related h expected).bind fun _ _ ht => .ok (.some ht)

theorem checkBetween_related {u u' : Expr} (he : K.Operands check check' e e')
    (hl : K.Operands check check' l l') (hu : K.Operands check check' u u') {span span' : Span}
    (hspan : K.spans span span') :
    K.Related K.trees (checkBetween check e l u span) (checkBetween check' e' l' u' span') := by
  refine he.outcome.bind fun a a' ha => hl.outcome.bind fun b b' hb => hu.outcome.bind fun c c' hc => ?_
  have htypes : [a, b, c].map TypedExpr.dataType = [a', b', c'].map TypedExpr.dataType := by
    simp only [List.map_cons, List.map_nil, K.congruence.dataType_eq ha, K.congruence.dataType_eq hb,
      K.congruence.dataType_eq hc]
  refine (commonType_related htypes hspan).bind fun common _ hcommon => ?_
  subst hcommon
  split
  · exact .ok (K.congruence.between _ ha hb hc)
  · exact .alike (.invalidType _ _ he.span)

theorem checkText_related (h : K.Operands check check' e e') (op : UnaryOp) :
    K.Related K.trees (checkText check op e) (checkText check' op e') := by
  refine (checkArgument_related h .string).bind fun t t' ht => .ok ?_
  rw [K.congruence.dataType_eq ht]
  exact K.congruence.unary _ op ht

variable {a a' b b' : Option Expr}

theorem checkSubstring_related (he : K.Operands check check' e e')
    (ha : Option.Rel (K.Operands check check') a a') (hb : Option.Rel (K.Operands check check') b b') :
    K.Related K.trees (checkSubstring check e a b) (checkSubstring check' e' a' b') :=
  (checkArgument_related he .string).bind fun _ _ he => (checkOptional_related ha .integer).bind fun _ _ ha =>
    (checkOptional_related hb .integer).bind fun _ _ hb => .ok (K.congruence.substr _ he ha hb)

theorem checkReplacement_related (he : K.Operands check check' e e') (hp : K.Operands check check' l l')
    (ha : Option.Rel (K.Operands check check') a a') :
    K.Related K.trees (checkReplacement check e l a) (checkReplacement check' e' l' a') :=
  (checkArgument_related he .string).bind fun _ _ he => (checkArgument_related hp .string).bind fun _ _ hp =>
    (checkOptional_related ha .string).bind fun _ _ ha => .ok (K.congruence.replace _ he hp ha)

theorem checkOccurrence_related (he : K.Operands check check' e e') (hp : K.Operands check check' l l')
    (ha : Option.Rel (K.Operands check check') a a') (hb : Option.Rel (K.Operands check check') b b') :
    K.Related K.trees (checkOccurrence check e l a b) (checkOccurrence check' e' l' a' b') :=
  (checkArgument_related he .string).bind fun _ _ he => (checkArgument_related hp .string).bind fun _ _ hp =>
    (checkOptional_related ha .integer).bind fun _ _ ha =>
      (checkOptional_related hb .integer).bind fun _ _ hb => .ok (K.congruence.instr _ he hp ha hb)

theorem checkCall_related {args args' : List Expr} (h : List.Forall₂ (K.Operands check check') args args')
    (rule : CallRule) (name : String) {span span' : Span} (hspan : K.spans span span') :
    K.Related K.trees (checkCall check rule name args span) (checkCall check' rule name args' span') := by
  -- Other numbers of arguments are rejected alike.
  have hcount : ∀ least most, K.Related K.trees
      (.error (.argumentCount name least most args.length span) : Checked TypedExpr)
      (.error (.argumentCount name least most args'.length span')) := by
    intro least most
    rw [h.length_eq]
    exact .alike (.argumentCount _ _ _ _ hspan)
  cases rule with
  | between =>
    match h with
    | .cons he (.cons hl (.cons hu .nil)) => exact checkBetween_related he hl hu hspan
    | .nil | .cons _ .nil | .cons _ (.cons _ .nil) | .cons _ (.cons _ (.cons _ (.cons _ _))) => exact hcount 3 3
  | matching =>
    match h with
    | .cons he (.cons hp .nil) =>
      exact (checkPair_related he hp .string).bind fun _ _ h => .ok (K.congruence.binary _ _ h.1 h.2)
    | .nil | .cons _ .nil | .cons _ (.cons _ (.cons _ _)) => exact hcount 2 2
  | nullTest =>
    match h with
    | .cons he .nil => exact he.outcome.bind fun _ _ h => .ok (K.congruence.unary _ _ h)
    | .nil | .cons _ (.cons _ _) => exact hcount 1 1
  | text =>
    simp only [checkCall]
    cases textOperation? name with
    | none => exact .alike (.unknownFunction _ hspan)
    | some op =>
      match h with
      | .cons he .nil => exact checkText_related he op
      | .nil | .cons _ (.cons _ _) => exact hcount 1 1
  | substring =>
    match h with
    | .cons he .nil => exact checkSubstring_related he .none .none
    | .cons he (.cons ha .nil) => exact checkSubstring_related he (.some ha) .none
    | .cons he (.cons ha (.cons hb .nil)) => exact checkSubstring_related he (.some ha) (.some hb)
    | .nil | .cons _ (.cons _ (.cons _ (.cons _ _))) => exact hcount 1 3
  | replacement =>
    match h with
    | .cons he (.cons hp .nil) => exact checkReplacement_related he hp .none
    | .cons he (.cons hp (.cons ha .nil)) => exact checkReplacement_related he hp (.some ha)
    | .nil | .cons _ .nil | .cons _ (.cons _ (.cons _ (.cons _ _))) => exact hcount 2 3
  | occurrence =>
    match h with
    | .cons he (.cons hp .nil) => exact checkOccurrence_related he hp .none .none
    | .cons he (.cons hp (.cons ha .nil)) => exact checkOccurrence_related he hp (.some ha) .none
    | .cons he (.cons hp (.cons ha (.cons hb .nil))) =>
      exact checkOccurrence_related he hp (.some ha) (.some hb)
    | .nil | .cons _ .nil | .cons _ (.cons _ (.cons _ (.cons _ (.cons _ _)))) => exact hcount 2 4

end Rules

end Comparison

/-! ### Nodes -/

namespace Checker

open Comparison Comparison.Related

/-- Two checkers that find the same type or the same rule for what a node names itself. -/
def SeesAlike (c c' : Checker) : Expr → Prop
  | .variable _ x => c.declarations.get? x = c'.declarations.get? x
  | .unary _ op _ => c.functions.unary op = c'.functions.unary op
  | .binary _ op _ _ => c.functions.binary op = c'.functions.binary op
  | .call _ x _ => c.functions.call? (Text.toLower x) = c'.functions.call? (Text.toLower x)
  | .literal _ _ | .parens _ _ | .conditional _ _ _ _ | .omitted _ => True

theorem seesAlike_self (c : Checker) (e : Expr) : c.SeesAlike c e := by
  cases e <;> first | rfl | trivial

/-- Two checks of nodes of one form, over a pattern of which both are images, run side by side if those of the
    parts do. -/
theorem checkNode_related {K : Comparison} {c c' : Checker} {check check' : Check} {f f' : Expr → Expr}
    {g g' : Span → Span} {e : Expr} (hsees : c.SeesAlike c' e)
    (hvariable : ∀ s x t, e = .variable s x → c.declarations.get? x = some t → K.trees (.var t x) (.var t x))
    (hspan : K.spans (g e.span) (g' e.span))
    (hchildren : ∀ i ∈ e.children, K.Operands check check' (f i) (f' i)) :
    K.Related K.trees (c.checkNode check (e.mapChildren f g)) (c'.checkNode check' (e.mapChildren f' g')) := by
  cases e with
  | literal s v => exact .ok (K.congruence.constant _)
  | «variable» s x =>
    change c.declarations.get? x = c'.declarations.get? x at hsees
    simp only [Expr.mapChildren, checkNode, ← hsees]
    cases hx : c.declarations.get? x with
    | some t => exact .ok (hvariable s x t rfl hx)
    | none => exact .alike (.undefinedVariable _ hspan)
  | parens s i => exact (hchildren i (by simp [Expr.children])).outcome
  | unary s op i =>
    change c.functions.unary op = c'.functions.unary op at hsees
    simp only [Expr.mapChildren, checkNode, ← hsees]
    cases c.functions.unary op with
    | some rule => exact checkUnary_related (hchildren i (by simp [Expr.children])) rule op
    | none => exact .alike (.unknownFunction _ hspan)
  | binary s op l r =>
    change c.functions.binary op = c'.functions.binary op at hsees
    simp only [Expr.mapChildren, checkNode, ← hsees]
    cases c.functions.binary op with
    | some rule =>
      exact checkBinary_related (hchildren l (by simp [Expr.children]))
        (hchildren r (by simp [Expr.children])) rule op hspan
    | none => exact .alike (.unknownFunction _ hspan)
  | conditional s a l r =>
    exact checkConditional_related (hchildren a (by simp [Expr.children]))
      (hchildren l (by simp [Expr.children])) (hchildren r (by simp [Expr.children])) hspan
  | call s x args =>
    change c.functions.call? (Text.toLower x) = c'.functions.call? (Text.toLower x) at hsees
    simp only [Expr.mapChildren, checkNode, ← hsees]
    cases c.functions.call? (Text.toLower x) with
    | some rule =>
      refine checkCall_related ?_ rule (Text.toLower x) hspan
      rw [List.forall₂_map_left_iff, List.forall₂_map_right_iff, List.forall₂_same]
      exact hchildren
    | none => exact .alike (.unknownFunction _ hspan)
  | omitted s => exact .alike (.missingOperand hspan)

/-- The checks of a node and of an image of it. -/
theorem checkNode_mapChildren_related {K : Comparison} {c c' : Checker} {check check' : Check} {f : Expr → Expr}
    {g : Span → Span} {e : Expr} (hsees : c.SeesAlike c' e)
    (hvariable : ∀ s x t, e = .variable s x → c.declarations.get? x = some t → K.trees (.var t x) (.var t x))
    (hspan : K.spans e.span (g e.span))
    (hchildren : ∀ i ∈ e.children, K.Operands check check' i (f i)) :
    K.Related K.trees (c.checkNode check e) (c'.checkNode check' (e.mapChildren f g)) := by
  have h := checkNode_related (f := id) (g := id) hsees hvariable hspan hchildren
  rwa [Expr.mapChildren_id] at h

end Checker

end AssignScript
