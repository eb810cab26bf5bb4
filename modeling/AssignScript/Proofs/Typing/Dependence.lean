import AssignScript.Proofs.Pattern.Fragment
import AssignScript.Proofs.Typing.Meaning
import AssignScript.Proofs.Typing.WellTyped

/-!
# What checking and evaluation look at

The check of an expression looks up the types of its own variables and the rules of its own operators and functions,
and nothing else. The evaluation of a typed expression looks up the names in it, and where it makes a choice, only
those of the condition and of the branch that is taken.

## Main definitions

* `Checker.AgreeOn`: checkers that see every node of an expression alike;
* `TypedExpr.lookups`: the names that an evaluation looks up;
* `Context.AgreeOn`: contexts that hold the same for some names.

## Main statements

* `Checker.check_congr`: checkers that agree on an expression make the same of it;
* `TypedExpr.eval_congr_lookups`: contexts that agree on what is looked up give the same value or error;
* `Checker.check_eval_congr`: checking and evaluation depend only on what the expression mentions.
-/

namespace AssignScript

/-! ### Checking -/

theorem SemanticError.eq_of_alike {e e' : SemanticError} (h : e.Alike (· = ·) e') : e = e' := by
  cases h <;> rename_i h <;> rw [h]

/-- One check beside another one that makes the same of everything. -/
def Comparison.equal : Comparison where
  stops _ := False
  errors := (· = ·)
  spans := (· = ·)
  trees := (· = ·)
  errors_of_alike := @SemanticError.eq_of_alike
  congruence := TypedExpr.congruence_eq

theorem Comparison.related_equal_iff {x y : Checked TypedExpr} :
    Comparison.equal.Related (· = ·) x y ↔ x = y := by
  constructor
  · rintro (⟨⟨⟩⟩ | h | h)
    · exact congrArg Except.error h
    · exact congrArg Except.ok h
  · rintro rfl
    cases x with
    | ok t => exact .ok rfl
    | error e => exact .error rfl

/-- What stands in an expression inside another stands in the other. -/
theorem Expr.Inside.mem_names {n e : Expr} (h : n.Inside e) {x : String} (hx : x ∈ n.names) : x ∈ e.names := by
  induction h with
  | self => exact hx
  | child hc _ ih => exact mem_names_of_mem_children hc ih

namespace Checker

variable {c c' : Checker} {e : Expr}

/-- Checkers that find the same types for the variables of an expression, and the same rules for its operators and
    functions. -/
def AgreeOn (c c' : Checker) (e : Expr) : Prop :=
  ∀ n : Expr, n.Inside e → c.SeesAlike c' n

theorem AgreeOn.child {i : Expr} (h : c.AgreeOn c' e) (hi : i ∈ e.children) : c.AgreeOn c' i :=
  fun n hn => h n (.child hi hn)

/-- Checkers with one limit that agree on an expression make the same of it. -/
theorem checkWithin_congr (hlimit : c.limit = c'.limit) (room : Nat) :
    ∀ e : Expr, c.AgreeOn c' e → c.checkWithin room e = c'.checkWithin room e := by
  induction room with
  | zero =>
    intro e _
    rw [checkWithin, checkWithin, hlimit]
  | succ room ih =>
    intro e h
    have hnode := checkNode_mapChildren_related (K := .equal) (f := id) (g := id) (h e .self)
      (fun _ _ _ _ _ => rfl) rfl fun i hi => ⟨rfl, rfl, Comparison.related_equal_iff.2 (ih i (h.child hi))⟩
    rw [Expr.mapChildren_id] at hnode
    exact Comparison.related_equal_iff.1 hnode

theorem check_congr (hlimit : c.limit = c'.limit) (h : c.AgreeOn c' e) : c.check e = c'.check e := by
  rw [check, check, checkWithin_congr hlimit c.limit e h, hlimit]

/-- Checkers agree on an expression if they do on its variables, operators and functions. -/
theorem agreeOn_of_mentions (hnames : ∀ x ∈ e.names, c.declarations.get? x = c'.declarations.get? x)
    (hunary : ∀ s op i, (Expr.unary s op i).Inside e → c.functions.unary op = c'.functions.unary op)
    (hbinary : ∀ s op l r, (Expr.binary s op l r).Inside e → c.functions.binary op = c'.functions.binary op)
    (hcalls : ∀ s f args, (Expr.call s f args).Inside e →
      c.functions.call? (Text.toLower f) = c'.functions.call? (Text.toLower f)) : c.AgreeOn c' e := by
  intro n hn
  cases n with
  | «variable» s x => exact hnames x (hn.mem_names (List.mem_singleton_self x))
  | unary s op i => exact hunary s op i hn
  | binary s op l r => exact hbinary s op l r hn
  | call s f args => exact hcalls s f args hn
  | literal s v | parens s i | conditional s a l r | omitted s => trivial

end Checker

/-! ### Evaluation -/

/-- Contexts that hold the same for some names. -/
def Context.AgreeOn (names : List String) (context context' : Context) : Prop :=
  ∀ x ∈ names, context.get? x = context'.get? x

theorem Context.agreeOn_append {names names' : List String} {context context' : Context} :
    AgreeOn (names ++ names') context context' ↔
      AgreeOn names context context' ∧ AgreeOn names' context context' :=
  List.forall_mem_append

namespace TypedExpr

theorem append_subset_append {α : Type} {as bs cs ds : List α} (h : as ⊆ bs) (h' : cs ⊆ ds) :
    as ++ cs ⊆ bs ++ ds :=
  List.append_subset.2 ⟨List.subset_append_of_subset_left ds h, List.subset_append_of_subset_right bs h'⟩

variable [PatternLibrary]

mutual

/-- The names that are looked up when an expression is evaluated in a context, or would be if nothing failed before:
    of a choice those of the condition, and of the branch that it takes. -/
def lookups (context : Context) : TypedExpr → List String
  | .const _ _ => []
  | .var _ x => [x]
  | .unary _ _ e => e.lookups context
  | .binary _ _ l r => l.lookups context ++ r.lookups context
  | .between _ e l u => e.lookups context ++ (l.lookups context ++ u.lookups context)
  | .substr _ e a b => e.lookups context ++ (lookupsOptional context a ++ lookupsOptional context b)
  | .replace _ e p a => e.lookups context ++ (p.lookups context ++ lookupsOptional context a)
  | .instr _ e p a b =>
    e.lookups context ++ (p.lookups context ++ (lookupsOptional context a ++ lookupsOptional context b))
  | .conditional _ c a b =>
    c.lookups context ++
      match c.eval context >>= takesFirst with
      | .ok true => a.lookups context
      | .ok false => b.lookups context
      | .error _ => []

/-- The names that are looked up for an operand, if it is there. -/
def lookupsOptional (context : Context) : Option TypedExpr → List String
  | none => []
  | some e => e.lookups context

end

mutual

/-- Only names of an expression are looked up. -/
theorem lookups_subset (context : Context) (e : TypedExpr) : e.lookups context ⊆ e.names := by
  cases e with
  | const t v => exact List.nil_subset _
  | var t x => exact List.Subset.refl _
  | unary t op e => exact lookups_subset context e
  | binary t op l r => exact append_subset_append (lookups_subset context l) (lookups_subset context r)
  | between t e l u =>
    exact append_subset_append (lookups_subset context e)
      (append_subset_append (lookups_subset context l) (lookups_subset context u))
  | substr t e a b =>
    exact append_subset_append (lookups_subset context e)
      (append_subset_append (lookupsOptional_subset context a) (lookupsOptional_subset context b))
  | replace t e p a =>
    exact append_subset_append (lookups_subset context e)
      (append_subset_append (lookups_subset context p) (lookupsOptional_subset context a))
  | instr t e p a b =>
    exact append_subset_append (lookups_subset context e) (append_subset_append (lookups_subset context p)
      (append_subset_append (lookupsOptional_subset context a) (lookupsOptional_subset context b)))
  | conditional t c a b =>
    refine append_subset_append (lookups_subset context c) ?_
    split
    · exact List.subset_append_of_subset_left _ (lookups_subset context a)
    · exact List.subset_append_of_subset_right _ (lookups_subset context b)
    · exact List.nil_subset _

theorem lookupsOptional_subset (context : Context) (o : Option TypedExpr) :
    lookupsOptional context o ⊆ namesOptional o := by
  cases o with
  | none => exact List.nil_subset _
  | some e => exact lookups_subset context e

end

variable {context context' : Context}

/-- A choice evaluates alike in two contexts if its condition does, and the branch that it takes. -/
theorem eval_conditional_congr {c a b : TypedExpr} (t : DataType) (hc : c.eval context = c.eval context')
    (hbranch : ∀ first, c.eval context >>= takesFirst = .ok first →
      (if first then a else b).eval context = (if first then a else b).eval context') :
    (conditional t c a b).eval context = (conditional t c a b).eval context' := by
  rw [eval, eval, ← hc, ← bind_assoc, ← bind_assoc]
  generalize c.eval context >>= takesFirst = taken at hbranch
  cases taken with
  | error err => rfl
  | ok first =>
    have htaken := hbranch first rfl
    cases first with
    | true => exact congrArg (· >>= conformBranch a.dataType b.dataType) htaken
    | false => exact congrArg (· >>= conformBranch a.dataType b.dataType) htaken

mutual

/-- Contexts that agree on the names that are looked up in the first of them give the same value or error. -/
theorem eval_congr_lookups (e : TypedExpr) (h : Context.AgreeOn (e.lookups context) context context') :
    e.eval context = e.eval context' := by
  cases e with
  | const t v => rfl
  | var t x => exact (evalsAlike_var (h x (List.mem_singleton_self x)) t).2
  | unary t op e => rw [eval, eval, eval_congr_lookups e h]
  | binary t op l r =>
    obtain ⟨hl, hr⟩ := Context.agreeOn_append.1 h
    rw [eval, eval, eval_congr_lookups l hl, eval_congr_lookups r hr]
  | between t e l u =>
    obtain ⟨he, hbounds⟩ := Context.agreeOn_append.1 h
    obtain ⟨hl, hu⟩ := Context.agreeOn_append.1 hbounds
    rw [eval, eval, eval_congr_lookups e he, eval_congr_lookups l hl, eval_congr_lookups u hu]
  | substr t e a b =>
    obtain ⟨he, hoffsets⟩ := Context.agreeOn_append.1 h
    obtain ⟨ha, hb⟩ := Context.agreeOn_append.1 hoffsets
    rw [eval, eval, eval_congr_lookups e he, evalOptional_congr_lookups a ha, evalOptional_congr_lookups b hb]
  | replace t e p a =>
    obtain ⟨he, htexts⟩ := Context.agreeOn_append.1 h
    obtain ⟨hp, ha⟩ := Context.agreeOn_append.1 htexts
    rw [eval, eval, eval_congr_lookups e he, eval_congr_lookups p hp, evalOptional_congr_lookups a ha]
  | instr t e p a b =>
    obtain ⟨he, hrest⟩ := Context.agreeOn_append.1 h
    obtain ⟨hp, hoffsets⟩ := Context.agreeOn_append.1 hrest
    obtain ⟨ha, hb⟩ := Context.agreeOn_append.1 hoffsets
    rw [eval, eval, eval_congr_lookups e he, eval_congr_lookups p hp, evalOptional_congr_lookups a ha,
      evalOptional_congr_lookups b hb]
  | conditional t c a b =>
    obtain ⟨hc, hbranch⟩ := Context.agreeOn_append.1 h
    refine eval_conditional_congr t (eval_congr_lookups c hc) fun first hfirst => ?_
    rw [hfirst] at hbranch
    cases first with
    | true => exact eval_congr_lookups a hbranch
    | false => exact eval_congr_lookups b hbranch

theorem evalOptional_congr_lookups (o : Option TypedExpr)
    (h : Context.AgreeOn (lookupsOptional context o) context context') :
    evalOptional context o = evalOptional context' o := by
  cases o with
  | none => rfl
  | some e => rw [evalOptional, evalOptional, eval_congr_lookups e h]

end

theorem eval_congr (e : TypedExpr) (h : Context.AgreeOn e.names context context') :
    e.eval context = e.eval context' :=
  eval_congr_lookups e fun x hx => h x (lookups_subset context e hx)

end TypedExpr

/-! ### Both -/

/-- Checkers with one limit that find the same types for the variables of an expression, and the same rules for its
    operators and for the names of its functions in lower case, make the same of it, be it a typed expression or an
    error. Contexts that hold the same for the names of a typed expression give it the same value or error. Of a
    choice, the names of the condition and of the branch that is taken are enough; and of choices within, likewise. -/
theorem Checker.check_eval_congr [PatternLibrary] :
    (∀ (c c' : Checker) (e : Expr), c.limit = c'.limit →
      (∀ x ∈ e.names, c.declarations.get? x = c'.declarations.get? x) →
      (∀ s op i, (Expr.unary s op i).Inside e → c.functions.unary op = c'.functions.unary op) →
      (∀ s op l r, (Expr.binary s op l r).Inside e → c.functions.binary op = c'.functions.binary op) →
      (∀ s f args, (Expr.call s f args).Inside e →
        c.functions.call? (Text.toLower f) = c'.functions.call? (Text.toLower f)) →
      c.check e = c'.check e) ∧
    (∀ (t : TypedExpr) (context context' : Context), Context.AgreeOn t.names context context' →
      t.eval context = t.eval context') ∧
    (∀ (type : DataType) (c a b : TypedExpr) (context context' : Context),
      Context.AgreeOn c.names context context' →
      (∀ first, c.eval context >>= takesFirst = .ok first →
        Context.AgreeOn (if first then a else b).names context context') →
      (TypedExpr.conditional type c a b).eval context = (TypedExpr.conditional type c a b).eval context') ∧
    ∀ (t : TypedExpr) (context context' : Context), Context.AgreeOn (t.lookups context) context context' →
      t.eval context = t.eval context' := by
  refine ⟨?_, fun t _ _ => t.eval_congr, ?_, fun t _ _ => t.eval_congr_lookups⟩
  · intro c c' e hlimit hnames hunary hbinary hcalls
    exact check_congr hlimit (agreeOn_of_mentions hnames hunary hbinary hcalls)
  · intro type c a b context context' hc hbranch
    exact TypedExpr.eval_conditional_congr type (c.eval_congr hc) fun first hfirst =>
      TypedExpr.eval_congr _ (hbranch first hfirst)

open scoped Fragment in
/-- A choice between two variables, which needs no operators, and of which the second variable is not looked up where
    the condition is true. -/
theorem Checker.check_eval_congr_choice :
    let s : Span := .unplaced ""
    let e : Expr := .conditional s (.variable s "c") (.variable s "x") (.variable s "y")
    let t : TypedExpr := .conditional .integer (.var .boolean "c") (.var .integer "x") (.var .integer "y")
    let Γ : Declarations := ((NameMap.empty.insert "c" .boolean).insert "x" .integer).insert "y" .integer
    let held : Context := (NameMap.empty.insert "c" (.boolean true)).insert "x" (.integer 1)
    Checker.check ⟨Γ, .standard, 2⟩ e = .ok t ∧
      Checker.check ⟨Γ, .standard, 2⟩ e = Checker.check ⟨Γ.insert "z" .string, .empty, 2⟩ e ∧
      t.eval held = .ok (.integer 1) ∧ t.eval held = t.eval (held.insert "y" (.string "two")) := by
  intro s e t Γ held
  have hnodes : ∀ n : Expr, n.Inside e → (∃ c a b, n = .conditional s c a b) ∨ ∃ x, n = .variable s x := by
    rintro n (_ | ⟨hc, hinside⟩)
    · exact .inl ⟨_, _, _, rfl⟩
    · simp only [e, Expr.children, List.mem_cons, List.not_mem_nil, or_false] at hc
      rcases hc with rfl | rfl | rfl <;> rcases hinside with _ | ⟨⟨⟩, -⟩ <;> exact .inr ⟨_, rfl⟩
  refine ⟨rfl, ?_, rfl, ?_⟩
  · refine Checker.check_eval_congr.1 _ _ e rfl (by decide) ?_ ?_ ?_
    · intro _ _ _ h
      obtain ⟨_, _, _, ⟨⟩⟩ | ⟨_, ⟨⟩⟩ := hnodes _ h
    · intro _ _ _ _ h
      obtain ⟨_, _, _, ⟨⟩⟩ | ⟨_, ⟨⟩⟩ := hnodes _ h
    · intro _ _ _ h
      obtain ⟨_, _, _, ⟨⟩⟩ | ⟨_, ⟨⟩⟩ := hnodes _ h
  · have hcondition : ∀ x ∈ ["c"], held.get? x = (held.insert "y" (.string "two")).get? x := by decide
    have hbranch : ∀ x ∈ ["x"], held.get? x = (held.insert "y" (.string "two")).get? x := by decide
    refine Checker.check_eval_congr.2.2.1 .integer _ _ _ held _ hcondition fun first hfirst => ?_
    have htaken : first = true := (Except.ok.inj hfirst).symm
    subst htaken
    exact hbranch

end AssignScript
