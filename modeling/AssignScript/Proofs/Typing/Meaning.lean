import AssignScript.Bindings
import AssignScript.Proofs.Typing.Parallel

/-!
# What an expression depends on

Of the types and values in a scope an expression sees those of its own variables only, whatever operators and
functions stand in it, and of the limit of nesting it sees only whether it is reached.

## Main definitions

* `TypedExpr.EvalsAlike`: typed expressions with one meaning, each in a context of its own;
* `Expr.names`: the names that an expression looks up;
* `Checker.HasRoomFor`: checks that do not reach the limit of nesting;
* `Comparison.agreeing`, `Comparison.roomier`: what is compared.

## Main statements

* `Checker.checkWithin_related_of_agree`: scopes that agree on the variables of an expression give it one meaning;
* `Checker.checkWithin_eq_of_le`: with more room the check of an expression is the same, unless there was too little.
-/

namespace AssignScript

/-! ### Evaluation in two contexts -/

namespace TypedExpr

variable [PatternLibrary]

/-- Typed expressions of one type that have the same value or the same error, each in a context of its own. -/
def EvalsAlike (context context' : Context) (e e' : TypedExpr) : Prop :=
  e.dataType = e'.dataType ∧ e.eval context = e'.eval context'

variable {context context' : Context}

theorem evalOptional_alike {o o' : Option TypedExpr} (h : Option.Rel (EvalsAlike context context') o o') :
    evalOptional context o = evalOptional context' o' := by
  cases h with
  | none => rfl
  | some h => rw [evalOptional, evalOptional, h.2]

/-- What a node evaluates to depends on what its parts do. -/
theorem congruence_evalsAlike (context context' : Context) : Congruence (EvalsAlike context context') where
  dataType_eq h := h.1
  constant _ := ⟨rfl, rfl⟩
  unary _ _ h := ⟨rfl, by rw [eval, eval, h.2]⟩
  binary _ _ hl hr := ⟨rfl, by rw [eval, eval, hl.2, hr.2]⟩
  between _ he hl hu := ⟨rfl, by rw [eval, eval, he.2, hl.2, hu.2]⟩
  substr _ he ha hb := ⟨rfl, by rw [eval, eval, he.2, evalOptional_alike ha, evalOptional_alike hb]⟩
  replace _ he hp ha := ⟨rfl, by rw [eval, eval, he.2, hp.2, evalOptional_alike ha]⟩
  instr _ he hp ha hb :=
    ⟨rfl, by rw [eval, eval, he.2, hp.2, evalOptional_alike ha, evalOptional_alike hb]⟩
  -- The value of a branch is brought to the common type of both, so their types count as well.
  conditional _ hc ha hb := ⟨rfl, by rw [eval, eval, hc.2, ha.2, hb.2, ha.1, hb.1]⟩

/-- A variable of which the contexts hold the same. -/
theorem evalsAlike_var {x : String} (h : context.get? x = context'.get? x) (t : DataType) :
    EvalsAlike context context' (.var t x) (.var t x) :=
  ⟨rfl, by rw [eval, eval, Context.read, Context.read, h]⟩

end TypedExpr

/-! ### Variables -/

namespace Expr

mutual

/-- The names that stand for their values in an expression, wherever they do. -/
def names : Expr → List String
  | .literal _ _ | .omitted _ => []
  | .variable _ x => [x]
  | .parens _ e | .unary _ _ e => e.names
  | .binary _ _ l r => l.names ++ r.names
  | .conditional _ c a b => c.names ++ (a.names ++ b.names)
  | .call _ _ args => namesArgs args

/-- The names that stand for their values in arguments. -/
def namesArgs : List Expr → List String
  | [] => []
  | a :: as => a.names ++ namesArgs as

end

theorem mem_namesArgs {x : String} {args : List Expr} :
    x ∈ namesArgs args ↔ ∃ a ∈ args, x ∈ a.names := by
  induction args with
  | nil => simp [namesArgs]
  | cons a as ih => simp [namesArgs, ih]

/-- What stands in a part stands in the whole. -/
theorem mem_names_of_mem_children {x : String} {c e : Expr} (hc : c ∈ e.children)
    (hx : x ∈ c.names) : x ∈ e.names := by
  cases e with
  | literal s v | «variable» s y | omitted s => cases hc
  | call s f args => exact mem_namesArgs.2 ⟨c, hc, hx⟩
  | parens s e | unary s op e | binary s op l r | conditional s a l r =>
    simp only [children, List.mem_cons, List.not_mem_nil, or_false] at hc
    rcases hc with rfl | rfl | rfl <;> simp [names, hx]

end Expr

/-- Checkers that find the same types for the variables of an expression, and the same functions, see a node of it
    alike. -/
theorem Checker.seesAlike_of_agree (functions : FunctionTable) (limit : Nat) {Γ Γ' : Declarations} {e : Expr}
    (h : ∀ x ∈ e.names, Γ.get? x = Γ'.get? x) : SeesAlike ⟨Γ, functions, limit⟩ ⟨Γ', functions, limit⟩ e := by
  cases e with
  | «variable» s x => exact h x (List.mem_singleton_self x)
  | _ => first | rfl | trivial

/-! ### Agreement on the variables -/

/-- One check beside another one, of which the trees are evaluated each in a context of its own. -/
def Comparison.agreeing [PatternLibrary] (context context' : Context) : Comparison where
  stops _ := False
  errors := (· = ·)
  spans := (· = ·)
  trees := TypedExpr.EvalsAlike context context'
  errors_of_alike h := by
    cases h <;> rename_i h <;> rw [h]
  congruence := TypedExpr.congruence_evalsAlike context context'

namespace Bindings

/-- Bindings that bind some names alike. -/
def AgreeOn (names : List String) (b b' : Bindings) : Prop :=
  ∀ x ∈ names, b.get? x = b'.get? x

variable {b b' : Bindings} {x : String}

theorem declarations_get?_eq (h : b.get? x = b'.get? x) : b.declarations.get? x = b'.declarations.get? x := by
  rw [declarations, declarations, NameMap.get?_map, NameMap.get?_map, h]

theorem context_get?_eq (h : b.get? x = b'.get? x) : b.context.get? x = b'.context.get? x := by
  rw [context, context, NameMap.get?_map, NameMap.get?_map, h]

/-- Binding a name changes what is bound to it and to no other. -/
theorem get?_assign (b : Bindings) (x y : String) (t : DataType) (v : Value) :
    (b.assign x t v).get? y = if y = x then some ⟨t, v⟩ else b.get? y :=
  NameMap.get?_insert b x y ⟨t, v⟩

theorem agreeOn_assign {names : List String} (h : x ∉ names) (b : Bindings) (t : DataType) (v : Value) :
    AgreeOn names (b.assign x t v) b := by
  intro y hy
  rw [get?_assign, if_neg fun (hyx : y = x) => h (hyx ▸ hy)]

end Bindings

namespace Checker

/-- An expression with some room has one meaning in two scopes that agree on its variables. -/
theorem checkWithin_related_of_agree [PatternLibrary] (functions : FunctionTable) (limit : Nat) {b b' : Bindings} (room : Nat) :
    ∀ e : Expr, b.AgreeOn e.names b' →
      (Comparison.agreeing b.context b'.context).Related (TypedExpr.EvalsAlike b.context b'.context)
        (checkWithin ⟨b.declarations, functions, limit⟩ room e)
        (checkWithin ⟨b'.declarations, functions, limit⟩ room e) := by
  induction room with
  | zero => exact fun e _ => .error rfl
  | succ room ih =>
    intro e h
    have hsees : SeesAlike ⟨b.declarations, functions, limit⟩ ⟨b'.declarations, functions, limit⟩ e :=
      seesAlike_of_agree functions limit fun x hx => Bindings.declarations_get?_eq (h x hx)
    have hvariable : ∀ s x t, e = .variable s x → b.declarations.get? x = some t →
        TypedExpr.EvalsAlike b.context b'.context (.var t x) (.var t x) := by
      rintro s x t rfl -
      exact TypedExpr.evalsAlike_var (Bindings.context_get?_eq (h x (List.mem_singleton_self x))) t
    have hnode := checkNode_mapChildren_related (K := .agreeing b.context b'.context) (f := id) (g := id)
      hsees hvariable rfl fun i hi => ⟨rfl, rfl, ih i fun x hx => h x (Expr.mem_names_of_mem_children hi hx)⟩
    rwa [Expr.mapChildren_id] at hnode

/-! ### Room -/

/-- The check of an expression does not reach the limit of nesting. -/
def HasRoomFor (c : Checker) (e : Expr) : Prop :=
  ∀ span, c.check e ≠ .error (.nestingTooDeep c.limit span)

end Checker

/-- One check beside another one with more room. -/
def Comparison.roomier (limit : Nat) : Comparison where
  stops e := ∃ span, e = .nestingTooDeep limit span
  errors := (· = ·)
  spans := (· = ·)
  trees := (· = ·)
  errors_of_alike h := by
    cases h <;> rename_i h <;> rw [h]
  congruence := TypedExpr.congruence_eq

theorem Checker.checkWithin_related_of_le (c : Checker) (room : Nat) : ∀ room' e, room ≤ room' →
    (Comparison.roomier c.limit).Related (· = ·) (c.checkWithin room e) (c.checkWithin room' e) := by
  induction room with
  | zero => exact fun _ e _ => .stop ⟨e.span, rfl⟩
  | succ room ih =>
    intro room' e hle
    obtain ⟨room', rfl⟩ : ∃ n, room' = n + 1 := ⟨room' - 1, by omega⟩
    have hnode := checkNode_mapChildren_related (K := .roomier c.limit) (f := id) (g := id)
      (c.seesAlike_self e) (fun _ _ _ _ _ => rfl) rfl
      fun i _ => ⟨rfl, rfl, ih room' i (Nat.le_of_succ_le_succ hle)⟩
    rwa [Expr.mapChildren_id] at hnode

/-- With more room the check of an expression is the same, unless there was too little. -/
theorem Checker.checkWithin_eq_of_le (c : Checker) {room room' : Nat} (e : Expr) (h : room ≤ room') :
    (∃ span, c.checkWithin room e = .error (.nestingTooDeep c.limit span)) ∨
      c.checkWithin room e = c.checkWithin room' e := by
  have hrelated := c.checkWithin_related_of_le room room' e h
  generalize c.checkWithin room e = x, c.checkWithin room' e = y at hrelated
  rcases hrelated with ⟨span, rfl⟩ | rfl | rfl
  · exact .inl ⟨span, rfl⟩
  · exact .inr rfl
  · exact .inr rfl

end AssignScript
