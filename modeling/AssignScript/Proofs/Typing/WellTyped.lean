import AssignScript.Eval
import AssignScript.Checker
import AssignScript.Proofs.Typing.Fit

/-!
# Well-typed expressions

A typed expression is well typed when every node carries the type that its operation announces for its
operands. Evaluating one gives a value of its type, or an error that lies in a value or in what the
context holds for one of its variables.

## Main definitions

* `TypedExpr.names`: the names that an expression looks up;
* `WellTyped`: expressions whose nodes carry the right types;
* `EvalError.Justified`: the errors that a well-typed expression may have in a context.

## Main statements

* `WellTyped.eval_settled`: evaluation keeps the type of a well-typed expression.
-/

namespace AssignScript

namespace TypedExpr

mutual

/-- The names that an expression looks up, wherever they stand in it. -/
def names : TypedExpr → List String
  | .const _ _ => []
  | .var _ name => [name]
  | .unary _ _ operand => operand.names
  | .binary _ _ left right => left.names ++ right.names
  | .between _ operand lower upper => operand.names ++ (lower.names ++ upper.names)
  | .substr _ operand first last =>
    operand.names ++ (namesOptional first ++ namesOptional last)
  | .replace _ operand pattern replacement =>
    operand.names ++ (pattern.names ++ namesOptional replacement)
  | .instr _ operand pattern start occurrence =>
    operand.names ++
      (pattern.names ++ (namesOptional start ++ namesOptional occurrence))
  | .conditional _ condition thenBranch elseBranch =>
    condition.names ++ (thenBranch.names ++ elseBranch.names)

/-- The names that an operand looks up, if it is there. -/
def namesOptional : Option TypedExpr → List String
  | none => []
  | some e => e.names

end

end TypedExpr

/-- Typed expressions whose nodes carry the types that their operations announce. -/
inductive WellTyped (Γ : Declarations) : TypedExpr → Prop where
  | const (v : Value) : WellTyped Γ (.const v.dataType v)
  | var {t : DataType} {x : String} (h : Γ.get? x = some t) : WellTyped Γ (.var t x)
  | unary {op : UnaryOp} {e : TypedExpr} {t : DataType} (he : WellTyped Γ e)
      (h : op.outputType e.dataType = some t) : WellTyped Γ (.unary t op e)
  | binary {op : BinaryOp} {l r : TypedExpr} {t : DataType} (hl : WellTyped Γ l)
      (hr : WellTyped Γ r) (h : op.outputType l.dataType r.dataType = some t) :
      WellTyped Γ (.binary t op l r)
  | between {e l u : TypedExpr} (he : WellTyped Γ e) (hl : WellTyped Γ l) (hu : WellTyped Γ u)
      (te : e.dataType.isNumeric) (tl : l.dataType.isNumeric) (tu : u.dataType.isNumeric) :
      WellTyped Γ (.between .boolean e l u)
  | substr {e : TypedExpr} {first last : Option TypedExpr} (he : WellTyped Γ e)
      (hf : ∀ a ∈ first, WellTyped Γ a) (hl : ∀ a ∈ last, WellTyped Γ a)
      (te : e.dataType = .string) (tf : ∀ a ∈ first, a.dataType = .integer)
      (tl : ∀ a ∈ last, a.dataType = .integer) : WellTyped Γ (.substr .string e first last)
  | replace {e p : TypedExpr} {r : Option TypedExpr} (he : WellTyped Γ e) (hp : WellTyped Γ p)
      (hr : ∀ a ∈ r, WellTyped Γ a) (te : e.dataType = .string) (tp : p.dataType = .string)
      (tr : ∀ a ∈ r, a.dataType = .string) : WellTyped Γ (.replace .string e p r)
  | instr {e p : TypedExpr} {start n : Option TypedExpr} (he : WellTyped Γ e) (hp : WellTyped Γ p)
      (hs : ∀ a ∈ start, WellTyped Γ a) (hn : ∀ a ∈ n, WellTyped Γ a) (te : e.dataType = .string)
      (tp : p.dataType = .string) (ts : ∀ a ∈ start, a.dataType = .integer)
      (tn : ∀ a ∈ n, a.dataType = .integer) : WellTyped Γ (.instr .integer e p start n)
  | conditional {c a b : TypedExpr} {t : DataType} (hc : WellTyped Γ c) (ha : WellTyped Γ a)
      (hb : WellTyped Γ b) (tc : c.dataType = .boolean)
      (h : a.dataType.widen b.dataType = some t) : WellTyped Γ (.conditional t c a b)

/-- A well-typed expression looks up declared names only. -/
theorem WellTyped.declared {Γ : Declarations} {e : TypedExpr} (h : WellTyped Γ e) {x : String}
    (hx : x ∈ e.names) : ∃ t, Γ.get? x = some t := by
  have hoptional : ∀ {o : Option TypedExpr}, x ∈ TypedExpr.namesOptional o →
      (∀ e ∈ o, x ∈ e.names → ∃ t, Γ.get? x = some t) → ∃ t, Γ.get? x = some t := by
    intro o ho ih
    cases o with
    | none => cases ho
    | some e => exact ih e rfl ho
  induction h with
  | const v => cases hx
  | var h =>
    obtain rfl := List.mem_singleton.1 hx
    exact ⟨_, h⟩
  | unary _ _ ih => exact ih hx
  | binary _ _ _ ihl ihr => exact (List.mem_append.1 hx).elim ihl ihr
  | between _ _ _ _ _ _ ihe ihl ihu | conditional _ _ _ _ _ ihe ihl ihu =>
    exact (List.mem_append.1 hx).elim ihe fun hx => (List.mem_append.1 hx).elim ihl ihu
  | substr _ _ _ _ _ _ ihe ihf ihl =>
    exact (List.mem_append.1 hx).elim ihe fun hx =>
      (List.mem_append.1 hx).elim (hoptional · ihf) (hoptional · ihl)
  | replace _ _ _ _ _ _ ihe ihp ihr =>
    exact (List.mem_append.1 hx).elim ihe fun hx =>
      (List.mem_append.1 hx).elim ihp (hoptional · ihr)
  | instr _ _ _ _ _ _ _ _ ihe ihp ihs ihn =>
    exact (List.mem_append.1 hx).elim ihe fun hx => (List.mem_append.1 hx).elim ihp fun hx =>
      (List.mem_append.1 hx).elim (hoptional · ihs) (hoptional · ihn)

/-- The errors that a well-typed expression over some names may have in a context: one that types do
    not exclude, or one that lies in what the context holds for a name. -/
def EvalError.Justified (Γ : Declarations) (context : Context) (names : List String) :
    EvalError → Prop
  | .unboundVariable x => x ∈ names ∧ context.get? x = none
  | .unexpectedValue _ _ => ∃ x ∈ names, ∃ t v, Γ.get? x = some t ∧ context.get? x = some v ∧
      v.conformTo t = none
  | .indexOutOfRange _ _ _ | .invalidPattern _ _ | .divisionByZero | .overflow _ => True

namespace EvalError

variable {Γ : Declarations} {context : Context} {names names' : List String} {e : EvalError}

theorem OfValues.justified (h : e.OfValues) : e.Justified Γ context names := by
  cases e with
  | unboundVariable | unexpectedValue => cases h
  | _ => trivial

theorem Justified.mono (h : e.Justified Γ context names) (hsub : ∀ x ∈ names, x ∈ names') :
    e.Justified Γ context names' := by
  cases e with
  | unboundVariable x => exact ⟨hsub x h.1, h.2⟩
  | unexpectedValue v site =>
    obtain ⟨x, hx, hrest⟩ := h
    exact ⟨x, hsub x hx, hrest⟩
  | _ => trivial

end EvalError

/-- An outcome that keeps a type, up to errors that lie in some names of a context. -/
def KeepsIn (Γ : Declarations) (context : Context) (names : List String) (t : DataType)
    (x : Evaluated Value) : Prop :=
  Settled (·.Justified Γ context names) (·.Fits t) x

namespace KeepsIn

variable {Γ : Declarations} {context : Context} {names names' : List String} {t : DataType}

theorem of_keeps {x : Evaluated Value} (h : Keeps t x) : KeepsIn Γ context names t x :=
  Settled.mono h (fun _ => EvalError.OfValues.justified) fun _ => id

end KeepsIn

namespace Settled

variable {Γ : Declarations} {context : Context} {names : List String} {α : Type} {good : α → Prop}
  {x : Evaluated α}

/-- What is justified by some names is justified by more. -/
theorem left (h : Settled (·.Justified Γ context names) good x) (names' : List String) :
    Settled (·.Justified Γ context (names ++ names')) good x :=
  h.mono (fun _ he => he.mono fun _ => List.mem_append_left names') fun _ => id

theorem right (h : Settled (·.Justified Γ context names) good x) (names' : List String) :
    Settled (·.Justified Γ context (names' ++ names)) good x :=
  h.mono (fun _ he => he.mono fun _ => List.mem_append_right names') fun _ => id

end Settled

/-- A variable of a declared type is read as a value of that type. -/
theorem Context.read_keeps {Γ : Declarations} (context : Context) {t : DataType} {x : String}
    (h : Γ.get? x = some t) : KeepsIn Γ context [x] t (context.read t x) := by
  unfold Context.read
  split
  · next v hv =>
    unfold conform
    split
    · next w hw => exact .ok (fits_of_conformTo hw)
    · next hnone => exact .error ⟨x, List.mem_singleton.2 rfl, t, v, h, hv, hnone⟩
  · next hnone => exact .error ⟨List.mem_singleton.2 rfl, hnone⟩

/-- The value of a branch fits the common type of both branches. -/
theorem conformBranch_keeps {a b t : DataType} {v : Value} (h : a.widen b = some t)
    (hv : v.Fits a ∨ v.Fits b) : Keeps t (conformBranch a b v) := by
  have hconform : ∃ w, v.conformTo t = some w := by
    rcases hv with (rfl | rfl) | (rfl | rfl)
    · exact ⟨_, rfl⟩
    · cases v <;> cases b <;> cases h <;> exact ⟨_, rfl⟩
    · exact ⟨_, rfl⟩
    · cases v <;> cases a <;> cases h <;> exact ⟨_, rfl⟩
  obtain ⟨w, hw⟩ := hconform
  simp only [conformBranch, h, conform, hw]
  exact .ok (fits_of_conformTo hw)

theorem takesFirst_settled {v : Value} (h : v.Fits .boolean) :
    Settled EvalError.OfValues (fun _ => True) (takesFirst v) := by
  rcases h with rfl | h
  · trivial
  · cases v <;> cases h
    trivial

/-- An operand that may be absent is a value of its type if it is there. -/
theorem evalOptional_settled [PatternLibrary] {Γ : Declarations} {context : Context} {t : DataType}
    {o : Option TypedExpr}
    (h : ∀ e ∈ o, KeepsIn Γ context e.names e.dataType (e.eval context))
    (ht : ∀ e ∈ o, e.dataType = t) :
    Settled (·.Justified Γ context (TypedExpr.namesOptional o)) (fun r => ∀ v ∈ r, v.Fits t)
      (TypedExpr.evalOptional context o) := by
  cases o with
  | none => exact .ok (by simp)
  | some e =>
    obtain rfl := ht e rfl
    rw [TypedExpr.evalOptional]
    refine (h e rfl).bind fun v hv => .ok ?_
    intro w hw
    cases hw
    exact hv

/-- The value of a well-typed expression fits its type, and an error is justified by the context. -/
theorem WellTyped.eval_settled [PatternLibrary] {Γ : Declarations} {e : TypedExpr} (h : WellTyped Γ e)
    (context : Context) : KeepsIn Γ context e.names e.dataType (e.eval context) := by
  -- An error of an operand is justified by the names of the operand, which are among those of the whole.
  induction h with
  | const v => exact KeepsIn.of_keeps (.value v)
  | var h => exact context.read_keeps h
  | unary _ h ih =>
    rw [TypedExpr.eval]
    exact ih.bind fun v hv => KeepsIn.of_keeps (applyUnary_keeps h hv)
  | binary _ _ h ihl ihr =>
    rw [TypedExpr.eval]
    refine (ihl.left _).bind fun l hl => ?_
    refine (ihr.right _).bind fun r hr => ?_
    exact KeepsIn.of_keeps (applyBinary_keeps h hl hr)
  | between _ _ _ te tl tu ihe ihl ihu =>
    rw [TypedExpr.eval]
    refine (ihe.left _).bind fun v hv => ?_
    refine ((ihl.left _).right _).bind fun l hl => ?_
    refine ((ihu.right _).right _).bind fun u hu => ?_
    exact KeepsIn.of_keeps (between_keeps hv hl hu te tl tu)
  | substr _ _ _ te tf tl ihe ihf ihl =>
    rw [TypedExpr.eval]
    refine (ihe.left _).bind fun v hv => ?_
    refine (((evalOptional_settled ihf tf).left _).right _).bind fun f hf => ?_
    refine (((evalOptional_settled ihl tl).right _).right _).bind fun l hl => ?_
    exact KeepsIn.of_keeps (substring_keeps (te ▸ hv) hf hl)
  | replace _ _ _ te tp tr ihe ihp ihr =>
    rw [TypedExpr.eval]
    refine (ihe.left _).bind fun v hv => ?_
    refine ((ihp.left _).right _).bind fun p hp => ?_
    refine (((evalOptional_settled ihr tr).right _).right _).bind fun r hr => ?_
    exact KeepsIn.of_keeps (replaceMatches_keeps (te ▸ hv) (tp ▸ hp) hr)
  | instr _ _ _ _ te tp ts tn ihe ihp ihs ihn =>
    rw [TypedExpr.eval]
    refine (ihe.left _).bind fun v hv => ?_
    refine ((ihp.left _).right _).bind fun p hp => ?_
    refine ((((evalOptional_settled ihs ts).left _).right _).right _).bind fun s hs => ?_
    refine ((((evalOptional_settled ihn tn).right _).right _).right _).bind fun n hn => ?_
    exact KeepsIn.of_keeps (occurrence_keeps (te ▸ hv) (tp ▸ hp) hs hn)
  | conditional _ _ _ tc h ihc iha ihb =>
    rw [TypedExpr.eval]
    refine (ihc.left _).bind fun c hc => ?_
    have htakes := takesFirst_settled (tc ▸ hc)
    refine (htakes.mono (fun _ => EvalError.OfValues.justified) fun _ => id).bind fun first _ => ?_
    -- The branch that is taken fits its own type, and so conforms to the common one.
    cases first with
    | true =>
      refine ((iha.left _).right _).bind fun v hv => ?_
      exact KeepsIn.of_keeps (conformBranch_keeps h (.inl hv))
    | false =>
      refine ((ihb.right _).right _).bind fun v hv => ?_
      exact KeepsIn.of_keeps (conformBranch_keeps h (.inr hv))

end AssignScript
