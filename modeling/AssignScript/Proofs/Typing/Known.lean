import AssignScript.Proofs.Evaluation.Parts
import AssignScript.Proofs.Typing.WellTyped
import AssignScript.Proofs.Typing.Widening

/-!
# Where null can come from

No operation makes up a null: of operands that are not null it gives a value that is not null, or fails. So where no
variable holds one, null is the value of expressions of the type `Null` only.

## Main definitions

* `Known`: an outcome that is not null;
* `Context.Exact`: a context in which every name has a value of the very type that it is declared with.

## Main statements

* `applyUnary_known`, `applyBinary_known`: operators make up no null;
* `between_known`, `substring_known`, `replaceMatches_known`, `occurrence_known`: nor do the functions of more
  operands;
* `TypedExpr.eval_known_of_children`: nor do expressions;
* `WellTyped.eval_dataType`: in an exact context the value of an expression has the very type of the expression.
-/

namespace AssignScript

/-- An outcome that is not null: another value, or an error. -/
def Known (x : Evaluated Value) : Prop :=
  Settled (fun _ => True) (· ≠ .null) x

theorem Settled.of_any {ε α : Type} (x : Except ε α) : Settled (fun _ => True) (fun _ => True) x := by
  cases x <;> trivial

namespace Known

theorem ok {v : Value} (h : v ≠ .null) : Known (.ok v) := h

theorem error (e : EvalError) : Known (.error e) := trivial

/-- What follows any outcome is known if it is for every value. -/
theorem bind {α : Type} (x : Evaluated α) {f : α → Evaluated Value} (h : ∀ a, Known (f a)) : Known (x >>= f) :=
  (Settled.of_any x).bind fun a _ => h a

end Known

theorem Value.isNull_eq_false {v : Value} (h : v ≠ .null) : v.isNull = false := by
  cases v <;> first | rfl | exact absurd rfl h

/-! ### Operators -/

theorem exactInteger_known (operation : String) (n : Int) : Known (exactInteger operation n) := by
  unfold exactInteger
  split
  · exact .ok Value.noConfusion
  · exact .error _

theorem floatArithmetic_known (op : BinaryOp) (x y : Float) : Known (floatArithmetic op x y) := by
  unfold floatArithmetic
  split
  · exact .ok Value.noConfusion
  · exact .ok Value.noConfusion
  · exact .ok Value.noConfusion
  · split
    · exact .error _
    · exact .ok Value.noConfusion

theorem arithmetic_known (op : BinaryOp) (l r : Value) : Known (arithmetic op l r) := by
  unfold arithmetic
  split
  · exact exactInteger_known _ _
  · exact .bind _ fun x => .bind _ fun y => floatArithmetic_known op x y

theorem negate_known (v : Value) : Known (negate v) := by
  cases v with
  | integer i => exact exactInteger_known _ _
  | number x => exact .ok Value.noConfusion
  | _ => exact .error _

theorem compareValues_known (op : BinaryOp) (l r : Value) : Known (compareValues op l r) := by
  unfold compareValues
  split
  · exact .ok Value.noConfusion
  · split
    · exact .ok Value.noConfusion
    · exact .error _

theorem logical_known (op : BinaryOp) (l r : Value) : Known (logical op l r) := by
  unfold logical
  split
  · exact .ok Value.noConfusion
  · exact .error _
  · exact .error _

theorem onTexts_known (op : BinaryOp) {f : String → String → Evaluated Value} (hf : ∀ s t, Known (f s t))
    (l r : Value) : Known (onTexts op f l r) := by
  unfold onTexts
  split
  · exact hf _ _
  · exact .error _
  · exact .error _

theorem matchesWhole_known [PatternLibrary] (text pattern : String) : Known (matchesWhole text pattern) :=
  .bind _ fun _ => .ok Value.noConfusion

/-- An operator on one operand makes up no null. -/
theorem applyUnary_known (op : UnaryOp) {v : Value} (hv : v ≠ .null) : Known (applyUnary op v) := by
  unfold applyUnary
  split
  case h_2 => exact absurd rfl hv
  case h_6 => exact negate_known _
  case h_13 => exact .error _
  all_goals exact .ok Value.noConfusion

/-- An operator on two operands makes up no null. -/
theorem applyBinary_known [PatternLibrary] (op : BinaryOp) {l r : Value} (hl : l ≠ .null) (hr : r ≠ .null) :
    Known (applyBinary op l r) := by
  unfold applyBinary
  rw [Value.isNull_eq_false hl, Value.isNull_eq_false hr, if_neg (by decide)]
  split
  case h_1 | h_2 | h_3 | h_4 => exact arithmetic_known _ _ _
  case h_5 | h_6 | h_7 | h_8 | h_9 | h_10 => exact compareValues_known _ _ _
  case h_11 | h_12 | h_13 => exact logical_known _ _ _
  case h_14 => exact onTexts_known _ (fun _ _ => .ok Value.noConfusion) _ _
  case h_15 => exact onTexts_known _ matchesWhole_known _ _

/-! ### Functions of more operands -/

theorem between_known {v l u : Value} (hv : v ≠ .null) (hl : l ≠ .null) (hu : u ≠ .null) :
    Known (between v l u) := by
  unfold between
  rw [Value.isNull_eq_false hv, Value.isNull_eq_false hl, Value.isNull_eq_false hu, if_neg (by decide)]
  split
  · exact .ok Value.noConfusion
  · split
    · exact .ok Value.noConfusion
    · exact .error _

theorem textArgument_known (function : String) {v : Value} (h : v ≠ .null) :
    Settled (fun _ => True) (·.isSome) (textArgument function v) := by
  cases v with
  | null => exact absurd rfl h
  | string s => exact .ok rfl
  | _ => trivial

theorem offsetArgument_known (function : String) (default : Int64) {o : Option Value} (h : ∀ v ∈ o, v ≠ .null) :
    Settled (fun _ => True) (·.isSome) (offsetArgument function default o) := by
  cases o with
  | none => exact .ok rfl
  | some v =>
    cases v with
    | null => exact absurd rfl (h .null rfl)
    | integer i => exact .ok rfl
    | _ => trivial

theorem slice_known (s : String) (first last : Int64) : Known (slice s first last) := by
  unfold slice
  split
  · exact .ok Value.noConfusion
  · exact .error _

theorem substring_known {v : Value} {first last : Option Value} (hv : v ≠ .null)
    (hf : ∀ w ∈ first, w ≠ .null) (hl : ∀ w ∈ last, w ≠ .null) : Known (substring v first last) := by
  refine (textArgument_known "substr" hv).bind fun s hs => ?_
  obtain ⟨s, rfl⟩ := Option.isSome_iff_exists.1 hs
  refine (offsetArgument_known "substr" 0 hf).bind fun first hf => ?_
  refine (offsetArgument_known "substr" (lengthOf s) hl).bind fun last hl => ?_
  obtain ⟨first, rfl⟩ := Option.isSome_iff_exists.1 hf
  obtain ⟨last, rfl⟩ := Option.isSome_iff_exists.1 hl
  exact slice_known s first last

theorem replaceMatches_known [PatternLibrary] {v p : Value} {r : Option Value} (hv : v ≠ .null) (hp : p ≠ .null)
    (hr : ∀ w ∈ r, w ≠ .null) : Known (replaceMatches v p r) := by
  unfold replaceMatches
  extract_lets rest
  have hrest : ∀ r : Option String, r.isSome → Known (rest r) := by
    intro r hr
    obtain ⟨r, rfl⟩ := Option.isSome_iff_exists.1 hr
    refine (textArgument_known "replace" hv).bind fun s hs => ?_
    refine (textArgument_known "replace" hp).bind fun p hp => ?_
    obtain ⟨s, rfl⟩ := Option.isSome_iff_exists.1 hs
    obtain ⟨p, rfl⟩ := Option.isSome_iff_exists.1 hp
    exact Known.bind _ fun _ => Known.ok Value.noConfusion
  cases r with
  | none => exact hrest (some "") rfl
  | some w => exact (textArgument_known "replace" (hr w rfl)).bind hrest

theorem occurrence_known {v p : Value} {start n : Option Value} (hv : v ≠ .null) (hp : p ≠ .null)
    (hs : ∀ w ∈ start, w ≠ .null) (hn : ∀ w ∈ n, w ≠ .null) : Known (occurrence v p start n) := by
  refine (textArgument_known "instr" hv).bind fun s hs' => ?_
  refine (textArgument_known "instr" hp).bind fun p hp => ?_
  obtain ⟨s, rfl⟩ := Option.isSome_iff_exists.1 hs'
  obtain ⟨p, rfl⟩ := Option.isSome_iff_exists.1 hp
  refine (offsetArgument_known "instr" 0 hs).bind fun start hs => ?_
  refine (offsetArgument_known "instr" 1 hn).bind fun n hn => ?_
  obtain ⟨start, rfl⟩ := Option.isSome_iff_exists.1 hs
  obtain ⟨n, rfl⟩ := Option.isSome_iff_exists.1 hn
  dsimp only
  split
  · exact Known.ok Value.noConfusion
  · exact Known.error _

/-- A value that is not null stays so when it is brought to the type of its place. -/
theorem conform_known (t : DataType) (site : Site) {v : Value} (hv : v ≠ .null) : Known (conform t site v) := by
  unfold conform
  split
  · next w hw =>
    refine .ok fun hnull => ?_
    subst hnull
    unfold Value.conformTo at hw
    split at hw
    · exact hv rfl
    · cases hw
    · split at hw <;> cases hw
      exact hv rfl
  · exact .error _

theorem conformBranch_known (a b : DataType) {v : Value} (hv : v ≠ .null) : Known (conformBranch a b v) := by
  unfold conformBranch
  split
  · exact conform_known _ _ hv
  · exact .ok hv

/-! ### Expressions -/

/-- A context in which every declared name that has a value has one of the very type that it is declared with. -/
def Context.Exact (Γ : Declarations) (context : Context) : Prop :=
  ∀ x t v, Γ.get? x = some t → context.get? x = some v → v.dataType = t

/-- A type other than Null announces that an operand is not of that type either, unless null is asked for. -/
theorem UnaryOp.ne_null_of_outputType {op : UnaryOp} {t u : DataType} (h : op.outputType t = some u) :
    op = .isNull ∨ t ≠ .null := by
  by_cases hop : op = .isNull
  · exact .inl hop
  · refine .inr fun hnull => ?_
    subst hnull
    cases op <;> first | exact hop rfl | cases h

/-- No operator on two operands takes one of the type Null. -/
theorem BinaryOp.ne_null_of_outputType {op : BinaryOp} {a b t : DataType} (h : op.outputType a b = some t) :
    a ≠ .null ∧ b ≠ .null := by
  constructor <;> rintro rfl
  · cases op <;> cases b <;> cases h
  · cases op <;> cases a <;> cases h

theorem DataType.ne_null_of_isNumeric {t : DataType} (h : t.isNumeric) : t ≠ .null := by
  rintro rfl
  cases h

variable [PatternLibrary]

/-- An operand that is not null if it is there. -/
theorem evalOptional_known {context : Context} {o : Option TypedExpr}
    (h : ∀ c ∈ o.toList, Known (c.eval context)) :
    Settled (fun _ => True) (fun r => ∀ v ∈ r, v ≠ .null) (TypedExpr.evalOptional context o) := by
  cases o with
  | none => exact .ok (by simp)
  | some c =>
    rw [TypedExpr.evalOptional]
    refine Settled.bind (h c List.mem_cons_self) fun v hv => .ok ?_
    intro w hw
    cases hw
    exact hv

/-- A node with parts is not null if no part of it is. -/
theorem TypedExpr.eval_known_of_children {context : Context} {e : TypedExpr} (hne : e.children ≠ [])
    (h : ∀ c ∈ e.children, Known (c.eval context)) : Known (e.eval context) := by
  cases e <;> simp only [children, List.forall_mem_cons, List.forall_mem_append] at h
  case const | var => exact absurd rfl hne
  case unary =>
    rw [eval]
    exact Settled.bind h.1 fun v hv => applyUnary_known _ hv
  case binary =>
    rw [eval]
    exact Settled.bind h.1 fun l hl => Settled.bind h.2.1 fun r hr => applyBinary_known _ hl hr
  case between =>
    rw [eval]
    refine Settled.bind h.1 fun v hv => Settled.bind h.2.1 fun l hl => Settled.bind h.2.2.1 fun u hu => ?_
    exact between_known hv hl hu
  case substr =>
    obtain ⟨he, ha, hb⟩ := h
    rw [eval]
    refine Settled.bind he fun v hv => (evalOptional_known ha).bind fun i hi => ?_
    exact (evalOptional_known hb).bind fun j hj => substring_known hv hi hj
  case replace =>
    obtain ⟨he, hp, ha⟩ := h
    rw [eval]
    refine Settled.bind he fun v hv => Settled.bind hp fun p hp => ?_
    exact (evalOptional_known ha).bind fun r hr => replaceMatches_known hv hp hr
  case instr =>
    obtain ⟨he, hp, ha, hb⟩ := h
    rw [eval]
    refine Settled.bind he fun v hv => Settled.bind hp fun p hp => ?_
    refine (evalOptional_known ha).bind fun i hi => ?_
    exact (evalOptional_known hb).bind fun j hj => occurrence_known hv hp hi hj
  case conditional =>
    rw [eval]
    refine .bind _ fun c => .bind _ fun first => ?_
    cases first with
    | true => exact Settled.bind h.2.1 fun v hv => conformBranch_known _ _ hv
    | false => exact Settled.bind h.2.2.1 fun v hv => conformBranch_known _ _ hv

/-- In an exact context only an expression of the type Null can be null. -/
theorem WellTyped.eval_known {Γ : Declarations} {context : Context} {e : TypedExpr} (h : WellTyped Γ e)
    (hexact : context.Exact Γ) : e.dataType ≠ .null → Known (e.eval context) := by
  have hoptional : ∀ {o : Option TypedExpr} {t : DataType}, (∀ a ∈ o, a.dataType = t) → t ≠ .null →
      (∀ a ∈ o, a.dataType ≠ .null → Known (a.eval context)) → ∀ a ∈ o.toList, Known (a.eval context) := by
    intro o t htype ht ih a ha
    have ha := Option.mem_toList.1 ha
    exact ih a ha (htype a ha ▸ ht)
  -- Operands are not of the type Null where their operation takes none, so their values are not null.
  induction h with
  | const v =>
    intro hv
    rw [TypedExpr.eval]
    exact .ok fun hnull => hv (hnull ▸ rfl)
  | @var t x h =>
    intro (ht : t ≠ .null)
    rw [TypedExpr.eval, Context.read]
    split
    · next v hv =>
      refine conform_known _ _ fun hnull => ?_
      subst hnull
      exact ht (hexact x t .null h hv).symm
    · exact .error _
  | @unary op e t he h ih =>
    intro _
    rcases UnaryOp.ne_null_of_outputType h with rfl | hnull
    · rw [TypedExpr.eval]
      exact .bind _ fun v => .ok Value.noConfusion
    · exact TypedExpr.eval_known_of_children (List.cons_ne_nil _ _) (List.forall_mem_singleton.2 (ih hnull))
  | @binary op l r t _ _ h ihl ihr =>
    intro _
    obtain ⟨hl, hr⟩ := BinaryOp.ne_null_of_outputType h
    refine TypedExpr.eval_known_of_children (List.cons_ne_nil _ _) ?_
    exact List.forall_mem_cons.2 ⟨ihl hl, List.forall_mem_singleton.2 (ihr hr)⟩
  | between _ _ _ te tl tu ihe ihl ihu =>
    intro _
    refine TypedExpr.eval_known_of_children (List.cons_ne_nil _ _) (List.forall_mem_cons.2 ⟨?_, ?_⟩)
    · exact ihe (DataType.ne_null_of_isNumeric te)
    · exact List.forall_mem_cons.2 ⟨ihl (DataType.ne_null_of_isNumeric tl),
        List.forall_mem_singleton.2 (ihu (DataType.ne_null_of_isNumeric tu))⟩
  | substr _ _ _ te tf tl ihe ihf ihl =>
    intro _
    refine TypedExpr.eval_known_of_children (List.cons_ne_nil _ _) (List.forall_mem_cons.2 ⟨?_, ?_⟩)
    · exact ihe (te ▸ nofun)
    · exact List.forall_mem_append.2 ⟨hoptional tf nofun ihf, hoptional tl nofun ihl⟩
  | replace _ _ _ te tp tr ihe ihp ihr =>
    intro _
    refine TypedExpr.eval_known_of_children (List.cons_ne_nil _ _) (List.forall_mem_cons.2 ⟨?_, ?_⟩)
    · exact ihe (te ▸ nofun)
    · exact List.forall_mem_cons.2 ⟨ihp (tp ▸ nofun), hoptional tr nofun ihr⟩
  | instr _ _ _ _ te tp ts tn ihe ihp ihs ihn =>
    intro _
    refine TypedExpr.eval_known_of_children (List.cons_ne_nil _ _) (List.forall_mem_cons.2 ⟨?_, ?_⟩)
    · exact ihe (te ▸ nofun)
    · exact List.forall_mem_cons.2 ⟨ihp (tp ▸ nofun),
        List.forall_mem_append.2 ⟨hoptional ts nofun ihs, hoptional tn nofun ihn⟩⟩
  | @conditional c a b t _ _ _ tc h ihc iha ihb =>
    intro ht
    obtain ⟨ha, hb⟩ := DataType.ne_null_of_widen h ht
    refine TypedExpr.eval_known_of_children (List.cons_ne_nil _ _) (List.forall_mem_cons.2 ⟨?_, ?_⟩)
    · exact ihc (tc ▸ nofun)
    · exact List.forall_mem_cons.2 ⟨iha ha, List.forall_mem_singleton.2 (ihb hb)⟩

/-- In an exact context the value of a well-typed expression has the very type of the expression. -/
theorem WellTyped.eval_dataType {Γ : Declarations} {context : Context} {e : TypedExpr} {v : Value}
    (h : WellTyped Γ e) (hexact : context.Exact Γ) (hv : e.eval context = .ok v) : v.dataType = e.dataType := by
  have hfits := h.eval_settled context
  rw [hv] at hfits
  rcases hfits with rfl | htype
  · -- Null is of the type Null, and no expression of another type is null.
    by_cases hnull : e.dataType = .null
    · exact hnull.symm
    · have hknown := h.eval_known hexact hnull
      rw [hv] at hknown
      exact absurd rfl hknown
  · exact htype

end AssignScript
