import AssignScript.Proofs.Typing.Rules

/-!
# The checker decides the typing rules

An expression with a type is accepted, with that type, wherever the limit of nesting allows its height, and
where it does not the error says so. With what the checker accepts having a type, the checker accepts
exactly the expressions that have one.

## Main definitions

* `Reaches`: an outcome that is good unless a limit is reached.

## Main statements

* `HasType.reaches`: expressions with a type are accepted within the limit;
* `Checker.check_iff_hasType`: the checker decides the typing rules.
-/

namespace AssignScript

/-- An outcome that is good if a condition holds, and else says that the limit of nesting is reached. -/
def Reaches {α : Type} (limit : Nat) (fits : Prop) (good : α → Prop) (x : Checked α) : Prop :=
  (fits → ∃ a, x = .ok a ∧ good a) ∧ (¬ fits → ∃ span, x = .error (.nestingTooDeep limit span))

namespace Reaches

variable {α β : Type} {limit : Nat} {p q : Prop} {good : α → Prop} {x : Checked α}

theorem ok {a : α} (h : good a) : Reaches limit True good (.ok a) :=
  ⟨fun _ => ⟨a, rfl, h⟩, fun hnot => absurd trivial hnot⟩

theorem congr (h : Reaches limit p good x) (hpq : p ↔ q) : Reaches limit q good x := by
  rwa [propext hpq] at h

/-- Of two steps, the first one whose condition fails says so. -/
theorem bind {good' : β → Prop} {f : α → Checked β} (hx : Reaches limit p good x)
    (hf : ∀ a, good a → Reaches limit q good' (f a)) : Reaches limit (p ∧ q) good' (x >>= f) := by
  by_cases hp : p
  · obtain ⟨a, rfl, ha⟩ := hx.1 hp
    exact (hf a ha).congr (by simp [hp])
  · obtain ⟨span, rfl⟩ := hx.2 hp
    exact ⟨fun h => absurd h.1 hp, fun _ => ⟨span, rfl⟩⟩

/-- A last step that always succeeds. -/
theorem map {good' : β → Prop} {f : α → Checked β} (hx : Reaches limit p good x)
    (hf : ∀ a, good a → ∃ b, f a = .ok b ∧ good' b) : Reaches limit p good' (x >>= f) := by
  have hlast : ∀ a, good a → Reaches limit True good' (f a) := by
    intro a ha
    obtain ⟨b, hb, hgood⟩ := hf a ha
    rw [hb]
    exact ok hgood
  exact (hx.bind hlast).congr (and_true p).to_iff

/-- A first step that has succeeded. -/
theorem ok_bind {a : α} {good' : β → Prop} {f : α → Checked β} (h : Reaches limit p good' (f a)) :
    Reaches limit p good' (Except.ok a >>= f) := h

end Reaches

/-- A check that accepts an expression, with a type, if it has room for its height. -/
def Accepts (limit room : Nat) (check : Check) (e : Expr) (t : DataType) : Prop :=
  Reaches limit (e.height ≤ room) (fun r => r.dataType = t) (check e)

section Rules

variable {limit room : Nat} {check : Check} {l r operand : Expr} {t u : DataType}

theorem requireType_of_widensTo {expected : DataType} {e : TypedExpr} (span : Span)
    (h : e.dataType.widensTo expected = true) : (requireType expected e span : Checked TypedExpr) = .ok e :=
  requireType_eq_ok.2 ⟨h, rfl⟩

theorem checkPair_reaches {expected : DataType} (hl : Accepts limit room check l t)
    (hr : Accepts limit room check r u) (ht : t.widensTo expected = true)
    (hu : u.widensTo expected = true) :
    Reaches limit (max l.height r.height ≤ room)
      (fun p => p.1.dataType = t ∧ p.2.dataType = u) (checkPair check expected l r) := by
  refine Reaches.congr ?_ Nat.max_le.symm
  refine Reaches.bind hl fun l' hl' => Reaches.map hr fun r' hr' => ⟨(l', r'), ?_, hl', hr'⟩
  rw [requireType_of_widensTo _ (hl' ▸ ht), requireType_of_widensTo _ (hr' ▸ hu)]
  rfl

theorem checkUnary_reaches {rule : UnaryRule} {op : UnaryOp} (he : Accepts limit room check operand t)
    (hop : (rule = .logical ∧ op = .not ∧ t = .boolean) ∨ (rule = .sign ∧ t.isNumeric)) :
    Reaches limit (operand.height ≤ room) (fun r => r.dataType = t)
      (checkUnary check rule op operand) := by
  rcases hop with ⟨rfl, rfl, rfl⟩ | ⟨rfl, ht⟩
  · refine Reaches.map he fun e he' => ⟨.unary .boolean .not e, ?_, rfl⟩
    rw [requireType_of_widensTo _ (he' ▸ DataType.widensTo_self _)]
    show Except.ok (TypedExpr.unary ((UnaryOp.not.outputType e.dataType).getD .boolean) .not e) = _
    rw [he']
    rfl
  · refine Reaches.map he fun e he' => ⟨.unary e.dataType op e, ?_, he'⟩
    rw [requireType_of_widensTo _ (he' ▸ DataType.widensTo_number ht)]
    rfl

theorem checkArithmetic_reaches {op : BinaryOp} (span : Span) {v : DataType}
    (hl : Accepts limit room check l t) (hr : Accepts limit room check r u) (ht : t.isNumeric)
    (hu : u.isNumeric) (hout : op.outputType t u = some v) :
    Reaches limit (max l.height r.height ≤ room) (fun e => e.dataType = v)
      (checkBinary check .arithmetic op l r span) := by
  have hpair := checkPair_reaches hl hr (DataType.widensTo_number ht) (DataType.widensTo_number hu)
  refine hpair.map ?_
  rintro ⟨l', r'⟩ ⟨hl', hr'⟩
  refine ⟨_, rfl, ?_⟩
  show (op.outputType l'.dataType r'.dataType).getD .number = v
  rw [hl', hr', hout]
  rfl

theorem checkComparison_reaches {op : BinaryOp} {span : Span} {v w : DataType}
    (hl : Accepts limit room check l t) (hr : Accepts limit room check r u)
    (hcommon : t.widen u = some w) (hout : op.outputType t u = some v) :
    Reaches limit (max l.height r.height ≤ room) (fun e => e.dataType = v)
      (checkBinary check .comparison op l r span) := by
  refine Reaches.congr ?_ Nat.max_le.symm
  refine Reaches.bind hl fun l' hl' => Reaches.map hr fun r' hr' => ⟨.binary v op l' r', ?_, rfl⟩
  have hwiden : (commonType [l', r'] span : Checked DataType) = .ok w :=
    commonType_eq_ok.2 (by simp [DataType.widenAll, hl', hr', hcommon])
  have houtput : op.outputType l'.dataType r'.dataType = some v := by rw [hl', hr', hout]
  rw [hwiden, houtput]
  rfl

theorem checkLogical_reaches {op : BinaryOp} (span : Span) (hop : op ∈ [BinaryOp.and, .or, .xor])
    (hl : Accepts limit room check l .boolean) (hr : Accepts limit room check r .boolean) :
    Reaches limit (max l.height r.height ≤ room) (fun e => e.dataType = .boolean)
      (checkBinary check .logical op l r span) := by
  refine (checkPair_reaches hl hr (DataType.widensTo_self _) (DataType.widensTo_self _)).map ?_
  rintro ⟨l', r'⟩ ⟨hl', hr'⟩
  refine ⟨_, rfl, ?_⟩
  show (op.outputType l'.dataType r'.dataType).getD .boolean = .boolean
  rw [hl', hr']
  simp only [List.mem_cons, List.not_mem_nil, or_false] at hop
  rcases hop with rfl | rfl | rfl <;> rfl

theorem checkConcat_reaches {op : BinaryOp} (span : Span)
    (hl : Accepts limit room check l .string) (hr : Accepts limit room check r .string) :
    Reaches limit (max l.height r.height ≤ room) (fun e => e.dataType = .string)
      (checkBinary check .concatenation op l r span) := by
  refine (checkPair_reaches hl hr (DataType.widensTo_self _) (DataType.widensTo_self _)).map ?_
  rintro ⟨l', r'⟩ -
  exact ⟨_, rfl, rfl⟩

theorem checkConditional_reaches {c a b : Expr} {span : Span}
    (hc : Accepts limit room check c .boolean) (ha : Accepts limit room check a t)
    (hb : Accepts limit room check b u) {v : DataType} (hwiden : t.widen u = some v) :
    Reaches limit (max c.height (max a.height b.height) ≤ room) (fun e => e.dataType = v)
      (checkConditional check c a b span) := by
  refine Reaches.congr ?_ (Nat.max_le.trans (and_congr_right' Nat.max_le)).symm
  refine Reaches.bind hc fun c' hc' => ?_
  rw [requireType_of_widensTo _ (hc' ▸ DataType.widensTo_self _)]
  refine Reaches.ok_bind (Reaches.bind ha fun a' ha' => Reaches.map hb fun b' hb' => ?_)
  refine ⟨.conditional v c' a' b', ?_, rfl⟩
  have hcommon : (commonType [a', b'] span : Checked DataType) = .ok v :=
    commonType_eq_ok.2 (by simp [DataType.widenAll, ha', hb', hwiden])
  rw [hcommon]
  rfl

/-! ### Calls -/

theorem checkArgument_reaches (he : Accepts limit room check operand t) :
    Reaches limit (operand.height ≤ room) (fun e => e.dataType = t)
      (checkArgument check t operand) := by
  refine Reaches.map he fun e he' => ⟨e, ?_, he'⟩
  exact requireType_of_widensTo _ (he' ▸ DataType.widensTo_self _)

theorem checkOptional_reaches (arg : Option Expr)
    (h : ∀ a ∈ arg, a.isOmitted = false → Accepts limit room check a t) :
    Reaches limit (Expr.heightArgs arg.toList ≤ room) (fun _ => True) (checkOptional check t arg) := by
  cases arg with
  | none => exact (Reaches.ok trivial).congr (by simp [Expr.heightArgs])
  | some a =>
    rw [Option.toList_some, Expr.heightArgs, Expr.heightArgs, Nat.max_zero, checkOptional]
    by_cases ha : a.isOmitted = true
    · rw [if_pos ha, if_pos ha]
      exact (Reaches.ok trivial).congr (by simp)
    · rw [if_neg ha, if_neg ha]
      have hgiven := h a rfl (Bool.eq_false_iff.2 ha)
      exact (checkArgument_reaches hgiven).map fun e _ => ⟨some e, rfl, trivial⟩

theorem checkBetween_reaches {e l u : Expr} {te tl tu : DataType} {span : Span}
    (he : Accepts limit room check e te) (hl : Accepts limit room check l tl)
    (hu : Accepts limit room check u tu) (hte : te.isNumeric) (htl : tl.isNumeric)
    (htu : tu.isNumeric) :
    Reaches limit (e.height ≤ room ∧ l.height ≤ room ∧ u.height ≤ room)
      (fun r => r.dataType = .boolean) (checkBetween check e l u span) := by
  refine Reaches.bind he fun e' he' => Reaches.bind hl fun l' hl' => Reaches.map hu fun u' hu' => ?_
  -- Numeric types have a common type, which is numeric.
  obtain ⟨common, hcommon, hnumeric⟩ : ∃ common, DataType.widenAll [te, tl, tu] = some common ∧
      common.isNumeric = true := by
    cases te <;> cases hte <;> cases tl <;> cases htl <;> cases tu <;> cases htu <;>
      exact ⟨_, rfl, rfl⟩
  have hwiden : (commonType [e', l', u'] span : Checked DataType) = .ok common :=
    commonType_eq_ok.2 (by simpa [he', hl', hu'] using hcommon)
  refine ⟨.between .boolean e' l' u', ?_, rfl⟩
  rw [hwiden]
  exact if_pos hnumeric

theorem checkMatching_reaches {e p : Expr} (he : Accepts limit room check e .string)
    (hp : Accepts limit room check p .string) :
    Reaches limit (max e.height p.height ≤ room) (fun r => r.dataType = .boolean)
      (checkMatching check e p) := by
  refine (checkPair_reaches he hp (DataType.widensTo_self _) (DataType.widensTo_self _)).map ?_
  rintro ⟨e', p'⟩ -
  exact ⟨_, rfl, rfl⟩

theorem checkText_reaches {op : UnaryOp} {e : Expr} (he : Accepts limit room check e .string)
    (hout : op.outputType .string = some t) :
    Reaches limit (e.height ≤ room) (fun r => r.dataType = t) (checkText check op e) := by
  refine (checkArgument_reaches he).map fun e' he' => ⟨_, rfl, ?_⟩
  show (op.outputType e'.dataType).getD .string = t
  rw [he', hout]
  rfl

theorem checkNullTest_reaches {e : Expr} {name : String} {span : Span}
    (he : Accepts limit room check e t) :
    Reaches limit (e.height ≤ room) (fun r => r.dataType = .boolean)
      (checkCall check .nullTest name [e] span) :=
  Reaches.map he fun e' _ => ⟨.unary .boolean .isNull e', rfl, rfl⟩

/-- Optional arguments, of which the first may be there without the second. -/
theorem checkOptionals_reaches {α : Type} (good : α → Prop) {offsets : List Expr}
    (hcount : offsets.length ≤ 2)
    (ho : ∀ a ∈ offsets, a.isOmitted = false → Accepts limit room check a t)
    {f : Option TypedExpr → Option TypedExpr → α} (hf : ∀ a b, good (f a b)) :
    Reaches limit (Expr.heightArgs offsets ≤ room) good (do
      let a ← checkOptional check t offsets[0]?
      let b ← checkOptional check t offsets[1]?
      return f a b) := by
  have hfirst := checkOptional_reaches offsets[0]? fun a ha hgiven =>
    ho a (List.mem_of_getElem? ha) hgiven
  have hsecond := checkOptional_reaches offsets[1]? fun a ha hgiven =>
    ho a (List.mem_of_getElem? ha) hgiven
  have hboth := hfirst.bind fun a _ => hsecond.map fun b _ => ⟨f a b, rfl, hf a b⟩
  refine hboth.congr ?_
  match offsets with
  | [] => simp [Expr.heightArgs]
  | [a] => simp [Expr.heightArgs]
  | [a, b] =>
    change Expr.heightArgs [a] ≤ room ∧ Expr.heightArgs [b] ≤ room ↔ _
    simp only [Expr.heightArgs]
    omega
  | _ :: _ :: _ :: _ => simp at hcount

/-- With a number of arguments that fits, a call does not look at its name or its span. -/
theorem checkCall_substring {s : Expr} {offsets : List Expr} {name : String} {span : Span}
    (hcount : offsets.length ≤ 2) :
    checkCall check .substring name (s :: offsets) span = checkSubstring check s offsets[0]? offsets[1]? := by
  match offsets with
  | [] | [_] | [_, _] => rfl

theorem checkCall_replacement {s p : Expr} {texts : List Expr} {name : String} {span : Span}
    (hcount : texts.length ≤ 1) :
    checkCall check .replacement name (s :: p :: texts) span = checkReplacement check s p texts[0]? := by
  match texts with
  | [] | [_] => rfl

theorem checkCall_occurrence {s p : Expr} {offsets : List Expr} {name : String} {span : Span}
    (hcount : offsets.length ≤ 2) :
    checkCall check .occurrence name (s :: p :: offsets) span =
      checkOccurrence check s p offsets[0]? offsets[1]? := by
  match offsets with
  | [] | [_] | [_, _] => rfl

theorem checkSubstring_reaches {e : Expr} {offsets : List Expr} (name : String) (span : Span)
    (he : Accepts limit room check e .string) (hcount : offsets.length ≤ 2)
    (ho : ∀ a ∈ offsets, a.isOmitted = false → Accepts limit room check a .integer) :
    Reaches limit (e.height ≤ room ∧ Expr.heightArgs offsets ≤ room) (fun r => r.dataType = .string)
      (checkCall check .substring name (e :: offsets) span) := by
  have hcall := (checkArgument_reaches he).bind fun e' _ =>
    checkOptionals_reaches (fun r => r.dataType = DataType.string)
      (f := TypedExpr.substr .string e') hcount ho fun _ _ => rfl
  rw [checkCall_substring hcount]
  exact hcall

theorem checkReplacement_reaches {e p : Expr} {texts : List Expr} (name : String) (span : Span)
    (he : Accepts limit room check e .string) (hp : Accepts limit room check p .string)
    (hcount : texts.length ≤ 1)
    (ht : ∀ a ∈ texts, a.isOmitted = false → Accepts limit room check a .string) :
    Reaches limit (e.height ≤ room ∧ p.height ≤ room ∧ Expr.heightArgs texts ≤ room)
      (fun r => r.dataType = .string)
      (checkCall check .replacement name (e :: p :: texts) span) := by
  have hlast := checkOptional_reaches texts[0]? fun a ha hgiven =>
    ht a (List.mem_of_getElem? ha) hgiven
  have hcall : Reaches limit _ (fun r : TypedExpr => r.dataType = .string) _ :=
    (checkArgument_reaches he).bind fun e' _ => (checkArgument_reaches hp).bind fun p' _ =>
      hlast.map fun r' _ => ⟨TypedExpr.replace .string e' p' r', rfl, rfl⟩
  have htexts : texts[0]?.toList = texts := by
    match texts with
    | [] | [_] => rfl
  rw [htexts] at hcall
  rw [checkCall_replacement hcount]
  exact hcall

theorem checkOccurrence_reaches {e p : Expr} {offsets : List Expr} (name : String) (span : Span)
    (he : Accepts limit room check e .string) (hp : Accepts limit room check p .string)
    (hcount : offsets.length ≤ 2)
    (ho : ∀ a ∈ offsets, a.isOmitted = false → Accepts limit room check a .integer) :
    Reaches limit (e.height ≤ room ∧ p.height ≤ room ∧ Expr.heightArgs offsets ≤ room)
      (fun r => r.dataType = .integer)
      (checkCall check .occurrence name (e :: p :: offsets) span) := by
  have hcall := (checkArgument_reaches he).bind fun e' _ => (checkArgument_reaches hp).bind fun p' _ =>
    checkOptionals_reaches (fun r => r.dataType = DataType.integer)
      (f := TypedExpr.instr .integer e' p') hcount ho fun _ _ => rfl
  rw [checkCall_occurrence hcount]
  exact hcall

end Rules

/-! ### What has a type is accepted -/

theorem HasType.given {Γ : Declarations} {e : Expr} {t : DataType} (h : HasType Γ e t) :
    e.isOmitted = false := by
  cases h <;> rfl

/-- Names of functions that give texts. -/
theorem textOperation?_text {name : String}
    (h : name ∈ ["trim", "ltrim", "rtrim", "upper", "ucase", "lower", "lcase"]) :
    ∃ op, textOperation? name = some op ∧ FunctionTable.standard.call? name = some .text ∧
      op.outputType .string = some .string := by
  simp only [List.mem_cons, List.not_mem_nil, or_false] at h
  rcases h with rfl | rfl | rfl | rfl | rfl | rfl | rfl <;>
    exact ⟨_, rfl, FunctionTable.standard_call?_eq_some.2 (by decide), rfl⟩

/-- Names of functions that give lengths. -/
theorem textOperation?_length {name : String} (h : name ∈ ["length", "len"]) :
    ∃ op, textOperation? name = some op ∧ FunctionTable.standard.call? name = some .text ∧
      op.outputType .string = some .integer := by
  simp only [List.mem_cons, List.not_mem_nil, or_false] at h
  rcases h with rfl | rfl <;>
    exact ⟨_, rfl, FunctionTable.standard_call?_eq_some.2 (by decide), rfl⟩

/-- The standard rule of a function, given its name in lower case. -/
theorem Checker.checkNode_call {Γ : Declarations} {limit : Nat} {check : Check} {span : Span}
    {x name : String} {args : List Expr} {rule : CallRule} (hx : Text.toLower x = name)
    (hrule : FunctionTable.standard.call? name = some rule) :
    checkNode ⟨Γ, .standard, limit⟩ check (.call span x args) = checkCall check rule name args span := by
  simp only [checkNode, hx, hrule]

/-- The height of a call whose first arguments are there. -/
theorem Expr.heightArgs_cons_le {a : Expr} (ha : a.isOmitted = false) (as : List Expr) (n : Nat) :
    a.height ≤ n ∧ heightArgs as ≤ n ↔ heightArgs (a :: as) ≤ n := by
  rw [heightArgs, ha, if_neg Bool.false_ne_true, Nat.max_le]

theorem HasType.reaches {Γ : Declarations} {e : Expr} {t : DataType} (h : HasType Γ e t)
    (limit room : Nat) : Accepts limit room (Checker.checkWithin ⟨Γ, .standard, limit⟩ room) e t := by
  -- By induction on the levels of nesting that are left; one rule of typing meets one rule of the checker.
  induction room generalizing e t with
  | zero =>
    have hheight : ¬ e.height ≤ 0 := by
      cases e <;> simp [Expr.height]
    exact ⟨fun h => absurd h hheight, fun _ => ⟨e.span, rfl⟩⟩
  | succ room ih =>
    have hone : True ↔ 1 ≤ room + 1 := iff_of_true trivial (Nat.succ_le_succ (Nat.zero_le _))
    have hsucc : ∀ {n : Nat}, n ≤ room ↔ n + 1 ≤ room + 1 := Nat.succ_le_succ_iff.symm
    have hcall : ∀ {a : Expr} {t : DataType}, HasType Γ a t → ∀ {p : Prop} {as : List Expr},
        (p ↔ Expr.heightArgs as ≤ room) → (a.height ≤ room ∧ p ↔ Expr.heightArgs (a :: as) ≤ room) :=
      fun ha _ _ hp => (and_congr_right' hp).trans (Expr.heightArgs_cons_le ha.given _ _)
    have hlast : ∀ {a : Expr} {t : DataType}, HasType Γ a t →
        (a.height ≤ room ↔ Expr.heightArgs [a] ≤ room) := by
      intro a t ha
      simp [Expr.heightArgs, ha.given]
    unfold Accepts
    rw [Checker.checkWithin]
    cases h with
    | literal span v =>
      have hok : Reaches limit True (fun r : TypedExpr => r.dataType = v.value.dataType)
          (.ok (.const v.value.dataType v.value)) := Reaches.ok rfl
      exact hok.congr hone
    | @«variable» span x t hx =>
      have hok : Reaches limit True (fun r : TypedExpr => r.dataType = t) (.ok (.var t x)) :=
        Reaches.ok rfl
      simp only [Checker.checkNode, hx]
      exact hok.congr hone
    | parens he => exact (ih he).congr hsucc
    | not he => exact (checkUnary_reaches (ih he) (.inl ⟨rfl, rfl, rfl⟩)).congr hsucc
    | sign hop he ht =>
      simp only [List.mem_cons, List.not_mem_nil, or_false] at hop
      rcases hop with rfl | rfl <;>
        exact (checkUnary_reaches (ih he) (.inr ⟨rfl, ht⟩)).congr hsucc
    | @arithmetic span _ _ _ _ _ hop hl hr ht hu =>
      have hout := outputType_arithmetic hop ht hu
      simp only [List.mem_cons, List.not_mem_nil, or_false] at hop
      rcases hop with rfl | rfl | rfl <;>
        exact (checkArithmetic_reaches span (ih hl) (ih hr) ht hu hout).congr hsucc
    | @quotient span _ _ _ _ hl hr ht hu =>
      have hout := outputType_quotient ht hu
      exact (checkArithmetic_reaches span (ih hl) (ih hr) ht hu hout).congr hsucc
    | equality hop hl hr hfit =>
      have hout := (outputType_equality hop).2 ⟨rfl, hfit⟩
      have hwiden := DataType.widen_eq_some.2 ⟨hfit.symm.imp_left And.left, rfl⟩
      simp only [List.mem_cons, List.not_mem_nil, or_false] at hop
      rcases hop with rfl | rfl <;>
        exact (checkComparison_reaches (ih hl) (ih hr) hwiden hout).congr hsucc
    | ordering hop hl hr hfit =>
      have hout := (outputType_ordering hop).2 ⟨rfl, hfit⟩
      have hwiden := DataType.widen_eq_some.2 ⟨hfit.symm.imp_left fun h => h.1.trans h.2.symm, rfl⟩
      simp only [List.mem_cons, List.not_mem_nil, or_false] at hop
      rcases hop with rfl | rfl | rfl | rfl <;>
        exact (checkComparison_reaches (ih hl) (ih hr) hwiden hout).congr hsucc
    | @logical span _ _ _ hop hl hr =>
      have hlogical := checkLogical_reaches span hop (ih hl) (ih hr)
      simp only [List.mem_cons, List.not_mem_nil, or_false] at hop
      rcases hop with rfl | rfl | rfl <;> exact hlogical.congr hsucc
    | @concat span _ _ hl hr =>
      exact (checkConcat_reaches span (ih hl) (ih hr)).congr hsucc
    | conditional hc ha hb hfit =>
      have hwiden := DataType.widen_eq_some.2 ⟨hfit, rfl⟩
      exact (checkConditional_reaches (ih hc) (ih ha) (ih hb) hwiden).congr hsucc
    | between hx he hl hu hte htl htu =>
      have hrule : FunctionTable.standard.call? "between" = some .between :=
        FunctionTable.standard_call?_eq_some.2 (by decide)
      rw [Checker.checkNode_call hx hrule]
      have hargs := hcall he (hcall hl (hlast hu))
      exact (checkBetween_reaches (ih he) (ih hl) (ih hu) hte htl htu).congr (hargs.trans hsucc)
    | matching hx he hp =>
      have hrule : FunctionTable.standard.call? "match_characters" = some .matching :=
        FunctionTable.standard_call?_eq_some.2 (by decide)
      rw [Checker.checkNode_call hx hrule]
      have hargs := Nat.max_le.trans (hcall he (hlast hp))
      exact (checkMatching_reaches (ih he) (ih hp)).congr (hargs.trans hsucc)
    | nullTest hx he =>
      have hrule : FunctionTable.standard.call? "isnull" = some .nullTest :=
        FunctionTable.standard_call?_eq_some.2 (by decide)
      rw [Checker.checkNode_call hx hrule]
      exact (checkNullTest_reaches (ih he)).congr ((hlast he).trans hsucc)
    | text hx he =>
      obtain ⟨op, hop, hrule, hout⟩ := textOperation?_text hx
      rw [Checker.checkNode_call rfl hrule]
      simp only [checkCall, hop]
      exact (checkText_reaches (ih he) hout).congr ((hlast he).trans hsucc)
    | length hx he =>
      obtain ⟨op, hop, hrule, hout⟩ := textOperation?_length hx
      rw [Checker.checkNode_call rfl hrule]
      simp only [checkCall, hop]
      exact (checkText_reaches (ih he) hout).congr ((hlast he).trans hsucc)
    | @substring span _ _ _ hx he hcount ho =>
      have hrule : FunctionTable.standard.call? "substr" = some .substring :=
        FunctionTable.standard_call?_eq_some.2 (by decide)
      rw [Checker.checkNode_call hx hrule]
      have hsub := checkSubstring_reaches "substr" span (ih he) hcount
        fun a ha hgiven => ih (ho a ha hgiven)
      exact hsub.congr ((hcall he Iff.rfl).trans hsucc)
    | @replacement span _ _ _ _ hx he hp hcount ht =>
      have hrule : FunctionTable.standard.call? "replace" = some .replacement :=
        FunctionTable.standard_call?_eq_some.2 (by decide)
      rw [Checker.checkNode_call hx hrule]
      have hreplace := checkReplacement_reaches "replace" span (ih he) (ih hp)
        hcount fun a ha hgiven => ih (ht a ha hgiven)
      exact hreplace.congr ((hcall he (hcall hp Iff.rfl)).trans hsucc)
    | @occurrence span _ _ _ _ hx he hp hcount ho =>
      have hrule : FunctionTable.standard.call? "instr" = some .occurrence :=
        FunctionTable.standard_call?_eq_some.2 (by decide)
      rw [Checker.checkNode_call hx hrule]
      have hoccur := checkOccurrence_reaches "instr" span (ih he) (ih hp) hcount
        fun a ha hgiven => ih (ho a ha hgiven)
      exact hoccur.congr ((hcall he (hcall hp Iff.rfl)).trans hsucc)

/-- The checker decides the typing rules: it accepts the expressions that have a type and whose height the
    limit allows, and the type that it announces is the only one. Where the height of an expression with a
    type is more than the limit, the error says that. -/
theorem Checker.check_iff_hasType (Γ : Declarations) (limit : Nat) (e : Expr) :
    ((∃ t, Checker.check ⟨Γ, .standard, limit⟩ e = .ok t) ↔
      (∃ type, HasType Γ e type) ∧ e.height ≤ limit) ∧
    (∀ t, Checker.check ⟨Γ, .standard, limit⟩ e = .ok t →
      ∀ type, HasType Γ e type ↔ type = t.dataType) ∧
    (∀ type, HasType Γ e type → limit < e.height →
      ∃ span, Checker.check ⟨Γ, .standard, limit⟩ e = .error (.nestingTooDeep limit span)) := by
  have htypes : Check.Types Γ limit (Checker.check ⟨Γ, .standard, limit⟩) :=
    Checker.checkWithin_types Γ limit limit
  have haccepts : ∀ {type}, HasType Γ e type →
      Accepts limit limit (Checker.check ⟨Γ, .standard, limit⟩) e type := fun h =>
    h.reaches limit limit
  refine ⟨⟨?_, ?_⟩, ?_, ?_⟩
  · rintro ⟨t, ht⟩
    obtain ⟨htype, hheight⟩ := htypes e t ht
    exact ⟨⟨_, htype⟩, hheight⟩
  · rintro ⟨⟨type, htype⟩, hheight⟩
    obtain ⟨t, ht, -⟩ := (haccepts htype).1 hheight
    exact ⟨t, ht⟩
  · intro t ht type
    obtain ⟨htype, hheight⟩ := htypes e t ht
    constructor
    · intro hother
      obtain ⟨u, hu, rfl⟩ := (haccepts hother).1 hheight
      cases ht.symm.trans hu
      rfl
    · rintro rfl
      exact htype
  · intro type htype hheight
    exact (haccepts htype).2 (Nat.not_le.2 hheight)

end AssignScript
