import AssignScript.Proofs.Pattern.Fragment
import AssignScript.Proofs.Typing.Known

/-!
# Null goes through

An operation other than a conjunction, a disjunction, a choice and the test for null gives null as soon as one operand
is null, unless it fails. Since no operation makes up a null, an expression of such operations is null exactly if one
of its leaves is.

## Main definitions

* `Unknown`: an outcome that is null, or an error;
* `TypedExpr.IsStrict`: nodes that give null if a part of them does;
* `TypedExpr.IsNull`: leaves that are null in a context.

## Main statements

* `applyBinary_unknown`, `substring_unknown`, `replaceMatches_unknown`, `occurrence_unknown`: null goes through each
  operation;
* `TypedExpr.eval_null_propagates`: it goes through expressions, and comes from nowhere else.
-/

namespace AssignScript

/-- An outcome that is null if it is a value at all. -/
def Unknown (x : Evaluated Value) : Prop :=
  Settled (fun _ => True) (· = .null) x

namespace Unknown

theorem null : Unknown (.ok .null) := rfl

/-- What follows any outcome is null or fails if it does so for every value. -/
theorem bind {α : Type} (x : Evaluated α) {f : α → Evaluated Value} (h : ∀ a, Unknown (f a)) : Unknown (x >>= f) :=
  (Settled.of_any x).bind fun a _ => h a

/-- Null, or an error. -/
theorem cases {x : Evaluated Value} (h : Unknown x) : x = .ok .null ∨ ∃ err, x = .error err := by
  cases x with
  | ok v => exact .inl (congrArg Except.ok h)
  | error err => exact .inr ⟨err, rfl⟩

end Unknown

/-- A value that is not null, or an error. -/
theorem Known.cases {x : Evaluated Value} (h : Known x) :
    (∃ v, v ≠ .null ∧ x = .ok v) ∨ ∃ err, x = .error err := by
  cases x with
  | ok v => exact .inl ⟨v, h, rfl⟩
  | error err => exact .inr ⟨err, rfl⟩

/-! ### Operators -/

/-- An operator on one operand hands null on, unless it tests for it. -/
theorem applyUnary_null {op : UnaryOp} (h : op ≠ .isNull) : applyUnary op .null = .ok .null := by
  cases op <;> first | rfl | contradiction

/-- Only conjunctions and disjunctions can be decided where an operand is null. -/
theorem resultOfNull_eq_null {op : BinaryOp} (hand : op ≠ .and) (hor : op ≠ .or) (l r : Value) :
    resultOfNull op l r = .null := by
  cases op <;> first | rfl | contradiction

/-- An operator on two operands hands null on, unless one operand can decide it. -/
theorem applyBinary_unknown [PatternLibrary] {op : BinaryOp} (hand : op ≠ .and) (hor : op ≠ .or) {l r : Value}
    (h : l = .null ∨ r = .null) : Unknown (applyBinary op l r) := by
  have hnull : (l.isNull || r.isNull) = true := by
    rcases h with rfl | rfl
    · rfl
    · exact Bool.or_true _
  unfold applyBinary
  rw [if_pos hnull, resultOfNull_eq_null hand hor]
  exact Unknown.null

/-! ### Functions of more operands -/

theorem between_unknown {v l u : Value} (h : v = .null ∨ l = .null ∨ u = .null) : Unknown (between v l u) := by
  have hnull : (v.isNull || l.isNull || u.isNull) = true := by
    rcases h with rfl | rfl | rfl <;> simp [Value.isNull]
  unfold between
  rw [if_pos hnull]
  exact Unknown.null

/-- A text that is null is no text, if it is an argument at all. -/
theorem textArgument_unknown (function : String) (v : Value) :
    Settled (fun _ => True) (fun s => v = .null → s = none) (textArgument function v) := by
  cases v with
  | null => exact .ok fun _ => rfl
  | string s => exact .ok fun h => nomatch h
  | _ => trivial

/-- An offset that is there and null is none, if it is an argument at all. -/
theorem offsetArgument_unknown (function : String) (default : Int64) (o : Option Value) :
    Settled (fun _ => True) (fun i => o = some .null → i = none) (offsetArgument function default o) := by
  cases o with
  | none => exact .ok fun h => nomatch h
  | some v =>
    cases v with
    | null => exact .ok fun _ => rfl
    | integer i => exact .ok fun h => nomatch h
    | _ => trivial

theorem substring_unknown {v : Value} {first last : Option Value}
    (h : v = .null ∨ first = some .null ∨ last = some .null) : Unknown (substring v first last) := by
  refine (textArgument_unknown "substr" v).bind fun s hs => ?_
  cases s with
  | none => exact Unknown.null
  | some s =>
    refine (offsetArgument_unknown "substr" 0 first).bind fun i hi => ?_
    refine (offsetArgument_unknown "substr" (lengthOf s) last).bind fun j hj => ?_
    -- All arguments were there, so none was null.
    split
    · rcases h with h | h | h
      · cases hs h
      · cases hi h
      · cases hj h
    · exact Unknown.null

theorem replaceMatches_unknown [PatternLibrary] {v p : Value} {r : Option Value} (h : v = .null ∨ p = .null ∨ r = some .null) :
    Unknown (replaceMatches v p r) := by
  unfold replaceMatches
  extract_lets rest
  have hrest : ∀ t : Option String, (r = some .null → t = none) → Unknown (rest t) := by
    intro t ht
    refine (textArgument_unknown "replace" v).bind fun s hs => ?_
    refine (textArgument_unknown "replace" p).bind fun p hp => ?_
    split
    · rcases h with h | h | h
      · cases hs h
      · cases hp h
      · cases ht h
    · exact Unknown.null
  cases r with
  | none => exact hrest (some "") fun h => nomatch h
  | some w =>
    refine (textArgument_unknown "replace" w).bind fun t ht => hrest t fun hw => ht ?_
    exact Option.some.inj hw

theorem occurrence_unknown {v p : Value} {start n : Option Value}
    (h : v = .null ∨ p = .null ∨ start = some .null ∨ n = some .null) : Unknown (occurrence v p start n) := by
  refine (textArgument_unknown "instr" v).bind fun s hs => ?_
  refine (textArgument_unknown "instr" p).bind fun p hp => ?_
  split
  · refine (offsetArgument_unknown "instr" 0 start).bind fun i hi => ?_
    refine (offsetArgument_unknown "instr" 1 n).bind fun j hj => ?_
    split
    · rcases h with h | h | h | h
      · cases hs h
      · cases hp h
      · cases hi h
      · cases hj h
    · exact Unknown.null
  · exact Unknown.null

/-! ### Expressions -/

namespace TypedExpr

variable {context : Context}

/-- A node that gives null if a part of it does: no conjunction, no disjunction, no choice and no test for null. -/
def IsStrict : TypedExpr → Prop
  | .unary _ op _ => op ≠ .isNull
  | .binary _ op _ _ => op ≠ .and ∧ op ≠ .or
  | .conditional _ _ _ _ => False
  | _ => True

/-- A leaf that is null in a context: the constant, or a variable that stands for it. -/
def IsNull (context : Context) : TypedExpr → Prop
  | .const _ v => v = .null
  | .var _ x => context.get? x = some .null
  | _ => False

section Evaluation

variable [PatternLibrary]

/-- An argument that is there and null, or fails. -/
theorem evalOptional_unknown {c : TypedExpr} (h : Unknown (c.eval context)) :
    Settled (fun _ => True) (· = some .null) (evalOptional context (some c)) := by
  rw [evalOptional]
  exact Settled.bind h fun v hv => .ok (congrArg some hv)

/-- A strict node gives null, or fails, if one of its parts does. -/
theorem eval_unknown_of_child {e c : TypedExpr} (he : e.IsStrict) (hc : c ∈ e.children)
    (h : Unknown (c.eval context)) : Unknown (e.eval context) := by
  -- The parts before it may have any value, and so may those behind.
  cases e <;>
    simp only [children, List.not_mem_nil, List.mem_cons, List.mem_append, Option.mem_toList,
      or_false] at hc
  case unary t op e =>
    subst hc
    rw [eval]
    refine Settled.bind h fun v hv => ?_
    rw [hv, applyUnary_null he]
    exact Unknown.null
  case binary t op l r =>
    rw [eval]
    rcases hc with rfl | rfl
    · exact Settled.bind h fun l hl => Unknown.bind _ fun r => applyBinary_unknown he.1 he.2 (.inl hl)
    · exact Unknown.bind _ fun l => Settled.bind h fun r hr => applyBinary_unknown he.1 he.2 (.inr hr)
  case between t e l u =>
    rw [eval]
    rcases hc with rfl | rfl | rfl
    · exact Settled.bind h fun v hv => Unknown.bind _ fun l => Unknown.bind _ fun u => between_unknown (.inl hv)
    · exact Unknown.bind _ fun v => Settled.bind h fun l hl => Unknown.bind _ fun u => between_unknown (.inr (.inl hl))
    · exact Unknown.bind _ fun v => Unknown.bind _ fun l => Settled.bind h fun u hu => between_unknown (.inr (.inr hu))
  case substr t e a b =>
    rw [eval]
    rcases hc with rfl | rfl | rfl
    · exact Settled.bind h fun v hv => Unknown.bind _ fun i => Unknown.bind _ fun j => substring_unknown (.inl hv)
    · exact Unknown.bind _ fun v => (evalOptional_unknown h).bind fun i hi => Unknown.bind _ fun j =>
        substring_unknown (.inr (.inl hi))
    · exact Unknown.bind _ fun v => Unknown.bind _ fun i => (evalOptional_unknown h).bind fun j hj =>
        substring_unknown (.inr (.inr hj))
  case replace t e p a =>
    rw [eval]
    rcases hc with rfl | rfl | rfl
    · exact Settled.bind h fun v hv => Unknown.bind _ fun p => Unknown.bind _ fun r => replaceMatches_unknown (.inl hv)
    · exact Unknown.bind _ fun v => Settled.bind h fun p hp => Unknown.bind _ fun r =>
        replaceMatches_unknown (.inr (.inl hp))
    · exact Unknown.bind _ fun v => Unknown.bind _ fun p => (evalOptional_unknown h).bind fun r hr =>
        replaceMatches_unknown (.inr (.inr hr))
  case instr t e p a b =>
    rw [eval]
    rcases hc with rfl | rfl | rfl | rfl
    · exact Settled.bind h fun v hv => Unknown.bind _ fun p => Unknown.bind _ fun i => Unknown.bind _ fun j =>
        occurrence_unknown (.inl hv)
    · exact Unknown.bind _ fun v => Settled.bind h fun p hp => Unknown.bind _ fun i => Unknown.bind _ fun j =>
        occurrence_unknown (.inr (.inl hp))
    · refine Unknown.bind _ fun v => Unknown.bind _ fun p => (evalOptional_unknown h).bind fun i hi => ?_
      exact Unknown.bind _ fun j => occurrence_unknown (.inr (.inr (.inl hi)))
    · refine Unknown.bind _ fun v => Unknown.bind _ fun p => Unknown.bind _ fun i => ?_
      exact (evalOptional_unknown h).bind fun j hj => occurrence_unknown (.inr (.inr (.inr hj)))
  case conditional => exact he.elim

/-- An expression of strict nodes in which a leaf is null is null, or fails. -/
theorem eval_unknown_of_leaf {e leaf : TypedExpr} (h : leaf.Inside e) (hnull : leaf.IsNull context)
    (hstrict : ∀ n : TypedExpr, n.Inside e → n.IsStrict) : Unknown (e.eval context) := by
  induction h with
  | self =>
    cases leaf with
    | const t v =>
      rw [eval]
      exact hnull
    | var t x =>
      rw [eval, Context.read, show context.get? x = some .null from hnull]
      exact Unknown.null
    | _ => exact hnull.elim
  | @child c e hc _ ih =>
    exact eval_unknown_of_child (hstrict e .self) hc (ih fun n hn => hstrict n (.child hc hn))

/-- An expression in which no leaf is null is not null, or fails. -/
theorem eval_known_of_leaves (e : TypedExpr) (h : ∀ n : TypedExpr, n.Inside e → ¬ n.IsNull context) :
    Known (e.eval context) := by
  induction e using induction_on_children with
  | h e ih =>
    have hself := h e .self
    have hparts : ∀ c ∈ e.children, Known (c.eval context) :=
      fun c hc => ih c hc fun n hn => h n (.child hc hn)
    cases e with
    | const t v =>
      rw [eval]
      exact .ok hself
    | var t x =>
      rw [eval, Context.read]
      split
      · next v hv =>
        refine conform_known _ _ fun hnull => hself ?_
        rw [IsNull, hv, hnull]
      · exact .error _
    | _ => exact eval_known_of_children (List.cons_ne_nil _ _) hparts

/-- Null goes through an expression without conjunctions, disjunctions, choices and tests for null, and comes from
    nowhere else: if a leaf is null the expression is null or fails, and if none is it has another value or fails.
    This holds of every typed expression, so of every one that the checker makes, and in every context. -/
theorem eval_null_propagates (e : TypedExpr) (context : Context)
    (hstrict : ∀ n : TypedExpr, n.Inside e → n.IsStrict) :
    ((∃ leaf : TypedExpr, leaf.Inside e ∧ leaf.IsNull context) →
      e.eval context = .ok .null ∨ ∃ err, e.eval context = .error err) ∧
    ((¬ ∃ leaf : TypedExpr, leaf.Inside e ∧ leaf.IsNull context) →
      (∃ v, v ≠ .null ∧ e.eval context = .ok v) ∨ ∃ err, e.eval context = .error err) := by
  constructor
  · rintro ⟨leaf, hleaf, hnull⟩
    exact (eval_unknown_of_leaf hleaf hnull hstrict).cases
  · intro hnone
    exact (eval_known_of_leaves e fun n hn hnull => hnone ⟨n, hn, hnull⟩).cases

end Evaluation

open scoped Fragment in
/-- A part of a text from its start up to a variable, which makes the part null if it is null itself. -/
theorem eval_null_propagates_substr :
    let e : TypedExpr := .substr .string (.const .string (.string "text")) none (some (.var .integer "n"))
    let unknown : Context := NameMap.empty.insert "n" .null
    let known : Context := NameMap.empty.insert "n" (.integer 2)
    (∀ n : TypedExpr, n.Inside e → n.IsStrict) ∧
      ((∃ leaf : TypedExpr, leaf.Inside e ∧ leaf.IsNull unknown) ∧ e.eval unknown = .ok .null) ∧
      (¬ ∃ leaf : TypedExpr, leaf.Inside e ∧ leaf.IsNull known) ∧
      ∃ v, v ≠ .null ∧ e.eval known = .ok v := by
  intro e unknown known
  have hparts : ∀ n : TypedExpr, n.Inside e →
      n = e ∨ n = .const .string (.string "text") ∨ n = .var .integer "n" := by
    rintro n (_ | ⟨hc, hinside⟩)
    · exact .inl rfl
    · simp only [e, children, Option.toList, List.nil_append, List.mem_cons, List.not_mem_nil, or_false] at hc
      rcases hc with rfl | rfl <;> rcases hinside with _ | ⟨⟨⟩, -⟩
      · exact .inr (.inl rfl)
      · exact .inr (.inr rfl)
  have hstrict : ∀ n : TypedExpr, n.Inside e → n.IsStrict := by
    intro n hn
    rcases hparts n hn with rfl | rfl | rfl <;> trivial
  have hleaf : ∃ leaf : TypedExpr, leaf.Inside e ∧ leaf.IsNull unknown :=
    ⟨.var .integer "n", .child (by simp [e, children]) .self, rfl⟩
  have hnone : ¬ ∃ leaf : TypedExpr, leaf.Inside e ∧ leaf.IsNull known := by
    rintro ⟨leaf, hleaf, hnull⟩
    rcases hparts leaf hleaf with rfl | rfl | rfl
    · exact hnull
    · cases hnull
    · cases (hnull : some (Value.integer 2) = some .null)
  refine ⟨hstrict, ⟨hleaf, ?_⟩, hnone, ?_⟩
  · refine ((eval_null_propagates e unknown hstrict).1 hleaf).resolve_right ?_
    rintro ⟨err, herr⟩
    cases herr
  · refine ((eval_null_propagates e known hstrict).2 hnone).resolve_right ?_
    rintro ⟨err, herr⟩
    cases herr

end TypedExpr

end AssignScript
