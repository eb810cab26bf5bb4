import Mathlib.Algebra.Group.Int.Defs
import AssignScript.Eval
import AssignScript.Proofs.Evaluation.Parts
import AssignScript.Proofs.Pattern.Fragment

/-!
# Arithmetic on whole numbers is exact

Sums, differences, products and signs of whole numbers come to the exact number, as long as every number on the way
has 64 bits. Otherwise evaluation overflows where the first one has more, and nothing else happens.

## Main definitions

* `InRange`: numbers of 64 bits;
* `TypedExpr.IsWhole`: expressions of whole numbers;
* `TypedExpr.exactValue`: their numbers, however large;
* `exactOutcome`: what exact arithmetic comes to that is watched for its range.

## Main statements

* `TypedExpr.eval_eq_exactOutcome`: evaluation is exact arithmetic that is watched for its range;
* `TypedExpr.eval_exact`: it gives the exact number, or overflows at the first operator that goes out of range.
-/

namespace AssignScript

/-- The whole numbers of 64 bits. -/
def InRange (n : Int) : Prop :=
  -2 ^ 63 ≤ n ∧ n ≤ 2 ^ 63 - 1

instance : DecidablePred InRange := fun n => inferInstanceAs (Decidable (-2 ^ 63 ≤ n ∧ n ≤ 2 ^ 63 - 1))

theorem InRange.toInt_ofInt {n : Int} (h : InRange n) : (Int64.ofInt n).toInt = n :=
  Int64.toInt_ofInt_of_le h.1 (by have := h.2; omega)

theorem inRange_toInt (i : Int64) : InRange i.toInt :=
  ⟨i.le_toInt, by have := i.toInt_lt; omega⟩

/-- A sum of 64 bits is exact. -/
theorem InRange.toInt_add {i j : Int64} (h : InRange (i.toInt + j.toInt)) : (i + j).toInt = i.toInt + j.toInt := by
  rw [← Int64.ofInt_toInt i, ← Int64.ofInt_toInt j, ← Int64.ofInt_add, h.toInt_ofInt, Int64.ofInt_toInt,
    Int64.ofInt_toInt]

/-- A difference of 64 bits is exact. -/
theorem InRange.toInt_sub {i j : Int64} (h : InRange (i.toInt - j.toInt)) : (i - j).toInt = i.toInt - j.toInt := by
  rw [← Int64.ofInt_toInt i, ← Int64.ofInt_toInt j, ← Int64.ofInt_sub, h.toInt_ofInt, Int64.ofInt_toInt,
    Int64.ofInt_toInt]

theorem exactInteger_eq (operation : String) (n : Int) :
    exactInteger operation n =
      if InRange n then .ok (.integer (.ofInt n)) else .error (.overflow operation) := rfl

namespace TypedExpr

/-! ### Expressions of whole numbers -/

/-- An expression of whole numbers, of variables that stand for such, of signs, and of sums, differences and
    products. -/
def IsWhole (context : Context) : TypedExpr → Prop
  | .const _ v => ∃ i, v = .integer i
  | .var t x => t = .integer ∧ ∃ i, context.get? x = some (.integer i)
  | .unary _ op e => (op = .plus ∨ op = .minus) ∧ e.IsWhole context
  | .binary _ op l r => (op = .add ∨ op = .sub ∨ op = .mul) ∧ l.IsWhole context ∧ r.IsWhole context
  | _ => False

/-- The number that an expression of whole numbers stands for, with as many bits as it takes. -/
def exactValue (context : Context) : TypedExpr → Int
  | .const _ (.integer i) => i.toInt
  | .var _ x =>
    match context.get? x with
    | some (.integer i) => i.toInt
    | _ => 0
  | .unary _ .plus e => e.exactValue context
  | .unary _ .minus e => -e.exactValue context
  | .binary _ .add l r => l.exactValue context + r.exactValue context
  | .binary _ .sub l r => l.exactValue context - r.exactValue context
  | .binary _ .mul l r => l.exactValue context * r.exactValue context
  | _ => 0

/-- The operator outside in an expression, as it is named. -/
def operator? : TypedExpr → Option String
  | .unary _ op _ => some op.symbol
  | .binary _ op _ _ => some op.symbol
  | _ => none

end TypedExpr

/-! ### Exact arithmetic that is watched for its range -/

/-- What exact arithmetic comes to that goes by some expressions and ends in a number: an overflow at the first of them
    that is out of range, or else the number. -/
def exactOutcome (context : Context) (nodes : List TypedExpr) (n : Int) : Evaluated Value :=
  match nodes.find? fun e => ¬ InRange (e.exactValue context) with
  | none => .ok (.integer (.ofInt n))
  | some e => .error (.overflow (e.operator?.getD ""))

section Outcome

variable {context : Context} {nodes nodes' : List TypedExpr} {m n : Int}

/-- What is done to a number goes on from there, if it was reached within the range. -/
theorem exactOutcome_bind {f : Value → Evaluated Value}
    (h : (∀ e ∈ nodes, InRange (e.exactValue context)) →
      f (.integer (.ofInt m)) = exactOutcome context nodes' n) :
    (exactOutcome context nodes m >>= f) = exactOutcome context (nodes ++ nodes') n := by
  unfold exactOutcome at h ⊢
  rw [List.find?_append]
  cases hfind : nodes.find? fun e => ¬ InRange (e.exactValue context) with
  | none => exact h fun e he => by simpa using List.find?_eq_none.1 hfind e he
  | some e => rfl

/-- An expression that is in range changes nothing. -/
theorem exactOutcome_of_inRange {e : TypedExpr} (h : InRange (e.exactValue context)) :
    exactOutcome context [e] n = .ok (.integer (.ofInt n)) := by
  simp [exactOutcome, h]

/-- An operation that is exact or overflows does as exact arithmetic does. -/
theorem exactInteger_eq_exactOutcome {e : TypedExpr} {operation : String} (hop : e.operator? = some operation) :
    exactInteger operation (e.exactValue context) = exactOutcome context [e] (e.exactValue context) := by
  by_cases h : InRange (e.exactValue context)
  · rw [exactOutcome_of_inRange h, exactInteger_eq, if_pos h]
  · simp [exactInteger_eq, exactOutcome, h, hop]

end Outcome

namespace TypedExpr

variable {context : Context}

/-- Out of range is only what an operator makes of whole numbers. -/
theorem operator?_of_not_inRange {e : TypedExpr} (he : e.IsWhole context) (h : ¬ InRange (e.exactValue context)) :
    ∃ operation, e.operator? = some operation := by
  cases e with
  | const t v =>
    obtain ⟨i, rfl⟩ := he
    exact absurd (inRange_toInt i) h
  | var t x =>
    obtain ⟨-, i, hx⟩ := he
    rw [exactValue, hx] at h
    exact absurd (inRange_toInt i) h
  | unary t op e => exact ⟨op.symbol, rfl⟩
  | binary t op l r => exact ⟨op.symbol, rfl⟩
  | _ => exact he.elim

theorem IsWhole.inside {n e : TypedExpr} (hn : n.Inside e) (h : e.IsWhole context) : n.IsWhole context := by
  induction hn with
  | self => exact h
  | @child c e hc _ ih =>
    refine ih ?_
    cases e <;> simp only [children, List.mem_cons, List.not_mem_nil, or_false] at hc
    case unary => exact hc ▸ h.2
    case binary =>
      rcases hc with rfl | rfl
      · exact h.2.1
      · exact h.2.2
    all_goals exact h.elim

/-- The evaluation of an expression of whole numbers is exact arithmetic that is watched for its range. -/
theorem eval_eq_exactOutcome [PatternLibrary] (e : TypedExpr) (h : e.IsWhole context) :
    e.eval context = exactOutcome context e.postorder (e.exactValue context) := by
  -- Where all numbers of an operand are in range, its own one is there with its 64 bits.
  have hvalue : ∀ n : TypedExpr, (∀ m ∈ n.postorder, InRange (m.exactValue context)) →
      ∃ i : Int64, Int64.ofInt (n.exactValue context) = i ∧ n.exactValue context = i.toInt :=
    fun n hn => ⟨_, rfl, (hn n (mem_postorder.2 .self)).toInt_ofInt.symm⟩
  induction e using induction_on_children with
  | h e ih =>
    cases e <;> simp only [children, List.forall_mem_cons] at ih <;> rw [postorder]
    case const t v =>
      obtain ⟨i, rfl⟩ := h
      have hi : (TypedExpr.const t (.integer i)).exactValue context = i.toInt := rfl
      rw [eval, hi, exactOutcome_of_inRange (hi ▸ inRange_toInt i), Int64.ofInt_toInt]
    case var t x =>
      obtain ⟨rfl, i, hx⟩ := h
      have hi : (TypedExpr.var .integer x).exactValue context = i.toInt := by rw [exactValue, hx]
      rw [eval, hi, exactOutcome_of_inRange (hi ▸ inRange_toInt i), Int64.ofInt_toInt, Context.read, hx]
      rfl
    case unary t op e =>
      obtain ⟨hop, he⟩ := h
      rw [eval, ih.1 he]
      refine exactOutcome_bind fun hrange => ?_
      rcases hop with rfl | rfl
      · exact (exactOutcome_of_inRange (e := .unary t .plus e) (hrange e (mem_postorder.2 .self))).symm
      · obtain ⟨i, hi, hexact⟩ := hvalue e hrange
        rw [← exactInteger_eq_exactOutcome rfl, exactValue, hi, hexact]
        rfl
    case binary t op l r =>
      obtain ⟨hop, hl, hr⟩ := h
      rw [eval, ih.1 hl]
      refine exactOutcome_bind fun hleft => ?_
      rw [ih.2.1 hr]
      refine exactOutcome_bind fun hright => ?_
      obtain ⟨i, hi, hexact⟩ := hvalue l hleft
      obtain ⟨j, hj, hexact'⟩ := hvalue r hright
      rw [← exactInteger_eq_exactOutcome rfl, hi, hj]
      rcases hop with rfl | rfl | rfl <;> rw [exactValue, hexact, hexact'] <;> rfl
    all_goals exact h.elim

/-- Arithmetic on whole numbers is exact or fails. An expression of whole numbers whose exact numbers all have 64 bits
    gives the exact one of its own. Otherwise it overflows, and what is named is the operator of the first expression
    inside, from left to right and each behind its parts, whose number has more. -/
theorem eval_exact [PatternLibrary] (e : TypedExpr) (context : Context) (h : e.IsWhole context) :
    ((∀ n : TypedExpr, n.Inside e → InRange (n.exactValue context)) →
      ∃ i, e.eval context = .ok (.integer i) ∧ i.toInt = e.exactValue context) ∧
    ((∃ n : TypedExpr, n.Inside e ∧ ¬ InRange (n.exactValue context)) →
      ∃ before n behind operation, e.postorder = before ++ n :: behind ∧
        (∀ m ∈ before, InRange (m.exactValue context)) ∧ ¬ InRange (n.exactValue context) ∧
        n.operator? = some operation ∧ e.eval context = .error (.overflow operation)) := by
  rw [eval_eq_exactOutcome e h, exactOutcome]
  constructor
  · intro hrange
    have hnone : e.postorder.find? (fun n => ¬ InRange (n.exactValue context)) = none :=
      List.find?_eq_none.2 fun n hn => by simpa using hrange n (mem_postorder.1 hn)
    rw [hnone]
    exact ⟨_, rfl, (hrange e .self).toInt_ofInt⟩
  · rintro ⟨m, hm, hout⟩
    cases hfind : e.postorder.find? fun n => ¬ InRange (n.exactValue context) with
    | none =>
      have hin : InRange (m.exactValue context) := by
        simpa using List.find?_eq_none.1 hfind m (mem_postorder.2 hm)
      exact absurd hin hout
    | some n =>
      obtain ⟨hn, before, behind, hsplit, hbefore⟩ := List.find?_eq_some_iff_append.1 hfind
      have hn : ¬ InRange (n.exactValue context) := by simpa using hn
      have hinside : n.Inside e := mem_postorder.1 (hsplit ▸ by simp)
      obtain ⟨operation, hoperation⟩ := operator?_of_not_inRange (h.inside hinside) hn
      exact ⟨before, n, behind, operation, hsplit, by simpa using hbefore, hn, hoperation, by
        simp only [hoperation, Option.getD_some]⟩

open scoped Fragment in
/-- Five has a negative, and the least number of 64 bits has none. -/
theorem eval_exact_negative :
    let e := unary .integer .minus (.var .integer "x")
    (∃ i, e.eval (NameMap.empty.insert "x" (.integer 5)) = .ok (.integer i) ∧ i.toInt = -5) ∧
    e.eval (NameMap.empty.insert "x" (.integer Int64.minValue)) = .error (.overflow "-") := by
  intro e
  have hwhole : ∀ i, e.IsWhole (NameMap.empty.insert "x" (.integer i)) := fun i => ⟨.inr rfl, rfl, i, rfl⟩
  constructor
  · have hrange : ∀ n ∈ e.postorder, InRange (n.exactValue (NameMap.empty.insert "x" (.integer 5))) := by decide
    exact (eval_exact e _ (hwhole 5)).1 fun n hn => hrange n (mem_postorder.2 hn)
  · obtain ⟨before, n, behind, operation, hsplit, -, hn, hoperation, heval⟩ :=
      (eval_exact e _ (hwhole Int64.minValue)).2 ⟨e, .self, by decide⟩
    have hmem : n ∈ e.postorder := hsplit ▸ by simp
    have hinside : n = .var .integer "x" ∨ n = e := by simpa [e, postorder] using hmem
    rcases hinside with rfl | rfl
    · exact absurd (by decide) hn
    · exact (Option.some.inj hoperation : "-" = operation) ▸ heval

end TypedExpr

end AssignScript
