import AssignScript.Proofs.Evaluation.Depth
import AssignScript.Proofs.Typing.Dependence
import AssignScript.Proofs.Typing.Node
import AssignScript.Proofs.Typing.Visitor

/-!
# The limit of nesting for checks is exact

An expression is accepted exactly if it is without a limit, and no more expressions stand inside one another than the
limit allows. Otherwise it is rejected for the same reason as without one, or for its nesting. Expressions that are
visited one after the other with one counter do not get in each other's way.

## Main definitions

* `Checker.unlimited`: checks without a limit;
* `Comparison.successes`: what is compared.

## Main statements

* `Checker.unlimited_eq`: without a limit, an expression is checked by the checks of those inside it;
* `Checker.check_eq_ok_iff_unlimited`: what the limit lets through;
* `Checker.visits_limit_exact`: the limit is exact and leaves no trace.
-/

namespace AssignScript

namespace Expr

theorem height_pos (e : Expr) : 0 < e.height := by
  cases e <;> simp only [height, Nat.zero_lt_succ]

theorem heightArgs_singleton_le (e : Expr) : heightArgs [e] ≤ e.height :=
  heightArgs_le_iff.2 (by simp)

/-- An expression is higher than any inside it, up to placeholders. -/
theorem height_lt_of_mem_children {i e : Expr} (hi : i ∈ e.children) (hgiven : i.isOmitted = false) :
    i.height < e.height :=
  calc
    i.height ≤ heightArgs [i] := heightArgs_le_iff.1 (Nat.le_refl _) i List.mem_cons_self hgiven
    _ < heightArgs [e] := heightArgs_lt_of_mem_children hi
    _ ≤ e.height := heightArgs_singleton_le e

end Expr

/-! ### Heights -/

section Heights

variable {check : Check}

/-- A check that accepts no expressions higher than some number, and makes none of them. -/
def Check.Bounded (room : Nat) (check : Check) : Prop :=
  ∀ i u, check i = .ok u → i.height ≤ room ∧ u.height ≤ room

theorem Arguments.height_le {room : Nat} (hc : check.Bounded room) {is : List Expr} {ts : List TypedExpr}
    (h : Arguments check is ts) : Expr.heightArgs is ≤ room ∧ ∀ u ∈ ts, u.height ≤ room := by
  induction h with
  | nil => exact ⟨Nat.zero_le _, nofun⟩
  | given h _ ih =>
    obtain ⟨hi, hu⟩ := hc _ _ h
    refine ⟨?_, List.forall_mem_cons.2 ⟨hu, ih.2⟩⟩
    rw [Expr.heightArgs, Nat.max_le]
    refine ⟨?_, ih.1⟩
    split
    · exact Nat.zero_le _
    · exact hi
  | omitted h _ ih =>
    rw [Expr.heightArgs, h, if_pos rfl, Nat.zero_max]
    exact ih

/-- What is built from parts of some height is at most one higher. -/
theorem Builds.height_le {room : Nat} (hc : check.Bounded room) {e : Expr} {t : TypedExpr} (h : Builds check e t) :
    e.height ≤ room + 1 ∧ t.height ≤ room + 1 := by
  cases h with
  | literal s v => exact ⟨Nat.le_add_left 1 room, Nat.le_add_left 1 room⟩
  | «variable» s x type => exact ⟨Nat.le_add_left 1 room, Nat.le_add_left 1 room⟩
  | parens h =>
    obtain ⟨hi, ht⟩ := hc _ _ h
    exact ⟨Nat.succ_le_succ hi, Nat.le_succ_of_le ht⟩
  | unary _ h =>
    obtain ⟨hi, ht⟩ := hc _ _ h
    exact ⟨Nat.succ_le_succ hi, Nat.succ_le_succ ht⟩
  | binary _ hl hr =>
    obtain ⟨hl, ht⟩ := hc _ _ hl
    obtain ⟨hr, hu⟩ := hc _ _ hr
    exact ⟨Nat.succ_le_succ (Nat.max_le.2 ⟨hl, hr⟩), Nat.succ_le_succ (Nat.max_le.2 ⟨ht, hu⟩)⟩
  | conditional _ hi ha hb =>
    obtain ⟨hi, ht⟩ := hc _ _ hi
    obtain ⟨ha, hu⟩ := hc _ _ ha
    obtain ⟨hb, hv⟩ := hc _ _ hb
    exact ⟨Nat.succ_le_succ (Nat.max_le.2 ⟨hi, Nat.max_le.2 ⟨ha, hb⟩⟩),
      Nat.succ_le_succ (Nat.max_le.2 ⟨ht, Nat.max_le.2 ⟨hu, hv⟩⟩)⟩
  | call h =>
    obtain ⟨hargs, hts⟩ := h.height_le hc
    exact ⟨Nat.succ_le_succ hargs, TypedExpr.height_le_succ_iff.2 hts⟩

end Heights

/-- One check beside another one that accepts the same, whatever the errors are. -/
def Comparison.successes : Comparison where
  stops _ := False
  errors _ _ := True
  spans := (· = ·)
  trees := (· = ·)
  errors_of_alike _ := trivial
  congruence := TypedExpr.congruence_eq

namespace Checker

variable (c : Checker) {e : Expr} {t : TypedExpr}

/-! ### No limit -/

/-- An expression with as much room as it can take. -/
def unlimited (c : Checker) (e : Expr) : Checked TypedExpr :=
  c.checkWithin (e.height + 1) e

/-- What is accepted is no higher than there is room, and what comes of it is not either. -/
theorem checkWithin_bounded (room : Nat) : Check.Bounded room (c.checkWithin room) := by
  induction room with
  | zero => exact fun e t h => nomatch h
  | succ room ih =>
    intro e t h
    have hbuilds := c.checkNode_settled (c.checkWithin room) e
    rw [← checkWithin, h] at hbuilds
    exact hbuilds.height_le ih

/-- With more room than its height, which counts as among arguments, an expression is not nested too deeply. -/
theorem checkWithin_ne_nestingTooDeep (room : Nat) : ∀ e, Expr.heightArgs [e] < room →
    ∀ limit span, c.checkWithin room e ≠ .error (.nestingTooDeep limit span) := by
  induction room with
  | zero => exact fun e h => absurd h (Nat.not_lt_zero _)
  | succ room ih =>
    intro e hroom limit span h
    have hraises := c.checkNode_settled (c.checkWithin room) e
    rw [← checkWithin, h] at hraises
    -- No rule raises this error by itself.
    cases hraises with
    | @inside _ i _ hi h =>
      exact ih i (Nat.lt_of_lt_of_le (Expr.heightArgs_lt_of_mem_children hi) (by omega)) limit span h

/-- As much room as an expression takes is enough. -/
theorem unlimited_eq_checkWithin {room : Nat} (h : Expr.heightArgs [e] < room) :
    c.unlimited e = c.checkWithin room e := by
  have hown : Expr.heightArgs [e] < e.height + 1 := Nat.lt_succ_of_le e.heightArgs_singleton_le
  rcases Nat.le_total (e.height + 1) room with hle | hle
  · exact (c.checkWithin_eq_of_le e hle).resolve_left fun ⟨s, hs⟩ =>
      c.checkWithin_ne_nestingTooDeep (e.height + 1) e hown _ s hs
  · exact ((c.checkWithin_eq_of_le e hle).resolve_left fun ⟨s, hs⟩ =>
      c.checkWithin_ne_nestingTooDeep room e h _ s hs).symm

/-- Without a limit, an expression is checked by the checks of those inside it. -/
theorem unlimited_eq (e : Expr) : c.unlimited e = c.checkNode c.unlimited e := by
  have hchildren : ∀ i ∈ e.children, Comparison.equal.Operands (c.checkWithin e.height) c.unlimited i i := by
    intro i hi
    have hroom : Expr.heightArgs [i] < e.height :=
      Nat.lt_of_lt_of_le (Expr.heightArgs_lt_of_mem_children hi) e.heightArgs_singleton_le
    exact ⟨rfl, rfl, Comparison.related_equal_iff.2 (c.unlimited_eq_checkWithin hroom).symm⟩
  have hnode := checkNode_mapChildren_related (K := .equal) (f := id) (g := id) (c.seesAlike_self e)
    (fun _ _ _ _ _ => rfl) rfl hchildren
  rw [Expr.mapChildren_id] at hnode
  exact Comparison.related_equal_iff.1 hnode

/-! ### The limit -/

/-- What is accepted without a limit is accepted with as much room as it is high. -/
theorem checkWithin_of_unlimited (room : Nat) : ∀ e t, c.unlimited e = .ok t → e.height ≤ room →
    c.checkWithin room e = .ok t := by
  induction room with
  | zero => exact fun e t _ h => absurd e.height_pos (Nat.not_lt_of_le h)
  | succ room ih =>
    intro e t h hheight
    rw [unlimited_eq] at h
    have hbuilds : Builds c.unlimited e t := by
      have hsettled := c.checkNode_settled c.unlimited e
      rwa [h] at hsettled
    have hchildren : ∀ i ∈ e.children, Comparison.successes.Operands (c.checkWithin room) c.unlimited i i := by
      intro i hi
      refine ⟨rfl, rfl, ?_⟩
      rcases i.omitted_or_given with ⟨s, rfl⟩ | hgiven
      · -- The check of a placeholder fails with any room, for one reason or another.
        cases room with
        | zero => exact .error trivial
        | succ room => exact .error trivial
      · obtain ⟨u, hu⟩ := (hbuilds.given_or_omitted hi).resolve_left (by simp [hgiven])
        have hlt := Expr.height_lt_of_mem_children hi hgiven
        have hroom : c.checkWithin room i = .ok u := ih i u hu (by omega)
        rw [hroom, hu]
        exact .ok rfl
    have hnode := checkNode_mapChildren_related (K := .successes) (f := id) (g := id) (c.seesAlike_self e)
      (fun _ _ _ _ _ => rfl) rfl hchildren
    rw [Expr.mapChildren_id, ← checkWithin, h] at hnode
    generalize c.checkWithin (room + 1) e = x at hnode ⊢
    cases hnode with
    | stop h => exact h.elim
    | ok h => rw [h]

/-- An expression is checked as without a limit, or is nested too deeply. -/
theorem check_or_unlimited (e : Expr) :
    (∃ s, c.check e = .error (.nestingTooDeep c.limit s)) ∨ c.check e = c.unlimited e := by
  rcases Nat.lt_or_ge (Expr.heightArgs [e]) c.limit with hroom | hroom
  · exact .inr (c.unlimited_eq_checkWithin hroom).symm
  · exact c.checkWithin_eq_of_le e (Nat.le_succ_of_le (Nat.le_trans hroom e.heightArgs_singleton_le))

/-- The limit lets through what is accepted without it and no higher than it. -/
theorem check_eq_ok_iff_unlimited : c.check e = .ok t ↔ c.unlimited e = .ok t ∧ e.height ≤ c.limit := by
  constructor
  · intro h
    refine ⟨?_, (c.checkWithin_bounded c.limit e t h).1⟩
    rcases c.check_or_unlimited e with ⟨s, hs⟩ | heq
    · exact nomatch hs.symm.trans h
    · exact heq.symm.trans h
  · exact fun ⟨h, hheight⟩ => c.checkWithin_of_unlimited c.limit e t h hheight

/-- What is accepted without a limit and higher than it is refused for its nesting. -/
theorem check_of_unlimited_of_lt (h : c.unlimited e = .ok t) (hheight : c.limit < e.height) :
    ∃ s, c.check e = .error (.nestingTooDeep c.limit s) := by
  rcases c.check_or_unlimited e with hs | heq
  · exact hs
  · exact absurd (c.check_eq_ok_iff_unlimited.1 (heq.trans h)).2 (Nat.not_le_of_lt hheight)

/-- The limit of nesting is exact and leaves no trace. Without a limit an expression is checked by the checks of those
    inside it, and with a counter it is entered and those inside are visited by the same rules. Visits one after the
    other with one counter, whether they succeed or fail, leave it as it was at first, and each comes to what the check
    of its expression with the levels that are left does. That succeeds exactly if the check without a limit does, with
    the same typed expression, and the expression is no higher than the limit; an expression that would be accepted and
    is higher is refused for its nesting; and one that would be rejected is rejected for the same reason or for its
    nesting. What is made of an expression is no higher than the limit, so that its evaluation does not recurse more
    deeply, whatever would happen there. -/
theorem visits_limit_exact [PatternLibrary] (c : Checker) :
    (∀ e, c.unlimited e = c.checkNode c.unlimited e) ∧
    (∀ e, c.visit e = entered c.limit e (c.checkNode c.visit e)) ∧
    (∀ es, c.visits es 0 = (es.map c.check, 0)) ∧
    (∀ e t, c.check e = .ok t ↔ c.unlimited e = .ok t ∧ e.height ≤ c.limit) ∧
    (∀ e t, c.unlimited e = .ok t → c.limit < e.height → ∃ s, c.check e = .error (.nestingTooDeep c.limit s)) ∧
    (∀ e err, c.unlimited e = .error err →
      c.check e = .error err ∨ ∃ s, c.check e = .error (.nestingTooDeep c.limit s)) ∧
    ∀ e t, c.check e = .ok t → t.height ≤ c.limit ∧
      ∀ context outside, t.evalWithin context outside c.limit = t.eval context := by
  refine ⟨c.unlimited_eq, c.visit_eq, fun es => c.visits_eq es 0, fun e t => c.check_eq_ok_iff_unlimited,
    fun e t h hheight => c.check_of_unlimited_of_lt h hheight, ?_, ?_⟩
  · intro e err h
    rcases c.check_or_unlimited e with hs | heq
    · exact .inr hs
    · exact .inl (heq.trans h)
  · intro e t h
    have hheight : t.height ≤ c.limit := (c.checkWithin_bounded c.limit e t h).2
    exact ⟨hheight, fun context outside => TypedExpr.evalWithin_eq_eval outside c.limit t hheight⟩

end Checker

end AssignScript
