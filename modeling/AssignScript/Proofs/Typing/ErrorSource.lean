import Mathlib.Data.List.Induction
import AssignScript.Proofs.Typing.Meaning
import AssignScript.Proofs.Typing.Node

/-!
# Errors describe the source

An error of the checker points at an expression of the source, and what it says is true of that one.

## Main definitions

* `Expr.InsideAt`: the expressions inside another, with the level at which they stand;
* `FirstOccurrences`: the elements of a list, each once, in the order in which they first occur;
* `SemanticError.Describes`: what an error says of an expression.

## Main statements

* `Checker.checkWithin_error`: the error of an expression with some room is true of one inside;
* `Checker.check_error_describes`: so is that of a whole expression.
-/

namespace AssignScript

/-- An expression that stands inside another at some level; the whole stands at the first one. -/
inductive Expr.InsideAt (n : Expr) : Nat → Expr → Prop where
  | self : InsideAt n 1 n
  | child {i e : Expr} {level : Nat} (hi : i ∈ e.children) (h : InsideAt n level i) : InsideAt n (level + 1) e

/-! ### Types of a conflict -/

/-- A list holds what another one does, each element once and in the order in which they first occur there. -/
structure FirstOccurrences {α : Type} [DecidableEq α] (distinct all : List α) : Prop where
  nodup : distinct.Nodup
  mem_iff : ∀ a, a ∈ distinct ↔ a ∈ all
  order : distinct.Pairwise fun a b => all.idxOf a < all.idxOf b

/-- One more element is at the end of the distinct ones, unless it is there. -/
theorem FirstOccurrences.concat {α : Type} [DecidableEq α] {distinct all : List α}
    (h : FirstOccurrences distinct all) (a : α) :
    FirstOccurrences (if a ∈ distinct then distinct else distinct ++ [a]) (all ++ [a]) := by
  -- What has occurred has the same place in the longer list.
  have hplace : ∀ b ∈ distinct, (all ++ [a]).idxOf b = all.idxOf b :=
    fun b hb => List.idxOf_append_of_mem ((h.mem_iff b).1 hb)
  have horder : distinct.Pairwise fun b b' => (all ++ [a]).idxOf b < (all ++ [a]).idxOf b' :=
    h.order.imp_of_mem fun hb hb' hlt => by rwa [hplace _ hb, hplace _ hb']
  split
  · next ha =>
    refine ⟨h.nodup, fun b => ?_, horder⟩
    rw [List.mem_append, List.mem_singleton, h.mem_iff]
    refine ⟨.inl, ?_⟩
    rintro (hb | rfl)
    · exact hb
    · exact (h.mem_iff b).1 ha
  · next ha =>
    have hnew : a ∉ all := fun hmem => ha ((h.mem_iff a).2 hmem)
    refine ⟨?_, fun b => ?_, ?_⟩
    · refine List.nodup_append.2 ⟨h.nodup, List.pairwise_singleton _ _, fun b hb b' hb' heq => ha ?_⟩
      rwa [← List.mem_singleton.1 hb', ← heq]
    · rw [List.mem_append, List.mem_append, h.mem_iff]
    · refine List.pairwise_append.2 ⟨horder, List.pairwise_singleton _ _, fun b hb b' hb' => ?_⟩
      rw [List.mem_singleton.1 hb', hplace b hb, List.idxOf_append_of_notMem hnew]
      have hlt := List.idxOf_lt_length_of_mem ((h.mem_iff b).1 hb)
      omega

theorem distinctTypes_firstOccurrences (ts : List DataType) : FirstOccurrences (distinctTypes ts) ts := by
  induction ts using List.reverseRecOn with
  | nil => exact ⟨List.nodup_nil, fun _ => Iff.rfl, .nil⟩
  | append_singleton ts t ih =>
    have hstep : distinctTypes (ts ++ [t]) =
        if t ∈ distinctTypes ts then distinctTypes ts else distinctTypes ts ++ [t] := by
      rw [distinctTypes, List.foldl_concat]
      rfl
    rw [hstep]
    exact ih.concat t

/-! ### What errors say -/

/-- What an error says of an expression that stands at some level. -/
def SemanticError.Describes (c : Checker) (n : Expr) (level : Nat) : SemanticError → Prop
  -- A name that is not declared.
  | .undefinedVariable x _ => (∃ s, n = .variable s x) ∧ c.declarations.get? x = none
  -- The type of the expression by itself, which is not the one that is wanted.
  | .invalidType expected actual _ =>
    (∃ t, c.check n = .ok t ∧ t.dataType = actual) ∧ actual.widensTo expected = false
  -- The types of its operands, each once; there is none to which all of them widen.
  | .conflictingTypes types _ =>
    (∃ all, List.Forall₂ (fun i type => ∃ t, c.check i = .ok t ∧ t.dataType = type) n.compared all ∧
      FirstOccurrences types all) ∧
    2 ≤ types.length ∧ ∀ common, ∃ type ∈ types, type.widensTo common = false
  -- An operator that the table does not hold, or a function that it does not hold or only as one on a text that is
  -- none.
  | .unknownFunction name _ =>
    (∃ s op i, n = .unary s op i ∧ name = op.symbol ∧ c.functions.unary op = none) ∨
    (∃ s op l r, n = .binary s op l r ∧ name = op.symbol ∧ c.functions.binary op = none) ∨
    ∃ s x args, n = .call s x args ∧ name = Text.toLower x ∧
      (c.functions.call? name = none ∨ c.functions.call? name = some .text ∧ textOperation? name = none)
  -- A call with arguments whose number is out of the range.
  | .argumentCount function least most actual _ =>
    (∃ s x args, n = .call s x args ∧ function = Text.toLower x ∧ actual = args.length) ∧
    (actual < least ∨ most < actual)
  | .missingOperand _ => n.isOmitted = true
  | .nestingTooDeep limit _ => limit = c.limit ∧ limit < level

namespace Checker

variable {c : Checker}

/-- What is checked with some of the room is checked by itself. -/
theorem check_of_checkWithin {room : Nat} {e : Expr} {t : TypedExpr} (hroom : room ≤ c.limit)
    (h : c.checkWithin room e = .ok t) : c.check e = .ok t := by
  rcases c.checkWithin_eq_of_le e hroom with ⟨s, hs⟩ | heq
  · exact nomatch hs.symm.trans h
  · exact heq.symm.trans h

/-- Operands of a common type that has no order are of this type, and that is not numeric. -/
theorem misfit_of_unordered {op : BinaryOp} (hop : BinaryRule.comparison.Covers op) {a b common : DataType}
    (hcommon : a.widen b = some common) (h : op.outputType a b = none) :
    a = common ∧ common.widensTo .number = false := by
  have hnumeric : common.isNumeric = false := by
    rcases hop with rfl | rfl | rfl | rfl | rfl | rfl <;> simp only [BinaryOp.outputType, hcommon] at h <;>
      cases common <;> first | rfl | cases h
  exact ⟨(DataType.eq_of_widen hcommon hnumeric).1, DataType.widensTo_number_eq_false hnumeric⟩

theorem describes_conflict {n : Expr} {ts : List TypedExpr} {level room : Nat} {s : Span} (hroom : room ≤ c.limit)
    (hts : List.Forall₂ (fun i t => c.checkWithin room i = .ok t) n.compared ts) (hne : ts ≠ [])
    (h : DataType.widenAll (ts.map TypedExpr.dataType) = none) :
    (SemanticError.conflictingTypes (distinctTypes (ts.map TypedExpr.dataType)) s).Describes c n level := by
  have hdistinct := distinctTypes_firstOccurrences (ts.map TypedExpr.dataType)
  have hne : ts.map TypedExpr.dataType ≠ [] := fun hnil => hne (List.map_eq_nil_iff.1 hnil)
  have hnone : ∀ common, ∃ type ∈ distinctTypes (ts.map TypedExpr.dataType), type.widensTo common = false := by
    intro common
    obtain ⟨type, htype, hwidens⟩ := DataType.exists_not_widensTo hne h common
    exact ⟨type, (hdistinct.mem_iff type).2 htype, hwidens⟩
  refine ⟨⟨ts.map TypedExpr.dataType, ?_, hdistinct⟩, ?_, hnone⟩
  · rw [List.forall₂_map_right_iff]
    exact hts.imp fun i t ht => ⟨t, check_of_checkWithin hroom ht, rfl⟩
  · -- A single type would be common to all.
    match hlist : distinctTypes (ts.map TypedExpr.dataType) with
    | [] =>
      obtain ⟨type, htype, -⟩ := hnone .null
      rw [hlist] at htype
      cases htype
    | [t] =>
      obtain ⟨type, htype, hwidens⟩ := hnone t
      rw [hlist, List.mem_singleton] at htype
      subst htype
      cases type <;> cases hwidens
    | _ :: _ :: _ => exact Nat.le_add_left 2 _

/-- The error of an expression with some room, inside as many levels as are missing from the limit, is true of one
    inside. -/
theorem checkWithin_error (hf : c.functions.Covered) (room : Nat) : ∀ outer e err, outer + room = c.limit →
    c.checkWithin room e = .error err →
    ∃ n level, n.InsideAt level e ∧ n.span = err.span ∧ err.Describes c n (outer + level) := by
  induction room with
  | zero =>
    intro outer e err hlimit h
    cases h
    exact ⟨e, 1, .self, rfl, rfl, by omega⟩
  | succ room ih =>
    intro outer e err hlimit hcheck
    have hroom : room ≤ c.limit := by omega
    have hraises := c.checkNode_settled (c.checkWithin room) e
    rw [← checkWithin, hcheck] at hraises
    -- The error of an operand is true by induction, or its type is the wrong one; all others are of the whole.
    cases hraises with
    | @inside _ i _ hi h =>
      obtain ⟨n, level, hn, hspan, hdescribes⟩ := ih (outer + 1) i err (by omega) h
      refine ⟨n, level + 1, .child hi hn, hspan, ?_⟩
      rwa [Nat.add_right_comm, Nat.add_assoc] at hdescribes
    | @misfit _ i t _ hi ht h =>
      exact ⟨i, 2, .child hi .self, rfl, ⟨t, check_of_checkWithin hroom ht, rfl⟩, h⟩
    | @unordered s op l r t u common hrule hl hr hcommon h =>
      obtain ⟨htype, hwidens⟩ := misfit_of_unordered (hf.binary op _ hrule) hcommon h
      have hmem : l ∈ (Expr.binary s op l r).children := List.mem_cons_self
      exact ⟨l, 2, .child hmem .self, rfl, ⟨t, check_of_checkWithin hroom hl, htype⟩, hwidens⟩
    | conflict hts hne h => exact ⟨e, 1, .self, rfl, describes_conflict hroom hts hne h⟩
    | undefined h => exact ⟨_, 1, .self, rfl, ⟨_, rfl⟩, h⟩
    | omitted s => exact ⟨_, 1, .self, rfl, rfl⟩
    | noUnary h => exact ⟨_, 1, .self, rfl, .inl ⟨_, _, _, rfl, rfl, h⟩⟩
    | noBinary h => exact ⟨_, 1, .self, rfl, .inr (.inl ⟨_, _, _, _, rfl, rfl, h⟩)⟩
    | noCall h => exact ⟨_, 1, .self, rfl, .inr (.inr ⟨_, _, _, rfl, rfl, h⟩)⟩
    | count h => exact ⟨_, 1, .self, rfl, ⟨_, _, _, rfl, rfl, rfl⟩, h⟩

/-- Errors tell the truth about the source. Whatever error an expression is rejected with, under a table of built-in
    rules, there is an expression inside at whose span it points, and what it says is true of that one: the name that
    it stands for is not declared, its own type is not the one that is wanted, its operands have the types that are
    listed and no common one, and so on. -/
theorem check_error_describes (c : Checker) (hf : c.functions.BuiltIn) (e : Expr) (err : SemanticError)
    (h : c.check e = .error err) :
    ∃ n level, n.InsideAt level e ∧ n.span = err.span ∧ err.Describes c n level := by
  obtain ⟨n, level, hn, hspan, hdescribes⟩ := checkWithin_error hf.covered c.limit 0 e err (Nat.zero_add _) h
  rw [Nat.zero_add] at hdescribes
  exact ⟨n, level, hn, hspan, hdescribes⟩

/-- A choice between a number and a text is what the error points at, although it stands in a sum. -/
theorem check_error_describes_choice :
    let choice : Span := .unplaced "if b then 1 else a"
    let c : Checker := ⟨(NameMap.empty.insert "a" .string).insert "b" .boolean, .ofFamilies [.arithmetic], 3⟩
    let one : Expr := .literal (.unplaced "1") (.integer 1)
    let e : Expr := .binary (.unplaced "1 + if b then 1 else a") .add one
      (.conditional choice (.variable (.unplaced "b") "b") one (.variable (.unplaced "a") "a"))
    let err : SemanticError := .conflictingTypes [.integer, .string] choice
    c.check e = .error err ∧
      ∃ n level, n.InsideAt level e ∧ n.span = err.span ∧ err.Describes c n level := by
  intro choice c one e err
  have hrejected : c.check e = .error err := rfl
  exact ⟨hrejected, c.check_error_describes (.ofFamilies _) e err hrejected⟩

end Checker

end AssignScript
