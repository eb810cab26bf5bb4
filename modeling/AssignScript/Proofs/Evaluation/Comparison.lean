import Mathlib.Logic.ExistsUnique
import AssignScript.Proofs.Evaluation.NumberOrder
import AssignScript.Proofs.Typing.Known

/-!
# Comparisons and ranges are one order

The six comparisons of two values come to a truth value for the same pairs of values, and are all read off one order
of the two. A range asks for nothing else: it is the conjunction of its two bounds, also where one of the three is not
a number.

## Main definitions

* `BinaryOp.comparisons`: the six comparisons;
* `Value.Compares`: pairs of values that can be compared;
* `BinaryOp.verdict`: what a comparison says of an order, or of none;
* `Value.OneOrder`: pairs of values whose comparisons form one order.

## Main statements

* `compareValues_of_compares`, `between_of_compares`: comparisons and ranges are read off the orders of their operands;
* `Value.Compares.oneOrder`: the comparisons of two values form one order;
* `comparisons_oneOrder`: so they do whenever one of them succeeds, and ranges go by the same order.
-/

namespace AssignScript

namespace Value

/-- A number that is not a number. -/
def IsNaN : Value → Prop
  | .number x => x.isNaN = true
  | _ => False

/-- Values that can be compared: numbers of either type, truth values, and texts. -/
inductive Compares : Value → Value → Prop where
  | numbers {v w : Value} (hv : v.isNumeric = true) (hw : w.isNumeric = true) : Compares v w
  | booleans (a b : Bool) : Compares (.boolean a) (.boolean b)
  | strings (s t : String) : Compares (.string s) (.string t)

variable {v w : Value}

theorem Compares.ne_null (h : v.Compares w) : v ≠ .null := by
  rintro rfl
  cases h with
  | numbers hv hw => cases hv

theorem Compares.symm (h : v.Compares w) : w.Compares v := by
  cases h with
  | numbers hv hw => exact .numbers hw hv
  | booleans a b => exact .booleans b a
  | strings s t => exact .strings t s

/-! ### The order of two values -/

/-- The other way round, the order of two values is the reverse. -/
theorem order_swap (v w : Value) : w.order v = (v.order w).map Ordering.swap := by
  cases v <;> cases w
  case boolean.boolean a b => exact congrArg some Std.OrientedOrd.eq_swap
  case integer.integer i j => exact congrArg some Std.OrientedOrd.eq_swap
  case string.string s t => exact congrArg some Std.OrientedOrd.eq_swap
  case integer.number i x => exact orderFloats_swap (widenInteger i) x
  case number.integer x i => exact orderFloats_swap x (widenInteger i)
  case number.number x y => exact orderFloats_swap x y
  all_goals rfl

/-- A value that is widened to a number is not a number exactly if it was none before. -/
theorem isNaN_iff_of_toFloat? {x : Float} (h : v.toFloat? = some x) : v.IsNaN ↔ x.isNaN = true := by
  cases v <;> cases h
  · rw [isNaN_widenInteger]
    exact ⟨nofun, nofun⟩
  · exact Iff.rfl

/-- Two numbers are both whole, or ordered as doubles. -/
theorem order_numbers (hv : v.isNumeric = true) (hw : w.isNumeric = true) :
    (∃ i j, v = .integer i ∧ w = .integer j) ∨
      ∃ x y, v.toFloat? = some x ∧ w.toFloat? = some y ∧ v.order w = orderFloats x y := by
  obtain ⟨x, hx⟩ := Option.isSome_iff_exists.1 hv
  obtain ⟨y, hy⟩ := Option.isSome_iff_exists.1 hw
  cases v <;> cases hx <;> cases w <;> cases hy
  · exact .inl ⟨_, _, rfl, rfl⟩
  all_goals exact .inr ⟨_, _, rfl, rfl, rfl⟩

/-- Of values that can be compared, only a number that is not one has no order. -/
theorem Compares.order_eq_none_iff (h : v.Compares w) : v.order w = none ↔ v.IsNaN ∨ w.IsNaN := by
  cases h with
  | booleans a b => exact ⟨nofun, nofun⟩
  | strings s t => exact ⟨nofun, nofun⟩
  | numbers hv hw =>
    rcases order_numbers hv hw with ⟨i, j, rfl, rfl⟩ | ⟨x, y, hx, hy, horder⟩
    · exact ⟨nofun, nofun⟩
    · rw [horder, orderFloats_eq_none_iff, isNaN_iff_of_toFloat? hx, isNaN_iff_of_toFloat? hy]

/-- Of values that can be compared, those without an order are numbers. -/
theorem Compares.isNumeric_of_order_eq_none (h : v.Compares w) (horder : v.order w = none) : v.isNumeric = true := by
  cases h with
  | numbers hv hw => exact hv
  | booleans a b => cases horder
  | strings s t => cases horder

theorem Compares.isNumeric_eq (h : v.Compares w) : w.isNumeric = v.isNumeric := by
  cases h with
  | numbers hv hw => rw [hv, hw]
  | booleans a b => rfl
  | strings s t => rfl

/-- Values that cannot be compared have no order, and are not both numbers. -/
theorem order_of_not_compares (h : ¬ v.Compares w) :
    v.order w = none ∧ (v.isNumeric && w.isNumeric) = false := by
  constructor
  · cases v <;> cases w
    case boolean.boolean a b => exact absurd (.booleans a b) h
    case string.string s t => exact absurd (.strings s t) h
    case integer.integer | integer.number | number.integer | number.number => exact absurd (.numbers rfl rfl) h
    all_goals rfl
  · refine Bool.eq_false_iff.2 fun hnumeric => h ?_
    rw [Bool.and_eq_true] at hnumeric
    exact .numbers hnumeric.1 hnumeric.2

end Value

/-! ### Comparisons -/

/-- The six comparisons. -/
def BinaryOp.comparisons : List BinaryOp :=
  [.eq, .ne, .lt, .le, .gt, .ge]

/-- What a comparison says of two values by their order; where there is none only inequality holds. -/
def BinaryOp.verdict (op : BinaryOp) : Option Ordering → Bool
  | some order => op.holdsFor order
  | none => op == .ne

/-- One of less, equal and greater holds for an order. -/
theorem BinaryOp.existsUnique_holdsFor (order : Ordering) :
    ∃! op, op ∈ [BinaryOp.lt, .eq, .gt] ∧ op.holdsFor order = true := by
  have hunique (least : BinaryOp)
      (h : ∀ op ∈ [BinaryOp.lt, .eq, .gt], op.holdsFor order = true → op = least) :
      ∀ op, op ∈ [BinaryOp.lt, .eq, .gt] ∧ op.holdsFor order = true → op = least := fun op hop => h op hop.1 hop.2
  cases order with
  | lt => exact ⟨.lt, by decide, hunique .lt (by decide)⟩
  | eq => exact ⟨.eq, by decide, hunique .eq (by decide)⟩
  | gt => exact ⟨.gt, by decide, hunique .gt (by decide)⟩

section Comparisons

variable {op : BinaryOp} {v w : Value}

theorem compareValues_of_compares (op : BinaryOp) (h : v.Compares w) :
    compareValues op v w = .ok (.boolean (op.verdict (v.order w))) := by
  unfold compareValues
  cases horder : v.order w with
  | some order => rfl
  | none =>
    have hv := h.isNumeric_of_order_eq_none horder
    rw [h.isNumeric_eq, hv]
    rfl

theorem compareValues_of_not_compares (op : BinaryOp) (h : ¬ v.Compares w) :
    compareValues op v w = unexpected w op.symbol := by
  obtain ⟨horder, hnumeric⟩ := Value.order_of_not_compares h
  simp only [compareValues, horder, hnumeric, Bool.false_eq_true, if_false]

variable [PatternLibrary]

/-- A comparison of two values that are not null is read off their order. -/
theorem applyBinary_comparison (hop : op ∈ BinaryOp.comparisons) (hv : v ≠ .null) (hw : w ≠ .null) :
    applyBinary op v w = compareValues op v w := by
  simp only [BinaryOp.comparisons, List.mem_cons, List.not_mem_nil, or_false] at hop
  unfold applyBinary
  rw [Value.isNull_eq_false hv, Value.isNull_eq_false hw]
  rcases hop with rfl | rfl | rfl | rfl | rfl | rfl <;> rfl

/-- A comparison of two values that can be compared says whether it holds for their order. -/
theorem applyBinary_of_compares (hop : op ∈ BinaryOp.comparisons) (h : v.Compares w) :
    applyBinary op v w = .ok (.boolean (op.verdict (v.order w))) := by
  rw [applyBinary_comparison hop h.ne_null h.symm.ne_null, compareValues_of_compares op h]

/-- A comparison of other values fails, whichever it is. -/
theorem applyBinary_of_not_compares (hop : op ∈ BinaryOp.comparisons) (hv : v ≠ .null) (hw : w ≠ .null)
    (h : ¬ v.Compares w) : applyBinary op v w = unexpected w op.symbol := by
  rw [applyBinary_comparison hop hv hw, compareValues_of_not_compares op h]

theorem comparison_eq_ok_iff (hop : op ∈ BinaryOp.comparisons) (hv : v ≠ .null) (hw : w ≠ .null) :
    (∃ r, applyBinary op v w = .ok r) ↔ v.Compares w := by
  by_cases h : v.Compares w
  · exact iff_of_true ⟨_, applyBinary_of_compares hop h⟩ h
  · rw [applyBinary_of_not_compares hop hv hw h]
    exact iff_of_false nofun h

end Comparisons

/-- The comparisons of two values form one order: all six succeed, each says of the order what its name does, and one
    of less, equal and greater holds unless one of the values is not a number. -/
structure Value.OneOrder [PatternLibrary] (v w : Value) : Prop where
  succeed : ∀ op ∈ BinaryOp.comparisons, ∃ b, applyBinary op v w = .ok (.boolean b)
  ne : applyBinary .ne v w = applyBinary .eq v w >>= applyUnary .not
  lt : applyBinary .lt v w = applyBinary .gt w v
  le : applyBinary .le v w = do applyBinary .or (← applyBinary .lt v w) (← applyBinary .eq v w)
  ge : applyBinary .ge v w = applyBinary .le w v
  one : ¬ (v.IsNaN ∨ w.IsNaN) →
    ∃! op, op ∈ [BinaryOp.lt, .eq, .gt] ∧ applyBinary op v w = .ok (.boolean true)
  none : v.IsNaN ∨ w.IsNaN → ∀ op ∈ [BinaryOp.lt, .eq, .gt], applyBinary op v w = .ok (.boolean false)

/-- The comparisons of two values that can be compared form one order. -/
theorem Value.Compares.oneOrder [PatternLibrary] {v w : Value} (h : v.Compares w) : v.OneOrder w := by
  have hop (op : BinaryOp) (hmem : op ∈ BinaryOp.comparisons) := applyBinary_of_compares hmem h
  have hswapped (op : BinaryOp) (hmem : op ∈ BinaryOp.comparisons) := applyBinary_of_compares hmem h.symm
  simp only [v.order_swap w] at hswapped
  have hthree : [BinaryOp.lt, .eq, .gt] ⊆ BinaryOp.comparisons := by decide
  refine ⟨fun op hmem => ⟨_, hop op hmem⟩, ?_, ?_, ?_, ?_, fun hnan => ?_, fun hnan op hmem => ?_⟩
  · rw [hop .ne (by decide), hop .eq (by decide)]
    rcases v.order w with _ | _ | _ | _ <;> rfl
  · rw [hop .lt (by decide), hswapped .gt (by decide)]
    rcases v.order w with _ | _ | _ | _ <;> rfl
  · rw [hop .le (by decide), hop .lt (by decide), hop .eq (by decide)]
    rcases v.order w with _ | _ | _ | _ <;> rfl
  · rw [hop .ge (by decide), hswapped .le (by decide)]
    rcases v.order w with _ | _ | _ | _ <;> rfl
  · obtain ⟨order, horder⟩ := Option.ne_none_iff_exists'.1 (mt h.order_eq_none_iff.1 hnan)
    have hholds : ∀ op ∈ [BinaryOp.lt, .eq, .gt],
        (applyBinary op v w = .ok (.boolean true) ↔ op.holdsFor order = true) := by
      intro op hmem
      rw [hop op (hthree hmem), horder]
      simp only [Except.ok.injEq, Value.boolean.injEq, BinaryOp.verdict]
    obtain ⟨op, ⟨hmem, hop⟩, hunique⟩ := BinaryOp.existsUnique_holdsFor order
    refine ⟨op, ⟨hmem, (hholds op hmem).2 hop⟩, ?_⟩
    rintro other ⟨hother, hr⟩
    exact hunique other ⟨hother, (hholds other hother).1 hr⟩
  · rw [hop op (hthree hmem), h.order_eq_none_iff.2 hnan]
    -- Only inequality holds without an order, and it is none of the three.
    have hne : ∀ op ∈ [BinaryOp.lt, .eq, .gt], (op == .ne) = false := by decide
    rw [BinaryOp.verdict, hne op hmem]

/-! ### Ranges -/

section Ranges

variable {v lo hi : Value}

/-- A range is the conjunction of its bounds, where both can be compared with the value. -/
theorem between_of_compares (hlo : v.Compares lo) (hhi : v.Compares hi) :
    between v lo hi = .ok (.boolean (BinaryOp.ge.verdict (v.order lo) && BinaryOp.le.verdict (v.order hi))) := by
  have hnull : (v.isNull || lo.isNull || hi.isNull) = false := by
    rw [Value.isNull_eq_false hlo.ne_null, Value.isNull_eq_false hlo.symm.ne_null,
      Value.isNull_eq_false hhi.symm.ne_null]
    rfl
  have hnumeric (h : v.isNumeric = true) : (v.isNumeric && lo.isNumeric && hi.isNumeric) = true := by
    rw [hlo.isNumeric_eq, hhi.isNumeric_eq, h]
    rfl
  unfold between
  rw [hnull, if_neg Bool.false_ne_true]
  -- A bound without an order does not hold, and makes the range false.
  cases hl : v.order lo with
  | none => simp [hnumeric (hlo.isNumeric_of_order_eq_none hl), BinaryOp.verdict]
  | some l =>
    cases hu : v.order hi with
    | none => simp [hnumeric (hhi.isNumeric_of_order_eq_none hu), BinaryOp.verdict]
    | some u => rfl

/-- A range with a bound that cannot be compared with the value fails. -/
theorem between_of_not_compares (hv : v ≠ .null) (hlo : lo ≠ .null) (hhi : hi ≠ .null)
    (h : ¬ (v.Compares lo ∧ v.Compares hi)) : between v lo hi = unexpected v "between" := by
  have hnumeric : (v.isNumeric && lo.isNumeric && hi.isNumeric) = false := by
    refine Bool.eq_false_iff.2 fun hall => h ?_
    rw [Bool.and_eq_true, Bool.and_eq_true] at hall
    exact ⟨.numbers hall.1.1 hall.1.2, .numbers hall.1.1 hall.2⟩
  unfold between
  rw [Value.isNull_eq_false hv, Value.isNull_eq_false hlo, Value.isNull_eq_false hhi, if_neg (by decide), hnumeric]
  rcases Classical.not_and_iff_not_or_not.1 h with h | h
  · rw [(Value.order_of_not_compares h).1]
    rfl
  · rw [(Value.order_of_not_compares h).1]
    cases v.order lo <;> rfl

end Ranges

/-- Comparisons and ranges are one order. Of two values that are not null, all six comparisons succeed as soon as one
    does, and then inequality is the negation of equality, less and at least are greater and at most the other way
    round, at most is less or equal, and exactly one of less, equal and greater holds, unless one of the values is not
    a number, when none does. A range of three values that are not null succeeds exactly if the value can be compared
    with both bounds, and is the conjunction of those comparisons, whatever the types and also where one of the three
    is not a number. If one of the three is null, so is the range. -/
theorem comparisons_oneOrder [PatternLibrary] :
    (∀ v w : Value, v ≠ .null → w ≠ .null →
      ∀ op ∈ BinaryOp.comparisons, ∀ r, applyBinary op v w = .ok r → v.OneOrder w) ∧
    (∀ v lo hi : Value, v ≠ .null → lo ≠ .null → hi ≠ .null →
      ((∃ r, between v lo hi = .ok r) ↔
        (∃ a, applyBinary .ge v lo = .ok a) ∧ ∃ b, applyBinary .le v hi = .ok b) ∧
      ∀ a b, applyBinary .ge v lo = .ok a → applyBinary .le v hi = .ok b →
        between v lo hi = applyBinary .and a b) ∧
    ∀ v lo hi : Value, v = .null ∨ lo = .null ∨ hi = .null → between v lo hi = .ok .null := by
  refine ⟨fun v w hv hw op hop r hr => ?_, fun v lo hi hv hlo hhi => ?_, fun v lo hi hnull => ?_⟩
  · exact ((comparison_eq_ok_iff hop hv hw).1 ⟨r, hr⟩).oneOrder
  · have hge : BinaryOp.ge ∈ BinaryOp.comparisons := by decide
    have hle : BinaryOp.le ∈ BinaryOp.comparisons := by decide
    rw [comparison_eq_ok_iff hge hv hlo, comparison_eq_ok_iff hle hv hhi]
    by_cases h : v.Compares lo ∧ v.Compares hi
    · rw [between_of_compares h.1 h.2, applyBinary_of_compares hge h.1, applyBinary_of_compares hle h.2]
      refine ⟨iff_of_true ⟨_, rfl⟩ h, ?_⟩
      rintro a b ⟨⟩ ⟨⟩
      rfl
    · rw [between_of_not_compares hv hlo hhi h]
      refine ⟨iff_of_false nofun h, fun a b ha hb => absurd ⟨?_, ?_⟩ h⟩
      · exact (comparison_eq_ok_iff hge hv hlo).1 ⟨a, ha⟩
      · exact (comparison_eq_ok_iff hle hv hhi).1 ⟨b, hb⟩
  · have hnull : (v.isNull || lo.isNull || hi.isNull) = true := by
      rcases hnull with rfl | rfl | rfl <;> simp [Value.isNull]
    rw [between, if_pos hnull]

end AssignScript
