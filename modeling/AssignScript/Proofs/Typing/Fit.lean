import AssignScript.Operation.Basic

/-!
# Operations keep types

An operation given values of the types that it accepts gives a value of the type that it announces, or
fails for a reason that types cannot foresee: an offset, a pattern, a divisor or a size. Null is a value
of every type.

## Main definitions

* `Value.Fits`: null, or a value of exactly a type;
* `EvalError.OfValues`: the errors that types do not exclude;
* `Settled`: an outcome whose value has one property and whose error has another;
* `Keeps`: an outcome whose value fits a type, or whose error depends on values.

## Main statements

* `applyUnary_keeps`, `applyBinary_keeps`: operators keep types;
* `between_keeps`, `substring_keeps`, `replaceMatches_keeps`, `occurrence_keeps`: so do the functions of
  more operands.
-/

namespace AssignScript

/-- A value that may stand under a type: null, or a value of exactly that type. -/
def Value.Fits (v : Value) (t : DataType) : Prop :=
  v = .null ∨ v.dataType = t

/-- The errors that types do not exclude, since they depend on values of the right types. -/
def EvalError.OfValues : EvalError → Prop
  | .indexOutOfRange _ _ _ | .invalidPattern _ _ | .divisionByZero | .overflow _ => True
  | .unboundVariable _ | .unexpectedValue _ _ => False

/-- An outcome whose value is good, or whose error is allowed. -/
def Settled {ε α : Type} (allowed : ε → Prop) (good : α → Prop) : Except ε α → Prop
  | .ok a => good a
  | .error e => allowed e

namespace Value.Fits

theorem null (t : DataType) : Fits .null t := .inl rfl

theorem of_dataType (v : Value) : v.Fits v.dataType := .inr rfl

theorem dataType_eq {v : Value} {t : DataType} (h : v.Fits t) (hv : v.isNull = false) :
    v.dataType = t := by
  rcases h with rfl | h
  · cases hv
  · exact h

theorem conformTo {v : Value} {t : DataType} (h : v.Fits t) : v.conformTo t = some v := by
  rcases h with rfl | rfl
  · rfl
  · cases v <;> rfl

end Value.Fits

/-- What conforming to a type gives fits it. -/
theorem fits_of_conformTo {v w : Value} {t : DataType} (h : v.conformTo t = some w) : w.Fits t := by
  unfold Value.conformTo at h
  split at h
  · cases h; exact .null _
  · cases h; exact .of_dataType _
  · split at h <;> cases h
    exact .inr ‹_›

namespace Settled

variable {ε α β : Type} {allowed allowed' : ε → Prop} {good good' : α → Prop}

theorem mono {x : Except ε α} (h : Settled allowed good x) (ha : ∀ e, allowed e → allowed' e)
    (hg : ∀ a, good a → good' a) : Settled allowed' good' x := by
  cases x with
  | ok a => exact hg a h
  | error e => exact ha e h

/-- What follows a settled outcome is settled if it is for every good value. -/
theorem bind {x : Except ε α} {f : α → Except ε β} {good : α → Prop} {good' : β → Prop}
    (h : Settled allowed good x) (hf : ∀ a, good a → Settled allowed good' (f a)) :
    Settled allowed good' (x >>= f) := by
  cases x with
  | ok a => exact hf a h
  | error e => exact h

theorem ok {a : α} (h : good a) : Settled allowed good (.ok a) := h

theorem error {e : ε} (h : allowed e) : Settled allowed good (.error e) := h

end Settled

/-- An outcome that keeps a type: its value fits, or its error is one that types do not exclude. -/
def Keeps (t : DataType) (x : Evaluated Value) : Prop :=
  Settled EvalError.OfValues (·.Fits t) x

namespace Keeps

theorem ok {v : Value} {t : DataType} (h : v.Fits t) : Keeps t (.ok v) := h

/-- A value keeps its own type. -/
theorem value (v : Value) : Keeps v.dataType (.ok v) := .inr rfl

theorem null (t : DataType) : Keeps t (.ok .null) := .inl rfl

theorem error {e : EvalError} {t : DataType} (h : e.OfValues) : Keeps t (.error e) := h

end Keeps

/-! ### Operators -/

theorem DataType.eq_boolean {t : DataType} (h : t.isBoolean = true) : t = .boolean := by
  cases t <;> first | rfl | cases h

theorem DataType.eq_string {t : DataType} (h : t.isString = true) : t = .string := by
  cases t <;> first | rfl | cases h

theorem exactInteger_keeps (operation : String) (n : Int) :
    Keeps .integer (exactInteger operation n) := by
  unfold exactInteger
  split
  · exact .value (.integer _)
  · exact .error trivial

theorem floatArithmetic_keeps (op : BinaryOp) (x y : Float) :
    Keeps .number (floatArithmetic op x y) := by
  unfold floatArithmetic
  split
  · exact .value (.number _)
  · exact .value (.number _)
  · exact .value (.number _)
  · split
    · exact .error trivial
    · exact .value (.number _)

theorem negate_keeps {v : Value} (h : v.dataType.isNumeric) : Keeps v.dataType (negate v) := by
  cases v with
  | integer i => exact exactInteger_keeps _ _
  | number x => exact .value (.number _)
  | _ => cases h

/-- An operator on one operand keeps the type that it announces. -/
theorem applyUnary_keeps {op : UnaryOp} {t u : DataType} {v : Value}
    (h : op.outputType t = some u) (hv : v.Fits t) : Keeps u (applyUnary op v) := by
  by_cases hop : op = .isNull
  · subst hop
    cases h
    exact .value (.boolean _)
  rcases hv with rfl | rfl
  · have happly : applyUnary op .null = .ok .null := by cases op <;> first | rfl | contradiction
    exact happly ▸ .null u
  · cases op <;> cases v <;> cases h
    case minus.integer.refl => exact negate_keeps rfl
    case minus.number.refl => exact negate_keeps rfl
    all_goals exact .value _

theorem floatOperand_settled (op : BinaryOp) {v : Value} (h : v.dataType.isNumeric) :
    Settled EvalError.OfValues (fun _ => True) (floatOperand op v) := by
  cases v with
  | integer i => trivial
  | number x => trivial
  | _ => cases h

/-- Arithmetic keeps the type that its operator announces. -/
theorem arithmetic_keeps {op : BinaryOp} {l r : Value} {t : DataType}
    (hop : op = .add ∨ op = .sub ∨ op = .mul ∨ op = .div)
    (h : op.outputType l.dataType r.dataType = some t) : Keeps t (arithmetic op l r) := by
  have hfloats : l.dataType.isNumeric → r.dataType.isNumeric → Keeps .number (do
      let x ← floatOperand op l
      let y ← floatOperand op r
      floatArithmetic op x y) := fun hl hr =>
    (floatOperand_settled op hl).bind fun _ _ =>
      (floatOperand_settled op hr).bind fun _ _ => floatArithmetic_keeps op _ _
  rcases hop with rfl | rfl | rfl | rfl <;> cases l <;> cases r <;> cases h
  -- Two whole numbers under an exact operation, and every other pair of numbers.
  all_goals first | exact exactInteger_keeps _ _ | exact hfloats rfl rfl

/-- Values of a common type other than Null can be compared. -/
theorem compareValues_keeps (op : BinaryOp) {l r : Value} {t : DataType}
    (h : l.dataType.widen r.dataType = some t) (ht : t ≠ .null) :
    Keeps .boolean (compareValues op l r) := by
  unfold compareValues
  split
  · exact .value (.boolean _)
  · next hnone =>
    -- Only two numbers have a common type and yet no order.
    have hnumeric : (l.isNumeric && r.isNumeric) = true := by
      cases l <;> cases r <;> cases h
      case null.null.refl => exact absurd rfl ht
      case boolean.boolean.refl | string.string.refl => simp [Value.order] at hnone
      all_goals rfl
    rw [if_pos hnumeric]
    exact .value (.boolean _)

theorem logical_keeps (op : BinaryOp) {l r : Value} (hl : l.dataType = .boolean)
    (hr : r.dataType = .boolean) : Keeps .boolean (logical op l r) := by
  cases l <;> cases hl
  cases r <;> cases hr
  exact .value (.boolean _)

theorem onTexts_keeps (op : BinaryOp) {f : String → String → Evaluated Value} {l r : Value}
    {t : DataType} (hl : l.dataType = .string) (hr : r.dataType = .string)
    (hf : ∀ s₁ s₂, Keeps t (f s₁ s₂)) : Keeps t (onTexts op f l r) := by
  cases l <;> cases hl
  cases r <;> cases hr
  exact hf _ _

theorem compilePattern_settled [PatternLibrary] (text pattern : String) :
    Settled EvalError.OfValues (fun _ => True) (compilePattern text pattern) := by
  unfold compilePattern
  cases PatternLibrary.compile text with
  | ok compiled => trivial
  | error reason => exact .error trivial

theorem matchesWhole_keeps [PatternLibrary] (text pattern : String) :
    Keeps .boolean (matchesWhole text pattern) :=
  (compilePattern_settled _ _).bind fun _ _ => Keeps.value (.boolean _)

/-- Where an operand is null, the result still has the type that the operator announces. -/
theorem resultOfNull_fits {op : BinaryOp} {t₁ t₂ t : DataType} (h : op.outputType t₁ t₂ = some t)
    (l r : Value) : (resultOfNull op l r).Fits t := by
  have hlogical : ∀ b : Bool, (if t₁.isBoolean && t₂.isBoolean then some DataType.boolean else none) =
      some t → (Value.boolean b).Fits t := by
    intro b hb
    split at hb <;> cases hb
    exact .of_dataType (.boolean b)
  unfold resultOfNull
  split
  · split
    · exact hlogical _ h
    · exact .null t
  · split
    · exact hlogical _ h
    · exact .null t
  · exact .null t

/-- An operator on two operands keeps the type that it announces. -/
theorem applyBinary_keeps [PatternLibrary] {op : BinaryOp} {t₁ t₂ t : DataType} {l r : Value}
    (h : op.outputType t₁ t₂ = some t) (hl : l.Fits t₁) (hr : r.Fits t₂) :
    Keeps t (applyBinary op l r) := by
  unfold applyBinary
  split
  · exact .ok (resultOfNull_fits h l r)
  next hnull =>
  rw [Bool.or_eq_true, not_or, Bool.not_eq_true, Bool.not_eq_true] at hnull
  obtain rfl := hl.dataType_eq hnull.1
  obtain rfl := hr.dataType_eq hnull.2
  have hcomparison : ∀ {p : DataType → Bool} {op : BinaryOp},
      ((l.dataType.widen r.dataType).filter p).map (fun _ => DataType.boolean) = some t →
      p .null = false → Keeps t (compareValues op l r) := by
    intro p op h hp
    obtain ⟨c, hc, rfl⟩ := Option.map_eq_some_iff.1 h
    obtain ⟨hc, hpc⟩ := Option.filter_eq_some_iff.1 hc
    exact compareValues_keeps op hc fun hnull => by simp [hnull, hp] at hpc
  split
  case h_1 | h_2 | h_3 | h_4 => exact arithmetic_keeps (by simp) h
  case h_5 | h_6 | h_7 | h_8 | h_9 | h_10 => exact hcomparison h rfl
  all_goals
    simp only [BinaryOp.outputType, Option.ite_none_right_eq_some, Bool.and_eq_true,
      Option.some.injEq] at h
    obtain ⟨⟨hl, hr⟩, rfl⟩ := h
  case h_11 | h_12 | h_13 => exact logical_keeps _ (DataType.eq_boolean hl) (DataType.eq_boolean hr)
  case h_14 =>
    exact onTexts_keeps _ (DataType.eq_string hl) (DataType.eq_string hr) fun _ _ =>
      .value (.string _)
  case h_15 => exact onTexts_keeps _ (DataType.eq_string hl) (DataType.eq_string hr) matchesWhole_keeps

/-! ### Functions of more operands -/

theorem Value.Fits.isNumeric {v : Value} {t : DataType} (h : v.Fits t) (hv : v.isNull = false)
    (ht : t.isNumeric) : v.isNumeric := by
  obtain rfl := h.dataType_eq hv
  cases v <;> first | rfl | cases ht

/-- Numbers can be tested against bounds that are numbers. -/
theorem between_keeps {v l u : Value} {t₁ t₂ t₃ : DataType} (hv : v.Fits t₁) (hl : l.Fits t₂)
    (hu : u.Fits t₃) (h₁ : t₁.isNumeric) (h₂ : t₂.isNumeric) (h₃ : t₃.isNumeric) :
    Keeps .boolean (between v l u) := by
  unfold between
  split
  · exact .null _
  next hnull =>
  simp only [Bool.or_eq_true, not_or, Bool.not_eq_true] at hnull
  split
  · exact .value (.boolean _)
  · rw [hv.isNumeric hnull.1.1 h₁, hl.isNumeric hnull.1.2 h₂, hu.isNumeric hnull.2 h₃]
    exact .value (.boolean _)

theorem textArgument_settled (function : String) {v : Value} (h : v.Fits .string) :
    Settled EvalError.OfValues (fun _ => True) (textArgument function v) := by
  rcases h with rfl | h
  · trivial
  · cases v <;> cases h
    trivial

theorem offsetArgument_settled (function : String) (default : Int64) {o : Option Value}
    (h : ∀ v ∈ o, v.Fits .integer) :
    Settled EvalError.OfValues (fun _ => True) (offsetArgument function default o) := by
  cases o with
  | none => trivial
  | some v =>
    rcases h v rfl with rfl | h
    · trivial
    · cases v <;> cases h
      trivial

theorem slice_keeps (s : String) (first last : Int64) : Keeps .string (slice s first last) := by
  unfold slice
  split
  · exact .value (.string _)
  · exact .error trivial

theorem substring_keeps {v : Value} {first last : Option Value} (hv : v.Fits .string)
    (hf : ∀ w ∈ first, w.Fits .integer) (hl : ∀ w ∈ last, w.Fits .integer) :
    Keeps .string (substring v first last) := by
  refine (textArgument_settled "substr" hv).bind fun s _ => ?_
  cases s with
  | none => exact .null _
  | some s =>
    refine (offsetArgument_settled "substr" 0 hf).bind fun first _ => ?_
    refine (offsetArgument_settled "substr" (lengthOf s) hl).bind fun last _ => ?_
    split
    · exact slice_keeps s _ _
    · exact .null _

theorem replaceMatches_keeps [PatternLibrary] {v p : Value} {r : Option Value} (hv : v.Fits .string)
    (hp : p.Fits .string) (hr : ∀ w ∈ r, w.Fits .string) :
    Keeps .string (replaceMatches v p r) := by
  unfold replaceMatches
  extract_lets rest
  have hrest : ∀ r, Keeps .string (rest r) := by
    intro r
    refine (textArgument_settled "replace" hv).bind fun v _ => ?_
    refine (textArgument_settled "replace" hp).bind fun p _ => ?_
    split
    · exact (compilePattern_settled _ _).bind fun _ _ => Keeps.value (.string _)
    · exact .null _
  cases r with
  | none => exact hrest (some "")
  | some w => exact (textArgument_settled "replace" (hr w rfl)).bind fun r _ => hrest r

theorem occurrence_keeps {v p : Value} {start n : Option Value} (hv : v.Fits .string)
    (hp : p.Fits .string) (hs : ∀ w ∈ start, w.Fits .integer) (hn : ∀ w ∈ n, w.Fits .integer) :
    Keeps .integer (occurrence v p start n) := by
  refine (textArgument_settled "instr" hv).bind fun v _ => ?_
  refine (textArgument_settled "instr" hp).bind fun p _ => ?_
  split
  · refine (offsetArgument_settled "instr" 0 hs).bind fun start _ => ?_
    refine (offsetArgument_settled "instr" 1 hn).bind fun n _ => ?_
    split
    · split
      · exact Keeps.value (.integer _)
      · exact .error trivial
    · exact .null _
  · exact .null _

end AssignScript
