import AssignScript.Proofs.Pattern.Fragment
import AssignScript.Proofs.Typing.Checked
import AssignScript.Proofs.Typing.Decided
import AssignScript.Proofs.Typing.Meaning

/-!
# Arguments that are left out

A call may leave arguments out: by placeholders, or, at the end, by writing nothing. Both give one typed
expression, and that one means the same as the call with the documented default written out, whatever the
other arguments are.

## Main definitions

* `LeavesOut`: a call that writes nothing where another one has placeholders at the end;
* `WritesDefault`: a call with a placeholder, beside the one with the default in its place;
* `SameMeaning`: outcomes of two checks that no context tells apart.

## Main statements

* `checkOptional_append_omitted`: a placeholder at the end of the arguments is as good as no argument;
* `substring_length`: the length of a text is the default for the end of a piece of it;
* `Checker.check_omitted_argument`: an argument that is left out is its default.
-/

namespace AssignScript

/-! ### Calls with arguments left out -/

/-- The functions with arguments that may be left out, with the least and the greatest number of arguments. -/
def optionalTails : List (String × Nat × Nat) :=
  [("substr", 1, 3), ("replace", 2, 3), ("instr", 2, 4)]

/-- A call that leaves arguments at the end out by writing nothing, beside the one with placeholders for some of
    them. -/
inductive LeavesOut : Expr → Expr → Prop where
  | tail {f : String} {least most : Nat} (span span' : Span) {args holes : List Expr}
    (hf : (Text.toLower f, least, most) ∈ optionalTails) (hleast : least ≤ args.length)
    (hmost : args.length + holes.length ≤ most) (hholes : ∀ a ∈ holes, a.isOmitted = true) :
    LeavesOut (.call span f args) (.call span' f (args ++ holes))

/-- A call with a placeholder for an argument, beside the one with the default of the argument written out. -/
inductive WritesDefault : Expr → Expr → Prop where
  | first {f : String} (span span' hole place : Span) (s b : Expr) (hf : Text.toLower f = "substr") :
    WritesDefault (.call span f [s, .omitted hole, b]) (.call span' f [s, .literal place (.integer 0), b])
  | last {f g : String} (span span' hole place : Span) (s a : Expr) (hf : Text.toLower f = "substr")
    (hg : Text.toLower g ∈ ["length", "len"]) :
    WritesDefault (.call span f [s, a, .omitted hole]) (.call span' f [s, a, .call place g [s]])
  | replacement {f : String} (span span' hole place : Span) (s p : Expr) (hf : Text.toLower f = "replace") :
    WritesDefault (.call span f [s, p, .omitted hole]) (.call span' f [s, p, .literal place (.string "")])
  | start {f : String} (span span' hole place : Span) (s p b : Expr) (hf : Text.toLower f = "instr") :
    WritesDefault (.call span f [s, p, .omitted hole, b]) (.call span' f [s, p, .literal place (.integer 0), b])
  | occurrence {f : String} (span span' hole place : Span) (s p a : Expr) (hf : Text.toLower f = "instr") :
    WritesDefault (.call span f [s, p, a, .omitted hole]) (.call span' f [s, p, a, .literal place (.integer 1)])

/-! ### Values -/

theorem offsetArgument_default (function : String) (default : Int64) :
    offsetArgument function default (some (.integer default)) = offsetArgument function default none := rfl

theorem substring_string (s : String) (first last : Option Value) :
    substring (.string s) first last = (do
      let first ← offsetArgument "substr" 0 first
      let last ← offsetArgument "substr" (lengthOf s) last
      match first, last with
      | some first, some last => slice s first last
      | _, _ => return .null) := rfl

theorem substring_zero (v : Value) (last : Option Value) :
    substring v (some (.integer 0)) last = substring v none last := by
  simp only [substring, offsetArgument_default]

/-- A piece of a text that has no end given ends where the text does; the length of null is null again. -/
theorem substring_length {v : Value} (hv : v.Fits .string) (first : Option Value) :
    (applyUnary .length v >>= fun n => substring v first (some n)) = substring v first none := by
  cases v with
  | null => rfl
  | string s =>
    show substring (.string s) first (some (.integer (lengthOf s))) = _
    rw [substring_string, substring_string, offsetArgument_default]
  | boolean | integer | number => simp [Value.Fits, Value.dataType] at hv

theorem replaceMatches_empty [PatternLibrary] (v p : Value) :
    replaceMatches v p (some (.string "")) = replaceMatches v p none := by
  simp only [replaceMatches, textArgument]
  rfl

theorem occurrence_zero (v p : Value) (n : Option Value) :
    occurrence v p (some (.integer 0)) n = occurrence v p none n := by
  simp only [occurrence, offsetArgument_default]

theorem occurrence_one (v p : Value) (start : Option Value) :
    occurrence v p start (some (.integer 1)) = occurrence v p start none := by
  simp only [occurrence, offsetArgument_default]

theorem TypedExpr.evalOptional_none [PatternLibrary] (context : Context) : evalOptional context none = pure none := rfl

theorem TypedExpr.evalOptional_constant [PatternLibrary] (context : Context) (v : Value) :
    evalOptional context (some (.constant v)) = pure (some v) := rfl

/-- The length of an operand as the end of a piece of it: the operand is evaluated once more, to the same value. -/
theorem TypedExpr.eval_substr_length [PatternLibrary] {e : TypedExpr} (first : Option TypedExpr) {context : Context}
    (he : ∀ v, e.eval context = .ok v → v.Fits .string) :
    (TypedExpr.substr .string e first none).eval context =
      (TypedExpr.substr .string e first (some (.unary .integer .length e))).eval context := by
  simp only [eval, evalOptional]
  cases h : e.eval context with
  | error err => rfl
  | ok v =>
    cases evalOptional context first with
    | error err => rfl
    | ok i =>
      have hlength := substring_length (he v h) i
      show substring v i none = ((applyUnary .length v >>= fun n => .ok (some n)) >>= fun j => substring v i j)
      rw [← hlength, bind_assoc]
      rfl

/-! ### Outcomes that mean the same -/

/-- Outcomes of two checks that no context tells apart: one error, or typed expressions of one type that have the
    same value or the same error in every context. -/
inductive SameMeaning [PatternLibrary] : Checked TypedExpr → Checked TypedExpr → Prop where
  | error (e : SemanticError) : SameMeaning (.error e) (.error e)
  | ok {t t' : TypedExpr} (htype : t.dataType = t'.dataType)
    (heval : ∀ context, t.eval context = t'.eval context) : SameMeaning (.ok t) (.ok t')

namespace SameMeaning

variable [PatternLibrary] {α β : Type} {x : Checked α} {y : Checked β} {a : α} {b : β}

/-- A step in common. -/
theorem bind {f f' : α → Checked TypedExpr} (h : ∀ a, x = .ok a → SameMeaning (f a) (f' a)) :
    SameMeaning (x >>= f) (x >>= f') := by
  cases x with
  | error e => exact .error e
  | ok a => exact h a rfl

/-- Two steps that both succeed. -/
theorem bind_ok {f : α → Checked TypedExpr} {f' : β → Checked TypedExpr} (hx : x = .ok a) (hy : y = .ok b)
    (h : SameMeaning (f a) (f' b)) : SameMeaning (x >>= f) (y >>= f') := by
  rw [hx, hy]
  exact h

end SameMeaning

/-! ### Placeholders at the end -/

section Placeholders

variable {check : Check} {name : String} {span : Span} {s p : Expr} {holes : List Expr}

/-- A placeholder at the end of the arguments is as good as no argument. -/
theorem checkOptional_append_omitted (hholes : ∀ a ∈ holes, a.isOmitted = true) (expected : DataType)
    (args : List Expr) (i : Nat) :
    checkOptional check expected (args ++ holes)[i]? = checkOptional check expected args[i]? := by
  by_cases hi : i < args.length
  · rw [List.getElem?_append_left hi]
  · have hi : args.length ≤ i := Nat.le_of_not_lt hi
    rw [List.getElem?_append_right hi, List.getElem?_eq_none hi]
    cases hhole : holes[i - args.length]? with
    | none => rfl
    | some a => simp only [checkOptional, hholes a (List.mem_of_getElem? hhole), if_true]

/-- Placeholders at the end add nothing to a call. -/
theorem checkCall_substring_append {offsets : List Expr} (span' : Span)
    (hholes : ∀ a ∈ holes, a.isOmitted = true) (hcount : offsets.length + holes.length ≤ 2) :
    checkCall check .substring name (s :: offsets) span =
      checkCall check .substring name (s :: (offsets ++ holes)) span' := by
  have hlength : (offsets ++ holes).length ≤ 2 := by rwa [List.length_append]
  rw [checkCall_substring (by omega), checkCall_substring hlength]
  simp only [checkSubstring, checkOptional_append_omitted hholes]

theorem checkCall_replacement_append {texts : List Expr} (span' : Span)
    (hholes : ∀ a ∈ holes, a.isOmitted = true) (hcount : texts.length + holes.length ≤ 1) :
    checkCall check .replacement name (s :: p :: texts) span =
      checkCall check .replacement name (s :: p :: (texts ++ holes)) span' := by
  have hlength : (texts ++ holes).length ≤ 1 := by rwa [List.length_append]
  rw [checkCall_replacement (by omega), checkCall_replacement hlength]
  simp only [checkReplacement, checkOptional_append_omitted hholes]

theorem checkCall_occurrence_append {offsets : List Expr} (span' : Span)
    (hholes : ∀ a ∈ holes, a.isOmitted = true) (hcount : offsets.length + holes.length ≤ 2) :
    checkCall check .occurrence name (s :: p :: offsets) span =
      checkCall check .occurrence name (s :: p :: (offsets ++ holes)) span' := by
  have hlength : (offsets ++ holes).length ≤ 2 := by rwa [List.length_append]
  rw [checkCall_occurrence (by omega), checkCall_occurrence hlength]
  simp only [checkOccurrence, checkOptional_append_omitted hholes]

end Placeholders

/-! ### Defaults written out -/

namespace Checker

section Constants

variable {c : Checker} {room : Nat} {s p a : Expr} {e : TypedExpr}

/-- Where there is room for an argument, there is for a constant. -/
theorem checkOptional_literal {type expected : DataType} (hs : checkArgument (c.checkWithin room) type s = .ok e)
    (place : Span) {v : Literal} (hv : v.value.dataType.widensTo expected = true) :
    checkOptional (c.checkWithin room) expected (some (.literal place v)) = .ok (some (.constant v.value)) := by
  cases room with
  | zero => cases hs
  | succ room =>
    have hfit : (requireType expected (.constant v.value) place : Checked TypedExpr) = .ok (.constant v.value) :=
      requireType_of_widensTo place hv
    exact bind_eq_ok.2 ⟨.constant v.value, hfit, rfl⟩

variable [PatternLibrary]

theorem checkSubstring_zero (hole place : Span) (last : Option Expr) :
    SameMeaning (checkSubstring (c.checkWithin room) s (some (.omitted hole)) last)
      (checkSubstring (c.checkWithin room) s (some (.literal place (.integer 0))) last) := by
  refine .bind fun e he => .bind_ok rfl (checkOptional_literal he place rfl)
    (.bind fun l _ => .ok rfl fun context => ?_)
  simp only [TypedExpr.eval, TypedExpr.evalOptional_none, TypedExpr.evalOptional_constant, pure_bind, Literal.value,
    substring_zero]

theorem checkReplacement_empty (hole place : Span) :
    SameMeaning (checkReplacement (c.checkWithin room) s p (some (.omitted hole)))
      (checkReplacement (c.checkWithin room) s p (some (.literal place (.string "")))) := by
  refine .bind fun e he => .bind fun q _ => .bind_ok rfl (checkOptional_literal he place rfl)
    (.ok rfl fun context => ?_)
  simp only [TypedExpr.eval, TypedExpr.evalOptional_none, TypedExpr.evalOptional_constant, pure_bind, Literal.value,
    replaceMatches_empty]

theorem checkOccurrence_zero (hole place : Span) (n : Option Expr) :
    SameMeaning (checkOccurrence (c.checkWithin room) s p (some (.omitted hole)) n)
      (checkOccurrence (c.checkWithin room) s p (some (.literal place (.integer 0))) n) := by
  refine .bind fun e he => .bind fun q _ => .bind_ok rfl (checkOptional_literal he place rfl)
    (.bind fun m _ => .ok rfl fun context => ?_)
  simp only [TypedExpr.eval, TypedExpr.evalOptional_none, TypedExpr.evalOptional_constant, pure_bind, Literal.value,
    occurrence_zero]

theorem checkOccurrence_one (hole place : Span) (start : Option Expr) :
    SameMeaning (checkOccurrence (c.checkWithin room) s p start (some (.omitted hole)))
      (checkOccurrence (c.checkWithin room) s p start (some (.literal place (.integer 1)))) := by
  refine .bind fun e he => .bind fun q _ => .bind fun i _ => .bind_ok rfl (checkOptional_literal he place rfl)
    (.ok rfl fun context => ?_)
  simp only [TypedExpr.eval, TypedExpr.evalOptional_none, TypedExpr.evalOptional_constant, pure_bind, Literal.value,
    occurrence_one]

end Constants

section Standard

variable {Γ : Declarations} {limit room : Nat} {s a : Expr} {e : TypedExpr} {f g : String} {span : Span}

/-- A text as an argument. -/
theorem checkArgument_string (hs : checkArgument (checkWithin ⟨Γ, .standard, limit⟩ room) .string s = .ok e) :
    WellTyped Γ e ∧ e.dataType = .string :=
  checkArgument_wellTyped (checkWithin_sound FunctionTable.BuiltIn.standard.covered room) (by decide) hs

/-- The length of an operand that was accepted is accepted too, unless the operand reaches the limit of nesting one
    level further in. -/
theorem checkWithin_length (place : Span) (hg : Text.toLower g ∈ ["length", "len"])
    (hs : checkArgument (checkWithin ⟨Γ, .standard, limit⟩ room) .string s = .ok e) :
    (∃ span, checkWithin ⟨Γ, .standard, limit⟩ room (.call place g [s]) = .error (.nestingTooDeep limit span)) ∨
      checkWithin ⟨Γ, .standard, limit⟩ room (.call place g [s]) = .ok (.unary .integer .length e) := by
  cases room with
  | zero => cases hs
  | succ room =>
    obtain ⟨-, -, hrule, -⟩ := textOperation?_length hg
    have hop : textOperation? (Text.toLower g) = some .length := by
      simp only [List.mem_cons, List.not_mem_nil, or_false] at hg
      rcases hg with hg | hg <;> exact hg ▸ rfl
    have hcall : checkWithin ⟨Γ, .standard, limit⟩ (room + 1) (.call place g [s]) =
        checkText (checkWithin ⟨Γ, .standard, limit⟩ room) .length s := by
      rw [checkWithin, checkNode_call rfl hrule]
      simp only [checkCall, hop]
    rw [hcall]
    rcases checkWithin_eq_of_le ⟨Γ, .standard, limit⟩ s (Nat.le_succ room) with ⟨span, hdeep⟩ | hsame
    · refine .inl ⟨span, ?_⟩
      simp only [checkText, checkArgument, hdeep]
      rfl
    · have te : e.dataType = .string := (checkArgument_string hs).2
      refine .inr ?_
      rw [checkArgument, ← hsame, ← checkArgument] at hs
      rw [checkText, hs]
      show Except.ok (TypedExpr.unary ((UnaryOp.length.outputType e.dataType).getD .string) .length e) = _
      rw [te]
      rfl

/-- The end of a piece may be given as the length of the text, if that does not reach the limit of nesting. -/
theorem checkSubstring_length [PatternLibrary] (hole place : Span) (hg : Text.toLower g ∈ ["length", "len"])
    (hroom : ∀ span, checkSubstring (checkWithin ⟨Γ, .standard, limit⟩ room) s (some a) (some (.call place g [s])) ≠
      .error (.nestingTooDeep limit span)) :
    SameMeaning (checkSubstring (checkWithin ⟨Γ, .standard, limit⟩ room) s (some a) (some (.omitted hole)))
      (checkSubstring (checkWithin ⟨Γ, .standard, limit⟩ room) s (some a) (some (.call place g [s]))) := by
  refine .bind fun e he => .bind fun i hi => ?_
  have hoptional : checkOptional (checkWithin ⟨Γ, .standard, limit⟩ room) .integer (some (.call place g [s])) =
      (checkWithin ⟨Γ, .standard, limit⟩ room (.call place g [s]) >>= fun n => requireType .integer n place) >>=
        fun n => .ok (some n) := rfl
  rcases checkWithin_length place hg he with ⟨span, hdeep⟩ | hlength
  · -- The arguments before were accepted, so the error of the length would be that of the call.
    have hlast := hoptional
    rw [hdeep] at hlast
    refine absurd ?_ (hroom span)
    rw [checkSubstring]
    exact bind_eq_error.2 (.inr ⟨e, he, bind_eq_error.2 (.inr ⟨i, hi, bind_eq_error.2 (.inl hlast)⟩)⟩)
  · rw [hlength] at hoptional
    refine .bind_ok rfl hoptional (.ok rfl fun context => TypedExpr.eval_substr_length i fun v hv => ?_)
    obtain ⟨hwell, te⟩ := checkArgument_string he
    have hfits := hwell.eval_settled context
    rw [hv, te] at hfits
    exact hfits

/-- The check of a call of a standard function, with some room for its arguments. -/
theorem check_call {name : String} {args : List Expr} {rule : CallRule} (hf : Text.toLower f = name)
    (hrule : FunctionTable.standard.call? name = some rule) :
    check ⟨Γ, .standard, room + 1⟩ (.call span f args) =
      checkCall (checkWithin ⟨Γ, .standard, room + 1⟩ room) rule name args span := by
  simp only [check, checkWithin]
  exact checkNode_call hf hrule

/-- The rules of the functions with arguments that may be left out. -/
theorem standard_optionalTails : FunctionTable.standard.call? "substr" = some .substring ∧
    FunctionTable.standard.call? "replace" = some .replacement ∧
    FunctionTable.standard.call? "instr" = some .occurrence := by
  simp only [FunctionTable.standard_call?_eq_some]
  decide

end Standard

/-- Where there is room for something, the limit of nesting is not zero. -/
theorem HasRoomFor.limit_eq_succ {c : Checker} {e : Expr} (h : c.HasRoomFor e) : ∃ room, c.limit = room + 1 := by
  obtain ⟨Γ, table, limit⟩ := c
  cases limit with
  | zero => exact absurd rfl (h e.span)
  | succ room => exact ⟨room, rfl⟩

theorem check_leavesOut {Γ : Declarations} {room : Nat} {e e' : Expr} (h : LeavesOut e e') :
    check ⟨Γ, .standard, room + 1⟩ e = check ⟨Γ, .standard, room + 1⟩ e' := by
  obtain ⟨hsubstr, hreplace, hinstr⟩ := standard_optionalTails
  obtain @⟨f, least, most, span, span', args, holes, hf, hleast, hmost, hholes⟩ := h
  simp only [optionalTails, List.mem_cons, Prod.mk.injEq, List.not_mem_nil, or_false] at hf
  rcases hf with ⟨hf, rfl, rfl⟩ | ⟨hf, rfl, rfl⟩ | ⟨hf, rfl, rfl⟩
  · match args with
    | s :: offsets =>
      rw [check_call hf hsubstr, check_call hf hsubstr]
      rw [List.length_cons] at hmost
      exact checkCall_substring_append span' hholes (by omega)
  · match args with
    | s :: p :: texts =>
      rw [check_call hf hreplace, check_call hf hreplace]
      simp only [List.length_cons] at hmost
      exact checkCall_replacement_append span' hholes (by omega)
  · match args with
    | s :: p :: offsets =>
      rw [check_call hf hinstr, check_call hf hinstr]
      simp only [List.length_cons] at hmost
      exact checkCall_occurrence_append span' hholes (by omega)

/-- A default written out means the same as its placeholder, where there is room for it. -/
theorem check_writesDefault [PatternLibrary] {Γ : Declarations} {room : Nat} {e e' : Expr} (h : WritesDefault e e')
    (hroom : HasRoomFor ⟨Γ, .standard, room + 1⟩ e') :
    SameMeaning (check ⟨Γ, .standard, room + 1⟩ e) (check ⟨Γ, .standard, room + 1⟩ e') := by
  obtain ⟨hsubstr, hreplace, hinstr⟩ := standard_optionalTails
  cases h with
  | first span span' hole place s b hf =>
    rw [check_call hf hsubstr, check_call hf hsubstr]
    exact checkSubstring_zero hole place (some b)
  | last span span' hole place s a hf hg =>
    unfold HasRoomFor at hroom
    rw [check_call hf hsubstr] at hroom ⊢
    rw [check_call hf hsubstr]
    exact checkSubstring_length hole place hg hroom
  | replacement span span' hole place s p hf =>
    rw [check_call hf hreplace, check_call hf hreplace]
    exact checkReplacement_empty hole place
  | start span span' hole place s p b hf =>
    rw [check_call hf hinstr, check_call hf hinstr]
    exact checkOccurrence_zero hole place (some b)
  | occurrence span span' hole place s p a hf =>
    rw [check_call hf hinstr, check_call hf hinstr]
    exact checkOccurrence_one hole place (some a)

/-- An argument that is left out is its default, whatever the other arguments are. Writing nothing at the end makes
    the typed expression, or the error, that placeholders make; and a placeholder makes one of the same meaning as
    the default, or the same error, where the default does not reach the limit of nesting. -/
theorem check_omitted_argument [PatternLibrary] (Γ : Declarations) (limit : Nat) :
    let c : Checker := ⟨Γ, .standard, limit⟩
    (∀ e e', LeavesOut e e' → c.HasRoomFor e ∨ c.HasRoomFor e' → c.check e = c.check e') ∧
    ∀ e e', WritesDefault e e' → c.HasRoomFor e' → SameMeaning (c.check e) (c.check e') := by
  intro c
  constructor
  · intro e e' h hroom
    obtain ⟨room, rfl⟩ : ∃ room, limit = room + 1 := hroom.elim HasRoomFor.limit_eq_succ HasRoomFor.limit_eq_succ
    exact check_leavesOut h
  · intro e e' h hroom
    obtain ⟨room, rfl⟩ : ∃ room, limit = room + 1 := hroom.limit_eq_succ
    exact check_writesDefault h hroom

open scoped Fragment in
/-- A piece of a text from its first character on. Its end may be left out, or given as a placeholder or as the length
    of the text; the length is checked one level further in, so that the limit is three then. -/
theorem check_omitted_argument_piece :
    let x : Span := .unplaced "x"
    let Γ : Declarations := NameMap.empty.insert "x" .string
    let piece : List Expr → Expr := fun rest => .call x "substr" (.variable x "x" :: .literal x (.integer 1) :: rest)
    let placeholder := piece [.omitted x]
    let length := piece [.call x "length" [.variable x "x"]]
    (LeavesOut (piece []) placeholder ∧ HasRoomFor ⟨Γ, .standard, 2⟩ placeholder ∧
      check ⟨Γ, .standard, 2⟩ (piece []) = check ⟨Γ, .standard, 2⟩ placeholder) ∧
    (WritesDefault placeholder length ∧ HasRoomFor ⟨Γ, .standard, 3⟩ length ∧
      SameMeaning (check ⟨Γ, .standard, 3⟩ placeholder) (check ⟨Γ, .standard, 3⟩ length)) := by
  intro x Γ piece placeholder length
  have htail : (Text.toLower "substr", 1, 3) ∈ optionalTails := by decide
  have hleaves : LeavesOut (piece []) placeholder := .tail x x htail (by decide) (by decide) (by decide)
  have hwrites : WritesDefault placeholder length := .last x x x x _ _ rfl (by decide)
  have hroom : HasRoomFor ⟨Γ, .standard, 2⟩ placeholder := nofun
  have hroom' : HasRoomFor ⟨Γ, .standard, 3⟩ length := nofun
  exact ⟨⟨hleaves, hroom, (check_omitted_argument Γ 2).1 _ _ hleaves (.inr hroom)⟩,
    hwrites, hroom', (check_omitted_argument Γ 3).2 _ _ hwrites hroom'⟩

end Checker

end AssignScript
