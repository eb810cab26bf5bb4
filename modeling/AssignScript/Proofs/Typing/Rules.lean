import AssignScript.Proofs.Syntax.Shape
import AssignScript.Proofs.Typing.Checked

/-!
# The typing rules

Which expressions have a type, and which one, said without the checker: one rule for each form of
expression and for each function. The checker with the standard table finds exactly the types that the
rules give.

## Main definitions

* `HasType`: the typing rules.

## Main statements

* `Checker.checkNode_hasType`: a step of the checker follows one of the rules;
* `Checker.checkWithin_types`: what the checker accepts has the type that it announces, and its height is
  within the limit.
-/

namespace AssignScript

/-- The typing rules: an expression has a type, given the types of names. -/
inductive HasType (Γ : Declarations) : Expr → DataType → Prop where
  | literal (span : Span) (v : Literal) : HasType Γ (.literal span v) v.value.dataType
  | variable {span : Span} {x : String} {t : DataType} (h : Γ.get? x = some t) :
    HasType Γ (.variable span x) t
  | parens {span : Span} {e : Expr} {t : DataType} (he : HasType Γ e t) :
    HasType Γ (.parens span e) t
  | not {span : Span} {e : Expr} (he : HasType Γ e .boolean) :
    HasType Γ (.unary span .not e) .boolean
  | sign {span : Span} {op : UnaryOp} {e : Expr} {t : DataType} (hop : op ∈ [.plus, .minus])
    (he : HasType Γ e t) (ht : t.isNumeric) : HasType Γ (.unary span op e) t
  | arithmetic {span : Span} {op : BinaryOp} {l r : Expr} {t u : DataType}
    (hop : op ∈ [.add, .sub, .mul]) (hl : HasType Γ l t) (hr : HasType Γ r u) (ht : t.isNumeric)
    (hu : u.isNumeric) :
    HasType Γ (.binary span op l r) (if t = .integer ∧ u = .integer then .integer else .number)
  | quotient {span : Span} {l r : Expr} {t u : DataType} (hl : HasType Γ l t) (hr : HasType Γ r u)
    (ht : t.isNumeric) (hu : u.isNumeric) : HasType Γ (.binary span .div l r) .number
  | equality {span : Span} {op : BinaryOp} {l r : Expr} {t u : DataType} (hop : op ∈ [.eq, .ne])
    (hl : HasType Γ l t) (hr : HasType Γ r u)
    (h : (t.isNumeric ∧ u.isNumeric) ∨ (t = u ∧ t ≠ .null)) : HasType Γ (.binary span op l r) .boolean
  | ordering {span : Span} {op : BinaryOp} {l r : Expr} {t u : DataType}
    (hop : op ∈ [.lt, .le, .gt, .ge]) (hl : HasType Γ l t) (hr : HasType Γ r u)
    (h : (t.isNumeric ∧ u.isNumeric) ∨ (t = .string ∧ u = .string)) :
    HasType Γ (.binary span op l r) .boolean
  | logical {span : Span} {op : BinaryOp} {l r : Expr} (hop : op ∈ [.and, .or, .xor])
    (hl : HasType Γ l .boolean) (hr : HasType Γ r .boolean) : HasType Γ (.binary span op l r) .boolean
  | concat {span : Span} {l r : Expr} (hl : HasType Γ l .string) (hr : HasType Γ r .string) :
    HasType Γ (.binary span .concat l r) .string
  | conditional {span : Span} {c a b : Expr} {t u : DataType} (hc : HasType Γ c .boolean)
    (ha : HasType Γ a t) (hb : HasType Γ b u) (h : t = u ∨ (t.isNumeric ∧ u.isNumeric)) :
    HasType Γ (.conditional span c a b) (if t = u then t else .number)
  | between {span : Span} {x : String} {e l u : Expr} {te tl tu : DataType}
    (hx : Text.toLower x = "between") (he : HasType Γ e te) (hl : HasType Γ l tl)
    (hu : HasType Γ u tu) (hte : te.isNumeric) (htl : tl.isNumeric) (htu : tu.isNumeric) :
    HasType Γ (.call span x [e, l, u]) .boolean
  | matching {span : Span} {x : String} {e p : Expr} (hx : Text.toLower x = "match_characters")
    (he : HasType Γ e .string) (hp : HasType Γ p .string) : HasType Γ (.call span x [e, p]) .boolean
  | nullTest {span : Span} {x : String} {e : Expr} {t : DataType} (hx : Text.toLower x = "isnull")
    (he : HasType Γ e t) : HasType Γ (.call span x [e]) .boolean
  | text {span : Span} {x : String} {e : Expr}
    (hx : Text.toLower x ∈ ["trim", "ltrim", "rtrim", "upper", "ucase", "lower", "lcase"])
    (he : HasType Γ e .string) : HasType Γ (.call span x [e]) .string
  | length {span : Span} {x : String} {e : Expr} (hx : Text.toLower x ∈ ["length", "len"])
    (he : HasType Γ e .string) : HasType Γ (.call span x [e]) .integer
  -- Arguments that may be left out are left out at the end, or by the placeholder.
  | substring {span : Span} {x : String} {e : Expr} {offsets : List Expr}
    (hx : Text.toLower x = "substr") (he : HasType Γ e .string) (hcount : offsets.length ≤ 2)
    (ho : ∀ a ∈ offsets, a.isOmitted = false → HasType Γ a .integer) :
    HasType Γ (.call span x (e :: offsets)) .string
  | replacement {span : Span} {x : String} {e p : Expr} {texts : List Expr}
    (hx : Text.toLower x = "replace") (he : HasType Γ e .string) (hp : HasType Γ p .string)
    (hcount : texts.length ≤ 1) (hb : ∀ a ∈ texts, a.isOmitted = false → HasType Γ a .string) :
    HasType Γ (.call span x (e :: p :: texts)) .string
  | occurrence {span : Span} {x : String} {e p : Expr} {offsets : List Expr}
    (hx : Text.toLower x = "instr") (he : HasType Γ e .string) (hp : HasType Γ p .string)
    (hcount : offsets.length ≤ 2) (ho : ∀ a ∈ offsets, a.isOmitted = false → HasType Γ a .integer) :
    HasType Γ (.call span x (e :: p :: offsets)) .integer

/-! ### The standard table -/

namespace FunctionTable

/-- The functions of the standard table, by their names in lower case. -/
theorem standard_call?_eq_some {name : String} {rule : CallRule} : standard.call? name = some rule ↔
    (name, rule) ∈ [("between", CallRule.between), ("instr", .occurrence), ("isnull", .nullTest),
      ("lcase", .text), ("len", .text), ("length", .text), ("lower", .text), ("ltrim", .text),
      ("match_characters", .matching), ("replace", .replacement), ("rtrim", .text),
      ("substr", .substring), ("trim", .text), ("ucase", .text), ("upper", .text)] :=
  NameMap.lookup_eq_some_iff standard.calls.sorted

end FunctionTable

/-- The operations that function names stand for, with the types that they give. -/
theorem textOperation?_cases {name : String} {op : UnaryOp} (h : textOperation? name = some op) :
    (name ∈ ["trim", "ltrim", "rtrim", "upper", "ucase", "lower", "lcase"] ∧
      op.outputType .string = some .string) ∨
    (name ∈ ["length", "len"] ∧ op.outputType .string = some .integer) := by
  have hall : ∀ p ∈ textOperations,
      (p.1 ∈ ["trim", "ltrim", "rtrim", "upper", "ucase", "lower", "lcase"] ∧
        p.2.outputType .string = some .string) ∨
      (p.1 ∈ ["length", "len"] ∧ p.2.outputType .string = some .integer) := by
    decide
  obtain ⟨before, after, hsplit, -⟩ := List.lookup_eq_some_iff.1 h
  exact hall (name, op) (by simp [hsplit])

/-! ### What is accepted has a type -/

/-- A check that accepts expressions with a type only, which it announces, and none of more than some
    height. -/
def Check.Types (Γ : Declarations) (room : Nat) (check : Check) : Prop :=
  ∀ e t, check e = .ok t → HasType Γ e t.dataType ∧ e.height ≤ room

section Accepted

variable {Γ : Declarations} {room : Nat} {check : Check} {t : TypedExpr}

theorem checkPair_eq_ok {expected : DataType} {left right : Expr} {l r : TypedExpr} :
    checkPair check expected left right = .ok (l, r) ↔
      (check left = .ok l ∧ l.dataType.widensTo expected = true) ∧
        (check right = .ok r ∧ r.dataType.widensTo expected = true) := by
  simp only [checkPair, bind_eq_ok, requireType_eq_ok]
  constructor
  · rintro ⟨_, hl, _, hr, _, ⟨tl, rfl⟩, _, ⟨tr, rfl⟩, h⟩
    cases h
    exact ⟨⟨hl, tl⟩, hr, tr⟩
  · rintro ⟨⟨hl, tl⟩, hr, tr⟩
    exact ⟨l, hl, r, hr, l, ⟨tl, rfl⟩, r, ⟨tr, rfl⟩, rfl⟩

theorem checkUnary_hasType {rule : UnaryRule} {op : UnaryOp} {operand : Expr} (span : Span)
    (hc : check.Types Γ room) (hop : rule.Covers op) (h : checkUnary check rule op operand = .ok t) :
    HasType Γ (.unary span op operand) t.dataType ∧ operand.height ≤ room := by
  cases rule with
  | logical =>
    simp only [checkUnary, bind_eq_ok, requireType_eq_ok] at h
    obtain ⟨e, he, _, ⟨te, rfl⟩, h⟩ := h
    cases h
    cases hop
    obtain ⟨htype, hheight⟩ := hc _ _ he
    have te := DataType.eq_of_widensTo te (by decide)
    rw [te] at htype
    refine ⟨?_, hheight⟩
    rw [TypedExpr.dataType, te]
    exact .not htype
  | sign =>
    simp only [checkUnary, bind_eq_ok, requireType_eq_ok] at h
    obtain ⟨e, he, _, ⟨te, rfl⟩, h⟩ := h
    cases h
    obtain ⟨htype, hheight⟩ := hc _ _ he
    have hmem : op ∈ [UnaryOp.plus, .minus] := by simpa [UnaryRule.Covers] using hop
    exact ⟨.sign hmem htype (DataType.isNumeric_of_widensTo te), hheight⟩

/-- What the arithmetic operators announce for numbers. -/
theorem outputType_arithmetic {op : BinaryOp} (hop : op ∈ [BinaryOp.add, .sub, .mul])
    {t u : DataType} (ht : t.isNumeric) (hu : u.isNumeric) :
    op.outputType t u = some (if t = .integer ∧ u = .integer then .integer else .number) := by
  simp only [List.mem_cons, List.not_mem_nil, or_false] at hop
  rcases hop with rfl | rfl | rfl <;> cases t <;> cases ht <;> cases u <;> cases hu <;> rfl

theorem outputType_quotient {t u : DataType} (ht : t.isNumeric) (hu : u.isNumeric) :
    BinaryOp.div.outputType t u = some .number := by
  cases t <;> cases ht <;> cases u <;> cases hu <;> rfl

/-- Operands that can be compared for equality. -/
theorem outputType_equality {op : BinaryOp} (hop : op ∈ [BinaryOp.eq, .ne]) {t u v : DataType} :
    op.outputType t u = some v ↔
      v = .boolean ∧ ((t.isNumeric ∧ u.isNumeric) ∨ (t = u ∧ t ≠ .null)) := by
  simp only [List.mem_cons, List.not_mem_nil, or_false] at hop
  rcases hop with rfl | rfl <;> cases t <;> cases u <;> cases v <;> decide

/-- Operands that can be compared for order. -/
theorem outputType_ordering {op : BinaryOp} (hop : op ∈ [BinaryOp.lt, .le, .gt, .ge])
    {t u v : DataType} : op.outputType t u = some v ↔
      v = .boolean ∧ ((t.isNumeric ∧ u.isNumeric) ∨ (t = .string ∧ u = .string)) := by
  simp only [List.mem_cons, List.not_mem_nil, or_false] at hop
  rcases hop with rfl | rfl | rfl | rfl <;> cases t <;> cases u <;> cases v <;> decide

theorem checkBinary_hasType {rule : BinaryRule} {op : BinaryOp} {left right : Expr} {span : Span}
    (hc : check.Types Γ room) (hop : rule.Covers op)
    (h : checkBinary check rule op left right span = .ok t) :
    HasType Γ (.binary span op left right) t.dataType ∧ max left.height right.height ≤ room := by
  cases rule with
  | logical =>
    simp only [checkBinary, bind_eq_ok, Prod.exists, checkPair_eq_ok] at h
    obtain ⟨l, r, ⟨⟨hl, tl⟩, hr, tr⟩, h⟩ := h
    cases h
    obtain ⟨hlt, hlh⟩ := hc _ _ hl
    obtain ⟨hrt, hrh⟩ := hc _ _ hr
    have tl := DataType.eq_of_widensTo tl (by decide)
    have tr := DataType.eq_of_widensTo tr (by decide)
    rw [tl] at hlt
    rw [tr] at hrt
    refine ⟨?_, Nat.max_le.2 ⟨hlh, hrh⟩⟩
    have hmem : op ∈ [BinaryOp.and, .or, .xor] := by simpa [BinaryRule.Covers] using hop
    have houtput : op.outputType .boolean .boolean = some .boolean := by
      rcases hop with rfl | rfl | rfl <;> rfl
    rw [TypedExpr.dataType, tl, tr, houtput]
    exact .logical hmem hlt hrt
  | comparison =>
    simp only [checkBinary, bind_eq_ok] at h
    obtain ⟨l, hl, r, hr, _, -, h⟩ := h
    obtain ⟨hlt, hlh⟩ := hc _ _ hl
    obtain ⟨hrt, hrh⟩ := hc _ _ hr
    refine ⟨?_, Nat.max_le.2 ⟨hlh, hrh⟩⟩
    split at h
    · next u hu =>
      cases h
      have hmem : op ∈ [BinaryOp.eq, .ne] ∨ op ∈ [BinaryOp.lt, .le, .gt, .ge] := by
        simpa [BinaryRule.Covers, or_assoc] using hop
      rcases hmem with hmem | hmem
      · obtain ⟨rfl, hfit⟩ := (outputType_equality hmem).1 hu
        exact .equality hmem hlt hrt hfit
      · obtain ⟨rfl, hfit⟩ := (outputType_ordering hmem).1 hu
        exact .ordering hmem hlt hrt hfit
    · cases h
  | arithmetic =>
    simp only [checkBinary, bind_eq_ok, Prod.exists, checkPair_eq_ok] at h
    obtain ⟨l, r, ⟨⟨hl, tl⟩, hr, tr⟩, h⟩ := h
    cases h
    obtain ⟨hlt, hlh⟩ := hc _ _ hl
    obtain ⟨hrt, hrh⟩ := hc _ _ hr
    have tl := DataType.isNumeric_of_widensTo tl
    have tr := DataType.isNumeric_of_widensTo tr
    refine ⟨?_, Nat.max_le.2 ⟨hlh, hrh⟩⟩
    have hmem : op ∈ [BinaryOp.add, .sub, .mul] ∨ op = .div := by
      simpa [BinaryRule.Covers, or_assoc] using hop
    rcases hmem with hmem | rfl
    · rw [TypedExpr.dataType, outputType_arithmetic hmem tl tr]
      exact .arithmetic hmem hlt hrt tl tr
    · rw [TypedExpr.dataType, outputType_quotient tl tr]
      exact .quotient hlt hrt tl tr
  | concatenation =>
    simp only [checkBinary, bind_eq_ok, Prod.exists, checkPair_eq_ok] at h
    obtain ⟨l, r, ⟨⟨hl, tl⟩, hr, tr⟩, h⟩ := h
    cases h
    cases hop
    obtain ⟨hlt, hlh⟩ := hc _ _ hl
    obtain ⟨hrt, hrh⟩ := hc _ _ hr
    rw [DataType.eq_of_widensTo tl (by decide)] at hlt
    rw [DataType.eq_of_widensTo tr (by decide)] at hrt
    exact ⟨.concat hlt hrt, Nat.max_le.2 ⟨hlh, hrh⟩⟩

theorem checkArgument_hasType {expected : DataType} {arg : Expr} (hc : check.Types Γ room)
    (hn : expected ≠ .number) (h : checkArgument check expected arg = .ok t) :
    HasType Γ arg expected ∧ arg.height ≤ room := by
  simp only [checkArgument, bind_eq_ok, requireType_eq_ok] at h
  obtain ⟨_, ht, te, rfl⟩ := h
  rw [← DataType.eq_of_widensTo te hn]
  exact hc _ _ ht

/-- An argument that may be left out. -/
theorem checkOptional_hasType {expected : DataType} {arg : Option Expr} {o : Option TypedExpr}
    (hc : check.Types Γ room) (hn : expected ≠ .number)
    (h : checkOptional check expected arg = .ok o) :
    ∀ a ∈ arg, a.isOmitted = false → HasType Γ a expected ∧ a.height ≤ room := by
  rintro a rfl ha
  simp only [checkOptional, ha, Bool.false_eq_true, if_false, bind_eq_ok] at h
  obtain ⟨e, he, -⟩ := h
  exact checkArgument_hasType hc hn he

theorem checkBetween_hasType {operand lower upper : Expr} {x : String} {span : Span}
    (hx : Text.toLower x = "between") (hc : check.Types Γ room)
    (h : checkBetween check operand lower upper span = .ok t) :
    HasType Γ (.call span x [operand, lower, upper]) t.dataType ∧
      Expr.heightArgs [operand, lower, upper] ≤ room := by
  simp only [checkBetween, bind_eq_ok, commonType_eq_ok] at h
  obtain ⟨e, he, l, hl, u, hu, common, hcommon, h⟩ := h
  obtain ⟨het, heh⟩ := hc _ _ he
  obtain ⟨hlt, hlh⟩ := hc _ _ hl
  obtain ⟨hut, huh⟩ := hc _ _ hu
  refine ⟨?_, Expr.heightArgs_le_iff.2 (by simp [heh, hlh, huh])⟩
  split at h
  · next hnumeric =>
    cases h
    simp only [List.map_cons, List.map_nil, DataType.widenAll, List.foldlM_cons, List.foldlM_nil,
      Option.bind_eq_bind, Option.bind_eq_some_iff, Option.pure_def, Option.some.injEq] at hcommon
    obtain ⟨m, hm, _, hlast, rfl⟩ := hcommon
    obtain ⟨hmnumeric, tu⟩ := DataType.isNumeric_of_widen hlast hnumeric
    obtain ⟨te, tl⟩ := DataType.isNumeric_of_widen hm hmnumeric
    exact .between hx het hlt hut te tl tu
  · cases h

theorem checkMatching_hasType {operand pattern : Expr} {x : String} (span : Span)
    (hx : Text.toLower x = "match_characters") (hc : check.Types Γ room)
    (h : checkMatching check operand pattern = .ok t) :
    HasType Γ (.call span x [operand, pattern]) t.dataType ∧
      Expr.heightArgs [operand, pattern] ≤ room := by
  simp only [checkMatching, bind_eq_ok, Prod.exists, checkPair_eq_ok] at h
  obtain ⟨e, p, ⟨⟨he, te⟩, hp, tp⟩, h⟩ := h
  cases h
  obtain ⟨het, heh⟩ := hc _ _ he
  obtain ⟨hpt, hph⟩ := hc _ _ hp
  rw [DataType.eq_of_widensTo te (by decide)] at het
  rw [DataType.eq_of_widensTo tp (by decide)] at hpt
  exact ⟨.matching hx het hpt, Expr.heightArgs_le_iff.2 (by simp [heh, hph])⟩

theorem checkText_hasType {op : UnaryOp} {operand : Expr} {x : String} (span : Span)
    (hop : textOperation? (Text.toLower x) = some op) (hc : check.Types Γ room)
    (h : checkText check op operand = .ok t) :
    HasType Γ (.call span x [operand]) t.dataType ∧ Expr.heightArgs [operand] ≤ room := by
  simp only [checkText, bind_eq_ok] at h
  obtain ⟨e, he, h⟩ := h
  cases h
  have te : e.dataType = .string := by
    simp only [checkArgument, bind_eq_ok, requireType_eq_ok] at he
    obtain ⟨_, -, te, rfl⟩ := he
    exact DataType.eq_of_widensTo te (by decide)
  obtain ⟨htype, hheight⟩ := checkArgument_hasType hc (by decide) he
  refine ⟨?_, Expr.heightArgs_le_iff.2 (by simp [hheight])⟩
  rcases textOperation?_cases hop with ⟨hx, hout⟩ | ⟨hx, hout⟩
  · rw [TypedExpr.dataType, te, hout]
    exact .text hx htype
  · rw [TypedExpr.dataType, te, hout]
    exact .length hx htype

theorem checkSubstring_hasType {operand : Expr} (first last : Option Expr) {x : String}
    (span : Span) (hx : Text.toLower x = "substr") (hc : check.Types Γ room)
    (h : checkSubstring check operand first last = .ok t) :
    HasType Γ (.call span x (operand :: (first.toList ++ last.toList))) t.dataType ∧
      Expr.heightArgs (operand :: (first.toList ++ last.toList)) ≤ room := by
  simp only [checkSubstring, bind_eq_ok] at h
  obtain ⟨e, he, f, hf, l, hl, h⟩ := h
  cases h
  obtain ⟨htype, hheight⟩ := checkArgument_hasType hc (by decide) he
  have hoffsets : ∀ a ∈ first.toList ++ last.toList, a.isOmitted = false →
      HasType Γ a .integer ∧ a.height ≤ room := by
    intro a ha
    rcases List.mem_append.1 ha with ha | ha
    · exact checkOptional_hasType hc (by decide) hf a (Option.mem_toList.1 ha)
    · exact checkOptional_hasType hc (by decide) hl a (Option.mem_toList.1 ha)
  have hcount : (first.toList ++ last.toList).length ≤ 2 := by
    cases first <;> cases last <;> simp
  refine ⟨.substring hx htype hcount fun a ha hgiven => (hoffsets a ha hgiven).1, ?_⟩
  rw [Expr.heightArgs_le_iff, List.forall_mem_cons]
  exact ⟨fun _ => hheight, fun a ha hgiven => (hoffsets a ha hgiven).2⟩

theorem checkReplacement_hasType {operand pattern : Expr} (replacement : Option Expr) {x : String}
    (span : Span) (hx : Text.toLower x = "replace") (hc : check.Types Γ room)
    (h : checkReplacement check operand pattern replacement = .ok t) :
    HasType Γ (.call span x (operand :: pattern :: replacement.toList)) t.dataType ∧
      Expr.heightArgs (operand :: pattern :: replacement.toList) ≤ room := by
  simp only [checkReplacement, bind_eq_ok] at h
  obtain ⟨e, he, p, hp, r, hr, h⟩ := h
  cases h
  obtain ⟨het, heh⟩ := checkArgument_hasType hc (by decide) he
  obtain ⟨hpt, hph⟩ := checkArgument_hasType hc (by decide) hp
  have htexts : ∀ a ∈ replacement.toList, a.isOmitted = false →
      HasType Γ a .string ∧ a.height ≤ room := fun a ha =>
    checkOptional_hasType hc (by decide) hr a (Option.mem_toList.1 ha)
  have hcount : replacement.toList.length ≤ 1 := by
    cases replacement <;> simp
  refine ⟨.replacement hx het hpt hcount fun a ha hgiven => (htexts a ha hgiven).1, ?_⟩
  rw [Expr.heightArgs_le_iff, List.forall_mem_cons, List.forall_mem_cons]
  exact ⟨fun _ => heh, fun _ => hph, fun a ha hgiven => (htexts a ha hgiven).2⟩

theorem checkOccurrence_hasType {operand pattern : Expr} (start n : Option Expr) {x : String}
    (span : Span) (hx : Text.toLower x = "instr") (hc : check.Types Γ room)
    (h : checkOccurrence check operand pattern start n = .ok t) :
    HasType Γ (.call span x (operand :: pattern :: (start.toList ++ n.toList))) t.dataType ∧
      Expr.heightArgs (operand :: pattern :: (start.toList ++ n.toList)) ≤ room := by
  simp only [checkOccurrence, bind_eq_ok] at h
  obtain ⟨e, he, p, hp, s, hs, o, ho, h⟩ := h
  cases h
  obtain ⟨het, heh⟩ := checkArgument_hasType hc (by decide) he
  obtain ⟨hpt, hph⟩ := checkArgument_hasType hc (by decide) hp
  have hoffsets : ∀ a ∈ start.toList ++ n.toList, a.isOmitted = false →
      HasType Γ a .integer ∧ a.height ≤ room := by
    intro a ha
    rcases List.mem_append.1 ha with ha | ha
    · exact checkOptional_hasType hc (by decide) hs a (Option.mem_toList.1 ha)
    · exact checkOptional_hasType hc (by decide) ho a (Option.mem_toList.1 ha)
  have hcount : (start.toList ++ n.toList).length ≤ 2 := by
    cases start <;> cases n <;> simp
  refine ⟨.occurrence hx het hpt hcount fun a ha hgiven => (hoffsets a ha hgiven).1, ?_⟩
  rw [Expr.heightArgs_le_iff, List.forall_mem_cons, List.forall_mem_cons]
  exact ⟨fun _ => heh, fun _ => hph, fun a ha hgiven => (hoffsets a ha hgiven).2⟩

theorem checkCall_hasType {rule : CallRule} {x : String} {args : List Expr} {span : Span}
    (hc : check.Types Γ room) (hrule : FunctionTable.standard.call? (Text.toLower x) = some rule)
    (h : checkCall check rule (Text.toLower x) args span = .ok t) :
    HasType Γ (.call span x args) t.dataType ∧ Expr.heightArgs args ≤ room := by
  have hmem := FunctionTable.standard_call?_eq_some.1 hrule
  simp only [List.mem_cons, Prod.mk.injEq, List.not_mem_nil, or_false] at hmem
  unfold checkCall at h
  split at h
  case h_1 => exact checkBetween_hasType (by simpa using hmem) hc h
  case h_3 => exact checkMatching_hasType span (by simpa using hmem) hc h
  case h_5 =>
    simp only [bind_eq_ok] at h
    obtain ⟨e, he, h⟩ := h
    cases h
    obtain ⟨htype, hheight⟩ := hc _ _ he
    exact ⟨.nullTest (by simpa using hmem) htype, Expr.heightArgs_le_iff.2 (by simp [hheight])⟩
  case h_7 =>
    split at h
    · cases h
    · next hop => exact checkText_hasType span hop hc h
    · cases h
  case h_8 =>
    exact checkSubstring_hasType none none span (by simpa using hmem) hc h
  case h_9 f =>
    exact checkSubstring_hasType (some f) none span (by simpa using hmem) hc h
  case h_10 f l =>
    exact checkSubstring_hasType (some f) (some l) span (by simpa using hmem) hc h
  case h_12 =>
    exact checkReplacement_hasType none span (by simpa using hmem) hc h
  case h_13 r =>
    exact checkReplacement_hasType (some r) span (by simpa using hmem) hc h
  case h_15 =>
    exact checkOccurrence_hasType none none span (by simpa using hmem) hc h
  case h_16 s =>
    exact checkOccurrence_hasType (some s) none span (by simpa using hmem) hc h
  case h_17 s n =>
    exact checkOccurrence_hasType (some s) (some n) span (by simpa using hmem) hc h
  all_goals cases h

theorem checkConditional_hasType {condition first second : Expr} {span : Span}
    (hc : check.Types Γ room) (h : checkConditional check condition first second span = .ok t) :
    HasType Γ (.conditional span condition first second) t.dataType ∧
      max condition.height (max first.height second.height) ≤ room := by
  simp only [checkConditional, bind_eq_ok, requireType_eq_ok, commonType_eq_ok] at h
  obtain ⟨c, hcond, _, ⟨tc, rfl⟩, a, ha, b, hb, u, hu, h⟩ := h
  cases h
  obtain ⟨hct, hch⟩ := hc _ _ hcond
  obtain ⟨hat, hah⟩ := hc _ _ ha
  obtain ⟨hbt, hbh⟩ := hc _ _ hb
  rw [DataType.eq_of_widensTo tc (by decide)] at hct
  refine ⟨?_, Nat.max_le.2 ⟨hch, Nat.max_le.2 ⟨hah, hbh⟩⟩⟩
  have hwiden : a.dataType.widen b.dataType = some u := by
    simpa [DataType.widenAll] using hu
  obtain ⟨hfit, rfl⟩ := DataType.widen_eq_some.1 hwiden
  exact .conditional hct hat hbt hfit

end Accepted

namespace Checker

variable {Γ : Declarations} {limit room : Nat} {check : Check} {e : Expr} {t : TypedExpr}

/-- What the checker accepts has the type that it announces, if that holds of the expressions inside. -/
theorem checkNode_hasType (hc : check.Types Γ room)
    (h : checkNode ⟨Γ, .standard, limit⟩ check e = .ok t) :
    HasType Γ e t.dataType ∧ e.height ≤ room + 1 := by
  cases e with
  | literal span v =>
    cases h
    exact ⟨.literal span v, Nat.succ_le_succ (Nat.zero_le _)⟩
  | «variable» span x =>
    simp only [checkNode] at h
    split at h
    · next hx =>
      cases h
      exact ⟨.variable hx, Nat.succ_le_succ (Nat.zero_le _)⟩
    · cases h
  | parens span inner =>
    obtain ⟨htype, hheight⟩ := hc inner t h
    exact ⟨.parens htype, Nat.succ_le_succ hheight⟩
  | unary span op operand =>
    simp only [checkNode] at h
    split at h
    · next rule hrule =>
      have hop := FunctionTable.BuiltIn.standard.covered.unary op rule hrule
      obtain ⟨htype, hheight⟩ := checkUnary_hasType span hc hop h
      exact ⟨htype, Nat.succ_le_succ hheight⟩
    · cases h
  | binary span op left right =>
    simp only [checkNode] at h
    split at h
    · next rule hrule =>
      have hop := FunctionTable.BuiltIn.standard.covered.binary op rule hrule
      obtain ⟨htype, hheight⟩ := checkBinary_hasType hc hop h
      exact ⟨htype, Nat.succ_le_succ hheight⟩
    · cases h
  | conditional span condition first second =>
    obtain ⟨htype, hheight⟩ := checkConditional_hasType hc h
    exact ⟨htype, Nat.succ_le_succ hheight⟩
  | call span x args =>
    simp only [checkNode] at h
    split at h
    · next rule hrule =>
      obtain ⟨htype, hheight⟩ := checkCall_hasType hc hrule h
      exact ⟨htype, Nat.succ_le_succ hheight⟩
    · cases h
  | omitted span => cases h

theorem checkWithin_types (Γ : Declarations) (limit room : Nat) :
    Check.Types Γ room (checkWithin ⟨Γ, .standard, limit⟩ room) := by
  induction room with
  | zero =>
    intro e t h
    cases h
  | succ room ih =>
    intro e t h
    exact checkNode_hasType ih h

end Checker

end AssignScript
