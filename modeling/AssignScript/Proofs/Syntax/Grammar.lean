import Mathlib.Algebra.Group.Nat.Defs
import AssignScript.Decimal.Numeral
import AssignScript.Proofs.Syntax.Shape
import AssignScript.Token

/-!
# The grammar

The productions of the language as a relation between the words before a phrase, the expression that they
write, and the words behind it. Repeated operators group to the left. Where a phrase may end is left to a
parameter, so that one relation gives the plain grammar, the grammar in which every last branch is as long
as it can be, and the one in which a look at the next word decides.

## Main definitions

* `Level`, `Level.Joins`, `Compares`, `Signs`, `Writes`: the words of each kind;
* `Seams`: where phrases may end; `Seams.any`, `Seams.lookahead`, `Seams.longest`;
* `Phrase`, `Reads`: the productions;
* `ReadsStatement`, `ReadsScript`: statements and scripts.

## Main statements

* `Reads.relocate`: what is read does not depend on the words behind, up to where phrases may end;
* `Reads.nest_lt`: an expression nests less than it has words.
-/

namespace AssignScript

/-! ### Words -/

/-- The levels of operators that may repeat. -/
inductive Level where
  /-- `or` and `xor`. -/
  | disjunctive
  /-- `and`. -/
  | conjunctive
  /-- `+`, `-` and `||`. -/
  | additive
  /-- `*` and `/`. -/
  | multiplicative
  deriving DecidableEq

/-- The operators of a level. -/
inductive Level.Joins : Level → Token → BinaryOp → Prop where
  | or : Joins .disjunctive (.keyword .or) .or
  | xor : Joins .disjunctive (.keyword .xor) .xor
  | and : Joins .conjunctive (.keyword .and) .and
  | plus : Joins .additive (.mark .plus) .add
  | minus : Joins .additive (.mark .minus) .sub
  | concat : Joins .additive (.mark .concat) .concat
  | star : Joins .multiplicative (.mark .star) .mul
  | slash : Joins .multiplicative (.mark .slash) .div

/-- The comparison operators. -/
inductive Compares : Token → BinaryOp → Prop where
  | equal : Compares (.mark .equal) .eq
  | notEqual : Compares (.mark .notEqual) .ne
  | less : Compares (.mark .less) .lt
  | lessEqual : Compares (.mark .lessEqual) .le
  | greater : Compares (.mark .greater) .gt
  | greaterEqual : Compares (.mark .greaterEqual) .ge

/-- The signs. -/
inductive Signs : Token → UnaryOp → Prop where
  | plus : Signs (.mark .plus) .plus
  | minus : Signs (.mark .minus) .minus

/-- A number of digits only, as opposed to one with a point or an exponent. -/
def IsWhole (digits : String) : Prop :=
  ∀ c ∈ digits.toList, c ≠ '.' ∧ c ≠ 'e' ∧ c ≠ 'E'

/-- The constants that words write. A number of digits only must fit 64 bits with a sign. -/
inductive Writes : Token → Literal → Prop where
  | null : Writes (.keyword .null) .null
  | true : Writes (.keyword .true) (.boolean true)
  | false : Writes (.keyword .false) (.boolean false)
  | string (content : String) : Writes (.string content) (.string content)
  | integer {digits : String} (h : IsWhole digits)
    (hmax : Decimal.digitsValue digits.toList ≤ 2 ^ 63 - 1) :
    Writes (.number digits) (.integer (.ofNat (Decimal.digitsValue digits.toList)))
  | number {digits : String} {x : Float} (h : ¬ IsWhole digits)
    (hx : Decimal.readFloat? digits = some x) : Writes (.number digits) (.number x)

/-! ### Where phrases end -/

/-- Where phrases may end. All but the last depend on the next word only. -/
structure Seams where
  /-- Where operators of a level stop repeating. -/
  chain : Level → Option Token → Prop
  /-- Where an operand may end that is not compared. -/
  operand : Option Token → Prop
  /-- Where a name may end that is not called. -/
  name : Option Token → Prop
  /-- Where the last branch of a choice may end, given the words before it and behind it. -/
  branch : List Token → List Token → Prop

namespace Seams

/-- Phrases may end anywhere. -/
def any : Seams := ⟨fun _ _ => True, fun _ => True, fun _ => True, fun _ _ => True⟩

/-- Phrases end where the next word cannot continue them. -/
def lookahead : Seams where
  chain l next := ∀ tok ∈ next, ∀ op, ¬ l.Joins tok op
  operand next := ∀ tok ∈ next, ∀ op, ¬ Compares tok op
  name next := next ≠ some (.mark .leftParen)
  branch _ _ := True

/-- Where a phrase may end before one word it may end before another. -/
structure Permits (D : Seams) (next next' : Option Token) : Prop where
  chain : ∀ l, D.chain l next → D.chain l next'
  operand : D.operand next → D.operand next'
  name : D.name next → D.name next'

theorem Permits.refl (D : Seams) (next : Option Token) : D.Permits next next :=
  ⟨fun _ => id, id, id⟩

/-- Only the next word counts, so words in between make any words behind permitted. -/
theorem Permits.append {D : Seams} {t t' : List Token} (h : D.Permits t.head? t'.head?)
    (w : List Token) : D.Permits (w ++ t).head? (w ++ t').head? := by
  cases w with
  | nil => exact h
  | cons tok w => exact .refl D (some tok)

theorem Permits.any (next next' : Option Token) : Seams.any.Permits next next' :=
  ⟨fun _ _ => trivial, fun _ => trivial, fun _ => trivial⟩

end Seams

/-- Words that cannot continue an expression that ends before them. -/
structure Closes (v : List Token) : Prop where
  chain : ∀ l, Seams.lookahead.chain l v.head?
  operand : Seams.lookahead.operand v.head?
  name : Seams.lookahead.name v.head?

namespace Closes

/-- A word that continues nothing closes an expression. -/
theorem cons {tok : Token} (t : List Token) (hjoins : ∀ l op, ¬ Level.Joins l tok op)
    (hcompares : ∀ op, ¬ Compares tok op) (hname : tok ≠ .mark .leftParen) : Closes (tok :: t) where
  chain l := by
    rintro _ ⟨⟩ op hop
    exact hjoins l op hop
  operand := by
    rintro _ ⟨⟩ op hop
    exact hcompares op hop
  name := fun h => hname (Option.some.inj h)

theorem nil : Closes [] where
  chain _ _ h := nomatch h
  operand _ h := nomatch h
  name := nofun

theorem endOfInput (t : List Token) : Closes (.endOfInput :: t) := .cons t nofun nofun nofun

theorem semicolon (t : List Token) : Closes (.mark .semicolon :: t) := .cons t nofun nofun nofun

theorem rightParen (t : List Token) : Closes (.mark .rightParen :: t) := .cons t nofun nofun nofun

theorem comma (t : List Token) : Closes (.mark .comma :: t) := .cons t nofun nofun nofun

theorem thenWord (t : List Token) : Closes (.keyword .thenWord :: t) := .cons t nofun nofun nofun

theorem elseWord (t : List Token) : Closes (.keyword .elseWord :: t) := .cons t nofun nofun nofun

/-- Every phrase may end before words that close an expression. -/
theorem permits {v : List Token} (h : Closes v) (next : Option Token) :
    Seams.lookahead.Permits next v.head? :=
  ⟨fun l _ => h.chain l, fun _ => h.operand, fun _ => h.name⟩

end Closes

/-! ### Expressions -/

/-- The parts of expressions that productions are about. -/
inductive Phrase where
  /-- Operands with operators of a level between them. -/
  | chain (level : Level)
  /-- What follows a first operand among operators of a level. -/
  | more (level : Level) (left : Expr)
  /-- `not` with its operand, or what has none. -/
  | negated
  /-- At most one comparison. -/
  | comparison
  /-- A sign with its operand, or what has none. -/
  | signed
  /-- What has no operator outside. -/
  | primary
  /-- An argument of a call, or its placeholder. -/
  | argument
  /-- The arguments of a call that follow some others, with the closing parenthesis. -/
  | arguments (name : String) (before : List Expr)

/-- A whole expression. -/
abbrev Phrase.expression : Phrase := .chain .disjunctive

/-- What stands between the operators of a level. -/
def Level.operand : Level → Phrase
  | .disjunctive => .chain .conjunctive
  | .conjunctive => .negated
  | .additive => .chain .multiplicative
  | .multiplicative => .signed

/-- The productions: `Reads D X s e t` if the words `s` begin with a phrase `X` that writes `e`, and `t` are
    the words behind it. Any spans may stand in `e`. -/
inductive Reads (D : Seams) : Phrase → List Token → Expr → List Token → Prop where
  | chain {l : Level} {s s₁ t : List Token} {e e' : Expr} (hfirst : Reads D l.operand s e s₁)
    (hmore : Reads D (.more l e) s₁ e' t) : Reads D (.chain l) s e' t
  | stop {l : Level} {e : Expr} {t : List Token} (h : D.chain l t.head?) :
    Reads D (.more l e) t e t
  | join {l : Level} {tok : Token} {op : BinaryOp} {s s₁ t : List Token} {e e' r : Expr}
    (span : Span) (hop : l.Joins tok op) (hright : Reads D l.operand s r s₁)
    (hmore : Reads D (.more l (.binary span op e r)) s₁ e' t) :
    Reads D (.more l e) (tok :: s) e' t
  | not {s t : List Token} {e : Expr} (span : Span) (h : Reads D .negated s e t) :
    Reads D .negated (.keyword .not :: s) (.unary span .not e) t
  | plain {s t : List Token} {e : Expr} (h : Reads D .comparison s e t) : Reads D .negated s e t
  | single {s t : List Token} {e : Expr} (h : Reads D (.chain .additive) s e t)
    (hseam : D.operand t.head?) : Reads D .comparison s e t
  | compare {tok : Token} {op : BinaryOp} {s s₁ t : List Token} {l r : Expr} (span : Span)
    (hleft : Reads D (.chain .additive) s l (tok :: s₁)) (hop : Compares tok op)
    (hright : Reads D (.chain .additive) s₁ r t) :
    Reads D .comparison s (.binary span op l r) t
  | sign {tok : Token} {op : UnaryOp} {s t : List Token} {e : Expr} (span : Span)
    (hop : Signs tok op) (h : Reads D .signed s e t) :
    Reads D .signed (tok :: s) (.unary span op e) t
  | unsigned {s t : List Token} {e : Expr} (h : Reads D .primary s e t) : Reads D .signed s e t
  | literal {tok : Token} {v : Literal} (span : Span) (t : List Token) (h : Writes tok v) :
    Reads D .primary (tok :: t) (.literal span v) t
  | name {x : String} {t : List Token} (span : Span) (hseam : D.name t.head?) :
    Reads D .primary (.identifier x :: t) (.variable span x) t
  | emptyCall (x : String) (span : Span) (t : List Token) :
    Reads D .primary (.identifier x :: .mark .leftParen :: .mark .rightParen :: t) (.call span x []) t
  | call {x : String} {s t : List Token} {e : Expr} (h : Reads D (.arguments x []) s e t) :
    Reads D .primary (.identifier x :: .mark .leftParen :: s) e t
  | parens {s t : List Token} {e : Expr} (span : Span)
    (h : Reads D .expression s e (.mark .rightParen :: t)) :
    Reads D .primary (.mark .leftParen :: s) (.parens span e) t
  | conditional {s s₁ s₂ t : List Token} {c a b : Expr} (span : Span)
    (hcondition : Reads D .expression s c (.keyword .thenWord :: s₁))
    (hthen : Reads D .expression s₁ a (.keyword .elseWord :: s₂))
    (helse : Reads D .expression s₂ b t) (hseam : D.branch s₂ t) :
    Reads D .primary (.keyword .ifWord :: s) (.conditional span c a b) t
  | omitted (span : Span) (t : List Token) :
    Reads D .argument (.mark .underscore :: t) (.omitted span) t
  | given {s t : List Token} {e : Expr} (h : Reads D .expression s e t) : Reads D .argument s e t
  | lastArgument {x : String} {before : List Expr} {s t : List Token} {a : Expr} (span : Span)
    (h : Reads D .argument s a (.mark .rightParen :: t)) :
    Reads D (.arguments x before) s (.call span x (before ++ [a])) t
  | nextArgument {x : String} {before : List Expr} {s s₁ t : List Token} {a e : Expr}
    (h : Reads D .argument s a (.mark .comma :: s₁))
    (hrest : Reads D (.arguments x (before ++ [a])) s₁ e t) :
    Reads D (.arguments x before) s e t

/-- Every last branch is as long as an expression there can be. -/
def Seams.longest : Seams :=
  { Seams.any with
    branch := fun s t => ∀ e' t', Reads .any .expression s e' t' → t.length ≤ t'.length }

namespace Reads

variable {D D' : Seams} {X : Phrase} {s t : List Token} {e : Expr}

/-- Phrases that end where one parameter allows may end where another does, if last branches may. -/
theorem mono (h : Reads D X s e t) (hchain : ∀ l next, D.chain l next → D'.chain l next)
    (hoperand : ∀ next, D.operand next → D'.operand next)
    (hname : ∀ next, D.name next → D'.name next)
    (hbranch : ∀ s e t, Reads D .expression s e t → D.branch s t → D'.branch s t) :
    Reads D' X s e t := by
  induction h with
  | chain _ _ ih₁ ih₂ => exact .chain ih₁ ih₂
  | stop h => exact .stop (hchain _ _ h)
  | join span hop _ _ ih₁ ih₂ => exact .join span hop ih₁ ih₂
  | not span _ ih => exact .not span ih
  | plain _ ih => exact .plain ih
  | single _ hseam ih => exact .single ih (hoperand _ hseam)
  | compare span _ hop _ ih₁ ih₂ => exact .compare span ih₁ hop ih₂
  | sign span hop _ ih => exact .sign span hop ih
  | unsigned _ ih => exact .unsigned ih
  | literal span t h => exact .literal span t h
  | name span hseam => exact .name span (hname _ hseam)
  | emptyCall x span t => exact .emptyCall x span t
  | call _ ih => exact .call ih
  | parens span _ ih => exact .parens span ih
  | conditional span _ _ helse hseam ih₁ ih₂ ih₃ =>
    exact .conditional span ih₁ ih₂ ih₃ (hbranch _ _ _ helse hseam)
  | omitted span t => exact .omitted span t
  | given _ ih => exact .given ih
  | lastArgument span _ ih => exact .lastArgument span ih
  | nextArgument _ _ ih₁ ih₂ => exact .nextArgument ih₁ ih₂

/-- The plain grammar reads whatever is read under any restriction. -/
theorem any (h : Reads D X s e t) : Reads .any X s e t :=
  h.mono (fun _ _ _ => trivial) (fun _ _ => trivial) (fun _ _ => trivial)
    (fun _ _ _ _ _ => trivial)

end Reads

/-! ### Reading does not look behind -/

namespace Reads

variable {D : Seams} {X : Phrase} {s t : List Token} {e : Expr}

/-- Where last branches may end anywhere, a phrase takes some words, and takes them as well before any other
    words behind that let phrases end. -/
theorem relocate (hD : ∀ s t, D.branch s t) (h : Reads D X s e t) :
    ∃ w, s = w ++ t ∧ ∀ t', D.Permits t.head? t'.head? → Reads D X (w ++ t') e t' := by
  -- A phrase in front of another ends before the words of that other, which stay.
  induction h with
  | chain _ _ ih₁ ih₂ =>
    obtain ⟨w₁, rfl, h₁⟩ := ih₁
    obtain ⟨w₂, rfl, h₂⟩ := ih₂
    refine ⟨w₁ ++ w₂, (List.append_assoc ..).symm, fun t' ht' => ?_⟩
    rw [List.append_assoc]
    exact .chain (h₁ _ (ht'.append w₂)) (h₂ t' ht')
  | stop h => exact ⟨[], rfl, fun t' ht' => .stop (ht'.chain _ h)⟩
  | join span hop _ _ ih₁ ih₂ =>
    obtain ⟨w₁, rfl, h₁⟩ := ih₁
    obtain ⟨w₂, rfl, h₂⟩ := ih₂
    refine ⟨_ :: (w₁ ++ w₂), by rw [List.cons_append, List.append_assoc], fun t' ht' => ?_⟩
    rw [List.cons_append, List.append_assoc]
    exact .join span hop (h₁ _ (ht'.append w₂)) (h₂ t' ht')
  | not span _ ih =>
    obtain ⟨w, rfl, h⟩ := ih
    exact ⟨_ :: w, rfl, fun t' ht' => .not span (h t' ht')⟩
  | plain _ ih =>
    obtain ⟨w, rfl, h⟩ := ih
    exact ⟨w, rfl, fun t' ht' => .plain (h t' ht')⟩
  | single _ hseam ih =>
    obtain ⟨w, rfl, h⟩ := ih
    exact ⟨w, rfl, fun t' ht' => .single (h t' ht') (ht'.operand hseam)⟩
  | @compare tok _ _ _ _ _ _ span _ hop _ ih₁ ih₂ =>
    obtain ⟨w₁, rfl, h₁⟩ := ih₁
    obtain ⟨w₂, rfl, h₂⟩ := ih₂
    refine ⟨w₁ ++ tok :: w₂, by rw [List.append_assoc, List.cons_append], fun t' ht' => ?_⟩
    rw [List.append_assoc, List.cons_append]
    exact .compare span (h₁ _ (.refl D (some tok))) hop (h₂ t' ht')
  | sign span hop _ ih =>
    obtain ⟨w, rfl, h⟩ := ih
    exact ⟨_ :: w, rfl, fun t' ht' => .sign span hop (h t' ht')⟩
  | unsigned _ ih =>
    obtain ⟨w, rfl, h⟩ := ih
    exact ⟨w, rfl, fun t' ht' => .unsigned (h t' ht')⟩
  | literal span t h => exact ⟨[_], rfl, fun t' _ => .literal span t' h⟩
  | name span hseam => exact ⟨[_], rfl, fun _ ht' => .name span (ht'.name hseam)⟩
  | emptyCall x span t => exact ⟨[_, _, _], rfl, fun t' _ => .emptyCall x span t'⟩
  | call _ ih =>
    obtain ⟨w, rfl, h⟩ := ih
    exact ⟨_ :: _ :: w, rfl, fun t' ht' => .call (h t' ht')⟩
  | parens span _ ih =>
    obtain ⟨w, rfl, h⟩ := ih
    refine ⟨.mark .leftParen :: (w ++ [.mark .rightParen]), by simp, fun t' _ => ?_⟩
    rw [List.cons_append, List.append_assoc, List.singleton_append]
    exact .parens span (h _ (.refl D _))
  | conditional span _ _ _ hseam ih₁ ih₂ ih₃ =>
    obtain ⟨w₁, rfl, h₁⟩ := ih₁
    obtain ⟨w₂, rfl, h₂⟩ := ih₂
    obtain ⟨w₃, rfl, h₃⟩ := ih₃
    refine ⟨.keyword .ifWord :: (w₁ ++ .keyword .thenWord :: (w₂ ++ .keyword .elseWord :: w₃)),
      by simp, fun t' ht' => ?_⟩
    simp only [List.cons_append, List.append_assoc]
    exact .conditional span (h₁ _ (.refl D _)) (h₂ _ (.refl D _)) (h₃ t' ht') (hD _ _)
  | omitted span t => exact ⟨[_], rfl, fun t' _ => .omitted span t'⟩
  | given _ ih =>
    obtain ⟨w, rfl, h⟩ := ih
    exact ⟨w, rfl, fun t' ht' => .given (h t' ht')⟩
  | lastArgument span _ ih =>
    obtain ⟨w, rfl, h⟩ := ih
    refine ⟨w ++ [.mark .rightParen], by simp, fun t' _ => ?_⟩
    rw [List.append_assoc, List.singleton_append]
    exact .lastArgument span (h _ (.refl D _))
  | nextArgument _ _ ih₁ ih₂ =>
    obtain ⟨w₁, rfl, h₁⟩ := ih₁
    obtain ⟨w₂, rfl, h₂⟩ := ih₂
    refine ⟨w₁ ++ .mark .comma :: w₂, by rw [List.append_assoc, List.cons_append], fun t' ht' => ?_⟩
    rw [List.append_assoc, List.cons_append]
    exact .nextArgument (h₁ _ (.refl D _)) (h₂ t' ht')

/-- The words that a phrase takes stand in front. -/
theorem split (h : Reads D X s e t) : ∃ w, s = w ++ t := by
  obtain ⟨w, hw, -⟩ := h.any.relocate fun _ _ => trivial
  exact ⟨w, hw⟩

/-- A phrase of the plain grammar may stand before any words. -/
theorem before {w : List Token} (h : Reads .any X (w ++ t) e t) (t' : List Token) :
    Reads .any X (w ++ t') e t' := by
  obtain ⟨w', hw, hread⟩ := h.relocate fun _ _ => trivial
  rw [List.append_cancel_right hw]
  exact hread t' (.any _ _)

/-- What is read with a look at the next word may stand before any words that close it. -/
theorem close {w : List Token} (h : Reads .lookahead X (w ++ t) e t) {t' : List Token}
    (ht' : Closes t') : Reads .lookahead X (w ++ t') e t' := by
  obtain ⟨w', hw, hread⟩ := h.relocate fun _ _ => trivial
  rw [List.append_cancel_right hw]
  exact hread t' (ht'.permits _)

end Reads

/-! ### How deeply words nest -/

/-- A bound on how deeply a phrase nests: less than it has words. What is read behind a first operand or
    behind other arguments may nest as deeply as those. -/
def Phrase.Bounds : Phrase → Expr → List Token → List Token → Prop
  | .more _ left, e, s, t =>
    t.length ≤ s.length ∧ (e.nest ≤ left.nest ∨ e.nest + t.length ≤ s.length)
  | .arguments _ before, e, s, t =>
    t.length < s.length ∧ (e.nest ≤ Expr.nestArgs before ∨ e.nest + t.length ≤ s.length)
  | _, e, s, t => e.nest + t.length < s.length

theorem Level.bounds_operand (l : Level) (e : Expr) (s t : List Token) :
    l.operand.Bounds e s t ↔ e.nest + t.length < s.length := by
  cases l <;> exact Iff.rfl

/-- One more argument adds one entry at most to those inside it. -/
theorem Expr.nestArgs_concat_le (before : List Expr) (a : Expr) :
    Expr.nestArgs (before ++ [a]) ≤ max (Expr.nestArgs before) (a.nest + 1) := by
  rw [Expr.nestArgs_append, Expr.nestArgs, Expr.nestArgs]
  split <;> omega

theorem Reads.bounds {D : Seams} {X : Phrase} {s t : List Token} {e : Expr} (h : Reads D X s e t) :
    X.Bounds e s t := by
  induction h with
  | chain _ _ ih₁ ih₂ =>
    rw [Level.bounds_operand] at ih₁
    simp only [Phrase.Bounds] at ih₂ ⊢
    omega
  | stop _ => exact ⟨Nat.le_refl _, .inl (Nat.le_refl _)⟩
  | join span _ _ _ ih₁ ih₂ =>
    rw [Level.bounds_operand] at ih₁
    simp only [Phrase.Bounds, Expr.nest, List.length_cons] at ih₂ ⊢
    omega
  | @lastArgument _ before _ _ a span _ ih =>
    have hnest := Expr.nestArgs_concat_le before a
    simp only [Phrase.Bounds, Expr.nest, List.length_cons] at ih ⊢
    omega
  | @nextArgument _ before _ _ _ a _ _ _ ih₁ ih₂ =>
    have hnest := Expr.nestArgs_concat_le before a
    simp only [Phrase.Bounds, List.length_cons] at ih₁ ih₂ ⊢
    omega
  | _ =>
    simp only [Phrase.Bounds, Expr.nest, Expr.nestArgs, List.length_cons] at *
    omega

/-- An expression nests less deeply than it has words. -/
theorem Reads.nest_lt {D : Seams} {s t : List Token} {e : Expr} (h : Reads D .expression s e t) :
    e.nest + t.length < s.length :=
  h.bounds

/-! ### Statements and scripts -/

/-- A name, the assignment mark and an expression. -/
inductive ReadsStatement (D : Seams) : List Token → Statement → List Token → Prop where
  | assign {x : String} {s t : List Token} {e : Expr} (span : Span) (h : Reads D .expression s e t) :
    ReadsStatement D (.identifier x :: .mark .assign :: s) ⟨x, e, span⟩ t

/-- Statements with semicolons between them, and perhaps one behind the last. -/
inductive ReadsStatements (D : Seams) : List Token → Script → Prop where
  | last {s : List Token} {first : Statement} (h : ReadsStatement D s first []) :
    ReadsStatements D s [first]
  | closed {s : List Token} {first : Statement}
    (h : ReadsStatement D s first [.mark .semicolon]) : ReadsStatements D s [first]
  | next {s s₁ : List Token} {first : Statement} {rest : Script}
    (h : ReadsStatement D s first (.mark .semicolon :: s₁)) (hrest : ReadsStatements D s₁ rest) :
    ReadsStatements D s (first :: rest)

/-- A whole script: nothing, or statements. -/
inductive ReadsScript (D : Seams) : List Token → Script → Prop where
  | empty : ReadsScript D [] []
  | statements {s : List Token} {script : Script} (h : ReadsStatements D s script) :
    ReadsScript D s script

end AssignScript
