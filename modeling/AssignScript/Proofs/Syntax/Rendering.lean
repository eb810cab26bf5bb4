import AssignScript.Proofs.Lexing.Layout
import AssignScript.Proofs.Syntax.Placed
import AssignScript.Proofs.Syntax.Whole

/-!
# Writing expressions

An expression is written with every operand in parentheses, so that no operator takes part of another's. What
the parser makes of its words is the expression again, with these parentheses.

## Main definitions

* `Expr.words`: the words of an expression as it stands;
* `Expr.Printable`: expressions that have words;
* `Expr.wrapped`: an expression with its operands in parentheses;
* `Expr.render`: the text of an expression.

## Main statements

* `Expr.Printable.reads`: the words of a wrapped expression are an expression of the grammar;
* `Expr.Printable.parses`: the parser reads every layout of these words.
-/

namespace AssignScript

open AssignScript.Parser

/-! ### Words -/

/-- The word for a constant, if it has one. -/
def Literal.word? : Literal → Option Token
  | .null => some (.keyword .null)
  | .boolean true => some (.keyword .true)
  | .boolean false => some (.keyword .false)
  | .integer i => if 0 ≤ i then some (.number i.toNatClampNeg.repr) else none
  | .number _ => none
  | .string s => some (.string s)

/-- The word for an operation on one operand that is written as an operator. -/
def UnaryOp.word? : UnaryOp → Option Token
  | .not => some (.keyword .not)
  | .plus => some (.mark .plus)
  | .minus => some (.mark .minus)
  | _ => none

/-- The word for an operation on two operands that is written as an operator. -/
def BinaryOp.word? : BinaryOp → Option Token
  | .add => some (.mark .plus)
  | .sub => some (.mark .minus)
  | .mul => some (.mark .star)
  | .div => some (.mark .slash)
  | .eq => some (.mark .equal)
  | .ne => some (.mark .notEqual)
  | .lt => some (.mark .less)
  | .le => some (.mark .lessEqual)
  | .gt => some (.mark .greater)
  | .ge => some (.mark .greaterEqual)
  | .and => some (.keyword .and)
  | .or => some (.keyword .or)
  | .xor => some (.keyword .xor)
  | .concat => some (.mark .concat)
  | .matches => none

namespace Expr

mutual

/-- The words of an expression as it stands. -/
def words : Expr → List Token
  | .literal _ v => v.word?.toList
  | .variable _ x => [.identifier x]
  | .parens _ e => .mark .leftParen :: (e.words ++ [.mark .rightParen])
  | .unary _ op e => op.word?.toList ++ e.words
  | .binary _ op l r => l.words ++ (op.word?.toList ++ r.words)
  | .conditional _ c a b =>
    .keyword .ifWord :: (c.words ++ .keyword .thenWord :: (a.words ++ .keyword .elseWord :: b.words))
  | .call _ x args => .identifier x :: .mark .leftParen :: (argWords args ++ [.mark .rightParen])
  | .omitted _ => [.mark .underscore]

/-- The words of arguments, with commas between them. -/
def argWords : List Expr → List Token
  | [] => []
  | [a] => a.words
  | a :: b :: as => a.words ++ .mark .comma :: argWords (b :: as)

end

/-- Expressions without parentheses that can be written: constants, operators and names have words, and only
    arguments are left out. -/
inductive Printable : Expr → Prop where
  | literal (span : Span) {v : Literal} {w : Token} (h : v.word? = some w) : Printable (.literal span v)
  | variable (span : Span) {x : String} (h : '\'' ∉ x.toList) : Printable (.variable span x)
  | unary (span : Span) {op : UnaryOp} {w : Token} {e : Expr} (hop : op.word? = some w)
    (he : Printable e) : Printable (.unary span op e)
  | binary (span : Span) {op : BinaryOp} {w : Token} {l r : Expr} (hop : op.word? = some w)
    (hl : Printable l) (hr : Printable r) : Printable (.binary span op l r)
  | conditional (span : Span) {c a b : Expr} (hc : Printable c) (ha : Printable a) (hb : Printable b) :
    Printable (.conditional span c a b)
  | call (span : Span) {x : String} {args : List Expr} (h : '\'' ∉ x.toList)
    (hargs : ∀ a ∈ args, a.isOmitted = false → Printable a) : Printable (.call span x args)

/-- An expression in parentheses. -/
def inParens (e : Expr) : Expr := .parens default e

mutual

/-- An expression with the operands of operators and the parts of choices in parentheses. -/
def wrapped : Expr → Expr
  | .literal s v => .literal s v
  | .variable s x => .variable s x
  | .parens s e => .parens s e.wrapped
  | .unary s op e => .unary s op e.wrapped.inParens
  | .binary s op l r => .binary s op l.wrapped.inParens r.wrapped.inParens
  | .conditional s c a b => .conditional s c.wrapped.inParens a.wrapped.inParens b.wrapped.inParens
  | .call s x args => .call s x (wrappedArgs args)
  | .omitted s => .omitted s

/-- Arguments with the operands inside them in parentheses. -/
def wrappedArgs : List Expr → List Expr
  | [] => []
  | a :: as => a.wrapped :: wrappedArgs as

end

/-- The text of an expression: its words with its operands in parentheses, with single spaces between them. -/
def render (e : Expr) : String := String.ofList (spaced e.wrapped.words)

theorem wrappedArgs_eq_map (args : List Expr) : wrappedArgs args = args.map wrapped := by
  induction args with
  | nil => rfl
  | cons a as ih => rw [wrappedArgs, ih, List.map_cons]

@[simp] theorem isOmitted_wrapped (e : Expr) : e.wrapped.isOmitted = e.isOmitted := by
  cases e <;> rfl

end Expr

/-! ### Words of constants and operators -/

theorem isWhole_repr (n : Nat) : IsWhole n.repr := by
  intro c hc
  have hdigit := areDigits_repr n c hc
  refine ⟨?_, ?_, ?_⟩ <;>
  · rintro rfl
    exact absurd hdigit (by decide)

/-- Numbers written in decimal digits are read as what they are. -/
theorem writes_repr {n : Nat} (h : n < 2 ^ 63) :
    Writes (.number n.repr) (.integer (.ofNat n)) ∧ (Token.number n.repr).Writable := by
  have hvalue := digitsValue_repr n
  have hwrites := Writes.integer (isWhole_repr n) (by rw [hvalue]; omega)
  rw [hvalue] at hwrites
  exact ⟨hwrites, .number (toList_repr_ne_nil n) (areDigits_repr n)⟩

theorem Literal.writes_of_word? {v : Literal} {w : Token} (h : v.word? = some w) :
    Writes w v ∧ w.Writable := by
  cases v with
  | null =>
    cases h
    exact ⟨.null, .keyword _⟩
  | boolean b =>
    cases b <;> cases h
    · exact ⟨.false, .keyword _⟩
    · exact ⟨.true, .keyword _⟩
  | integer i =>
    rw [Literal.word?] at h
    split at h
    · next hi =>
      cases h
      have hwrites := writes_repr i.toNatClampNeg_lt
      rwa [Int64.ofNat_toNatClampNeg i hi] at hwrites
    · cases h
  | number x => cases h
  | string s =>
    cases h
    exact ⟨.string s, .string s⟩

theorem UnaryOp.prefixes_of_word? {op : UnaryOp} {w : Token} (h : op.word? = some w) :
    Prefixes w op ∧ w.Writable := by
  cases op <;> cases h
  · exact ⟨.not, .keyword _⟩
  · exact ⟨.sign .plus, .mark _⟩
  · exact ⟨.sign .minus, .mark _⟩

theorem BinaryOp.operates_of_word? {op : BinaryOp} {w : Token} (h : op.word? = some w) :
    Operates w op ∧ w.Writable := by
  cases op <;> cases h
  case add => exact ⟨.join .plus, .mark _⟩
  case sub => exact ⟨.join .minus, .mark _⟩
  case mul => exact ⟨.join .star, .mark _⟩
  case div => exact ⟨.join .slash, .mark _⟩
  case eq => exact ⟨.compare .equal, .mark _⟩
  case ne => exact ⟨.compare .notEqual, .mark _⟩
  case lt => exact ⟨.compare .less, .mark _⟩
  case le => exact ⟨.compare .lessEqual, .mark _⟩
  case gt => exact ⟨.compare .greater, .mark _⟩
  case ge => exact ⟨.compare .greaterEqual, .mark _⟩
  case and => exact ⟨.join .and, .keyword _⟩
  case or => exact ⟨.join .or, .keyword _⟩
  case xor => exact ⟨.join .xor, .keyword _⟩
  case concat => exact ⟨.join .concat, .mark _⟩

/-! ### Words of wrapped expressions -/

namespace Reads

variable {s t w : List Token} {e l r : Expr}

theorem product (h : Reads .lookahead .primary s e t)
    (hnext : Seams.lookahead.chain .multiplicative t.head?) :
    Reads .lookahead (.chain .multiplicative) s e t :=
  .chain (.unsigned h) (.stop hnext)

theorem sum (h : Reads .lookahead .primary s e t) (hnext : ∀ level ∈ [Level.multiplicative, .additive],
    Seams.lookahead.chain level t.head?) : Reads .lookahead (.chain .additive) s e t :=
  .chain (h.product (hnext _ (by decide))) (.stop (hnext _ (by decide)))

theorem operand_of_primary (level : Level) (h : Reads .lookahead .primary s e t)
    (hnext : ∀ level', level' ≠ level → Seams.lookahead.chain level' t.head?)
    (hcompared : Seams.lookahead.operand t.head?) : Reads .lookahead level.operand s e t := by
  cases level with
  | multiplicative => exact .unsigned h
  | additive => exact h.product (hnext _ (by decide))
  | conjunctive | disjunctive =>
    have hnegated : Reads .lookahead .negated s e t := by
      refine .plain (.single (h.sum ?_) hcompared)
      intro level' hmem
      exact hnext level' (by rintro rfl; revert hmem; decide)
    first
      | exact hnegated
      | exact .chain hnegated (.stop (hnext .conjunctive (by decide)))

theorem inParens (h : Reads .lookahead .expression e.words e []) (t : List Token) :
    Reads .lookahead .primary (e.inParens.words ++ t) e.inParens t := by
  rw [← List.append_nil e.words] at h
  have hclosed := h.close (.rightParen t)
  rw [Expr.inParens, Expr.words, List.cons_append, List.append_assoc]
  exact .parens default hclosed

theorem expression_of_primary (h : Reads .lookahead .primary w e []) :
    Reads .lookahead .expression w e [] :=
  expression_of_signed (.unsigned h)

/-- An operator between operands in parentheses. -/
theorem binary_inParens {op : BinaryOp} {tok : Token} (span : Span) (hop : Operates tok op)
    (hl : Reads .lookahead .expression l.words l []) (hr : Reads .lookahead .expression r.words r []) :
    Reads .lookahead .expression (l.inParens.words ++ tok :: r.inParens.words)
      (.binary span op l.inParens r.inParens) [] := by
  have hleft := hl.inParens (tok :: r.inParens.words)
  have hright := hr.inParens []
  rw [List.append_nil] at hright
  cases hop with
  | @join level _ _ hjoins =>
    -- The operator ends the chains of every level but its own.
    have hfirst := hleft.operand_of_primary level (fun level' hne => hjoins.chain hne.symm) hjoins.operand
    have hsecond := hright.operand_of_primary level (fun _ _ => Closes.nil.chain _) Closes.nil.operand
    exact expression_of_chain level (.chain hfirst (.join span hjoins hsecond (.stop (Closes.nil.chain _))))
  | compare hcompares =>
    have hfirst := hleft.sum fun level _ => hcompares.chain level
    have hsecond := hright.sum fun level _ => Closes.nil.chain level
    exact expression_of_negated (.plain (.compare span hfirst hcompares hsecond))

theorem unary_inParens {op : UnaryOp} {tok : Token} (span : Span) (hop : Prefixes tok op)
    (he : Reads .lookahead .expression e.words e []) :
    Reads .lookahead .expression (tok :: e.inParens.words) (.unary span op e.inParens) [] := by
  have hoperand := he.inParens []
  rw [List.append_nil] at hoperand
  cases hop with
  | not =>
    have hsum := hoperand.sum fun level _ => Closes.nil.chain level
    exact expression_of_negated (.not span (.plain (.single hsum Closes.nil.operand)))
  | sign hsigns => exact expression_of_signed (.sign span hsigns (.unsigned hoperand))

theorem expression_inParens (h : Reads .lookahead .expression e.words e []) {t : List Token} (ht : Closes t) :
    Reads .lookahead .expression (e.inParens.words ++ t) e.inParens t := by
  have hprimary := h.inParens []
  rw [List.append_nil] at hprimary
  have hexpression := expression_of_primary hprimary
  rw [← List.append_nil e.inParens.words] at hexpression
  exact hexpression.close ht

theorem conditional_inParens {c a b : Expr} (span : Span) (hc : Reads .lookahead .expression c.words c [])
    (ha : Reads .lookahead .expression a.words a []) (hb : Reads .lookahead .expression b.words b []) :
    Reads .lookahead .expression (Expr.conditional span c.inParens a.inParens b.inParens).words
      (.conditional span c.inParens a.inParens b.inParens) [] := by
  have hlast := hb.expression_inParens .nil
  rw [List.append_nil] at hlast
  have hthen := ha.expression_inParens (t := .keyword .elseWord :: b.inParens.words)
    (.elseWord _)
  have hcondition := hc.expression_inParens
    (t := .keyword .thenWord :: (a.inParens.words ++ .keyword .elseWord :: b.inParens.words))
    (.thenWord _)
  exact expression_of_primary (.conditional span hcondition hthen hlast trivial)

/-- An argument in front of what closes an expression. -/
theorem argument_of_words {a : Expr} (h : a.isOmitted = false → Reads .lookahead .expression a.words a [])
    {t : List Token} (ht : Closes t) : Reads .lookahead .argument (a.words ++ t) a t := by
  rcases a.omitted_or_given with ⟨s, rfl⟩ | hgiven
  · exact .omitted s t
  · have hread := h hgiven
    rw [← List.append_nil a.words] at hread
    exact .given (hread.close ht)

/-- The words of arguments, up to the closing parenthesis, are read behind any other arguments. -/
theorem arguments_of_words {x : String} (span : Span) (args before : List Expr) (hne : args ≠ [])
    (h : ∀ a ∈ args, a.isOmitted = false → Reads .lookahead .expression a.words a []) :
    Reads .lookahead (.arguments x before) (Expr.argWords args ++ [.mark .rightParen])
      (.call span x (before ++ args)) [] := by
  induction args generalizing before with
  | nil => exact absurd rfl hne
  | cons a as ih =>
    obtain ⟨ha, hrest⟩ := List.forall_mem_cons.1 h
    cases as with
    | nil =>
      have hlast := argument_of_words ha (t := [.mark .rightParen]) (.rightParen _)
      exact .lastArgument span hlast
    | cons b as =>
      have hfirst := argument_of_words ha
        (t := .mark .comma :: (Expr.argWords (b :: as) ++ [.mark .rightParen]))
        (.comma _)
      rw [Expr.argWords, List.append_assoc, List.cons_append, List.append_cons before a]
      exact .nextArgument hfirst (ih (before ++ [a]) (List.cons_ne_nil b as) hrest)

end Reads

namespace Expr

theorem writable_argWords {args : List Expr}
    (h : ∀ a ∈ args, ∀ w ∈ a.words, w.Writable) : ∀ w ∈ argWords args, w.Writable := by
  induction args with
  | nil => exact nofun
  | cons a as ih =>
    obtain ⟨ha, hrest⟩ := List.forall_mem_cons.1 h
    cases as with
    | nil => exact ha
    | cons b as =>
      rw [argWords, List.forall_mem_append, List.forall_mem_cons]
      exact ⟨ha, .mark _, ih hrest⟩

theorem writable_inParens {e : Expr} (h : ∀ w ∈ e.words, w.Writable) :
    ∀ w ∈ e.inParens.words, w.Writable := by
  rw [inParens, words, List.forall_mem_cons, List.forall_mem_append]
  exact ⟨.mark _, h, List.forall_mem_singleton.2 (.mark _)⟩

end Expr

namespace Expr.Printable

variable {t : Expr}

/-- The words of a printable expression with its operands in parentheses are that expression. -/
theorem reads (h : t.Printable) : Reads .lookahead .expression t.wrapped.words t.wrapped [] := by
  induction h with
  | literal span h =>
    rw [wrapped, words, h]
    exact Reads.expression_of_primary (.literal span [] (Literal.writes_of_word? h).1)
  | «variable» span h => exact Reads.expression_of_primary (.name span Closes.nil.name)
  | unary span hop _ he =>
    rw [wrapped, words, hop]
    exact Reads.unary_inParens span (UnaryOp.prefixes_of_word? hop).1 he
  | binary span hop _ _ hl hr =>
    rw [wrapped, words, hop]
    exact Reads.binary_inParens span (BinaryOp.operates_of_word? hop).1 hl hr
  | conditional span _ _ _ hc ha hb => exact Reads.conditional_inParens span hc ha hb
  | @call span x args _ _ ih =>
    rw [wrapped, words, wrappedArgs_eq_map]
    refine Reads.expression_of_primary ?_
    cases args with
    | nil => exact .emptyCall x span []
    | cons a as =>
      refine .call (Reads.arguments_of_words span _ [] (List.cons_ne_nil _ _) ?_)
      intro b hb hgiven
      obtain ⟨a', ha', rfl⟩ := List.mem_map.1 hb
      rw [isOmitted_wrapped] at hgiven
      exact ih a' ha' hgiven

/-- All words of a printable expression with its operands in parentheses can be written. -/
theorem writable (h : t.Printable) : ∀ w ∈ t.wrapped.words, w.Writable := by
  induction h with
  | literal span h =>
    rw [wrapped, words, h]
    exact List.forall_mem_singleton.2 (Literal.writes_of_word? h).2
  | «variable» span h => exact List.forall_mem_singleton.2 (.identifier h)
  | unary span hop _ he =>
    rw [wrapped, words, hop]
    exact List.forall_mem_cons.2 ⟨(UnaryOp.prefixes_of_word? hop).2, writable_inParens he⟩
  | binary span hop _ _ hl hr =>
    rw [wrapped, words, hop, List.forall_mem_append]
    exact ⟨writable_inParens hl,
      List.forall_mem_cons.2 ⟨(BinaryOp.operates_of_word? hop).2, writable_inParens hr⟩⟩
  | conditional span _ _ _ hc ha hb =>
    simp only [wrapped, words, List.forall_mem_cons, List.forall_mem_append]
    exact ⟨.keyword _, writable_inParens hc, .keyword _, writable_inParens ha, .keyword _,
      writable_inParens hb⟩
  | @call span x args hx _ ih =>
    simp only [wrapped, words, List.forall_mem_cons, List.forall_mem_append, wrappedArgs_eq_map]
    refine ⟨.identifier hx, .mark _, writable_argWords ?_, .mark _, nofun⟩
    intro b hb
    obtain ⟨a, ha, rfl⟩ := List.mem_map.1 hb
    rcases a.omitted_or_given with ⟨s, rfl⟩ | hgiven
    · exact List.forall_mem_singleton.2 (.mark _)
    · exact ih a ha hgiven

/-- The parser reads every layout of the words, and makes the expression of them again, up to spans. -/
theorem parses (h : t.Printable) {limit : Nat} (hlimit : t.wrapped.nest < limit) {text : String}
    (htext : Layout t.wrapped.words text.toList) :
    ∃ e, (standalone limit).runText text = .ok e ∧ e.bare = t.wrapped.bare := by
  obtain ⟨ts, hts, hwords⟩ := htext.tokenize
  rw [String.ofList_toList] at hts
  obtain ⟨s, hs, hstream⟩ := TokenStream.ofText_eq_ok hts
  rw [hwords] at hstream
  obtain ⟨e, s', hyields, hbare⟩ := standalone_finds hstream (.inl rfl) h.reads hlimit
  exact ⟨e, (runText_eq_ok hs).2 ⟨s', hyields⟩, hbare⟩

end Expr.Printable

end AssignScript
