import AssignScript.Proofs.Syntax.Sound

/-!
# The parser finds what the grammar reads

Whatever can be read with a look at the next word, the parser finds, up to spans, if the levels that are
left allow its nesting.

## Main definitions

* `Token.rank`, `Phrase.rank`: which words can begin which phrases;
* `Phrase.reader`: the reader of a phrase;
* `Parser.Finds`: a reader succeeds on some words as the grammar does.

## Main statements

* `Reads.rank_le`: the first word of a phrase;
* `Parser.enter_finds`: the readers of every entry find what the grammar reads;
* `Reads.unique`: with a look at the next word, words are read in one way only.
-/

namespace AssignScript

open AssignScript.Parser

/-! ### First words -/

/-- How loose a phrase must be to begin with a word: `0` for words that begin a primary, `1` for signs, `2`
    for `not`, `3` for the placeholder, and `4` for words that begin none. -/
def Token.rank : Token → Nat
  | .number _ | .string _ | .identifier _ | .mark .leftParen => 0
  | .keyword .true | .keyword .false | .keyword .null | .keyword .ifWord => 0
  | .mark .plus | .mark .minus => 1
  | .keyword .not => 2
  | .mark .underscore => 3
  | _ => 4

/-- The rank of the words that can begin a phrase. -/
def Phrase.rank : Phrase → Nat
  | .primary => 0
  | .signed | .chain .multiplicative | .chain .additive | .comparison => 1
  | .negated | .chain .conjunctive | .chain .disjunctive => 2
  | .argument | .arguments _ _ => 3
  | .more _ _ => 4

/-- Unless the phrase is an argument, an expression that is there. -/
def Phrase.Given : Phrase → Expr → Prop
  | .argument, _ => True
  | .more _ left, e => left.isOmitted = false → e.isOmitted = false
  | _, e => e.isOmitted = false

/-- What stands in front of the rest of a phrase nests no deeper than the whole. -/
def Phrase.NestsIn : Phrase → Expr → Prop
  | .more _ left, e => left.nest ≤ e.nest
  | .arguments _ before, e => Expr.nestArgs before ≤ e.nest
  | _, _ => True

theorem Token.rank_le_four (tok : Token) : tok.rank ≤ 4 := by
  unfold Token.rank
  split <;> decide

theorem Level.rank_operand_le (l : Level) : l.operand.rank ≤ (Phrase.chain l).rank := by
  cases l <;> decide

namespace Reads

variable {D : Seams} {X : Phrase} {s t : List Token} {e : Expr}

/-- A phrase begins with a word of its rank at most. -/
theorem rank_le (h : Reads D X s e t) {tok : Token} {ws : List Token} (hs : s = tok :: ws) :
    tok.rank ≤ X.rank := by
  -- Every level hands its first word down to the level inside it.
  induction h generalizing ws with
  | @chain l _ _ _ _ _ _ _ ih _ => exact Nat.le_trans (ih hs) l.rank_operand_le
  | stop _ => exact tok.rank_le_four
  | join _ _ _ _ _ _ => exact tok.rank_le_four
  | not span _ _ =>
    cases hs
    decide
  | plain _ ih => exact Nat.le_succ_of_le (ih hs)
  | single _ _ ih => exact ih hs
  | compare _ _ _ _ ih _ => exact ih hs
  | sign span hop _ _ =>
    cases hs
    cases hop <;> decide
  | unsigned _ ih => exact Nat.le_succ_of_le (ih hs)
  | literal span t h =>
    cases hs
    cases h <;> exact Nat.le_refl _
  | name _ _ | emptyCall _ _ _ | call _ _ | parens _ _ _ | conditional _ _ _ _ _ _ _ _
  | omitted _ _ =>
    cases hs
    exact Nat.le_refl _
  | given _ ih => exact Nat.le_succ_of_le (ih hs)
  | lastArgument _ _ ih => exact ih hs
  | nextArgument _ _ ih _ => exact ih hs

/-- The words that a phrase begins with are there. -/
theorem first (h : Reads D X s e t) (ht : t ≠ []) : ∃ tok ws, s = tok :: ws := by
  obtain ⟨w, rfl⟩ := h.split
  exact List.exists_cons_of_ne_nil (List.append_ne_nil_of_right_ne_nil w ht)

/-- Only an argument is left out. -/
theorem given_of_reads (h : Reads D X s e t) : X.Given e := by
  induction h with
  | @chain l _ _ _ _ _ _ _ ih₁ ih₂ => cases l <;> exact ih₂ ih₁
  | stop _ => exact id
  | join _ _ _ _ _ ih => exact fun _ => ih rfl
  | plain _ ih | single _ _ ih | unsigned _ ih | call _ ih => exact ih
  | nextArgument _ _ _ ih => exact ih
  | omitted _ _ | given _ _ => trivial
  | _ => rfl

/-- What is read behind a first operand or behind other arguments nests as deeply as those. -/
theorem nestsIn (h : Reads D X s e t) : X.NestsIn e := by
  induction h with
  | stop _ => exact Nat.le_refl _
  | join _ _ _ _ _ ih => exact Nat.le_trans (Nat.le_max_left _ _) ih
  | lastArgument _ _ _ =>
    rw [Phrase.NestsIn, Expr.nest, Expr.nestArgs_append]
    exact Nat.le_max_left _ _
  | nextArgument _ _ _ ih =>
    rw [Phrase.NestsIn, Expr.nestArgs_append] at ih
    exact Nat.le_trans (Nat.le_max_left _ _) ih
  | _ => trivial

end Reads

/-! ### Readers -/

/-- The reader of a phrase. What follows a first operand or other arguments has none of its own. -/
def Phrase.reader (nested : Entry → Parser Expr) : Phrase → Parser Expr
  | .chain .disjunctive => Parser.disjunctive nested
  | .chain .conjunctive => Parser.conjunctive nested
  | .chain .additive => Parser.additive nested
  | .chain .multiplicative => Parser.multiplicative nested
  | .negated => Parser.negated nested
  | .comparison => Parser.comparison nested
  | .signed => Parser.signed nested
  | .primary => Parser.primary nested
  | .argument => Parser.argument nested
  | .more _ _ | .arguments _ _ => Parser.unexpected .expression

/-- A reader succeeds on some words, with the expression that they write up to spans, and leaves the words
    behind. -/
def Parser.Finds (p : Parser Expr) (ws : List Token) (e : Expr) (t : List Token) : Prop :=
  ∀ s, s.words = ws → ∃ e' s', p.Yields s e' s' ∧ s'.words = t ∧ e'.bare = e.bare

/-- The parser finds a phrase wherever enough levels are left for its nesting. -/
def Phrase.Found : Phrase → List Token → Expr → List Token → Prop
  | .more l left, ws, e, t => ∀ limit room fuel left', e.nest ≤ room → ws.length ≤ fuel →
    left'.bare = left.bare →
    (chainFrom l.operator? (l.operand.reader (enter limit room)) fuel left').Finds ws e t
  | .arguments x before, ws, e, t => ∀ limit room fuel s, e.nest ≤ room → ws.length ≤ fuel →
    s.words = ws → ∃ args s', (argumentsWithin (enter limit room) fuel).Yields s args s' ∧
      s'.words = .mark .rightParen :: t ∧ (Expr.call default x (before ++ args)).bare = e.bare
  | .argument, ws, e, t => ∀ limit room, Expr.nestArgs [e] ≤ room →
    (Parser.argument (enter limit room)).Finds ws e t
  | X, ws, e, t => ∀ limit room, e.nest ≤ room → (X.reader (enter limit room)).Finds ws e t

theorem Level.found_operand {l : Level} {ws t : List Token} {e : Expr}
    (h : l.operand.Found ws e t) (limit : Nat) {room : Nat} (hroom : e.nest ≤ room) :
    (l.operand.reader (enter limit room)).Finds ws e t := by
  cases l <;> exact h limit room hroom

/-- An entry finds a phrase that nests less deeply than the levels that are left. -/
theorem Parser.Entry.finds (entry : Entry) {ws t : List Token} {e : Expr}
    (h : entry.phrase.Found ws e t) (limit : Nat) {room : Nat} (hroom : e.nest < room) :
    (enter limit room entry).Finds ws e t := by
  cases room with
  | zero => exact absurd hroom (Nat.not_lt_zero _)
  | succ room => cases entry <;> exact h limit room (Nat.le_of_lt_succ hroom)

/-! ### Steps -/

theorem Level.operator?_eq_none {l : Level} {tok : Token} (h : Seams.lookahead.chain l (some tok)) :
    l.operator? tok = none := by
  cases hop : l.operator? tok with
  | none => rfl
  | some op => exact absurd (operator?_eq_some.1 hop) (h tok rfl op)

theorem comparative?_eq_none {tok : Token} (h : Seams.lookahead.operand (some tok)) :
    comparative? tok = none := by
  cases hop : comparative? tok with
  | none => rfl
  | some op => exact absurd (comparative?_eq_some.1 hop) (h tok rfl op)

theorem sign?_eq_none {tok : Token} (h : tok.rank = 0) : sign? tok = none := by
  cases hop : sign? tok with
  | none => rfl
  | some op =>
    obtain hop := sign?_eq_some.1 hop
    cases hop <;> cases h

theorem Reads.rest_ne_nil {D : Seams} {X : Phrase} {s t : List Token} {e : Expr}
    (h : Reads D X s e t) (ht : t ≠ []) : s ≠ [] := by
  obtain ⟨tok, ws, rfl⟩ := h.first ht
  exact List.cons_ne_nil _ _

section Steps

variable {l : Level} {limit room : Nat} {s s₁ t : List Token} {e e' r : Expr}

theorem Level.found_chain (h : ∀ limit room, e.nest ≤ room →
    (chain l.operator? (l.operand.reader (enter limit room))).Finds s e t) :
    (Phrase.chain l).Found s e t := by
  cases l <;> exact h

theorem found_stop (ht : t ≠ []) (h : Seams.lookahead.chain l t.head?) :
    (Phrase.more l e).Found t e t := by
  intro limit room fuel left' _ hfuel hleft s hs
  obtain ⟨tok, ws, rfl⟩ := List.exists_cons_of_ne_nil ht
  obtain ⟨fuel, rfl⟩ := TokenStream.exists_fuel (hs ▸ hfuel)
  refine ⟨left', s, ?_, hs, hleft⟩
  simp only [chainFrom, monadLift_self, yields_peek_bind]
  rw [TokenStream.current_of_words hs, Level.operator?_eq_none h]
  exact yields_pure.2 ⟨rfl, rfl⟩

theorem found_join {tok : Token} {op : BinaryOp} {span : Span} (hs : s ≠ [])
    (hop : l.Joins tok op) (hnest : (Expr.binary span op e r).nest ≤ e'.nest)
    (hlength : s₁.length ≤ s.length) (hright : l.operand.Found s r s₁)
    (hmore : (Phrase.more l (.binary span op e r)).Found s₁ e' t) :
    (Phrase.more l e).Found (tok :: s) e' t := by
  -- The fuel counts words, of which the operator takes one.
  intro limit room fuel left' hroom hfuel hleft st hst
  obtain ⟨fuel, rfl⟩ := TokenStream.exists_fuel (hst ▸ hfuel)
  have hr : r.nest ≤ room := Nat.le_trans (Nat.le_max_right _ _) (Nat.le_trans hnest hroom)
  obtain ⟨r', st₁, hyields, hwords, hbare⟩ :=
    Level.found_operand hright limit hr st.advance (TokenStream.words_advance hst hs)
  have hfuel : s₁.length ≤ fuel := Nat.le_trans hlength (Nat.le_of_succ_le_succ hfuel)
  have hbinary : (Expr.binary (st₁.spanBetween left'.span.start r'.span.stop) op left' r').bare =
      (Expr.binary span op e r).bare := by
    simp only [Expr.bare, Expr.mapSpan] at hleft hbare ⊢
    rw [hleft, hbare]
  obtain ⟨e₁, st₂, hyields', hwords', hbare'⟩ :=
    hmore limit room fuel _ hroom hfuel hbinary st₁ hwords
  refine ⟨e₁, st₂, ?_, hwords', hbare'⟩
  simp only [chainFrom, monadLift_self, yields_peek_bind]
  rw [TokenStream.current_of_words hst, Level.operator?_eq_some.2 hop]
  simp only [yields_bind, yields_skip, yields_binary]
  exact ⟨(), _, rfl, r', st₁, hyields, _, _, ⟨rfl, rfl⟩, hyields'⟩

/-- One operand among operators of a level, and what follows it. -/
theorem found_first (hnest : e.nest ≤ e'.nest) (hfirst : l.operand.Found s e s₁)
    (hmore : (Phrase.more l e).Found s₁ e' t) : (Phrase.chain l).Found s e' t := by
  refine Level.found_chain fun limit room hroom st hst => ?_
  obtain ⟨e₁, st₁, hyields, hwords, hbare⟩ :=
    Level.found_operand hfirst limit (Nat.le_trans hnest hroom) st hst
  obtain ⟨e₂, st₂, hyields', hwords', hbare'⟩ :=
    hmore limit room st₁.words.length e₁ hroom (hwords ▸ Nat.le_refl _) hbare st₁ hwords
  refine ⟨e₂, st₂, ?_, hwords', hbare'⟩
  simp only [chain, monadLift_self, yields_bind, yields_remaining]
  exact ⟨e₁, st₁, hyields, _, _, ⟨rfl, rfl⟩, hyields'⟩

theorem found_not {span : Span} (hs : s ≠ []) (h : Phrase.negated.Found s e t) :
    Phrase.negated.Found (.keyword .not :: s) (.unary span .not e) t := by
  intro limit room hroom st hst
  obtain ⟨e₁, st₁, hyields, hwords, hbare⟩ := Entry.finds .negated h limit hroom
    st.advance (TokenStream.words_advance hst hs)
  refine ⟨.unary (st₁.spanBetween st.current.start e₁.span.stop) .not e₁, st₁, ?_, hwords, ?_⟩
  · simp only [Phrase.reader, Parser.negated, monadLift_self, yields_peek_bind]
    rw [if_pos (TokenStream.current_of_words hst)]
    simp only [yields_bind, yields_here, yields_skip, yields_unary]
    exact ⟨_, _, ⟨rfl, rfl⟩, (), _, rfl, e₁, st₁, hyields, rfl, rfl⟩
  · simp only [Expr.bare, Expr.mapSpan] at hbare ⊢
    rw [hbare]

theorem found_plain {tok : Token} {ws : List Token} (hs : s = tok :: ws) (htok : tok ≠ .keyword .not)
    (h : Phrase.comparison.Found s e t) : Phrase.negated.Found s e t := by
  intro limit room hroom st hst
  obtain ⟨e₁, st₁, hyields, hwords, hbare⟩ := h limit room hroom st hst
  refine ⟨e₁, st₁, ?_, hwords, hbare⟩
  simp only [Phrase.reader, Parser.negated, monadLift_self, yields_peek_bind]
  rw [if_neg fun hnot => htok (TokenStream.current_of_words (hst.trans hs) ▸ hnot)]
  exact hyields

theorem found_single (ht : t ≠ []) (h : (Phrase.chain .additive).Found s e t)
    (hseam : Seams.lookahead.operand t.head?) : Phrase.comparison.Found s e t := by
  intro limit room hroom st hst
  obtain ⟨tok, ws, rfl⟩ := List.exists_cons_of_ne_nil ht
  obtain ⟨e₁, st₁, hyields, hwords, hbare⟩ := h limit room hroom st hst
  refine ⟨e₁, st₁, ?_, hwords, hbare⟩
  simp only [Phrase.reader, Parser.comparison, monadLift_self, yields_bind, yields_peek]
  refine ⟨e₁, st₁, hyields, _, _, ⟨rfl, rfl⟩, ?_⟩
  rw [TokenStream.current_of_words hwords, comparative?_eq_none hseam]
  exact yields_pure.2 ⟨rfl, rfl⟩

theorem found_compare {tok : Token} {op : BinaryOp} {span : Span} {left : Expr} (hs₁ : s₁ ≠ [])
    (hleft : (Phrase.chain .additive).Found s left (tok :: s₁)) (hop : Compares tok op)
    (hright : (Phrase.chain .additive).Found s₁ r t) :
    Phrase.comparison.Found s (.binary span op left r) t := by
  intro limit room hroom st hst
  obtain ⟨left', st₁, hyields, hwords, hbare⟩ :=
    hleft limit room (Nat.le_trans (Nat.le_max_left _ _) hroom) st hst
  obtain ⟨r', st₂, hyields', hwords', hbare'⟩ :=
    hright limit room (Nat.le_trans (Nat.le_max_right _ _) hroom) st₁.advance
      (TokenStream.words_advance hwords hs₁)
  refine ⟨.binary (st₂.spanBetween left'.span.start r'.span.stop) op left' r', st₂, ?_, hwords', ?_⟩
  · simp only [Phrase.reader, Parser.comparison, monadLift_self, yields_bind, yields_peek]
    refine ⟨left', st₁, hyields, _, _, ⟨rfl, rfl⟩, ?_⟩
    rw [TokenStream.current_of_words hwords, comparative?_eq_some.2 hop]
    simp only [yields_bind, yields_skip, yields_binary]
    exact ⟨(), _, rfl, r', st₂, hyields', rfl, rfl⟩
  · simp only [Expr.bare, Expr.mapSpan] at hbare hbare' ⊢
    rw [hbare, hbare']

theorem found_sign {tok : Token} {op : UnaryOp} {span : Span} (hs : s ≠ []) (hop : Signs tok op)
    (h : Phrase.signed.Found s e t) : Phrase.signed.Found (tok :: s) (.unary span op e) t := by
  intro limit room hroom st hst
  obtain ⟨e₁, st₁, hyields, hwords, hbare⟩ := Entry.finds .signed h limit hroom
    st.advance (TokenStream.words_advance hst hs)
  refine ⟨.unary (st₁.spanBetween st.current.start e₁.span.stop) op e₁, st₁, ?_, hwords, ?_⟩
  · simp only [Phrase.reader, Parser.signed, monadLift_self, yields_peek_bind]
    rw [TokenStream.current_of_words hst, sign?_eq_some.2 hop]
    simp only [yields_bind, yields_here, yields_skip, yields_unary]
    exact ⟨_, _, ⟨rfl, rfl⟩, (), _, rfl, e₁, st₁, hyields, rfl, rfl⟩
  · simp only [Expr.bare, Expr.mapSpan] at hbare ⊢
    rw [hbare]

theorem found_unsigned {tok : Token} {ws : List Token} (hs : s = tok :: ws) (htok : tok.rank = 0)
    (h : Phrase.primary.Found s e t) : Phrase.signed.Found s e t := by
  intro limit room hroom st hst
  obtain ⟨e₁, st₁, hyields, hwords, hbare⟩ := h limit room hroom st hst
  refine ⟨e₁, st₁, ?_, hwords, hbare⟩
  simp only [Phrase.reader, Parser.signed, monadLift_self, yields_peek_bind]
  rw [TokenStream.current_of_words (hst.trans hs), sign?_eq_none htok]
  exact hyields

theorem found_literal {tok : Token} {v : Literal} {span : Span} (ht : t ≠ []) (h : Writes tok v) :
    Phrase.primary.Found (tok :: t) (.literal span v) t := by
  intro limit room _ st hst
  have hwords := TokenStream.words_advance hst ht
  refine ⟨.literal (st.advance.spanFrom st.current.start) v, st.advance, ?_, hwords, rfl⟩
  simp only [Phrase.reader, Parser.primary, monadLift_self, yields_bind, yields_here, yields_peek]
  refine ⟨_, _, ⟨rfl, rfl⟩, _, _, ⟨rfl, rfl⟩, ?_⟩
  rw [TokenStream.current_of_words hst]
  have hwritten := h
  cases h with
  | integer _ _ | number _ _ =>
    simp only [yields_bind, yields_skip, yields_numberLiteral, yields_spanFrom, yields_pure]
    exact ⟨(), _, rfl, _, _, ⟨hwritten, rfl⟩, _, _, ⟨rfl, rfl⟩, rfl, rfl⟩
  | _ =>
    simp only [yields_bind, yields_skip, yields_spanFrom, yields_pure]
    exact ⟨(), _, rfl, _, _, ⟨rfl, rfl⟩, rfl, rfl⟩

/-- A primary that begins with a name is found by what reads on from behind the name. -/
theorem found_named {x : String} (hs : s ≠ [])
    (h : ∀ limit room start, e.nest ≤ room → (named (enter limit room) x start).Finds s e t) :
    Phrase.primary.Found (.identifier x :: s) e t := by
  intro limit room hroom st hst
  obtain ⟨e₁, st₁, hyields, hwords, hbare⟩ :=
    h limit room st.current.start hroom st.advance (TokenStream.words_advance hst hs)
  refine ⟨e₁, st₁, ?_, hwords, hbare⟩
  simp only [Phrase.reader, Parser.primary, monadLift_self, yields_bind, yields_here, yields_peek]
  refine ⟨_, _, ⟨rfl, rfl⟩, _, _, ⟨rfl, rfl⟩, ?_⟩
  rw [TokenStream.current_of_words hst]
  simp only [yields_bind, yields_skip]
  exact ⟨(), _, rfl, hyields⟩

theorem found_name {x : String} {span : Span} (ht : t ≠ [])
    (hseam : Seams.lookahead.name t.head?) :
    Phrase.primary.Found (.identifier x :: t) (.variable span x) t := by
  refine found_named ht fun limit room start _ st hst => ?_
  refine ⟨.variable (st.spanFrom start) x, st, ?_, hst, rfl⟩
  simp only [named, monadLift_self, yields_peek_bind]
  rw [← hst, TokenStream.head?_words] at hseam
  rw [if_neg fun hparen => hseam (congrArg some hparen)]
  simp only [yields_bind, yields_spanFrom, yields_pure]
  exact ⟨_, _, ⟨rfl, rfl⟩, rfl, rfl⟩

theorem found_emptyCall {x : String} {span : Span} (ht : t ≠ []) :
    Phrase.primary.Found (.identifier x :: .mark .leftParen :: .mark .rightParen :: t)
      (.call span x []) t := by
  refine found_named (List.cons_ne_nil _ _) fun limit room start _ st hst => ?_
  have hwords := TokenStream.words_advance hst (List.cons_ne_nil _ _)
  have hwords' := TokenStream.words_advance hwords ht
  refine ⟨.call (st.advance.advance.spanFrom start) x [], st.advance.advance, ?_, hwords', rfl⟩
  simp only [named, arguments, monadLift_self, yields_peek_bind]
  rw [if_pos (TokenStream.current_of_words hst)]
  simp only [yields_bind, yields_skip, yields_peek, yields_expect, yields_spanFrom, yields_pure]
  refine ⟨(), _, rfl, [], _, ⟨_, _, ⟨rfl, rfl⟩, ?_⟩, (), _,
    ⟨TokenStream.current_of_words hwords, rfl⟩, _, _, ⟨rfl, rfl⟩, rfl, rfl⟩
  rw [if_pos (TokenStream.current_of_words hwords)]
  exact yields_pure.2 ⟨rfl, rfl⟩

theorem found_call {x : String} {tok : Token} {ws : List Token} (hs : s = tok :: ws)
    (htok : tok ≠ .mark .rightParen) (ht : t ≠ []) (h : (Phrase.arguments x []).Found s e t) :
    Phrase.primary.Found (.identifier x :: .mark .leftParen :: s) e t := by
  refine found_named (List.cons_ne_nil _ _) fun limit room start hroom st hst => ?_
  have hwords := TokenStream.words_advance hst (hs ▸ List.cons_ne_nil _ _)
  obtain ⟨args, st₁, hyields, hwords₁, hbare⟩ :=
    h limit room st.advance.words.length st.advance hroom (hwords ▸ Nat.le_refl _) hwords
  refine ⟨.call (st₁.advance.spanFrom start) x args, st₁.advance, ?_,
    TokenStream.words_advance hwords₁ ht, hbare⟩
  simp only [named, arguments, monadLift_self, yields_peek_bind]
  rw [if_pos (TokenStream.current_of_words hst)]
  simp only [yields_bind, yields_skip, yields_peek, yields_expect, yields_spanFrom, yields_pure]
  refine ⟨(), _, rfl, args, st₁, ⟨_, _, ⟨rfl, rfl⟩, ?_⟩, (), _,
    ⟨TokenStream.current_of_words hwords₁, rfl⟩, _, _, ⟨rfl, rfl⟩, rfl, rfl⟩
  rw [if_neg fun hclose => htok (TokenStream.current_of_words (hwords.trans hs) ▸ hclose)]
  simp only [yields_bind, yields_remaining]
  exact ⟨_, _, ⟨rfl, rfl⟩, hyields⟩

theorem found_parens {span : Span} (hs : s ≠ []) (ht : t ≠ [])
    (h : Phrase.expression.Found s e (.mark .rightParen :: t)) :
    Phrase.primary.Found (.mark .leftParen :: s) (.parens span e) t := by
  intro limit room hroom st hst
  obtain ⟨e₁, st₁, hyields, hwords, hbare⟩ := Entry.finds .expression h limit hroom
    st.advance (TokenStream.words_advance hst hs)
  refine ⟨.parens (st₁.advance.spanFrom st.current.start) e₁, st₁.advance, ?_,
    TokenStream.words_advance hwords ht, ?_⟩
  · simp only [Phrase.reader, Parser.primary, monadLift_self, yields_bind, yields_here, yields_peek]
    refine ⟨_, _, ⟨rfl, rfl⟩, _, _, ⟨rfl, rfl⟩, ?_⟩
    rw [TokenStream.current_of_words hst]
    simp only [yields_bind, yields_skip, yields_expect, yields_spanFrom, yields_pure]
    exact ⟨(), _, rfl, e₁, st₁, hyields, (), _, ⟨TokenStream.current_of_words hwords, rfl⟩, _, _,
      ⟨rfl, rfl⟩, rfl, rfl⟩
  · simp only [Expr.bare, Expr.mapSpan] at hbare ⊢
    rw [hbare]

theorem found_conditional {span : Span} {s₂ : List Token} {c a b : Expr} (hs : s ≠ [])
    (hs₁ : s₁ ≠ []) (hs₂ : s₂ ≠ [])
    (hcondition : Phrase.expression.Found s c (.keyword .thenWord :: s₁))
    (hthen : Phrase.expression.Found s₁ a (.keyword .elseWord :: s₂))
    (helse : Phrase.expression.Found s₂ b t) :
    Phrase.primary.Found (.keyword .ifWord :: s) (.conditional span c a b) t := by
  intro limit room hroom st hst
  rw [Expr.nest] at hroom
  obtain ⟨c', st₁, hc, hwords, hbarec⟩ := Entry.finds .expression hcondition
    limit (by omega : _ < room) st.advance (TokenStream.words_advance hst hs)
  obtain ⟨a', st₂, ha, hwords₁, hbarea⟩ := Entry.finds .expression hthen
    limit (by omega : _ < room) st₁.advance (TokenStream.words_advance hwords hs₁)
  obtain ⟨b', st₃, hb, hwords₂, hbareb⟩ := Entry.finds .expression helse
    limit (by omega : _ < room) st₂.advance (TokenStream.words_advance hwords₁ hs₂)
  refine ⟨.conditional (st₃.spanFrom st.current.start) c' a' b', st₃, ?_, hwords₂, ?_⟩
  · simp only [Phrase.reader, Parser.primary, monadLift_self, yields_bind, yields_here, yields_peek]
    refine ⟨_, _, ⟨rfl, rfl⟩, _, _, ⟨rfl, rfl⟩, ?_⟩
    rw [TokenStream.current_of_words hst]
    simp only [Parser.conditional, monadLift_self, yields_bind, yields_skip, yields_expect, yields_spanFrom,
      yields_pure]
    exact ⟨(), _, rfl, c', st₁, hc, (), _, ⟨TokenStream.current_of_words hwords, rfl⟩, a', st₂, ha,
      (), _, ⟨TokenStream.current_of_words hwords₁, rfl⟩, b', st₃, hb, _, _, ⟨rfl, rfl⟩, rfl, rfl⟩
  · simp only [Expr.bare, Expr.mapSpan] at hbarec hbarea hbareb ⊢
    rw [hbarec, hbarea, hbareb]

theorem found_omitted {span : Span} (ht : t ≠ []) :
    Phrase.argument.Found (.mark .underscore :: t) (.omitted span) t := by
  intro limit room _ st hst
  refine ⟨.omitted (st.advance.spanFrom st.current.start), st.advance, ?_,
    TokenStream.words_advance hst ht, rfl⟩
  simp only [Parser.argument, monadLift_self, yields_peek_bind]
  rw [if_pos (TokenStream.current_of_words hst)]
  simp only [yields_bind, yields_here, yields_skip, yields_spanFrom, yields_pure]
  exact ⟨_, _, ⟨rfl, rfl⟩, (), _, rfl, _, _, ⟨rfl, rfl⟩, rfl, rfl⟩

theorem found_given {tok : Token} {ws : List Token} (hs : s = tok :: ws)
    (htok : tok ≠ .mark .underscore) (hgiven : e.isOmitted = false)
    (h : Phrase.expression.Found s e t) : Phrase.argument.Found s e t := by
  intro limit room hroom st hst
  have hnest : e.nest < room := by
    rw [Expr.nestArgs, hgiven] at hroom
    exact Nat.le_trans (Nat.le_max_left _ _) hroom
  obtain ⟨e₁, st₁, hyields, hwords, hbare⟩ :=
    Entry.finds .expression h limit hnest st hst
  refine ⟨e₁, st₁, ?_, hwords, hbare⟩
  simp only [Parser.argument, monadLift_self, yields_peek_bind]
  rw [if_neg fun homitted => htok (TokenStream.current_of_words (hst.trans hs) ▸ homitted)]
  exact hyields

/-- A call with another argument of the same shape has the same shape. -/
theorem bare_call_append (x : String) (before after : List Expr) {a a' : Expr} (span span' : Span)
    (h : a'.bare = a.bare) :
    (Expr.call span' x (before ++ a' :: after)).bare =
      (Expr.call span x (before ++ a :: after)).bare := by
  simp only [Expr.bare] at h
  simp only [Expr.bare, Expr.mapSpan, Expr.mapSpanArgs_eq_map, List.map_append, List.map_cons, h]

theorem found_lastArgument {x : String} {before : List Expr} {a : Expr} {span : Span}
    (h : Phrase.argument.Found s a (.mark .rightParen :: t)) :
    (Phrase.arguments x before).Found s (.call span x (before ++ [a])) t := by
  intro limit room fuel st hroom hfuel hst
  obtain ⟨fuel, rfl⟩ := TokenStream.exists_fuel (hst ▸ hfuel)
  rw [Expr.nest, Expr.nestArgs_append] at hroom
  obtain ⟨a', st₁, hyields, hwords, hbare⟩ :=
    h limit room (Nat.le_trans (Nat.le_max_right _ _) hroom) st hst
  refine ⟨[a'], st₁, ?_, hwords, bare_call_append x before [] span default hbare⟩
  simp only [argumentsWithin, monadLift_self, yields_bind, yields_peek]
  refine ⟨a', st₁, hyields, _, _, ⟨rfl, rfl⟩, ?_⟩
  rw [if_neg (by rw [TokenStream.current_of_words hwords]; decide)]
  exact yields_pure.2 ⟨rfl, rfl⟩

theorem found_nextArgument {x : String} {before : List Expr} {a : Expr} (hs₁ : s₁ ≠ [])
    (hnest : Expr.nestArgs (before ++ [a]) ≤ e.nest) (hlength : s₁.length < s.length)
    (h : Phrase.argument.Found s a (.mark .comma :: s₁))
    (hrest : (Phrase.arguments x (before ++ [a])).Found s₁ e t) :
    (Phrase.arguments x before).Found s e t := by
  intro limit room fuel st hroom hfuel hst
  obtain ⟨fuel, rfl⟩ := TokenStream.exists_fuel (hst ▸ hfuel)
  have hroom' := Nat.le_trans hnest hroom
  rw [Expr.nestArgs_append] at hroom'
  obtain ⟨a', st₁, hyields, hwords, hbare⟩ :=
    h limit room (Nat.le_trans (Nat.le_max_right _ _) hroom') st hst
  obtain ⟨args, st₂, hyields', hwords', hbare'⟩ := hrest limit room fuel st₁.advance hroom
    (Nat.le_of_lt_succ (Nat.lt_of_lt_of_le hlength hfuel)) (TokenStream.words_advance hwords hs₁)
  refine ⟨a' :: args, st₂, ?_, hwords', ?_⟩
  · simp only [argumentsWithin, monadLift_self, yields_bind, yields_peek]
    refine ⟨a', st₁, hyields, _, _, ⟨rfl, rfl⟩, ?_⟩
    rw [if_pos (TokenStream.current_of_words hwords)]
    simp only [yields_bind, yields_skip, yields_pure]
    exact ⟨(), _, rfl, args, st₂, hyields', rfl, rfl⟩
  · rw [List.append_assoc, List.singleton_append] at hbare'
    rw [← hbare']
    exact bare_call_append x before args default default hbare

end Steps

/-- Whatever can be read with a look at the next word, before some words at least, is found. -/
theorem Reads.found {X : Phrase} {s t : List Token} {e : Expr} (h : Reads .lookahead X s e t)
    (ht : t ≠ []) : X.Found s e t := by
  -- By induction on the reading; the first word of a phrase decides between the readers of a level.
  induction h with
  | chain _ hmore ih₁ ih₂ => exact found_first hmore.nestsIn (ih₁ (hmore.rest_ne_nil ht)) (ih₂ ht)
  | stop h => exact found_stop ht h
  | join span hop hright hmore ih₁ ih₂ =>
    have hs₁ := hmore.rest_ne_nil ht
    obtain ⟨w, rfl⟩ := hright.split
    exact found_join (hright.rest_ne_nil hs₁) hop hmore.nestsIn
      (by rw [List.length_append]; exact Nat.le_add_left _ _) (ih₁ hs₁) (ih₂ ht)
  | not span h ih => exact found_not (h.rest_ne_nil ht) (ih ht)
  | plain h ih =>
    obtain ⟨tok, ws, rfl⟩ := h.first ht
    refine found_plain rfl ?_ (ih ht)
    rintro rfl
    exact absurd (h.rank_le rfl) (by decide)
  | single h hseam ih => exact found_single ht (ih ht) hseam
  | compare span hleft hop hright ih₁ ih₂ =>
    exact found_compare (hright.rest_ne_nil ht) (ih₁ (List.cons_ne_nil _ _)) hop (ih₂ ht)
  | sign span hop h ih => exact found_sign (h.rest_ne_nil ht) hop (ih ht)
  | unsigned h ih =>
    obtain ⟨tok, ws, rfl⟩ := h.first ht
    exact found_unsigned rfl (Nat.le_zero.1 (h.rank_le rfl)) (ih ht)
  | literal span t h => exact found_literal ht h
  | name span hseam => exact found_name ht hseam
  | emptyCall x span t => exact found_emptyCall ht
  | call h ih =>
    obtain ⟨tok, ws, rfl⟩ := h.first ht
    refine found_call rfl ?_ ht (ih ht)
    rintro rfl
    exact absurd (h.rank_le rfl) (Nat.not_succ_le_self 3)
  | parens span h ih =>
    exact found_parens (h.rest_ne_nil (List.cons_ne_nil _ _)) ht (ih (List.cons_ne_nil _ _))
  | conditional span hcondition hthen helse _ ih₁ ih₂ ih₃ =>
    have hs₂ := helse.rest_ne_nil ht
    have hs₁ := hthen.rest_ne_nil (List.cons_ne_nil _ _)
    exact found_conditional (hcondition.rest_ne_nil (List.cons_ne_nil _ _)) hs₁ hs₂
      (ih₁ (List.cons_ne_nil _ _)) (ih₂ (List.cons_ne_nil _ _)) (ih₃ ht)
  | omitted span t => exact found_omitted ht
  | given h ih =>
    obtain ⟨tok, ws, rfl⟩ := h.first ht
    refine found_given rfl ?_ h.given_of_reads (ih ht)
    rintro rfl
    exact absurd (h.rank_le rfl) (by decide)
  | lastArgument span h ih => exact found_lastArgument (ih (List.cons_ne_nil _ _))
  | nextArgument h hrest ih₁ ih₂ =>
    have hs₁ := hrest.rest_ne_nil ht
    have hlength := h.bounds
    simp only [Phrase.Bounds, List.length_cons] at hlength
    exact found_nextArgument hs₁ hrest.nestsIn (by omega) (ih₁ (List.cons_ne_nil _ _)) (ih₂ ht)

/-- The parser finds an expression that can be read with a look at the next word, if it nests less deeply
    than the levels that are left. -/
theorem Parser.enter_finds (limit : Nat) {room : Nat} {s t : List Token} {e : Expr}
    (h : Reads .lookahead .expression s e t) (ht : t ≠ []) (hroom : e.nest < room) :
    (enter limit room .expression).Finds s e t :=
  Entry.finds .expression (h.found ht) limit hroom

/-- What a reader finds on some words is determined by them, up to spans. -/
theorem Parser.Finds.unique {p : Parser Expr} {ws t t' : List Token} {e e' : Expr} (h : p.Finds ws e t)
    (h' : p.Finds ws e' t') (hws : ws ≠ []) : e.bare = e'.bare ∧ t = t' := by
  obtain ⟨s, hs⟩ := TokenStream.exists_words hws
  obtain ⟨e₁, s₁, hyields, hwords, hbare⟩ := h s hs
  obtain ⟨e₂, s₂, hyields', hwords', hbare'⟩ := h' s hs
  obtain ⟨rfl, rfl⟩ := hyields.unique hyields'
  exact ⟨hbare.symm.trans hbare', hwords.symm.trans hwords'⟩

/-- Where a phrase is found, there is no other of its kind. -/
theorem Phrase.Found.unique {X : Phrase} {ws t t' : List Token} {e e' : Expr} (h : X.Found ws e t)
    (h' : X.Found ws e' t') (hws : ws ≠ []) : e.bare = e'.bare ∧ t = t' := by
  -- Any number of levels will do that is enough for both.
  have hroom := Nat.le_max_left e.nest e'.nest
  have hroom' := Nat.le_max_right e.nest e'.nest
  cases X with
  | more l left =>
    exact (h 0 _ ws.length left hroom (Nat.le_refl _) rfl).unique
      (h' 0 _ ws.length left hroom' (Nat.le_refl _) rfl) hws
  | arguments x before =>
    obtain ⟨s, hs⟩ := TokenStream.exists_words hws
    obtain ⟨args, s₁, hyields, hwords, hbare⟩ := h 0 _ ws.length s hroom (Nat.le_refl _) hs
    obtain ⟨args', s₂, hyields', hwords', hbare'⟩ := h' 0 _ ws.length s hroom' (Nat.le_refl _) hs
    obtain ⟨rfl, rfl⟩ := hyields.unique hyields'
    exact ⟨hbare.symm.trans hbare', List.tail_eq_of_cons_eq (hwords.symm.trans hwords')⟩
  | argument =>
    have hroom := Nat.le_max_left (Expr.nestArgs [e]) (Expr.nestArgs [e'])
    have hroom' := Nat.le_max_right (Expr.nestArgs [e]) (Expr.nestArgs [e'])
    exact (h 0 _ hroom).unique (h' 0 _ hroom') hws
  | _ => exact (h 0 _ hroom).unique (h' 0 _ hroom') hws

/-- What is read with a look at the next word is determined by the words, up to spans. -/
theorem Reads.unique {X : Phrase} {s t t' : List Token} {e e' : Expr} (h : Reads .lookahead X s e t)
    (h' : Reads .lookahead X s e' t') (ht : t ≠ []) (ht' : t' ≠ []) : e.bare = e'.bare ∧ t = t' :=
  (h.found ht).unique (h'.found ht') (h.rest_ne_nil ht)

end AssignScript
