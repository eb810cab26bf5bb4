import AssignScript.Proofs.Syntax.Sound
import AssignScript.Proofs.Syntax.Spelling

/-!
# The parser places what it reads

Whatever a reader of the parser accepts is spelled by the tokens that it took, node by node, with the span of
each node. And the tokens of each node by themselves are an expression of the grammar, so that nothing around
a node has a part in it.

## Main definitions

* `TokenStream.Takes`: the tokens taken between two streams;
* `Expr.PlacedOn`: an expression whose nodes are spelled by tokens that are expressions by themselves;
* `Parser.Exact`: readers that accept such expressions only;
* `Level.Opens`: words that operators of a level may follow.

## Main statements

* `Parser.enter_exact`: the readers of every entry are exact.
-/

namespace AssignScript

open AssignScript.Parser

/-! ### Tokens taken -/

namespace TokenStream

/-- The tokens not yet taken. -/
def tokens (s : TokenStream) : List PlacedToken := s.current :: s.following

/-- Some tokens are taken between two streams. -/
structure Takes (s : TokenStream) (us : List PlacedToken) (s' : TokenStream) : Prop where
  tokens : s.tokens = us ++ s'.tokens
  source : s'.source = s.source
  before : ∀ p, s'.before.getD p = lastStop (s.before.getD p) us

theorem map_tokens (s : TokenStream) : s.tokens.map PlacedToken.token = s.words := rfl

theorem Takes.refl (s : TokenStream) : s.Takes [] s := ⟨rfl, rfl, fun _ => rfl⟩

namespace Takes

variable {s s₁ s' : TokenStream} {us vs : List PlacedToken}

theorem trans (h : s.Takes us s₁) (h' : s₁.Takes vs s') : s.Takes (us ++ vs) s' where
  tokens := by rw [h.tokens, h'.tokens, List.append_assoc]
  source := h'.source.trans h.source
  before p := by rw [h'.before, h.before, lastStop_append]

theorem words (h : s.Takes us s') : s.words = us.map PlacedToken.token ++ s'.words := by
  rw [← map_tokens, h.tokens, List.map_append, map_tokens]

theorem spanBetween (h : s.Takes us s') (start stop : Position) :
    s'.spanBetween start stop = .ofSource s.source start stop := by
  rw [TokenStream.spanBetween, h.source]

/-- The span up to the last token taken. -/
theorem spanFrom (h : s.Takes us s') (hus : us ≠ []) :
    s'.spanFrom (firstStart us) = spanOf s.source us := by
  rw [TokenStream.spanFrom, h.source, h.before, lastStop_of_ne_nil hus _ (firstStart us)]
  rfl

end Takes

/-- A token that does not end the input is taken alone. -/
theorem Ended.takes {s : TokenStream} (h : s.Ended) (hne : s.current.token ≠ .endOfInput) :
    s.Takes [s.current] s.advance := by
  obtain ⟨hwords, -⟩ := h.advance hne
  cases hfollowing : s.following with
  | nil =>
    -- A stream never passes its last token.
    have hstays : s.advance = s := by
      rw [TokenStream.advance, hfollowing]
    rw [hstays] at hwords
    exact absurd (congrArg List.length hwords) (Nat.ne_of_lt (Nat.lt_succ_self _))
  | cons t ts =>
    have hadvance : s.advance = ⟨s.source, t, ts, some s.current.stop⟩ := by
      rw [TokenStream.advance, hfollowing]
    rw [hadvance]
    refine ⟨?_, rfl, fun p => rfl⟩
    rw [tokens, hfollowing]
    rfl

end TokenStream

/-! ### Expressions by themselves -/

namespace Expr

/-- An expression on its tokens. Every expression inside is spelled by some of them, which by themselves are an
    expression, unless it is a placeholder. -/
structure PlacedOn (source : List Char) (us : List PlacedToken) (e : Expr) : Prop where
  spelled : e.SpelledBy source us
  covered : ∀ n, n.Inside e → ∃ vs, vs <:+: us ∧ n.SpelledBy source vs ∧
    (n.isOmitted = false → Reads .lookahead .expression (vs.map PlacedToken.token) n [])

namespace PlacedOn

variable {source : List Char} {us vs : List PlacedToken} {e l r : Expr} {t : PlacedToken}

theorem of_children (hspelled : e.SpelledBy source us)
    (hread : e.isOmitted = false → Reads .lookahead .expression (us.map PlacedToken.token) e [])
    (hchildren : ∀ c ∈ e.children, ∃ vs, vs <:+: us ∧ c.PlacedOn source vs) : e.PlacedOn source us := by
  refine ⟨hspelled, ?_⟩
  intro n hn
  cases hn with
  | self => exact ⟨us, List.infix_refl us, hspelled, hread⟩
  | child hc hn =>
    obtain ⟨vs, hvs, hplaced⟩ := hchildren _ hc
    obtain ⟨ws, hws, h⟩ := hplaced.covered n hn
    exact ⟨ws, hws.trans hvs, h⟩

/-- An operator between its operands. -/
theorem binary {op : BinaryOp} (hl : l.PlacedOn source us) (hop : Operates t.token op)
    (hr : r.PlacedOn source vs)
    (hread : Reads .lookahead .expression ((us ++ t :: vs).map PlacedToken.token)
      (.binary (.ofSource source l.span.start r.span.stop) op l r) []) :
    (Expr.binary (.ofSource source l.span.start r.span.stop) op l r).PlacedOn source (us ++ t :: vs) := by
  refine .of_children ⟨?_, us, t, vs, rfl, hl.spelled, hop, hr.spelled⟩ (fun _ => hread) ?_
  · rw [hl.spelled.span, hr.spelled.span]
    exact (spanOf_append source hl.spelled.ne_nil [t] hr.spelled.ne_nil).symm
  · refine List.forall_mem_cons.2 ⟨?_, List.forall_mem_singleton.2 ?_⟩
    · exact ⟨us, (List.prefix_append us _).isInfix, hl⟩
    · exact ⟨vs, ⟨us ++ [t], [], by simp⟩, hr⟩

/-- An operator in front of its operand. -/
theorem unary {op : UnaryOp} (hop : Prefixes t.token op) (he : e.PlacedOn source us)
    (hread : Reads .lookahead .expression ((t :: us).map PlacedToken.token)
      (.unary (.ofSource source t.start e.span.stop) op e) []) :
    (Expr.unary (.ofSource source t.start e.span.stop) op e).PlacedOn source (t :: us) := by
  refine .of_children ⟨?_, t, us, rfl, hop, he.spelled⟩ (fun _ => hread) ?_
  · rw [he.spelled.span]
    exact (spanOf_append source (List.cons_ne_nil t []) [] he.spelled.ne_nil).symm
  · exact List.forall_mem_singleton.2 ⟨us, (List.suffix_cons t us).isInfix, he⟩

end PlacedOn

end Expr

namespace Reads

variable {w s t : List Token} {e : Expr}

/-- What is read up to the next word is also read up to any words that begin alike, and up to the end. -/
theorem upTo {X : Phrase} (h : Reads .lookahead X (w ++ t) e t) (hs : s = [] ∨ s.head? = t.head?) :
    Reads .lookahead X (w ++ s) e s := by
  obtain ⟨w', hw, hread⟩ := h.relocate fun _ _ => trivial
  rw [List.append_cancel_right hw]
  rcases hs with rfl | hs
  · exact hread [] (Closes.nil.permits _)
  · exact hread s (hs ▸ .refl _ _)

theorem alone {X : Phrase} (h : Reads .lookahead X (w ++ t) e t) : Reads .lookahead X w e [] := by
  have hread := h.upTo (.inl rfl)
  rwa [List.append_nil] at hread

/-! Up to the end of the words, every phrase is an expression. -/

theorem expression_of_negated (h : Reads .lookahead .negated w e []) :
    Reads .lookahead .expression w e [] :=
  .chain (.chain h (.stop (Closes.nil.chain _))) (.stop (Closes.nil.chain _))

theorem expression_of_additive (h : Reads .lookahead (.chain .additive) w e []) :
    Reads .lookahead .expression w e [] :=
  expression_of_negated (.plain (.single h Closes.nil.operand))

theorem expression_of_chain (l : Level) (h : Reads .lookahead (.chain l) w e []) :
    Reads .lookahead .expression w e [] := by
  cases l with
  | disjunctive => exact h
  | conjunctive => exact .chain h (.stop (Closes.nil.chain _))
  | additive => exact expression_of_additive h
  | multiplicative => exact expression_of_additive (.chain h (.stop (Closes.nil.chain _)))

theorem expression_of_signed (h : Reads .lookahead .signed w e []) :
    Reads .lookahead .expression w e [] :=
  expression_of_chain .multiplicative (.chain h (.stop (Closes.nil.chain _)))

end Reads

/-- Words for a first operand that operators of a level and more operands may follow, if these begin with the next
    word. -/
def Level.Opens (l : Level) (w : List Token) (left : Expr) (next : Option Token) : Prop :=
  ∀ s e t, s = [] ∨ s.head? = next → Reads .lookahead (.more l left) s e t →
    Reads .lookahead (.chain l) (w ++ s) e t

namespace Level.Opens

variable {l : Level} {w t : List Token} {left : Expr}

theorem first (h : Reads .lookahead l.operand (w ++ t) left t) : l.Opens w left t.head? :=
  fun _ _ _ hs hmore => .chain (h.upTo hs) hmore

theorem join {tok : Token} {op : BinaryOp} {v : List Token} {right : Expr} (span : Span)
    (h : l.Opens w left (some tok)) (hop : l.Joins tok op)
    (hright : Reads .lookahead l.operand (v ++ t) right t) :
    l.Opens (w ++ tok :: v) (.binary span op left right) t.head? := by
  intro s e u hs hmore
  rw [List.append_assoc, List.cons_append]
  exact h _ e u (.inr rfl) (.join span hop (hright.upTo hs) hmore)

theorem alone {next : Option Token} (h : l.Opens w left next) :
    Reads .lookahead .expression w left [] := by
  have hread := h [] left [] (.inl rfl) (.stop (Closes.nil.chain l))
  rw [List.append_nil] at hread
  exact hread.expression_of_chain l

end Level.Opens

/-! ### Readers -/

namespace Parser

/-- A reader that accepts expressions on the tokens that it takes. -/
def Exact (p : Parser Expr) : Prop :=
  ∀ s e s', s.Ended → p.Yields s e s' → ∃ us, s.Takes us s' ∧ e.PlacedOn s.source us

section Readers

variable {n : Nat} {nested : Entry → Parser Expr}

/-- The loop over the operators of a level, behind words that operators of the level may follow. -/
theorem chainFrom_exact {l : Level} {operand : Parser Expr} (ho : Sound n l.operand operand)
    (hx : Exact operand) (fuel : Nat) : ∀ s left e s' us, s.Ended → left.PlacedOn s.source us →
      l.Opens (us.map PlacedToken.token) left s.words.head? →
      (chainFrom l.operator? operand fuel left).Yields s e s' →
      ∃ vs, s.Takes vs s' ∧ e.PlacedOn s.source (us ++ vs) := by
  -- What was read before is the first operand of what follows.
  induction fuel with
  | zero =>
    intro s left e s' us _ hleft _ h
    obtain ⟨rfl, rfl⟩ := yields_pure.1 h
    rw [← List.append_nil us] at hleft
    exact ⟨[], .refl s', hleft⟩
  | succ fuel ih =>
    intro s left e s' us hs hleft hopens h
    simp only [chainFrom, monadLift_self, yields_peek_bind] at h
    split at h
    · obtain ⟨rfl, rfl⟩ := yields_pure.1 h
      rw [← List.append_nil us] at hleft
      exact ⟨[], .refl s', hleft⟩
    · next op hop =>
      simp only [yields_bind, yields_skip, yields_binary] at h
      obtain ⟨_, _, rfl, right, _, hright, _, s₂, ⟨rfl, rfl⟩, h⟩ := h
      have hop := Level.operator?_eq_some.1 hop
      have htakes := hs.takes hop.ne_endOfInput
      obtain ⟨hwords, hs₁⟩ := hs.advance hop.ne_endOfInput
      obtain ⟨hs₂, hread, -⟩ := ho _ _ _ hs₁ hright
      obtain ⟨vs, hvs, hplaced⟩ := hx _ _ _ hs₁ hright
      rw [htakes.source] at hplaced
      rw [hvs.words] at hread
      have hall := htakes.trans hvs
      rw [hall.spanBetween] at h
      have hopens' := hopens.join (.ofSource s.source left.span.start right.span.stop) hop hread
      rw [← List.map_cons, ← List.map_append] at hopens'
      have hboth := hleft.binary (.join hop) hplaced hopens'.alone
      obtain ⟨ws, hws, he⟩ := ih s₂ _ e s' (us ++ s.current :: vs) hs₂ (hall.source ▸ hboth) hopens' h
      rw [hall.source, List.append_assoc] at he
      exact ⟨s.current :: vs ++ ws, hall.trans hws, he⟩

theorem chain_exact {l : Level} {operand : Parser Expr} (ho : Sound n l.operand operand)
    (hx : Exact operand) : Exact (chain l.operator? operand) := by
  intro s e s' hs h
  simp only [chain, monadLift_self, yields_bind, yields_remaining] at h
  obtain ⟨left, s₁, hleft, _, _, ⟨rfl, rfl⟩, h⟩ := h
  obtain ⟨hs₁, hread, -⟩ := ho _ _ _ hs hleft
  obtain ⟨us, hus, hplaced⟩ := hx _ _ _ hs hleft
  rw [hus.words] at hread
  rw [← hus.source] at hplaced ⊢
  obtain ⟨vs, hvs, he⟩ := chainFrom_exact ho hx _ _ left e s' us hs₁ hplaced (.first hread) h
  exact ⟨us ++ vs, hus.trans hvs, he⟩

theorem argument_exact (hx : ∀ entry, Exact (nested entry)) : Exact (argument nested) := by
  intro s e s' hs h
  simp only [argument, monadLift_self, yields_peek_bind] at h
  split at h
  · next htok =>
    simp only [yields_bind, yields_here, yields_skip, yields_spanFrom, yields_pure] at h
    obtain ⟨_, s, ⟨rfl, rfl⟩, _, _, rfl, _, _, ⟨rfl, rfl⟩, rfl, rfl⟩ := h
    have htakes := hs.takes (by rw [htok]; decide)
    have hspan := htakes.spanFrom (List.cons_ne_nil _ _)
    exact ⟨_, htakes, .of_children ⟨hspan, s.current, rfl, htok⟩ (fun h => by cases h) fun _ h => by cases h⟩
  · exact hx .expression _ _ _ hs h

section

variable (hn : ∀ entry, Sound n entry.phrase (nested entry)) (hx : ∀ entry, Exact (nested entry))
  {s₀ s s' : TokenStream} {t : PlacedToken} {e : Expr}

include hn hx

theorem argumentsWithin_exact (fuel : Nat) : ∀ s args s', s.Ended → s.words.length ≤ fuel →
    (argumentsWithin nested fuel).Yields s args s' →
    args ≠ [] ∧ ∃ us, s.Takes us s' ∧ Expr.argsSpelledBy s.source args us ∧
      ∀ a ∈ args, ∃ vs, vs <:+: us ∧ a.PlacedOn s.source vs := by
  induction fuel with
  | zero =>
    intro s args s' _ hfuel
    exact absurd hfuel s.not_words_length_le_zero
  | succ fuel ih =>
    intro s args s' hs hfuel h
    simp only [argumentsWithin, monadLift_self, yields_bind, yields_peek] at h
    obtain ⟨first, _, hfirst, _, s₁, ⟨rfl, rfl⟩, h⟩ := h
    obtain ⟨hs₁, hread, -⟩ := argument_sound hn hs hfirst
    obtain ⟨us, hus, hplaced⟩ := argument_exact hx _ _ _ hs hfirst
    split at h
    · next htok =>
      simp only [yields_bind, yields_skip, yields_pure] at h
      obtain ⟨_, _, rfl, rest, _, hrest, rfl, rfl⟩ := h
      have htakes := hs₁.takes (by rw [htok]; decide)
      obtain ⟨hwords, hs₂⟩ := hs₁.advance (by rw [htok]; decide)
      have hlength : s₁.advance.words.length ≤ fuel := by
        have hlength := congrArg List.length hus.words
        rw [hwords, List.length_append, List.length_cons] at hlength
        omega
      obtain ⟨hne, vs, hvs, hspelled, hargs⟩ := ih _ _ _ hs₂ hlength hrest
      rw [htakes.source, hus.source] at hspelled hargs
      obtain ⟨b, bs, rfl⟩ := List.exists_cons_of_ne_nil hne
      refine ⟨List.cons_ne_nil _ _, us ++ s₁.current :: vs, hus.trans (htakes.trans hvs),
        ⟨us, s₁.current, vs, rfl, hplaced.spelled, htok, hspelled⟩, List.forall_mem_cons.2 ⟨?_, ?_⟩⟩
      · exact ⟨us, (List.prefix_append us _).isInfix, hplaced⟩
      · intro a ha
        obtain ⟨ws, hws, h⟩ := hargs a ha
        exact ⟨ws, hws.trans ⟨us ++ [s₁.current], [], by simp⟩, h⟩
    · obtain ⟨rfl, rfl⟩ := yields_pure.1 h
      exact ⟨List.cons_ne_nil _ _, us, hus, hplaced.spelled,
        List.forall_mem_singleton.2 ⟨us, List.infix_refl us, hplaced⟩⟩

/-- A name that was taken, with the call that may follow it. -/
theorem named_exact {x : String} (h₀ : s₀.Takes [t] s) (hs : s.Ended)
    (hname : t.token = .identifier x) (h : (named nested x t.start).Yields s e s') :
    ∃ us, s₀.Takes us s' ∧ e.SpelledBy s₀.source us ∧
      ∀ c ∈ e.children, ∃ vs, vs <:+: us ∧ c.PlacedOn s₀.source vs := by
  simp only [named, monadLift_self, yields_peek_bind] at h
  split at h
  · next htok =>
    simp only [arguments, monadLift_self, yields_bind, yields_skip, yields_peek, yields_expect, yields_spanFrom,
      yields_pure] at h
    obtain ⟨_, _, rfl, args, s₁, ⟨_, _, ⟨rfl, rfl⟩, h⟩, _, _, ⟨hclose, rfl⟩, _, _, ⟨rfl, rfl⟩,
      rfl, rfl⟩ := h
    have hopen := hs.takes (by rw [htok]; decide)
    obtain ⟨-, hs₁⟩ := hs.advance (by rw [htok]; decide)
    -- The arguments and the parenthesis behind them, of which there may be none.
    obtain ⟨hs₂, us, hus, hspelled, hargs⟩ : s₁.Ended ∧ ∃ us, s.advance.Takes us s₁ ∧
        Expr.argsSpelledBy s.source args us ∧ ∀ a ∈ args, ∃ vs, vs <:+: us ∧ a.PlacedOn s.source vs := by
      split at h
      · obtain ⟨rfl, rfl⟩ := yields_pure.1 h
        exact ⟨hs₁, [], .refl _, rfl, fun _ h => by cases h⟩
      · simp only [yields_bind, yields_remaining] at h
        obtain ⟨_, _, ⟨rfl, rfl⟩, h⟩ := h
        obtain ⟨hs₂, -⟩ := argumentsWithin_sound hn _ _ _ _ hs₁ (Nat.le_refl _) h
        obtain ⟨-, us, hus, hspelled, hargs⟩ :=
          argumentsWithin_exact hn hx _ _ _ _ hs₁ (Nat.le_refl _) h
        rw [hopen.source] at hspelled hargs
        exact ⟨hs₂, us, hus, hspelled, hargs⟩
    have hall := h₀.trans (hopen.trans (hus.trans (hs₂.takes (by rw [hclose]; decide))))
    rw [h₀.source] at hspelled hargs
    refine ⟨_, hall, ⟨hall.spanFrom (List.cons_ne_nil _ _), t, s.current, us, s₁.current, rfl, hname,
      htok, hspelled, hclose⟩, fun c hc => ?_⟩
    obtain ⟨vs, hvs, h⟩ := hargs c hc
    exact ⟨vs, hvs.trans ⟨[t, s.current], [s₁.current], rfl⟩, h⟩
  · simp only [yields_bind, yields_spanFrom, yields_pure] at h
    obtain ⟨_, _, ⟨rfl, rfl⟩, rfl, rfl⟩ := h
    exact ⟨[t], h₀, ⟨h₀.spanFrom (List.cons_ne_nil _ _), t, rfl, hname⟩, fun _ h => by cases h⟩

/-- A choice from behind its first word. -/
theorem conditional_exact (h₀ : s₀.Takes [t] s) (hs : s.Ended) (hif : t.token = .keyword .ifWord)
    (h : (conditional nested t.start).Yields s e s') :
    ∃ us, s₀.Takes us s' ∧ e.SpelledBy s₀.source us ∧
      ∀ c ∈ e.children, ∃ vs, vs <:+: us ∧ c.PlacedOn s₀.source vs := by
  simp only [conditional, monadLift_self, yields_bind, yields_expect, yields_spanFrom, yields_pure] at h
  obtain ⟨c, s₁, hc, _, _, ⟨hthen, rfl⟩, a, s₂, ha, _, _, ⟨helse, rfl⟩, b, s₃, hb, _, _, ⟨rfl, rfl⟩,
    rfl, rfl⟩ := h
  obtain ⟨hs₁, -, -⟩ := hn .expression _ _ _ hs hc
  obtain ⟨us, hus, hplacedc⟩ := hx .expression _ _ _ hs hc
  have htakes₁ := hs₁.takes (by rw [hthen]; decide)
  obtain ⟨-, hs₁⟩ := hs₁.advance (by rw [hthen]; decide)
  obtain ⟨hs₂, -, -⟩ := hn .expression _ _ _ hs₁ ha
  obtain ⟨vs, hvs, hplaceda⟩ := hx .expression _ _ _ hs₁ ha
  have htakes₂ := hs₂.takes (by rw [helse]; decide)
  obtain ⟨-, hs₂⟩ := hs₂.advance (by rw [helse]; decide)
  obtain ⟨ws, hws, hplacedb⟩ := hx .expression _ _ _ hs₂ hb
  rw [htakes₂.source, hvs.source, htakes₁.source, hus.source, h₀.source] at hplacedb
  rw [htakes₁.source, hus.source, h₀.source] at hplaceda
  rw [h₀.source] at hplacedc
  have hall := h₀.trans (hus.trans (htakes₁.trans (hvs.trans (htakes₂.trans hws))))
  refine ⟨_, hall, ⟨hall.spanFrom (List.cons_ne_nil _ _), t, us, s₁.current, vs, s₂.current, ws, rfl, hif,
    hplacedc.spelled, hthen, hplaceda.spelled, helse, hplacedb.spelled⟩,
    List.forall_mem_cons.2 ⟨?_, List.forall_mem_cons.2 ⟨?_, List.forall_mem_singleton.2 ?_⟩⟩⟩
  · exact ⟨us, ⟨[t], s₁.current :: (vs ++ s₂.current :: ws), rfl⟩, hplacedc⟩
  · exact ⟨vs, ⟨t :: (us ++ [s₁.current]), s₂.current :: ws, by simp⟩, hplaceda⟩
  · exact ⟨ws, ⟨t :: (us ++ s₁.current :: (vs ++ [s₂.current])), [], by simp⟩, hplacedb⟩

theorem primary_exact : Exact (primary nested) := by
  intro s e s' hs h
  obtain ⟨-, hread, -⟩ := primary_sound hn _ _ _ hs h
  -- It is enough to know the tokens and what is inside: what they write by themselves is known.
  suffices hshape : ∃ us, s.Takes us s' ∧ e.SpelledBy s.source us ∧
      ∀ c ∈ e.children, ∃ vs, vs <:+: us ∧ c.PlacedOn s.source vs by
    obtain ⟨us, hus, hspelled, hchildren⟩ := hshape
    rw [hus.words] at hread
    exact ⟨us, hus, .of_children hspelled
      (fun _ => Reads.expression_of_signed (.unsigned hread.alone)) hchildren⟩
  simp only [primary, monadLift_self, yields_bind, yields_here, yields_peek] at h
  obtain ⟨_, _, ⟨rfl, rfl⟩, _, s, ⟨rfl, rfl⟩, h⟩ := h
  have hliteral : ∀ {tok : Token} {v : Literal}, s.current.token = tok → Writes tok v →
      tok ≠ .endOfInput → ∃ us, s.Takes us s.advance ∧
      (Expr.literal (s.advance.spanFrom s.current.start) v).SpelledBy s.source us ∧
      ∀ c ∈ (Expr.literal (s.advance.spanFrom s.current.start) v).children,
        ∃ vs, vs <:+: us ∧ c.PlacedOn s.source vs := by
    intro tok v htok hv hne
    have htakes := hs.takes (htok ▸ hne)
    exact ⟨_, htakes, ⟨htakes.spanFrom (List.cons_ne_nil _ _), s.current, rfl, htok ▸ hv⟩, fun _ h => by cases h⟩
  split at h
  · next htok =>
    simp only [yields_bind, yields_skip, yields_numberLiteral, yields_spanFrom, yields_pure] at h
    obtain ⟨_, _, rfl, v, _, ⟨hv, rfl⟩, _, _, ⟨rfl, rfl⟩, rfl, rfl⟩ := h
    exact hliteral htok hv (by simp)
  · next htok =>
    simp only [yields_bind, yields_skip, yields_spanFrom, yields_pure] at h
    obtain ⟨_, _, rfl, _, _, ⟨rfl, rfl⟩, rfl, rfl⟩ := h
    exact hliteral htok (.string _) (by simp)
  · next htok =>
    simp only [yields_bind, yields_skip, yields_spanFrom, yields_pure] at h
    obtain ⟨_, _, rfl, _, _, ⟨rfl, rfl⟩, rfl, rfl⟩ := h
    exact hliteral htok .true (by simp)
  · next htok =>
    simp only [yields_bind, yields_skip, yields_spanFrom, yields_pure] at h
    obtain ⟨_, _, rfl, _, _, ⟨rfl, rfl⟩, rfl, rfl⟩ := h
    exact hliteral htok .false (by simp)
  · next htok =>
    simp only [yields_bind, yields_skip, yields_spanFrom, yields_pure] at h
    obtain ⟨_, _, rfl, _, _, ⟨rfl, rfl⟩, rfl, rfl⟩ := h
    exact hliteral htok .null (by simp)
  · next htok =>
    simp only [yields_bind, yields_skip] at h
    obtain ⟨_, _, rfl, h⟩ := h
    have htakes := hs.takes (by rw [htok]; simp)
    obtain ⟨-, hs₁⟩ := hs.advance (by rw [htok]; simp)
    exact named_exact hn hx htakes hs₁ htok h
  · next htok =>
    simp only [yields_bind, yields_skip, yields_expect, yields_spanFrom, yields_pure] at h
    obtain ⟨_, _, rfl, inner, s₁, hinner, _, _, ⟨hclose, rfl⟩, _, _, ⟨rfl, rfl⟩, rfl, rfl⟩ := h
    have htakes := hs.takes (by rw [htok]; decide)
    obtain ⟨-, hs₁⟩ := hs.advance (by rw [htok]; decide)
    obtain ⟨hs₂, -, -⟩ := hn .expression _ _ _ hs₁ hinner
    obtain ⟨us, hus, hplaced⟩ := hx .expression _ _ _ hs₁ hinner
    rw [htakes.source] at hplaced
    have hall := htakes.trans (hus.trans (hs₂.takes (by rw [hclose]; decide)))
    exact ⟨_, hall, ⟨hall.spanFrom (List.cons_ne_nil _ _), s.current, us, s₁.current, rfl, htok,
      hplaced.spelled, hclose⟩,
      List.forall_mem_singleton.2 ⟨us, ⟨[s.current], [s₁.current], rfl⟩, hplaced⟩⟩
  · next htok =>
    simp only [yields_bind, yields_skip] at h
    obtain ⟨_, _, rfl, h⟩ := h
    have htakes := hs.takes (by rw [htok]; decide)
    obtain ⟨-, hs₁⟩ := hs.advance (by rw [htok]; decide)
    exact conditional_exact hn hx htakes hs₁ htok h
  · exact absurd h yields_unexpected

theorem signed_exact : Exact (signed nested) := by
  intro s e s' hs h
  obtain ⟨-, hread, -⟩ := signed_sound hn _ _ _ hs h
  simp only [signed, monadLift_self, yields_peek_bind] at h
  split at h
  · next op hop =>
    simp only [yields_bind, yields_here, yields_skip, yields_unary] at h
    obtain ⟨_, s, ⟨rfl, rfl⟩, _, _, rfl, operand, _, hoperand, rfl, rfl⟩ := h
    have hop := sign?_eq_some.1 hop
    have htakes := hs.takes hop.ne_endOfInput
    obtain ⟨-, hs₁⟩ := hs.advance hop.ne_endOfInput
    obtain ⟨us, hus, hplaced⟩ := hx .signed _ _ _ hs₁ hoperand
    have hall := htakes.trans hus
    rw [htakes.source] at hplaced
    rw [hall.words, hall.spanBetween] at hread
    rw [hall.spanBetween]
    exact ⟨_, hall, .unary (.sign hop) hplaced hread.alone.expression_of_signed⟩
  · exact primary_exact hn hx _ _ _ hs h

theorem additive_exact : Exact (additive nested) :=
  have hmultiplicative : Exact (multiplicative nested) :=
    chain_exact (l := .multiplicative) (signed_sound hn) (signed_exact hn hx)
  chain_exact (l := .additive) (chain_sound (l := .multiplicative) (signed_sound hn)) hmultiplicative

theorem comparison_exact : Exact (comparison nested) := by
  intro s e s' hs h
  obtain ⟨-, hread, -⟩ := comparison_sound hn _ _ _ hs h
  simp only [comparison, monadLift_self, yields_bind, yields_peek] at h
  obtain ⟨left, s₁, hleft, _, _, ⟨rfl, rfl⟩, h⟩ := h
  obtain ⟨hs₁, -, -⟩ := additive_sound hn _ _ _ hs hleft
  obtain ⟨us, hus, hplaced⟩ := additive_exact hn hx _ _ _ hs hleft
  split at h
  · obtain ⟨rfl, rfl⟩ := yields_pure.1 h
    exact ⟨us, hus, hplaced⟩
  · next op hop =>
    simp only [yields_bind, yields_skip, yields_binary] at h
    obtain ⟨_, _, rfl, right, s₂, hright, rfl, rfl⟩ := h
    have hop := comparative?_eq_some.1 hop
    have htakes := hs₁.takes hop.ne_endOfInput
    obtain ⟨-, hs₂⟩ := hs₁.advance hop.ne_endOfInput
    obtain ⟨vs, hvs, hplaced'⟩ := additive_exact hn hx _ _ _ hs₂ hright
    have hall := hus.trans (htakes.trans hvs)
    rw [htakes.source, hus.source] at hplaced'
    rw [hall.words, hall.spanBetween] at hread
    rw [hall.spanBetween]
    exact ⟨_, hall, hplaced.binary (.compare hop) hplaced'
      (Reads.expression_of_negated (.plain hread.alone))⟩

theorem negated_exact : Exact (negated nested) := by
  intro s e s' hs h
  obtain ⟨-, hread, -⟩ := negated_sound hn _ _ _ hs h
  simp only [negated, monadLift_self, yields_peek_bind] at h
  split at h
  · next htok =>
    simp only [yields_bind, yields_here, yields_skip, yields_unary] at h
    obtain ⟨_, s, ⟨rfl, rfl⟩, _, _, rfl, operand, _, hoperand, rfl, rfl⟩ := h
    have hne : s.current.token ≠ .endOfInput := by rw [htok]; decide
    have htakes := hs.takes hne
    obtain ⟨-, hs₁⟩ := hs.advance hne
    obtain ⟨us, hus, hplaced⟩ := hx .negated _ _ _ hs₁ hoperand
    have hall := htakes.trans hus
    rw [htakes.source] at hplaced
    rw [hall.words, hall.spanBetween] at hread
    rw [hall.spanBetween]
    exact ⟨_, hall, .unary (htok ▸ .not) hplaced hread.alone.expression_of_negated⟩
  · exact comparison_exact hn hx _ _ _ hs h

theorem disjunctive_exact : Exact (disjunctive nested) :=
  have hconjunctive : Exact (conjunctive nested) :=
    chain_exact (l := .conjunctive) (negated_sound hn) (negated_exact hn hx)
  chain_exact (l := .disjunctive) (chain_sound (l := .conjunctive) (negated_sound hn)) hconjunctive

end

end Readers

/-- The readers of every entry are exact. -/
theorem enter_exact (limit room : Nat) (entry : Entry) : Exact (enter limit room entry) := by
  induction room generalizing entry with
  | zero =>
    intro s e s' _ h
    simp only [enter, yields_bind] at h
    obtain ⟨_, _, _, h⟩ := h
    exact absurd h yields_throw
  | succ room ih =>
    have hn := enter_sound limit room
    cases entry with
    | expression => exact disjunctive_exact hn ih
    | negated => exact negated_exact hn ih
    | signed => exact signed_exact hn ih

end Parser

end AssignScript
