import AssignScript.Proofs.Syntax.Viable

/-!
# Where readers fail

A reader that finds a word it does not expect fails at the first word with which its phrase cannot go on. This
goes through every level: a reader fails where one of its steps does, and the steps before have read what they
read whatever follows.

## Main definitions

* `Parser.Fails`: a reader fails;
* `TokenStream.Holds`: a word behind some tokens, with its place;
* `Parser.BlockedAt`: the first word of a stream with which a phrase cannot go on;
* `Parser.Precise`: readers that fail there.

## Main statements

* `Parser.fails_bind`: steps one after the other;
* `Parser.enter_precise`: the readers of every entry are precise.
-/

namespace AssignScript

open AssignScript.Parser

/-! ### Words with their places -/

namespace TokenStream

variable {s s₁ : TokenStream} {us vs : List PlacedToken} {found : Token} {position : Position}

/-- Behind some tokens of a stream stands a word, which starts at a place. -/
def Holds (s : TokenStream) (us : List PlacedToken) (found : Token) (position : Position) : Prop :=
  ∃ t behind, s.tokens = us ++ t :: behind ∧ t.token = found ∧ t.start = position

/-- What is taken next is held behind nothing. -/
theorem Holds.current (s : TokenStream) : s.Holds [] s.current.token s.current.start :=
  ⟨s.current, s.following, rfl, rfl, rfl⟩

/-- The first word is the one to be taken next. -/
theorem Holds.headD (h : s.Holds us found position) :
    (us.map PlacedToken.token).headD found = s.current.token := by
  obtain ⟨t, behind, htokens, rfl, -⟩ := h
  cases us with
  | nil => exact congrArg PlacedToken.token (List.head_eq_of_cons_eq htokens).symm
  | cons u us => exact congrArg PlacedToken.token (List.head_eq_of_cons_eq htokens).symm

theorem Takes.holds (h : s.Takes us s₁) (h' : s₁.Holds vs found position) :
    s.Holds (us ++ vs) found position := by
  obtain ⟨t, behind, htokens, htoken, hstart⟩ := h'
  refine ⟨t, behind, ?_, htoken, hstart⟩
  rw [h.tokens, htokens, List.append_assoc]

/-- Behind the tokens that were taken stands what is taken next. -/
theorem Takes.holds_current (h : s.Takes us s₁) : s.Holds us s₁.current.token s₁.current.start := by
  have hholds := h.holds (.current s₁)
  rwa [List.append_nil] at hholds

end TokenStream

namespace Parser

variable {α β : Type} {s s' : TokenStream} {err : ParseError}

/-! ### Steps -/

/-- A reader fails on a stream. -/
def Fails (p : Parser α) (s : TokenStream) (err : ParseError) : Prop := ∃ s', p.run s = .error err s'

/-- A reader that succeeds does not fail. -/
theorem Yields.not_fails {p : Parser α} {a : α} (h : p.Yields s a s') : ¬ p.Fails s err := by
  rintro ⟨s₁, herr⟩
  rw [Yields] at h
  rw [h] at herr
  cases herr

/-- A reader fails if its first step does, or if that succeeds and what follows fails. -/
theorem fails_bind {p : Parser α} {f : α → Parser β} :
    Fails (p >>= f) s err ↔ p.Fails s err ∨ ∃ a s', p.Yields s a s' ∧ (f a).Fails s' err := by
  simp only [Fails, Yields, EStateM.run_bind]
  cases p.run s with
  | ok a s' =>
    constructor
    · exact fun h => .inr ⟨a, s', rfl, h⟩
    · rintro (⟨_, hp⟩ | ⟨_, _, hp, h⟩)
      · cases hp
      · cases hp
        exact h
  | error e s' =>
    constructor
    · rintro ⟨_, h⟩
      cases h
      exact .inl ⟨_, rfl⟩
    · rintro (⟨_, h⟩ | ⟨_, _, hp, _⟩)
      · cases h
        exact ⟨_, rfl⟩
      · cases hp

/-- If what follows does not fail, the first step does. -/
theorem Fails.of_bind {p : Parser α} {f : α → Parser β} (h : Fails (p >>= f) s err)
    (hf : ∀ a s', ¬ (f a).Fails s' err) : p.Fails s err := by
  obtain h | ⟨a, s', -, h⟩ := fails_bind.1 h
  · exact h
  · exact absurd h (hf a s')

/-- Behind a step that succeeds, what follows decides. -/
theorem Yields.fails_bind {p : Parser α} {a : α} (h : p.Yields s a s') {f : α → Parser β} :
    Fails (p >>= f) s err ↔ (f a).Fails s' err := by
  rw [Parser.fails_bind]
  constructor
  · rintro (hp | ⟨_, _, hp, hf⟩)
    · exact absurd hp h.not_fails
    · obtain ⟨rfl, rfl⟩ := h.unique hp
      exact hf
  · exact fun hf => .inr ⟨a, s', h, hf⟩

@[simp] theorem not_fails_pure {a : α} : ¬ Fails (pure a) s err :=
  Yields.not_fails (yields_pure.2 ⟨rfl, rfl⟩)

@[simp] theorem not_fails_skip : ¬ skip.Fails s err := Yields.not_fails (yields_skip (u := ()).2 rfl)

@[simp] theorem not_fails_binary {op : BinaryOp} {left right : Expr} : ¬ (binary op left right).Fails s err :=
  Yields.not_fails (yields_binary.2 ⟨rfl, rfl⟩)

@[simp] theorem not_fails_unary {op : UnaryOp} {start : Position} {operand : Expr} :
    ¬ (unary op start operand).Fails s err :=
  Yields.not_fails (yields_unary.2 ⟨rfl, rfl⟩)

@[simp] theorem fails_peek_bind {f : Token → Parser β} :
    Fails (peek >>= f) s err ↔ (f s.current.token).Fails s err :=
  Yields.fails_bind (yields_peek.2 ⟨rfl, rfl⟩)

@[simp] theorem fails_here_bind {f : Position → Parser β} :
    Fails (here >>= f) s err ↔ (f s.current.start).Fails s err :=
  Yields.fails_bind (yields_here.2 ⟨rfl, rfl⟩)

@[simp] theorem fails_skip_bind {f : Unit → Parser β} :
    Fails (skip >>= f) s err ↔ (f ()).Fails s.advance err :=
  Yields.fails_bind (yields_skip.2 rfl)

@[simp] theorem fails_remaining_bind {f : Nat → Parser β} :
    Fails (remaining >>= f) s err ↔ (f s.words.length).Fails s err :=
  Yields.fails_bind (yields_remaining.2 ⟨rfl, rfl⟩)

@[simp] theorem fails_spanFrom_bind {start : Position} {f : Span → Parser β} :
    Fails (spanFrom start >>= f) s err ↔ (f (s.spanFrom start)).Fails s err :=
  Yields.fails_bind (yields_spanFrom.2 ⟨rfl, rfl⟩)

@[simp] theorem fails_binary_bind {op : BinaryOp} {left right : Expr} {f : Expr → Parser β} :
    Fails (binary op left right >>= f) s err ↔
      (f (.binary (s.spanBetween left.span.start right.span.stop) op left right)).Fails s err :=
  Yields.fails_bind (yields_binary.2 ⟨rfl, rfl⟩)

/-- Nothing that is built from what was read fails. -/
theorem not_fails_spanFrom_pure {start : Position} {g : Span → α} :
    ¬ Fails (spanFrom start >>= fun span => pure (g span)) s err := by
  rw [fails_spanFrom_bind]
  exact not_fails_pure

@[simp] theorem fails_throw {e : ParseError} : Fails (throw e : Parser α) s err ↔ err = e := by
  constructor
  · rintro ⟨_, h⟩
    cases h
    rfl
  · rintro rfl
    exact ⟨s, rfl⟩

@[simp] theorem fails_unexpected {expected : Expectation} :
    (Parser.unexpected expected : Parser α).Fails s err ↔
      err = .unexpectedToken expected s.current.token s.current.start := by
  rw [Parser.unexpected, fails_peek_bind, fails_here_bind, fails_throw]

/-- A word that must be there is missed at the word that stands in its place. -/
@[simp] theorem fails_expect {t : Token} :
    (expect t).Fails s err ↔ s.current.token ≠ t ∧
      err = .unexpectedToken (.token t) s.current.token s.current.start := by
  rw [expect, fails_peek_bind]
  split
  · next ht => simp only [not_fails_skip, ht, ne_eq, not_true, false_and]
  · next ht => simp only [fails_unexpected, ht, ne_eq, not_false_eq_true, true_and]

@[simp] theorem fails_expectIdentifier :
    expectIdentifier.Fails s err ↔ (∀ x, s.current.token ≠ .identifier x) ∧
      err = .unexpectedToken .identifier s.current.token s.current.start := by
  rw [expectIdentifier, fails_peek_bind]
  split
  · next x hx =>
    simp only [fails_skip_bind, not_fails_pure, false_iff]
    exact fun h => h.1 x hx
  · next hx =>
    rw [fails_unexpected]
    exact (and_iff_right fun x h => hx x h).symm

/-- A number that writes no constant is refused as a number, not as an unexpected word. -/
theorem fails_numberLiteral {digits : String} {start : Position}
    (h : (numberLiteral digits start).Fails s err) : err = .invalidNumber digits start := by
  unfold numberLiteral at h
  split at h
  · split at h
    · exact absurd h not_fails_pure
    · exact fails_throw.1 h
  · dsimp only at h
    split at h
    · exact absurd h not_fails_pure
    · exact fails_throw.1 h

/-! ### Readers -/

/-- Behind some tokens of a stream stands a word with which `R` cannot go on, at a place. -/
def BlockedAt (R : List Token → List Token → Prop) (s : TokenStream) (found : Token) (position : Position) :
    Prop :=
  ∃ us, s.Holds us found position ∧ Blocked R (us.map PlacedToken.token) found

/-- A word that decides what is read may have been taken before. -/
theorem BlockedAt.cons {R R' : List Token → List Token → Prop} {tok found : Token} {position : Position}
    (h : BlockedAt R s.advance found position) (hs : s.Ended) (htok : s.current.token = tok)
    (hne : tok ≠ .endOfInput) (hiff : ∀ w t, R' (tok :: w) t ↔ R w t) : BlockedAt R' s found position := by
  obtain ⟨us, hholds, hblocked⟩ := h
  refine ⟨s.current :: us, (hs.takes (htok ▸ hne)).holds hholds, ?_⟩
  rw [List.map_cons, htok]
  exact hblocked.cons hiff

/-- A reader that accepts phrases only, with what they are spelled by, and that fails at an unexpected word only
    if that word is the first with which its phrase cannot go on. -/
structure Precise (n : Nat) (X : Phrase) (p : Parser Expr) : Prop where
  sound : Sound n X p
  exact : Exact p
  blocked : ∀ s expected found position, s.Ended → p.Fails s (.unexpectedToken expected found position) →
    BlockedAt X.Leaves s found position

section Readers

variable {n : Nat} {expected : Expectation} {found : Token} {position : Position}

/-- What was read, the tokens that were taken for it, and that the next word may be followed by others. -/
theorem Precise.reads {X : Phrase} {p : Parser Expr} {e : Expr} (hp : Precise n X p) (hs : s.Ended)
    (h : p.Yields s e s') : ∃ us r, s.Takes us s' ∧ s'.Ended ∧
      Reads .lookahead X (us.map PlacedToken.token ++ s'.current.token :: r) e (s'.current.token :: r) := by
  obtain ⟨us, hus, -⟩ := hp.exact _ _ _ hs h
  obtain ⟨hs', hread, -⟩ := hp.sound _ _ _ hs h
  rw [hus.words] at hread
  exact ⟨us, _, hus, hs', hread⟩

/-- An expression with a word behind it that must be there, and then what `f` reads. -/
theorem fails_behind {p : Parser Expr} (hp : Precise n .expression p) {delimiter : Token}
    (hdelimiter : delimiter ≠ .endOfInput) (hclose : ∀ t, Closes (delimiter :: t))
    {R : List Token → List Token → Prop} (hR : ∃ v, ∀ t, Closes t → R (v ++ t) t) {f : Expr → Parser α}
    (hf : ∀ e s, s.Ended → (f e).Fails s (.unexpectedToken expected found position) →
      BlockedAt R s found position) (hs : s.Ended)
    (h : Fails (p >>= fun e => expect delimiter >>= fun _ => f e) s
      (.unexpectedToken expected found position)) :
    BlockedAt (Behind delimiter R) s found position := by
  simp only [fails_bind, fails_expect, yields_expect] at h
  obtain h | ⟨e, s₁, he, ⟨hne, ⟨⟩⟩ | ⟨_, _, ⟨hnext, rfl⟩, h⟩⟩ := h
  · obtain ⟨us, hholds, hblocked⟩ := hp.blocked _ _ _ _ hs h
    exact ⟨us, hholds, hblocked.inside hclose hR⟩
  · obtain ⟨us, _, hus, -, hread⟩ := hp.reads hs he
    exact ⟨us, hus.holds_current, .instead hread hne hclose hR⟩
  · obtain ⟨us, _, hus, hs₁, hread⟩ := hp.reads hs he
    have hne : s₁.current.token ≠ .endOfInput := hnext ▸ hdelimiter
    obtain ⟨vs, hholds, hblocked⟩ := hf e _ (hs₁.advance hne).2 h
    refine ⟨us ++ s₁.current :: vs, hus.holds ((hs₁.takes hne).holds hholds), ?_⟩
    rw [hnext] at hread
    rw [List.map_append, List.map_cons, hnext]
    exact .behind hread hblocked

/-- A choice from behind its first word. -/
theorem conditional_blocked {nested : Entry → Parser Expr} (hn : Precise n .expression (nested .expression))
    {start : Position} (hs : s.Ended)
    (h : (conditional nested start).Fails s (.unexpectedToken expected found position)) :
    BlockedAt (Behind (.keyword .thenWord) (Behind (.keyword .elseWord) Phrase.expression.Leaves))
      s found position := by
  refine fails_behind hn (by decide) .thenWord ?_ (fun _ s hs h => ?_) hs h
  · exact ⟨[.keyword .null, .keyword .elseWord, .keyword .null], fun t ht =>
      ⟨_, leaves_null (.elseWord _), leaves_null ht⟩⟩
  refine fails_behind hn (by decide) .elseWord ⟨[.keyword .null], fun t ht => leaves_null ht⟩
    (fun _ s hs h => ?_) hs h
  exact hn.blocked _ _ _ _ hs (h.of_bind fun _ _ => not_fails_spanFrom_pure)

/-- The loop over the operators of a level fails behind an operator, whatever stands in front of that. -/
theorem chainFrom_blocked {l : Level} {operand : Parser Expr} (ho : Precise n l.operand operand) (fuel : Nat) :
    ∀ s left, s.Ended →
      (chainFrom l.operator? operand fuel left).Fails s (.unexpectedToken expected found position) →
      ∃ us, s.Holds (s.current :: us) found position ∧
        ∀ left, (Phrase.more l left).Blocked (s.current.token :: us.map PlacedToken.token) found := by
  induction fuel with
  | zero =>
    intro s left _ h
    exact absurd h not_fails_pure
  | succ fuel ih =>
    intro s left hs h
    simp only [chainFrom, monadLift_self, fails_peek_bind] at h
    split at h
    · exact absurd h not_fails_pure
    · next op hop =>
      have hop := Level.operator?_eq_some.1 hop
      have htakes := hs.takes hop.ne_endOfInput
      obtain ⟨-, hs₁⟩ := hs.advance hop.ne_endOfInput
      obtain h | ⟨right, s₂, hright, h⟩ := fails_bind.1 (fails_skip_bind.1 h)
      · obtain ⟨us, hholds, hblocked⟩ := ho.blocked _ _ _ _ hs₁ h
        exact ⟨us, htakes.holds hholds, blocked_join hop hblocked⟩
      · obtain ⟨us, _, hus, hs₂, hread⟩ := ho.reads hs₁ hright
        obtain ⟨vs, hholds, hblocked⟩ := ih _ _ hs₂ (fails_binary_bind.1 h)
        refine ⟨us ++ s₂.current :: vs, (htakes.trans hus).holds hholds, ?_⟩
        rw [List.map_append, List.map_cons]
        exact blocked_join_more hop hread hblocked

theorem chain_precise {l : Level} {operand : Parser Expr} (ho : Precise n l.operand operand) :
    Precise n (.chain l) (chain l.operator? operand) where
  sound := chain_sound ho.sound
  exact := chain_exact ho.sound ho.exact
  blocked s expected found position hs h := by
    obtain h | ⟨left, s₁, hleft, h⟩ := fails_bind.1 h
    · obtain ⟨us, hholds, hblocked⟩ := ho.blocked _ _ _ _ hs h
      exact ⟨us, hholds, blocked_chain_first hblocked⟩
    · obtain ⟨us, _, hus, hs₁, hread⟩ := ho.reads hs hleft
      obtain ⟨vs, hholds, hblocked⟩ := chainFrom_blocked ho _ _ _ hs₁ (fails_remaining_bind.1 h)
      refine ⟨us ++ s₁.current :: vs, hus.holds hholds, ?_⟩
      rw [List.map_append, List.map_cons]
      exact blocked_chain_more hread hblocked

variable {nested : Entry → Parser Expr} (hn : ∀ entry, Precise n entry.phrase (nested entry))

include hn in
theorem argument_precise : Precise (n + 1) .argument (argument nested) where
  sound s e s' hs h := by
    obtain ⟨hs', hread, hnest⟩ := argument_sound (fun entry => (hn entry).sound) hs h
    refine ⟨hs', hread, ?_⟩
    rcases e.omitted_or_given with ⟨span, rfl⟩ | hgiven
    · exact Nat.succ_pos n
    · rw [Expr.nestArgs, hgiven] at hnest
      exact Nat.lt_succ_of_lt (Nat.le_trans (Nat.le_max_left _ _) hnest)
  exact := argument_exact fun entry => (hn entry).exact
  blocked s expected found position hs h := by
    simp only [argument, monadLift_self, fails_peek_bind] at h
    split at h
    · simp only [fails_here_bind, fails_skip_bind, fails_spanFrom_bind, not_fails_pure] at h
    · next homitted =>
      obtain ⟨us, hholds, hblocked⟩ := (hn .expression).blocked _ _ _ _ hs h
      exact ⟨us, hholds, blocked_given hblocked (hholds.headD ▸ homitted)⟩

/-- Where arguments and the parenthesis that closes them fail: in the first argument, or behind it, where a comma
    decides whether more follow. -/
theorem fails_closedArguments {fuel : Nat}
    (h : Fails (argumentsWithin nested (fuel + 1) >>= fun _ => expect (.mark .rightParen)) s err) :
    (argument nested).Fails s err ∨ ∃ first s₁, (argument nested).Yields s first s₁ ∧
      ((s₁.current.token = .mark .comma ∧
        Fails (argumentsWithin nested fuel >>= fun _ => expect (.mark .rightParen)) s₁.advance err) ∨
      (s₁.current.token ≠ .mark .comma ∧ (expect (.mark .rightParen)).Fails s₁ err)) := by
  simp only [argumentsWithin, monadLift_self] at h
  rw [bind_assoc, fails_bind] at h
  refine h.imp_right ?_
  rintro ⟨first, s₁, hfirst, h⟩
  refine ⟨first, s₁, hfirst, ?_⟩
  rw [bind_assoc, fails_peek_bind] at h
  by_cases hcomma : s₁.current.token = .mark .comma
  · rw [if_pos hcomma, bind_assoc, fails_skip_bind, bind_assoc] at h
    simp only [pure_bind] at h
    exact .inl ⟨hcomma, h⟩
  · rw [if_neg hcomma, pure_bind] at h
    exact .inr ⟨hcomma, h⟩

include hn in
/-- The loop over arguments, with the parenthesis that closes them. -/
theorem closedArguments_blocked (name : String) (fuel : Nat) : ∀ s, s.Ended → s.words.length ≤ fuel →
    Fails (argumentsWithin nested fuel >>= fun _ => expect (.mark .rightParen)) s
      (.unexpectedToken expected found position) →
    ∃ us, s.Holds us found position ∧
      ∀ before, (Phrase.arguments name before).Blocked (us.map PlacedToken.token) found := by
  have ha := argument_precise hn
  induction fuel with
  | zero =>
    intro s _ hfuel
    exact absurd hfuel s.not_words_length_le_zero
  | succ fuel ih =>
    intro s hs hfuel h
    obtain h | ⟨first, s₁, hfirst, h⟩ := fails_closedArguments h
    · obtain ⟨us, hholds, hblocked⟩ := ha.blocked _ _ _ _ hs h
      exact ⟨us, hholds, fun before => blocked_arguments_first hblocked⟩
    obtain ⟨us, _, hus, hs₁, hread⟩ := ha.reads hs hfirst
    rcases h with ⟨hcomma, h⟩ | ⟨hcomma, h⟩
    · have hne : s₁.current.token ≠ .endOfInput := by rw [hcomma]; decide
      obtain ⟨hwords, hs₂⟩ := hs₁.advance hne
      -- The argument and the comma take words, so the fuel lasts for the others.
      have hlength : s₁.advance.words.length ≤ fuel := by
        have hsum := congrArg List.length hus.words
        rw [hwords, List.length_append, List.length_cons] at hsum
        omega
      obtain ⟨vs, hholds, hblocked⟩ := ih _ hs₂ hlength h
      refine ⟨us ++ s₁.current :: vs, hus.holds ((hs₁.takes hne).holds hholds), fun before => ?_⟩
      rw [hcomma] at hread
      rw [List.map_append, List.map_cons, hcomma]
      exact blocked_arguments_next hread hblocked
    · obtain ⟨hclose, ⟨⟩⟩ := fails_expect.1 h
      exact ⟨us, hus.holds_current, fun before => blocked_arguments_close hread hcomma hclose⟩

include hn in
/-- A name that was taken, with the call that may follow it. -/
theorem named_blocked {name : String} {start : Position} (hs : s.Ended)
    (h : (named nested name start).Fails s (.unexpectedToken expected found position)) :
    ∃ us, s.Holds us found position ∧
      Phrase.primary.Blocked (.identifier name :: us.map PlacedToken.token) found := by
  simp only [named, monadLift_self, fails_peek_bind] at h
  split at h
  · next htok =>
    have hne : s.current.token ≠ .endOfInput := by rw [htok]; decide
    obtain ⟨-, hs₁⟩ := hs.advance hne
    replace h : Fails (arguments nested >>= fun _ => expect (.mark .rightParen)) s.advance
        (.unexpectedToken expected found position) := by
      obtain h | ⟨args, s₁, hargs, h⟩ := fails_bind.1 (fails_skip_bind.1 h)
      · exact fails_bind.2 (.inl h)
      · exact fails_bind.2 (.inr ⟨args, s₁, hargs, h.of_bind fun _ _ => not_fails_spanFrom_pure⟩)
    simp only [arguments, monadLift_self] at h
    rw [bind_assoc, fails_peek_bind] at h
    by_cases hclose : s.advance.current.token = .mark .rightParen
    · rw [if_pos hclose, pure_bind, fails_expect] at h
      exact absurd hclose h.1
    · rw [if_neg hclose, bind_assoc, fails_remaining_bind] at h
      obtain ⟨us, hholds, hblocked⟩ := closedArguments_blocked hn name _ _ hs₁ (Nat.le_refl _) h
      refine ⟨s.current :: us, (hs.takes hne).holds hholds, ?_⟩
      rw [List.map_cons, htok]
      exact blocked_call (hblocked []) (hholds.headD ▸ hclose)
  · simp only [fails_spanFrom_bind, not_fails_pure] at h

include hn

theorem primary_precise : Precise (n + 1) .primary (primary nested) where
  sound := primary_sound fun entry => (hn entry).sound
  exact := primary_exact (fun entry => (hn entry).sound) fun entry => (hn entry).exact
  blocked s expected found position hs h := by
    simp only [primary, monadLift_self, fails_here_bind, fails_peek_bind] at h
    split at h
    · cases fails_numberLiteral ((fails_skip_bind.1 h).of_bind fun _ _ => not_fails_spanFrom_pure)
    iterate 4
      · simp only [fails_skip_bind, fails_spanFrom_bind, not_fails_pure] at h
    · next name htok =>
      have hne : s.current.token ≠ .endOfInput := by
        rw [htok]
        intro h
        cases h
      obtain ⟨us, hholds, hblocked⟩ := named_blocked hn (hs.advance hne).2 (fails_skip_bind.1 h)
      refine ⟨s.current :: us, (hs.takes hne).holds hholds, ?_⟩
      rwa [List.map_cons, htok]
    · next htok =>
      have hinside : BlockedAt (Behind (.mark .rightParen) Eq) s.advance found position := by
        refine fails_behind (hn .expression) (by decide) .rightParen ⟨[], fun _ _ => rfl⟩ (fun _ _ _ h => ?_)
          (hs.advance (by rw [htok]; decide)).2 (fails_skip_bind.1 h)
        exact absurd h not_fails_spanFrom_pure
      exact hinside.cons hs htok (by decide) fun w t => leaves_parens
    · next htok =>
      have hbehind := conditional_blocked (hn .expression) (hs.advance (by rw [htok]; decide)).2
        (fails_skip_bind.1 h)
      exact hbehind.cons hs htok (by decide) fun w t => leaves_conditional
    · cases fails_unexpected.1 h
      refine ⟨[], .current s, blocked_primary ?_⟩
      intro hrank
      unfold Token.rank at hrank
      split at hrank <;> simp_all

theorem signed_precise : Precise (n + 1) .signed (signed nested) where
  sound := signed_sound fun entry => (hn entry).sound
  exact := signed_exact (fun entry => (hn entry).sound) fun entry => (hn entry).exact
  blocked s expected found position hs h := by
    simp only [signed, monadLift_self, fails_peek_bind] at h
    split at h
    · next op hop =>
      have hop := sign?_eq_some.1 hop
      have h := (fails_skip_bind.1 (fails_here_bind.1 h)).of_bind fun _ _ => not_fails_unary
      have hoperand := (hn .signed).blocked _ _ _ _ (hs.advance hop.ne_endOfInput).2 h
      exact hoperand.cons hs rfl hop.ne_endOfInput fun w t => leaves_sign hop
    · next hnone =>
      obtain ⟨us, hholds, hblocked⟩ := (primary_precise hn).blocked _ _ _ _ hs h
      refine ⟨us, hholds, blocked_unsigned hblocked fun op hop => ?_⟩
      rw [hholds.headD, ← sign?_eq_some, hnone] at hop
      cases hop

theorem additive_precise : Precise (n + 1) (.chain .additive) (additive nested) :=
  have hmultiplicative : Precise (n + 1) (.chain .multiplicative) (multiplicative nested) :=
    chain_precise (l := .multiplicative) (signed_precise hn)
  chain_precise (l := .additive) hmultiplicative

theorem comparison_precise : Precise (n + 1) .comparison (comparison nested) where
  sound := comparison_sound fun entry => (hn entry).sound
  exact := comparison_exact (fun entry => (hn entry).sound) fun entry => (hn entry).exact
  blocked s expected found position hs h := by
    obtain h | ⟨left, s₁, hleft, h⟩ := fails_bind.1 h
    · obtain ⟨us, hholds, hblocked⟩ := (additive_precise hn).blocked _ _ _ _ hs h
      exact ⟨us, hholds, blocked_comparison_left hblocked⟩
    simp only [monadLift_self, fails_peek_bind] at h
    split at h
    · exact absurd h not_fails_pure
    · next op hop =>
      have h := (fails_skip_bind.1 h).of_bind fun _ _ => not_fails_binary
      have hop := comparative?_eq_some.1 hop
      obtain ⟨us, _, hus, hs₁, hread⟩ := (additive_precise hn).reads hs hleft
      obtain ⟨vs, hholds, hblocked⟩ :=
        (additive_precise hn).blocked _ _ _ _ (hs₁.advance hop.ne_endOfInput).2 h
      refine ⟨us ++ s₁.current :: vs, hus.holds ((hs₁.takes hop.ne_endOfInput).holds hholds), ?_⟩
      rw [List.map_append, List.map_cons]
      exact blocked_comparison_right hread hop hblocked

theorem negated_precise : Precise (n + 1) .negated (negated nested) where
  sound := negated_sound fun entry => (hn entry).sound
  exact := negated_exact (fun entry => (hn entry).sound) fun entry => (hn entry).exact
  blocked s expected found position hs h := by
    simp only [negated, monadLift_self, fails_peek_bind] at h
    split at h
    · next htok =>
      have h := (fails_skip_bind.1 (fails_here_bind.1 h)).of_bind fun _ _ => not_fails_unary
      have hoperand := (hn .negated).blocked _ _ _ _ (hs.advance (by rw [htok]; decide)).2 h
      exact hoperand.cons hs htok (by decide) fun w t => leaves_not
    · next hnot =>
      obtain ⟨us, hholds, hblocked⟩ := (comparison_precise hn).blocked _ _ _ _ hs h
      exact ⟨us, hholds, blocked_plain hblocked (hholds.headD ▸ hnot)⟩

theorem disjunctive_precise : Precise (n + 1) .expression (disjunctive nested) :=
  have hconjunctive : Precise (n + 1) (.chain .conjunctive) (conjunctive nested) :=
    chain_precise (l := .conjunctive) (negated_precise hn)
  chain_precise (l := .disjunctive) hconjunctive

end Readers

/-- The readers of every entry fail at the first word with which their phrase cannot go on. -/
theorem enter_precise (limit room : Nat) (entry : Entry) : Precise room entry.phrase (enter limit room entry) := by
  induction room generalizing entry with
  | zero =>
    refine ⟨enter_sound limit 0 entry, enter_exact limit 0 entry, fun s _ _ _ _ h => ?_⟩
    -- Where no level is left, the words do not matter.
    cases fails_throw.1 (fails_here_bind.1 h)
  | succ room ih =>
    cases entry with
    | expression => exact disjunctive_precise ih
    | negated => exact negated_precise ih
    | signed => exact signed_precise ih

end Parser

end AssignScript
