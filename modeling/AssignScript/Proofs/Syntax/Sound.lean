import AssignScript.Proofs.Syntax.Grammar
import AssignScript.Proofs.Syntax.Run

/-!
# The parser reads the grammar

Whatever a reader of the parser accepts is a phrase of the grammar in which a look at the next word decides
where phrases end, and it nests no deeper than the levels that are left allow.

## Main definitions

* `Level.operator?`, `Parser.Entry.phrase`: the parser's names for what the grammar is about;
* `Parser.Sound`: readers that accept phrases only.

## Main statements

* `Parser.enter_sound`: so do the readers of every entry.
-/

namespace AssignScript

open AssignScript.Parser

/-! ### Words -/

/-- The parser's test for an operator of a level. -/
def Level.operator? : Level → Token → Option BinaryOp
  | .disjunctive => disjunctive?
  | .conjunctive => conjunctive?
  | .additive => additive?
  | .multiplicative => multiplicative?

theorem Level.operator?_eq_some {l : Level} {tok : Token} {op : BinaryOp} :
    l.operator? tok = some op ↔ l.Joins tok op := by
  constructor
  · intro h
    cases l <;> simp only [operator?, disjunctive?, conjunctive?, additive?, multiplicative?] at h <;>
      split at h <;> cases h <;> constructor
  · rintro ⟨⟩ <;> rfl

theorem comparative?_eq_some {tok : Token} {op : BinaryOp} :
    comparative? tok = some op ↔ Compares tok op := by
  constructor
  · intro h
    unfold comparative? at h
    split at h <;> cases h <;> constructor
  · rintro ⟨⟩ <;> rfl

theorem sign?_eq_some {tok : Token} {op : UnaryOp} : sign? tok = some op ↔ Signs tok op := by
  constructor
  · intro h
    unfold sign? at h
    split at h <;> cases h <;> constructor
  · rintro ⟨⟩ <;> rfl

/-- Where there is no operator of a level, operators of the level stop repeating. -/
theorem Level.lookahead_chain {l : Level} {tok : Token} (h : l.operator? tok = none) :
    Seams.lookahead.chain l (some tok) := by
  intro tok' htok' op hop
  cases htok'
  rw [operator?_eq_some.2 hop] at h
  cases h

theorem lookahead_operand {tok : Token} (h : comparative? tok = none) :
    Seams.lookahead.operand (some tok) := by
  intro tok' htok' op hop
  cases htok'
  rw [comparative?_eq_some.2 hop] at h
  cases h

theorem Level.Joins.ne_endOfInput {l : Level} {tok : Token} {op : BinaryOp} (h : l.Joins tok op) :
    tok ≠ .endOfInput := by
  cases h <;> decide

theorem Compares.ne_endOfInput {tok : Token} {op : BinaryOp} (h : Compares tok op) :
    tok ≠ .endOfInput := by
  cases h <;> decide

theorem Signs.ne_endOfInput {tok : Token} {op : UnaryOp} (h : Signs tok op) :
    tok ≠ .endOfInput := by
  cases h <;> decide

theorem isWhole_iff (digits : String) :
    IsWhole digits ↔ digits.toList.any (fun c => c == '.' || c == 'e' || c == 'E') = false := by
  simp only [IsWhole, List.any_eq_false, Bool.or_eq_true, beq_iff_eq, not_or, and_assoc]

/-- What digits only write. -/
theorem writes_of_isWhole {digits : String} {v : Literal} (h : IsWhole digits) :
    Writes (.number digits) v ↔ Decimal.digitsValue digits.toList ≤ 2 ^ 63 - 1 ∧
      v = .integer (.ofNat (Decimal.digitsValue digits.toList)) := by
  constructor
  · intro hv
    cases hv with
    | integer _ hmax => exact ⟨hmax, rfl⟩
    | number hpart _ => exact absurd h hpart
  · rintro ⟨hmax, rfl⟩
    exact .integer h hmax

/-- What a number with a point or an exponent writes. -/
theorem writes_of_not_isWhole {digits : String} {v : Literal} (h : ¬ IsWhole digits) :
    Writes (.number digits) v ↔ ∃ x, Decimal.readFloat? digits = some x ∧ v = .number x := by
  constructor
  · intro hv
    cases hv with
    | integer hwhole _ => exact absurd hwhole h
    | number _ hx => exact ⟨_, hx, rfl⟩
  · rintro ⟨x, hx, rfl⟩
    exact .number h hx

/-- The parser reads a number as the constant that it writes, if it writes one. -/
theorem yields_numberLiteral {digits : String} {start : Position} {v : Literal}
    {s s' : TokenStream} :
    (numberLiteral digits start).Yields s v s' ↔ Writes (.number digits) v ∧ s' = s := by
  have hmax : ∀ n : Nat, (n : Int) ≤ Int64.maxValue.toInt ↔ n ≤ 2 ^ 63 - 1 := by
    intro n
    have hvalue : Int64.maxValue.toInt = 2 ^ 63 - 1 := by decide
    omega
  unfold numberLiteral
  split
  · next hany =>
    have hpart : ¬ IsWhole digits := fun h => by
      rw [(isWhole_iff digits).1 h] at hany
      cases hany
    rw [writes_of_not_isWhole hpart]
    cases Decimal.readFloat? digits with
    | some x => simp only [yields_pure, Option.some.injEq, exists_eq_left']
    | none => simp only [yields_throw, reduceCtorEq, false_and, exists_false]
  · next hany =>
    have hwhole : IsWhole digits := (isWhole_iff digits).2 (Bool.not_eq_true _ ▸ hany)
    rw [writes_of_isWhole hwhole]
    simp only [hmax]
    split
    · next hle => simp only [yields_pure, hle, true_and, Int64.ofInt_eq_ofNat]
    · next hle => simp only [yields_throw, hle, false_and]

/-! ### Readers -/

namespace Parser

/-- Where an entry begins. -/
def Entry.phrase : Entry → Phrase
  | .expression => .expression
  | .negated => .negated
  | .signed => .signed

/-- A reader that accepts phrases of the grammar only, and such that nest less than a number of times. -/
def Sound (n : Nat) (X : Phrase) (p : Parser Expr) : Prop :=
  ∀ s e s', s.Ended → p.Yields s e s' →
    s'.Ended ∧ Reads .lookahead X s.words e s'.words ∧ e.nest < n

section Readers

variable {n : Nat} {nested : Entry → Parser Expr}

/-- The loop over the operators of a level, as long as its fuel lasts for all words. -/
theorem chainFrom_sound {l : Level} {operand : Parser Expr} (ho : Sound n l.operand operand)
    (fuel : Nat) : ∀ s left e s', s.Ended → s.words.length ≤ fuel → left.nest < n →
      (chainFrom l.operator? operand fuel left).Yields s e s' →
      s'.Ended ∧ Reads .lookahead (.more l left) s.words e s'.words ∧ e.nest < n := by
  -- The fuel counts words, so it lasts as long as there are any.
  induction fuel with
  | zero =>
    intro s left e s' _ hfuel
    exact absurd hfuel s.not_words_length_le_zero
  | succ fuel ih =>
    intro s left e s' hs hfuel hleft h
    simp only [chainFrom, monadLift_self, yields_peek_bind] at h
    split at h
    · next hnone =>
      obtain ⟨rfl, rfl⟩ := yields_pure.1 h
      exact ⟨hs, .stop (Level.lookahead_chain hnone), hleft⟩
    · next op hop =>
      simp only [yields_bind, yields_skip, yields_binary] at h
      obtain ⟨_, _, rfl, right, _, hright, _, s₂, ⟨rfl, rfl⟩, h⟩ := h
      have hop := Level.operator?_eq_some.1 hop
      obtain ⟨hwords, hs₁⟩ := hs.advance hop.ne_endOfInput
      obtain ⟨hs₂, hread, hnest⟩ := ho _ _ _ hs₁ hright
      -- The operator and its operand leave fewer words, so the fuel lasts.
      obtain ⟨w, hw⟩ := hread.split
      have hlength : s₂.words.length ≤ fuel := by
        have := congrArg List.length hwords
        have := congrArg List.length hw
        simp only [List.length_cons, List.length_append] at *
        omega
      obtain ⟨hs', hmore, he⟩ := ih _ _ _ _ hs₂ hlength
        (by rw [Expr.nest]; exact Nat.max_lt.2 ⟨hleft, hnest⟩) h
      refine ⟨hs', ?_, he⟩
      rw [hwords]
      exact .join _ hop hread hmore

theorem chain_sound {l : Level} {operand : Parser Expr} (ho : Sound n l.operand operand) :
    Sound n (.chain l) (chain l.operator? operand) := by
  intro s e s' hs h
  simp only [chain, monadLift_self, yields_bind, yields_remaining] at h
  obtain ⟨left, s₁, hleft, _, _, ⟨rfl, rfl⟩, h⟩ := h
  obtain ⟨hs₁, hfirst, hnest⟩ := ho _ _ _ hs hleft
  obtain ⟨hs', hmore, he⟩ := chainFrom_sound ho _ _ _ _ _ hs₁ (Nat.le_refl _) hnest h
  exact ⟨hs', .chain hfirst hmore, he⟩

theorem argument_sound (hn : ∀ entry, Sound n entry.phrase (nested entry)) {s s' : TokenStream}
    {e : Expr} (hs : s.Ended) (h : (argument nested).Yields s e s') :
    s'.Ended ∧ Reads .lookahead .argument s.words e s'.words ∧ Expr.nestArgs [e] ≤ n := by
  simp only [argument, monadLift_self, yields_peek_bind] at h
  split at h
  · next htok =>
    simp only [yields_bind, yields_here, yields_skip, yields_spanFrom, yields_pure] at h
    obtain ⟨_, _, ⟨rfl, rfl⟩, _, _, rfl, _, _, ⟨rfl, rfl⟩, rfl, rfl⟩ := h
    obtain ⟨hwords, hs'⟩ := hs.advance (by rw [htok]; decide)
    refine ⟨hs', ?_, Nat.zero_le _⟩
    rw [hwords, htok]
    exact .omitted _ _
  · obtain ⟨hs', hread, hnest⟩ := hn .expression _ _ _ hs h
    refine ⟨hs', .given hread, ?_⟩
    rw [Expr.nestArgs, Expr.nestArgs]
    split <;> omega

/-- The loop over arguments, as long as its fuel lasts for all words. -/
theorem argumentsWithin_sound (hn : ∀ entry, Sound n entry.phrase (nested entry)) (fuel : Nat) :
    ∀ s args s', s.Ended → s.words.length ≤ fuel →
      (argumentsWithin nested fuel).Yields s args s' →
      s'.Ended ∧ Expr.nestArgs args ≤ n ∧ ∀ x before span t, s'.words = .mark .rightParen :: t →
        Reads .lookahead (.arguments x before) s.words (.call span x (before ++ args)) t := by
  induction fuel with
  | zero =>
    intro s args s' _ hfuel
    exact absurd hfuel s.not_words_length_le_zero
  | succ fuel ih =>
    intro s args s' hs hfuel h
    simp only [argumentsWithin, monadLift_self, yields_bind, yields_peek] at h
    obtain ⟨first, _, hfirst, _, s₁, ⟨rfl, rfl⟩, h⟩ := h
    obtain ⟨hs₁, hread, hnest⟩ := argument_sound hn hs hfirst
    split at h
    · next htok =>
      simp only [yields_bind, yields_skip, yields_pure] at h
      obtain ⟨_, _, rfl, rest, _, hrest, rfl, rfl⟩ := h
      obtain ⟨hwords, hs₂⟩ := hs₁.advance (by rw [htok]; decide)
      obtain ⟨w, hw⟩ := hread.split
      have hlength : s₁.advance.words.length ≤ fuel := by
        have := congrArg List.length hwords
        have := congrArg List.length hw
        simp only [List.length_cons, List.length_append] at *
        omega
      obtain ⟨hs', hargs, hreads⟩ := ih _ _ _ hs₂ hlength hrest
      refine ⟨hs', ?_, fun x before span t ht => ?_⟩
      · rw [← List.singleton_append, Expr.nestArgs_append]
        exact Nat.max_le.2 ⟨hnest, hargs⟩
      · have hrest := hreads x (before ++ [first]) span t ht
        rw [List.append_assoc, List.singleton_append] at hrest
        rw [hwords, htok] at hread
        exact .nextArgument hread hrest
    · obtain ⟨rfl, rfl⟩ := yields_pure.1 h
      refine ⟨hs₁, hnest, fun x before span t ht => ?_⟩
      rw [ht] at hread
      exact .lastArgument span hread

/-- A name that was taken, with the call that may follow it. -/
theorem named_sound (hn : ∀ entry, Sound n entry.phrase (nested entry)) {x : String}
    {start : Position} {s s' : TokenStream} {e : Expr} (hs : s.Ended)
    (h : (named nested x start).Yields s e s') :
    s'.Ended ∧ Reads .lookahead .primary (.identifier x :: s.words) e s'.words ∧ e.nest ≤ n := by
  simp only [named, monadLift_self, yields_peek_bind] at h
  split at h
  · next htok =>
    simp only [arguments, monadLift_self, yields_bind, yields_skip, yields_peek, yields_expect, yields_spanFrom,
      yields_pure] at h
    obtain ⟨_, _, rfl, args, s₁, ⟨_, _, ⟨rfl, rfl⟩, h⟩, _, _, ⟨hclose, rfl⟩, _, _, ⟨rfl, rfl⟩,
      rfl, rfl⟩ := h
    obtain ⟨hwords, hs₁⟩ := hs.advance (by rw [htok]; decide)
    rw [hwords, htok]
    split at h
    · next hempty =>
      obtain ⟨rfl, rfl⟩ := yields_pure.1 h
      obtain ⟨hwords', hs'⟩ := hs₁.advance (by rw [hempty]; decide)
      rw [hwords', hempty]
      exact ⟨hs', .emptyCall _ _ _, Nat.zero_le _⟩
    · simp only [yields_bind, yields_remaining] at h
      obtain ⟨_, _, ⟨rfl, rfl⟩, h⟩ := h
      obtain ⟨hs₂, hargs, hreads⟩ := argumentsWithin_sound hn _ _ _ _ hs₁ (Nat.le_refl _) h
      obtain ⟨hwords', hs'⟩ := hs₂.advance (by rw [hclose]; decide)
      rw [hclose] at hwords'
      exact ⟨hs', .call (hreads x [] _ _ hwords'), hargs⟩
  · next htok =>
    simp only [yields_bind, yields_spanFrom, yields_pure] at h
    obtain ⟨_, _, ⟨rfl, rfl⟩, rfl, rfl⟩ := h
    refine ⟨hs, .name _ ?_, Nat.zero_le _⟩
    rw [TokenStream.head?_words]
    exact fun hparen => htok (Option.some.inj hparen)

/-- A choice from behind its first word. -/
theorem conditional_sound (hn : ∀ entry, Sound n entry.phrase (nested entry)) {start : Position}
    {s s' : TokenStream} {e : Expr} (hs : s.Ended)
    (h : (conditional nested start).Yields s e s') :
    s'.Ended ∧ Reads .lookahead .primary (.keyword .ifWord :: s.words) e s'.words ∧ e.nest ≤ n := by
  simp only [conditional, monadLift_self, yields_bind, yields_expect, yields_spanFrom, yields_pure] at h
  obtain ⟨c, s₁, hc, _, _, ⟨hthen, rfl⟩, a, s₂, ha, _, _, ⟨helse, rfl⟩, b, s₃, hb, _, _, ⟨rfl, rfl⟩,
    rfl, rfl⟩ := h
  obtain ⟨hs₁, hcondition, hnestc⟩ := hn .expression _ _ _ hs hc
  obtain ⟨hwords₁, hs₁⟩ := hs₁.advance (by rw [hthen]; decide)
  obtain ⟨hs₂, hfirst, hnesta⟩ := hn .expression _ _ _ hs₁ ha
  obtain ⟨hwords₂, hs₂⟩ := hs₂.advance (by rw [helse]; decide)
  obtain ⟨hs₃, hsecond, hnestb⟩ := hn .expression _ _ _ hs₂ hb
  rw [hwords₁, hthen] at hcondition
  rw [hwords₂, helse] at hfirst
  refine ⟨hs₃, .conditional _ hcondition hfirst hsecond trivial, ?_⟩
  rw [Expr.nest]
  omega

theorem primary_sound (hn : ∀ entry, Sound n entry.phrase (nested entry)) :
    Sound (n + 1) .primary (primary nested) := by
  intro s e s' hs h
  simp only [primary, monadLift_self, yields_bind, yields_here, yields_peek] at h
  obtain ⟨_, _, ⟨rfl, rfl⟩, _, s, ⟨rfl, rfl⟩, h⟩ := h
  -- A constant is one word.
  have hliteral : ∀ {tok : Token} {v : Literal} {span : Span}, s.current.token = tok →
      Writes tok v → tok ≠ .endOfInput → s.advance.Ended ∧
      Reads .lookahead .primary s.words (.literal span v) s.advance.words ∧ 0 < n + 1 := by
    intro tok v span htok hv hne
    obtain ⟨hwords, hs'⟩ := hs.advance (htok ▸ hne)
    rw [hwords, htok]
    exact ⟨hs', .literal span _ hv, Nat.succ_pos n⟩
  split at h
  · next htok =>
    simp only [yields_bind, yields_skip, yields_numberLiteral, yields_spanFrom, yields_pure] at h
    obtain ⟨_, _, rfl, v, _, ⟨hv, rfl⟩, _, _, ⟨rfl, rfl⟩, rfl, rfl⟩ := h
    exact hliteral htok hv (by simp)
  · next htok =>
    simp only [yields_bind, yields_skip, yields_spanFrom, yields_pure] at h
    obtain ⟨_, _, rfl, _, _, ⟨rfl, rfl⟩, rfl, rfl⟩ := h
    exact hliteral htok (.string _) (by simp)
  · next htok =>
    simp only [yields_bind, yields_skip, yields_spanFrom, yields_pure] at h
    obtain ⟨_, _, rfl, _, _, ⟨rfl, rfl⟩, rfl, rfl⟩ := h
    exact hliteral htok .true (by simp)
  · next htok =>
    simp only [yields_bind, yields_skip, yields_spanFrom, yields_pure] at h
    obtain ⟨_, _, rfl, _, _, ⟨rfl, rfl⟩, rfl, rfl⟩ := h
    exact hliteral htok .false (by simp)
  · next htok =>
    simp only [yields_bind, yields_skip, yields_spanFrom, yields_pure] at h
    obtain ⟨_, _, rfl, _, _, ⟨rfl, rfl⟩, rfl, rfl⟩ := h
    exact hliteral htok .null (by simp)
  · next htok =>
    simp only [yields_bind, yields_skip] at h
    obtain ⟨_, _, rfl, h⟩ := h
    obtain ⟨hwords, hs₁⟩ := hs.advance (by rw [htok]; simp)
    obtain ⟨hs', hread, hnest⟩ := named_sound hn hs₁ h
    rw [hwords, htok]
    exact ⟨hs', hread, Nat.lt_succ_of_le hnest⟩
  · next htok =>
    simp only [yields_bind, yields_skip, yields_expect, yields_spanFrom, yields_pure] at h
    obtain ⟨_, _, rfl, inner, s₁, hinner, _, _, ⟨hclose, rfl⟩, _, _, ⟨rfl, rfl⟩, rfl, rfl⟩ := h
    obtain ⟨hwords, hs₁⟩ := hs.advance (by rw [htok]; decide)
    obtain ⟨hs₂, hread, hnest⟩ := hn .expression _ _ _ hs₁ hinner
    obtain ⟨hwords', hs'⟩ := hs₂.advance (by rw [hclose]; decide)
    rw [hwords', hclose] at hread
    rw [hwords, htok]
    exact ⟨hs', .parens _ hread, Nat.succ_lt_succ hnest⟩
  · next htok =>
    simp only [yields_bind, yields_skip] at h
    obtain ⟨_, _, rfl, h⟩ := h
    obtain ⟨hwords, hs₁⟩ := hs.advance (by rw [htok]; decide)
    obtain ⟨hs', hread, hnest⟩ := conditional_sound hn hs₁ h
    rw [hwords, htok]
    exact ⟨hs', hread, Nat.lt_succ_of_le hnest⟩
  · exact absurd h yields_unexpected

theorem signed_sound (hn : ∀ entry, Sound n entry.phrase (nested entry)) :
    Sound (n + 1) .signed (signed nested) := by
  intro s e s' hs h
  simp only [signed, monadLift_self, yields_peek_bind] at h
  split at h
  · next op hop =>
    simp only [yields_bind, yields_here, yields_skip, yields_unary] at h
    obtain ⟨_, _, ⟨rfl, rfl⟩, _, _, rfl, operand, _, hoperand, rfl, rfl⟩ := h
    have hop := sign?_eq_some.1 hop
    obtain ⟨hwords, hs₁⟩ := hs.advance hop.ne_endOfInput
    obtain ⟨hs', hread, hnest⟩ := hn .signed _ _ _ hs₁ hoperand
    rw [hwords]
    exact ⟨hs', .sign _ hop hread, Nat.succ_lt_succ hnest⟩
  · obtain ⟨hs', hread, hnest⟩ := primary_sound hn _ _ _ hs h
    exact ⟨hs', .unsigned hread, hnest⟩

theorem additive_sound (hn : ∀ entry, Sound n entry.phrase (nested entry)) :
    Sound (n + 1) (.chain .additive) (additive nested) := by
  have hmultiplicative : Sound (n + 1) (.chain .multiplicative) (multiplicative nested) :=
    chain_sound (l := .multiplicative) (signed_sound hn)
  exact chain_sound (l := .additive) hmultiplicative

theorem comparison_sound (hn : ∀ entry, Sound n entry.phrase (nested entry)) :
    Sound (n + 1) .comparison (comparison nested) := by
  intro s e s' hs h
  simp only [comparison, monadLift_self, yields_bind, yields_peek] at h
  obtain ⟨left, s₁, hleft, _, _, ⟨rfl, rfl⟩, h⟩ := h
  obtain ⟨hs₁, hread, hnest⟩ := additive_sound hn _ _ _ hs hleft
  split at h
  · next hnone =>
    obtain ⟨rfl, rfl⟩ := yields_pure.1 h
    exact ⟨hs₁, .single hread (lookahead_operand hnone), hnest⟩
  · next op hop =>
    simp only [yields_bind, yields_skip, yields_binary] at h
    obtain ⟨_, _, rfl, right, _, hright, rfl, rfl⟩ := h
    have hop := comparative?_eq_some.1 hop
    obtain ⟨hwords, hs₂⟩ := hs₁.advance hop.ne_endOfInput
    obtain ⟨hs', hread', hnest'⟩ := additive_sound hn _ _ _ hs₂ hright
    rw [hwords] at hread
    exact ⟨hs', .compare _ hread hop hread', Nat.max_lt.2 ⟨hnest, hnest'⟩⟩

theorem negated_sound (hn : ∀ entry, Sound n entry.phrase (nested entry)) :
    Sound (n + 1) .negated (negated nested) := by
  intro s e s' hs h
  simp only [negated, monadLift_self, yields_peek_bind] at h
  split at h
  · next htok =>
    simp only [yields_bind, yields_here, yields_skip, yields_unary] at h
    obtain ⟨_, _, ⟨rfl, rfl⟩, _, _, rfl, operand, _, hoperand, rfl, rfl⟩ := h
    obtain ⟨hwords, hs₁⟩ := hs.advance (by rw [htok]; decide)
    obtain ⟨hs', hread, hnest⟩ := hn .negated _ _ _ hs₁ hoperand
    rw [hwords, htok]
    exact ⟨hs', .not _ hread, Nat.succ_lt_succ hnest⟩
  · obtain ⟨hs', hread, hnest⟩ := comparison_sound hn _ _ _ hs h
    exact ⟨hs', .plain hread, hnest⟩

theorem disjunctive_sound (hn : ∀ entry, Sound n entry.phrase (nested entry)) :
    Sound (n + 1) .expression (disjunctive nested) := by
  have hconjunctive : Sound (n + 1) (.chain .conjunctive) (conjunctive nested) :=
    chain_sound (l := .conjunctive) (negated_sound hn)
  exact chain_sound (l := .disjunctive) hconjunctive

end Readers

/-! ### All levels of nesting -/

/-- The readers of every entry accept phrases that nest less than the levels that are left. -/
theorem enter_sound (limit room : Nat) (entry : Entry) :
    Sound room entry.phrase (enter limit room entry) := by
  -- By induction on the levels that are left: the readers of one level enter the next.
  induction room generalizing entry with
  | zero =>
    intro s e s' _ h
    simp only [enter, yields_bind] at h
    obtain ⟨_, _, _, h⟩ := h
    exact absurd h yields_throw
  | succ room ih =>
    cases entry with
    | expression => exact disjunctive_sound ih
    | negated => exact negated_sound ih
    | signed => exact signed_sound ih

end Parser

end AssignScript
