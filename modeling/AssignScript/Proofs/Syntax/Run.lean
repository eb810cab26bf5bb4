import AssignScript.Parser

/-!
# Runs of the parser

When a reader succeeds, with which answer and leaving which stream, is described by a relation. What a
reader does follows from what its steps do.

## Main definitions

* `TokenStream.words`, `TokenStream.Ended`: the words of a stream; that the last one ends the input;
* `Parser.Yields`: a reader succeeds.

## Main statements

* `Parser.yields_bind`: steps one after the other;
* `TokenStream.Ended.advance`: what is behind a word that does not end the input.
-/

namespace AssignScript

namespace TokenStream

/-- The words not yet taken. -/
def words (s : TokenStream) : List Token :=
  s.current.token :: s.following.map PlacedToken.token

/-- The last word ends the input, and no other does. -/
def Ended (s : TokenStream) : Prop := ∃ ws, s.words = ws ++ [.endOfInput] ∧ .endOfInput ∉ ws

theorem words_ne_nil (s : TokenStream) : s.words ≠ [] := List.cons_ne_nil _ _

/-- Any words are those of a stream, but there is always one. -/
theorem exists_words {ws : List Token} (h : ws ≠ []) : ∃ s : TokenStream, s.words = ws := by
  obtain ⟨tok, ws, rfl⟩ := List.exists_cons_of_ne_nil h
  let placed : Token → PlacedToken := fun tok => ⟨tok, default, default⟩
  refine ⟨⟨[], placed tok, ws.map placed, none⟩, ?_⟩
  simp [placed, words, Function.comp_def]

/-- Fuel for every word is there. -/
theorem exists_fuel {s : TokenStream} {fuel : Nat} (h : s.words.length ≤ fuel) :
    ∃ fuel', fuel = fuel' + 1 :=
  Nat.exists_eq_succ_of_ne_zero (Nat.ne_of_gt (Nat.lt_of_lt_of_le (Nat.zero_lt_succ _) h))

theorem not_words_length_le_zero (s : TokenStream) : ¬ s.words.length ≤ 0 := by
  intro h
  exact s.words_ne_nil (List.eq_nil_of_length_eq_zero (Nat.le_zero.1 h))

theorem current_of_words {s : TokenStream} {tok : Token} {ws : List Token} (h : s.words = tok :: ws) :
    s.current.token = tok :=
  (List.cons.inj h).1

theorem head?_words (s : TokenStream) : s.words.head? = some s.current.token := rfl

/-- Unless it is the last, a word is passed. -/
theorem words_advance {s : TokenStream} {tok : Token} {ws : List Token} (h : s.words = tok :: ws)
    (hws : ws ≠ []) : s.advance.words = ws := by
  obtain ⟨-, hfollowing⟩ := List.cons.inj h
  cases hf : s.following with
  | nil =>
    rw [hf] at hfollowing
    exact absurd hfollowing.symm hws
  | cons t ts =>
    rw [hf] at hfollowing
    rw [advance, hf, ← hfollowing]
    rfl

/-- A word that does not end the input has others behind it. -/
theorem Ended.advance {s : TokenStream} (h : s.Ended) (hne : s.current.token ≠ .endOfInput) :
    s.words = s.current.token :: s.advance.words ∧ s.advance.Ended := by
  obtain ⟨ws, hws, hmem⟩ := h
  cases ws with
  | nil => exact absurd (current_of_words hws) hne
  | cons tok ws =>
    have htok : s.current.token = tok := current_of_words hws
    have hadvance : s.advance.words = ws ++ [.endOfInput] := words_advance hws (by simp)
    refine ⟨?_, ws, hadvance, fun h => hmem (List.mem_cons_of_mem _ h)⟩
    rw [hws, htok, hadvance]
    rfl

/-- Behind the end of the input there is nothing. -/
theorem Ended.words_eq {s : TokenStream} (h : s.Ended) (hend : s.current.token = .endOfInput) :
    s.words = [.endOfInput] := by
  obtain ⟨ws, hws, hmem⟩ := h
  cases ws with
  | nil => exact hws
  | cons tok ws =>
    have htok : s.current.token = tok := current_of_words hws
    rw [hend] at htok
    exact absurd (htok ▸ List.mem_cons_self) hmem

end TokenStream

namespace Parser

variable {α β : Type} {s s' : TokenStream}

/-- A reader succeeds on a stream, with an answer, and leaves another stream. -/
def Yields (p : Parser α) (s : TokenStream) (a : α) (s' : TokenStream) : Prop :=
  p.run s = .ok a s'

/-- What a reader yields is determined by the stream that it runs on. -/
theorem Yields.unique {p : Parser α} {a a' : α} {s'' : TokenStream} (h : p.Yields s a s')
    (h' : p.Yields s a' s'') : a = a' ∧ s' = s'' := by
  rw [Yields, h] at h'
  cases h'
  exact ⟨rfl, rfl⟩

/-- A reader whose run is known yields what that run gives and nothing else. -/
theorem yields_of_run {p : Parser α} {a b : α} {s₁ : TokenStream} (h : p.run s = .ok a s₁) :
    p.Yields s b s' ↔ b = a ∧ s' = s₁ := by
  rw [Yields, h]
  constructor
  · intro hab
    cases hab
    exact ⟨rfl, rfl⟩
  · rintro ⟨rfl, rfl⟩
    rfl

/-! ### Steps -/

@[simp] theorem yields_pure {a b : α} : Yields (pure a) s b s' ↔ b = a ∧ s' = s :=
  yields_of_run rfl

@[simp] theorem yields_throw {e : ParseError} {b : α} :
    ¬ Yields (throw e : Parser α) s b s' := fun h => nomatch h

@[simp] theorem yields_bind {p : Parser α} {f : α → Parser β} {b : β} {s'' : TokenStream} :
    Yields (p >>= f) s b s'' ↔ ∃ a s', p.Yields s a s' ∧ (f a).Yields s' b s'' := by
  simp only [Yields, EStateM.run_bind]
  cases p.run s with
  | ok a s' =>
    constructor
    · exact fun h => ⟨a, s', rfl, h⟩
    · rintro ⟨_, _, hp, h⟩
      cases hp
      exact h
  | error e s' =>
    constructor
    · exact fun h => nomatch h
    · rintro ⟨_, _, hp, _⟩
      cases hp

@[simp] theorem yields_peek {t : Token} : peek.Yields s t s' ↔ t = s.current.token ∧ s' = s :=
  yields_of_run rfl

/-- A look at the next word leaves the stream as it is. -/
theorem yields_peek_bind {f : Token → Parser β} {b : β} :
    Yields (peek >>= f) s b s' ↔ (f s.current.token).Yields s b s' := by
  rw [yields_bind]
  constructor
  · rintro ⟨_, _, hpeek, h⟩
    obtain ⟨rfl, rfl⟩ := yields_peek.1 hpeek
    exact h
  · exact fun h => ⟨_, _, yields_peek.2 ⟨rfl, rfl⟩, h⟩

@[simp] theorem yields_here {p : Position} : here.Yields s p s' ↔ p = s.current.start ∧ s' = s :=
  yields_of_run rfl

@[simp] theorem yields_skip {u : Unit} : skip.Yields s u s' ↔ s' = s.advance :=
  (yields_of_run rfl).trans ⟨And.right, fun h => ⟨rfl, h⟩⟩

@[simp] theorem yields_remaining {n : Nat} :
    remaining.Yields s n s' ↔ n = s.words.length ∧ s' = s := by
  have hlength : s.words.length = s.following.length + 1 := by
    rw [TokenStream.words, List.length_cons, List.length_map]
  rw [hlength]
  exact yields_of_run rfl

@[simp] theorem yields_spanFrom {start : Position} {span : Span} :
    (spanFrom start).Yields s span s' ↔ span = s.spanFrom start ∧ s' = s :=
  yields_of_run rfl

@[simp] theorem yields_binary {op : BinaryOp} {left right e : Expr} :
    (binary op left right).Yields s e s' ↔
      e = .binary (s.spanBetween left.span.start right.span.stop) op left right ∧ s' = s :=
  yields_of_run rfl

@[simp] theorem yields_unary {op : UnaryOp} {start : Position} {operand e : Expr} :
    (unary op start operand).Yields s e s' ↔
      e = .unary (s.spanBetween start operand.span.stop) op operand ∧ s' = s :=
  yields_of_run rfl

@[simp] theorem yields_unexpected {expected : Expectation} {a : α} :
    ¬ (Parser.unexpected expected : Parser α).Yields s a s' := fun h => nomatch h

/-- A word that must be there is passed. -/
@[simp] theorem yields_expect {t : Token} {u : Unit} :
    (expect t).Yields s u s' ↔ s.current.token = t ∧ s' = s.advance := by
  simp only [expect, yields_bind, yields_peek]
  constructor
  · rintro ⟨_, _, ⟨rfl, rfl⟩, h⟩
    split at h
    · next ht => exact ⟨ht, yields_skip.1 h⟩
    · exact absurd h yields_unexpected
  · rintro ⟨rfl, rfl⟩
    refine ⟨_, _, ⟨rfl, rfl⟩, ?_⟩
    rw [if_pos rfl]
    exact yields_skip.2 rfl

/-- A name that must be there is passed. -/
@[simp] theorem yields_expectIdentifier {x : String} :
    expectIdentifier.Yields s x s' ↔ s.current.token = .identifier x ∧ s' = s.advance := by
  simp only [expectIdentifier, yields_bind, yields_peek]
  constructor
  · rintro ⟨_, _, ⟨rfl, rfl⟩, h⟩
    split at h
    · next ht =>
      simp only [yields_bind, yields_skip, yields_pure] at h
      obtain ⟨_, _, rfl, rfl, rfl⟩ := h
      exact ⟨ht, rfl⟩
    · exact absurd h yields_unexpected
  · rintro ⟨hx, rfl⟩
    refine ⟨_, _, ⟨rfl, rfl⟩, ?_⟩
    simp only [hx, yields_bind, yields_skip, yields_pure]
    exact ⟨(), _, rfl, trivial, rfl⟩

end Parser

end AssignScript
