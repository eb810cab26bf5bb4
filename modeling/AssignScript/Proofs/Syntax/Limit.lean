import AssignScript.Proofs.Syntax.Counter
import AssignScript.Proofs.Syntax.Refusal

/-!
# The limit of nesting

The limit refuses exactly the expressions that nest too deeply. Without a limit the entries of one level are those of
the next one, and there are always enough levels, since a reader takes a word before it enters another level.

## Main definitions

* `Parser.unlimited`: entries without a limit.

## Main statements

* `Parser.unlimited_run`: they enter themselves;
* `Parser.expression_limit_exact`: what the limit refuses, what it leaves as it is, and what the counter is meanwhile.
-/

namespace AssignScript.Parser

/-- Enters an expression or operand without a limit: as many levels are left as there are words, and that is more
    than can be entered. -/
def unlimited (entry : Entry) : Parser Expr := fun s =>
  enter 0 s.words.length entry s

variable {limit depth n levels : Nat} {stops : ParseError → Prop} {s : TokenStream}

theorem unlimited_run_eq (entry : Entry) (s : TokenStream) :
    (unlimited entry).run s = (enter 0 s.words.length entry).run s :=
  calc
    (unlimited entry).run s = enter 0 s.words.length entry s := rfl
    _ = (enter 0 s.words.length entry).run s := rfl

/-! ### Enough levels -/

/-- Entries that count follow those that are given some levels as long as words, and not levels, run out. -/
theorem counting_follows_enter (inside : Entry → Counting Expr) (hlimit : depth + n ≤ limit) (hlevels : n ≤ levels)
    {room : Nat} (hroom : n ≤ room) (entry : Entry) :
    Follows limit depth stops n (Counting.enter limit inside levels entry) (enter 0 room entry) := by
  -- Every level takes a word, so the words that are left bound the levels that are entered.
  induction n generalizing depth levels room entry with
  | zero => exact fun s _ hwords => absurd hwords s.not_words_length_le_zero
  | succ n ih =>
    obtain ⟨levels, rfl⟩ := Nat.exists_eq_add_of_le' hlevels
    obtain ⟨room, rfl⟩ := Nat.exists_eq_add_of_le' hroom
    have hnested : ∀ entry, Follows limit (depth + 1) stops n (Counting.enter limit inside (levels + n) entry)
        (enter 0 (room + n) entry) :=
      ih (by omega) (Nat.le_add_left n levels) (Nat.le_add_left n room)
    have hdepth : depth < limit := by omega
    have hreader := Counting.reader_follows hnested entry
    exact counted_follows hdepth hreader

theorem counting_follows_unlimited (inside : Entry → Counting Expr) (hlimit : depth + n ≤ limit)
    (hlevels : n ≤ levels) (entry : Entry) :
    Follows limit depth stops n (Counting.enter limit inside levels entry) (unlimited entry) := by
  intro s hs hwords highest hhighest
  have hlimit := Nat.le_trans (Nat.add_le_add_left hwords depth) hlimit
  have hlevels := Nat.le_trans hwords hlevels
  have h : Follows limit depth stops s.words.length _ (enter 0 s.words.length entry) :=
    counting_follows_enter inside hlimit hlevels (Nat.le_refl s.words.length) entry
  rw [unlimited_run_eq]
  exact h s hs (Nat.le_refl _) highest hhighest

/-- What the same counting reader follows comes to the same, unless the counting reader may stop by itself. -/
theorem eq_of_follows {α : Type} {p : Counting α} {q q' : Parser α} (h : FollowsAt limit depth (fun _ => False) s p q)
    (h' : FollowsAt limit depth stops s p q') :
    (∃ err, stops err ∧ q.Fails s err) ∨ q.run s = q'.run s := by
  have hbeside := h 0 (Nat.zero_le limit)
  have hbeside' := h' 0 (Nat.zero_le limit)
  generalize hx : p.run (s, ⟨depth, 0⟩) = x, hy : q.run s = y, q'.run s = y' at hbeside hbeside'
  cases hbeside with
  | stop he _ => exact he.elim
  | error _ =>
    cases hbeside' with
    | stop he _ => exact .inl ⟨_, he, _, hy⟩
    | error _ => exact .inr rfl
  | ok _ _ _ =>
    cases hbeside'
    exact .inr rfl

/-- Without a limit, entries enter themselves. -/
theorem unlimited_run (entry : Entry) (hs : s.Ended) :
    (unlimited entry).run s = (entry.phrase.reader unlimited).run s := by
  -- With one level less than there are words, what is entered next is what is entered without a limit.
  obtain ⟨n, hn⟩ := TokenStream.exists_fuel (Nat.le_refl s.words.length)
  have hlimit : 0 + n ≤ n := Nat.le_of_eq (Nat.zero_add n)
  let inside : Entry → Counting Expr := fun entry => unlimited entry
  let nested : Entry → Counting Expr := Counting.enter n inside n
  have h : Follows n 0 (fun _ => False) (n + 1) (entry.reader nested) (entry.reader (enter 0 n)) :=
    Counting.reader_follows (counting_follows_enter inside hlimit (Nat.le_refl n) (Nat.le_refl n)) entry
  have h' : Follows n 0 (fun _ => False) (n + 1) (entry.reader nested) (entry.reader unlimited) :=
    Counting.reader_follows (counting_follows_unlimited inside hlimit (Nat.le_refl n)) entry
  rw [unlimited_run_eq, hn, enter, Entry.reader_phrase]
  refine (eq_of_follows (h s hs (Nat.le_of_eq hn)) (h' s hs (Nat.le_of_eq hn))).resolve_left ?_
  rintro ⟨_, hstop, _⟩
  exact hstop

/-! ### What the limit refuses -/

/-- An expression that counts follows the one that is given the levels that are left. -/
theorem counting_follows_expression (limit : Nat) (inside : Entry → Counting Expr) (s : TokenStream) (hs : s.Ended) :
    FollowsAt limit 0 (fun _ => False) s (Counting.enter limit inside (limit + 1) .expression) (expression limit) :=
  Counting.enter_follows inside (fun _ _ => .inr rfl) (fun _ _ _ _ => rfl) (Nat.zero_add limit)
    (Nat.lt_succ_self limit) s.words.length .expression s hs (Nat.le_refl _)

/-- With a limit, an expression is refused as nested too deeply, or it comes to the same as without one. -/
theorem expression_run (limit : Nat) (hs : s.Ended) :
    (∃ p, (expression limit).Fails s (.nestingTooDeep limit p)) ∨
      (expression limit).run s = (unlimited .expression).run s := by
  let inside : Entry → Counting Expr := fun entry => unlimited entry
  have h' : FollowsAt limit 0 (fun err => ∃ p, err = .nestingTooDeep limit p) s
      (Counting.enter limit inside (limit + 1) .expression) (unlimited .expression) :=
    Counting.enter_follows (q := fun _ => unlimited) inside (fun _ _ => .inl ⟨_, rfl⟩)
      (fun _ entry t ht => by rw [unlimited_run entry ht, Entry.reader_phrase]) (Nat.zero_add limit) (Nat.lt_succ_self limit) s.words.length
      .expression s hs (Nat.le_refl _)
  rcases eq_of_follows (counting_follows_expression limit inside s hs) h' with ⟨_, ⟨p, rfl⟩, hfails⟩ | hrun
  · exact .inl ⟨p, hfails⟩
  · exact .inr hrun

/-- What is read without a limit is read with one too if it nests less deeply. -/
theorem yields_of_unlimited {s' : TokenStream} {e : Expr} (hs : s.Ended) (h : (unlimited .expression).Yields s e s')
    (hnest : e.nest < limit) : (expression limit).Yields s e s' := by
  rcases expression_run limit hs with ⟨p, hfails⟩ | hrun
  · -- What is read without a limit is a phrase of the grammar, and that is found.
    rw [Yields, unlimited_run_eq] at h
    obtain ⟨_, hreads, _⟩ := enter_sound 0 s.words.length .expression s e s' hs h
    obtain ⟨_, _, hfound, _⟩ := enter_finds limit hreads s'.words_ne_nil hnest s rfl
    exact absurd hfails hfound.not_fails
  · rw [Yields, hrun]
    exact h

/-- What is read with a limit is read without one, and nests less deeply. -/
theorem yields_iff_unlimited {s' : TokenStream} {e : Expr} (hs : s.Ended) :
    (expression limit).Yields s e s' ↔ (unlimited .expression).Yields s e s' ∧ 1 + e.nest ≤ limit := by
  rw [Nat.add_comm, Nat.succ_le_iff]
  constructor
  · intro h
    obtain ⟨_, _, hnest⟩ := enter_sound limit limit .expression s e s' hs h
    refine ⟨?_, hnest⟩
    rcases expression_run limit hs with ⟨p, hfails⟩ | hrun
    · exact absurd hfails h.not_fails
    · rw [Yields, ← hrun]
      exact h
  · exact fun h => yields_of_unlimited hs h.1 h.2

/-- What is read without a limit and nests as deeply as the limit, or more so, is refused for that. -/
theorem fails_of_unlimited {s' : TokenStream} {e : Expr} (hs : s.Ended) (h : (unlimited .expression).Yields s e s')
    (hnest : limit < 1 + e.nest) : ∃ p, (expression limit).Fails s (.nestingTooDeep limit p) := by
  rcases expression_run limit hs with hfails | hrun
  · exact hfails
  · have hyields : (expression limit).Yields s e s' := hrun.trans h
    exact absurd ((yields_iff_unlimited hs).1 hyields).2 (Nat.not_le_of_lt hnest)

/-- An expression with a counter that starts at zero comes to the same as without one, however entries beyond the
    limit might behave; the counter is at zero again in the end and was never above the limit. -/
theorem counting_run (limit : Nat) (inside : Entry → Counting Expr) (hs : s.Ended) :
    ∃ highest ≤ limit, (Counting.enter limit inside (limit + 1) .expression).run (s, ⟨0, 0⟩) =
      withDepth ⟨0, highest⟩ ((expression limit).run s) := by
  have h := counting_follows_expression limit inside s hs 0 (Nat.zero_le limit)
  generalize (Counting.enter limit inside (limit + 1) .expression).run (s, ⟨0, 0⟩) = x,
    (expression limit).run s = y at h
  cases h with
  | stop he _ => exact he.elim
  | error hhighest => exact ⟨_, hhighest, rfl⟩
  | ok hhighest _ _ => exact ⟨_, hhighest, rfl⟩

/-- The limit of nesting is exact. Without a limit, every entry is read by the readers that enter it themselves. With
    one, an expression is read exactly if it is read without and one more than it nests is within the limit; one that
    nests more deeply is refused as that; and where an expression cannot be read at all, it is refused for the same
    reason or for its nesting. A counter of the levels that are open refuses the same, is never above the limit, and
    is at zero again in the end. This holds of every stream that ends with the end of the input, as the tokens of a
    text do. -/
theorem expression_limit_exact (limit : Nat) (s : TokenStream) (hs : s.Ended) :
    (∀ (entry : Entry) (t : TokenStream), t.Ended →
      (unlimited entry).run t = (entry.phrase.reader unlimited).run t) ∧
    (∀ e s', (expression limit).Yields s e s' ↔ (unlimited .expression).Yields s e s' ∧ 1 + e.nest ≤ limit) ∧
    (∀ e s', (unlimited .expression).Yields s e s' → limit < 1 + e.nest →
      ∃ p, (expression limit).Fails s (.nestingTooDeep limit p)) ∧
    (∀ err, (unlimited .expression).Fails s err →
      (expression limit).Fails s err ∨ ∃ p, (expression limit).Fails s (.nestingTooDeep limit p)) ∧
    ∀ inside : Entry → Counting Expr, ∃ highest ≤ limit,
      (Counting.enter limit inside (limit + 1) .expression).run (s, ⟨0, 0⟩) =
        withDepth ⟨0, highest⟩ ((expression limit).run s) := by
  refine ⟨fun entry t ht => unlimited_run entry ht, fun e s' => yields_iff_unlimited hs,
    fun e s' h hnest => fails_of_unlimited hs h hnest, ?_, fun inside => counting_run limit inside hs⟩
  intro err herr
  rcases expression_run limit hs with hfails | hrun
  · exact .inr hfails
  · rw [Fails, hrun]
    exact .inl herr

/-- A sign opens a second level, so a sign with its operand needs a limit of two. -/
theorem expression_limit_exact_sign :
    let place : Token → PlacedToken := fun tok => ⟨tok, .start, .start⟩
    let s : TokenStream := ⟨"-null".toList, place (.mark .minus), [place (.keyword .null), place .endOfInput], none⟩
    s.Ended ∧ (∃ p, (expression 1).Fails s (.nestingTooDeep 1 p)) ∧
      ∃ e s', (unlimited .expression).Yields s e s' ∧ 1 + e.nest = 2 ∧ (expression 2).Yields s e s' := by
  intro place s
  have hs : s.Ended := ⟨[.mark .minus, .keyword .null], rfl, by decide⟩
  have hread : ∃ e s', (unlimited .expression).Yields s e s' ∧ 1 + e.nest = 2 := ⟨_, _, rfl, rfl⟩
  obtain ⟨e, s', hyields, hnest⟩ := hread
  refine ⟨hs, (expression_limit_exact 1 s hs).2.2.1 e s' hyields (by omega), e, s', hyields, hnest, ?_⟩
  exact ((expression_limit_exact 2 s hs).2.1 e s').2 ⟨hyields, Nat.le_of_eq hnest⟩

end AssignScript.Parser
