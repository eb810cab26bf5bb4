import AssignScript.Cursor

/-!
# What tokens there are

Every token of a text is what the text begins with at some place, and the end of the text is the last one.

## Main statements

* `Cursor.tokens_eq`: tokens are read one after the other;
* `Cursor.tokens_ended`: the last token, and no other, is the end of input;
* `Cursor.exists_front`: where a token comes from.
-/

namespace AssignScript

open Text

/-! ### Blanks and comments -/

@[simp] theorem gap_nil : gap [] = .clear 0 :=
  gap.eq_def []

theorem gap_lineComment (cs : List Char) : gap ('/' :: '/' :: cs) =
    (gap (cs.drop (lineCommentLength cs))).behind (lineCommentLength cs + 2) :=
  gap.eq_def _

theorem gap_blockComment {cs : List Char} {n : Nat} (h : blockCommentLength? cs = some n) :
    gap ('/' :: '*' :: cs) = (gap (cs.drop n)).behind (n + 2) := by
  refine (gap.eq_def _).trans ?_
  simp only [h]

/-- A character that begins no comment. -/
theorem gap_cons {c : Char} {cs : List Char} (hline : ∀ ds, c = '/' → cs = '/' :: ds → False)
    (hblock : ∀ ds, c = '/' → cs = '*' :: ds → False) :
    gap (c :: cs) = if isBlank c then (gap cs).behind 1 else .clear 0 := by
  refine (gap.eq_def _).trans ?_
  split
  · next h => cases h
  · next h =>
    cases h
    exact (hline _ rfl rfl).elim
  · next h =>
    cases h
    exact (hblock _ rfl rfl).elim
  · next h =>
    cases h
    rfl

theorem gap_cons_of_ne {c : Char} (h : c ≠ '/') (cs : List Char) :
    gap (c :: cs) = if isBlank c then (gap cs).behind 1 else .clear 0 :=
  gap_cons (fun _ hc => absurd hc h) (fun _ hc => absurd hc h)

theorem gap_of_not_blank {c : Char} (hne : c ≠ '/') (hblank : isBlank c = false) (cs : List Char) :
    gap (c :: cs) = .clear 0 := by
  rw [gap_cons_of_ne hne, hblank]
  rfl

/-! ### Tokens -/

namespace Cursor

/-- Tokens are read one after the other up to the end of the text. -/
theorem tokens_eq (c : Cursor) : c.tokens =
    match c.next with
    | (.error e, _) => .error e
    | (.ok t, c') => if t.token = .endOfInput then .ok [t] else c'.tokens.map (t :: ·) := by
  rw [tokens]
  split
  · next h => rw [h]
  · next t c' h =>
    rw [h]
    split
    · next hend => exact (if_pos hend).symm
    · next hend =>
      simp only [if_neg hend]
      cases c'.tokens <;> rfl

/-- The end of input alone. -/
theorem tokens_last {c c' : Cursor} {t : PlacedToken} (h : c.next = (.ok t, c'))
    (hend : t.token = .endOfInput) : c.tokens = .ok [t] := by
  rw [tokens_eq, h]
  exact if_pos hend

/-- A token in front of others. -/
theorem tokens_cons {c c' : Cursor} {t : PlacedToken} (h : c.next = (.ok t, c'))
    (hne : t.token ≠ .endOfInput) : c.tokens = c'.tokens.map (t :: ·) := by
  rw [tokens_eq, h]
  exact if_neg hne

theorem tokens_eq_ok {c : Cursor} {ts : List PlacedToken} (h : c.tokens = .ok ts) :
    ∃ t c', c.next = (.ok t, c') ∧ ((t.token = .endOfInput ∧ ts = [t]) ∨
      (t.token ≠ .endOfInput ∧ ∃ ts', c'.tokens = .ok ts' ∧ ts = t :: ts')) := by
  cases hnext : c.next with
  | mk result c' =>
    cases result with
    | error e =>
      rw [tokens_eq, hnext] at h
      cases h
    | ok t =>
      refine ⟨t, c', rfl, ?_⟩
      by_cases hend : t.token = .endOfInput
      · rw [tokens_last hnext hend] at h
        cases h
        exact .inl ⟨hend, rfl⟩
      · rw [tokens_cons hnext hend] at h
        cases hrest : c'.tokens with
        | error e =>
          rw [hrest] at h
          cases h
        | ok ts' =>
          rw [hrest] at h
          cases h
          exact .inr ⟨hend, ts', rfl, rfl⟩

/-- The end of input is the last token and no other. -/
theorem tokens_ended {c : Cursor} {ts : List PlacedToken} (h : c.tokens = .ok ts) :
    ∃ init last, ts = init ++ [last] ∧ last.token = .endOfInput ∧
      ∀ t ∈ init, t.token ≠ .endOfInput := by
  induction ts generalizing c with
  | nil =>
    obtain ⟨t, c', -, ⟨-, hts⟩ | ⟨-, ts', -, hts⟩⟩ := tokens_eq_ok h <;> cases hts
  | cons t ts ih =>
    obtain ⟨t, c', -, ⟨hend, hts⟩ | ⟨hend, ts', hts', hts⟩⟩ := tokens_eq_ok h
    · cases hts
      exact ⟨[], t, rfl, hend, nofun⟩
    · cases hts
      obtain ⟨init, last, rfl, hlast, hinit⟩ := ih hts'
      refine ⟨t :: init, last, rfl, hlast, fun u hu => ?_⟩
      rcases List.mem_cons.1 hu with rfl | hu
      · exact hend
      · exact hinit u hu

theorem tokens_ne_nil {c : Cursor} {ts : List PlacedToken} (h : c.tokens = .ok ts) : ts ≠ [] := by
  obtain ⟨init, last, rfl, -⟩ := tokens_ended h
  exact List.append_ne_nil_of_right_ne_nil init (List.cons_ne_nil last [])

end Cursor

/-! ### What a text begins with -/

/-- The kinds of tokens, with how they are read from a text `c :: cs` and how long they are. -/
inductive FrontToken (c : Char) (cs : List Char) : Token → Nat → Prop where
  | mark {m : Mark} {n : Nat} (h : mark? (c :: cs) = some (m, n)) : FrontToken c cs (.mark m) n
  | text {content : List Char} {n : Nat} (hc : c = '"')
    (h : quotedText? cs = some (content, n)) :
    FrontToken c cs (.string (String.ofList content)) (n + 1)
  | quoted {name : List Char} {n : Nat} (hc : c = '\'') (h : quotedName? cs = some (name, n)) :
    FrontToken c cs (.identifier (String.ofList name)) (n + 1)
  | word (h : isNameStart c = true) : FrontToken c cs (wordToken (c :: cs.takeWhile isNamePart))
    ((cs.takeWhile isNamePart).length + 1)
  | number (h : isAsciiDigit c = true) :
    FrontToken c cs (.number (String.ofList ((c :: cs).take (numberLength (c :: cs)))))
      (numberLength (c :: cs))

theorem front_eq_token {cs : List Char} {t : Token} {n : Nat} (h : front cs = .token t n) :
    ∃ c rest, cs = c :: rest ∧ FrontToken c rest t n := by
  unfold front at h
  split at h
  · cases h
  · next c rest =>
    refine ⟨c, rest, rfl, ?_⟩
    split at h
    · next hm =>
      cases h
      exact .mark hm
    · split at h
      · next hc =>
        split at h
        · next hr =>
          cases h
          exact .text hc hr
        · cases h
      · split at h
        · next hc =>
          split at h
          · next hr =>
            cases h
            exact .quoted hc hr
          · cases h
        · split at h
          · next hname =>
            cases h
            exact .word hname
          · split at h
            · next hdigit =>
              cases h
              exact .number hdigit
            · cases h

/-- A bare word is a mark, a keyword or a name. -/
theorem wordToken_cases (word : List Char) : wordToken word = .mark .underscore ∨
    (∃ k, wordToken word = .keyword k) ∨ ∃ x, wordToken word = .identifier x := by
  unfold wordToken
  simp only
  split
  · exact .inl rfl
  · split
    · exact .inr (.inl ⟨_, rfl⟩)
    · exact .inr (.inr ⟨_, rfl⟩)

/-- A text begins with the end of input in no place. -/
theorem front_ne_endOfInput {cs : List Char} {t : Token} {n : Nat} (h : front cs = .token t n) :
    t ≠ .endOfInput := by
  obtain ⟨c, rest, rfl, hfront⟩ := front_eq_token h
  cases hfront with
  | word =>
    intro hend
    rcases wordToken_cases (c :: rest.takeWhile isNamePart) with hw | ⟨_, hw⟩ | ⟨_, hw⟩ <;>
      cases hw.symm.trans hend
  | _ => nofun

/-- Something begins every text but the empty one. -/
theorem front_eq_finished {cs : List Char} (h : front cs = .finished) : cs = [] := by
  unfold front at h
  split at h
  · rfl
  · split at h
    · cases h
    · split at h
      · split at h <;> cases h
      · split at h
        · split at h <;> cases h
        · split at h
          · cases h
          · split at h <;> cases h

namespace Cursor

/-- The next token is the end of input behind the last gap, or what the text begins with behind the gap. -/
theorem next_eq_ok {c c' : Cursor} {t : PlacedToken} (h : c.next = (.ok t, c')) :
    ∃ n, gap c.rest = .clear n ∧
      ((front (c.rest.drop n) = .finished ∧
        t = ⟨.endOfInput, (c.skip n).position, (c.skip n).position⟩ ∧ c' = c.skip n) ∨
      ∃ length, front (c.rest.drop n) = .token t.token length ∧ c' = (c.skip n).skip length ∧
        t.start = (c.skip n).position ∧ t.stop = c'.position ∧ t.token ≠ .endOfInput) := by
  unfold next at h
  split at h
  · cases h
  · next n hgap =>
    refine ⟨n, hgap, ?_⟩
    simp only at h
    split at h
    · next hfront =>
      cases h
      exact .inl ⟨hfront, rfl, rfl⟩
    · cases h
    · cases h
    · next hfront =>
      cases h
      exact .inr ⟨_, hfront, rfl, rfl, rfl, front_ne_endOfInput hfront⟩

/-- The next token is what a text begins with behind blanks and comments. -/
theorem next_token {c : Cursor} {n length : Nat} {t : Token} (hgap : gap c.rest = .clear n)
    (hfront : front (c.rest.drop n) = .token t length) :
    c.next = (.ok ⟨t, (c.skip n).position, ((c.skip n).skip length).position⟩,
      (c.skip n).skip length) := by
  unfold next
  rw [hgap]
  have hrest : (c.skip n).rest = c.rest.drop n := rfl
  simp only [hrest, hfront]

/-- Behind the last token the text is finished. -/
theorem next_finished {c : Cursor} {n : Nat} (hgap : gap c.rest = .clear n)
    (hfront : front (c.rest.drop n) = .finished) :
    c.next = (.ok ⟨.endOfInput, (c.skip n).position, (c.skip n).position⟩, c.skip n) := by
  unfold next
  rw [hgap]
  have hrest : (c.skip n).rest = c.rest.drop n := rfl
  simp only [hrest, hfront]

/-- Every token but the end of input is what the text begins with somewhere. -/
theorem exists_front {c : Cursor} {ts : List PlacedToken} (h : c.tokens = .ok ts)
    {t : PlacedToken} (ht : t ∈ ts) (hne : t.token ≠ .endOfInput) :
    ∃ cs length, front cs = .token t.token length := by
  induction ts generalizing c with
  | nil => cases ht
  | cons u ts ih =>
    obtain ⟨u, c', hnext, hcases⟩ := tokens_eq_ok h
    -- The first token is what the text begins with; the others come from what is behind it.
    have hfirst : t = u → ∃ cs length, front cs = .token t.token length := by
      rintro rfl
      obtain ⟨n, -, ⟨-, rfl, -⟩ | ⟨length, hfront, -⟩⟩ := next_eq_ok hnext
      · exact absurd rfl hne
      · exact ⟨_, length, hfront⟩
    obtain ⟨-, hts⟩ | ⟨-, ts', hts', hts⟩ := hcases <;> cases hts
    · exact hfirst (List.mem_singleton.1 ht)
    · rcases List.mem_cons.1 ht with ht | ht
      · exact hfirst ht
      · exact ih hts' ht

end Cursor

/-! ### Reading token by token -/

namespace Cursor

variable {p : Position}

theorem tokens_nil : (Cursor.mk [] p).tokens = .ok [⟨.endOfInput, p, p⟩] :=
  tokens_last (next_finished (c := ⟨[], p⟩) gap_nil rfl) rfl

/-- The tokens of a text that begins with one. -/
theorem tokens_front {d : Char} {cs : List Char} {t : Token} {n : Nat} {ts : List PlacedToken}
    (hslash : d ≠ '/') (hblank : isBlank d = false) (h : front (d :: cs) = .token t n)
    (hts : ((Cursor.mk (d :: cs) p).skip n).tokens = .ok ts) : (Cursor.mk (d :: cs) p).tokens =
      .ok (⟨t, p, ((Cursor.mk (d :: cs) p).skip n).position⟩ :: ts) := by
  have hgap : gap (d :: cs) = .clear 0 := by
    rw [gap_cons_of_ne hslash]
    exact if_neg (ne_true_of_eq_false hblank)
  have hnext := next_token (c := ⟨d :: cs, p⟩) hgap h
  rw [tokens_cons hnext (front_ne_endOfInput h)]
  exact congrArg (Except.map _) hts

end Cursor

/-- The tokens of a letter. -/
theorem tokenize_letter : tokenize "x" =
    .ok [⟨.identifier "x", ⟨1, 1, 0⟩, ⟨1, 2, 1⟩⟩, ⟨.endOfInput, ⟨1, 2, 1⟩, ⟨1, 2, 1⟩⟩] := by
  have hx : front ['x'] = .token (.identifier "x") 1 := by decide
  exact Cursor.tokens_front (by decide) (by decide) hx Cursor.tokens_nil

/-- The tokens of an assignment. -/
theorem tokenize_assignment : tokenize "x:=1;" =
    .ok [⟨.identifier "x", ⟨1, 1, 0⟩, ⟨1, 2, 1⟩⟩, ⟨.mark .assign, ⟨1, 2, 1⟩, ⟨1, 4, 3⟩⟩,
      ⟨.number "1", ⟨1, 4, 3⟩, ⟨1, 5, 4⟩⟩, ⟨.mark .semicolon, ⟨1, 5, 4⟩, ⟨1, 6, 5⟩⟩,
      ⟨.endOfInput, ⟨1, 6, 5⟩, ⟨1, 6, 5⟩⟩] := by
  have hx : front ['x', ':', '=', '1', ';'] = .token (.identifier "x") 1 := by decide
  have hassign : front [':', '=', '1', ';'] = .token (.mark .assign) 2 := by decide
  have hone : front ['1', ';'] = .token (.number "1") 1 := by decide
  have hsemicolon : front [';'] = .token (.mark .semicolon) 1 := by decide
  exact Cursor.tokens_front (by decide) (by decide) hx <|
    Cursor.tokens_front (by decide) (by decide) hassign <|
    Cursor.tokens_front (by decide) (by decide) hone <|
    Cursor.tokens_front (by decide) (by decide) hsemicolon Cursor.tokens_nil

/-- The words of a text are followed by the end of input, which is none of them. -/
theorem tokenize_ended {text : String} {ts : List PlacedToken} (h : tokenize text = .ok ts) :
    ∃ ws, ts.map PlacedToken.token = ws ++ [.endOfInput] ∧ .endOfInput ∉ ws := by
  obtain ⟨init, last, rfl, hlast, hinit⟩ := Cursor.tokens_ended h
  refine ⟨init.map PlacedToken.token, by rw [List.map_append, List.map_singleton, hlast], ?_⟩
  intro hmem
  obtain ⟨t, ht, hend⟩ := List.mem_map.1 hmem
  exact hinit t ht hend

end AssignScript
