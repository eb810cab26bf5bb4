import AssignScript.Proofs.Lexing.Places

/-!
# Texts joined at a line break

A line feed behind a text ends a comment and whatever else could go on, so the tokens of a text that has
tokens stay what they are when a line feed and a second text follow, and those of the second text come after.

## Main statements

* `gap_append`: blanks and comments before a line feed;
* `front_append`: a token before a line feed;
* `tokenize_append`: the tokens of two texts with a line feed in between;
* `tokenize_lineFeed`: how far the tokens and the errors of the second text move.
-/

namespace AssignScript

open Text

/-! ### What a line feed does not complete -/

section

variable {c d : Char} {a b : List Char}

theorem append_ne_cons (ha : a ≠ []) (h : ∀ ds, a = d :: ds → False) :
    ∀ ds, a ++ '\n' :: b = d :: ds → False := by
  intro ds hds
  cases a with
  | nil => exact ha rfl
  | cons c cs =>
    obtain ⟨rfl, -⟩ := List.cons.inj hds
    exact h cs rfl

theorem append_ne_cons_of_ne (hd : d ≠ '\n') (h : ∀ ds, a = d :: ds → False) :
    ∀ ds, a ++ '\n' :: b = d :: ds → False := by
  cases a with
  | nil => exact fun _ hds => hd (List.cons.inj hds).1.symm
  | cons c cs => exact append_ne_cons (List.cons_ne_nil c cs) h

theorem append_ne_cons_cons (ha : a ≠ []) (hd : d ≠ '\n') (h : ∀ ds, a = c :: d :: ds → False) :
    ∀ ds, a ++ '\n' :: b = c :: d :: ds → False := by
  intro ds hds
  cases a with
  | nil => exact ha rfl
  | cons c' cs =>
    obtain ⟨rfl, hcs⟩ := List.cons.inj hds
    exact append_ne_cons_of_ne hd (fun ds hds => h ds (congrArg _ hds)) ds hcs

end

/-! ### Blanks and comments before a line feed -/

/-- A comment that a line feed does end stays as long as it is; one that ends with the text takes in the
    line feed behind it. -/
theorem lineCommentLength_append (a b : List Char) :
    lineCommentLength a ≤ a.length ∧ ((lineCommentLength (a ++ '\n' :: b) = lineCommentLength a) ∨
      (lineCommentLength a = a.length ∧ lineCommentLength (a ++ '\n' :: b) = a.length + 1)) := by
  induction a with
  | nil => exact ⟨Nat.le_refl _, .inr ⟨rfl, rfl⟩⟩
  | cons c cs ih =>
    obtain ⟨hle, ih⟩ := ih
    simp only [lineCommentLength, List.cons_append, List.length_cons]
    split
    · exact ⟨by omega, .inl rfl⟩
    · refine ⟨by omega, ?_⟩
      rcases ih with ih | ⟨hall, ih⟩
      · exact .inl (by rw [ih])
      · exact .inr ⟨by rw [hall], by rw [ih]⟩

theorem blockCommentLength?_append {a : List Char} {n : Nat} (h : blockCommentLength? a = some n)
    (b : List Char) : n ≤ a.length ∧ blockCommentLength? (a ++ b) = some n := by
  fun_induction blockCommentLength? a generalizing n with
  | case1 => cases h
  | case2 cs =>
    cases h
    exact ⟨by simp only [List.length_cons]; omega, rfl⟩
  | case3 c cs hopen ih =>
    obtain ⟨m, hm, rfl⟩ := Option.map_eq_some_iff.1 h
    obtain ⟨hle, happend⟩ := ih hm
    refine ⟨Nat.succ_le_succ hle, ?_⟩
    rw [List.cons_append, blockCommentLength?, happend]
    · rfl
    · rintro ds rfl hds
      cases cs with
      | nil => cases hm
      | cons d cs =>
        cases hds
        exact hopen cs rfl rfl

theorem Gap.behind_behind (m n : Nat) (g : Gap) : (g.behind m).behind n = g.behind (n + m) := by
  cases g <;> simp only [behind, Nat.add_assoc]

/-- What a text with a line feed behind it begins with, if what it begins with itself is `clear n`. -/
def brokenGap (a b : List Char) (n : Nat) : Gap :=
  if n < a.length then .clear n else (gap b).behind (a.length + 1)

/-- After blanks and comments of a length, the rest of a text decides. -/
theorem brokenGap_behind {a b : List Char} {k n : Nat} (hk : k ≤ a.length)
    (h : (gap (a.drop k)).behind k = .clear n)
    (ih : ∀ {n}, gap (a.drop k) = .clear n →
      n ≤ (a.drop k).length ∧ gap (a.drop k ++ '\n' :: b) = brokenGap (a.drop k) b n) :
    n ≤ a.length ∧ (gap (a.drop k ++ '\n' :: b)).behind k = brokenGap a b n := by
  -- A comment that does not end in the rest does not end in the whole.
  cases hgap : gap (a.drop k) with
  | unclosed m =>
    rw [hgap] at h
    cases h
  | clear m =>
    rw [hgap] at h
    cases h
    obtain ⟨hle, hbreak⟩ := ih hgap
    rw [hbreak, brokenGap, brokenGap, List.length_drop]
    rw [List.length_drop] at hle
    refine ⟨by omega, ?_⟩
    by_cases hlt : m < a.length - k
    · rw [if_pos hlt, if_pos (by omega), Gap.behind]
    · rw [if_neg hlt, if_neg (by omega), Gap.behind_behind, ← Nat.add_assoc, Nat.add_sub_cancel' hk]

/-- Blanks and comments stay what they are before a line feed, unless they go on to the end of the text:
    then what is behind the line feed follows. -/
theorem gap_append (a b : List Char) {n : Nat} (h : gap a = .clear n) :
    n ≤ a.length ∧ gap (a ++ '\n' :: b) = brokenGap a b n := by
  fun_induction gap a generalizing n with
  | case1 =>
    cases h
    refine ⟨Nat.le_refl _, ?_⟩
    rw [List.nil_append, gap_cons_of_ne (by decide)]
    rfl
  | case2 cs ih =>
    -- A comment that ends with its line stays; one that ends with the text takes in the line feed.
    obtain ⟨hle, hsame | ⟨hall, hmore⟩⟩ := lineCommentLength_append cs b
    · have hgap := brokenGap_behind (a := '/' :: '/' :: cs) (Nat.add_le_add_right hle 2) h ih
      rw [List.cons_append, List.cons_append, gap_lineComment, hsame, List.drop_append_of_le_length hle]
      exact hgap
    · rw [hall, List.drop_length, gap_nil] at h
      cases h
      refine ⟨Nat.le_refl _, ?_⟩
      rw [List.cons_append, List.cons_append, gap_lineComment, hmore, ← List.drop_drop, List.drop_left,
        brokenGap]
      exact (if_neg (Nat.lt_irrefl _)).symm
  | case3 cs hn => cases h
  | case4 cs k hk ih =>
    -- A comment that is closed does not see what is behind.
    obtain ⟨hle, hsame⟩ := blockCommentLength?_append hk ('\n' :: b)
    have hgap := brokenGap_behind (a := '/' :: '*' :: cs) (Nat.add_le_add_right hle 2) h ih
    rw [List.cons_append, List.cons_append, gap_blockComment hsame,
      List.drop_append_of_le_length hle]
    exact hgap
  | case5 c cs h₁ h₂ hblank ih =>
    have hgap := brokenGap_behind (a := c :: cs) (k := 1) (by simp) h ih
    rw [List.cons_append, gap_cons (fun ds hc => append_ne_cons_of_ne (by decide) (h₁ · hc) ds)
      (fun ds hc => append_ne_cons_of_ne (by decide) (h₂ · hc) ds), if_pos hblank]
    exact hgap
  | case6 c cs h₁ h₂ hblank =>
    cases h
    refine ⟨Nat.zero_le _, ?_⟩
    rw [List.cons_append, gap_cons (fun ds hc => append_ne_cons_of_ne (by decide) (h₁ · hc) ds)
      (fun ds hc => append_ne_cons_of_ne (by decide) (h₂ · hc) ds), if_neg hblank]
    exact (if_pos (Nat.zero_lt_succ _)).symm

/-! ### Tokens before a line feed -/

/-- Where a run of characters ends, nothing that follows counts. -/
theorem takeWhile_append_stop {p : Char → Bool} {c : Char} (hc : p c = false) (a b : List Char) :
    (a ++ c :: b).takeWhile p = a.takeWhile p := by
  induction a with
  | nil => exact List.takeWhile_cons_of_neg (by rw [hc]; exact Bool.false_ne_true)
  | cons d a ih => rw [List.cons_append, List.takeWhile_cons, List.takeWhile_cons, ih]

@[simp] theorem digitRun_append (a b : List Char) : digitRun (a ++ '\n' :: b) = digitRun a := by
  rw [digitRun, takeWhile_append_stop (by decide), digitRun]

theorem fractionLength_append (a b : List Char) :
    fractionLength (a ++ '\n' :: b) = fractionLength a := by
  cases a with
  | nil => rfl
  | cons c cs =>
    by_cases hc : c = '.'
    · subst hc
      simp only [List.cons_append, fractionLength, digitRun_append]
    · rw [List.cons_append, fractionLength, fractionLength]
      · exact fun ds h => hc (List.cons.inj h).1
      · exact fun ds h => hc (List.cons.inj h).1

theorem exponentLength_append (a b : List Char) :
    exponentLength (a ++ '\n' :: b) = exponentLength a := by
  cases a with
  | nil => rfl
  | cons c cs =>
    rw [List.cons_append]
    unfold exponentLength
    simp only
    by_cases hc : c = 'e' ∨ c = 'E'
    · rw [if_pos hc, if_pos hc]
      split
      · next ds hds =>
        cases cs with
        | nil => cases hds
        | cons d cs =>
          cases hds
          exact digitRun_append cs b ▸ rfl
      · next ds hds =>
        cases cs with
        | nil => cases hds
        | cons d cs =>
          cases hds
          exact digitRun_append cs b ▸ rfl
      -- A line feed is no sign, so a text without one still has none.
      · next hplus hminus =>
        rw [digitRun_append]
        symm
        split
        · next ds => exact (hplus (ds ++ '\n' :: b) rfl).elim
        · next ds => exact (hminus (ds ++ '\n' :: b) rfl).elim
        · rfl
    · rw [if_neg hc, if_neg hc]

theorem digitRun_le (cs : List Char) : digitRun cs ≤ cs.length :=
  (List.takeWhile_sublist isAsciiDigit).length_le

theorem fractionLength_le (cs : List Char) : fractionLength cs ≤ cs.length := by
  unfold fractionLength
  split
  · next ds =>
    have hle := digitRun_le ds
    split <;> simp only [List.length_cons] <;> omega
  · exact Nat.zero_le _

theorem exponentLength_le (cs : List Char) : exponentLength cs ≤ cs.length := by
  fun_cases exponentLength cs
  all_goals simp only [List.length_cons, Nat.zero_le]
  · next ds _ =>
    have hle := digitRun_le ds
    omega
  · next ds _ =>
    have hle := digitRun_le ds
    omega
  · next ds _ _ _ =>
    have hle := digitRun_le ds
    omega

theorem numberLength_le (cs : List Char) : numberLength cs ≤ cs.length := by
  have hwhole := digitRun_le cs
  have hfraction := fractionLength_le (cs.drop (digitRun cs))
  have hexponent := exponentLength_le (cs.drop (digitRun cs + fractionLength (cs.drop (digitRun cs))))
  rw [List.length_drop] at hfraction hexponent
  simp only [numberLength]
  omega

theorem numberLength_append (a b : List Char) : numberLength (a ++ '\n' :: b) = numberLength a := by
  have hwhole := digitRun_le a
  have hfraction := fractionLength_le (a.drop (digitRun a))
  rw [List.length_drop] at hfraction
  simp only [numberLength, digitRun_append]
  rw [List.drop_append_of_le_length hwhole, fractionLength_append,
    List.drop_append_of_le_length (by omega), exponentLength_append]

theorem mark?_append {a : List Char} (ha : a ≠ []) (b : List Char) :
    mark? (a ++ '\n' :: b) = mark? a := by
  fun_cases mark? a
  case case17 =>
    -- What begins no mark begins none now.
    rw [mark?]
    all_goals first
      | exact append_ne_cons ha ‹_›
      | exact append_ne_cons_cons ha (by decide) ‹_›
  case case3 h₁ h₂ =>
    rw [List.cons_append, mark?]
    · exact append_ne_cons_of_ne (by decide) h₁
    · exact append_ne_cons_of_ne (by decide) h₂
  case case5 h =>
    rw [List.cons_append, mark?]
    exact append_ne_cons_of_ne (by decide) h
  all_goals rfl

theorem quotedText?_append {a content : List Char} {n : Nat} (h : quotedText? a = some (content, n))
    (b : List Char) : quotedText? (a ++ '\n' :: b) = some (content, n) := by
  fun_induction quotedText? a generalizing content n with
  | case1 => cases h
  | case2 cs ih =>
    obtain ⟨r, hr, hcontent⟩ := Option.map_eq_some_iff.1 h
    rw [List.cons_append, List.cons_append, quotedText?, ih hr, Option.map_some, hcontent]
  | case3 cs hdouble =>
    rw [List.cons_append, quotedText?]
    · exact h
    · exact append_ne_cons_of_ne (by decide) hdouble
  | case4 c cs hdouble hquote ih =>
    obtain ⟨r, hr, hcontent⟩ := Option.map_eq_some_iff.1 h
    rw [List.cons_append, quotedText?, ih hr, Option.map_some, hcontent]
    · exact fun ds hc => append_ne_cons_of_ne (by decide) (fun ds => hdouble ds hc) ds
    · exact hquote

theorem quotedName?_append {a name : List Char} {n : Nat} (h : quotedName? a = some (name, n))
    (b : List Char) : quotedName? (a ++ b) = some (name, n) := by
  fun_induction quotedName? a generalizing name n with
  | case1 => cases h
  | case2 cs => exact h
  | case3 c cs hquote ih =>
    obtain ⟨r, hr, hname⟩ := Option.map_eq_some_iff.1 h
    rw [List.cons_append, quotedName?, ih hr, Option.map_some, hname]
    exact hquote

/-- A token stays what it is before a line feed. -/
theorem front_append {a : List Char} {t : Token} {n : Nat} (h : front a = .token t n)
    (b : List Char) : front (a ++ '\n' :: b) = .token t n := by
  obtain ⟨c, cs, rfl⟩ := List.exists_cons_of_ne_nil (front_token_length h).2
  have hmark := mark?_append (List.cons_ne_nil c cs) b
  have hnumber := numberLength_append (c :: cs) b
  have hlength : numberLength (c :: cs) ≤ (c :: cs).length := numberLength_le (c :: cs)
  rw [List.cons_append] at hmark hnumber ⊢
  simp only [front] at h ⊢
  rw [hmark, hnumber, takeWhile_append_stop (by decide)]
  cases hm : mark? (c :: cs) with
  | some r =>
    rw [hm] at h
    exact h
  | none =>
    rw [hm] at h
    simp only at h ⊢
    by_cases htext : c = '"'
    · rw [if_pos htext] at h ⊢
      cases hr : quotedText? cs with
      | none =>
        rw [hr] at h
        cases h
      | some r =>
        rw [hr] at h
        rw [quotedText?_append hr]
        exact h
    · rw [if_neg htext] at h ⊢
      by_cases hname : c = '\''
      · rw [if_pos hname] at h ⊢
        cases hr : quotedName? cs with
        | none =>
          rw [hr] at h
          cases h
        | some r =>
          rw [hr] at h
          rw [quotedName?_append hr]
          exact h
      · rw [if_neg hname] at h ⊢
        rw [← List.cons_append, List.take_append_of_le_length hlength]
        exact h

/-! ### How long tokens are -/

theorem mark?_length_le {cs : List Char} {m : Mark} {n : Nat} (h : mark? cs = some (m, n)) :
    n ≤ cs.length := by
  unfold mark? at h
  split at h <;> cases h <;> simp only [List.length_cons] <;> omega

theorem quotedText?_length_le {cs content : List Char} {n : Nat}
    (h : quotedText? cs = some (content, n)) : n ≤ cs.length := by
  fun_induction quotedText? cs generalizing content n with
  | case1 => cases h
  | case2 cs ih =>
    obtain ⟨⟨_, m⟩, hr, ⟨⟩⟩ := Option.map_eq_some_iff.1 h
    exact Nat.add_le_add_right (ih hr) 2
  | case3 cs _ =>
    cases h
    exact Nat.succ_le_succ (Nat.zero_le _)
  | case4 c cs _ _ ih =>
    obtain ⟨⟨_, m⟩, hr, ⟨⟩⟩ := Option.map_eq_some_iff.1 h
    exact Nat.succ_le_succ (ih hr)

theorem quotedName?_length_le {cs name : List Char} {n : Nat}
    (h : quotedName? cs = some (name, n)) : n ≤ cs.length := by
  fun_induction quotedName? cs generalizing name n with
  | case1 => cases h
  | case2 cs =>
    cases h
    exact Nat.succ_le_succ (Nat.zero_le _)
  | case3 c cs _ ih =>
    obtain ⟨⟨_, m⟩, hr, ⟨⟩⟩ := Option.map_eq_some_iff.1 h
    exact Nat.succ_le_succ (ih hr)

/-- A token takes no more characters than there are. -/
theorem front_length_le {cs : List Char} {t : Token} {n : Nat} (h : front cs = .token t n) :
    n ≤ cs.length := by
  obtain ⟨c, rest, rfl, hfront⟩ := front_eq_token h
  cases hfront with
  | mark hm => exact mark?_length_le hm
  | text _ hr => exact Nat.succ_le_succ (quotedText?_length_le hr)
  | quoted _ hr => exact Nat.succ_le_succ (quotedName?_length_le hr)
  | word => exact Nat.succ_le_succ (List.takeWhile_sublist isNamePart).length_le
  | number => exact numberLength_le (c :: rest)

/-! ### Tokens of both texts -/

namespace Cursor

/-- A cursor with more text behind. -/
def followedBy (c : Cursor) (b : List Char) : Cursor := ⟨c.rest ++ b, c.position⟩

/-- What is passed within a text is passed as well with more behind it. -/
theorem skip_followedBy {c : Cursor} {n : Nat} (hn : n ≤ c.rest.length) (b : List Char) :
    (c.followedBy b).skip n = (c.skip n).followedBy b := by
  simp only [followedBy, skip]
  rw [List.drop_append_of_le_length hn, List.take_append_of_le_length hn]

/-- Passing all of a text and some of what is behind it. -/
theorem skip_length_add (a b : List Char) (n : Nat) (p : Position) :
    (Cursor.mk (a ++ b) p).skip (a.length + n) = (Cursor.mk b (p.after a)).skip n := by
  simp only [skip]
  rw [← List.drop_drop, List.drop_left, List.take_length_add_append, Position.after_append]

/-- A text of blanks and comments is passed over. -/
theorem next_of_gap {a b : List Char} (h : gap (a ++ b) = (gap b).behind a.length) (p : Position) :
    (Cursor.mk (a ++ b) p).next = (Cursor.mk b (p.after a)).next := by
  have hend : (Cursor.mk (a ++ b) p).toEnd = (Cursor.mk b (p.after a)).toEnd := by
    simp only [toEnd]
    rw [Position.after_append]
  unfold next
  simp only [h]
  cases gap b with
  | clear n => simp only [Gap.behind, skip_length_add]
  | unclosed n => simp only [Gap.behind, skip_length_add, hend]

/-- A token before a line feed, with what stands in front of it. -/
theorem next_followedBy {c c' : Cursor} {t : PlacedToken} (h : c.next = (.ok t, c'))
    (ht : t.token ≠ .endOfInput) (b : List Char) :
    (c.followedBy ('\n' :: b)).next = (.ok t, c'.followedBy ('\n' :: b)) := by
  obtain ⟨n, hgap, ⟨-, rfl, -⟩ | ⟨length, hfront, rfl, hstart, hstop, -⟩⟩ := next_eq_ok h
  · exact absurd rfl ht
  · obtain ⟨hle, hbreak⟩ := gap_append c.rest b hgap
    -- A token begins behind the gap, so the gap does not reach the end of the text.
    have hlt : n < c.rest.length := Nat.lt_of_not_le fun hle =>
      (front_token_length hfront).2 (List.drop_eq_nil_of_le hle)
    rw [brokenGap, if_pos hlt] at hbreak
    have hfront' : front ((c.rest ++ '\n' :: b).drop n) = .token t.token length := by
      rw [List.drop_append_of_le_length hle]
      exact front_append hfront b
    have hskip := skip_followedBy hle ('\n' :: b)
    have hskip' := skip_followedBy (c := c.skip n) (front_length_le hfront) ('\n' :: b)
    rw [next_token (c := c.followedBy _) hbreak hfront', hskip, hskip']
    obtain ⟨token, start, stop⟩ := t
    cases hstart
    cases hstop
    rfl

/-- The end of a text before a line feed: what is behind the line feed follows. -/
theorem next_followedBy_of_end {c c' : Cursor} {t : PlacedToken} (h : c.next = (.ok t, c'))
    (ht : t.token = .endOfInput) (b : List Char) :
    (c.followedBy ('\n' :: b)).next =
      (Cursor.mk b (c.position.after (c.rest ++ ['\n']))).next := by
  obtain ⟨n, hgap, ⟨hfront, -⟩ | ⟨_, -, -, -, -, hne⟩⟩ := next_eq_ok h
  · obtain ⟨hle, hbreak⟩ := gap_append c.rest b hgap
    -- Nothing begins behind the gap, so the gap is all there is.
    have hend : c.rest.length ≤ n := List.drop_eq_nil_iff.1 (front_eq_finished hfront)
    rw [brokenGap, if_neg (Nat.not_lt.2 hend)] at hbreak
    rw [followedBy]
    rw [List.append_cons c.rest] at hbreak ⊢
    exact next_of_gap (by rw [hbreak, List.length_append, List.length_singleton]) _
  · exact absurd ht hne

/-- Passing characters does not change where a text ends. -/
theorem after_skip (c : Cursor) (n : Nat) (b : List Char) :
    (c.skip n).position.after ((c.skip n).rest ++ b) = c.position.after (c.rest ++ b) := by
  simp only [skip]
  rw [← Position.after_append, ← List.append_assoc, List.take_append_drop]

theorem after_next {c c' : Cursor} {t : PlacedToken} (h : c.next = (.ok t, c')) (b : List Char) :
    c'.position.after (c'.rest ++ b) = c.position.after (c.rest ++ b) := by
  obtain ⟨n, -, ⟨-, -, rfl⟩ | ⟨length, -, rfl, -⟩⟩ := next_eq_ok h
  · rw [after_skip]
  · rw [after_skip, after_skip]

/-- A text that has tokens keeps them, but for the end of input, when a line feed and another text follow. The
    tokens of the other text come behind. -/
theorem tokens_followedBy {c : Cursor} {ts : List PlacedToken} (h : c.tokens = .ok ts)
    (b : List Char) : (c.followedBy ('\n' :: b)).tokens =
      (Cursor.mk b (c.position.after (c.rest ++ ['\n']))).tokens.map (ts.dropLast ++ ·) := by
  -- Token by token: each but the last stays, and the last gives way to the other text.
  induction ts generalizing c with
  | nil => exact absurd rfl (tokens_ne_nil h)
  | cons u ts ih =>
    obtain ⟨t, c', hnext, ⟨hend, hts⟩ | ⟨hne, ts', hts', hts⟩⟩ := tokens_eq_ok h <;> cases hts
    · rw [tokens_eq, next_followedBy_of_end hnext hend, ← tokens_eq]
      cases (Cursor.mk b (c.position.after (c.rest ++ ['\n']))).tokens <;> rfl
    · rw [tokens_cons (next_followedBy hnext hne b) hne, ih hts', after_next hnext,
        List.dropLast_cons_of_ne_nil (tokens_ne_nil hts')]
      cases (Cursor.mk b (c.position.after (c.rest ++ ['\n']))).tokens <;> rfl

end Cursor

/-! ### Tokens of a text behind a line feed -/

/-- How places move when a text stands behind another and a line feed. -/
def lineBreak (a : List Char) : Position → Position :=
  Position.shift (a.count '\n' + 1) ((a.map Char.utf8Size).sum + 1)

/-- The tokens of two texts with a line feed in between are those of the first, but for the end of input, and
    then those of the second where they stand now. If the second has none, neither have both. -/
theorem tokenize_append {a : String} {ts : List PlacedToken} (h : tokenize a = .ok ts) (b : String) :
    tokenize (a ++ "\n" ++ b) =
      ((tokenize b).map fun us => ts.dropLast ++ us.map (.mapPlaces (lineBreak a.toList))).mapError
        (.mapPlace (lineBreak a.toList)) := by
  have hcarries : Position.Carries (lineBreak a.toList) (Cursor.ofText b.toList).position :=
    Position.carries_shift _ _ _
  have hplace : Cursor.mk b.toList (Position.start.after (a.toList ++ ['\n'])) =
      (Cursor.ofText b.toList).mapPlace (lineBreak a.toList) := by
    rw [Position.start_after_lineFeed]
    rfl
  have htext : (a ++ "\n" ++ b).toList = a.toList ++ '\n' :: b.toList := by
    rw [String.toList_append, String.toList_append, List.append_assoc]
    rfl
  calc tokenize (a ++ "\n" ++ b)
      = ((Cursor.ofText a.toList).followedBy ('\n' :: b.toList)).tokens := by
        rw [tokenize, htext]
        rfl
    _ = (Cursor.mk b.toList (Position.start.after (a.toList ++ ['\n']))).tokens.map
          (ts.dropLast ++ ·) := Cursor.tokens_followedBy h b.toList
    _ = _ := by
        rw [hplace, Cursor.tokens_mapPlace hcarries, tokenize]
        cases (Cursor.ofText b.toList).tokens <;> rfl

/-- The bytes of a text are those of its characters. -/
theorem utf8ByteSize_eq_sum (text : String) :
    text.utf8ByteSize = (text.toList.map Char.utf8Size).sum := by
  suffices h : ∀ cs : List Char, (String.ofList cs).utf8ByteSize = (cs.map Char.utf8Size).sum by
    rw [← h, String.ofList_toList]
  intro cs
  induction cs with
  | nil => rfl
  | cons c cs ih =>
    rw [String.ofList_cons, String.utf8ByteSize_append, ih, String.utf8ByteSize_singleton, List.map_cons,
      List.sum_cons]

/-- Behind a text that has tokens and a line feed, a second text has the tokens that it has by itself, and fails
    as it does by itself. Lines move by the line feeds of the first text and one, bytes by its bytes and one, and
    columns not at all. The tokens of the first text come before, but for the end of input. -/
theorem tokenize_lineFeed {a : String} {ts : List PlacedToken} (h : tokenize a = .ok ts) (b : String) :
    let moved : Position → Position := Position.shift (a.toList.count '\n' + 1) (a.utf8ByteSize + 1)
    ∃ init last, ts = init ++ [last] ∧ last.token = .endOfInput ∧ (∀ t ∈ init, t.token ≠ .endOfInput) ∧
      (∀ us, tokenize b = .ok us → tokenize (a ++ "\n" ++ b) = .ok (init ++ us.map (.mapPlaces moved))) ∧
      ∀ err, tokenize b = .error err → tokenize (a ++ "\n" ++ b) = .error (err.mapPlace moved) := by
  intro moved
  have hmoved : lineBreak a.toList = moved := by
    show Position.shift _ _ = Position.shift _ _
    rw [utf8ByteSize_eq_sum]
  have hjoined := tokenize_append h b
  rw [hmoved] at hjoined
  obtain ⟨init, last, rfl, hlast, hinit⟩ := Cursor.tokens_ended h
  refine ⟨init, last, rfl, hlast, hinit, ?_, ?_⟩
  · intro us hus
    rw [hjoined, hus, List.dropLast_concat]
    rfl
  · intro err herr
    rw [hjoined, herr]
    rfl

/-- An assignment in the second line. -/
theorem tokenize_lineFeed_assignment :
    tokenize "x" = .ok [⟨.identifier "x", ⟨1, 1, 0⟩, ⟨1, 2, 1⟩⟩, ⟨.endOfInput, ⟨1, 2, 1⟩, ⟨1, 2, 1⟩⟩] ∧
    tokenize ("x" ++ "\n" ++ "x:=1;") =
      .ok [⟨.identifier "x", ⟨1, 1, 0⟩, ⟨1, 2, 1⟩⟩, ⟨.identifier "x", ⟨2, 1, 2⟩, ⟨2, 2, 3⟩⟩,
        ⟨.mark .assign, ⟨2, 2, 3⟩, ⟨2, 4, 5⟩⟩, ⟨.number "1", ⟨2, 4, 5⟩, ⟨2, 5, 6⟩⟩,
        ⟨.mark .semicolon, ⟨2, 5, 6⟩, ⟨2, 6, 7⟩⟩, ⟨.endOfInput, ⟨2, 6, 7⟩, ⟨2, 6, 7⟩⟩] := by
  refine ⟨tokenize_letter, ?_⟩
  obtain ⟨init, last, hts, -, -, hjoined, -⟩ := tokenize_lineFeed tokenize_letter "x:=1;"
  have hinit : init = [⟨.identifier "x", ⟨1, 1, 0⟩, ⟨1, 2, 1⟩⟩] := by
    have hfront := congrArg List.dropLast hts
    rw [List.dropLast_concat] at hfront
    exact hfront.symm
  rw [hjoined _ tokenize_assignment, hinit]
  rfl

end AssignScript
