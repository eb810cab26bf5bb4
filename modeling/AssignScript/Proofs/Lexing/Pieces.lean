import Mathlib.Data.Option.Basic
import AssignScript.Proofs.Lexing.LineBreak
import AssignScript.Span

/-!
# Pieces of a text

The scanner looks at some characters behind those that it takes. What it takes is decided by the characters
taken alone, though: with the text cut off behind a token, the token stays what it is. So the piece of a text
from one token to another has the tokens that stand there, and no others.

## Main definitions

* `Position.seenFrom`: a place of a text in a piece of it;
* `lastStop`: the place behind some tokens.

## Main statements

* `gap_of_append`, `front_of_append`: what reaches no further than a cut is read from what is before it;
* `Cursor.tokens_cut`: the tokens on either side of a cut;
* `Cursor.tokens_piece`: the tokens of a piece of a text.
-/

namespace AssignScript

open Text

/-! ### Places in a piece -/

namespace Position

/-- A place of a text, in the piece of the text that begins at `p`. -/
def seenFrom (p q : Position) : Position :=
  ⟨q.line - p.line + 1, if q.line = p.line then q.column - p.column + 1 else q.column,
    q.offset - p.offset⟩

theorem seenFrom_self (p : Position) : p.seenFrom p = start := by
  simp only [seenFrom, Nat.sub_self, if_pos, Nat.zero_add, start]

theorem seenFrom_step {p q : Position} {c : Char} (hline : p.line ≤ q.line)
    (hoffset : p.offset ≤ q.offset) (hcolumn : q.line = p.line → p.column ≤ q.column) :
    p.seenFrom (q.step c) = (p.seenFrom q).step c := by
  by_cases hc : c = '\n'
  · have hne : q.line + 1 ≠ p.line := by omega
    simp only [step, if_pos hc, seenFrom, if_neg hne, mk.injEq, true_and]
    omega
  · simp only [step, if_neg hc, seenFrom, mk.injEq, true_and]
    by_cases hsame : q.line = p.line
    · have hle := hcolumn hsame
      simp only [if_pos hsame]
      omega
    · simp only [if_neg hsame, true_and]
      omega

theorem carries_seenFrom (p : Position) : Carries p.seenFrom p := by
  -- The places behind `p` come behind it in line, and in column if they are in the same line.
  suffices h : ∀ cs q, p.line ≤ q.line → p.offset ≤ q.offset →
      (q.line = p.line → p.column ≤ q.column) →
      p.seenFrom (q.after cs) = (p.seenFrom q).after cs from
    fun cs => h cs p (Nat.le_refl _) (Nat.le_refl _) fun _ => Nat.le_refl _
  intro cs
  induction cs with
  | nil =>
    intros
    rfl
  | cons c cs ih =>
    intro q hline hoffset hcolumn
    rw [after_cons, after_cons, ← seenFrom_step hline hoffset hcolumn]
    by_cases hc : c = '\n'
    · simp only [step, if_pos hc] at ih ⊢
      exact ih _ (by simp only; omega) (by simp only; omega) (by simp only; omega)
    · simp only [step, if_neg hc] at ih ⊢
      refine ih _ hline (by simp only; omega) fun hsame => ?_
      have hle := hcolumn hsame
      simp only
      omega

end Position

/-! ### Slices at places -/

theorem splitAtByte?_append (a b : List Char) :
    splitAtByte? (a ++ b) (a.map Char.utf8Size).sum = some (a, b) := by
  induction a with
  | nil =>
    cases b <;> rfl
  | cons c cs ih =>
    have hpos := Char.utf8Size_pos c
    obtain ⟨k, hk⟩ : ∃ k, ((c :: cs).map Char.utf8Size).sum = k + 1 := by
      refine Nat.exists_eq_succ_of_ne_zero ?_
      rw [List.map_cons, List.sum_cons]
      omega
    have hrest : k + 1 - c.utf8Size = (cs.map Char.utf8Size).sum := by
      rw [List.map_cons, List.sum_cons] at hk
      omega
    have hle : c.utf8Size ≤ k + 1 := by
      rw [List.map_cons, List.sum_cons] at hk
      omega
    rw [hk, List.cons_append, splitAtByte?, if_pos hle, hrest, ih]
    rfl

/-- The span between the two ends of a piece of a text has the piece for its text. -/
theorem Span.ofSource_after (a b c : List Char) :
    Span.ofSource (a ++ (b ++ c)) (Position.start.after a) ((Position.start.after a).after b) =
      ⟨Position.start.after a, (Position.start.after a).after b, String.ofList b⟩ := by
  have hoffset : (Position.start.after a).offset = (a.map Char.utf8Size).sum := by
    rw [Position.offset_after, Position.start, Nat.zero_add]
  have hslice : sliceBytes? (a ++ (b ++ c)) (Position.start.after a).offset
      ((Position.start.after a).after b).offset = some b := by
    rw [Position.offset_after (Position.start.after a), hoffset, sliceBytes?, guard, if_pos (Nat.le_add_right _ _),
      Nat.add_sub_cancel_left, splitAtByte?_append]
    change (splitAtByte? (b ++ c) _).bind (fun parts => some parts.1) = some b
    rw [splitAtByte?_append]
    rfl
  rw [Span.ofSource, hslice]
  rfl

/-! ### Blanks and comments before a cut -/

section

variable {a b : List Char} {n : Nat}

theorem lineCommentLength_of_append (h : lineCommentLength (a ++ b) ≤ a.length) :
    lineCommentLength a = lineCommentLength (a ++ b) := by
  induction a with
  | nil => exact (Nat.le_zero.1 h).symm
  | cons c cs ih =>
    simp only [List.cons_append, lineCommentLength, List.length_cons] at h ⊢
    by_cases hc : c = '\n'
    · rw [if_pos hc, if_pos hc]
    · rw [if_neg hc] at h ⊢
      rw [if_neg hc, ih (by omega)]

theorem blockCommentLength?_pos {cs : List Char} (h : blockCommentLength? cs = some n) : 2 ≤ n := by
  fun_induction blockCommentLength? cs generalizing n with
  | case1 => cases h
  | case2 cs =>
    cases h
    exact Nat.le_refl 2
  | case3 c cs _ ih =>
    obtain ⟨m, hm, rfl⟩ := Option.map_eq_some_iff.1 h
    exact Nat.le_succ_of_le (ih hm)

theorem blockCommentLength?_of_append (h : blockCommentLength? (a ++ b) = some n)
    (hn : n ≤ a.length) : blockCommentLength? a = some n := by
  fun_induction blockCommentLength? a generalizing n with
  | case1 =>
    have hpos := blockCommentLength?_pos h
    simp only [List.length_nil] at hn
    omega
  | case2 cs => exact h
  | case3 c cs hopen ih =>
    rw [List.cons_append] at h
    simp only [List.length_cons] at hn
    -- Two characters close a comment, so one character before the cut does not.
    have hclose : ∀ ds, c = '*' → cs ++ b = '/' :: ds → False := by
      intro ds hc hds
      subst hc
      cases cs with
      | nil =>
        rw [List.nil_append] at hds
        rw [hds, List.nil_append, blockCommentLength?] at h
        cases h
        simp only [List.length_nil] at hn
        omega
      | cons d cs =>
        obtain ⟨rfl, -⟩ := List.cons.inj hds
        exact hopen cs rfl rfl
    rw [blockCommentLength?] at h
    · obtain ⟨m, hm, rfl⟩ := Option.map_eq_some_iff.1 h
      rw [ih hm (by omega)]
      rfl
    · exact hclose

theorem Gap.behind_eq_clear {g : Gap} {k : Nat} (h : g.behind k = .clear n) :
    ∃ m, g = .clear m ∧ n = k + m := by
  cases g with
  | clear m =>
    cases h
    exact ⟨m, rfl, rfl⟩
  | unclosed m => cases h

/-- A comment takes at least the characters that open it. -/
theorem two_le_of_gap_comment {d : Char} {ds : List Char} (hd : d = '/' ∨ d = '*')
    (h : gap ('/' :: d :: ds) = .clear n) : 2 ≤ n := by
  rcases hd with rfl | rfl
  · rw [gap_lineComment] at h
    obtain ⟨m, -, rfl⟩ := Gap.behind_eq_clear h
    omega
  · rw [gap.eq_def] at h
    simp only at h
    split at h
    · cases h
    · obtain ⟨m, -, rfl⟩ := Gap.behind_eq_clear h
      omega

/-- Blanks and comments that end before a cut are there without what is behind the cut. -/
theorem gap_of_append (h : gap (a ++ b) = .clear n) (hn : n < a.length) : gap a = .clear n := by
  fun_induction gap a generalizing n with
  | case1 => exact absurd hn (Nat.not_lt_zero n)
  | case2 cs ih =>
    rw [List.cons_append, List.cons_append, gap_lineComment] at h
    obtain ⟨m, hm, rfl⟩ := Gap.behind_eq_clear h
    simp only [List.length_cons] at hn
    have hlength : lineCommentLength cs = lineCommentLength (cs ++ b) :=
      lineCommentLength_of_append (by omega)
    rw [← hlength] at hm hn ⊢
    rw [List.drop_append_of_le_length (by omega)] at hm
    rw [ih hm (by rw [List.length_drop]; omega)]
    rfl
  | case3 cs hopen =>
    rw [List.cons_append, List.cons_append, gap.eq_def] at h
    simp only at h
    cases hblock : blockCommentLength? (cs ++ b) with
    | none =>
      rw [hblock] at h
      cases h
    | some k =>
      rw [hblock] at h
      obtain ⟨m, -, rfl⟩ := Gap.behind_eq_clear h
      simp only [List.length_cons] at hn
      have hclosed := blockCommentLength?_of_append hblock (by omega)
      rw [hopen] at hclosed
      cases hclosed
  | case4 cs k hk ih =>
    obtain ⟨hle, hsame⟩ := blockCommentLength?_append hk b
    rw [List.cons_append, List.cons_append, gap_blockComment hsame,
      List.drop_append_of_le_length hle] at h
    obtain ⟨m, hm, rfl⟩ := Gap.behind_eq_clear h
    simp only [List.length_cons] at hn
    rw [ih hm (by rw [List.length_drop]; omega)]
    rfl
  | case5 c cs hline hblock hblank ih =>
    -- A blank is no slash.
    have hc : c ≠ '/' := by
      rintro rfl
      exact absurd hblank (by decide)
    rw [List.cons_append, gap_cons_of_ne hc, if_pos hblank] at h
    obtain ⟨m, hm, rfl⟩ := Gap.behind_eq_clear h
    simp only [List.length_cons] at hn
    rw [ih hm (by omega)]
    rfl
  | case6 c cs hline hblock hblank =>
    -- A slash before the cut opens no comment with what is behind: that would reach over the cut.
    have hopen : ∀ d ds, d = '/' ∨ d = '*' → c = '/' → cs ++ b = d :: ds → False := by
      intro d ds hd hc hds
      subst hc
      cases cs with
      | nil =>
        rw [List.nil_append] at hds
        subst hds
        exact absurd (two_le_of_gap_comment hd h) (Nat.not_le_of_lt (Nat.lt_succ_of_lt hn))
      | cons e cs =>
        obtain ⟨rfl, -⟩ := List.cons.inj hds
        rcases hd with rfl | rfl
        · exact hline cs rfl rfl
        · exact hblock cs rfl rfl
    rw [List.cons_append, gap_cons (hopen '/' · (.inl rfl)) (hopen '*' · (.inr rfl)),
      if_neg hblank] at h
    exact h

/-- Behind blanks and comments there are none. -/
theorem gap_drop {cs : List Char} (h : gap cs = .clear n) : gap (cs.drop n) = .clear 0 := by
  fun_induction gap cs generalizing n with
  | case1 =>
    cases h
    exact gap_nil
  | case2 cs ih =>
    obtain ⟨m, hm, rfl⟩ := Gap.behind_eq_clear h
    rw [← List.drop_drop]
    exact ih hm
  | case3 cs hopen => cases h
  | case4 cs k hk ih =>
    obtain ⟨m, hm, rfl⟩ := Gap.behind_eq_clear h
    rw [← List.drop_drop]
    exact ih hm
  | case5 c cs hline hblock hblank ih =>
    obtain ⟨m, hm, rfl⟩ := Gap.behind_eq_clear h
    rw [← List.drop_drop]
    exact ih hm
  | case6 c cs hline hblock hblank =>
    cases h
    rw [List.drop_zero, gap_cons (fun ds hc hds => hline ds hc hds) (fun ds hc hds => hblock ds hc hds),
      if_neg hblank]

end

/-! ### Tokens before a cut -/

section

variable {a b : List Char} {n : Nat}

theorem takeWhile_of_append {p : Char → Bool} (h : ((a ++ b).takeWhile p).length ≤ a.length) :
    a.takeWhile p = (a ++ b).takeWhile p := by
  rw [List.takeWhile_append] at h ⊢
  by_cases hall : (a.takeWhile p).length = a.length
  · rw [if_pos hall] at h ⊢
    rw [List.length_append] at h
    have hnone : b.takeWhile p = [] := List.eq_nil_of_length_eq_zero (by omega)
    rw [hnone, List.append_nil]
    exact (List.takeWhile_prefix p).eq_of_length hall
  · rw [if_neg hall]

theorem digitRun_of_append (a b : List Char) : digitRun a = min a.length (digitRun (a ++ b)) := by
  have hle := digitRun_le a
  simp only [digitRun] at hle ⊢
  rw [List.takeWhile_append]
  by_cases hall : (a.takeWhile isAsciiDigit).length = a.length
  · rw [if_pos hall, List.length_append]
    omega
  · rw [if_neg hall]
    omega

theorem fractionLength_of_append (h : fractionLength (a ++ b) ≤ a.length) :
    fractionLength a = fractionLength (a ++ b) := by
  cases a with
  | nil => exact (Nat.le_zero.1 h).symm
  | cons c cs =>
    by_cases hc : c = '.'
    · subst hc
      have hrun := digitRun_of_append cs b
      simp only [List.cons_append, fractionLength, List.length_cons] at h ⊢
      by_cases hnone : digitRun (cs ++ b) = 0
      · rw [if_pos hnone, if_pos (by omega)]
      · rw [if_neg hnone] at h ⊢
        have hsame : digitRun cs = digitRun (cs ++ b) := by omega
        rw [hsame, if_neg hnone]
    · have hnone : ∀ ds, fractionLength (c :: ds) = 0 := by
        intro ds
        rw [fractionLength]
        exact fun es hes => hc (List.cons.inj hes).1
      rw [List.cons_append, hnone, hnone]

/-- The length of a sign. -/
def signLength : List Char → Nat
  | '+' :: _ | '-' :: _ => 1
  | _ => 0

theorem signLength_of_append (ha : a ≠ []) (b : List Char) : signLength (a ++ b) = signLength a := by
  cases a with
  | nil => exact absurd rfl ha
  | cons c cs =>
    by_cases hplus : c = '+'
    · subst hplus
      rfl
    · by_cases hminus : c = '-'
      · subst hminus
        rfl
      · have hnone : ∀ ds, signLength (c :: ds) = 0 := by
          intro ds
          rw [signLength]
          · exact fun es hes => hplus (List.cons.inj hes).1
          · exact fun es hes => hminus (List.cons.inj hes).1
        rw [List.cons_append, hnone, hnone]

theorem exponentLength_cons {c : Char} (hc : c = 'e' ∨ c = 'E') (cs : List Char) :
    exponentLength (c :: cs) = if digitRun (cs.drop (signLength cs)) = 0 then 0
      else digitRun (cs.drop (signLength cs)) + (signLength cs + 1) := by
  simp only [exponentLength, if_pos hc]
  split
  · rfl
  · rfl
  · next hplus hminus =>
    have hnone : signLength cs = 0 := by
      rw [signLength]
      · exact hplus
      · exact hminus
    rw [hnone]
    rfl

theorem exponentLength_of_append (h : exponentLength (a ++ b) ≤ a.length) :
    exponentLength a = exponentLength (a ++ b) := by
  cases a with
  | nil => exact (Nat.le_zero.1 h).symm
  | cons c cs =>
    by_cases hc : c = 'e' ∨ c = 'E'
    · rw [List.cons_append, exponentLength_cons hc, exponentLength_cons hc]
      rw [List.cons_append, exponentLength_cons hc, List.length_cons] at h
      by_cases hcs : cs = []
      · -- An exponent is longer than its letter.
        subst hcs
        rw [List.nil_append] at h ⊢
        by_cases hnone : digitRun (b.drop (signLength b)) = 0
        · rw [if_pos hnone]
          rfl
        · rw [if_neg hnone, List.length_nil] at h
          omega
      · have hle : signLength cs ≤ cs.length := by
          have hpos := List.length_pos_iff.2 hcs
          unfold signLength
          split <;> omega
        have hrun := digitRun_of_append (cs.drop (signLength cs)) b
        rw [List.length_drop] at hrun
        rw [signLength_of_append hcs, List.drop_append_of_le_length hle] at h ⊢
        by_cases hnone : digitRun (cs.drop (signLength cs) ++ b) = 0
        · rw [if_pos hnone, if_pos (by omega)]
        · rw [if_neg hnone] at h ⊢
          have hsame : digitRun (cs.drop (signLength cs)) =
              digitRun (cs.drop (signLength cs) ++ b) := by omega
          rw [hsame, if_neg hnone]
    · have hnone : ∀ ds, exponentLength (c :: ds) = 0 := fun ds => if_neg hc
      rw [List.cons_append, hnone, hnone]

theorem numberLength_of_append (h : numberLength (a ++ b) ≤ a.length) :
    numberLength a = numberLength (a ++ b) := by
  have hrun := digitRun_of_append a b
  simp only [numberLength] at h ⊢
  have hwhole : digitRun a = digitRun (a ++ b) := by omega
  rw [← hwhole] at h ⊢
  rw [List.drop_append_of_le_length (by omega)] at h ⊢
  have hfraction : fractionLength (a.drop (digitRun a)) = fractionLength (a.drop (digitRun a) ++ b) :=
    fractionLength_of_append (by rw [List.length_drop]; omega)
  rw [← hfraction] at h ⊢
  rw [List.drop_append_of_le_length (by omega)] at h ⊢
  have hexponent := exponentLength_of_append
    (a := a.drop (digitRun a + fractionLength (a.drop (digitRun a)))) (b := b)
    (by rw [List.length_drop]; omega)
  rw [hexponent]

theorem ne_cons_of_take {k : Nat} {c : Char} (h : ∀ ds, a = c :: ds → False) :
    ∀ ds, a.take k = c :: ds → False := by
  intro ds hds
  apply h (ds ++ a.drop k)
  rw [← List.cons_append, ← hds, List.take_append_drop]

theorem ne_cons_cons_of_take {k : Nat} {c d : Char} (h : ∀ ds, a = c :: d :: ds → False) :
    ∀ ds, a.take k = c :: d :: ds → False := by
  intro ds hds
  apply h (ds ++ a.drop k)
  rw [← List.cons_append, ← List.cons_append, ← hds, List.take_append_drop]

/-- A mark is decided by two characters. -/
theorem mark?_take (cs : List Char) : mark? (cs.take 2) = mark? cs := by
  fun_cases mark? cs
  case case3 h₁ h₂ =>
    rw [List.take_succ_cons, mark?]
    · exact ne_cons_of_take h₁
    · exact ne_cons_of_take h₂
  case case5 h =>
    rw [List.take_succ_cons, mark?]
    exact ne_cons_of_take h
  case case17 =>
    rw [mark?]
    all_goals first
      | exact ne_cons_of_take ‹_›
      | exact ne_cons_cons_of_take ‹_›
  all_goals rfl

theorem mark?_of_append {m : Mark} (h : mark? (a ++ b) = some (m, n)) (hn : n ≤ a.length) :
    mark? a = some (m, n) := by
  match a with
  | [] =>
    have hpos := mark?_length_pos h
    exact absurd hn (Nat.not_le.2 hpos)
  | c :: d :: cs =>
    rw [← mark?_take] at h ⊢
    exact h
  | [c] =>
    -- A mark of one character is there by itself.
    unfold mark? at h
    split at h <;> cases h
    all_goals first
      | exact absurd hn (Nat.not_succ_le_self 1)
      | next hcs =>
        obtain ⟨rfl, -⟩ := List.cons.inj hcs
        rfl

theorem ne_cons_of_append {c : Char} (h : ∀ ds, a ++ b = c :: ds → False) :
    ∀ ds, a = c :: ds → False := by
  intro ds hds
  apply h (ds ++ b)
  rw [hds, List.cons_append]

theorem ne_cons_cons_of_append {c d : Char} (h : ∀ ds, a ++ b = c :: d :: ds → False) :
    ∀ ds, a = c :: d :: ds → False := by
  intro ds hds
  apply h (ds ++ b)
  rw [hds, List.cons_append, List.cons_append]

theorem quotedText?_pos {cs content : List Char} (h : quotedText? cs = some (content, n)) :
    0 < n := by
  unfold quotedText? at h
  split at h
  · cases h
  · obtain ⟨r, -, hr⟩ := Option.map_eq_some_iff.1 h
    cases hr
    exact Nat.succ_pos _
  · cases h
    exact Nat.succ_pos _
  · obtain ⟨r, -, hr⟩ := Option.map_eq_some_iff.1 h
    cases hr
    exact Nat.succ_pos _

theorem mark?_none_of_append (h : mark? (a ++ b) = none) : mark? a = none := by
  unfold mark? at h
  split at h
  case h_17 =>
    rw [mark?]
    all_goals first
      | exact ne_cons_of_append ‹_›
      | exact ne_cons_cons_of_append ‹_›
  all_goals cases h

theorem quotedText?_of_append {content : List Char} (h : quotedText? (a ++ b) = some (content, n))
    (hn : n ≤ a.length) : quotedText? a = some (content, n) := by
  fun_induction quotedText? a generalizing content n with
  | case1 =>
    have hpos := quotedText?_pos h
    exact absurd hn (Nat.not_le.2 hpos)
  | case2 cs ih =>
    rw [List.cons_append, List.cons_append, quotedText?] at h
    obtain ⟨⟨content, m⟩, hr, hcontent⟩ := Option.map_eq_some_iff.1 h
    cases hcontent
    rw [ih hr (Nat.le_of_succ_le_succ (Nat.le_of_succ_le_succ hn))]
    rfl
  | case3 cs hdouble =>
    rw [List.cons_append] at h
    -- A quote that is doubled only behind the cut would reach over the cut.
    have hsingle : ∀ ds, cs ++ b = '"' :: ds → False := by
      intro ds hds
      rw [hds, quotedText?] at h
      obtain ⟨⟨content, m⟩, -, hcontent⟩ := Option.map_eq_some_iff.1 h
      cases hcontent
      cases cs with
      | nil => exact absurd hn (Nat.not_le.2 (Nat.lt_of_lt_of_le Nat.one_lt_two (Nat.le_add_left 2 m)))
      | cons c cs =>
        obtain ⟨rfl, -⟩ := List.cons.inj hds
        exact hdouble cs rfl
    rw [quotedText?] at h
    · exact h
    · exact hsingle
  | case4 c cs hdouble hquote ih =>
    rw [List.cons_append, quotedText?] at h
    · obtain ⟨⟨content, m⟩, hr, hcontent⟩ := Option.map_eq_some_iff.1 h
      cases hcontent
      rw [ih hr (Nat.le_of_succ_le_succ hn)]
      rfl
    · exact fun _ hc => (hquote hc).elim
    · exact hquote

theorem quotedName?_pos {cs name : List Char} (h : quotedName? cs = some (name, n)) : 0 < n := by
  unfold quotedName? at h
  split at h
  · cases h
  · cases h
    exact Nat.succ_pos _
  · obtain ⟨r, -, hr⟩ := Option.map_eq_some_iff.1 h
    cases hr
    exact Nat.succ_pos _

theorem quotedName?_of_append {name : List Char} (h : quotedName? (a ++ b) = some (name, n))
    (hn : n ≤ a.length) : quotedName? a = some (name, n) := by
  fun_induction quotedName? a generalizing name n with
  | case1 =>
    have hpos := quotedName?_pos h
    exact absurd hn (Nat.not_le.2 hpos)
  | case2 cs => exact h
  | case3 c cs hquote ih =>
    rw [List.cons_append, quotedName?] at h
    · obtain ⟨⟨content, m⟩, hr, hname⟩ := Option.map_eq_some_iff.1 h
      cases hname
      rw [ih hr (Nat.le_of_succ_le_succ hn)]
      rfl
    · exact hquote

/-- A token that ends before a cut is there without what is behind the cut. -/
theorem front_of_append {t : Token} (h : front (a ++ b) = .token t n) (hn : n ≤ a.length) :
    front a = .token t n := by
  have hpos := (front_token_length h).1
  cases a with
  | nil =>
    simp only [List.length_nil] at hn
    omega
  | cons c cs =>
    rw [List.cons_append] at h
    simp only [front] at h ⊢
    rw [← List.cons_append] at h
    cases hm : mark? (c :: cs ++ b) with
    | some r =>
      rw [hm] at h
      cases h
      rw [mark?_of_append hm hn]
    | none =>
      rw [hm] at h
      rw [mark?_none_of_append hm]
      simp only at h ⊢
      by_cases htext : c = '"'
      · rw [if_pos htext] at h ⊢
        cases hr : quotedText? (cs ++ b) with
        | none =>
          rw [hr] at h
          cases h
        | some r =>
          rw [hr] at h
          cases h
          rw [quotedText?_of_append hr (Nat.le_of_succ_le_succ hn)]
      · rw [if_neg htext] at h ⊢
        by_cases hname : c = '\''
        · rw [if_pos hname] at h ⊢
          cases hr : quotedName? (cs ++ b) with
          | none =>
            rw [hr] at h
            cases h
          | some r =>
            rw [hr] at h
            cases h
            rw [quotedName?_of_append hr (Nat.le_of_succ_le_succ hn)]
        · rw [if_neg hname] at h ⊢
          by_cases hword : isNameStart c = true
          · rw [if_pos hword] at h ⊢
            cases h
            rw [takeWhile_of_append (Nat.le_of_succ_le_succ hn)]
          · rw [if_neg hword] at h ⊢
            by_cases hdigit : isAsciiDigit c = true
            · rw [if_pos hdigit] at h ⊢
              cases h
              rw [numberLength_of_append hn, List.take_append_of_le_length hn]
            · rw [if_neg hdigit] at h
              cases h

end

/-! ### Tokens on either side of a cut -/

namespace Cursor

variable {c c' : Cursor} {a b : List Char} {t : PlacedToken}

/-- A token that ends before a cut is the next one without what is behind the cut. -/
theorem next_of_followedBy (h : (c.followedBy b).next = (.ok t, c'.followedBy b))
    (ht : t.token ≠ .endOfInput) : c.next = (.ok t, c') := by
  obtain ⟨n, hgap, ⟨-, rfl, -⟩ | ⟨length, hfront, hc', hstart, hstop, -⟩⟩ := next_eq_ok h
  · exact absurd rfl ht
  · have hlength := front_length_le hfront
    have hpos := (front_token_length hfront).1
    -- What is passed is what is before the cut, but for what is left of it.
    have hrest := congrArg (fun c : Cursor => c.rest.length) hc'
    simp only [followedBy, skip, List.length_append, List.length_drop] at hrest hlength
    have hle : n + length ≤ c.rest.length := by omega
    have hskip := skip_followedBy (c := c) (n := n) (by omega) b
    have hskip' := skip_followedBy (c := c.skip n) (n := length)
      (by simp only [skip, List.length_drop]; omega) b
    have hgap' : gap c.rest = .clear n := gap_of_append hgap (by omega)
    have hfront' : front (c.rest.drop n) = .token t.token length := by
      rw [followedBy, List.drop_append_of_le_length (by omega)] at hfront
      exact front_of_append hfront (by rw [List.length_drop]; omega)
    rw [hskip, hskip'] at hc'
    have hc : c' = (c.skip n).skip length := by
      obtain ⟨rest, position⟩ := c'
      simp only [followedBy, Cursor.mk.injEq, List.append_cancel_right_eq] at hc'
      exact Cursor.mk.injEq .. ▸ hc'
    rw [next_token hgap' hfront', hc]
    obtain ⟨token, start, stop⟩ := t
    simp only at hstart hstop
    rw [hstart, hstop, hskip, hc]
    rfl

/-- Blanks and comments before the next token do not matter for it. -/
theorem tokens_skip_gap {n : Nat} (h : gap c.rest = .clear n) : (c.skip n).tokens = c.tokens := by
  have hgap : gap (c.skip n).rest = .clear 0 := gap_drop h
  have hskip : (c.skip n).skip 0 = c.skip n := rfl
  have hnext : (c.skip n).next = c.next := by
    unfold next
    simp only [h, hgap, hskip]
  rw [tokens_eq, hnext, ← tokens_eq]

/-- A cursor passes characters and counts them. -/
theorem next_passed (c : Cursor) : ∃ passed, c.rest = passed ++ c.next.2.rest ∧
    c.next.2.position = c.position.after passed := by
  have hskip : ∀ c : Cursor, ∀ n, c.rest = c.rest.take n ++ (c.skip n).rest := fun c n =>
    (List.take_append_drop n c.rest).symm
  unfold next
  cases gap c.rest with
  | unclosed n => exact ⟨c.rest, (List.append_nil _).symm, rfl⟩
  | clear n =>
    simp only
    cases front (c.skip n).rest with
    | finished => exact ⟨c.rest.take n, hskip c n, rfl⟩
    | unexpected d => exact ⟨c.rest.take n, hskip c n, rfl⟩
    | unterminated =>
      refine ⟨c.rest, (List.append_nil _).symm, ?_⟩
      show (c.position.after (c.rest.take n)).after (c.rest.drop n) = _
      rw [← Position.after_append, List.take_append_drop]
    | token t length =>
      refine ⟨c.rest.take n ++ (c.skip n).rest.take length, ?_, ?_⟩
      · rw [List.append_assoc, ← hskip (c.skip n), ← hskip c]
      · rw [Position.after_append]
        rfl

end Cursor

/-- The place behind some tokens that come behind a place. -/
def lastStop (p : Position) : List PlacedToken → Position
  | [] => p
  | t :: ts => lastStop t.stop ts

namespace Cursor

variable {c : Cursor} {ts us vs : List PlacedToken}

/-- A text can be cut behind each of its tokens: the tokens before the cut are those of the first part, and the
    tokens behind it those of the second. -/
theorem tokens_cut (h : c.tokens = .ok (ts ++ us)) (hus : us ≠ []) : ∃ a b, c.rest = a ++ b ∧
    lastStop c.position ts = c.position.after a ∧
    (Cursor.mk a c.position).tokens =
      .ok (ts ++ [⟨.endOfInput, c.position.after a, c.position.after a⟩]) ∧
    (Cursor.mk b (c.position.after a)).tokens = .ok us := by
  -- Token by token: what is behind the first token is cut by induction.
  induction ts generalizing c with
  | nil => exact ⟨[], c.rest, rfl, rfl, tokens_nil, h⟩
  | cons t ts ih =>
    obtain ⟨t, c', hnext, ⟨hend, hts⟩ | ⟨hne, ts', hts', hts⟩⟩ := tokens_eq_ok h
    · obtain ⟨-, hnil⟩ := List.cons.inj hts
      exact absurd (List.append_eq_nil_iff.1 hnil).2 hus
    · obtain ⟨rfl, rfl⟩ := List.cons.inj hts
      obtain ⟨a, b, hrest, hlast, ha, hb⟩ := ih hts'
      obtain ⟨passed, hpassed, hposition⟩ := next_passed c
      rw [hnext] at hpassed hposition
      simp only at hpassed hposition
      have hafter : c'.position.after a = c.position.after (passed ++ a) := by
        rw [hposition, Position.after_append]
      have hstop : t.stop = c'.position := by
        obtain ⟨n, -, ⟨-, rfl, -⟩ | ⟨length, -, -, -, hstop, -⟩⟩ := next_eq_ok hnext
        · exact absurd rfl hne
        · exact hstop
      have hcut : (Cursor.mk (passed ++ a) c.position).next = (.ok t, ⟨a, c'.position⟩) := by
        refine next_of_followedBy (b := b) ?_ hne
        have hc : (Cursor.mk (passed ++ a) c.position).followedBy b = c := by
          rw [followedBy, List.append_assoc, ← hrest, ← hpassed]
        have hc' : (Cursor.mk a c'.position).followedBy b = c' := by
          rw [followedBy, ← hrest]
        rw [hc, hc', hnext]
      refine ⟨passed ++ a, b, ?_, ?_, ?_, ?_⟩
      · rw [hpassed, hrest, List.append_assoc]
      · rw [lastStop, hstop, hlast, hafter]
      · rw [tokens_cons hcut hne, ha, hafter]
        rfl
      · rw [← hafter]
        exact hb

/-- The piece of a text with some of its tokens: in front of it there are blanks and comments behind the tokens
    before, and the tokens of the piece are the same as in the text, and behind them the end of input. -/
theorem tokens_piece (h : c.tokens = .ok (ts ++ (us ++ vs))) (hvs : vs ≠ []) :
    ∃ before skipped piece behind start stop, c.rest = before ++ (skipped ++ (piece ++ behind)) ∧
      start = c.position.after (before ++ skipped) ∧ stop = start.after piece ∧
      lastStop c.position ts = c.position.after before ∧
      gap (skipped ++ (piece ++ behind)) = .clear skipped.length ∧
      (∀ t ∈ (us ++ vs).head?, t.start = start) ∧ lastStop start us = stop ∧
      (Cursor.mk piece start).tokens = .ok (us ++ [⟨.endOfInput, stop, stop⟩]) := by
  have hne : us ++ vs ≠ [] := List.append_ne_nil_of_right_ne_nil us hvs
  obtain ⟨before, rest, hrest, hlast, -, htokens⟩ := tokens_cut h hne
  obtain ⟨t, c', hnext, hcases⟩ := tokens_eq_ok htokens
  have hhead : ∀ u ∈ (us ++ vs).head?, u = t := by
    intro u hu
    obtain ⟨-, hts⟩ | ⟨-, ts', -, hts⟩ := hcases <;>
    · rw [hts] at hu
      exact (Option.some.inj hu).symm
  obtain ⟨n, hgap, hfront⟩ := next_eq_ok hnext
  have hn : n ≤ rest.length := (gap_append rest [] hgap).1
  have hstart : t.start = (c.position.after before).after (rest.take n) := by
    obtain ⟨-, rfl, -⟩ | ⟨length, -, -, hstart, -⟩ := hfront
    · rfl
    · exact hstart
  have hbehind := (tokens_skip_gap hgap).trans htokens
  obtain ⟨piece, behind, hpiece, hstop, hown, -⟩ := tokens_cut hbehind hvs
  have hwhole : rest.take n ++ (piece ++ behind) = rest := by
    rw [← hpiece]
    exact List.take_append_drop n rest
  have hskip : (Cursor.mk rest (c.position.after before)).skip n =
      ⟨piece ++ behind, c.position.after (before ++ rest.take n)⟩ := by
    rw [Position.after_append, ← hpiece]
    rfl
  rw [hskip] at hstop hown
  refine ⟨before, rest.take n, piece, behind, _, _, ?_, rfl, rfl, hlast, ?_, ?_, hstop, hown⟩
  · rw [hwhole, hrest]
  · rw [hwhole, hgap, List.length_take, Nat.min_eq_left hn]
  · intro u hu
    rw [hhead u hu, hstart, Position.after_append]

/-- The tokens of a piece by itself are those that it has in the text, with their places seen from it. -/
theorem tokens_seenFrom {piece : List Char} {p : Position} (h : (Cursor.mk piece p).tokens = .ok ts) :
    tokenize (String.ofList piece) = .ok (ts.map (.mapPlaces p.seenFrom)) := by
  have hmove := tokens_mapPlace (c := ⟨piece, p⟩) (Position.carries_seenFrom p)
  rw [h] at hmove
  rw [tokenize, String.toList_ofList]
  simp only [mapPlace, Position.seenFrom_self] at hmove
  exact hmove

end Cursor

end AssignScript
