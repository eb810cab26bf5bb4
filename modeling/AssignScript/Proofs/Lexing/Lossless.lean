import Mathlib.Data.List.Induction
import AssignScript.Proofs.Lexing.Pieces

/-!
# What tokens keep of a text

Nothing of a text is lost between its tokens but blanks and comments, each token can be read again from its
own piece of the text, and every place that the scanner reports is exact, also where a text has no tokens.

## Main definitions

* `Position.IsBehind`: a place behind some characters, said without the scanner;
* `Trivia`: blanks and complete comments;
* `Lossless`: what holds of the tokens of a text;
* `call`: the outcomes of calling the scanner again and again.

## Main statements

* `scan_exact`: tokens are lossless and places are exact, and what calls report after an error.
-/

namespace AssignScript

open Text

/-! ### Exact places -/

/-- The place behind some characters, from the beginning of a text. -/
structure Position.IsBehind (p : Position) (before : List Char) : Prop where
  offset : p.offset = (before.map Char.utf8Size).sum
  line : p.line = 1 + before.count '\n'
  column : p.column = 1 + (before.reverse.takeWhile (· ≠ '\n')).length

theorem Position.isBehind_after (before : List Char) : (start.after before).IsBehind before := by
  refine ⟨?_, ?_, ?_⟩
  · rw [offset_after, start, Nat.zero_add]
  · rw [line_after, start]
  · induction before using List.reverseRecOn with
    | nil => rfl
    | append_singleton cs c ih =>
      rw [after_append, after_cons, after_nil, List.reverse_append, List.reverse_singleton,
        List.singleton_append]
      by_cases hc : c = '\n'
      · rw [step, if_pos hc, List.takeWhile_cons_of_neg (by simpa using hc)]
        rfl
      · rw [step, if_neg hc, List.takeWhile_cons_of_pos (by simpa using hc), ih, List.length_cons]
        rfl

/-! ### Blanks and comments -/

/-- Blanks and complete comments, with what is behind them. A comment up to the end of the line may also end with
    the text. -/
inductive Trivia (behind : List Char) : List Char → Prop where
  | nil : Trivia behind []
  | blank {c : Char} {cs : List Char} (hc : isBlank c = true) (h : Trivia behind cs) :
    Trivia behind (c :: cs)
  | line {body cs : List Char} (hbody : '\n' ∉ body) (h : Trivia behind cs) :
    Trivia behind ('/' :: '/' :: (body ++ '\n' :: cs))
  | lastLine {body : List Char} (hbody : '\n' ∉ body) (hend : behind = []) :
    Trivia behind ('/' :: '/' :: body)
  | block {body cs : List Char} (hbody : ¬ ['*', '/'] <:+: body ++ ['*']) (h : Trivia behind cs) :
    Trivia behind ('/' :: '*' :: (body ++ '*' :: '/' :: cs))

theorem lineCommentLength_cases (cs : List Char) :
    (∃ body rest, cs = body ++ '\n' :: rest ∧ '\n' ∉ body ∧
      lineCommentLength cs = body.length + 1) ∨
    ('\n' ∉ cs ∧ lineCommentLength cs = cs.length) := by
  induction cs with
  | nil => exact .inr ⟨List.not_mem_nil, rfl⟩
  | cons c cs ih =>
    rw [lineCommentLength]
    by_cases hc : c = '\n'
    · rw [if_pos hc, hc]
      exact .inl ⟨[], cs, rfl, List.not_mem_nil, rfl⟩
    · rw [if_neg hc]
      have hcons : ∀ {body}, '\n' ∉ body → '\n' ∉ c :: body := fun hbody hmem =>
        (List.mem_cons.1 hmem).elim (fun h => hc h.symm) hbody
      obtain ⟨body, rest, rfl, hbody, hlength⟩ | ⟨hcs, hlength⟩ := ih
      · exact .inl ⟨c :: body, rest, rfl, hcons hbody, by rw [hlength, List.length_cons]⟩
      · exact .inr ⟨hcons hcs, by rw [hlength, List.length_cons]⟩

theorem blockCommentLength?_cases {cs : List Char} {n : Nat}
    (h : blockCommentLength? cs = some n) :
    ∃ body rest, cs = body ++ '*' :: '/' :: rest ∧ ¬ ['*', '/'] <:+: body ++ ['*'] ∧
      n = body.length + 2 := by
  fun_induction blockCommentLength? cs generalizing n with
  | case1 => cases h
  | case2 rest =>
    cases h
    exact ⟨[], rest, rfl, by decide, rfl⟩
  | case3 c cs hopen ih =>
    obtain ⟨m, hm, rfl⟩ := Option.map_eq_some_iff.1 h
    obtain ⟨body, rest, rfl, hbody, rfl⟩ := ih hm
    refine ⟨c :: body, rest, rfl, ?_, rfl⟩
    intro hinfix
    rcases List.infix_cons_iff.1 hinfix with hprefix | hinfix
    · -- The comment would have ended at once.
      obtain ⟨hstar, hslash⟩ := List.cons_prefix_cons.1 hprefix
      cases body with
      | nil =>
        obtain ⟨hchar, -⟩ := List.cons_prefix_cons.1 hslash
        exact absurd hchar (by decide)
      | cons d body =>
        obtain ⟨rfl, -⟩ := List.cons_prefix_cons.1 hslash
        exact hopen _ hstar.symm rfl
    · exact hbody hinfix

/-- What the scanner passes in front of a token are blanks and complete comments. -/
theorem trivia_of_gap {cs : List Char} {n : Nat} (h : gap cs = .clear n) :
    Trivia (cs.drop n) (cs.take n) := by
  fun_induction gap cs generalizing n with
  | case1 =>
    cases h
    exact .nil
  | case2 cs ih =>
    obtain ⟨m, hm, rfl⟩ := Gap.behind_eq_clear h
    obtain ⟨body, rest, rfl, hbody, hlength⟩ | ⟨hcs, hlength⟩ := lineCommentLength_cases cs
    · have hrest : (body ++ '\n' :: rest).drop (body.length + 1) = rest := by
        rw [← List.drop_drop, List.drop_left, List.drop_succ_cons, List.drop_zero]
      rw [hlength, hrest] at hm ih
      have hcount : lineCommentLength (body ++ '\n' :: rest) + 2 + m = body.length + (m + 1) + 2 := by
        omega
      rw [hcount, List.drop_succ_cons, List.drop_succ_cons, List.take_succ_cons, List.take_succ_cons,
        ← List.drop_drop, List.drop_left, List.drop_succ_cons, List.take_length_add_append,
        List.take_succ_cons]
      exact .line hbody (ih hm)
    · -- The comment ends with the text.
      rw [hlength, List.drop_length, gap_nil] at hm
      cases hm
      rw [hlength, Nat.add_zero, List.drop_succ_cons, List.drop_succ_cons, List.take_succ_cons,
        List.take_succ_cons, List.drop_length, List.take_length]
      exact .lastLine hcs rfl
  | case3 cs hopen => cases h
  | case4 cs k hk ih =>
    obtain ⟨m, hm, rfl⟩ := Gap.behind_eq_clear h
    obtain ⟨body, rest, rfl, hbody, rfl⟩ := blockCommentLength?_cases hk
    have hrest : (body ++ '*' :: '/' :: rest).drop (body.length + 2) = rest := by
      rw [← List.drop_drop, List.drop_left, List.drop_succ_cons, List.drop_succ_cons, List.drop_zero]
    rw [hrest] at hm ih
    have hcount : body.length + 2 + 2 + m = body.length + (m + 2) + 2 := by omega
    rw [hcount, List.drop_succ_cons, List.drop_succ_cons, List.take_succ_cons, List.take_succ_cons,
      ← List.drop_drop, List.drop_left, List.drop_succ_cons, List.drop_succ_cons,
      List.take_length_add_append, List.take_succ_cons, List.take_succ_cons]
    exact .block hbody (ih hm)
  | case5 c cs hline hblock hblank ih =>
    obtain ⟨m, hm, rfl⟩ := Gap.behind_eq_clear h
    rw [Nat.add_comm, List.drop_succ_cons, List.take_succ_cons]
    exact .blank hblank (ih hm)
  | case6 c cs hline hblock hblank =>
    cases h
    exact .nil

/-! ### Tokens of a text -/

/-- What holds of the tokens of a text. -/
structure Lossless (text : List Char) (ts : List PlacedToken) : Prop where
  /-- The end of input is the last token and no other, and stands behind the whole text. -/
  ended : ∃ init p, ts = init ++ [⟨.endOfInput, p, p⟩] ∧ p.IsBehind text ∧
    ∀ t ∈ init, t.token ≠ .endOfInput
  /-- Every other token takes some bytes. -/
  filled : ∀ t ∈ ts, t.token ≠ .endOfInput → t.start.offset < t.stop.offset
  /-- Tokens come one behind the other. -/
  ordered : ts.Pairwise fun t u => t.stop.offset ≤ u.start.offset
  /-- Before each token, behind the one before it or the start of the text, there are only blanks and complete
      comments. -/
  between : ∀ ts₁ t ts₂, ts = ts₁ ++ t :: ts₂ → ∃ before skipped behind,
    text = before ++ (skipped ++ behind) ∧ (lastStop .start ts₁).IsBehind before ∧
      t.start.IsBehind (before ++ skipped) ∧ Trivia behind skipped
  /-- The piece of the text from the start to the stop of a token has that token, and none but the end of input
      behind it. -/
  own : ∀ t ∈ ts, t.token ≠ .endOfInput → ∃ before piece behind,
    text = before ++ (piece ++ behind) ∧ t.start.IsBehind before ∧
      t.stop.IsBehind (before ++ piece) ∧ ∃ p, p.IsBehind piece ∧
        tokenize (String.ofList piece) = .ok [⟨t.token, .start, p⟩, ⟨.endOfInput, p, p⟩]

namespace Position

theorem offset_le_after (p : Position) (cs : List Char) : p.offset ≤ (p.after cs).offset := by
  rw [offset_after]
  exact Nat.le_add_right _ _

theorem offset_lt_after (p : Position) {cs : List Char} (h : cs ≠ []) :
    p.offset < (p.after cs).offset := by
  obtain ⟨c, cs, rfl⟩ := List.exists_cons_of_ne_nil h
  have hpos := Char.utf8Size_pos c
  rw [offset_after, List.map_cons, List.sum_cons]
  omega

end Position

namespace Cursor

variable {c : Cursor} {ts : List PlacedToken}

theorem tokens_offsets (h : c.tokens = .ok ts) :
    (∀ t ∈ ts, c.position.offset ≤ t.start.offset) ∧
      (∀ t ∈ ts, t.token ≠ .endOfInput → t.start.offset < t.stop.offset) ∧
      ts.Pairwise fun t u => t.stop.offset ≤ u.start.offset := by
  induction ts generalizing c with
  | nil => exact absurd rfl (tokens_ne_nil h)
  | cons t ts ih =>
    obtain ⟨u, c', hnext, hcases⟩ := tokens_eq_ok h
    obtain ⟨n, -, hfront⟩ := next_eq_ok hnext
    have hstart : c.position.offset ≤ u.start.offset := by
      have hskip : c.position.offset ≤ (c.skip n).position.offset := Position.offset_le_after _ _
      obtain ⟨-, rfl, -⟩ | ⟨length, -, -, hstart, -⟩ := hfront
      · exact hskip
      · rwa [hstart]
    obtain ⟨hend, hts⟩ | ⟨hne, ts', hts', hts⟩ := hcases
    · cases hts
      refine ⟨fun u hu => ?_, fun u hu hne => ?_, List.pairwise_singleton _ _⟩
      · rw [List.mem_singleton.1 hu]
        exact hstart
      · rw [List.mem_singleton.1 hu] at hne
        exact absurd hend hne
    · cases hts
      obtain ⟨hbehind, hfilled, hordered⟩ := ih hts'
      obtain ⟨-, rfl, -⟩ | ⟨length, hfront, hc', htstart, htstop, -⟩ := hfront
      · exact absurd rfl hne
      · have hlt : t.start.offset < t.stop.offset := by
          have hpiece : (c.skip n).rest.take length ≠ [] := by
            obtain ⟨hpos, hrest⟩ := front_token_length hfront
            rw [Ne, List.take_eq_nil_iff]
            exact not_or.2 ⟨Nat.ne_of_gt hpos, hrest⟩
          rw [htstop, htstart, hc']
          exact Position.offset_lt_after _ hpiece
        refine ⟨List.forall_mem_cons.2 ⟨hstart, fun u hu => ?_⟩,
          List.forall_mem_cons.2 ⟨fun _ => hlt, hfilled⟩, List.pairwise_cons.2 ⟨fun u hu => ?_, hordered⟩⟩
        · have hle := hbehind u hu
          rw [← htstop] at hle
          omega
        · rw [htstop]
          exact hbehind u hu

end Cursor

/-- The end of input stands behind the whole text. -/
theorem Cursor.tokens_end {c : Cursor} {init : List PlacedToken} {last : PlacedToken}
    (h : c.tokens = .ok (init ++ [last])) (hend : last.token = .endOfInput) :
    last = ⟨.endOfInput, c.position.after c.rest, c.position.after c.rest⟩ := by
  obtain ⟨a, b, hrest, -, -, hb⟩ := tokens_cut h (List.cons_ne_nil last [])
  obtain ⟨t, c', hnext, ⟨-, hts⟩ | ⟨-, ts', hts', hts⟩⟩ := tokens_eq_ok hb
  · cases hts
    obtain ⟨n, -, ⟨hfinished, hlast, -⟩ | ⟨_, -, -, -, -, hne⟩⟩ := next_eq_ok hnext
    · have hall : b.take n = b := List.take_of_length_le (List.drop_eq_nil_iff.1
        (front_eq_finished hfinished))
      rw [hlast, skip]
      simp only
      rw [hall, ← Position.after_append, ← hrest]
    · exact absurd hend hne
  · obtain ⟨-, rfl⟩ := List.cons.inj hts
    exact absurd rfl (tokens_ne_nil hts')

theorem lossless_of_tokenize {text : String} {ts : List PlacedToken} (h : tokenize text = .ok ts) :
    Lossless text.toList ts := by
  obtain ⟨init, last, hinit, hlast, hne⟩ := Cursor.tokens_ended h
  obtain ⟨-, hfilled, hordered⟩ := Cursor.tokens_offsets h
  refine ⟨?_, hfilled, hordered, ?_, ?_⟩
  · subst hinit
    rw [Cursor.tokens_end h hlast]
    exact ⟨init, _, rfl, Position.isBehind_after _, hne⟩
  · rintro ts₁ t ts₂ rfl
    have hsplit : tokenize text = .ok (ts₁ ++ ([] ++ t :: ts₂)) := h
    obtain ⟨before, skipped, piece, behind, start, -, htext, rfl, -, hbefore, hgap, hstart, -⟩ :=
      Cursor.tokens_piece hsplit (List.cons_ne_nil t ts₂)
    refine ⟨before, skipped, piece ++ behind, htext, ?_, ?_, ?_⟩
    · rw [show lastStop .start ts₁ = _ from hbefore]
      exact Position.isBehind_after before
    · rw [hstart t rfl]
      exact Position.isBehind_after _
    · have htrivia := trivia_of_gap hgap
      rwa [List.drop_left, List.take_left] at htrivia
  · intro t ht htne
    obtain ⟨ts₁, ts₂, hts⟩ := List.append_of_mem ht
    have hts₂ : ts₂ ≠ [] := by
      rintro rfl
      have hlasts := (List.append_inj' (hinit.symm.trans hts) rfl).2
      cases hlasts
      exact htne hlast
    have hsplit : tokenize text = .ok (ts₁ ++ ([t] ++ ts₂)) := h.trans (congrArg _ hts)
    obtain ⟨before, skipped, piece, behind, start, stop, htext, hplace, hbehind, -, -, hstart, hstop,
      hown⟩ := Cursor.tokens_piece hsplit hts₂
    have htstart : t.start = start := hstart t rfl
    have htstop : t.stop = stop := hstop
    have hsub := Cursor.tokens_seenFrom hown
    have hmoved : start.seenFrom stop = Position.start.after piece := by
      rw [hbehind, Position.carries_seenFrom, Position.seenFrom_self]
    refine ⟨before ++ skipped, piece, behind, ?_, ?_, ?_, _, Position.isBehind_after piece, ?_⟩
    · rw [List.append_assoc]
      exact htext
    · rw [htstart, hplace]
      exact Position.isBehind_after _
    · rw [htstop, hbehind, hplace, ← Position.after_append]
      exact Position.isBehind_after _
    · rw [hsub]
      simp only [List.singleton_append, List.map_cons, List.map_nil, PlacedToken.mapPlaces, htstart,
        htstop, hmoved, Position.seenFrom_self]

/-! ### Calling the scanner again and again -/

/-- The cursor behind some calls of the scanner. -/
def Cursor.afterCalls (c : Cursor) : Nat → Cursor
  | 0 => c
  | n + 1 => (c.afterCalls n).next.2

/-- What the scanner reports when it is called for a text, after some calls. -/
def call (text : String) (n : Nat) : Except ParseError PlacedToken :=
  ((Cursor.ofText text.toList).afterCalls n).next.1

/-- The places in a report. -/
def reportedPlaces : Except ParseError PlacedToken → List Position
  | .ok t => [t.start, t.stop]
  | .error e => [e.position]

namespace Cursor

/-- A cursor that stands where it says in a text. -/
def StandsIn (c : Cursor) (text : List Char) : Prop :=
  ∃ passed, text = passed ++ c.rest ∧ c.position = Position.start.after passed

variable {c : Cursor} {text : List Char}

theorem StandsIn.skip (h : c.StandsIn text) (n : Nat) : (c.skip n).StandsIn text := by
  obtain ⟨passed, htext, hposition⟩ := h
  refine ⟨passed ++ c.rest.take n, ?_, ?_⟩
  · rw [List.append_assoc, htext, Cursor.skip, List.take_append_drop]
  · rw [Position.after_append, ← hposition]
    rfl

theorem StandsIn.exact (h : c.StandsIn text) :
    ∃ before, before <+: text ∧ c.position.IsBehind before := by
  obtain ⟨passed, htext, hposition⟩ := h
  refine ⟨passed, ⟨c.rest, htext.symm⟩, ?_⟩
  rw [hposition]
  exact Position.isBehind_after passed

theorem StandsIn.next (h : c.StandsIn text) : c.next.2.StandsIn text := by
  obtain ⟨passed, htext, hposition⟩ := h
  obtain ⟨more, hrest, hmoved⟩ := next_passed c
  refine ⟨passed ++ more, ?_, ?_⟩
  · rw [htext, hrest, List.append_assoc]
  · rw [hmoved, hposition, Position.after_append]

theorem StandsIn.reported (h : c.StandsIn text) {p : Position} (hp : p ∈ reportedPlaces c.next.1) :
    ∃ before, before <+: text ∧ p.IsBehind before := by
  -- Every place is that of a cursor some characters further on.
  suffices hskip : ∃ n length, p = (c.skip n).position ∨ p = ((c.skip n).skip length).position by
    obtain ⟨n, length, rfl | rfl⟩ := hskip
    · exact (h.skip n).exact
    · exact ((h.skip n).skip length).exact
  unfold Cursor.next at hp
  cases hgap : gap c.rest with
  | unclosed n =>
    rw [hgap] at hp
    exact ⟨n, 0, .inl (List.mem_singleton.1 hp)⟩
  | clear n =>
    rw [hgap] at hp
    simp only at hp
    cases hfront : front (c.skip n).rest with
    | finished =>
      rw [hfront] at hp
      simp only [reportedPlaces, List.mem_cons, List.not_mem_nil, or_false, or_self] at hp
      exact ⟨n, 0, .inl hp⟩
    | unexpected d =>
      rw [hfront] at hp
      exact ⟨n, 0, .inl (List.mem_singleton.1 hp)⟩
    | unterminated =>
      rw [hfront] at hp
      exact ⟨n, 0, .inl (List.mem_singleton.1 hp)⟩
    | token t length =>
      rw [hfront] at hp
      simp only [reportedPlaces, List.mem_cons, List.not_mem_nil, or_false] at hp
      exact ⟨n, length, hp⟩

theorem StandsIn.afterCalls (h : c.StandsIn text) (n : Nat) : (c.afterCalls n).StandsIn text := by
  induction n with
  | zero => exact h
  | succ n ih => exact ih.next

theorem afterCalls_add (c : Cursor) (n m : Nat) :
    c.afterCalls (n + m) = (c.afterCalls n).afterCalls m := by
  induction m with
  | zero => rfl
  | succ m ih => rw [← Nat.add_assoc, Cursor.afterCalls, ih, Cursor.afterCalls]

theorem afterCalls_of_stays (h : c.next.2 = c) (n : Nat) : c.afterCalls n = c := by
  induction n with
  | zero => rfl
  | succ n ih => rw [Cursor.afterCalls, ih, h]

/-- A character that begins no token is met again. -/
theorem next_unexpected {ch : Char} {p : Position}
    (h : c.next.1 = .error (.unexpectedCharacter ch p)) : c.next.2.next = c.next := by
  unfold Cursor.next at h
  cases hgap : gap c.rest with
  | unclosed n =>
    rw [hgap] at h
    cases h
  | clear n =>
    rw [hgap] at h
    simp only at h
    cases hfront : front (c.skip n).rest with
    | finished | unterminated | token =>
      rw [hfront] at h
      cases h
    | unexpected d =>
      have hagain : gap (c.skip n).rest = .clear 0 := gap_drop hgap
      have hskip : (c.skip n).skip 0 = c.skip n := rfl
      have hnext : c.next = (.error (.unexpectedCharacter d (c.skip n).position), c.skip n) := by
        unfold Cursor.next
        simp only [hgap, hfront]
      rw [hnext]
      unfold Cursor.next
      simp only [hagain, hskip, hfront]

/-- A quote or a comment without an end takes the rest of the text. -/
theorem next_unterminated {p : Position} (h : c.next.1 = .error (.unterminatedString p) ∨
    c.next.1 = .error (.unterminatedComment p)) : c.next.2.rest = [] := by
  unfold Cursor.next at h ⊢
  cases hgap : gap c.rest with
  | unclosed n => rfl
  | clear n =>
    rw [hgap] at h
    simp only at h ⊢
    cases hfront : front (c.skip n).rest with
    | finished | unexpected | token =>
      rw [hfront] at h
      rcases h with h | h <;> cases h
    | unterminated => rfl

theorem next_of_rest_nil (h : c.rest = []) :
    c.next = (.ok ⟨.endOfInput, c.position, c.position⟩, c) := by
  obtain ⟨rest, position⟩ := c
  subst h
  exact next_finished (c := ⟨[], position⟩) gap_nil rfl

end Cursor

/-- Tokens are lossless and their places exact. Whatever calls of the scanner report, its places are exact; a character
    that begins no token is reported for ever, and a quote or a comment without an end only once. -/
theorem scan_exact (text : String) :
    (∀ ts, tokenize text = .ok ts → Lossless text.toList ts) ∧
    (∀ n, ∀ p ∈ reportedPlaces (call text n), ∃ before, before <+: text.toList ∧ p.IsBehind before) ∧
    (∀ n ch p, call text n = .error (.unexpectedCharacter ch p) →
      ∀ m, call text (n + m) = .error (.unexpectedCharacter ch p)) ∧
    (∀ n p, call text n = .error (.unterminatedString p) ∨ call text n = .error (.unterminatedComment p) →
      ∀ m, ∃ q, q.IsBehind text.toList ∧ call text (n + 1 + m) = .ok ⟨.endOfInput, q, q⟩) := by
  have hstart : (Cursor.ofText text.toList).StandsIn text.toList := ⟨[], rfl, rfl⟩
  refine ⟨fun ts h => lossless_of_tokenize h, ?_, ?_, ?_⟩
  · intro n p hp
    exact (hstart.afterCalls n).reported hp
  · intro n ch p h m
    have hagain := Cursor.next_unexpected h
    cases m with
    | zero => exact h
    | succ m =>
      have hstays := Cursor.afterCalls_of_stays (congrArg Prod.snd hagain) m
      rw [← h, call, call, Nat.add_comm m 1, ← Nat.add_assoc, Cursor.afterCalls_add,
        Cursor.afterCalls, hstays, hagain]
  · intro n p h m
    have hnil := Cursor.next_unterminated h
    have hnext := Cursor.next_of_rest_nil hnil
    obtain ⟨passed, htext, hposition⟩ := (hstart.afterCalls n).next
    rw [hnil, List.append_nil] at htext
    have hstays := Cursor.afterCalls_of_stays (congrArg (·.2) hnext) m
    refine ⟨_, Position.isBehind_after text.toList, ?_⟩
    rw [call, Cursor.afterCalls_add, Cursor.afterCalls, hstays, hnext, hposition, htext]

end AssignScript
