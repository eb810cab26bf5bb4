import Mathlib.Algebra.GroupWithZero.Nat
import AssignScript.Proofs.Lexing.Tokens

/-!
# Places of tokens

Scanning computes places from the characters that it passes and never looks at them. So when a text starts at
another place, its tokens and its errors stay the same up to their places, which move along.

## Main definitions

* `Position.Carries`: a function that moves a place and those behind it alike;
* `Position.shift`: some lines and bytes further on.

## Main statements

* `Cursor.tokens_mapPlace`: tokens move with the place where the text starts.
-/

namespace AssignScript

namespace Position

/-- Moves a place and all places behind it alike. -/
def Carries (f : Position → Position) (p : Position) : Prop :=
  ∀ cs, f (p.after cs) = (f p).after cs

theorem Carries.after {f : Position → Position} {p : Position} (h : Carries f p) (cs : List Char) :
    Carries f (p.after cs) := by
  intro ds
  rw [← after_append, h, h, after_append]

/-- A place some lines and bytes further on, in the same column. -/
def shift (lines bytes : Nat) (p : Position) : Position :=
  ⟨p.line + lines, p.column, p.offset + bytes⟩

theorem carries_shift (lines bytes : Nat) (p : Position) : Carries (shift lines bytes) p := by
  intro cs
  induction cs generalizing p with
  | nil => rfl
  | cons c cs ih =>
    -- A line feed sets the column anew, whatever it was, and else lines do not matter.
    have hstep : shift lines bytes (p.step c) = (shift lines bytes p).step c := by
      by_cases hc : c = '\n'
      · simp only [step, if_pos hc, shift, Nat.add_right_comm]
      · simp only [step, if_neg hc, shift, Nat.add_right_comm]
    rw [after_cons, after_cons, ih, hstep]

/-- Every line feed begins a new line. -/
theorem line_after (p : Position) (cs : List Char) : (p.after cs).line = p.line + cs.count '\n' := by
  induction cs generalizing p with
  | nil => rfl
  | cons c cs ih =>
    rw [after_cons, ih]
    by_cases hc : c = '\n'
    · rw [hc, List.count_cons_self, step, if_pos rfl, Nat.add_right_comm, Nat.add_assoc]
    · rw [List.count_cons_of_ne hc, step, if_neg hc]

/-- Every character takes its bytes. -/
theorem offset_after (p : Position) (cs : List Char) :
    (p.after cs).offset = p.offset + (cs.map Char.utf8Size).sum := by
  induction cs generalizing p with
  | nil => rfl
  | cons c cs ih =>
    have hstep : (p.step c).offset = p.offset + c.utf8Size := by
      by_cases hc : c = '\n'
      · rw [step, if_pos hc]
      · rw [step, if_neg hc]
    rw [after_cons, ih, hstep, List.map_cons, List.sum_cons, Nat.add_assoc]

/-- Behind a line feed the column is that of a start, so only lines and bytes move. -/
theorem start_after_lineFeed (cs : List Char) : start.after (cs ++ ['\n']) =
    start.shift (cs.count '\n' + 1) ((cs.map Char.utf8Size).sum + 1) := by
  rw [after_append, shift, ← Nat.add_assoc, ← Nat.add_assoc]
  change step _ '\n' = _
  rw [step, if_pos rfl, line_after, offset_after]
  rfl

end Position

/-- A token that stands elsewhere. -/
def PlacedToken.mapPlaces (f : Position → Position) (t : PlacedToken) : PlacedToken :=
  ⟨t.token, f t.start, f t.stop⟩

/-- An error that lies elsewhere. -/
def ParseError.mapPlace (f : Position → Position) : ParseError → ParseError
  | .unexpectedCharacter c p => .unexpectedCharacter c (f p)
  | .unterminatedString p => .unterminatedString (f p)
  | .unterminatedComment p => .unterminatedComment (f p)
  | .unexpectedToken expected found p => .unexpectedToken expected found (f p)
  | .invalidNumber digits p => .invalidNumber digits (f p)
  | .nestingTooDeep limit p => .nestingTooDeep limit (f p)

namespace Cursor

open Position (Carries)

variable {f : Position → Position} {c : Cursor}

/-- A cursor in the same text at another place. -/
def mapPlace (f : Position → Position) (c : Cursor) : Cursor := ⟨c.rest, f c.position⟩

theorem skip_mapPlace (h : Carries f c.position) (n : Nat) :
    (c.mapPlace f).skip n = (c.skip n).mapPlace f := by
  simp only [skip, mapPlace, h _]

theorem toEnd_mapPlace (h : Carries f c.position) : (c.mapPlace f).toEnd = c.toEnd.mapPlace f := by
  simp only [toEnd, mapPlace, h _]

/-- The next token moves with the cursor. -/
theorem next_mapPlace (h : Carries f c.position) : (c.mapPlace f).next =
    ((c.next.1.map (PlacedToken.mapPlaces f)).mapError (ParseError.mapPlace f),
      c.next.2.mapPlace f) := by
  have hskip := fun n => skip_mapPlace h n
  have hskip' := fun n m => skip_mapPlace (c := c.skip n) (h.after _) m
  have hend := fun n => toEnd_mapPlace (c := c.skip n) (h.after _)
  unfold next
  rw [show (c.mapPlace f).rest = c.rest from rfl]
  cases gap c.rest with
  | unclosed n => simp only [hskip, toEnd_mapPlace h]; rfl
  | clear n =>
    simp only [hskip]
    rw [show ((c.skip n).mapPlace f).rest = (c.skip n).rest from rfl]
    cases front (c.skip n).rest with
    | finished => rfl
    | unexpected d => rfl
    | unterminated => simp only [hend]; rfl
    | token t length => simp only [hskip']; rfl

/-- The places behind a token move too. -/
theorem carries_next (h : Carries f c.position) {t : PlacedToken} {c' : Cursor}
    (hnext : c.next = (.ok t, c')) : Carries f c'.position := by
  obtain ⟨n, -, ⟨-, -, rfl⟩ | ⟨length, -, rfl, -⟩⟩ := next_eq_ok hnext
  · exact h.after _
  · exact (h.after _).after _

/-- Tokens move with the cursor. -/
theorem tokens_mapPlace (h : Carries f c.position) : (c.mapPlace f).tokens =
    (c.tokens.map (List.map (PlacedToken.mapPlaces f))).mapError (ParseError.mapPlace f) := by
  -- As in the scanner, every token but the last shortens the text.
  induction hn : c.rest.length using Nat.strongRecOn generalizing c with
  | ind n ih =>
    rw [tokens_eq, tokens_eq c, next_mapPlace h]
    rcases hnext : c.next with ⟨e | t, c'⟩
    · rfl
    · by_cases hend : t.token = .endOfInput
      · change (if t.token = .endOfInput then _ else _) = _
        simp only [if_pos hend]
        rfl
      · have hlt := next_rest_length_lt hnext hend
        have hrest := ih _ (hn ▸ hlt) (carries_next h hnext) rfl
        change (if t.token = .endOfInput then _ else (c'.mapPlace f).tokens.map _) = _
        simp only [if_neg hend]
        rw [hrest]
        cases c'.tokens <;> rfl

end Cursor

end AssignScript
