import AssignScript.ParseError
import AssignScript.Text.Blank
import AssignScript.Text.Letter

/-!
# Scanning a text for tokens

A cursor stands in a text; scanning passes the blanks and comments before it, takes the longest token
that begins there, and leaves the cursor behind it.

## Main definitions

* `gap`: how far blanks and comments reach;
* `front`: the token that a text begins with;
* `Cursor.next`: one token, with its places;
* `Cursor.tokens`: all tokens up to the end of the text.

## Design notes

The readers work on the characters alone and say how many they take. Places are computed afterwards from
the characters that were passed, so that they are exact by construction.
-/

namespace AssignScript

open Text

/-- Whether a character can begin a name. -/
def isNameStart (c : Char) : Bool :=
  isLetter c || c == '_'

/-- Whether a character can continue a name. -/
def isNamePart (c : Char) : Bool :=
  isLetter c || isNumeral c || c == '_'

/-! ### Blanks and comments -/

/-- The length of a comment up to and including the end of the line. -/
def lineCommentLength : List Char → Nat
  | [] => 0
  | c :: cs => if c = '\n' then 1 else lineCommentLength cs + 1

/-- The length of a comment, from behind its opening to behind its end. -/
def blockCommentLength? : List Char → Option Nat
  | [] => none
  | '*' :: '/' :: _ => some 2
  | _ :: cs => (blockCommentLength? cs).map (· + 1)

/-- What stands before the next token. -/
inductive Gap where
  /-- Blanks and whole comments of a total length. -/
  | clear (length : Nat)
  /-- Blanks and whole comments of a total length, and then a comment that does not end. -/
  | unclosed (length : Nat)
  deriving DecidableEq, Repr

/-- A gap with more characters before it. -/
def Gap.behind (n : Nat) : Gap → Gap
  | .clear length => .clear (n + length)
  | .unclosed length => .unclosed (n + length)

/-- The blanks and comments at the front of a text. -/
def gap : List Char → Gap
  | [] => .clear 0
  | '/' :: '/' :: cs => (gap (cs.drop (lineCommentLength cs))).behind (lineCommentLength cs + 2)
  | '/' :: '*' :: cs =>
    match blockCommentLength? cs with
    | none => .unclosed 0
    | some n => (gap (cs.drop n)).behind (n + 2)
  | c :: cs => if isBlank c then (gap cs).behind 1 else .clear 0
termination_by cs => cs.length
decreasing_by all_goals simp only [List.length_cons, List.length_drop]; omega

/-! ### Tokens -/

/-- The mark at the front of a text, with its length. -/
def mark? : List Char → Option (Mark × Nat)
  | '<' :: '=' :: _ => some (.lessEqual, 2)
  | '<' :: '>' :: _ => some (.notEqual, 2)
  | '<' :: _ => some (.less, 1)
  | '>' :: '=' :: _ => some (.greaterEqual, 2)
  | '>' :: _ => some (.greater, 1)
  | ':' :: '=' :: _ => some (.assign, 2)
  | '|' :: '|' :: _ => some (.concat, 2)
  | '+' :: _ => some (.plus, 1)
  | '-' :: _ => some (.minus, 1)
  | '*' :: _ => some (.star, 1)
  | '/' :: _ => some (.slash, 1)
  | '=' :: _ => some (.equal, 1)
  | '(' :: _ => some (.leftParen, 1)
  | ')' :: _ => some (.rightParen, 1)
  | ',' :: _ => some (.comma, 1)
  | ';' :: _ => some (.semicolon, 1)
  | _ => none

/-- The content of a text and the length up to behind its closing quote; a doubled quote stands for
    one. -/
def quotedText? : List Char → Option (List Char × Nat)
  | [] => none
  | '"' :: '"' :: cs => (quotedText? cs).map fun r => ('"' :: r.1, r.2 + 2)
  | '"' :: _ => some ([], 1)
  | c :: cs => (quotedText? cs).map fun r => (c :: r.1, r.2 + 1)

/-- A quoted name and the length up to behind its closing quote. -/
def quotedName? : List Char → Option (List Char × Nat)
  | [] => none
  | '\'' :: _ => some ([], 1)
  | c :: cs => (quotedName? cs).map fun r => (c :: r.1, r.2 + 1)

/-- The number of digits at the front of a text. -/
def digitRun (cs : List Char) : Nat :=
  (cs.takeWhile isAsciiDigit).length

/-- The length of a point with digits behind it. -/
def fractionLength : List Char → Nat
  | '.' :: cs => if digitRun cs = 0 then 0 else digitRun cs + 1
  | _ => 0

/-- The length of an exponent: its letter, an optional sign, and digits. -/
def exponentLength : List Char → Nat
  | c :: cs =>
    if c = 'e' ∨ c = 'E' then
      match cs with
      | '+' :: ds | '-' :: ds => if digitRun ds = 0 then 0 else digitRun ds + 2
      | ds => if digitRun ds = 0 then 0 else digitRun ds + 1
    else 0
  | [] => 0

/-- The length of the number at the front of a text. -/
def numberLength (cs : List Char) : Nat :=
  let whole := digitRun cs
  let fraction := fractionLength (cs.drop whole)
  whole + fraction + exponentLength (cs.drop (whole + fraction))

/-- The token that a bare word is. -/
def wordToken (word : List Char) : Token :=
  let name := String.ofList word
  if word = ['_'] then .mark .underscore
  else match Keyword.ofWord? name with
    | some k => .keyword k
    | none => .identifier name

/-- What a text begins with. -/
inductive Front where
  /-- A token of some length. -/
  | token (t : Token) (length : Nat)
  /-- A character that begins no token. -/
  | unexpected (c : Char)
  /-- A quote that is not closed. -/
  | unterminated
  /-- Nothing: the text is empty. -/
  | finished
  deriving DecidableEq, Repr

/-- What a text begins with, blanks and comments aside. -/
def front (cs : List Char) : Front :=
  match cs with
  | [] => .finished
  | c :: rest =>
    match mark? cs with
    | some (m, n) => .token (.mark m) n
    | none =>
      if c = '"' then
        match quotedText? rest with
        | some (content, n) => .token (.string (String.ofList content)) (n + 1)
        | none => .unterminated
      else if c = '\'' then
        match quotedName? rest with
        | some (name, n) => .token (.identifier (String.ofList name)) (n + 1)
        | none => .unterminated
      else if isNameStart c then
        let word := c :: rest.takeWhile isNamePart
        .token (wordToken word) word.length
      else if isAsciiDigit c then
        .token (.number (String.ofList (cs.take (numberLength cs)))) (numberLength cs)
      else .unexpected c

theorem mark?_length_pos {cs : List Char} {m : Mark} {n : Nat} (h : mark? cs = some (m, n)) :
    0 < n := by
  unfold mark? at h
  split at h <;> simp_all <;> omega

theorem digitRun_pos {c : Char} {cs : List Char} (h : isAsciiDigit c = true) :
    0 < digitRun (c :: cs) := by
  simp [digitRun, h]

/-- A token takes at least one character, and there was one to take. -/
theorem front_token_length {cs : List Char} {t : Token} {n : Nat} (h : front cs = .token t n) :
    0 < n ∧ cs ≠ [] := by
  unfold front at h
  split at h
  · cases h
  · next c rest =>
    refine ⟨?_, by simp⟩
    split at h
    · next hm => cases h; exact mark?_length_pos hm
    · split at h
      · split at h <;> cases h; omega
      · split at h
        · split at h <;> cases h; omega
        · split at h
          · cases h; simp
          · split at h
            · next hd =>
              cases h
              have : 0 < digitRun (c :: rest) := digitRun_pos hd
              simp only [numberLength]; omega
            · cases h

/-! ### The cursor -/

/-- A place in a text with what lies behind it. -/
structure Cursor where
  /-- The characters not yet passed. -/
  rest : List Char
  /-- The place they start at. -/
  position : Position
  deriving DecidableEq, Repr

namespace Cursor

/-- The cursor before a text. -/
def ofText (text : List Char) : Cursor := ⟨text, .start⟩

/-- The cursor behind the next `n` characters. -/
def skip (c : Cursor) (n : Nat) : Cursor :=
  ⟨c.rest.drop n, c.position.after (c.rest.take n)⟩

/-- The cursor behind all characters. -/
def toEnd (c : Cursor) : Cursor :=
  ⟨[], c.position.after c.rest⟩

/-- The next token and the cursor behind it. A character that begins no token is not passed; a quote or
    comment that does not end takes the rest of the text with it. -/
def next (c : Cursor) : Except ParseError PlacedToken × Cursor :=
  match gap c.rest with
  | .unclosed n => (.error (.unterminatedComment (c.skip n).position), c.toEnd)
  | .clear n =>
    let here := c.skip n
    match front here.rest with
    | .finished => (.ok ⟨.endOfInput, here.position, here.position⟩, here)
    | .unexpected ch => (.error (.unexpectedCharacter ch here.position), here)
    | .unterminated => (.error (.unterminatedString here.position), here.toEnd)
    | .token t length =>
      let behind := here.skip length
      (.ok ⟨t, here.position, behind.position⟩, behind)

/-- Unless the text is finished, a token shortens what is left of it. -/
theorem next_rest_length_lt {c c' : Cursor} {t : PlacedToken} (h : c.next = (.ok t, c'))
    (ht : t.token ≠ .endOfInput) : c'.rest.length < c.rest.length := by
  unfold next at h
  split at h
  · simp at h
  · next n _ =>
    simp only at h
    split at h
    · simp only [Prod.mk.injEq, Except.ok.injEq] at h
      exact absurd (h.1 ▸ rfl) ht
    · simp at h
    · simp at h
    · next u length hf =>
      have hpos := front_token_length hf
      simp only [Prod.mk.injEq] at h
      rw [← h.2]
      have hne : 0 < (c.rest.drop n).length := List.length_pos_iff.2 hpos.2
      simp only [skip, List.length_drop] at hne ⊢
      omega

/-- All tokens up to and including the end of the text. -/
def tokens (c : Cursor) : Except ParseError (List PlacedToken) :=
  match _ : c.next with
  | (.error e, _) => .error e
  | (.ok t, c') =>
    if _ : t.token = .endOfInput then .ok [t]
    else
      match tokens c' with
      | .error e => .error e
      | .ok ts => .ok (t :: ts)
termination_by c.rest.length
decreasing_by exact next_rest_length_lt ‹_› ‹_›

end Cursor

/-- The tokens of a text, the last one the end of input. -/
def tokenize (text : String) : Except ParseError (List PlacedToken) :=
  (Cursor.ofText text.toList).tokens

end AssignScript
