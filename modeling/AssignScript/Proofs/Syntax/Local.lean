import Mathlib.Logic.Function.Iterate
import AssignScript.Proofs.Syntax.Counter

/-!
# Readers do not look back

Where the last word taken stopped is asked for only behind a word that the reader has taken itself. So on two streams
with the same words to be taken a reader comes to the same, and leaves both behind as many words, whatever was taken
before. That holds of failures as it does of successes.

## Main definitions

* `SameWords`: streams with the same words to be taken;
* `Together`: runs that come to the same behind as many words;
* `Parser.Local`: readers that run together on streams with the same words.

## Main statements

* `Parser.skip_bind_local`: behind a word taken, streams with the same words are the same stream;
* `Parser.expression_local`, `Parser.standalone_local`, `Parser.script_local`.
-/

namespace AssignScript

open TokenStream

/-! ### Streams with the same words -/

/-- Two streams that differ in nothing but what was taken before, and not in that either if a word has been taken from
    both. -/
structure SameWords (taken : Bool) (s t : TokenStream) : Prop where
  ended : s.Ended
  alike : ∃ before, t = { s with before := before }
  same : taken = true → s = t

namespace SameWords

variable {taken : Bool} {s t : TokenStream}

theorem refl (hs : s.Ended) : SameWords taken s s := ⟨hs, ⟨s.before, rfl⟩, fun _ => rfl⟩

theorem advance (h : SameWords taken s t) : SameWords taken s.advance t.advance := by
  obtain ⟨hs, ⟨before, rfl⟩, hsame⟩ := h
  refine ⟨hs.skip.1, ?_, fun htaken => congrArg TokenStream.advance (hsame htaken)⟩
  cases hf : s.following with
  | nil =>
    refine ⟨before, ?_⟩
    simp only [TokenStream.advance, hf]
  | cons u us =>
    refine ⟨some s.current.stop, ?_⟩
    simp only [TokenStream.advance, hf]

theorem iterate (h : SameWords taken s t) (k : Nat) :
    SameWords taken (TokenStream.advance^[k] s) (TokenStream.advance^[k] t) := by
  induction k with
  | zero => exact h
  | succ k ih =>
    rw [Function.iterate_succ_apply', Function.iterate_succ_apply']
    exact ih.advance

/-- Behind a word that does not end the input there is one stream. -/
theorem advance_eq (h : SameWords taken s t) (hne : s.current.token ≠ .endOfInput) : s.advance = t.advance := by
  obtain ⟨hs, ⟨before, rfl⟩, -⟩ := h
  cases hf : s.following with
  | nil =>
    have hlength := congrArg List.length (hs.advance hne).1
    have hstays : s.advance = s := by rw [TokenStream.advance, hf]
    rw [hstays, List.length_cons] at hlength
    omega
  | cons u us => simp only [TokenStream.advance, hf]

end SameWords

/-! ### Runs together -/

/-- What two runs come to that have the same answer and leave their streams behind as many words. -/
inductive Together {α : Type} (s t : TokenStream) :
    EStateM.Result ParseError TokenStream α → EStateM.Result ParseError TokenStream α → Prop where
  | ok (a : α) (k : Nat) : Together s t (.ok a (TokenStream.advance^[k] s)) (.ok a (TokenStream.advance^[k] t))
  | error (e : ParseError) (k : Nat) :
    Together s t (.error e (TokenStream.advance^[k] s)) (.error e (TokenStream.advance^[k] t))

/-- Runs that go on behind some words are runs from where those words began. -/
theorem Together.behind {α : Type} {s t : TokenStream} {k : Nat} {x y : EStateM.Result ParseError TokenStream α}
    (h : Together (TokenStream.advance^[k] s) (TokenStream.advance^[k] t) x y) : Together s t x y := by
  cases h with
  | ok a m =>
    rw [← Function.iterate_add_apply, ← Function.iterate_add_apply]
    exact .ok a (m + k)
  | error e m =>
    rw [← Function.iterate_add_apply, ← Function.iterate_add_apply]
    exact .error e (m + k)

namespace Parser

/-- On two streams, a reader comes to the same behind as many words. -/
def LocalAt {α : Type} (s t : TokenStream) (p : Parser α) : Prop := Together s t (p.run s) (p.run t)

/-- A reader that comes to the same on all streams with the same words. -/
def Local {α : Type} (taken : Bool) (p : Parser α) : Prop := ∀ s t, SameWords taken s t → LocalAt s t p

variable {α β : Type} {taken : Bool} {s t : TokenStream}

theorem LocalAt.bind {p : Parser α} {f : α → Parser β} (h : LocalAt s t p)
    (hf : ∀ a k, LocalAt (TokenStream.advance^[k] s) (TokenStream.advance^[k] t) (f a)) :
    LocalAt s t (p >>= f) := by
  unfold LocalAt at h ⊢
  rw [EStateM.run_bind, EStateM.run_bind]
  generalize p.run s = x, p.run t = y at h
  cases h with
  | ok a k => exact (hf a k).behind
  | error e k => exact .error e k

namespace Local

theorem bind {p : Parser α} {f : α → Parser β} (h : Local taken p) (hf : ∀ a, Local taken (f a)) :
    Local taken (p >>= f) := by
  intro s t hst
  exact (h s t hst).bind fun a k => hf a _ _ (hst.iterate k)

/-- What is asked of fewer streams holds of those. -/
theorem mono {p : Parser α} (h : Local false p) : Local taken p := by
  intro s t hst
  exact h s t ⟨hst.ended, hst.alike, nofun⟩

/-- A reader that takes nothing and answers from the words to be taken. -/
theorem of_read {p : Parser α} {g : TokenStream → α} (hp : ∀ s, p.run s = .ok (g s) s)
    (hg : ∀ s t, SameWords taken s t → g s = g t) : Local taken p := by
  intro s t hst
  unfold LocalAt
  rw [hp, hp, ← hg s t hst]
  exact .ok (g s) 0

/-- A reader that fails with an error made from the words to be taken. -/
theorem of_fail {p : Parser α} {g : TokenStream → ParseError} (hp : ∀ s, p.run s = .error (g s) s)
    (hg : ∀ s t, SameWords taken s t → g s = g t) : Local taken p := by
  intro s t hst
  unfold LocalAt
  rw [hp, hp, ← hg s t hst]
  exact .error (g s) 0

theorem pure (a : α) : Local taken (Pure.pure a) :=
  of_read (g := fun _ => a) (fun _ => rfl) fun _ _ _ => rfl

end Local

/-! ### Single tokens -/

theorem peek_local : Local taken peek := by
  apply Local.of_read (g := fun s => s.current.token)
  · exact fun _ => rfl
  · rintro s _ ⟨-, ⟨before, rfl⟩, -⟩
    rfl

theorem here_local : Local taken here := by
  apply Local.of_read (g := fun s => s.current.start)
  · exact fun _ => rfl
  · rintro s _ ⟨-, ⟨before, rfl⟩, -⟩
    rfl

theorem remaining_local : Local taken remaining := by
  apply Local.of_read (g := fun s => s.following.length + 1)
  · exact fun _ => rfl
  · rintro s _ ⟨-, ⟨before, rfl⟩, -⟩
    rfl

theorem binary_local (op : BinaryOp) (left right : Expr) : Local taken (binary op left right) := by
  apply Local.of_read (g := fun s => .binary (s.spanBetween left.span.start right.span.stop) op left right)
  · exact fun _ => rfl
  · rintro s _ ⟨-, ⟨before, rfl⟩, -⟩
    rfl

theorem unary_local (op : UnaryOp) (start : Position) (operand : Expr) : Local taken (unary op start operand) := by
  apply Local.of_read (g := fun s => .unary (s.spanBetween start operand.span.stop) op operand)
  · exact fun _ => rfl
  · rintro s _ ⟨-, ⟨before, rfl⟩, -⟩
    rfl

/-- Once a word has been taken, the span up to it does not depend on what was taken before. -/
theorem spanFrom_local (start : Position) : Local true (spanFrom start) := by
  apply Local.of_read (g := fun s => s.spanFrom start)
  · exact fun _ => rfl
  · intro s t hst
    rw [hst.same rfl]

theorem unexpected_local (expected : Expectation) : Local taken (Parser.unexpected expected : Parser α) := by
  apply Local.of_fail (g := fun s => .unexpectedToken expected s.current.token s.current.start)
  · exact fun _ => rfl
  · rintro s _ ⟨-, ⟨before, rfl⟩, -⟩
    rfl

theorem throw_local (e : ParseError) : Local taken (throw e : Parser α) :=
  .of_fail (g := fun _ => e) (fun _ => rfl) fun _ _ _ => rfl

theorem numberLiteral_local (digits : String) (start : Position) : Local taken (numberLiteral digits start) := by
  unfold numberLiteral
  split
  · split
    · exact .pure _
    · exact throw_local _
  · dsimp only
    split
    · exact .pure _
    · exact throw_local _

theorem skip_local : Local taken skip := fun _ _ _ => .ok () 1

theorem expect_local (u : Token) : Local taken (expect u) := by
  refine peek_local.bind fun tok => ?_
  split
  · exact skip_local
  · exact unexpected_local _

/-- A reader goes on behind a word as on a stream from which a word has been taken. -/
theorem skip_bind_local {f : Unit → Parser β} (h : SameWords taken s t) (hne : s.current.token ≠ .endOfInput)
    (hf : Local true (f ())) : LocalAt s t (skip >>= f) := by
  have hbehind : Together s.advance t.advance ((f ()).run s.advance) ((f ()).run t.advance) := by
    have hended := h.ended.skip.1
    rw [← h.advance_eq hne]
    exact hf _ _ (.refl hended)
  exact hbehind.behind (k := 1)

/-- A look at the next word, which two streams with the same words share. -/
theorem peek_bind_local {f : Token → Parser β} (h : SameWords taken s t) (hf : LocalAt s t (f s.current.token)) :
    LocalAt s t (peek >>= f) := by
  obtain ⟨-, ⟨before, rfl⟩, -⟩ := h
  exact hf

theorem here_bind_local {f : Position → Parser β} (h : SameWords taken s t)
    (hf : LocalAt s t (f s.current.start)) : LocalAt s t (here >>= f) := by
  obtain ⟨-, ⟨before, rfl⟩, -⟩ := h
  exact hf

theorem expectIdentifier_bind_local {f : String → Parser β} (h : SameWords taken s t)
    (hf : ∀ name, Local true (f name)) : LocalAt s t (expectIdentifier >>= f) := by
  rw [expectIdentifier, bind_assoc]
  apply peek_bind_local h
  cases htok : s.current.token with
  | identifier name =>
    rw [bind_assoc]
    apply skip_bind_local h
    · rw [htok]
      intro h
      cases h
    · rw [pure_bind]
      exact hf name
  | _ =>
    obtain ⟨-, ⟨before, rfl⟩, -⟩ := h
    exact .error _ 0

/-! ### One level of nesting -/

theorem chainFrom_local (operator? : Token → Option BinaryOp) {operand : Parser Expr} (ho : Local taken operand)
    (fuel : Nat) (left : Expr) : Local taken (chainFrom operator? operand fuel left) := by
  induction fuel generalizing left with
  | zero => exact .pure left
  | succ fuel ih =>
    rw [chainFrom]
    refine peek_local.bind fun tok => ?_
    cases operator? tok with
    | none => exact .pure left
    | some op =>
      refine skip_local.bind fun _ => ho.bind fun right => ?_
      exact (binary_local op left right).bind ih

theorem chain_local (operator? : Token → Option BinaryOp) {operand : Parser Expr} (ho : Local taken operand) :
    Local taken (chain operator? operand) := by
  refine ho.bind fun left => remaining_local.bind fun fuel => ?_
  exact chainFrom_local operator? ho fuel left

section Readers

variable {nested : Entry → Parser Expr} (hn : ∀ entry, Local false (nested entry))

include hn

theorem argument_local : Local true (argument nested) := by
  refine peek_local.bind fun tok => ?_
  split
  · refine here_local.bind fun start => skip_local.bind fun _ => ?_
    exact (spanFrom_local start).bind fun span => .pure _
  · exact (hn .expression).mono

theorem argumentsWithin_local (fuel : Nat) : Local true (argumentsWithin nested fuel) := by
  induction fuel with
  | zero => exact .pure []
  | succ fuel ih =>
    rw [argumentsWithin]
    refine (argument_local hn).bind fun first => peek_local.bind fun tok => ?_
    split
    · refine skip_local.bind fun _ => ih.bind fun rest => ?_
      exact .pure (first :: rest)
    · exact .pure [first]

theorem arguments_local : Local true (arguments nested) := by
  refine peek_local.bind fun tok => ?_
  split
  · exact .pure []
  · exact remaining_local.bind fun fuel => argumentsWithin_local hn fuel

theorem named_local (name : String) (start : Position) : Local true (named nested name start) := by
  refine peek_local.bind fun tok => ?_
  split
  · refine skip_local.bind fun _ => (arguments_local hn).bind fun args => ?_
    refine (expect_local _).bind fun _ => (spanFrom_local start).bind fun span => ?_
    exact .pure _
  · exact (spanFrom_local start).bind fun span => .pure _

theorem conditional_local (start : Position) : Local true (conditional nested start) := by
  have hexpression : Local true (nested .expression) := (hn .expression).mono
  refine hexpression.bind fun c => (expect_local _).bind fun _ => ?_
  refine hexpression.bind fun a => (expect_local _).bind fun _ => ?_
  refine hexpression.bind fun b => (spanFrom_local start).bind fun span => ?_
  exact .pure _

/-- What has no operator outside takes a word before it asks where the last one stopped. -/
theorem primary_local : Local false (primary nested) := by
  intro s t hst
  refine here_bind_local hst (peek_bind_local hst ?_)
  generalize htok : s.current.token = tok
  have hskip : ∀ {f : Unit → Parser Expr}, tok ≠ .endOfInput → Local true (f ()) → LocalAt s t (skip >>= f) := by
    intro f hne hf
    exact skip_bind_local hst (htok ▸ hne) hf
  have hliteral : ∀ v : Literal,
      Local true (do return Expr.literal (← spanFrom s.current.start) v : Parser Expr) := by
    intro v
    exact (spanFrom_local _).bind fun span => .pure _
  have hrefused : LocalAt s t (Parser.unexpected .expression : Parser Expr) := unexpected_local _ s t hst
  cases tok with
  | number text => exact hskip nofun ((numberLiteral_local text _).bind hliteral)
  | string content => exact hskip nofun (hliteral _)
  | identifier name => exact hskip nofun (named_local hn name _)
  | keyword k =>
    cases k with
    | true => exact hskip nofun (hliteral _)
    | false => exact hskip nofun (hliteral _)
    | null => exact hskip nofun (hliteral _)
    | ifWord => exact hskip nofun (conditional_local hn _)
    | _ => exact hrefused
  | mark m =>
    cases m with
    | leftParen =>
      refine hskip nofun ((hn .expression).mono.bind fun inner => ?_)
      refine (expect_local _).bind fun _ => (spanFrom_local _).bind fun span => ?_
      exact .pure _
    | _ => exact hrefused
  | endOfInput => exact hrefused

theorem signed_local : Local false (signed nested) := by
  refine peek_local.bind fun tok => ?_
  cases sign? tok with
  | none => exact primary_local hn
  | some op =>
    refine here_local.bind fun start => skip_local.bind fun _ => ?_
    exact (hn .signed).bind fun operand => unary_local op start operand

theorem additive_local : Local false (additive nested) :=
  chain_local additive? (chain_local multiplicative? (signed_local hn))

theorem comparison_local : Local false (comparison nested) := by
  refine (additive_local hn).bind fun left => peek_local.bind fun tok => ?_
  cases comparative? tok with
  | none => exact .pure left
  | some op =>
    refine skip_local.bind fun _ => (additive_local hn).bind fun right => ?_
    exact binary_local op left right

theorem negated_local : Local false (negated nested) := by
  refine peek_local.bind fun tok => ?_
  split
  · refine here_local.bind fun start => skip_local.bind fun _ => ?_
    exact (hn .negated).bind fun operand => unary_local .not start operand
  · exact comparison_local hn

theorem disjunctive_local : Local false (disjunctive nested) :=
  chain_local disjunctive? (chain_local conjunctive? (negated_local hn))

end Readers

/-! ### Whole readers -/

theorem enter_local (limit room : Nat) (entry : Entry) : Local false (enter limit room entry) := by
  induction room generalizing entry with
  | zero => exact here_local.bind fun p => throw_local _
  | succ room ih =>
    cases entry with
    | expression => exact disjunctive_local ih
    | negated => exact negated_local ih
    | signed => exact signed_local ih

theorem expression_local (limit : Nat) : Local false (expression limit) := enter_local limit limit .expression

theorem standalone_local (limit : Nat) : Local false (standalone limit) := by
  refine (expression_local limit).bind fun e => peek_local.bind fun tok => ?_
  have hend : Local false (do expect .endOfInput; return e : Parser Expr) :=
    (expect_local _).bind fun _ => .pure e
  split
  · exact skip_local.bind fun _ => hend
  · exact hend

theorem statement_local (limit : Nat) : Local false (statement (expression limit)) := by
  intro s t hst
  refine here_bind_local hst (expectIdentifier_bind_local hst fun target => ?_)
  refine (expect_local _).bind fun _ => (expression_local limit).mono.bind fun e => ?_
  exact (spanFrom_local _).bind fun span => .pure _

theorem statementsWithin_local (limit fuel : Nat) : Local false (statementsWithin (expression limit) fuel) := by
  induction fuel with
  | zero => exact .pure []
  | succ fuel ih =>
    rw [statementsWithin]
    refine peek_local.bind fun tok => ?_
    split
    · exact .pure []
    · refine (statement_local limit).bind fun first => peek_local.bind fun next => ?_
      have hrest : Local false (do return first :: (← statementsWithin (expression limit) fuel) : Parser Script) :=
        ih.bind fun rest => .pure _
      split
      · exact skip_local.bind fun _ => hrest
      · refine peek_local.bind fun last => ?_
        split
        · exact (unexpected_local _).bind fun _ => hrest
        · exact hrest

theorem script_local (limit : Nat) : Local false (script limit) :=
  remaining_local.bind fun fuel => statementsWithin_local limit fuel

end Parser

end AssignScript
