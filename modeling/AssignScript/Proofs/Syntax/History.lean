import AssignScript.Proofs.Syntax.Limit
import AssignScript.Proofs.Syntax.Local
import AssignScript.Proofs.Syntax.Reparse

/-!
# One step of a parser after another

A parser can be asked for one thing after another, and goes on where the last step left it, with an answer or with an
error. No step depends on those before it: the counter of open levels is at zero between them, the tokens are only
gone through forwards, and a step answers what a new parser answers that is given the tokens not yet taken.

## Main definitions

* `Request`, `Answer`: what a parser is asked for, and what it answers;
* `Request.readerBy`: the reader of a request, whichever way expressions are read;
* `Request.reader`, `Request.counting`: the one that is given the levels of nesting, and the one that counts them;
* `TokenStream.atIndex`: the tokens of a text from one of them on;
* `Rests`: where a parser stands between two steps.

## Main statements

* `Request.counting_follows`: readers that count follow those that are given the levels that are left;
* `Rests.step`: what one step keeps;
* `Rests.afterSteps`: what all steps keep;
* `Rests.answer`: a step answers as a new parser does;
* `steps_independent`: no step depends on those before it.
-/

namespace AssignScript

open AssignScript.Parser

/-! ### Requests -/

/-- What a parser is asked for. -/
inductive Request where
  /-- The next expression. -/
  | expression
  /-- An expression up to the end of the text. -/
  | standalone
  /-- Statements up to the end of the text. -/
  | script
  deriving DecidableEq

/-- What a parser answers. -/
inductive Answer where
  | expression (e : Expr)
  | script (statements : Script)

namespace Counting

/-- The next expression. More levels than the limit are never entered. -/
def expression (limit : Nat) (inside : Entry → Counting Expr) : Counting Expr :=
  enter limit inside (limit + 1) .expression

/-- Runs a reader that counts, giving its answer and what it leaves. -/
def runOn {α : Type} (p : Counting α) (c : TokenStream × Depth) : Except ParseError α × (TokenStream × Depth) :=
  match p.run c with
  | .ok a c' => (.ok a, c')
  | .error e c' => (.error e, c')

end Counting

namespace Request

/-- The reader of a request that reads expressions in a given way. -/
def readerBy {m : Type → Type} [Monad m] [MonadLiftT Parser m] (expression : m Expr) : Request → m Answer
  | .expression => do return .expression (← expression)
  | .standalone => do return .expression (← wholeExpression expression)
  | .script => do return .script (← wholeScript expression)

/-- The reader of a request. -/
def reader (limit : Nat) (step : Request) : Parser Answer :=
  step.readerBy (Parser.expression limit)

/-- The reader of a request that counts the levels of nesting. -/
def counting (limit : Nat) (inside : Entry → Counting Expr) (step : Request) : Counting Answer :=
  step.readerBy (Counting.expression limit inside)

end Request

/-- What a parser leaves after some steps, failed ones among them. -/
def afterSteps (limit : Nat) (inside : Entry → Counting Expr) (c : TokenStream × Depth) (steps : List Request) :
    TokenStream × Depth :=
  steps.foldl (fun c step => ((step.counting limit inside).runOn c).2) c

/-! ### Whole readers, side by side -/

section Whole

variable {limit depth n : Nat} {stops : ParseError → Prop} {expression : Counting Expr} {expression' : Parser Expr}

namespace Counting

theorem wholeExpression_follows (he : Follows limit depth stops n expression expression') :
    Follows limit depth stops n (wholeExpression expression) (wholeExpression expression') := by
  refine he.bind fun e => (Follows.lift keeps_peek).bind fun tok => ?_
  have hend : Follows limit depth stops n (do expect .endOfInput; return e : Counting Expr)
      (do expect .endOfInput; return e : Parser Expr) :=
    (Follows.lift (keeps_expect _)).bind fun _ => .pure e
  split
  · exact (Follows.lift keeps_skip).bind fun _ => hend
  · exact hend

theorem statement_follows (he : Follows limit depth stops n expression expression') :
    Follows limit depth stops n (statement expression) (statement expression') := by
  refine (Follows.lift keeps_here).bind fun start => (Follows.lift keeps_expectIdentifier).bind fun target => ?_
  refine (Follows.lift (keeps_expect _)).bind fun _ => he.bind fun e => ?_
  exact (Follows.lift (keeps_spanFrom start)).bind fun span => .pure _

theorem statementsWithin_follows (he : Follows limit depth stops n expression expression') (fuel : Nat) :
    Follows limit depth stops n (statementsWithin expression fuel) (statementsWithin expression' fuel) := by
  induction fuel with
  | zero => exact .pure []
  | succ fuel ih =>
    rw [statementsWithin, statementsWithin]
    refine (Follows.lift keeps_peek).bind fun tok => ?_
    split
    · exact .pure []
    · refine (statement_follows he).bind fun first => (Follows.lift keeps_peek).bind fun next => ?_
      have hrest : Follows limit depth stops n
          (do return first :: (← statementsWithin expression fuel) : Counting Script)
          (do return first :: (← statementsWithin expression' fuel) : Parser Script) :=
        ih.bind fun rest => .pure _
      split
      · exact (Follows.lift keeps_skip).bind fun _ => hrest
      · refine (Follows.lift keeps_peek).bind fun last => ?_
        split
        · exact (Follows.lift (keeps_unexpected _)).bind fun _ => hrest
        · exact hrest

end Counting

/-- The readers of a request follow each other if those of expressions do. -/
theorem Request.readerBy_follows (step : Request) (he : Follows limit depth stops n expression expression') :
    Follows limit depth stops n (step.readerBy expression) (step.readerBy expression') := by
  cases step with
  | expression => exact he.bind fun e => .pure _
  | standalone => exact (Counting.wholeExpression_follows he).bind fun e => .pure _
  | script =>
    have hscript : Follows limit depth stops n (wholeScript expression) (wholeScript expression') :=
      (Follows.lift keeps_remaining).bind fun fuel => Counting.statementsWithin_follows he fuel
    exact hscript.bind fun statements => .pure _

end Whole

/-- Readers that count follow those that are given the levels that are left. -/
theorem Request.counting_follows {n : Nat} (step : Request) (limit : Nat) (inside : Entry → Counting Expr) :
    Follows limit 0 (fun _ => False) n (step.counting limit inside) (step.reader limit) :=
  step.readerBy_follows fun s hs _ => counting_follows_expression limit inside s hs

/-- A step that counts comes to the same as one that does not, and leaves the counter at zero. -/
theorem Request.counting_runOn (step : Request) (inside : Entry → Counting Expr) {s : TokenStream} (hs : s.Ended)
    {limit highest : Nat} (hhighest : highest ≤ limit) :
    ∃ highest' ≤ limit, (step.counting limit inside).runOn (s, ⟨0, highest⟩) =
      (((step.reader limit).runOn s).1, ((step.reader limit).runOn s).2, ⟨0, highest'⟩) := by
  have h := step.counting_follows limit inside s hs (Nat.le_refl _) highest hhighest
  unfold Counting.runOn Parser.runOn
  generalize (step.counting limit inside).run (s, ⟨0, highest⟩) = x, (step.reader limit).run s = y at h
  cases h with
  | stop he _ => exact he.elim
  | error hhighest' => exact ⟨_, hhighest', rfl⟩
  | ok hhighest' _ _ => exact ⟨_, hhighest', rfl⟩

theorem Request.reader_local (step : Request) (limit : Nat) : Local false (step.reader limit) := by
  cases step with
  | expression => exact (expression_local limit).bind fun e => .pure _
  | standalone => exact (standalone_local limit).bind fun e => .pure _
  | script => exact (script_local limit).bind fun statements => .pure _

/-! ### The tokens of a text -/

namespace TokenStream

/-- The tokens of a text from one of them on. -/
def atIndex (source : List Char) (ts : List PlacedToken) (n : Nat) : Option TokenStream :=
  match ts.drop n with
  | [] => none
  | t :: following => some ⟨source, t, following, (ts.take n).getLast?.map PlacedToken.stop⟩

variable {source : List Char} {ts : List PlacedToken} {n : Nat} {s : TokenStream}

theorem atIndex_eq_some : atIndex source ts n = some s ↔
    s.source = source ∧ s.tokens = ts.drop n ∧ s.before = (ts.take n).getLast?.map PlacedToken.stop := by
  unfold atIndex tokens
  cases ts.drop n with
  | nil =>
    constructor
    · exact nofun
    · rintro ⟨-, htokens, -⟩
      cases htokens
  | cons t following =>
    constructor
    · rintro ⟨⟩
      exact ⟨rfl, rfl, rfl⟩
    · rintro ⟨rfl, htokens, hbefore⟩
      cases htokens
      rw [← hbefore]

/-- As many tokens are left as stand from the index on. -/
theorem length_of_atIndex (h : atIndex source ts n = some s) : s.words.length + n = ts.length := by
  obtain ⟨-, htokens, -⟩ := atIndex_eq_some.1 h
  have hlength := congrArg List.length htokens
  rw [← map_tokens, List.length_map]
  rw [List.length_drop] at hlength
  have hpos : 0 < s.tokens.length := Nat.zero_lt_succ _
  omega

theorem lt_of_atIndex (h : atIndex source ts n = some s) : n < ts.length := by
  have hlength := length_of_atIndex h
  have hpos := List.length_pos_iff.2 s.words_ne_nil
  omega

/-- A token is passed, or the last one stays. -/
theorem atIndex_advance (h : atIndex source ts n = some s) :
    ∃ m, n ≤ m ∧ atIndex source ts m = some s.advance := by
  obtain ⟨hsource, htokens, hbefore⟩ := atIndex_eq_some.1 h
  cases hf : s.following with
  | nil =>
    refine ⟨n, Nat.le_refl n, ?_⟩
    rw [advance, hf]
    exact h
  | cons t following =>
    have hadvance : s.advance = ⟨s.source, t, following, some s.current.stop⟩ := by rw [advance, hf]
    have hcurrent : ts[n]? = some s.current := by
      rw [← List.head?_drop, ← htokens]
      rfl
    refine ⟨n + 1, Nat.le_succ n, atIndex_eq_some.2 ⟨?_, ?_, ?_⟩⟩
    · rw [hadvance]
      exact hsource
    · rw [hadvance, ← List.drop_drop, ← htokens]
      exact hf.symm
    · rw [hadvance, List.take_add_one, hcurrent, Option.toList_some, List.getLast?_concat]
      rfl

theorem atIndex_iterate (h : atIndex source ts n = some s) (k : Nat) :
    ∃ m, n ≤ m ∧ atIndex source ts m = some (advance^[k] s) := by
  induction k with
  | zero => exact ⟨n, Nat.le_refl n, h⟩
  | succ k ih =>
    obtain ⟨m, hm, hstream⟩ := ih
    obtain ⟨m', hm', hstream'⟩ := atIndex_advance hstream
    rw [Function.iterate_succ_apply']
    exact ⟨m', Nat.le_trans hm hm', hstream'⟩

/-- The tokens of a text end with the end of the input, from whichever of them on. -/
theorem ended_of_atIndex {text : String} (hts : tokenize text = .ok ts) (h : atIndex source ts n = some s) :
    s.Ended := by
  obtain ⟨ws, hws, hmem⟩ := tokenize_ended hts
  obtain ⟨-, htokens, -⟩ := atIndex_eq_some.1 h
  have hlt := lt_of_atIndex h
  have hn : n ≤ ws.length := by
    have hwords := congrArg List.length hws
    rw [List.length_map, List.length_append, List.length_singleton] at hwords
    omega
  refine ⟨ws.drop n, ?_, fun hend => hmem (List.mem_of_mem_drop hend)⟩
  rw [← map_tokens, htokens, List.map_drop, hws, List.drop_append_of_le_length hn]

/-- A new parser is given the tokens from an index on, and nothing was taken before. -/
theorem atIndex_drop (h : atIndex source ts n = some s) :
    atIndex source (ts.drop n) 0 = some { s with before := none } := by
  obtain ⟨hsource, htokens, -⟩ := atIndex_eq_some.1 h
  exact atIndex_eq_some.2 ⟨hsource, htokens, rfl⟩

theorem ofText_atIndex {text : String} (hts : tokenize text = .ok ts) :
    ∃ s, ofText text = .ok s ∧ atIndex text.toList ts 0 = some s := by
  obtain ⟨t, us, rfl, hs⟩ := ofText_cons hts
  exact ⟨_, hs, rfl⟩

end TokenStream

/-! ### Between two steps -/

/-- Between two steps a parser stands at one of its tokens, no level of nesting is open, and there were never more of
    them open than the limit allows. -/
structure Rests (limit : Nat) (source : List Char) (ts : List PlacedToken) (n : Nat) (c : TokenStream × Depth) :
    Prop where
  position : TokenStream.atIndex source ts n = some c.1
  closed : c.2.current = 0
  highest : c.2.highest ≤ limit

theorem Parser.runOn_of_together {α : Type} {p : Parser α} {s t : TokenStream} (h : LocalAt s t p) :
    (p.runOn s).1 = (p.runOn t).1 ∧ ∃ k, (p.runOn s).2 = TokenStream.advance^[k] s := by
  unfold LocalAt at h
  unfold Parser.runOn
  generalize p.run s = x, p.run t = y at h
  cases h with
  | ok a k => exact ⟨rfl, k, rfl⟩
  | error e k => exact ⟨rfl, k, rfl⟩

/-- An expression that is read takes a word at least. -/
theorem Request.expression_takes {limit : Nat} {s : TokenStream} {a : Answer} (hs : s.Ended)
    (h : ((Request.expression.reader limit).runOn s).1 = .ok a) :
    ((Request.expression.reader limit).runOn s).2.words.length < s.words.length := by
  unfold Parser.runOn at h ⊢
  cases hrun : (Request.expression.reader limit).run s with
  | error e s' =>
    rw [hrun] at h
    cases h
  | ok b s' =>
    obtain ⟨e, s₁, he, hpure⟩ := yields_bind.1 (show Yields _ s b s' from hrun)
    obtain ⟨-, rfl⟩ := yields_pure.1 hpure
    obtain ⟨-, hread, -⟩ := enter_sound limit limit .expression s e s' hs he
    have hlength := hread.nest_lt
    dsimp only
    omega

namespace Rests

variable {limit n : Nat} {text : String} {ts : List PlacedToken} {c : TokenStream × Depth}

/-- A step comes to what the reader comes to that does not count, and leaves the counter at zero. -/
theorem runOn (hts : tokenize text = .ok ts) (h : Rests limit text.toList ts n c) (inside : Entry → Counting Expr)
    (step : Request) : ∃ highest ≤ limit, (step.counting limit inside).runOn c =
      (((step.reader limit).runOn c.1).1, ((step.reader limit).runOn c.1).2, ⟨0, highest⟩) := by
  obtain ⟨s, ⟨current, highest⟩⟩ := c
  obtain ⟨hposition, rfl, hhighest⟩ := h
  exact step.counting_runOn inside (TokenStream.ended_of_atIndex hts hposition) hhighest

/-- One step: the counter is at zero again, the tokens are gone through forwards, and an expression takes one at
    least. -/
theorem step (hts : tokenize text = .ok ts) (h : Rests limit text.toList ts n c) (inside : Entry → Counting Expr)
    (step : Request) :
    ∃ m, n ≤ m ∧ Rests limit text.toList ts m ((step.counting limit inside).runOn c).2 ∧
      (step = .expression → (∃ a, ((step.counting limit inside).runOn c).1 = .ok a) → n < m) := by
  have hs : c.1.Ended := TokenStream.ended_of_atIndex hts h.position
  obtain ⟨highest, hhighest, hrun⟩ := h.runOn hts inside step
  obtain ⟨-, k, hk⟩ := Parser.runOn_of_together (step.reader_local limit c.1 c.1 (.refl hs))
  obtain ⟨m, hm, hposition⟩ := TokenStream.atIndex_iterate h.position k
  refine ⟨m, hm, ?_, ?_⟩
  · rw [hrun, hk]
    exact ⟨hposition, rfl, hhighest⟩
  · rintro rfl ⟨a, ha⟩
    rw [hrun] at ha
    have htakes := Request.expression_takes hs ha
    have hbefore := TokenStream.length_of_atIndex h.position
    have hbehind := TokenStream.length_of_atIndex hposition
    rw [hk] at htakes
    omega

/-- All steps of a parser, whatever they come to. -/
theorem afterSteps (hts : tokenize text = .ok ts) (h : Rests limit text.toList ts n c)
    (inside : Entry → Counting Expr) (steps : List Request) :
    ∃ m, n ≤ m ∧ Rests limit text.toList ts m (afterSteps limit inside c steps) := by
  induction steps generalizing n c with
  | nil => exact ⟨n, Nat.le_refl n, h⟩
  | cons first steps ih =>
    obtain ⟨m, hm, hrests, -⟩ := h.step hts inside first
    obtain ⟨m', hm', hrests'⟩ := ih hrests
    exact ⟨m', Nat.le_trans hm hm', hrests'⟩

/-- A step answers what a new parser answers that is given the tokens from here on. -/
theorem answer (hts : tokenize text = .ok ts) (h : Rests limit text.toList ts n c) (inside : Entry → Counting Expr)
    (step : Request) :
    ∃ fresh, TokenStream.atIndex text.toList (ts.drop n) 0 = some fresh ∧
      ((step.counting limit inside).runOn c).1 = ((step.counting limit inside).runOn (fresh, ⟨0, 0⟩)).1 := by
  have hs : c.1.Ended := TokenStream.ended_of_atIndex hts h.position
  have hended : { c.1 with before := none : TokenStream }.Ended := hs
  have hfresh : SameWords false c.1 { c.1 with before := none } := ⟨hs, ⟨none, rfl⟩, nofun⟩
  obtain ⟨_, -, hrun⟩ := h.runOn hts inside step
  obtain ⟨_, -, hrun'⟩ := step.counting_runOn inside hended (Nat.zero_le limit)
  refine ⟨{ c.1 with before := none }, TokenStream.atIndex_drop h.position, ?_⟩
  rw [hrun, hrun']
  exact (Parser.runOn_of_together (step.reader_local limit _ _ hfresh)).1

end Rests

/-- No step of a parser depends on the steps before it, failed ones among them. After whatever steps, the parser stands
    at one of its tokens and no level of nesting is open. The next step leaves it so again, at the same token or
    further on, and further on if it reads an expression. The step comes to what the reader comes to that is given the
    levels that are left, and it answers what a new parser answers that is given the tokens not yet taken. -/
theorem steps_independent {text : String} {ts : List PlacedToken} (hts : tokenize text = .ok ts) (limit : Nat)
    (inside : Entry → Counting Expr) (steps : List Request) (step : Request) :
    ∃ start, TokenStream.ofText text = .ok start ∧
      let c := afterSteps limit inside (start, ⟨0, 0⟩) steps
      let next := (step.counting limit inside).runOn c
      ∃ n m, n ≤ m ∧ m < ts.length ∧ Rests limit text.toList ts n c ∧ Rests limit text.toList ts m next.2 ∧
        (step = .expression → (∃ a, next.1 = .ok a) → n < m) ∧
        (next.1, next.2.1) = (step.reader limit).runOn c.1 ∧
        ∃ fresh, TokenStream.atIndex text.toList (ts.drop n) 0 = some fresh ∧
          next.1 = ((step.counting limit inside).runOn (fresh, ⟨0, 0⟩)).1 := by
  obtain ⟨start, hstart, hindex⟩ := TokenStream.ofText_atIndex hts
  refine ⟨start, hstart, ?_⟩
  intro c next
  have hbegin : Rests limit text.toList ts 0 (start, ⟨0, 0⟩) := ⟨hindex, rfl, Nat.zero_le limit⟩
  obtain ⟨n, -, hbefore⟩ := hbegin.afterSteps hts inside steps
  obtain ⟨m, hm, hbehind, htakes⟩ := hbefore.step hts inside step
  have hvalid : m < ts.length := TokenStream.lt_of_atIndex hbehind.position
  obtain ⟨_, -, hplain⟩ := hbefore.runOn hts inside step
  refine ⟨n, m, hm, hvalid, hbefore, hbehind, htakes, ?_, hbefore.answer hts inside step⟩
  show (next.1, next.2.1) = (step.reader limit).runOn c.1
  rw [show next = _ from hplain]

/-- A whole expression fails behind the target of an assignment. The script that is read from there on is refused, as
    a new parser refuses the tokens from the second one on. -/
theorem steps_independent_assignment :
    let refuse : Entry → Counting Expr := fun _ => liftM (Parser.unexpected .expression : Parser Expr)
    ∃ ts start, tokenize "x:=1;" = .ok ts ∧ TokenStream.ofText "x:=1;" = .ok start ∧
      let c := afterSteps 1 refuse (start, ⟨0, 0⟩) [.standalone]
      let next := (Request.script.counting 1 refuse).runOn c
      c.1.words.length = 4 ∧ next.1.isOk = false ∧
        ∃ n m, n ≤ m ∧ Rests 1 "x:=1;".toList ts n c ∧ Rests 1 "x:=1;".toList ts m next.2 ∧
          ∃ fresh, TokenStream.atIndex "x:=1;".toList (ts.drop n) 0 = some fresh ∧
            next.1 = ((Request.script.counting 1 refuse).runOn (fresh, ⟨0, 0⟩)).1 := by
  intro refuse
  obtain ⟨start, hstart, n, m, hm, -, hbefore, hbehind, -, -, hfresh⟩ :=
    steps_independent tokenize_assignment 1 refuse [.standalone] .script
  have hfirst := hstart
  rw [TokenStream.ofText, tokenize_assignment] at hfirst
  cases hfirst
  exact ⟨_, _, tokenize_assignment, hstart, rfl, rfl, n, m, hm, hbefore, hbehind, hfresh⟩

end AssignScript
