import AssignScript.Proofs.Syntax.Complete

/-!
# Counting the levels of nesting

A parser that knows how many levels it has opened keeps a counter: it raises it on every entry, unless the limit is
reached, and lowers it again when the entry is left, with an error or without one. Here the readers are run with such
a counter beside the readers that are given the levels that are left.

## Main definitions

* `Depth`, `Counting`: readers that keep a counter;
* `counted`: a reader between raising and lowering the counter;
* `Counting.enter`: entries that count;
* `Follows`: a counting reader does what another does, and leaves the counter as it was.

## Main statements

* `counted_follows`: a reader that counts follows what its body follows;
* `Counting.reader_follows`: the readers of one level follow each other if those of the next level do;
* `Counting.enter_follows`: counting entries follow those that are given the levels that are left.
-/

namespace AssignScript

open AssignScript.Parser

/-- How many levels of nesting are open. -/
structure Depth where
  /-- How many are open now. -/
  current : Nat
  /-- The largest number that were open at once. -/
  highest : Nat

/-- Readers of tokens that count the levels of nesting. An error leaves the counter as it is, too. -/
abbrev Counting (α : Type) := EStateM ParseError (TokenStream × Depth) α

/-- What a reader comes to, with a counter beside the stream that it leaves. -/
def withDepth {α : Type} (depth : Depth) :
    EStateM.Result ParseError TokenStream α → EStateM.Result ParseError (TokenStream × Depth) α
  | .ok a s => .ok a (s, depth)
  | .error e s => .error e (s, depth)

/-- Readers that do not nest leave the counter alone. -/
instance : MonadLift Parser Counting where
  monadLift p := fun (s, depth) => withDepth depth (p.run s)

/-- Opens a level, unless as many are open as the limit allows. -/
def raise (limit : Nat) : Counting Unit := fun (s, depth) =>
  if limit ≤ depth.current then .error (.nestingTooDeep limit s.current.start) (s, depth)
  else .ok () (s, ⟨depth.current + 1, max depth.highest (depth.current + 1)⟩)

/-- Closes a level. -/
def lower : Counting Unit := fun (s, depth) =>
  .ok () (s, ⟨depth.current - 1, depth.highest⟩)

/-- A reader inside a level of its own, which is closed even after an error. -/
def counted {α : Type} (limit : Nat) (p : Counting α) : Counting α := do
  raise limit
  try p finally lower

/-- Enters an expression or operand. For the recursion to end, only some levels enter one another in this way, and
    what happens further inside is left open. -/
def Counting.enter (limit : Nat) (inside : Entry → Counting Expr) : (levels : Nat) → Entry → Counting Expr
  | 0, entry => inside entry
  | levels + 1, entry => counted limit (entry.reader (enter limit inside levels))

/-! ### Readers that do not nest -/

/-- Taking a word leaves no more words, and the end of the input where it is. -/
theorem TokenStream.Ended.skip {s : TokenStream} (h : s.Ended) :
    s.advance.Ended ∧ s.advance.words.length ≤ s.words.length := by
  by_cases hend : s.current.token = .endOfInput
  · have hfollowing : s.following = [] := List.map_eq_nil_iff.1 (List.cons.inj (h.words_eq hend)).2
    have hadvance : s.advance = s := by rw [TokenStream.advance, hfollowing]
    rw [hadvance]
    exact ⟨h, Nat.le_refl _⟩
  · obtain ⟨hwords, hs⟩ := h.advance hend
    rw [hwords, List.length_cons]
    exact ⟨hs, Nat.le_succ _⟩

/-- A reader that leaves no more words than it finds, up to the end of the input. -/
def Parser.Keeps {α : Type} (p : Parser α) : Prop :=
  ∀ s a s', s.Ended → p.Yields s a s' → s'.Ended ∧ s'.words.length ≤ s.words.length

namespace Parser

variable {α : Type}

/-- A reader that takes nothing keeps everything. -/
theorem keeps_of_eq {p : Parser α} (h : ∀ s a s', p.Yields s a s' → s' = s) : p.Keeps := by
  intro s a s' hs hp
  rw [h s a s' hp]
  exact ⟨hs, Nat.le_refl _⟩

theorem keeps_peek : peek.Keeps := keeps_of_eq fun _ _ _ h => (yields_peek.1 h).2

theorem keeps_here : here.Keeps := keeps_of_eq fun _ _ _ h => (yields_here.1 h).2

theorem keeps_remaining : remaining.Keeps := keeps_of_eq fun _ _ _ h => (yields_remaining.1 h).2

theorem keeps_spanFrom (start : Position) : (spanFrom start).Keeps :=
  keeps_of_eq fun _ _ _ h => (yields_spanFrom.1 h).2

theorem keeps_binary (op : BinaryOp) (left right : Expr) : (binary op left right).Keeps :=
  keeps_of_eq fun _ _ _ h => (yields_binary.1 h).2

theorem keeps_unary (op : UnaryOp) (start : Position) (operand : Expr) : (unary op start operand).Keeps :=
  keeps_of_eq fun _ _ _ h => (yields_unary.1 h).2

theorem keeps_numberLiteral (digits : String) (start : Position) : (numberLiteral digits start).Keeps :=
  keeps_of_eq fun _ _ _ h => (yields_numberLiteral.1 h).2

theorem keeps_unexpected (expected : Expectation) : (Parser.unexpected expected : Parser α).Keeps :=
  fun _ _ _ _ h => absurd h yields_unexpected

theorem keeps_skip : skip.Keeps := by
  intro s _ s' hs h
  rw [yields_skip.1 h]
  exact hs.skip

theorem keeps_expect (t : Token) : (expect t).Keeps := by
  intro s _ s' hs h
  rw [(yields_expect.1 h).2]
  exact hs.skip

theorem keeps_expectIdentifier : expectIdentifier.Keeps := by
  intro s x s' hs h
  rw [(yields_expectIdentifier.1 h).2]
  exact hs.skip

/-- What is entered is the phrase of the entry. -/
theorem Entry.reader_phrase (nested : Entry → Parser Expr) (entry : Entry) :
    entry.phrase.reader nested = entry.reader nested := by
  cases entry <;> rfl

end Parser

/-! ### Runs side by side -/

section Follows

/-- What a counting reader makes of a stream beside what another reader makes of it. The counter is as it was and was
    not above the limit in between. The counting reader stops with some error by itself, or both come to the same. -/
inductive Beside {α : Type} (limit depth : Nat) (stops : ParseError → Prop) (s : TokenStream) :
    EStateM.Result ParseError (TokenStream × Depth) α → EStateM.Result ParseError TokenStream α → Prop where
  | stop {e : ParseError} {s' : TokenStream} {highest : Nat} {y : EStateM.Result ParseError TokenStream α}
    (he : stops e) (hhighest : highest ≤ limit) : Beside limit depth stops s (.error e (s', ⟨depth, highest⟩)) y
  | error {e : ParseError} {s' : TokenStream} {highest : Nat} (hhighest : highest ≤ limit) :
    Beside limit depth stops s (.error e (s', ⟨depth, highest⟩)) (.error e s')
  | ok {a : α} {s' : TokenStream} {highest : Nat} (hhighest : highest ≤ limit) (hs' : s'.Ended)
    (hlength : s'.words.length ≤ s.words.length) :
    Beside limit depth stops s (.ok a (s', ⟨depth, highest⟩)) (.ok a s')

/-- On a stream, a counting reader follows another. -/
def FollowsAt {α : Type} (limit depth : Nat) (stops : ParseError → Prop) (s : TokenStream) (p : Counting α)
    (q : Parser α) : Prop :=
  ∀ highest ≤ limit, Beside limit depth stops s (p.run (s, ⟨depth, highest⟩)) (q.run s)

/-- On all streams of at most some words, a counting reader follows another. -/
def Follows {α : Type} (limit depth : Nat) (stops : ParseError → Prop) (n : Nat) (p : Counting α) (q : Parser α) :
    Prop :=
  ∀ s, s.Ended → s.words.length ≤ n → FollowsAt limit depth stops s p q

variable {α β : Type} {limit depth n : Nat} {stops : ParseError → Prop} {s : TokenStream}

/-- A stream with more words is left with no more than it has, too. -/
theorem Beside.mono {s' : TokenStream} {x : EStateM.Result ParseError (TokenStream × Depth) α}
    {y : EStateM.Result ParseError TokenStream α} (h : Beside limit depth stops s' x y)
    (hlength : s'.words.length ≤ s.words.length) : Beside limit depth stops s x y := by
  cases h with
  | stop he hhighest => exact .stop he hhighest
  | error hhighest => exact .error hhighest
  | ok hhighest hs' hlength' => exact .ok hhighest hs' (Nat.le_trans hlength' hlength)

namespace FollowsAt

theorem bind {p : Counting α} {q : Parser α} {f : α → Counting β} {g : α → Parser β}
    (h : FollowsAt limit depth stops s p q)
    (hf : ∀ a s', s'.Ended → s'.words.length ≤ s.words.length → FollowsAt limit depth stops s' (f a) (g a)) :
    FollowsAt limit depth stops s (p >>= f) (q >>= g) := by
  intro highest hhighest
  have hbeside := h highest hhighest
  rw [EStateM.run_bind, EStateM.run_bind]
  generalize p.run (s, ⟨depth, highest⟩) = x, q.run s = y at hbeside
  cases hbeside with
  | stop he hhighest' => exact .stop he hhighest'
  | error hhighest' => exact .error hhighest'
  | ok hhighest' hs' hlength => exact (hf _ _ hs' hlength _ hhighest').mono hlength

/-- A reader that does not nest follows itself. -/
theorem lift (hs : s.Ended) {q : Parser α} (hq : q.Keeps) : FollowsAt limit depth stops s (liftM q) q := by
  intro highest hhighest
  change Beside limit depth stops s (withDepth ⟨depth, highest⟩ (q.run s)) (q.run s)
  cases hrun : q.run s with
  | ok a s' =>
    obtain ⟨hs', hlength⟩ := hq s a s' hs hrun
    exact .ok hhighest hs' hlength
  | error e s' => exact .error hhighest

/-- A look at the next word, which stays the next one. -/
theorem peek_bind {f : Token → Counting β} {g : Token → Parser β}
    (h : FollowsAt limit depth stops s (f s.current.token) (g s.current.token)) :
    FollowsAt limit depth stops s (liftM peek >>= f) (peek >>= g) :=
  fun highest hhighest => h highest hhighest

theorem here_bind {f : Position → Counting β} {g : Position → Parser β}
    (h : FollowsAt limit depth stops s (f s.current.start) (g s.current.start)) :
    FollowsAt limit depth stops s (liftM here >>= f) (here >>= g) :=
  fun highest hhighest => h highest hhighest

/-- A word that does not end the input is passed, which leaves fewer words. -/
theorem skip_bind (hs : s.Ended) (hn : s.words.length ≤ n + 1) (hne : s.current.token ≠ .endOfInput)
    {f : Unit → Counting β} {g : Unit → Parser β} (h : Follows limit depth stops n (f ()) (g ())) :
    FollowsAt limit depth stops s (liftM skip >>= f) (skip >>= g) := by
  intro highest hhighest
  obtain ⟨hwords, hs'⟩ := hs.advance hne
  rw [hwords, List.length_cons] at hn
  have hbeside := h s.advance hs' (Nat.le_of_succ_le_succ hn) highest hhighest
  exact hbeside.mono hs.skip.2

end FollowsAt

namespace Follows

theorem pure (a : α) : Follows limit depth stops n (pure a) (pure a) :=
  fun _ hs _ _ hhighest => .ok hhighest hs (Nat.le_refl _)

theorem bind {p : Counting α} {q : Parser α} {f : α → Counting β} {g : α → Parser β}
    (h : Follows limit depth stops n p q) (hf : ∀ a, Follows limit depth stops n (f a) (g a)) :
    Follows limit depth stops n (p >>= f) (q >>= g) :=
  fun s hs hn => (h s hs hn).bind fun a s' hs' hlength => hf a s' hs' (Nat.le_trans hlength hn)

theorem lift {q : Parser α} (hq : q.Keeps) : Follows limit depth stops n (liftM q) q :=
  fun _ hs _ => FollowsAt.lift hs hq

theorem mono {m : Nat} {p : Counting α} {q : Parser α} (h : Follows limit depth stops n p q) (hm : m ≤ n) :
    Follows limit depth stops m p q :=
  fun s hs hlength => h s hs (Nat.le_trans hlength hm)

end Follows

/-! ### The counter -/

/-- Where the limit is reached, nothing is entered. -/
theorem counted_run_full (h : limit ≤ depth) (p : Counting α) (s : TokenStream) (highest : Nat) :
    (counted limit p).run (s, ⟨depth, highest⟩) =
      .error (.nestingTooDeep limit s.current.start) (s, ⟨depth, highest⟩) := by
  have hraise : (raise limit).run (s, ⟨depth, highest⟩) =
      .error (.nestingTooDeep limit s.current.start) (s, ⟨depth, highest⟩) := if_pos h
  rw [counted, EStateM.run_bind, hraise]

/-- A level is closed whatever the reader inside comes to. -/
theorem run_finally_lower (p : Counting α) (c : TokenStream × Depth) :
    (tryFinally p lower).run c = match p.run c with
      | .ok a (s, opened) => .ok a (s, ⟨opened.current - 1, opened.highest⟩)
      | .error e (s, opened) => .error e (s, ⟨opened.current - 1, opened.highest⟩) := by
  simp only [tryFinally, EStateM.run, Functor.map, tryFinally', EStateM.map]
  cases p c <;> rfl

/-- Below the limit, a reader with a level of its own follows what it follows with that level open. -/
theorem counted_follows (hdepth : depth < limit) {p : Counting α} {q : Parser α}
    (h : Follows limit (depth + 1) stops n p q) : Follows limit depth stops n (counted limit p) q := by
  intro s hs hn highest hhighest
  have hraise : (raise limit).run (s, ⟨depth, highest⟩) = .ok () (s, ⟨depth + 1, max highest (depth + 1)⟩) :=
    if_neg (Nat.not_le_of_lt hdepth)
  have hbeside := h s hs hn (max highest (depth + 1)) (Nat.max_le.2 ⟨hhighest, hdepth⟩)
  rw [counted, EStateM.run_bind, hraise]
  dsimp only
  rw [run_finally_lower]
  generalize p.run (s, ⟨depth + 1, max highest (depth + 1)⟩) = x, q.run s = y at hbeside
  cases hbeside with
  | stop he hhighest' => exact .stop he hhighest'
  | error hhighest' => exact .error hhighest'
  | ok hhighest' hs' hlength => exact .ok hhighest' hs' hlength

end Follows

/-! ### One level of nesting, side by side -/

namespace Counting

variable {limit depth n : Nat} {stops : ParseError → Prop}

theorem chainFrom_follows (operator? : Token → Option BinaryOp) {operand : Counting Expr} {operand' : Parser Expr}
    (ho : Follows limit depth stops n operand operand') (fuel : Nat) (left : Expr) :
    Follows limit depth stops n (chainFrom operator? operand fuel left)
      (chainFrom operator? operand' fuel left) := by
  induction fuel generalizing left with
  | zero => exact .pure left
  | succ fuel ih =>
    rw [chainFrom, chainFrom]
    refine (Follows.lift keeps_peek).bind fun tok => ?_
    cases operator? tok with
    | none => exact .pure left
    | some op =>
      refine (Follows.lift keeps_skip).bind fun _ => ho.bind fun right => ?_
      exact (Follows.lift (keeps_binary op left right)).bind ih

theorem chain_follows (operator? : Token → Option BinaryOp) {operand : Counting Expr} {operand' : Parser Expr}
    (ho : Follows limit depth stops n operand operand') :
    Follows limit depth stops n (chain operator? operand) (chain operator? operand') := by
  refine ho.bind fun left => (Follows.lift keeps_remaining).bind fun fuel => ?_
  exact chainFrom_follows operator? ho fuel left

section Readers

variable {nested : Entry → Counting Expr} {nested' : Entry → Parser Expr}

theorem argument_follows (hn : ∀ entry, Follows limit depth stops n (nested entry) (nested' entry)) :
    Follows limit depth stops n (argument nested) (argument nested') := by
  refine (Follows.lift keeps_peek).bind fun tok => ?_
  split
  · refine (Follows.lift keeps_here).bind fun start => (Follows.lift keeps_skip).bind fun _ => ?_
    exact (Follows.lift (keeps_spanFrom start)).bind fun span => .pure _
  · exact hn .expression

theorem argumentsWithin_follows (hn : ∀ entry, Follows limit depth stops n (nested entry) (nested' entry))
    (fuel : Nat) :
    Follows limit depth stops n (argumentsWithin nested fuel) (argumentsWithin nested' fuel) := by
  induction fuel with
  | zero => exact .pure []
  | succ fuel ih =>
    rw [argumentsWithin, argumentsWithin]
    refine (argument_follows hn).bind fun first => (Follows.lift keeps_peek).bind fun tok => ?_
    split
    · refine (Follows.lift keeps_skip).bind fun _ => ih.bind fun rest => ?_
      exact .pure (first :: rest)
    · exact .pure [first]

theorem named_follows (hn : ∀ entry, Follows limit depth stops n (nested entry) (nested' entry)) (name : String)
    (start : Position) :
    Follows limit depth stops n (named nested name start) (named nested' name start) := by
  have harguments : Follows limit depth stops n (arguments nested) (arguments nested') := by
    refine (Follows.lift keeps_peek).bind fun tok => ?_
    split
    · exact .pure []
    · exact (Follows.lift keeps_remaining).bind fun fuel => argumentsWithin_follows hn fuel
  refine (Follows.lift keeps_peek).bind fun tok => ?_
  split
  · refine (Follows.lift keeps_skip).bind fun _ => harguments.bind fun args => ?_
    refine (Follows.lift (keeps_expect _)).bind fun _ => ?_
    exact (Follows.lift (keeps_spanFrom start)).bind fun span => .pure _
  · exact (Follows.lift (keeps_spanFrom start)).bind fun span => .pure _

theorem conditional_follows (hn : ∀ entry, Follows limit depth stops n (nested entry) (nested' entry))
    (start : Position) :
    Follows limit depth stops n (conditional nested start) (conditional nested' start) := by
  refine (hn .expression).bind fun c => (Follows.lift (keeps_expect _)).bind fun _ => ?_
  refine (hn .expression).bind fun a => (Follows.lift (keeps_expect _)).bind fun _ => ?_
  refine (hn .expression).bind fun b => (Follows.lift (keeps_spanFrom start)).bind fun span => ?_
  exact .pure _

/-- What has no operator outside takes a word before it nests. -/
theorem primary_follows (hn : ∀ entry, Follows limit depth stops n (nested entry) (nested' entry)) :
    Follows limit depth stops (n + 1) (primary nested) (primary nested') := by
  intro s hs hwords
  refine .here_bind (.peek_bind ?_)
  generalize htok : s.current.token = tok
  have hskip : ∀ {f : Unit → Counting Expr} {g : Unit → Parser Expr}, tok ≠ .endOfInput →
      Follows limit depth stops n (f ()) (g ()) → FollowsAt limit depth stops s (liftM skip >>= f) (skip >>= g) :=
    fun hne h => .skip_bind hs hwords (htok ▸ hne) h
  have hliteral : ∀ v : Literal, Follows limit depth stops n
      (do return Expr.literal (← spanFrom s.current.start) v : Counting Expr)
      (do return Expr.literal (← spanFrom s.current.start) v : Parser Expr) :=
    fun v => (Follows.lift (keeps_spanFrom _)).bind fun span => .pure _
  have hrefused : FollowsAt limit depth stops s (liftM (Parser.unexpected .expression : Parser Expr))
      (Parser.unexpected .expression) := .lift hs (keeps_unexpected _)
  cases tok with
  | number text => exact hskip nofun ((Follows.lift (keeps_numberLiteral text _)).bind hliteral)
  | string content => exact hskip nofun (hliteral _)
  | identifier name => exact hskip nofun (named_follows hn name _)
  | keyword k =>
    cases k with
    | true => exact hskip nofun (hliteral _)
    | false => exact hskip nofun (hliteral _)
    | null => exact hskip nofun (hliteral _)
    | ifWord => exact hskip nofun (conditional_follows hn _)
    | _ => exact hrefused
  | mark m =>
    cases m with
    | leftParen =>
      refine hskip nofun ((hn .expression).bind fun inner => ?_)
      refine (Follows.lift (keeps_expect _)).bind fun _ => ?_
      exact (Follows.lift (keeps_spanFrom _)).bind fun span => .pure _
    | _ => exact hrefused
  | endOfInput => exact hrefused

theorem signed_follows (hn : ∀ entry, Follows limit depth stops n (nested entry) (nested' entry)) :
    Follows limit depth stops (n + 1) (signed nested) (signed nested') := by
  intro s hs hwords
  refine .peek_bind ?_
  cases hop : sign? s.current.token with
  | none => exact primary_follows hn s hs hwords
  | some op =>
    refine .here_bind (.skip_bind hs hwords (sign?_eq_some.1 hop).ne_endOfInput ?_)
    exact (hn .signed).bind fun operand => .lift (keeps_unary op _ operand)

theorem additive_follows (hn : ∀ entry, Follows limit depth stops n (nested entry) (nested' entry)) :
    Follows limit depth stops (n + 1) (additive nested) (additive nested') :=
  chain_follows _ (chain_follows _ (signed_follows hn))

theorem negated_follows (hn : ∀ entry, Follows limit depth stops n (nested entry) (nested' entry)) :
    Follows limit depth stops (n + 1) (negated nested) (negated nested') := by
  have hcomparison : Follows limit depth stops (n + 1) (comparison nested) (comparison nested') := by
    refine (additive_follows hn).bind fun left => (Follows.lift keeps_peek).bind fun tok => ?_
    cases comparative? tok with
    | none => exact .pure left
    | some op =>
      refine (Follows.lift keeps_skip).bind fun _ => (additive_follows hn).bind fun right => ?_
      exact .lift (keeps_binary op left right)
  intro s hs hwords
  refine .peek_bind ?_
  by_cases hnot : s.current.token = .keyword .not
  · rw [if_pos hnot, if_pos hnot]
    refine .here_bind (.skip_bind hs hwords (by rw [hnot]; decide) ?_)
    exact (hn .negated).bind fun operand => .lift (keeps_unary .not _ operand)
  · rw [if_neg hnot, if_neg hnot]
    exact hcomparison s hs hwords

/-- The readers of a level follow each other on streams with one word more than those of the next level need, since
    they take a word before they enter that level. -/
theorem reader_follows (hn : ∀ entry, Follows limit depth stops n (nested entry) (nested' entry)) (entry : Entry) :
    Follows limit depth stops (n + 1) (entry.reader nested) (entry.reader nested') := by
  cases entry with
  | expression => exact chain_follows _ (chain_follows _ (negated_follows hn))
  | negated => exact negated_follows hn
  | signed => exact signed_follows hn

end Readers

/-! ### All levels of nesting, side by side -/

/-- Entries that count follow any that enter the levels that are left one after the other, if those fail where no level
    is left, or the counting ones may stop there. As long as the levels that are open and those that are left make up
    the limit, that is where the counter refuses an entry. -/
theorem enter_follows {q : Nat → Entry → Parser Expr} (inside : Entry → Counting Expr)
    (hzero : ∀ entry (s : TokenStream), stops (.nestingTooDeep limit s.current.start) ∨
      (q 0 entry).run s = .error (.nestingTooDeep limit s.current.start) s)
    (hsucc : ∀ room entry s, s.Ended → (q (room + 1) entry).run s = (entry.reader (q room)).run s)
    {room levels : Nat} (hroom : depth + room = limit) (hlevels : room < levels) (n : Nat) (entry : Entry) :
    Follows limit depth stops n (enter limit inside levels entry) (q room entry) := by
  induction levels generalizing depth room n entry with
  | zero => exact absurd hlevels (Nat.not_lt_zero room)
  | succ levels ih =>
    intro s hs hwords highest hhighest
    rw [enter]
    cases room with
    | zero =>
      have hfull : limit ≤ depth := Nat.le_of_eq hroom.symm
      rw [counted_run_full hfull]
      rcases hzero entry s with hstop | hfail
      · exact .stop hstop hhighest
      · rw [hfail]
        exact .error hhighest
    | succ room =>
      have hdepth : depth < limit := by omega
      have hnested : ∀ entry, Follows limit (depth + 1) stops n (enter limit inside levels entry) (q room entry) :=
        ih (by omega) (Nat.lt_of_succ_lt_succ hlevels) n
      have hreader := (reader_follows hnested entry).mono (Nat.le_succ n)
      rw [hsucc room entry s hs]
      exact counted_follows hdepth hreader s hs hwords highest hhighest

end Counting

end AssignScript
