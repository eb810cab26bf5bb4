import Mathlib.Data.Bool.Basic
import Mathlib.Data.List.Forall2
import AssignScript.Proofs.Syntax.Grammar

/-!
# One look ahead is enough

The last branch of a choice is open, so the plain grammar reads some words in several ways: `if a then b else
c = d` may compare inside the branch or outside. Whatever it reads in some way can also be read with a look at
the next word only, before words that cannot continue an expression.

The proof goes through walks over the words. A walk remembers, for the whole expression and for every last
branch that is open, whether a comparison can still be taken there. A branch is left only for a comparison
that it cannot take. Having more branches open, or more comparisons free, never hurts a walk.

## Main definitions

* `Walk`: a walk over words, with the open branches;
* `Resumes`: what can be read where an operand ended, with a look at the next word.

## Main statements

* `Walk.mono`: more open branches never hurt;
* `Walk.resumes`: a walk is read with a look at the next word;
* `Reads.walks`: what the plain grammar reads is a walk;
* `Reads.toLookahead`: what the plain grammar reads can be read with a look at the next word.
-/

namespace AssignScript

/-! ### Walks -/

/-- Where a walk stands. -/
inductive Place where
  /-- Before an operand that may be negated. -/
  | start
  /-- Before an operand. -/
  | operand
  /-- Behind an operand. -/
  | after

/-- Walks over the words of an expression up to the words `v`. The list says, from the innermost open branch
    to the whole expression, whether a comparison can still be taken there. -/
inductive Walk (v : List Token) : Place → List Bool → List Token → Prop where
  | not {st : List Bool} {s : List Token} (h : Walk v .start st s) :
    Walk v .start st (.keyword .not :: s)
  | enter {st : List Bool} {s : List Token} (h : Walk v .operand st s) : Walk v .start st s
  | sign {st : List Bool} {tok : Token} {op : UnaryOp} {s : List Token} (hop : Signs tok op)
    (h : Walk v .operand st s) : Walk v .operand st (tok :: s)
  | atom {st : List Bool} {s s' : List Token} {e : Expr} (hread : Reads .lookahead .primary s e s')
    (h : Walk v .after st s') : Walk v .operand st s
  | branch {st : List Bool} {s s₁ s₂ : List Token} {c a : Expr}
    (hcondition : Reads .lookahead .expression s c (.keyword .thenWord :: s₁))
    (hthen : Reads .lookahead .expression s₁ a (.keyword .elseWord :: s₂))
    (h : Walk v .start (true :: st) s₂) : Walk v .operand st (.keyword .ifWord :: s)
  | additive {b : Bool} {st : List Bool} {tok : Token} {op : BinaryOp} {s : List Token}
    (hop : Level.additive.Joins tok op) (h : Walk v .operand (b :: st) s) :
    Walk v .after (b :: st) (tok :: s)
  | multiplicative {b : Bool} {st : List Bool} {tok : Token} {op : BinaryOp} {s : List Token}
    (hop : Level.multiplicative.Joins tok op) (h : Walk v .operand (b :: st) s) :
    Walk v .after (b :: st) (tok :: s)
  | compare {st : List Bool} {tok : Token} {op : BinaryOp} {s : List Token}
    (hop : Compares tok op) (h : Walk v .operand (false :: st) s) :
    Walk v .after (true :: st) (tok :: s)
  | leave {st : List Bool} {tok : Token} {op : BinaryOp} {s : List Token} (hop : Compares tok op)
    (h : Walk v .after st (tok :: s)) : Walk v .after (false :: st) (tok :: s)
  | conjunctive {b : Bool} {st : List Bool} {tok : Token} {op : BinaryOp} {s : List Token}
    (hop : Level.conjunctive.Joins tok op) (h : Walk v .start (true :: st) s) :
    Walk v .after (b :: st) (tok :: s)
  | disjunctive {b : Bool} {st : List Bool} {tok : Token} {op : BinaryOp} {s : List Token}
    (hop : Level.disjunctive.Joins tok op) (h : Walk v .start (true :: st) s) :
    Walk v .after (b :: st) (tok :: s)
  | finish {st : List Bool} : Walk v .after st v

/-- Some open branches among others, with as many comparisons free. -/
abbrev Below (st st' : List Bool) : Prop := List.SublistForall₂ (· ≤ ·) st st'

theorem Below.refl (st : List Bool) : Below st st :=
  List.SublistForall₂.is_refl.refl st

theorem Below.trans {st st' st'' : List Bool} (h : Below st st') (h' : Below st' st'') :
    Below st st'' :=
  List.SublistForall₂.is_trans.trans _ _ _ h h'

/-- A branch more is open. -/
theorem Below.push (b : Bool) (st : List Bool) : Below st (b :: st) := .cons_right (Below.refl st)

/-- A comparison more is free. -/
theorem Below.free (st : List Bool) : Below (false :: st) (true :: st) :=
  .cons (by decide) (Below.refl st)

/-- What is below open branches is below them with the innermost one changed, innermost ones apart. -/
theorem Below.exists_cons {b : Bool} {st st' : List Bool} (h : Below (b :: st) st') :
    ∃ b' st'', st' = b' :: st'' ∧ Below st st'' := by
  cases h with
  | @cons _ b' _ st'' _ h => exact ⟨b', st'', rfl, h⟩
  | @cons_right b' _ st'' h => exact ⟨b', st'', rfl, (Below.push b st).trans h⟩

namespace Walk

variable {v : List Token} {st st' : List Bool} {s : List Token}

/-- A comparison that can be taken in some branch can be taken where more branches are open, once those that
    cannot take it are left. -/
theorem compare_mono {tok : Token} {op : BinaryOp} (hop : Compares tok op)
    (h : ∀ st', Below (false :: st) st' → Walk v .operand st' s) (hst : Below (true :: st) st') :
    Walk v .after st' (tok :: s) := by
  -- From the innermost branch outwards, to the first one in which a comparison is free.
  induction st' with
  | nil => cases hst
  | cons b st' ih =>
    cases b with
    | true =>
      refine .compare hop (h _ ?_)
      cases hst with
      | cons _ hrest => exact .cons le_rfl hrest
      | cons_right hrest => exact .cons_right ((Below.free st).trans hrest)
    | false =>
      refine .leave hop (ih ?_)
      cases hst with
      | cons hle _ => exact absurd hle (by decide)
      | cons_right hrest => exact hrest

/-- More open branches, or more free comparisons, never hurt a walk. -/
theorem mono {p : Place} (h : Walk v p st s) (hst : Below st st') : Walk v p st' s := by
  -- Every step is taken as before; only a comparison may have to leave some branches first.
  induction h generalizing st' with
  | not _ ih => exact .not (ih hst)
  | enter _ ih => exact .enter (ih hst)
  | sign hop _ ih => exact .sign hop (ih hst)
  | atom hread _ ih => exact .atom hread (ih hst)
  | branch hcondition hthen _ ih => exact .branch hcondition hthen (ih (.cons le_rfl hst))
  | additive hop _ ih =>
    obtain ⟨b', st'', rfl, -⟩ := hst.exists_cons
    exact .additive hop (ih hst)
  | multiplicative hop _ ih =>
    obtain ⟨b', st'', rfl, -⟩ := hst.exists_cons
    exact .multiplicative hop (ih hst)
  | compare hop _ ih => exact compare_mono hop (fun _ => ih) hst
  -- The branch that was left need not be: it cannot take the comparison.
  | leave hop _ ih => exact ih ((Below.push false _).trans hst)
  | conjunctive hop _ ih =>
    obtain ⟨b', st'', rfl, hrest⟩ := hst.exists_cons
    exact .conjunctive hop (ih (.cons le_rfl hrest))
  | disjunctive hop _ ih =>
    obtain ⟨b', st'', rfl, hrest⟩ := hst.exists_cons
    exact .disjunctive hop (ih (.cons le_rfl hrest))
  | finish => exact .finish

end Walk

/-! ### A walk is read with a look at the next word -/

/-- Different levels have different operators. -/
theorem Level.Joins.chain {l l' : Level} {tok : Token} {op : BinaryOp} (hop : l.Joins tok op)
    (hne : l ≠ l') : Seams.lookahead.chain l' (some tok) := by
  rintro _ ⟨⟩ op' hop'
  cases hop <;> cases hop' <;> exact hne rfl

theorem Level.Joins.operand {l : Level} {tok : Token} {op : BinaryOp} (hop : l.Joins tok op) :
    Seams.lookahead.operand (some tok) := by
  rintro _ ⟨⟩ op' hop'
  cases hop <;> cases hop'

theorem Compares.chain {tok : Token} {op : BinaryOp} (hop : Compares tok op) (l : Level) :
    Seams.lookahead.chain l (some tok) := by
  rintro _ ⟨⟩ op' hop'
  cases hop <;> cases hop'

/-- What follows a first operand among operators of a level, whatever the operand is. -/
def Level.Tail (l : Level) (s t : List Token) : Prop :=
  ∀ left, ∃ e, Reads .lookahead (.more l left) s e t

namespace Level.Tail

variable {l : Level} {s s₁ t : List Token} {e : Expr}

theorem stop (h : Seams.lookahead.chain l s.head?) : l.Tail s s := fun left => ⟨left, .stop h⟩

theorem join {tok : Token} {op : BinaryOp} (hop : l.Joins tok op)
    (hright : Reads .lookahead l.operand s e s₁) (h : l.Tail s₁ t) : l.Tail (tok :: s) t := by
  intro left
  obtain ⟨e', hmore⟩ := h (.binary default op left e)
  exact ⟨e', .join default hop hright hmore⟩

theorem chain (hfirst : Reads .lookahead l.operand s e s₁) (h : l.Tail s₁ t) :
    ∃ e', Reads .lookahead (.chain l) s e' t := by
  obtain ⟨e', hmore⟩ := h e
  exact ⟨e', .chain hfirst hmore⟩

end Level.Tail

/-- The comparison that may follow where one is free. -/
inductive Compared : Bool → List Token → List Token → Prop where
  | none {s : List Token} (h : Seams.lookahead.operand s.head?) : Compared true s s
  | taken {tok : Token} {op : BinaryOp} {s s' : List Token} {e : Expr} (hop : Compares tok op)
    (h : Reads .lookahead (.chain .additive) s e s') : Compared true (tok :: s) s'
  | used {s : List Token} : Compared false s s

/-- What can be read behind an operand: the rest of the innermost open branch, and so on outwards, up to the
    words `v`. -/
def Resumes (v : List Token) : List Bool → List Token → Prop
  | [], s => s = v
  | b :: st, s => ∃ s₁ s₂ s₃ s₄ s₅, Level.multiplicative.Tail s s₁ ∧ Level.additive.Tail s₁ s₂ ∧
    Compared b s₂ s₃ ∧ Level.conjunctive.Tail s₃ s₄ ∧ Level.disjunctive.Tail s₄ s₅ ∧
    Resumes v st s₅

/-- What can be read at a place of a walk. Where an operand may be negated a comparison is free. -/
def Place.Resumes (v : List Token) : Place → List Bool → List Token → Prop
  | .after, st, s => AssignScript.Resumes v st s
  | .operand, st, s => ∃ e s', Reads .lookahead .signed s e s' ∧ AssignScript.Resumes v st s'
  | .start, true :: st, s => ∃ e s₃ s₄ s₅, Reads .lookahead .negated s e s₃ ∧
    Level.conjunctive.Tail s₃ s₄ ∧ Level.disjunctive.Tail s₄ s₅ ∧ AssignScript.Resumes v st s₅
  | .start, _, _ => True

section Resumes

variable {v s : List Token} {st : List Bool} {b : Bool} {tok : Token} {op : BinaryOp}

theorem resumes_self (hv : Closes v) : ∀ st, Resumes v st v
  | [] => rfl
  | b :: st => by
    refine ⟨v, v, v, v, v, .stop (hv.chain _), .stop (hv.chain _), ?_, .stop (hv.chain _),
      .stop (hv.chain _), resumes_self hv st⟩
    cases b with
    | true => exact .none hv.operand
    | false => exact .used

/-- A sum, with a comparison where one is free. -/
theorem Compared.reads {s₁ s₂ : List Token} {e : Expr}
    (h : Reads .lookahead (.chain .additive) s e s₁) (hcompared : Compared true s₁ s₂) :
    ∃ e', Reads .lookahead .negated s e' s₂ := by
  cases hcompared with
  | none hseam => exact ⟨e, .plain (.single h hseam)⟩
  | taken hop hright => exact ⟨_, .plain (.compare default h hop hright)⟩

theorem Place.Resumes.enter (h : Place.operand.Resumes v st s) : Place.start.Resumes v st s := by
  cases st with
  | nil => trivial
  | cons b st =>
    cases b with
    | false => trivial
    | true =>
      obtain ⟨e, s', hsigned, s₁, s₂, s₃, s₄, s₅, hmul, hadd, hcompared, hrest⟩ := h
      obtain ⟨e₁, hproduct⟩ := hmul.chain (l := .multiplicative) hsigned
      obtain ⟨e₂, hsum⟩ := hadd.chain (l := .additive) hproduct
      obtain ⟨e₃, hnegated⟩ := hcompared.reads hsum
      exact ⟨e₃, s₃, s₄, s₅, hnegated, hrest⟩

theorem Place.Resumes.not (h : Place.start.Resumes v st s) :
    Place.start.Resumes v st (.keyword .not :: s) := by
  cases st with
  | nil => trivial
  | cons b st =>
    cases b with
    | false => trivial
    | true =>
      obtain ⟨e, s₃, s₄, s₅, hnegated, hrest⟩ := h
      exact ⟨_, s₃, s₄, s₅, .not default hnegated, hrest⟩

theorem Place.Resumes.branch {s₁ s₂ : List Token} {c a : Expr}
    (hcondition : Reads .lookahead .expression s c (.keyword .thenWord :: s₁))
    (hthen : Reads .lookahead .expression s₁ a (.keyword .elseWord :: s₂))
    (h : Place.start.Resumes v (true :: st) s₂) :
    Place.operand.Resumes v st (.keyword .ifWord :: s) := by
  obtain ⟨e, s₃, s₄, s₅, hnegated, hconj, hdisj, hrest⟩ := h
  obtain ⟨e₁, hconjunction⟩ := hconj.chain (l := .conjunctive) hnegated
  obtain ⟨e₂, helse⟩ := hdisj.chain (l := .disjunctive) hconjunction
  exact ⟨_, s₅, .unsigned (.conditional default hcondition hthen helse trivial), hrest⟩

theorem Place.Resumes.multiplicative (hop : Level.multiplicative.Joins tok op)
    (h : Place.operand.Resumes v (b :: st) s) : Place.after.Resumes v (b :: st) (tok :: s) := by
  obtain ⟨e, s', hsigned, s₁, s₂, s₃, s₄, s₅, hmul, hrest⟩ := h
  exact ⟨s₁, s₂, s₃, s₄, s₅, hmul.join hop hsigned, hrest⟩

theorem Place.Resumes.additive (hop : Level.additive.Joins tok op)
    (h : Place.operand.Resumes v (b :: st) s) : Place.after.Resumes v (b :: st) (tok :: s) := by
  obtain ⟨e, s', hsigned, s₁, s₂, s₃, s₄, s₅, hmul, hadd, hrest⟩ := h
  obtain ⟨e₁, hproduct⟩ := hmul.chain (l := .multiplicative) hsigned
  exact ⟨tok :: s, s₂, s₃, s₄, s₅, .stop (hop.chain (by decide)), hadd.join hop hproduct, hrest⟩

theorem Place.Resumes.compare (hop : Compares tok op)
    (h : Place.operand.Resumes v (false :: st) s) :
    Place.after.Resumes v (true :: st) (tok :: s) := by
  obtain ⟨e, s', hsigned, s₁, s₂, s₃, s₄, s₅, hmul, hadd, hcompared, hrest⟩ := h
  obtain ⟨e₁, hproduct⟩ := hmul.chain (l := .multiplicative) hsigned
  obtain ⟨e₂, hsum⟩ := hadd.chain (l := .additive) hproduct
  cases hcompared
  exact ⟨tok :: s, tok :: s, s₂, s₄, s₅, .stop (hop.chain _), .stop (hop.chain _), .taken hop hsum,
    hrest⟩

theorem Place.Resumes.leave (hop : Compares tok op) (h : Place.after.Resumes v st (tok :: s)) :
    Place.after.Resumes v (false :: st) (tok :: s) :=
  ⟨tok :: s, tok :: s, tok :: s, tok :: s, tok :: s, .stop (hop.chain _), .stop (hop.chain _), .used,
    .stop (hop.chain _), .stop (hop.chain _), h⟩

/-- Before a logical operator there is no comparison to take. -/
theorem Level.Joins.compared {l : Level} (hop : l.Joins tok op) (b : Bool) (s : List Token) :
    Compared b (tok :: s) (tok :: s) := by
  cases b with
  | true => exact .none hop.operand
  | false => exact .used

theorem Place.Resumes.conjunctive (hop : Level.conjunctive.Joins tok op)
    (h : Place.start.Resumes v (true :: st) s) : Place.after.Resumes v (b :: st) (tok :: s) := by
  obtain ⟨e, s₃, s₄, s₅, hnegated, hconj, hrest⟩ := h
  exact ⟨tok :: s, tok :: s, tok :: s, s₄, s₅, .stop (hop.chain (by decide)),
    .stop (hop.chain (by decide)), hop.compared b s, hconj.join hop hnegated, hrest⟩

theorem Place.Resumes.disjunctive (hop : Level.disjunctive.Joins tok op)
    (h : Place.start.Resumes v (true :: st) s) : Place.after.Resumes v (b :: st) (tok :: s) := by
  obtain ⟨e, s₃, s₄, s₅, hnegated, hconj, hdisj, hrest⟩ := h
  obtain ⟨e₁, hconjunction⟩ := hconj.chain (l := .conjunctive) hnegated
  exact ⟨tok :: s, tok :: s, tok :: s, tok :: s, s₅, .stop (hop.chain (by decide)),
    .stop (hop.chain (by decide)), hop.compared b s, .stop (hop.chain (by decide)),
    hdisj.join hop hconjunction, hrest⟩

end Resumes

/-- A walk is read with a look at the next word. -/
theorem Walk.resumes {v s : List Token} {p : Place} {st : List Bool} (hv : Closes v)
    (h : Walk v p st s) : p.Resumes v st s := by
  -- Read backwards: from what can be read behind a step to what can be read before it.
  induction h with
  | not _ ih => exact ih.not
  | enter _ ih => exact ih.enter
  | sign hop _ ih =>
    obtain ⟨e, s', hsigned, hrest⟩ := ih
    exact ⟨_, s', .sign default hop hsigned, hrest⟩
  | atom hread _ ih => exact ⟨_, _, .unsigned hread, ih⟩
  | branch hcondition hthen _ ih => exact ih.branch hcondition hthen
  | additive hop _ ih => exact ih.additive hop
  | multiplicative hop _ ih => exact ih.multiplicative hop
  | compare hop _ ih => exact ih.compare hop
  | leave hop _ ih => exact ih.leave hop
  | conjunctive hop _ ih => exact ih.conjunctive hop
  | disjunctive hop _ ih => exact ih.disjunctive hop
  | finish => exact resumes_self hv _

/-- A walk over a whole expression reads it. -/
theorem Walk.reads {v s : List Token} (hv : Closes v) (h : Walk v .start [true] s) :
    ∃ e, Reads .lookahead .expression s e v := by
  obtain ⟨e, s₃, s₄, s₅, hnegated, hconj, hdisj, hrest⟩ := h.resumes hv
  obtain ⟨e₁, hconjunction⟩ := hconj.chain (l := .conjunctive) hnegated
  obtain ⟨e₂, hdisjunction⟩ := hdisj.chain (l := .disjunctive) hconjunction
  rw [show s₅ = v from hrest] at hdisjunction
  exact ⟨e₂, hdisjunction⟩

/-! ### What the plain grammar reads is a walk -/

/-- A walk goes on behind an operand with an operator, or ends: the operand is not called. -/
theorem Walk.name {v s : List Token} {st : List Bool} (hv : Closes v) (h : Walk v .after st s) :
    Seams.lookahead.name s.head? := by
  cases h with
  | additive hop _ | multiplicative hop _ | conjunctive hop _ | disjunctive hop _ =>
    rintro ⟨⟩
    cases hop
  | compare hop _ | leave hop _ =>
    rintro ⟨⟩
    cases hop
  | finish => exact hv.name

/-- How a phrase is walked over. An operand may stand in any open branch; what may hold a comparison begins
    where one is free, and whether it took it does not matter; arguments are read as such. -/
def Phrase.Walks (v : List Token) : Phrase → List Token → List Token → Prop
  | .signed, s, t | .primary, s, t | .chain .multiplicative, s, t | .chain .additive, s, t =>
    ∀ b st, Walk v .after (b :: st) t → Walk v .operand (b :: st) s
  | .more .multiplicative _, s, t | .more .additive _, s, t =>
    ∀ b st, Walk v .after (b :: st) t → Walk v .after (b :: st) s
  | .comparison, s, t | .negated, s, t | .chain .conjunctive, s, t | .chain .disjunctive, s, t =>
    ∀ st, Walk v .after (false :: st) t → Walk v .start (true :: st) s
  | .more .conjunctive _, s, t | .more .disjunctive _, s, t =>
    ∀ st, Walk v .after (false :: st) t → Walk v .after (false :: st) s
  | .argument, s, t => Closes t → ∃ e, Reads .lookahead .argument s e t
  | .arguments x _, s, t => ∀ before, ∃ e, Reads .lookahead (.arguments x before) s e t

/-- An expression that is walked over before words that close it is read. -/
theorem Phrase.Walks.reads {s v : List Token} (h : Phrase.expression.Walks v s v) (hv : Closes v) :
    ∃ e, Reads .lookahead .expression s e v :=
  Walk.reads hv (h [] .finish)

/-- Whatever the plain grammar reads is walked over, up to any words that close an expression. -/
theorem Reads.walks {X : Phrase} {s t : List Token} {e : Expr} (h : Reads .any X s e t) :
    ∀ v, Closes v → X.Walks v s t := by
  induction h with
  | @chain l _ _ _ _ _ _ _ ih₁ ih₂ =>
    intro v hv
    cases l with
    | multiplicative | additive => exact fun b st h => ih₁ v hv b st (ih₂ v hv b st h)
    | conjunctive | disjunctive => exact fun st h => ih₁ v hv st (ih₂ v hv st h)
  | @stop l _ _ _ =>
    intro v _
    cases l with
    | multiplicative | additive => exact fun _ _ => id
    | conjunctive | disjunctive => exact fun _ => id
  | @join l _ _ _ _ _ _ _ _ _ hop _ _ ih₁ ih₂ =>
    intro v hv
    cases l with
    | multiplicative =>
      exact fun b st h => .multiplicative hop (ih₁ v hv b st (ih₂ v hv b st h))
    | additive => exact fun b st h => .additive hop (ih₁ v hv b st (ih₂ v hv b st h))
    | conjunctive => exact fun st h => .conjunctive hop (ih₁ v hv st (ih₂ v hv st h))
    | disjunctive => exact fun st h => .disjunctive hop (ih₁ v hv st (ih₂ v hv st h))
  | not _ _ ih => exact fun v hv st h => .not (ih v hv st h)
  | plain _ ih => exact ih
  | single _ _ ih => exact fun v hv st h => .enter (ih v hv true st (h.mono (.free st)))
  | compare _ _ hop _ ih₁ ih₂ =>
    exact fun v hv st h => .enter (ih₁ v hv true st (.compare hop (ih₂ v hv false st h)))
  | sign _ hop _ ih => exact fun v hv b st h => .sign hop (ih v hv b st h)
  | unsigned _ ih => exact ih
  | literal span t hw => exact fun v _ b st h => .atom (.literal span t hw) h
  | name span _ => exact fun v hv b st h => .atom (.name span (h.name hv)) h
  | emptyCall x span t => exact fun v _ b st h => .atom (.emptyCall x span t) h
  | call _ ih =>
    intro v hv b st h
    obtain ⟨e, hread⟩ := ih v hv []
    exact .atom (.call hread) h
  | parens span _ ih =>
    intro v _ b st h
    obtain ⟨e, hread⟩ := (ih _ (.rightParen _)).reads (.rightParen _)
    exact .atom (.parens span hread) h
  | conditional span _ _ _ _ ih₁ ih₂ ih₃ =>
    intro v hv b st h
    obtain ⟨c, hcondition⟩ := (ih₁ _ (.thenWord _)).reads (.thenWord _)
    obtain ⟨a, hfirst⟩ := (ih₂ _ (.elseWord _)).reads (.elseWord _)
    -- The last branch stays open, though nothing is taken there any more.
    exact .branch hcondition hfirst (ih₃ v hv (b :: st) (h.mono (.push false _)))
  | omitted span t => exact fun _ _ _ => ⟨_, .omitted span t⟩
  | given _ ih =>
    intro _ _ ht
    obtain ⟨e, hread⟩ := (ih _ ht).reads ht
    exact ⟨e, .given hread⟩
  | lastArgument span _ ih =>
    intro v hv before
    obtain ⟨a, hread⟩ := ih v hv (.rightParen _)
    exact ⟨_, .lastArgument span hread⟩
  | nextArgument _ _ ih₁ ih₂ =>
    intro v hv before
    obtain ⟨a, hread⟩ := ih₁ v hv (.comma _)
    obtain ⟨e, hrest⟩ := ih₂ v hv (before ++ [a])
    exact ⟨e, .nextArgument hread hrest⟩

/-- What the plain grammar reads before words that close an expression can be read with a look at the next
    word. -/
theorem Reads.toLookahead {s t : List Token} {e : Expr} (h : Reads .any .expression s e t)
    (ht : Closes t) : ∃ e', Reads .lookahead .expression s e' t :=
  (h.walks t ht).reads ht

end AssignScript
