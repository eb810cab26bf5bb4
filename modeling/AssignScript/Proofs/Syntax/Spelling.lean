import AssignScript.Proofs.Lexing.Pieces
import AssignScript.Proofs.Syntax.Grammar

/-!
# Expressions on their tokens

The tokens that an expression is written with, node by node: those of the parts of a node stand among its own,
and its span reaches from the first of its tokens to the last.

## Main definitions

* `spanOf`: the span of some tokens;
* `Expr.SpelledBy`: the tokens of an expression;
* `Expr.Inside`: the expressions inside another;
* `Expr.width`: how many tokens an expression has.

## Main statements

* `Expr.SpelledBy.length`: the number of tokens does not depend on places;
* `Expr.SpelledBy.eq_mapSpan`: what an expression is on other tokens.
-/

namespace AssignScript

/-! ### Spans of tokens -/

/-- Where some tokens start. -/
def firstStart : List PlacedToken → Position
  | [] => .start
  | t :: _ => t.start

/-- The span from the first of some tokens to the last. -/
def spanOf (source : List Char) (us : List PlacedToken) : Span :=
  .ofSource source (firstStart us) (lastStop (firstStart us) us)

section

variable {us vs : List PlacedToken}

theorem lastStop_append (p : Position) (us vs : List PlacedToken) :
    lastStop p (us ++ vs) = lastStop (lastStop p us) vs := by
  induction us generalizing p with
  | nil => rfl
  | cons t us ih => exact ih t.stop

theorem lastStop_of_ne_nil (h : us ≠ []) (p q : Position) : lastStop p us = lastStop q us := by
  cases us with
  | nil => exact absurd rfl h
  | cons t us => rfl

theorem firstStart_append (h : us ≠ []) (vs : List PlacedToken) :
    firstStart (us ++ vs) = firstStart us := by
  cases us with
  | nil => exact absurd rfl h
  | cons t us => rfl

/-- The span of some tokens reaches from those in front to those behind. -/
theorem spanOf_append (source : List Char) (hus : us ≠ []) (ws : List PlacedToken) (hvs : vs ≠ []) :
    spanOf source (us ++ (ws ++ vs)) =
      .ofSource source (spanOf source us).start (spanOf source vs).stop := by
  rw [spanOf, firstStart_append hus, lastStop_append, lastStop_append,
    lastStop_of_ne_nil hvs _ (firstStart vs)]
  rfl

end

/-! ### Tokens of expressions -/

/-- The operators on two operands. -/
inductive Operates : Token → BinaryOp → Prop where
  | join {l : Level} {tok : Token} {op : BinaryOp} (h : l.Joins tok op) : Operates tok op
  | compare {tok : Token} {op : BinaryOp} (h : Compares tok op) : Operates tok op

/-- The operators on one operand. -/
inductive Prefixes : Token → UnaryOp → Prop where
  | not : Prefixes (.keyword .not) .not
  | sign {tok : Token} {op : UnaryOp} (h : Signs tok op) : Prefixes tok op

namespace Expr

mutual

/-- The tokens that an expression is written with. Every node has the span from its first token to its last. -/
def SpelledBy (source : List Char) : Expr → List PlacedToken → Prop
  | .literal s v, us => s = spanOf source us ∧ ∃ t, us = [t] ∧ Writes t.token v
  | .variable s x, us => s = spanOf source us ∧ ∃ t, us = [t] ∧ t.token = .identifier x
  | .parens s e, us => s = spanOf source us ∧ ∃ t vs u, us = t :: (vs ++ [u]) ∧
    t.token = .mark .leftParen ∧ e.SpelledBy source vs ∧ u.token = .mark .rightParen
  | .unary s op e, us => s = spanOf source us ∧ ∃ t vs, us = t :: vs ∧
    Prefixes t.token op ∧ e.SpelledBy source vs
  | .binary s op l r, us => s = spanOf source us ∧ ∃ vs t ws, us = vs ++ t :: ws ∧
    l.SpelledBy source vs ∧ Operates t.token op ∧ r.SpelledBy source ws
  | .conditional s c a b, us => s = spanOf source us ∧ ∃ t vs u ws v xs,
    us = t :: (vs ++ u :: (ws ++ v :: xs)) ∧ t.token = .keyword .ifWord ∧ c.SpelledBy source vs ∧
    u.token = .keyword .thenWord ∧ a.SpelledBy source ws ∧ v.token = .keyword .elseWord ∧
    b.SpelledBy source xs
  | .call s x args, us => s = spanOf source us ∧ ∃ t u vs v, us = t :: u :: (vs ++ [v]) ∧
    t.token = .identifier x ∧ u.token = .mark .leftParen ∧ argsSpelledBy source args vs ∧
    v.token = .mark .rightParen
  | .omitted s, us => s = spanOf source us ∧ ∃ t, us = [t] ∧ t.token = .mark .underscore

/-- The tokens that arguments are written with, commas between them. -/
def argsSpelledBy (source : List Char) : List Expr → List PlacedToken → Prop
  | [], us => us = []
  | [a], us => a.SpelledBy source us
  | a :: b :: as, us => ∃ vs t ws, us = vs ++ t :: ws ∧ a.SpelledBy source vs ∧
    t.token = .mark .comma ∧ argsSpelledBy source (b :: as) ws

end

mutual

/-- How many tokens an expression is written with. -/
def width : Expr → Nat
  | .literal _ _ | .variable _ _ | .omitted _ => 1
  | .parens _ e => e.width + 2
  | .unary _ _ e => e.width + 1
  | .binary _ _ l r => l.width + r.width + 1
  | .conditional _ c a b => c.width + a.width + b.width + 3
  | .call _ _ args => widthArgs args + 3

/-- How many tokens arguments are written with. -/
def widthArgs : List Expr → Nat
  | [] => 0
  | [a] => a.width
  | a :: b :: as => a.width + widthArgs (b :: as) + 1

end

section

variable {source : List Char} {us : List PlacedToken}

theorem SpelledBy.span {e : Expr} (h : e.SpelledBy source us) : e.span = spanOf source us := by
  cases e <;> exact h.1

mutual

/-- The number of tokens is that of the parts and of what stands between them. -/
theorem SpelledBy.length (e : Expr) {us : List PlacedToken} (h : e.SpelledBy source us) :
    us.length = e.width := by
  cases e with
  | literal s v | «variable» s x | omitted s =>
    obtain ⟨-, t, rfl, -⟩ := h
    rfl
  | parens s e =>
    obtain ⟨-, t, vs, u, rfl, -, he, -⟩ := h
    have hlength := SpelledBy.length e he
    simp only [width, List.length_cons, List.length_append, List.length_nil, hlength]
  | unary s op e =>
    obtain ⟨-, t, vs, rfl, -, he⟩ := h
    have hlength := SpelledBy.length e he
    simp only [width, List.length_cons, hlength]
  | binary s op l r =>
    obtain ⟨-, vs, t, ws, rfl, hl, -, hr⟩ := h
    have hleft := SpelledBy.length l hl
    have hright := SpelledBy.length r hr
    simp only [width, List.length_cons, List.length_append, hleft, hright]
    omega
  | conditional s c a b =>
    obtain ⟨-, t, vs, u, ws, v, xs, rfl, -, hc, -, ha, -, hb⟩ := h
    have hcondition := SpelledBy.length c hc
    have hthen := SpelledBy.length a ha
    have helse := SpelledBy.length b hb
    simp only [width, List.length_cons, List.length_append, hcondition, hthen, helse]
    omega
  | call s x args =>
    obtain ⟨-, t, u, vs, v, rfl, -, -, hargs, -⟩ := h
    have hlength := argsSpelledBy_length args hargs
    simp only [width, List.length_cons, List.length_append, List.length_nil, hlength]

theorem argsSpelledBy_length (args : List Expr) {us : List PlacedToken}
    (h : argsSpelledBy source args us) : us.length = widthArgs args := by
  match args with
  | [] =>
    rw [argsSpelledBy] at h
    rw [h]
    rfl
  | [a] => exact SpelledBy.length a h
  | a :: b :: as =>
    obtain ⟨vs, t, ws, rfl, ha, -, hrest⟩ := h
    have hfirst := SpelledBy.length a ha
    have hmore := argsSpelledBy_length (b :: as) hrest
    simp only [widthArgs, List.length_cons, List.length_append, hfirst, hmore]
    omega

end

theorem SpelledBy.ne_nil {e : Expr} (h : e.SpelledBy source us) : us ≠ [] := by
  rintro rfl
  have hlength := SpelledBy.length e h
  cases e <;> simp only [width, List.length_nil] at hlength <;> omega

end

mutual

theorem width_mapSpan (g : Span → Span) (e : Expr) : (e.mapSpan g).width = e.width := by
  cases e with
  | literal s v | «variable» s x | omitted s => rfl
  | parens s e | unary s op e => simp only [mapSpan, width, width_mapSpan g e]
  | binary s op l r => simp only [mapSpan, width, width_mapSpan g l, width_mapSpan g r]
  | conditional s c a b =>
    simp only [mapSpan, width, width_mapSpan g c, width_mapSpan g a, width_mapSpan g b]
  | call s x args => simp only [mapSpan, width, widthArgs_mapSpanArgs g args]

theorem widthArgs_mapSpanArgs (g : Span → Span) (args : List Expr) :
    widthArgs (mapSpanArgs g args) = widthArgs args := by
  match args with
  | [] => rfl
  | [a] => exact width_mapSpan g a
  | a :: b :: as =>
    have hrest := widthArgs_mapSpanArgs g (b :: as)
    rw [mapSpanArgs] at hrest
    simp only [mapSpanArgs, widthArgs, width_mapSpan g a, hrest]

end

theorem width_eq_of_bare_eq {e e' : Expr} (h : e.bare = e'.bare) : e.width = e'.width := by
  have hwidth := congrArg width h
  simpa only [bare, width_mapSpan] using hwidth

/-! ### On other tokens -/

section

variable {source piece : List Char} {f : PlacedToken → PlacedToken} {g : Span → Span}

theorem SpelledBy.length_eq {e e' : Expr} {us us' : List PlacedToken} (h : e.SpelledBy source us)
    (h' : e'.SpelledBy piece us') (hbare : e'.bare = e.bare) : us'.length = us.length := by
  rw [SpelledBy.length e h, SpelledBy.length e' h', width_eq_of_bare_eq hbare]

theorem argsSpelledBy_length_eq {args args' : List Expr} {us us' : List PlacedToken}
    (h : argsSpelledBy source args us) (h' : argsSpelledBy piece args' us')
    (hbare : mapSpanArgs (fun _ => default) args' = mapSpanArgs (fun _ => default) args) :
    us'.length = us.length := by
  have hwidth := congrArg widthArgs hbare
  rw [widthArgs_mapSpanArgs, widthArgs_mapSpanArgs] at hwidth
  rw [argsSpelledBy_length args h, argsSpelledBy_length args' h', hwidth]

/-- Two ways to divide the same number of tokens agree. -/
theorem split_eq_map {vs ws vs' ws' : List PlacedToken} {t t' : PlacedToken}
    (h : (vs ++ t :: ws).map f = vs' ++ t' :: ws') (hlength : vs'.length = vs.length) :
    vs' = vs.map f ∧ ws' = ws.map f := by
  rw [List.map_append] at h
  obtain ⟨hvs, hws⟩ := List.append_inj h (by rw [List.length_map, hlength])
  rw [List.map_cons] at hws
  exact ⟨hvs.symm, (List.cons.inj hws).2.symm⟩

mutual

/-- An expression of the same form on other tokens has their spans. -/
theorem SpelledBy.eq_mapSpan (e e' : Expr) {us : List PlacedToken} (h : e.SpelledBy source us)
    (h' : e'.SpelledBy piece (us.map f)) (hbare : e'.bare = e.bare)
    (hg : ∀ vs, vs <:+: us → vs ≠ [] → spanOf piece (vs.map f) = g (spanOf source vs)) :
    e' = e.mapSpan g := by
  have hspan : e'.span = g e.span := by
    rw [h'.span, h.span]
    exact hg us (List.infix_refl us) h.ne_nil
  -- Parts of the same form take as many tokens, so that both sides are cut at the same places.
  cases e with
  | literal s v =>
    cases e' <;> simp only [bare, mapSpan, reduceCtorEq, literal.injEq] at hbare
    case literal s' v' =>
      rw [mapSpan, hbare.2]
      exact congrArg (literal · v) hspan
  | «variable» s x =>
    cases e' <;> simp only [bare, mapSpan, reduceCtorEq, variable.injEq] at hbare
    case «variable» s' x' =>
      rw [mapSpan, hbare.2]
      exact congrArg (Expr.variable · x) hspan
  | omitted s =>
    cases e' <;> simp only [bare, mapSpan, reduceCtorEq] at hbare
    case omitted s' => exact congrArg omitted hspan
  | parens s e =>
    cases e' <;> simp only [bare, mapSpan, reduceCtorEq, parens.injEq] at hbare
    case parens s' e' =>
      obtain ⟨-, t, vs, u, rfl, -, he, -⟩ := h
      obtain ⟨-, t', vs', u', hus, -, he', -⟩ := h'
      obtain ⟨rfl, -⟩ := split_eq_map (List.cons.inj hus).2 (he.length_eq he' hbare.2)
      have hinner := SpelledBy.eq_mapSpan e e' he he' hbare.2 fun xs hxs =>
        hg xs (hxs.trans ⟨[t], [u], rfl⟩)
      rw [mapSpan, hinner]
      exact congrArg (parens · _) hspan
  | unary s op e =>
    cases e' <;> simp only [bare, mapSpan, reduceCtorEq, unary.injEq] at hbare
    case unary s' op' e' =>
      obtain ⟨-, rfl, hbare⟩ := hbare
      obtain ⟨-, t, vs, rfl, -, he⟩ := h
      obtain ⟨-, t', vs', hus, -, he'⟩ := h'
      obtain rfl := (List.cons.inj hus).2
      have hinner := SpelledBy.eq_mapSpan e e' he he' hbare fun xs hxs =>
        hg xs (hxs.trans (List.suffix_cons t vs).isInfix)
      rw [mapSpan, hinner]
      exact congrArg (unary · op' _) hspan
  | binary s op l r =>
    cases e' <;> simp only [bare, mapSpan, reduceCtorEq, binary.injEq] at hbare
    case binary s' op' l' r' =>
      obtain ⟨-, rfl, hbl, hbr⟩ := hbare
      obtain ⟨-, vs, t, ws, rfl, hl, -, hr⟩ := h
      obtain ⟨-, vs', t', ws', hus, hl', -, hr'⟩ := h'
      obtain ⟨rfl, rfl⟩ := split_eq_map hus (hl.length_eq hl' hbl)
      have hleft := SpelledBy.eq_mapSpan l l' hl hl' hbl fun xs hxs =>
        hg xs (hxs.trans (List.prefix_append vs _).isInfix)
      have hright := SpelledBy.eq_mapSpan r r' hr hr' hbr fun xs hxs =>
        hg xs (hxs.trans ⟨vs ++ [t], [], by simp⟩)
      rw [mapSpan, hleft, hright]
      exact congrArg (binary · op' _ _) hspan
  | conditional s c a b =>
    cases e' <;> simp only [bare, mapSpan, reduceCtorEq, conditional.injEq] at hbare
    case conditional s' c' a' b' =>
      obtain ⟨-, hbc, hba, hbb⟩ := hbare
      obtain ⟨-, t, vs, u, ws, v, xs, rfl, -, hc, -, ha, -, hb⟩ := h
      obtain ⟨-, t', vs', u', ws', v', xs', hus, -, hc', -, ha', -, hb'⟩ := h'
      obtain ⟨rfl, hrest⟩ := split_eq_map (List.cons.inj hus).2 (hc.length_eq hc' hbc)
      obtain ⟨rfl, rfl⟩ := split_eq_map hrest.symm (ha.length_eq ha' hba)
      have hcondition := SpelledBy.eq_mapSpan c c' hc hc' hbc fun ys hys =>
        hg ys (hys.trans ⟨[t], u :: (ws ++ v :: xs), rfl⟩)
      have hthen := SpelledBy.eq_mapSpan a a' ha ha' hba fun ys hys =>
        hg ys (hys.trans ⟨t :: (vs ++ [u]), v :: xs, by simp⟩)
      have helse := SpelledBy.eq_mapSpan b b' hb hb' hbb fun ys hys =>
        hg ys (hys.trans ⟨t :: (vs ++ u :: (ws ++ [v])), [], by simp⟩)
      rw [mapSpan, hcondition, hthen, helse]
      exact congrArg (conditional · _ _ _) hspan
  | call s x args =>
    cases e' <;> simp only [bare, mapSpan, reduceCtorEq, call.injEq] at hbare
    case call s' x' args' =>
      obtain ⟨-, rfl, hbare⟩ := hbare
      obtain ⟨-, t, u, vs, v, rfl, -, -, hargs, -⟩ := h
      obtain ⟨-, t', u', vs', v', hus, -, -, hargs', -⟩ := h'
      obtain ⟨rfl, -⟩ := split_eq_map (List.cons.inj (List.cons.inj hus).2).2
        (argsSpelledBy_length_eq hargs hargs' hbare)
      have hinner := argsSpelledBy_eq_mapSpanArgs args args' hargs hargs' hbare fun xs hxs =>
        hg xs (hxs.trans ⟨[t, u], [v], rfl⟩)
      rw [mapSpan, hinner]
      exact congrArg (call · x' _) hspan

theorem argsSpelledBy_eq_mapSpanArgs (args args' : List Expr) {us : List PlacedToken}
    (h : argsSpelledBy source args us) (h' : argsSpelledBy piece args' (us.map f))
    (hbare : mapSpanArgs (fun _ => default) args' = mapSpanArgs (fun _ => default) args)
    (hg : ∀ vs, vs <:+: us → vs ≠ [] → spanOf piece (vs.map f) = g (spanOf source vs)) :
    args' = mapSpanArgs g args := by
  match args, args' with
  | [], [] => rfl
  | [], a' :: as' => simp only [mapSpanArgs, reduceCtorEq] at hbare
  | a :: as, [] => simp only [mapSpanArgs, reduceCtorEq] at hbare
  | [a], [a'] =>
    obtain ⟨hbare, -⟩ := List.cons.inj hbare
    have hlast := SpelledBy.eq_mapSpan a a' h h' hbare hg
    rw [hlast]
    rfl
  | [a], a' :: b' :: as' => simp only [mapSpanArgs, reduceCtorEq, List.cons.injEq, and_false] at hbare
  | a :: b :: as, [a'] => simp only [mapSpanArgs, reduceCtorEq, List.cons.injEq, and_false] at hbare
  | a :: b :: as, a' :: b' :: as' =>
    obtain ⟨hbare, hbares⟩ := List.cons.inj hbare
    obtain ⟨vs, t, ws, rfl, ha, -, hrest⟩ := h
    obtain ⟨vs', t', ws', hus, ha', -, hrest'⟩ := h'
    obtain ⟨rfl, rfl⟩ := split_eq_map hus (ha.length_eq ha' hbare)
    have hfirst := SpelledBy.eq_mapSpan a a' ha ha' hbare fun xs hxs =>
      hg xs (hxs.trans (List.prefix_append vs _).isInfix)
    have hmore := argsSpelledBy_eq_mapSpanArgs (b :: as) (b' :: as') hrest hrest' hbares fun xs hxs =>
      hg xs (hxs.trans ⟨vs ++ [t], [], by simp⟩)
    rw [mapSpanArgs, hfirst, hmore]

end

end

end Expr

end AssignScript
