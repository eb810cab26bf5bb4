import AssignScript.Proofs.Syntax.Complete
import AssignScript.Proofs.Syntax.Placed

/-!
# Words that phrases may begin with

Words are viable for a phrase if others can be put behind them that complete it. A phrase is blocked at a word if the
words before it are viable and are so no longer with it. Both are about every way to go on, and yet each production
hands them down to the phrase that stands last: what was read in front of that is read in one way only.

## Main definitions

* `Phrase.Leaves`: the words behind a phrase;
* `Blocked`, `Phrase.Blocked`: the first word with which there is no going on;
* `Behind`: an expression with a certain word behind it.

## Main statements

* `Reads.rest_eq`: up to the next word, a phrase ends where it ended;
* `Blocked.imp`, `Blocked.cons`: phrases that begin with others, or with a word in front of others;
* `Blocked.inside`, `Blocked.instead`, `Blocked.behind`: the three places around a delimiter.
-/

namespace AssignScript

/-! ### Words behind a phrase -/

/-- Words that begin with a phrase, and the words behind it. -/
def Phrase.Leaves (X : Phrase) (s t : List Token) : Prop := ∃ e, Reads .lookahead X s e t

/-- What was read up to the next word is also what is read if other words follow that one. -/
theorem Reads.rest_eq {X : Phrase} {w r s t : List Token} {tok : Token} {e e' : Expr}
    (h : Reads .lookahead X (w ++ tok :: r) e (tok :: r))
    (h' : Reads .lookahead X (w ++ tok :: s) e' t) (ht : t ≠ []) : t = tok :: s :=
  (h'.unique (h.upTo (.inr rfl)) ht (List.cons_ne_nil _ _)).2

theorem Reads.next_eq {X : Phrase} {w r s t : List Token} {tok tok' : Token} {e e' : Expr}
    (h : Reads .lookahead X (w ++ tok :: r) e (tok :: r))
    (h' : Reads .lookahead X (w ++ tok :: s) e' (tok' :: t)) : tok = tok' :=
  (List.head_eq_of_cons_eq (h.rest_eq h' (List.cons_ne_nil _ _))).symm

/-- The first word behind which there is no going on: what stands before it can be completed to what `R` takes,
    whatever may close an expression behind that, and with it nothing can be. -/
structure Blocked (R : List Token → List Token → Prop) (w : List Token) (tok : Token) : Prop where
  viable : ∃ v, ∀ t, Closes t → R (w ++ (v ++ t)) t
  stuck : ∀ s t, t ≠ [] → ¬ R (w ++ tok :: s) t

/-- The first word with which a phrase cannot go on. -/
abbrev Phrase.Blocked (X : Phrase) : List Token → Token → Prop := AssignScript.Blocked X.Leaves

/-- The first of some words, which are followed by another. -/
theorem exists_cons_headD (w : List Token) (tok : Token) (s : List Token) :
    ∃ ws, w ++ tok :: s = w.headD tok :: ws := by
  cases w with
  | nil => exact ⟨s, rfl⟩
  | cons first w => exact ⟨w ++ tok :: s, rfl⟩

namespace Blocked

variable {R R' : List Token → List Token → Prop} {w w₁ r : List Token} {tok : Token}

/-- What begins as another phrase does is blocked where that other is. -/
theorem imp (h : Blocked R w tok) (himp : ∀ s t, R s t → R' s t)
    (hfirst : ∀ s t, R' (w.headD tok :: s) t → R (w.headD tok :: s) t) : Blocked R' w tok where
  viable := by
    obtain ⟨v, hv⟩ := h.viable
    exact ⟨v, fun t ht => himp _ _ (hv t ht)⟩
  stuck s t ht hread := by
    obtain ⟨ws, hws⟩ := exists_cons_headD w tok s
    refine h.stuck s t ht ?_
    rw [hws] at hread ⊢
    exact hfirst ws t hread

/-- A word that decides what is read may be put in front. -/
theorem cons {first : Token} (h : Blocked R w tok) (hiff : ∀ s t, R' (first :: s) t ↔ R s t) :
    Blocked R' (first :: w) tok where
  viable := by
    obtain ⟨v, hv⟩ := h.viable
    exact ⟨v, fun t ht => (hiff _ _).2 (hv t ht)⟩
  stuck s t ht hread := h.stuck s t ht ((hiff _ _).1 hread)

end Blocked

/-! ### An expression up to a delimiter -/

/-- An expression, a certain word behind it, and what follows that word. -/
def Behind (delimiter : Token) (R : List Token → List Token → Prop) (s t : List Token) : Prop :=
  ∃ s₁, Phrase.expression.Leaves s (delimiter :: s₁) ∧ R s₁ t

namespace Blocked

variable {R : List Token → List Token → Prop} {w w₁ w₂ r : List Token} {tok delimiter : Token} {e : Expr}

/-- Inside the expression: what follows the delimiter can be read at all. -/
theorem inside (h : Phrase.expression.Blocked w tok) (hclose : ∀ t, Closes (delimiter :: t))
    (hR : ∃ v, ∀ t, Closes t → R (v ++ t) t) : Blocked (Behind delimiter R) w tok where
  viable := by
    obtain ⟨v, hv⟩ := h.viable
    obtain ⟨v', hv'⟩ := hR
    refine ⟨v ++ delimiter :: v', fun t ht => ⟨v' ++ t, ?_, hv' t ht⟩⟩
    rw [List.append_assoc, List.cons_append]
    exact hv _ (hclose _)
  stuck s t _ := by
    rintro ⟨s₁, hread, -⟩
    exact h.stuck s _ (List.cons_ne_nil _ _) hread

/-- At another word than the delimiter. -/
theorem instead (hread : Reads .lookahead .expression (w ++ tok :: r) e (tok :: r))
    (hne : tok ≠ delimiter) (hclose : ∀ t, Closes (delimiter :: t))
    (hR : ∃ v, ∀ t, Closes t → R (v ++ t) t) : Blocked (Behind delimiter R) w tok where
  viable := by
    obtain ⟨v, hv⟩ := hR
    exact ⟨delimiter :: v, fun t ht => ⟨v ++ t, ⟨e, hread.close (hclose _)⟩, hv t ht⟩⟩
  stuck s t _ := by
    rintro ⟨s₁, ⟨e', hread'⟩, -⟩
    exact hne (hread.next_eq hread')

/-- Behind the delimiter. -/
theorem behind (hread : Reads .lookahead .expression (w₁ ++ delimiter :: r) e (delimiter :: r))
    (h : Blocked R w₂ tok) : Blocked (Behind delimiter R) (w₁ ++ delimiter :: w₂) tok where
  viable := by
    obtain ⟨v, hv⟩ := h.viable
    refine ⟨v, fun t ht => ⟨w₂ ++ (v ++ t), ⟨e, ?_⟩, hv t ht⟩⟩
    rw [List.append_assoc, List.cons_append]
    exact hread.upTo (.inr rfl)
  stuck s t ht := by
    rintro ⟨s₁, ⟨e', hread'⟩, hrest⟩
    rw [List.append_assoc, List.cons_append] at hread'
    have hs₁ := List.tail_eq_of_cons_eq (hread.rest_eq hread' (List.cons_ne_nil _ _))
    exact h.stuck s t ht (hs₁ ▸ hrest)

end Blocked

/-! ### Productions -/

section Productions

variable {l : Level} {op tok : Token} {w w₁ w₂ r s t : List Token} {e : Expr}

/-- A primary is blocked at once at a word that begins none. -/
theorem blocked_primary (h : tok.rank ≠ 0) : Phrase.primary.Blocked [] tok where
  viable := ⟨[.keyword .null], fun t _ => ⟨_, .literal default t .null⟩⟩
  stuck s t _ := by
    rintro ⟨e, hread⟩
    exact h (Nat.le_zero.1 (hread.rank_le rfl))

/-- An expression can always be put at the end. -/
theorem leaves_null (ht : Closes t) : Phrase.expression.Leaves (.keyword .null :: t) t := by
  have hprimary : Reads .lookahead .primary (.keyword .null :: t) (.literal default .null) t :=
    .literal default t .null
  have hproduct := Reads.chain (l := .multiplicative) (.unsigned hprimary) (.stop (ht.chain _))
  have hsum := Reads.chain (l := .additive) hproduct (.stop (ht.chain _))
  have hconjunction := Reads.chain (l := .conjunctive) (.plain (.single hsum ht.operand)) (.stop (ht.chain _))
  exact ⟨_, .chain hconjunction (.stop (ht.chain _))⟩

theorem leaves_parens :
    Phrase.primary.Leaves (.mark .leftParen :: s) t ↔ Behind (.mark .rightParen) Eq s t := by
  constructor
  · rintro ⟨_, hread⟩
    cases hread with
    | literal _ _ h => cases h
    | parens _ hread => exact ⟨_, ⟨_, hread⟩, rfl⟩
  · rintro ⟨_, ⟨e, hread⟩, rfl⟩
    exact ⟨_, .parens default hread⟩

theorem leaves_conditional : Phrase.primary.Leaves (.keyword .ifWord :: s) t ↔
    Behind (.keyword .thenWord) (Behind (.keyword .elseWord) Phrase.expression.Leaves) s t := by
  constructor
  · rintro ⟨_, hread⟩
    cases hread with
    | literal _ _ h => cases h
    | conditional _ hcondition hthen helse _ => exact ⟨_, ⟨_, hcondition⟩, _, ⟨_, hthen⟩, _, helse⟩
  · rintro ⟨_, ⟨c, hcondition⟩, _, ⟨a, hthen⟩, b, helse⟩
    exact ⟨_, .conditional default hcondition hthen helse trivial⟩

theorem leaves_sign {op : UnaryOp} (hop : Signs tok op) :
    Phrase.signed.Leaves (tok :: s) t ↔ Phrase.signed.Leaves s t := by
  constructor
  · rintro ⟨_, hread⟩
    cases hread with
    | sign _ _ h => exact ⟨_, h⟩
    | unsigned h =>
      have hrank := h.rank_le rfl
      cases hop <;> exact absurd hrank (by decide)
  · rintro ⟨e, hread⟩
    exact ⟨_, .sign default hop hread⟩

theorem leaves_not :
    Phrase.negated.Leaves (.keyword .not :: s) t ↔ Phrase.negated.Leaves s t := by
  constructor
  · rintro ⟨_, hread⟩
    cases hread with
    | not _ h => exact ⟨_, h⟩
    | plain h => exact absurd (h.rank_le rfl) (by decide)
  · rintro ⟨e, hread⟩
    exact ⟨_, .not default hread⟩

/-- What has no sign is blocked as a primary. -/
theorem blocked_unsigned (h : Phrase.primary.Blocked w tok) (hsign : ∀ op, ¬ Signs (w.headD tok) op) :
    Phrase.signed.Blocked w tok := by
  refine h.imp (fun s t ⟨e, hread⟩ => ⟨e, .unsigned hread⟩) ?_
  rintro s t ⟨_, hread⟩
  cases hread with
  | sign _ hop _ => exact absurd hop (hsign _)
  | unsigned hread => exact ⟨_, hread⟩

/-- What has no `not` is blocked as a comparison. -/
theorem blocked_plain (h : Phrase.comparison.Blocked w tok) (hnot : w.headD tok ≠ .keyword .not) :
    Phrase.negated.Blocked w tok := by
  refine h.imp (fun s t ⟨e, hread⟩ => ⟨e, .plain hread⟩) ?_
  intro s t hleaves
  obtain ⟨_, hread⟩ := hleaves
  generalize w.headD tok = first at hnot hread ⊢
  cases hread with
  | not _ _ => exact absurd rfl hnot
  | plain hread => exact ⟨_, hread⟩

/-- What is no placeholder is blocked as an expression. -/
theorem blocked_given (h : Phrase.expression.Blocked w tok) (homitted : w.headD tok ≠ .mark .underscore) :
    Phrase.argument.Blocked w tok := by
  refine h.imp (fun s t ⟨e, hread⟩ => ⟨e, .given hread⟩) ?_
  rintro s t ⟨_, hread⟩
  generalize w.headD tok = first at homitted hread ⊢
  cases hread with
  | omitted _ _ => exact absurd rfl homitted
  | given hread => exact ⟨_, hread⟩

/-! #### Operators of a level -/

/-- In the first operand. -/
theorem blocked_chain_first (h : l.operand.Blocked w tok) : (Phrase.chain l).Blocked w tok where
  viable := by
    obtain ⟨v, hv⟩ := h.viable
    refine ⟨v, fun t ht => ?_⟩
    obtain ⟨e, hread⟩ := hv t ht
    exact ⟨e, .chain hread (.stop (ht.chain l))⟩
  stuck s t ht := by
    rintro ⟨_, ⟨hfirst, hmore⟩⟩
    exact h.stuck s _ (hmore.rest_ne_nil ht) ⟨_, hfirst⟩

/-- Behind the first operand. -/
theorem blocked_chain_more (hfirst : Reads .lookahead l.operand (w₁ ++ op :: r) e (op :: r))
    (h : ∀ left, (Phrase.more l left).Blocked (op :: w₂) tok) :
    (Phrase.chain l).Blocked (w₁ ++ op :: w₂) tok where
  viable := by
    obtain ⟨v, hv⟩ := (h e).viable
    refine ⟨v, fun t ht => ?_⟩
    obtain ⟨e', hmore⟩ := hv t ht
    rw [List.append_assoc]
    exact ⟨e', .chain (hfirst.upTo (.inr rfl)) hmore⟩
  stuck s t ht := by
    rintro ⟨_, hread⟩
    rw [List.append_assoc, List.cons_append] at hread
    cases hread with
    | chain hfirst' hmore =>
      rw [hfirst.rest_eq hfirst' (hmore.rest_ne_nil ht)] at hmore
      exact (h _).stuck s t ht ⟨_, hmore⟩

/-- In the operand behind an operator. -/
theorem blocked_join {o : BinaryOp} (hop : l.Joins op o) (h : l.operand.Blocked w tok) (left : Expr) :
    (Phrase.more l left).Blocked (op :: w) tok where
  viable := by
    obtain ⟨v, hv⟩ := h.viable
    refine ⟨v, fun t ht => ?_⟩
    obtain ⟨e, hread⟩ := hv t ht
    exact ⟨_, .join default hop hread (.stop (ht.chain l))⟩
  stuck s t ht := by
    rintro ⟨_, hread⟩
    rw [List.cons_append] at hread
    cases hread with
    | stop hseam => exact hseam op rfl o hop
    | join _ _ hright hmore => exact h.stuck s _ (hmore.rest_ne_nil ht) ⟨_, hright⟩

/-- Behind an operator and its operand. -/
theorem blocked_join_more {o : BinaryOp} {op' : Token} (hop : l.Joins op o)
    (hright : Reads .lookahead l.operand (w₁ ++ op' :: r) e (op' :: r))
    (h : ∀ left, (Phrase.more l left).Blocked (op' :: w₂) tok) (left : Expr) :
    (Phrase.more l left).Blocked (op :: (w₁ ++ op' :: w₂)) tok where
  viable := by
    obtain ⟨v, hv⟩ := (h (.binary default o left e)).viable
    refine ⟨v, fun t ht => ?_⟩
    obtain ⟨e', hmore⟩ := hv t ht
    rw [List.cons_append, List.append_assoc]
    exact ⟨e', .join default hop (hright.upTo (.inr rfl)) hmore⟩
  stuck s t ht := by
    rintro ⟨_, hread⟩
    rw [List.cons_append, List.append_assoc, List.cons_append] at hread
    cases hread with
    | stop hseam => exact hseam op rfl o hop
    | join _ _ hright' hmore =>
      rw [hright.rest_eq hright' (hmore.rest_ne_nil ht)] at hmore
      exact (h _).stuck s t ht ⟨_, hmore⟩

/-! #### Comparisons -/

/-- In what may be compared. -/
theorem blocked_comparison_left (h : (Phrase.chain .additive).Blocked w tok) :
    Phrase.comparison.Blocked w tok where
  viable := by
    obtain ⟨v, hv⟩ := h.viable
    refine ⟨v, fun t ht => ?_⟩
    obtain ⟨e, hread⟩ := hv t ht
    exact ⟨e, .single hread ht.operand⟩
  stuck s t ht := by
    rintro ⟨_, hread⟩
    cases hread with
    | single hread _ => exact h.stuck s t ht ⟨_, hread⟩
    | compare _ hleft _ _ => exact h.stuck s _ (List.cons_ne_nil _ _) ⟨_, hleft⟩

/-- In what follows a comparison operator. -/
theorem blocked_comparison_right {o : BinaryOp}
    (hleft : Reads .lookahead (.chain .additive) (w₁ ++ op :: r) e (op :: r)) (hop : Compares op o)
    (h : (Phrase.chain .additive).Blocked w₂ tok) : Phrase.comparison.Blocked (w₁ ++ op :: w₂) tok where
  viable := by
    obtain ⟨v, hv⟩ := h.viable
    refine ⟨v, fun t ht => ?_⟩
    obtain ⟨e', hright⟩ := hv t ht
    rw [List.append_assoc, List.cons_append]
    exact ⟨_, .compare default (hleft.upTo (.inr rfl)) hop hright⟩
  stuck s t ht := by
    rintro ⟨_, hread⟩
    rw [List.append_assoc, List.cons_append] at hread
    cases hread with
    | single hread hseam =>
      rw [hleft.rest_eq hread ht] at hseam
      exact hseam op rfl o hop
    | compare _ hleft' _ hright =>
      obtain ⟨rfl, rfl⟩ := List.cons.inj (hleft.rest_eq hleft' (List.cons_ne_nil _ _))
      exact h.stuck s t ht ⟨_, hright⟩

/-! #### Arguments -/

section Arguments

variable {name : String} {before : List Expr}

/-- In an argument. -/
theorem blocked_arguments_first (h : Phrase.argument.Blocked w tok) :
    (Phrase.arguments name before).Blocked w tok where
  viable := by
    obtain ⟨v, hv⟩ := h.viable
    refine ⟨v ++ [.mark .rightParen], fun t _ => ?_⟩
    obtain ⟨a, hread⟩ := hv _ (.rightParen t)
    rw [List.append_assoc, List.singleton_append]
    exact ⟨_, .lastArgument default hread⟩
  stuck s t _ := by
    rintro ⟨_, hread⟩
    cases hread with
    | lastArgument _ hread => exact h.stuck s _ (List.cons_ne_nil _ _) ⟨_, hread⟩
    | nextArgument hread _ => exact h.stuck s _ (List.cons_ne_nil _ _) ⟨_, hread⟩

/-- At a word behind an argument that neither ends the arguments nor goes on with them. -/
theorem blocked_arguments_close (hread : Reads .lookahead .argument (w ++ tok :: r) e (tok :: r))
    (hcomma : tok ≠ .mark .comma) (hclose : tok ≠ .mark .rightParen) :
    (Phrase.arguments name before).Blocked w tok where
  viable := ⟨[.mark .rightParen], fun t _ => ⟨_, .lastArgument default (hread.close (.rightParen t))⟩⟩
  stuck s t _ := by
    rintro ⟨_, harguments⟩
    cases harguments with
    | lastArgument _ hread' => exact hclose (hread.next_eq hread')
    | nextArgument hread' _ => exact hcomma (hread.next_eq hread')

/-- Behind an argument and a comma. -/
theorem blocked_arguments_next (hread : Reads .lookahead .argument (w₁ ++ .mark .comma :: r) e (.mark .comma :: r))
    (h : ∀ before, (Phrase.arguments name before).Blocked w₂ tok) :
    (Phrase.arguments name before).Blocked (w₁ ++ .mark .comma :: w₂) tok where
  viable := by
    obtain ⟨v, hv⟩ := (h (before ++ [e])).viable
    refine ⟨v, fun t ht => ?_⟩
    obtain ⟨e', hrest⟩ := hv t ht
    rw [List.append_assoc, List.cons_append]
    exact ⟨e', .nextArgument (hread.upTo (.inr rfl)) hrest⟩
  stuck s t ht := by
    rintro ⟨_, harguments⟩
    rw [List.append_assoc, List.cons_append] at harguments
    cases harguments with
    | lastArgument _ hread' => cases hread.next_eq hread'
    | nextArgument hread' hrest =>
      cases hread.rest_eq hread' (List.cons_ne_nil _ _)
      exact (h _).stuck s t ht ⟨_, hrest⟩

/-- Inside a call that has arguments. -/
theorem blocked_call (h : (Phrase.arguments name []).Blocked w tok) (hclose : w.headD tok ≠ .mark .rightParen) :
    Phrase.primary.Blocked (.identifier name :: .mark .leftParen :: w) tok where
  viable := by
    obtain ⟨v, hv⟩ := h.viable
    refine ⟨v, fun t ht => ?_⟩
    obtain ⟨e, hread⟩ := hv t ht
    exact ⟨e, .call hread⟩
  stuck s t ht := by
    rintro ⟨_, hread⟩
    obtain ⟨ws, hws⟩ := exists_cons_headD w tok s
    rw [List.cons_append, List.cons_append, hws] at hread
    generalize w.headD tok = first at hclose hread hws
    cases hread with
    | literal _ _ hv => cases hv
    | name _ hseam => exact hseam rfl
    | emptyCall _ _ _ => exact hclose rfl
    | call hread => exact h.stuck s t ht ⟨_, hws ▸ hread⟩

end Arguments

end Productions

end AssignScript
