import AssignScript.Proofs.Typing.Places

/-!
# Checking does not look at parentheses

Without its parentheses an expression has the same typed expression, or the same error up to the span that it
points at. Only that parentheses take room, so that with them the limit of nesting is reached earlier.

## Main definitions

* `Expr.unwrap`: an expression without its parentheses;
* `Expr.Filled`: an expression with no parentheses around a placeholder;
* `Agrees`, `Comparison.unwrap`: outcomes that are the same up to spans, unless the limit of nesting is reported.

## Main statements

* `Expr.unwrap_mapSpan`: parentheses and spans do not matter for each other;
* `Checker.check_unwrap_agrees`: checking does not look at parentheses.
-/

namespace AssignScript

/-! ### Parentheses -/

namespace Expr

mutual

/-- An expression without its parentheses. -/
def unwrap : Expr → Expr
  | .literal s v => .literal s v
  | .variable s x => .variable s x
  | .parens _ e => e.unwrap
  | .unary s op e => .unary s op e.unwrap
  | .binary s op l r => .binary s op l.unwrap r.unwrap
  | .conditional s c a b => .conditional s c.unwrap a.unwrap b.unwrap
  | .call s x args => .call s x (unwrapArgs args)
  | .omitted s => .omitted s

/-- Arguments without their parentheses. -/
def unwrapArgs : List Expr → List Expr
  | [] => []
  | a :: as => a.unwrap :: unwrapArgs as

end

theorem unwrapArgs_eq_map (args : List Expr) : unwrapArgs args = args.map unwrap := by
  induction args with
  | nil => rfl
  | cons a as ih => rw [unwrapArgs, ih, List.map_cons]

/-- Unless parentheses are outside, those inside the parts are removed. -/
theorem parens_or_unwrap (e : Expr) :
    (∃ s i, e = .parens s i) ∨ e.unwrap = e.mapChildren unwrap id := by
  cases e with
  | parens s i => exact .inl ⟨s, i, rfl⟩
  | call s x args => exact .inr (by rw [unwrap, unwrapArgs_eq_map, mapChildren, id])
  | _ => exact .inr rfl

mutual

theorem unwrap_mapSpan (g : Span → Span) (e : Expr) : (e.mapSpan g).unwrap = e.unwrap.mapSpan g := by
  cases e with
  | literal s v => rfl
  | «variable» s x => rfl
  | parens s e => exact unwrap_mapSpan g e
  | unary s op e => simp only [mapSpan, unwrap, unwrap_mapSpan g e]
  | binary s op l r => simp only [mapSpan, unwrap, unwrap_mapSpan g l, unwrap_mapSpan g r]
  | conditional s c a b =>
    simp only [mapSpan, unwrap, unwrap_mapSpan g c, unwrap_mapSpan g a, unwrap_mapSpan g b]
  | call s x args => simp only [mapSpan, unwrap, unwrapArgs_mapSpanArgs g args]
  | omitted s => rfl

theorem unwrapArgs_mapSpanArgs (g : Span → Span) (args : List Expr) :
    unwrapArgs (mapSpanArgs g args) = mapSpanArgs g (unwrapArgs args) := by
  cases args with
  | nil => rfl
  | cons a as =>
    simp only [mapSpanArgs, unwrapArgs, unwrap_mapSpan g a, unwrapArgs_mapSpanArgs g as]

end

/-- No parentheses stand around a placeholder, which they would make something else than an argument left out. -/
def Filled (e : Expr) : Prop := ∀ s i, (Expr.parens s i).Inside e → i.isOmitted = false

theorem Filled.of_children {e : Expr} (hself : ∀ s i, e = .parens s i → i.isOmitted = false)
    (h : ∀ c ∈ e.children, c.Filled) : e.Filled := by
  intro s i hi
  generalize hp : Expr.parens s i = p at hi
  cases hi with
  | self => exact hself s i hp.symm
  | child hc hinside =>
    subst hp
    exact h _ hc s i hinside

theorem Filled.child {c e : Expr} (h : e.Filled) (hc : c ∈ e.children) : c.Filled :=
  fun s i hinside => h s i (.child hc hinside)

theorem isOmitted_unwrap {e : Expr} (h : e.Filled) : e.unwrap.isOmitted = e.isOmitted := by
  cases e with
  | parens s i =>
    have hinner := isOmitted_unwrap (h.child (List.mem_singleton_self i))
    rw [unwrap, hinner]
    exact h s i .self
  | literal s v | «variable» s x | omitted s => rfl
  | unary s op e | binary s op l r | conditional s c a b | call s x args => rfl

end Expr

/-! ### Outcomes that agree -/

/-- Outcomes of which the first reports that the limit of nesting is reached, which it does not if there is room,
    or which are the same up to the span that an error points at. -/
def Agrees {α : Type} (limit : Nat) (room : Prop) (x y : Checked α) : Prop :=
  ((∃ span, x = .error (.nestingTooDeep limit span)) ∧ ¬ room) ∨
    ((∀ span, x ≠ .error (.nestingTooDeep limit span)) ∧
      x.mapError (SemanticError.mapSpan fun _ => default) =
        y.mapError (SemanticError.mapSpan fun _ => default))

namespace Agrees

variable {α β : Type} {limit : Nat} {p q : Prop} {x y : Checked α}

theorem weaken (h : Agrees limit p x y) (hqp : q → p) : Agrees limit q x y :=
  h.imp_left fun ⟨hx, hp⟩ => ⟨hx, fun hq => hp (hqp hq)⟩

theorem not_tooDeep (h : Agrees limit p x y) (hp : p) (span : Span) :
    x ≠ .error (.nestingTooDeep limit span) := by
  rcases h with ⟨-, hnot⟩ | ⟨hne, -⟩
  · exact absurd hp hnot
  · exact hne span

/-- Where the limit is not reported, outcomes that agree succeed together. -/
theorem eq_ok (h : Agrees limit p x y) (hx : ∀ span, x ≠ .error (.nestingTooDeep limit span)) {a : α} :
    x = .ok a ↔ y = .ok a := by
  rcases h with ⟨⟨span, hspan⟩, -⟩ | ⟨-, hsame⟩
  · exact absurd hspan (hx span)
  · rw [← mapError_eq_ok (x := x), ← mapError_eq_ok (x := y), hsame]

end Agrees

/-- The check of an expression beside that of the expression without its parentheses. -/
def Comparison.unwrap (limit : Nat) (room : Prop) : Comparison where
  stops e := (∃ span, e = .nestingTooDeep limit span) ∧ ¬ room
  errors e e' := (∀ span, e ≠ .nestingTooDeep limit span) ∧
    e.mapSpan (fun _ => default) = e'.mapSpan fun _ => default
  spans _ _ := True
  trees := (· = ·)
  errors_of_alike h := by
    cases h <;> exact ⟨nofun, rfl⟩
  congruence := TypedExpr.congruence_eq

theorem agrees_iff_related {limit : Nat} {room : Prop} {x y : Checked TypedExpr} :
    Agrees limit room x y ↔ (Comparison.unwrap limit room).Related (· = ·) x y := by
  constructor
  · rintro (⟨⟨span, rfl⟩, hroom⟩ | ⟨hne, h⟩)
    · exact .stop ⟨⟨span, rfl⟩, hroom⟩
    · cases x with
      | ok a =>
        rw [mapError_eq_ok.1 h.symm]
        exact .ok rfl
      | error e =>
        cases y with
        | ok b => cases h
        | error e' =>
          exact .error ⟨fun span hspan => hne span (congrArg _ hspan), Except.error.inj h⟩
  · rintro (⟨⟨span, rfl⟩, hroom⟩ | ⟨hne, h⟩ | rfl)
    · exact .inl ⟨⟨span, rfl⟩, hroom⟩
    · exact .inr ⟨fun span hspan => hne span (Except.error.inj hspan), congrArg Except.error h⟩
    · exact .inr ⟨nofun, rfl⟩

/-- The height that an expression counts for among arguments is more than that of any inside it. -/
theorem Expr.heightArgs_lt_of_mem_children {i e : Expr} (h : i ∈ e.children) :
    heightArgs [i] < heightArgs [e] := by
  have hgiven : e.isOmitted = false := by
    cases e <;> first | rfl | cases h
  have he : heightArgs [e] = e.height := by
    simp only [heightArgs, hgiven, Bool.false_eq_true, if_false, Nat.max_zero]
  have hle : heightArgs [i] ≤ i.height := heightArgs_le_iff.2 (by simp)
  rw [he]
  cases e with
  | literal s v | «variable» s x | omitted s => cases h
  | call s x args =>
    have hargs : heightArgs [i] ≤ heightArgs args := by
      rw [heightArgs_le_iff, List.forall_mem_singleton]
      exact heightArgs_le_iff.1 (Nat.le_refl _) i h
    exact Nat.lt_succ_of_le hargs
  | parens s e | unary s op e | binary s op l r | conditional s c a b =>
    simp only [children, List.mem_cons, List.not_mem_nil, or_false] at h
    rw [height]
    rcases h with rfl | rfl | rfl <;> omega

namespace Checker

/-- An expression and what remains of it without its parentheses, which may have more room. That there is room is
    said of the height as it counts among arguments, where placeholders are not checked. -/
theorem checkWithin_agrees (c : Checker) (room : Nat) : ∀ room' e, room ≤ room' → e.Filled →
    Agrees c.limit (Expr.heightArgs [e] < room) (c.checkWithin room e)
      (c.checkWithin room' e.unwrap) := by
  induction room with
  | zero =>
    intro room' e _ _
    exact .inl ⟨⟨e.span, rfl⟩, Nat.not_lt_zero _⟩
  | succ room ih =>
    intro room' e hle hfilled
    obtain ⟨room', rfl⟩ : ∃ n, room' = n + 1 := ⟨room' - 1, by omega⟩
    -- What is inside has less room, and less height.
    have hinside : ∀ i ∈ e.children, ∀ n, room ≤ n → Agrees c.limit (Expr.heightArgs [e] < room + 1)
        (c.checkWithin room i) (c.checkWithin n i.unwrap) := by
      intro i hi n hn
      have hlt := Expr.heightArgs_lt_of_mem_children hi
      exact (ih n i hn (hfilled.child hi)).weaken fun hroom => by omega
    rcases e.parens_or_unwrap with ⟨s, i, rfl⟩ | hmap
    · exact hinside i (List.mem_singleton_self i) (room' + 1) (Nat.le_of_succ_le hle)
    · rw [agrees_iff_related, hmap]
      refine checkNode_mapChildren_related (K := .unwrap c.limit _) (c.seesAlike_self e)
        (fun _ _ _ _ _ => rfl) trivial fun i hi => ?_
      exact ⟨trivial, (Expr.isOmitted_unwrap (hfilled.child hi)).symm,
        agrees_iff_related.1 (hinside i hi room' (Nat.le_of_succ_le_succ hle))⟩

/-- Checking does not look at parentheses, as long as there is room for them. -/
theorem check_unwrap_agrees (c : Checker) {e : Expr} (h : e.Filled) :
    Agrees c.limit (e.height < c.limit) (c.check e) (c.check e.unwrap) := by
  refine (c.checkWithin_agrees c.limit c.limit e (Nat.le_refl _) h).weaken fun hroom => ?_
  exact Nat.lt_of_le_of_lt (Expr.heightArgs_le_iff.2 (by simp)) hroom

end Checker

end AssignScript
