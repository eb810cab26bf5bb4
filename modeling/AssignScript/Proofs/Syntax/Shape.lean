import AssignScript.Expr

/-!
# Expressions apart from their places

What an expression is, whatever piece of source it was read from, and how deeply entries nest in it.

## Main definitions

* `Expr.mapSpan`, `Expr.bare`: an expression with other spans, with blank spans;
* `Expr.nest`: how often an expression or operand is entered inside another;
* `Expr.height`: how many expressions stand inside one another;
* `Expr.Inside`: the expressions inside another.

## Main statements

* `Expr.Inside.nest_le`: what is inside an expression nests no deeper.
-/

namespace AssignScript

namespace Expr

mutual

/-- An expression with a function applied to all of its spans. -/
def mapSpan (g : Span → Span) : Expr → Expr
  | .literal s v => .literal (g s) v
  | .variable s x => .variable (g s) x
  | .parens s e => .parens (g s) (e.mapSpan g)
  | .unary s op e => .unary (g s) op (e.mapSpan g)
  | .binary s op l r => .binary (g s) op (l.mapSpan g) (r.mapSpan g)
  | .conditional s c a b => .conditional (g s) (c.mapSpan g) (a.mapSpan g) (b.mapSpan g)
  | .call s x args => .call (g s) x (mapSpanArgs g args)
  | .omitted s => .omitted (g s)

/-- Arguments with a function applied to all of their spans. -/
def mapSpanArgs (g : Span → Span) : List Expr → List Expr
  | [] => []
  | a :: as => a.mapSpan g :: mapSpanArgs g as

end

mutual

/-- How many entries stand inside one another in an expression: in parentheses, behind a unary operator, in
    the parts of a choice, and in arguments that are not left out. -/
def nest : Expr → Nat
  | .literal _ _ | .variable _ _ | .omitted _ => 0
  | .parens _ e | .unary _ _ e => e.nest + 1
  | .binary _ _ l r => max l.nest r.nest
  | .conditional _ c a b => max c.nest (max a.nest b.nest) + 1
  | .call _ _ args => nestArgs args

/-- How many entries stand inside one another in arguments. -/
def nestArgs : List Expr → Nat
  | [] => 0
  | a :: as => max (if a.isOmitted then 0 else a.nest + 1) (nestArgs as)

end

mutual

/-- How many expressions stand inside one another, arguments that are left out not counted. -/
def height : Expr → Nat
  | .literal _ _ | .variable _ _ | .omitted _ => 1
  | .parens _ e | .unary _ _ e => e.height + 1
  | .binary _ _ l r => max l.height r.height + 1
  | .conditional _ c a b => max c.height (max a.height b.height) + 1
  | .call _ _ args => heightArgs args + 1

/-- How many expressions stand inside one another in arguments. -/
def heightArgs : List Expr → Nat
  | [] => 0
  | a :: as => max (if a.isOmitted then 0 else a.height) (heightArgs as)

end

theorem heightArgs_le_iff {args : List Expr} {n : Nat} :
    heightArgs args ≤ n ↔ ∀ a ∈ args, a.isOmitted = false → a.height ≤ n := by
  induction args with
  | nil => simp [heightArgs]
  | cons a as ih =>
    rw [heightArgs, Nat.max_le, ih, List.forall_mem_cons]
    cases ha : a.isOmitted <;> simp

/-- An expression with blank spans. -/
def bare (e : Expr) : Expr := e.mapSpan fun _ => default

theorem mapSpanArgs_eq_map (g : Span → Span) (args : List Expr) :
    mapSpanArgs g args = args.map (mapSpan g) := by
  induction args with
  | nil => rfl
  | cons a as ih => rw [mapSpanArgs, ih, List.map_cons]

@[simp] theorem span_mapSpan (g : Span → Span) (e : Expr) : (e.mapSpan g).span = g e.span := by
  cases e <;> rfl

@[simp] theorem isOmitted_mapSpan (g : Span → Span) (e : Expr) :
    (e.mapSpan g).isOmitted = e.isOmitted := by
  cases e <;> rfl

theorem omitted_or_given (e : Expr) : (∃ s, e = .omitted s) ∨ e.isOmitted = false := by
  cases e with
  | omitted s => exact .inl ⟨s, rfl⟩
  | _ => exact .inr rfl

/-- The expressions right inside another. -/
def children : Expr → List Expr
  | .literal _ _ | .variable _ _ | .omitted _ => []
  | .parens _ e | .unary _ _ e => [e]
  | .binary _ _ l r => [l, r]
  | .conditional _ c a b => [c, a, b]
  | .call _ _ args => args

/-- An expression is inside itself, and whatever is inside one of its children is inside it. -/
inductive Inside (n : Expr) : Expr → Prop where
  | self : Inside n n
  | child {c e : Expr} (hc : c ∈ e.children) (h : Inside n c) : Inside n e

theorem nest_le_nestArgs {a : Expr} {args : List Expr} (h : a ∈ args) : a.nest ≤ nestArgs args := by
  induction args with
  | nil => cases h
  | cons b bs ih =>
    rw [nestArgs]
    rcases List.mem_cons.1 h with rfl | h
    · rcases a.omitted_or_given with ⟨s, rfl⟩ | hgiven
      · exact Nat.zero_le _
      · rw [hgiven, if_neg Bool.false_ne_true]
        omega
    · exact Nat.le_trans (ih h) (Nat.le_max_right _ _)

theorem nest_le_of_mem_children {c e : Expr} (h : c ∈ e.children) : c.nest ≤ e.nest := by
  cases e with
  | literal s v | «variable» s x | omitted s => cases h
  | call s x args => exact nest_le_nestArgs h
  | parens s e | unary s op e | binary s op l r | conditional s c a b =>
    simp only [children, List.mem_cons, List.not_mem_nil, or_false] at h
    rcases h with rfl | rfl | rfl <;> simp only [nest] <;> omega

/-- An expression inside another nests no deeper. -/
theorem Inside.nest_le {n e : Expr} (h : n.Inside e) : n.nest ≤ e.nest := by
  induction h with
  | self => exact Nat.le_refl _
  | child hc _ ih => exact Nat.le_trans ih (nest_le_of_mem_children hc)

theorem nestArgs_append (as bs : List Expr) :
    nestArgs (as ++ bs) = max (nestArgs as) (nestArgs bs) := by
  induction as with
  | nil => rw [List.nil_append, nestArgs, Nat.zero_max]
  | cons a as ih => rw [List.cons_append, nestArgs, nestArgs, ih, Nat.max_assoc]

end Expr

/-- A statement with blank spans. -/
def Statement.bare (s : Statement) : Statement := ⟨s.target, s.expression.bare, default⟩

end AssignScript
