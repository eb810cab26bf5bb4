import AssignScript.TypedExpr

/-!
# Parts of typed expressions

## Main definitions

* `TypedExpr.children`: the expressions right inside another;
* `TypedExpr.Inside`: the expressions inside another, itself included;
* `TypedExpr.postorder`: these from left to right, each behind its parts.

## Main statements

* `TypedExpr.induction_on_children`: what an expression has whenever those right inside it do, all have;
* `TypedExpr.mem_postorder`: the order leaves nothing out.
-/

namespace AssignScript.TypedExpr

/-- The expressions right inside another. An argument that is absent is none. -/
def children : TypedExpr → List TypedExpr
  | .const _ _ | .var _ _ => []
  | .unary _ _ e => [e]
  | .binary _ _ l r => [l, r]
  | .between _ e l u => [e, l, u]
  | .substr _ e a b => e :: (a.toList ++ b.toList)
  | .replace _ e p a => e :: p :: a.toList
  | .instr _ e p a b => e :: p :: (a.toList ++ b.toList)
  | .conditional _ c a b => [c, a, b]

/-- An expression is inside itself, and whatever is inside one of its children is inside it. -/
inductive Inside (n : TypedExpr) : TypedExpr → Prop where
  | self : Inside n n
  | child {c e : TypedExpr} (hc : c ∈ e.children) (h : Inside n c) : Inside n e

theorem sizeOf_lt_of_mem_children {c e : TypedExpr} (h : c ∈ e.children) : sizeOf c < sizeOf e := by
  cases e <;>
    simp only [children, List.not_mem_nil, List.mem_cons, List.mem_append, Option.mem_toList, or_false] at h
  all_goals
    rcases h with rfl | rfl | rfl | rfl <;> simp <;> omega

/-- What an expression has whenever those right inside it do, all expressions have. -/
@[elab_as_elim]
theorem induction_on_children {P : TypedExpr → Prop} (e : TypedExpr)
    (h : ∀ e : TypedExpr, (∀ c ∈ e.children, P c) → P e) : P e :=
  h e fun c _ => induction_on_children c h
termination_by sizeOf e
decreasing_by exact sizeOf_lt_of_mem_children ‹_›

mutual

/-- The expressions inside another, from left to right, each behind its parts. -/
def postorder : TypedExpr → List TypedExpr
  | .const t v => [.const t v]
  | .var t x => [.var t x]
  | .unary t op e => e.postorder ++ [.unary t op e]
  | .binary t op l r => l.postorder ++ (r.postorder ++ [.binary t op l r])
  | .between t e l u => e.postorder ++ (l.postorder ++ (u.postorder ++ [.between t e l u]))
  | .substr t e a b => e.postorder ++ (postorderOptional a ++ (postorderOptional b ++ [.substr t e a b]))
  | .replace t e p a => e.postorder ++ (p.postorder ++ (postorderOptional a ++ [.replace t e p a]))
  | .instr t e p a b =>
    e.postorder ++ (p.postorder ++ (postorderOptional a ++ (postorderOptional b ++ [.instr t e p a b])))
  | .conditional t c a b => c.postorder ++ (a.postorder ++ (b.postorder ++ [.conditional t c a b]))

/-- The expressions inside an argument, if it is there. -/
def postorderOptional : Option TypedExpr → List TypedExpr
  | none => []
  | some e => e.postorder

end

theorem postorderOptional_eq (o : Option TypedExpr) : postorderOptional o = o.toList.flatMap postorder := by
  cases o with
  | none => rfl
  | some e => rw [postorderOptional, Option.toList_some, List.flatMap_singleton]

theorem postorder_eq (e : TypedExpr) : e.postorder = e.children.flatMap postorder ++ [e] := by
  cases e <;>
    simp only [postorder, children, postorderOptional_eq, List.flatMap_cons, List.flatMap_append, List.flatMap_nil,
      List.append_assoc, List.append_nil, List.nil_append]

/-- The order leaves nothing out, and nothing else stands in it. -/
theorem mem_postorder {n e : TypedExpr} : n ∈ e.postorder ↔ n.Inside e := by
  rw [postorder_eq, List.mem_append, List.mem_flatMap, List.mem_singleton]
  constructor
  · rintro (⟨c, hc, hn⟩ | rfl)
    · exact .child hc (mem_postorder.1 hn)
    · exact .self
  · rintro (_ | ⟨hc, hn⟩)
    · exact .inr rfl
    · exact .inl ⟨_, hc, mem_postorder.2 hn⟩
termination_by sizeOf e
decreasing_by all_goals exact sizeOf_lt_of_mem_children ‹_›

end AssignScript.TypedExpr
