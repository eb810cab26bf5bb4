import AssignScript.Proofs.Syntax.Rendering
import AssignScript.Proofs.Typing.Meaning
import AssignScript.Proofs.Typing.Parentheses

/-!
# Expressions that are written, read and checked

Whatever can be written is read as itself, up to parentheses and spans, and neither matters to the checker.

## Main statements

* `Expr.Printable.unwrap_wrapped`: parentheses that are added are all that can be removed;
* `Expr.render_recovers`: writing, reading and checking gives what checking alone gives.
-/

namespace AssignScript

open AssignScript.Parser

/-! ### Parentheses that are added -/

theorem Expr.filled_inParens {e : Expr} (h : e.Filled) (hgiven : e.isOmitted = false) :
    e.inParens.Filled := by
  refine .of_children ?_ (List.forall_mem_singleton.2 h)
  rintro s i ⟨⟩
  exact hgiven

namespace Expr.Printable

variable {t : Expr}

theorem unwrap_wrapped (h : t.Printable) : t.wrapped.unwrap = t := by
  induction h with
  | literal span h => rfl
  | «variable» span h => rfl
  | unary span hop _ he => simp only [wrapped, inParens, unwrap, he]
  | binary span hop _ _ hl hr => simp only [wrapped, inParens, unwrap, hl, hr]
  | conditional span _ _ _ hc ha hb => simp only [wrapped, inParens, unwrap, hc, ha, hb]
  | @call span x args _ _ ih =>
    have hargs : ∀ a ∈ args, (unwrap ∘ wrapped) a = id a := by
      -- Placeholders are not printable, but there is nothing in them to wrap.
      intro a ha
      rcases a.omitted_or_given with ⟨s, rfl⟩ | hgiven
      · rfl
      · exact ih a ha hgiven
    rw [wrapped, unwrap, unwrapArgs_eq_map, wrappedArgs_eq_map, List.map_map, List.map_congr_left hargs,
      List.map_id]

theorem not_omitted (h : t.Printable) : t.wrapped.isOmitted = false := by
  cases h <;> rfl

/-- Operands are no placeholders, so parentheses around them are around something. -/
theorem filled (h : t.Printable) : t.wrapped.Filled := by
  induction h with
  | literal span h => exact .of_children (fun _ _ h => by cases h) fun _ h => by cases h
  | «variable» span h => exact .of_children (fun _ _ h => by cases h) fun _ h => by cases h
  | unary span hop h he =>
    exact .of_children (fun _ _ h => by cases h) (List.forall_mem_singleton.2 (filled_inParens he h.not_omitted))
  | binary span hop hl hr ihl ihr =>
    refine .of_children (fun _ _ h => by cases h) (List.forall_mem_cons.2 ⟨?_, List.forall_mem_singleton.2 ?_⟩)
    · exact filled_inParens ihl hl.not_omitted
    · exact filled_inParens ihr hr.not_omitted
  | conditional span hc ha hb ihc iha ihb =>
    refine .of_children (fun _ _ h => by cases h) (List.forall_mem_cons.2 ⟨?_, List.forall_mem_cons.2 ⟨?_,
      List.forall_mem_singleton.2 ?_⟩⟩)
    · exact filled_inParens ihc hc.not_omitted
    · exact filled_inParens iha ha.not_omitted
    · exact filled_inParens ihb hb.not_omitted
  | @call span x args _ _ ih =>
    refine .of_children (fun _ _ h => by cases h) fun b hb => ?_
    rw [wrapped, wrappedArgs_eq_map] at hb
    obtain ⟨a, ha, rfl⟩ := List.mem_map.1 hb
    rcases a.omitted_or_given with ⟨s, rfl⟩ | hgiven
    · exact .of_children (fun _ _ h => by cases h) fun _ h => by cases h
    · exact ih a ha hgiven

end Expr.Printable

/-! ### Writing, reading and checking -/

namespace Checker

variable {c : Checker} {e e' : Expr}

theorem hasRoomFor_of_bare_eq (h : e.bare = e'.bare) (he : c.HasRoomFor e) : c.HasRoomFor e' := by
  intro span hspan
  have hbare : c.check e.bare = .error (.nestingTooDeep c.limit default) := by
    rw [h, Expr.bare, check_mapSpan, hspan]
    rfl
  rw [Expr.bare, check_mapSpan] at hbare
  cases hcheck : c.check e with
  | ok t =>
    rw [hcheck] at hbare
    cases hbare
  | error err =>
    rw [hcheck] at hbare
    cases err <;> cases hbare
    exact he _ hcheck

end Checker

/-- Every layout of a printable expression with its operands in parentheses is parsed as that expression, up to
    parentheses and spans. What was parsed is accepted by the same checkers, with the same typed expression, unless
    the parentheses make the limit of nesting be reached. -/
theorem Expr.render_recovers {t : Expr} (ht : t.Printable) : Layout t.wrapped.words t.render.toList ∧
    ∀ text : String, Layout t.wrapped.words text.toList → ∀ limit, t.wrapped.nest < limit →
      ∃ e, (standalone limit).runText text = .ok e ∧ e.unwrap.bare = t.bare ∧
        ∀ c : Checker, (t.wrapped.height < c.limit → c.HasRoomFor e) ∧
          (c.HasRoomFor e → ∀ typed, c.check e = .ok typed ↔ c.check t = .ok typed) := by
  refine ⟨?_, ?_⟩
  · rw [render, String.toList_ofList]
    exact layout_spaced ht.writable
  · intro text htext limit hlimit
    obtain ⟨e, he, hbare⟩ := ht.parses hlimit htext
    refine ⟨e, he, ?_, fun c => ?_⟩
    · have hunwrap := congrArg unwrap hbare
      rwa [bare, bare, unwrap_mapSpan, unwrap_mapSpan, ht.unwrap_wrapped] at hunwrap
    · have hagrees := c.check_unwrap_agrees ht.filled
      rw [ht.unwrap_wrapped] at hagrees
      constructor
      · intro hheight
        exact Checker.hasRoomFor_of_bare_eq hbare.symm (hagrees.not_tooDeep hheight)
      · intro hroom typed
        have hroom' := Checker.hasRoomFor_of_bare_eq hbare hroom
        exact (Checker.check_eq_ok_of_bare_eq hbare).trans (hagrees.eq_ok hroom')

/-- A sign before a name. -/
theorem Expr.render_recovers_sign :
    (Expr.unary default .minus (.variable default "x")).Printable ∧
      ∃ e, (standalone 3).runText "- ( 'x' )" = .ok e ∧
        e.unwrap.bare = .unary default .minus (.variable default "x") ∧
        Checker.check ⟨NameMap.empty.insert "x" .integer, .standard, 4⟩ e =
          .ok (.unary .integer .minus (.var .integer "x")) := by
  have ht : (Expr.unary default .minus (.variable default "x")).Printable :=
    .unary default rfl (.variable default (by decide))
  have htext : (Expr.unary default .minus (.variable default "x")).render = "- ( 'x' )" := by decide
  obtain ⟨hlayout, hall⟩ := render_recovers ht
  obtain ⟨e, he, hbare, hcheck⟩ := hall _ hlayout 3 (by decide)
  obtain ⟨hroom, hiff⟩ := hcheck ⟨NameMap.empty.insert "x" .integer, .standard, 4⟩
  exact ⟨ht, e, htext ▸ he, hbare, (hiff (hroom (by decide)) _).2 rfl⟩

end AssignScript
