import AssignScript.Proofs.Lexing.Number
import AssignScript.Proofs.Syntax.Whole

/-!
# What the readers accept

The readers accept exactly the grammar, if they may nest expressions as often as there are words: the plain
grammar decides what is accepted, and the tree that is built is the one whose last branches are as long as
they can be.

## Main statements

* `ReadsScript.toLookahead`, `ReadsScript.longest`: the grammars have the same scripts;
* `Parser.standalone_accepts`, `Parser.script_accepts`: success is having a derivation;
* `Parser.accepts_grammar`: both readers on a text.
-/

namespace AssignScript

open AssignScript.Parser

/-! ### Scripts of the grammars -/

/-- Before words that close an expression, a look at the next word finds every statement. -/
theorem ReadsStatement.toLookahead {s t : List Token} {first : Statement}
    (h : ReadsStatement .any s first t) (ht : Closes t) :
    ∃ first', ReadsStatement .lookahead s first' t := by
  obtain ⟨span, hread⟩ := h
  obtain ⟨e, hread'⟩ := hread.toLookahead ht
  exact ⟨_, .assign span hread'⟩

theorem ReadsStatement.longest {s t : List Token} {first : Statement}
    (h : ReadsStatement .lookahead s first t) : ReadsStatement .longest s first t := by
  obtain ⟨span, hread⟩ := h
  exact .assign span hread.longest

theorem ReadsStatement.any {D : Seams} {s t : List Token} {first : Statement}
    (h : ReadsStatement D s first t) : ReadsStatement .any s first t := by
  obtain ⟨span, hread⟩ := h
  exact .assign span hread.any

/-- Expressions end before semicolons and at the end, so a look at the next word finds every script. -/
theorem ReadsScript.toLookahead {s : List Token} {script : Script} (h : ReadsScript .any s script) :
    ∃ script', ReadsScript .lookahead s script' := by
  cases h with
  | empty => exact ⟨[], .empty⟩
  -- Each statement is read anew, up to the semicolon or the end behind it.
  | statements h =>
    induction h with
    | last h =>
      obtain ⟨first, hfirst⟩ := h.toLookahead .nil
      exact ⟨[first], .statements (.last hfirst)⟩
    | closed h =>
      obtain ⟨first, hfirst⟩ := h.toLookahead (.semicolon [])
      exact ⟨[first], .statements (.closed hfirst)⟩
    | next h _ ih =>
      obtain ⟨first, hfirst⟩ := h.toLookahead (.semicolon _)
      obtain ⟨rest, hrest⟩ := ih
      exact ⟨first :: rest, hrest.next hfirst⟩

/-- Statements may be read otherwise, each on its own. -/
theorem ReadsScript.imp {D D' : Seams} {s : List Token} {script : Script} (h : ReadsScript D s script)
    (himp : ∀ s first t, ReadsStatement D s first t → ReadsStatement D' s first t) :
    ReadsScript D' s script := by
  cases h with
  | empty => exact .empty
  | statements h =>
    refine .statements ?_
    induction h with
    | last h => exact .last (himp _ _ _ h)
    | closed h => exact .closed (himp _ _ _ h)
    | next h _ ih => exact .next (himp _ _ _ h) ih

/-- In a script too, a look at the next word makes every last branch as long as it can be. -/
theorem ReadsScript.longest {s : List Token} {script : Script} (h : ReadsScript .lookahead s script) :
    ReadsScript .longest s script :=
  h.imp fun _ _ _ => ReadsStatement.longest

/-! ### Acceptance -/

namespace Parser

variable {limit : Nat} {s : TokenStream} {ws : List Token}

/-- An expression is found where there is one, if it may nest as often as there are words. -/
theorem standalone_accepts (hs : s.words = ws ++ [.endOfInput]) (hws : .endOfInput ∉ ws)
    (hlimit : ws.length ≤ limit) :
    (∃ e s', (standalone limit).Yields s e s') ↔
      ∃ w e, Body ws w ∧ Reads .any .expression w e [] := by
  constructor
  · rintro ⟨e, s', h⟩
    obtain ⟨w, hbody, hread, -⟩ := standalone_sound hs hws h
    exact ⟨w, e, hbody, hread.any⟩
  · rintro ⟨w, e, hbody, hany⟩
    -- An expression nests less deeply than it has words, so the limit is not reached.
    obtain ⟨e', hread⟩ := hany.toLookahead .nil
    have hnest : e'.nest < limit := by
      have hlt := hread.nest_lt
      have hle : w.length ≤ ws.length := by
        rcases hbody with rfl | rfl
        · exact Nat.le_refl _
        · rw [List.length_append]
          exact Nat.le_add_right _ _
      simp only [List.length_nil] at hlt
      omega
    obtain ⟨e'', s', h, -⟩ := standalone_finds hs hbody hread hnest
    exact ⟨e'', s', h⟩

/-- A script is found where there is one, if its expressions may nest as often as there are words. -/
theorem script_accepts (hs : s.words = ws ++ [.endOfInput]) (hws : .endOfInput ∉ ws)
    (hlimit : ws.length ≤ limit) :
    (∃ script s', (Parser.script limit).Yields s script s') ↔
      ∃ script, ReadsScript .any ws script := by
  constructor
  · rintro ⟨script, s', h⟩
    obtain ⟨hread, -⟩ := script_sound hs hws h
    exact ⟨script, hread.imp fun _ _ _ => ReadsStatement.any⟩
  · rintro ⟨script, hany⟩
    obtain ⟨script', hread⟩ := hany.toLookahead
    obtain ⟨script'', s', h, -⟩ := script_finds hs hread fun first hfirst =>
      Nat.lt_of_lt_of_le (hread.nest_lt first hfirst) hlimit
    exact ⟨script'', s', h⟩

/-- Number tokens that are not digits only have a value, so that the limit on whole numbers is the only
    one there is. -/
theorem number_of_tokenize {text : String} {ts : List PlacedToken} (h : tokenize text = .ok ts)
    {digits : String} (hmem : .number digits ∈ ts.map PlacedToken.token) :
    (IsWhole digits ↔ AreDigits digits.toList) ∧
      ∃ x, Decimal.readFloat? digits = some x := by
  obtain ⟨t, ht, htoken⟩ := List.mem_map.1 hmem
  obtain ⟨cs, n, hfront⟩ := Cursor.exists_front h ht (by rw [htoken]; nofun)
  rw [htoken] at hfront
  have hnumeral := isNumeral_of_front hfront
  exact ⟨hnumeral.digits_iff, hnumeral.exists_float⟩

/-- The readers accept exactly the grammar, if expressions may nest as often as there are words. What they
    build is a derivation of the words whose last branches are as long as they can be. -/
theorem accepts_grammar {text : String} {ts : List PlacedToken} {limit : Nat}
    (h : tokenize text = .ok ts) (hlimit : ts.length ≤ limit + 1) :
    ∃ ws, ts.map PlacedToken.token = ws ++ [.endOfInput] ∧ .endOfInput ∉ ws ∧
      ((∃ e, (standalone limit).runText text = .ok e) ↔
        ∃ w e, Body ws w ∧ Reads .any .expression w e []) ∧
      (∀ e, (standalone limit).runText text = .ok e →
        ∃ w, Body ws w ∧ Reads .longest .expression w e []) ∧
      ((∃ script, (Parser.script limit).runText text = .ok script) ↔
        ∃ script, ReadsScript .any ws script) ∧
      (∀ script, (Parser.script limit).runText text = .ok script → ReadsScript .longest ws script) ∧
      ∀ digits, .number digits ∈ ws → (IsWhole digits ↔ AreDigits digits.toList) ∧
        (¬ IsWhole digits → ∃ x, Writes (.number digits) (.number x)) := by
  obtain ⟨ws, hwords, hws⟩ := tokenize_ended h
  obtain ⟨s, hs, hstream⟩ := TokenStream.ofText_eq_ok h
  rw [hwords] at hstream
  have hlength : ws.length ≤ limit := by
    have hsum := congrArg List.length hwords
    rw [List.length_map, List.length_append, List.length_singleton] at hsum
    omega
  simp only [runText_eq_ok hs]
  refine ⟨ws, hwords, hws, standalone_accepts hstream hws hlength, ?_,
    script_accepts hstream hws hlength, ?_, ?_⟩
  · rintro e ⟨s', he⟩
    obtain ⟨w, hbody, hread, -⟩ := standalone_sound hstream hws he
    exact ⟨w, hbody, hread.longest⟩
  · rintro script ⟨s', hscript⟩
    exact (script_sound hstream hws hscript).1.longest
  · intro digits hdigits
    obtain ⟨hiff, x, hx⟩ := number_of_tokenize h (hwords ▸ List.mem_append_left _ hdigits)
    exact ⟨hiff, fun hwhole => ⟨x, .number hwhole hx⟩⟩

theorem accepts_grammar_assignment :
    (∃ ts, tokenize "x:=1;" = .ok ts ∧ ts.length ≤ 4 + 1) ∧
      ∃ script, (Parser.script 4).runText "x:=1;" = .ok script := by
  refine ⟨⟨_, tokenize_assignment, by decide⟩, ?_⟩
  obtain ⟨ws, hwords, -, -, -, haccepts, -⟩ :=
    @accepts_grammar _ _ 4 tokenize_assignment (by decide)
  have hws : [.identifier "x", .mark .assign, .number "1", .mark .semicolon] = ws :=
    List.append_cancel_right hwords
  have hwhole : IsWhole "1" := by
    intro c hc
    cases List.mem_singleton.1 (show c ∈ ['1'] from hc)
    decide
  have hone : Reads .any .primary [.number "1", .mark .semicolon] (.literal default (.integer 1))
      [.mark .semicolon] := .literal default _ (.integer hwhole (by decide))
  have hproduct : Reads .any (.chain .multiplicative) [.number "1", .mark .semicolon]
      (.literal default (.integer 1)) [.mark .semicolon] := .chain (.unsigned hone) (.stop trivial)
  have hexpression : Reads .any .expression [.number "1", .mark .semicolon]
      (.literal default (.integer 1)) [.mark .semicolon] :=
    .chain (.chain (.plain (.single (.chain hproduct (.stop trivial)) trivial)) (.stop trivial))
      (.stop trivial)
  rw [haccepts, ← hws]
  exact ⟨[⟨"x", .literal default (.integer 1), default⟩],
    .statements (.closed (.assign default hexpression))⟩

end Parser

end AssignScript
