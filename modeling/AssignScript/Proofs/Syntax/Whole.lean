import AssignScript.Proofs.Lexing.Tokens
import AssignScript.Proofs.Syntax.Complete
import AssignScript.Proofs.Syntax.Walk

/-!
# Whole expressions and scripts

The readers of a whole expression and of a whole script accept what the grammar in which a look at the next
word decides reads, up to the end of the input. In what that grammar reads, every last branch is as long as
it can be.

## Main statements

* `Reads.longest`: a look at the next word makes last branches as long as they can be;
* `Parser.standalone_sound`, `Parser.standalone_finds`: a whole expression;
* `Parser.script_sound`, `Parser.script_finds`: a whole script.
-/

namespace AssignScript

open AssignScript.Parser

/-! ### Last branches are as long as they can be -/

/-- With a look at the next word, as many words are taken as the plain grammar can make an expression of. -/
theorem Reads.length_le_of_any {s t t' : List Token} {e e' : Expr}
    (h : Reads .lookahead .expression s e t) (h' : Reads .any .expression s e' t') :
    t.length ≤ t'.length := by
  by_contra hlt
  rw [Nat.not_le] at hlt
  obtain ⟨w, hw⟩ := h.split
  obtain ⟨w', hw'⟩ := h'.split
  -- Otherwise the words that the plain grammar takes go on where the next word stops the other.
  obtain ⟨u, rfl, rfl⟩ : ∃ u, w' = w ++ u ∧ t = u ++ t' := by
    rcases List.append_eq_append_iff.1 (hw.symm.trans hw') with ⟨u, hu, ht⟩ | ⟨u, hu, ht⟩
    · exact ⟨u, hu, ht⟩
    · rw [ht, List.length_append] at hlt
      omega
  have hu : u ≠ [] := by
    rintro rfl
    exact Nat.lt_irrefl _ hlt
  subst hw
  -- Before the end of the input both can be read, which takes `u` on the one hand and not on the other.
  have hany : Reads .any .expression (w ++ (u ++ [.endOfInput])) e' [.endOfInput] := by
    rw [← List.append_assoc] at h' ⊢
    exact h'.before _
  obtain ⟨e'', hall⟩ := hany.toLookahead (.endOfInput [])
  have hpart : Reads .lookahead .expression (w ++ (u ++ [.endOfInput])) e (u ++ [.endOfInput]) := by
    obtain ⟨w₀, hw₀, hread⟩ := h.relocate fun _ _ => trivial
    rw [List.append_cancel_right hw₀]
    exact hread _ (Seams.Permits.append ((Closes.endOfInput []).permits _) u)
  obtain ⟨-, hrest⟩ := hall.unique hpart (List.cons_ne_nil _ _) (by simp)
  exact hu (List.append_cancel_right (hrest : [] ++ _ = _)).symm

/-- A look at the next word makes every last branch as long as it can be. -/
theorem Reads.longest {X : Phrase} {s t : List Token} {e : Expr} (h : Reads .lookahead X s e t) :
    Reads .longest X s e t :=
  h.mono (fun _ _ _ => trivial) (fun _ _ => trivial) (fun _ _ => trivial)
    fun _ _ _ hread _ _ _ hany => hread.length_le_of_any hany

/-! ### Texts -/

/-- The stream of a text is at the first of its tokens. -/
theorem TokenStream.ofText_cons {text : String} {ts : List PlacedToken} (h : tokenize text = .ok ts) :
    ∃ t us, ts = t :: us ∧ ofText text = .ok ⟨text.toList, t, us, none⟩ := by
  obtain ⟨t, us, rfl⟩ := List.exists_cons_of_ne_nil (Cursor.tokens_ne_nil h)
  refine ⟨t, us, rfl, ?_⟩
  rw [ofText, h]
  rfl

/-- The stream of a text holds its tokens. -/
theorem TokenStream.ofText_eq_ok {text : String} {ts : List PlacedToken}
    (h : tokenize text = .ok ts) : ∃ s, ofText text = .ok s ∧
      s.words = ts.map PlacedToken.token := by
  obtain ⟨t, us, rfl, hs⟩ := ofText_cons h
  exact ⟨_, hs, rfl⟩

/-- A text whose stream is known is read from it. -/
theorem runText_eq_runOn {α : Type} {p : Parser α} {text : String} {s : TokenStream}
    (h : TokenStream.ofText text = .ok s) : p.runText text = (p.runOn s).1 := by
  rw [runText, h]
  rfl

theorem runText_eq_ok {α : Type} {p : Parser α} {text : String} {s : TokenStream} {a : α}
    (h : TokenStream.ofText text = .ok s) :
    p.runText text = .ok a ↔ ∃ s', p.Yields s a s' := by
  rw [runText_eq_runOn h, runOn]
  constructor
  · intro ha
    split at ha
    · next s' hs' =>
      cases ha
      exact ⟨s', hs'⟩
    · cases ha
  · rintro ⟨s', hs'⟩
    rw [Yields] at hs'
    rw [hs']

/-! ### A whole expression -/

/-- The words before the end of input, less a semicolon that may stand behind them. -/
def Body (ws w : List Token) : Prop := ws = w ∨ ws = w ++ [.mark .semicolon]

/-- A whole expression is followed by the end of the input, or by a semicolon and then the end. -/
theorem Parser.yields_standalone {limit : Nat} {s s' : TokenStream} {e : Expr} :
    (standalone limit).Yields s e s' ↔ ∃ s₁, (expression limit).Yields s e s₁ ∧
      ((s₁.current.token = .mark .semicolon ∧ s₁.advance.current.token = .endOfInput ∧
        s' = s₁.advance.advance) ∨ (s₁.current.token = .endOfInput ∧ s' = s₁.advance)) := by
  simp only [standalone, wholeExpression, monadLift_self]
  rw [yields_bind, exists_comm]
  refine exists_congr fun s₁ => ?_
  simp only [yields_peek_bind]
  by_cases hsemicolon : s₁.current.token = .mark .semicolon
  · simp only [if_pos hsemicolon, yields_bind, yields_skip, yields_expect, yields_pure]
    rw [hsemicolon]
    constructor
    · rintro ⟨e', he, _, _, rfl, _, _, ⟨hend, rfl⟩, rfl, rfl⟩
      exact ⟨he, .inl ⟨rfl, hend, rfl⟩⟩
    · rintro ⟨he, ⟨-, hend, rfl⟩ | ⟨hend, -⟩⟩
      · exact ⟨e, he, (), _, rfl, (), _, ⟨hend, rfl⟩, rfl, rfl⟩
      · cases hend
  · simp only [if_neg hsemicolon, yields_bind, yields_expect, yields_pure]
    constructor
    · rintro ⟨e', he, _, _, ⟨hend, rfl⟩, rfl, rfl⟩
      exact ⟨he, .inr ⟨hend, rfl⟩⟩
    · rintro ⟨he, ⟨h, -⟩ | ⟨hend, rfl⟩⟩
      · exact absurd h hsemicolon
      · exact ⟨e, he, (), _, ⟨hend, rfl⟩, rfl, rfl⟩

theorem Parser.standalone_sound {limit : Nat} {s s' : TokenStream} {e : Expr} {ws : List Token}
    (hs : s.words = ws ++ [.endOfInput]) (hws : .endOfInput ∉ ws)
    (h : (standalone limit).Yields s e s') :
    ∃ w, Body ws w ∧ Reads .lookahead .expression w e [] ∧ e.nest < limit := by
  obtain ⟨s₁, he, hbehind⟩ := yields_standalone.1 h
  obtain ⟨hs₁, hread, hnest⟩ := enter_sound limit limit .expression _ _ _ ⟨ws, hs, hws⟩ he
  obtain ⟨w, hw⟩ := hread.split
  rw [hw] at hread
  have hbody : Reads .lookahead .expression (w ++ []) e [] := Reads.close hread .nil
  rw [List.append_nil] at hbody
  rcases hbehind with ⟨hsemicolon, hend, -⟩ | ⟨hend, -⟩
  · obtain ⟨hwords, hs₂⟩ := hs₁.advance (by rw [hsemicolon]; decide)
    rw [hs₂.words_eq hend, hsemicolon] at hwords
    refine ⟨w, .inr ?_, hbody, hnest⟩
    rw [hs, hwords, List.append_cons w] at hw
    exact List.append_cancel_right hw
  · refine ⟨w, .inl ?_, hbody, hnest⟩
    rw [hs, hs₁.words_eq hend] at hw
    exact List.append_cancel_right hw

theorem Parser.standalone_finds {limit : Nat} {s : TokenStream} {e : Expr} {ws w : List Token}
    (hs : s.words = ws ++ [.endOfInput]) (hbody : Body ws w)
    (h : Reads .lookahead .expression w e []) (hnest : e.nest < limit) :
    ∃ e' s', (standalone limit).Yields s e' s' ∧ e'.bare = e.bare := by
  rw [← List.append_nil w] at h
  rcases hbody with rfl | rfl
  · obtain ⟨e', s₁, he', hwords, hbare⟩ := enter_finds limit
      (h.close (.endOfInput [])) (List.cons_ne_nil _ _) hnest s hs
    have hend := TokenStream.current_of_words hwords
    exact ⟨e', _, yields_standalone.2 ⟨s₁, he', .inr ⟨hend, rfl⟩⟩, hbare⟩
  · rw [List.append_assoc, List.singleton_append] at hs
    obtain ⟨e', s₁, he', hwords, hbare⟩ := enter_finds limit
      (h.close (.semicolon [.endOfInput])) (List.cons_ne_nil _ _) hnest s hs
    have hsemicolon := TokenStream.current_of_words hwords
    have hend := TokenStream.current_of_words (TokenStream.words_advance hwords (List.cons_ne_nil _ _))
    exact ⟨e', _, yields_standalone.2 ⟨s₁, he', .inl ⟨hsemicolon, hend, rfl⟩⟩, hbare⟩

/-! ### A whole script -/

namespace ReadsStatement

variable {s t : List Token} {first : Statement}

theorem split {D : Seams} (h : ReadsStatement D s first t) : ∃ w, s = w ++ t := by
  obtain ⟨_, hread⟩ := h
  obtain ⟨w, rfl⟩ := hread.split
  exact ⟨_ :: _ :: w, rfl⟩

/-- What is read with a look at the next word may stand before any words that close it. -/
theorem close {w t' : List Token} (h : ReadsStatement .lookahead (w ++ t) first t)
    (ht' : Closes t') : ReadsStatement .lookahead (w ++ t') first t' := by
  generalize hws : w ++ t = ws at h
  obtain ⟨span, hread⟩ := h
  obtain ⟨w', rfl⟩ := hread.split
  rw [← List.cons_append, ← List.cons_append] at hws
  rw [List.append_cancel_right hws]
  exact .assign span (hread.close ht')

/-- More words may stand behind, if what is behind the statement then still closes it. -/
theorem append (h : ReadsStatement .lookahead s first t) {v : List Token} (hv : Closes (t ++ v)) :
    ReadsStatement .lookahead (s ++ v) first (t ++ v) := by
  obtain ⟨w, rfl⟩ := h.split
  rw [List.append_assoc]
  exact h.close hv

/-- A statement begins with a name. -/
theorem current_ne {D : Seams} {st : TokenStream} (h : ReadsStatement D s first t)
    (hst : st.words = s) : st.current.token ≠ .endOfInput := by
  obtain ⟨_, _⟩ := h
  rw [TokenStream.current_of_words hst]
  nofun

theorem nest_lt {D : Seams} (h : ReadsStatement D s first t) :
    first.expression.nest + t.length < s.length := by
  obtain ⟨_, hread⟩ := h
  have hlt := hread.nest_lt
  simp only [List.length_cons]
  omega

end ReadsStatement

/-- A statement with a semicolon in front of a script. -/
theorem ReadsScript.next {D : Seams} {s s₁ : List Token} {first : Statement} {rest : Script}
    (h : ReadsStatement D s first (.mark .semicolon :: s₁)) (hrest : ReadsScript D s₁ rest) :
    ReadsScript D s (first :: rest) := by
  cases hrest with
  | empty => exact .statements (.closed h)
  | statements hrest => exact .statements (.next h hrest)

/-- A script is nothing, or one statement, or a statement with a semicolon in front of a script. -/
theorem ReadsScript.uncons {D : Seams} {s : List Token} {script : Script} (h : ReadsScript D s script) :
    (s = [] ∧ script = []) ∨ (∃ first, script = [first] ∧ ReadsStatement D s first []) ∨
      ∃ first rest s₁, script = first :: rest ∧
        ReadsStatement D s first (.mark .semicolon :: s₁) ∧ ReadsScript D s₁ rest := by
  cases h with
  | empty => exact .inl ⟨rfl, rfl⟩
  | statements h =>
    cases h with
    | last h => exact .inr (.inl ⟨_, rfl, h⟩)
    | closed h => exact .inr (.inr ⟨_, [], [], rfl, h, .empty⟩)
    | next h hrest => exact .inr (.inr ⟨_, _, _, rfl, h, .statements hrest⟩)

/-- No statement of a script nests as deeply as the script has words. -/
theorem ReadsScript.nest_lt {D : Seams} {s : List Token} {script : Script}
    (h : ReadsScript D s script) : ∀ first ∈ script, first.expression.nest < s.length := by
  cases h with
  | empty => exact nofun
  | statements h =>
    induction h with
    | last h | closed h =>
      intro first hfirst
      cases List.mem_singleton.1 hfirst
      have hlt := h.nest_lt
      omega
    | next h _ ih =>
      have hlt := h.nest_lt
      simp only [List.length_cons] at hlt
      intro first hfirst
      rcases List.mem_cons.1 hfirst with rfl | hfirst
      · omega
      · have hrest := ih first hfirst
        omega

namespace Parser

/-- A statement is a name, the assignment mark and an expression. -/
theorem yields_statement {limit : Nat} {s s' : TokenStream} {first : Statement} :
    (statement (expression limit)).Yields s first s' ↔ ∃ x e, s.current.token = .identifier x ∧
      s.advance.current.token = .mark .assign ∧ (expression limit).Yields s.advance.advance e s' ∧
      first = ⟨x, e, s'.spanFrom s.current.start⟩ := by
  simp only [statement, monadLift_self, yields_bind, yields_here, yields_expectIdentifier, yields_expect,
    yields_spanFrom, yields_pure]
  constructor
  · rintro ⟨_, _, ⟨rfl, rfl⟩, x, _, ⟨hname, rfl⟩, _, _, ⟨hassign, rfl⟩, e, _, he, _, _, ⟨rfl, rfl⟩, rfl, rfl⟩
    exact ⟨x, e, hname, hassign, he, rfl⟩
  · rintro ⟨x, e, hname, hassign, he, rfl⟩
    exact ⟨_, _, ⟨rfl, rfl⟩, x, _, ⟨hname, rfl⟩, (), _, ⟨hassign, rfl⟩, e, s', he, _, _, ⟨rfl, rfl⟩, rfl, rfl⟩

theorem statement_sound {limit : Nat} {s s' : TokenStream} {first : Statement} (hs : s.Ended)
    (h : (statement (expression limit)).Yields s first s') :
    s'.Ended ∧ ReadsStatement .lookahead s.words first s'.words ∧
      first.expression.nest < limit := by
  obtain ⟨x, e, hname, hassign, he, rfl⟩ := yields_statement.1 h
  obtain ⟨hwords, hs₁⟩ := hs.advance (by rw [hname]; nofun)
  obtain ⟨hwords₁, hs₂⟩ := hs₁.advance (by rw [hassign]; decide)
  obtain ⟨hs', hread, hnest⟩ := enter_sound limit limit .expression _ _ _ hs₂ he
  rw [hwords, hname, hwords₁, hassign]
  exact ⟨hs', .assign _ hread, hnest⟩

theorem statement_finds (limit : Nat) {s : TokenStream} {first : Statement} {t : List Token}
    (h : ReadsStatement .lookahead s.words first t) (ht : t ≠ [])
    (hnest : first.expression.nest < limit) :
    ∃ first' s', (statement (expression limit)).Yields s first' s' ∧ s'.words = t ∧ first'.bare = first.bare := by
  generalize hws : s.words = ws at h
  obtain @⟨x, ws, _, e, span, hread⟩ := h
  have hwords := TokenStream.words_advance hws (List.cons_ne_nil _ _)
  have hwords' := TokenStream.words_advance hwords (hread.rest_ne_nil ht)
  obtain ⟨e', s', he', hrest, hbare⟩ :=
    enter_finds limit hread ht hnest s.advance.advance hwords'
  refine ⟨⟨x, e', s'.spanFrom s.current.start⟩, s', yields_statement.2 ⟨x, e', ?_, ?_, he', rfl⟩, hrest, ?_⟩
  · exact TokenStream.current_of_words hws
  · exact TokenStream.current_of_words hwords
  · rw [Statement.bare, Statement.bare, hbare]

/-- Statements go on behind a semicolon, and end with the input. -/
theorem yields_statementsWithin {limit fuel : Nat} {s s' : TokenStream} {script : Script} :
    (statementsWithin (expression limit) (fuel + 1)).Yields s script s' ↔
      (s.current.token = .endOfInput ∧ script = [] ∧ s' = s) ∨
      (s.current.token ≠ .endOfInput ∧ ∃ first s₁, (statement (expression limit)).Yields s first s₁ ∧
        ∃ rest, script = first :: rest ∧
          ((s₁.current.token = .mark .semicolon ∧
            (statementsWithin (expression limit) fuel).Yields s₁.advance rest s') ∨
          (s₁.current.token = .endOfInput ∧ (statementsWithin (expression limit) fuel).Yields s₁ rest s'))) := by
  simp only [statementsWithin, monadLift_self]
  rw [yields_peek_bind]
  by_cases hend : s.current.token = .endOfInput
  · rw [if_pos hend, yields_pure]
    simp only [hend, ne_eq, not_true, true_and, false_and, or_false]
  · rw [if_neg hend, yields_bind]
    simp only [hend, ne_eq, not_false_eq_true, true_and, false_and, false_or]
    refine exists_congr fun first => exists_congr fun s₁ => and_congr_right fun _ => ?_
    rw [yields_peek_bind]
    by_cases hsemicolon : s₁.current.token = .mark .semicolon
    · rw [if_pos hsemicolon, hsemicolon]
      simp only [yields_bind, yields_skip, yields_pure]
      constructor
      · rintro ⟨_, _, rfl, rest, _, h, rfl, rfl⟩
        exact ⟨rest, rfl, .inl ⟨trivial, h⟩⟩
      · rintro ⟨rest, rfl, ⟨-, h⟩ | ⟨hne, -⟩⟩
        · exact ⟨(), _, rfl, rest, _, h, rfl, rfl⟩
        · cases hne
    · rw [if_neg hsemicolon, yields_peek_bind]
      by_cases hlast : s₁.current.token = .endOfInput
      · rw [if_neg (not_not.2 hlast), hlast]
        simp only [yields_bind, yields_pure]
        constructor
        · rintro ⟨rest, _, h, rfl, rfl⟩
          exact ⟨rest, rfl, .inr ⟨trivial, h⟩⟩
        · rintro ⟨rest, rfl, ⟨hne, -⟩ | ⟨-, h⟩⟩
          · cases hne
          · exact ⟨rest, _, h, rfl, rfl⟩
      · rw [if_pos hlast, yields_bind]
        constructor
        · rintro ⟨_, _, h, -⟩
          exact absurd h yields_unexpected
        · rintro ⟨rest, rfl, ⟨h, -⟩ | ⟨h, -⟩⟩
          · exact absurd h hsemicolon
          · exact absurd h hlast

/-- At the end of the input there are no more statements. -/
theorem statementsWithin_of_end (limit fuel : Nat) {s : TokenStream}
    (hend : s.current.token = .endOfInput) : (statementsWithin (expression limit) fuel).Yields s [] s := by
  cases fuel with
  | zero => exact yields_pure.2 ⟨rfl, rfl⟩
  | succ fuel => exact yields_statementsWithin.2 (.inl ⟨hend, rfl, rfl⟩)

theorem statementsWithin_sound (limit fuel : Nat) : ∀ s script s' ws, s.words = ws ++ [.endOfInput] →
    .endOfInput ∉ ws → s.words.length ≤ fuel → (statementsWithin (expression limit) fuel).Yields s script s' →
    ReadsScript .lookahead ws script ∧ ∀ first ∈ script, first.expression.nest < limit := by
  induction fuel with
  | zero =>
    intro s script s' ws _ _ hfuel
    exact absurd hfuel s.not_words_length_le_zero
  | succ fuel ih =>
    intro s script s' ws hs hws hfuel h
    have hended : s.Ended := ⟨ws, hs, hws⟩
    obtain ⟨hend, rfl, -⟩ | ⟨-, first, s₁, hfirst, rest, rfl, hrest⟩ := yields_statementsWithin.1 h
    · rw [hended.words_eq hend] at hs
      obtain rfl : ws = [] := (List.append_cancel_right (hs : [] ++ _ = _)).symm
      exact ⟨.empty, nofun⟩
    · obtain ⟨hs₁, hread, hnest⟩ := statement_sound hended hfirst
      obtain ⟨w, hw⟩ := hread.split
      rw [hw] at hread
      rcases hrest with ⟨hsemicolon, hrest⟩ | ⟨hend, hrest⟩
      · obtain ⟨hwords, ws₁, hs₂, hws₁⟩ := hs₁.advance (by rw [hsemicolon]; decide)
        rw [hsemicolon, hs₂] at hwords
        -- The statement and the semicolon take words, so the fuel lasts for the others.
        have hlength : s₁.advance.words.length ≤ fuel := by
          have hsum := congrArg List.length hw
          rw [hwords, ← hs₂, List.length_append, List.length_cons] at hsum
          omega
        obtain ⟨hscript, hnests⟩ := ih _ _ _ ws₁ hs₂ hws₁ hlength hrest
        rw [hs, hwords, ← List.cons_append, ← List.append_assoc] at hw
        rw [List.append_cancel_right hw]
        exact ⟨.next (hread.close (.semicolon ws₁)) hscript, List.forall_mem_cons.2 ⟨hnest, hnests⟩⟩
      · obtain ⟨rfl, -⟩ := hrest.unique (statementsWithin_of_end limit fuel hend)
        rw [hs, hs₁.words_eq hend] at hw
        have hlast := hread.close .nil
        rw [List.append_nil, ← List.append_cancel_right hw] at hlast
        exact ⟨.statements (.last hlast), List.forall_mem_singleton.2 hnest⟩

theorem script_sound {limit : Nat} {s s' : TokenStream} {script : Script} {ws : List Token}
    (hs : s.words = ws ++ [.endOfInput]) (hws : .endOfInput ∉ ws)
    (h : (Parser.script limit).Yields s script s') :
    ReadsScript .lookahead ws script ∧ ∀ first ∈ script, first.expression.nest < limit := by
  simp only [Parser.script, wholeScript, monadLift_self, yields_bind, yields_remaining] at h
  obtain ⟨_, _, ⟨rfl, rfl⟩, h⟩ := h
  exact statementsWithin_sound limit _ _ _ _ ws hs hws (Nat.le_refl _) h

/-- A statement in front of what closes it is found before the end of the input. -/
theorem statement_found (limit : Nat) {s : TokenStream} {first : Statement} {ws t : List Token}
    (hs : s.words = ws ++ [.endOfInput]) (h : ReadsStatement .lookahead ws first t)
    (ht : Closes (t ++ [.endOfInput])) (hnest : first.expression.nest < limit) :
    s.current.token ≠ .endOfInput ∧ ∃ first' s₁, (statement (expression limit)).Yields s first' s₁ ∧
      s₁.words = t ++ [.endOfInput] ∧ first'.bare = first.bare := by
  have hread := h.append ht
  exact ⟨hread.current_ne hs, statement_finds limit (hs ▸ hread) (by simp) hnest⟩

theorem statementsWithin_finds (limit fuel : Nat) : ∀ s script ws, s.words = ws ++ [.endOfInput] →
    s.words.length ≤ fuel → ReadsScript .lookahead ws script →
    (∀ first ∈ script, first.expression.nest < limit) →
    ∃ script' s', (statementsWithin (expression limit) fuel).Yields s script' s' ∧
      script'.map Statement.bare = script.map Statement.bare := by
  induction fuel with
  | zero =>
    intro s script ws _ hfuel
    exact absurd hfuel s.not_words_length_le_zero
  | succ fuel ih =>
    intro s script ws hs hfuel h hnest
    -- A semicolon behind the last statement leaves an empty script to read.
    obtain ⟨rfl, rfl⟩ | ⟨first, rfl, hfirst⟩ | ⟨first, rest, ws₁, rfl, hfirst, hrest⟩ := h.uncons
    · exact ⟨[], s, statementsWithin_of_end limit _ (TokenStream.current_of_words hs), rfl⟩
    · obtain ⟨hne, first', s₁, hyields, hwords, hbare⟩ :=
        statement_found limit hs hfirst (.endOfInput []) (hnest first List.mem_cons_self)
      have hend := TokenStream.current_of_words hwords
      refine ⟨[first'], s₁, ?_, by rw [List.map_singleton, List.map_singleton, hbare]⟩
      exact yields_statementsWithin.2 (.inr ⟨hne, first', s₁, hyields, [], rfl,
        .inr ⟨hend, statementsWithin_of_end limit fuel hend⟩⟩)
    · obtain ⟨hne, first', s₁, hyields, hwords, hbare⟩ :=
        statement_found limit hs hfirst (.semicolon _) (hnest first List.mem_cons_self)
      have hsemicolon := TokenStream.current_of_words hwords
      have hwords₁ : s₁.advance.words = ws₁ ++ [.endOfInput] :=
        TokenStream.words_advance hwords (by simp)
      have hlength : s₁.advance.words.length ≤ fuel := by
        have hlt := hfirst.nest_lt
        rw [hs, List.length_append] at hfuel
        rw [hwords₁, List.length_append]
        simp only [List.length_cons] at hlt hfuel ⊢
        omega
      obtain ⟨rest', s', hyields', hbares⟩ := ih s₁.advance rest ws₁ hwords₁ hlength hrest
        fun first hmem => hnest first (List.mem_cons_of_mem _ hmem)
      refine ⟨first' :: rest', s', ?_, by rw [List.map_cons, List.map_cons, hbare, hbares]⟩
      exact yields_statementsWithin.2 (.inr ⟨hne, first', s₁, hyields, rest', rfl,
        .inl ⟨hsemicolon, hyields'⟩⟩)

theorem script_finds {limit : Nat} {s : TokenStream} {script : Script} {ws : List Token}
    (hs : s.words = ws ++ [.endOfInput]) (h : ReadsScript .lookahead ws script)
    (hnest : ∀ first ∈ script, first.expression.nest < limit) :
    ∃ script' s', (Parser.script limit).Yields s script' s' ∧
      script'.map Statement.bare = script.map Statement.bare := by
  obtain ⟨script', s', hyields, hbare⟩ :=
    statementsWithin_finds limit s.words.length s script ws hs (Nat.le_refl _) h hnest
  refine ⟨script', s', ?_, hbare⟩
  simp only [Parser.script, wholeScript, monadLift_self, yields_bind, yields_remaining]
  exact ⟨_, _, ⟨rfl, rfl⟩, hyields⟩

end Parser

end AssignScript
