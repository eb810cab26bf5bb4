import AssignScript.Proofs.Syntax.Acceptance
import AssignScript.Proofs.Syntax.Concat
import AssignScript.Proofs.Syntax.Refusal
import AssignScript.Proofs.Syntax.Reparse

/-!
# The first impossible word

A word that is reported as unexpected stands where the report says. The words before it can be completed to words
that are accepted, and with it they cannot.

## Main definitions

* `WholeExpression`, `WholeScript`: words up to the end of the input;
* `Stops`: the first word with which whole words cannot go on;
* `Parser.FirstImpossible`: the same of what a reader accepts, under any limit on nesting.

## Main statements

* `Parser.standalone_stops`, `Parser.statementsWithin_stops`: where readers of whole words fail;
* `Parser.unexpected_firstImpossible`: both readers on a text.
-/

namespace AssignScript

open AssignScript.Parser

/-! ### Whole words -/

/-- The words of an expression up to the end of the input, with a semicolon that may stand before that. -/
def WholeExpression (ws : List Token) : Prop :=
  ∃ t, Phrase.expression.Leaves ws t ∧ (t = [.mark .semicolon, .endOfInput] ∨ t = [.endOfInput])

/-- Words that begin with a statement, and the words behind it. -/
def StatementLeaves (s t : List Token) : Prop := ∃ first, ReadsStatement .lookahead s first t

/-- The words of a script up to the end of the input. -/
inductive WholeScript : List Token → Prop where
  | empty : WholeScript [.endOfInput]
  | last {s : List Token} (h : StatementLeaves s [.endOfInput]) : WholeScript s
  | next {s s₁ : List Token} (h : StatementLeaves s (.mark .semicolon :: s₁)) (hrest : WholeScript s₁) :
    WholeScript s

/-- The first word behind which whole words cannot go on. -/
structure Stops (L : List Token → Prop) (w : List Token) (tok : Token) : Prop where
  viable : ∃ v, L (w ++ v)
  stuck : ∀ s, ¬ L (w ++ tok :: s)

section Whole

variable {tok : Token} {w w₂ r s t : List Token} {e : Expr}

/-- A statement is a name, the assignment mark and an expression. -/
theorem statementLeaves_iff {x : String} :
    StatementLeaves (.identifier x :: .mark .assign :: s) t ↔ Phrase.expression.Leaves s t := by
  constructor
  · rintro ⟨_, ⟨_, hread⟩⟩
    exact ⟨_, hread⟩
  · rintro ⟨e, hread⟩
    exact ⟨_, .assign default hread⟩

/-- No name begins the statement. -/
theorem blocked_statement_name (h : ∀ x, tok ≠ .identifier x) : Blocked StatementLeaves [] tok where
  viable := ⟨[.identifier "x", .mark .assign, .keyword .null], fun t ht => statementLeaves_iff.2 (leaves_null ht)⟩
  stuck s t _ := by
    rintro ⟨_, ⟨_, _⟩⟩
    exact h _ rfl

/-- No assignment mark follows the name. -/
theorem blocked_statement_assign {x : String} (h : tok ≠ .mark .assign) :
    Blocked StatementLeaves [.identifier x] tok where
  viable := ⟨[.mark .assign, .keyword .null], fun t ht => statementLeaves_iff.2 (leaves_null ht)⟩
  stuck s t _ := by
    rintro ⟨_, ⟨_, _⟩⟩
    exact h rfl

/-- In the expression. -/
theorem blocked_statement_expression {x : String} (h : Phrase.expression.Blocked w tok) :
    Blocked StatementLeaves (.identifier x :: .mark .assign :: w) tok := by
  have hassigned : Blocked (fun s t => StatementLeaves (.identifier x :: s) t) (.mark .assign :: w) tok :=
    h.cons fun _ _ => statementLeaves_iff
  exact hassigned.cons fun _ _ => Iff.rfl

/-! #### Scripts -/

namespace Stops

/-- In a statement. -/
theorem statement (h : Blocked StatementLeaves w tok) (hend : w.headD tok ≠ .endOfInput) :
    Stops WholeScript w tok where
  viable := by
    obtain ⟨v, hv⟩ := h.viable
    exact ⟨v ++ [.endOfInput], .last (hv _ (.endOfInput []))⟩
  stuck s hwhole := by
    generalize hws : w ++ tok :: s = ws at hwhole
    cases hwhole with
    | empty =>
      obtain ⟨_, hfirst⟩ := exists_cons_headD w tok s
      exact hend (List.head_eq_of_cons_eq (hfirst.symm.trans hws))
    | last hleaves => exact h.stuck s _ (List.cons_ne_nil _ _) (hws ▸ hleaves)
    | next hleaves _ => exact h.stuck s _ (List.cons_ne_nil _ _) (hws ▸ hleaves)

/-- At a word behind a statement that neither ends the script nor separates statements. -/
theorem separator {x : String} (hread : Reads .lookahead .expression (w ++ tok :: r) e (tok :: r))
    (hsemicolon : tok ≠ .mark .semicolon) (hend : tok ≠ .endOfInput) :
    Stops WholeScript (.identifier x :: .mark .assign :: w) tok where
  viable := ⟨[.endOfInput], .last (statementLeaves_iff.2 ⟨e, hread.close (.endOfInput [])⟩)⟩
  stuck s hwhole := by
    simp only [List.cons_append] at hwhole
    cases hwhole with
    | last h =>
      obtain ⟨_, hread'⟩ := statementLeaves_iff.1 h
      exact hend (hread.next_eq hread')
    | next h _ =>
      obtain ⟨_, hread'⟩ := statementLeaves_iff.1 h
      exact hsemicolon (hread.next_eq hread')

/-- Behind a statement and a semicolon. -/
theorem next {x : String} (hread : Reads .lookahead .expression (w ++ .mark .semicolon :: r) e
      (.mark .semicolon :: r)) (h : Stops WholeScript w₂ tok) :
    Stops WholeScript (.identifier x :: .mark .assign :: (w ++ .mark .semicolon :: w₂)) tok where
  viable := by
    obtain ⟨v, hv⟩ := h.viable
    refine ⟨v, ?_⟩
    rw [List.cons_append, List.cons_append, List.append_assoc, List.cons_append]
    exact .next (statementLeaves_iff.2 ⟨e, hread.close (.semicolon _)⟩) hv
  stuck s hwhole := by
    simp only [List.cons_append, List.append_assoc] at hwhole
    cases hwhole with
    | last hleaves =>
      obtain ⟨_, hread'⟩ := statementLeaves_iff.1 hleaves
      cases hread.next_eq hread'
    | next hleaves hrest =>
      obtain ⟨_, hread'⟩ := statementLeaves_iff.1 hleaves
      cases hread.rest_eq hread' (List.cons_ne_nil _ _)
      exact h.stuck s hrest

/-! #### Expressions -/

/-- In the expression. -/
theorem expression (h : Phrase.expression.Blocked w tok) : Stops WholeExpression w tok where
  viable := by
    obtain ⟨v, hv⟩ := h.viable
    exact ⟨v ++ [.endOfInput], _, hv _ (.endOfInput []), .inr rfl⟩
  stuck s := by
    rintro ⟨t, hleaves, rfl | rfl⟩
    · exact h.stuck s _ (List.cons_ne_nil _ _) hleaves
    · exact h.stuck s _ (List.cons_ne_nil _ _) hleaves

/-- At a word behind the expression. -/
theorem behind_expression (hread : Reads .lookahead .expression (w ++ tok :: r) e (tok :: r))
    (hsemicolon : tok ≠ .mark .semicolon) (hend : tok ≠ .endOfInput) : Stops WholeExpression w tok where
  viable := ⟨[.endOfInput], _, ⟨e, hread.close (.endOfInput [])⟩, .inr rfl⟩
  stuck s := by
    rintro ⟨t, ⟨e', hread'⟩, rfl | rfl⟩
    · exact hsemicolon (hread.next_eq hread')
    · exact hend (hread.next_eq hread')

/-- At a word behind the expression and a semicolon. -/
theorem behind_semicolon (hread : Reads .lookahead .expression (w ++ .mark .semicolon :: r) e
      (.mark .semicolon :: r)) (hend : tok ≠ .endOfInput) :
    Stops WholeExpression (w ++ [.mark .semicolon]) tok where
  viable := by
    refine ⟨[.endOfInput], _, ⟨e, ?_⟩, .inl rfl⟩
    rw [List.append_assoc, List.singleton_append]
    exact hread.close (.semicolon _)
  stuck s := by
    rw [List.append_assoc, List.singleton_append]
    rintro ⟨t, ⟨e', hread'⟩, rfl | rfl⟩
    · cases hread.rest_eq hread' (List.cons_ne_nil _ _)
      exact hend rfl
    · cases hread.next_eq hread'

end Stops

end Whole

/-! ### Readers of whole words -/

namespace Parser

variable {limit : Nat} {s s' : TokenStream} {expected : Expectation} {found : Token} {position : Position}

/-- Behind some tokens of a stream stands the first word with which whole words cannot go on, at a place. -/
def StopsAt (L : List Token → Prop) (s : TokenStream) (found : Token) (position : Position) : Prop :=
  ∃ us, s.Holds us found position ∧ Stops L (us.map PlacedToken.token) found

/-- A reader of a whole expression stops at the first word with which there is none. -/
theorem standalone_stops (hs : s.Ended)
    (h : (standalone limit).Fails s (.unexpectedToken expected found position)) :
    StopsAt WholeExpression s found position := by
  have hprecise := enter_precise limit limit .expression
  obtain h | ⟨e, s₁, he, h⟩ := fails_bind.1 h
  · obtain ⟨us, hholds, hblocked⟩ := hprecise.blocked _ _ _ _ hs h
    exact ⟨us, hholds, .expression hblocked⟩
  obtain ⟨us, _, hus, hs₁, hread⟩ := hprecise.reads hs he
  simp only [monadLift_self, fails_peek_bind] at h
  by_cases hsemicolon : s₁.current.token = .mark .semicolon
  · have hne : s₁.current.token ≠ .endOfInput := by rw [hsemicolon]; decide
    rw [if_pos hsemicolon, fails_skip_bind] at h
    obtain ⟨hend, ⟨⟩⟩ := fails_expect.1 (h.of_bind fun _ _ => not_fails_pure)
    refine ⟨us ++ [s₁.current], hus.holds ((hs₁.takes hne).holds (.current _)), ?_⟩
    rw [hsemicolon] at hread
    rw [List.map_append, List.map_singleton, hsemicolon]
    exact .behind_semicolon hread hend
  · rw [if_neg hsemicolon] at h
    obtain ⟨hend, ⟨⟩⟩ := fails_expect.1 (h.of_bind fun _ _ => not_fails_pure)
    exact ⟨us, hus.holds_current, .behind_expression hread hsemicolon hend⟩

/-- A reader of a statement fails at the first word with which a statement cannot go on. -/
theorem statement_blocked (hs : s.Ended)
    (h : (statement (expression limit)).Fails s (.unexpectedToken expected found position)) :
    BlockedAt StatementLeaves s found position := by
  obtain h | ⟨x, _, hyields, h⟩ := fails_bind.1 (fails_here_bind.1 h)
  · obtain ⟨hname, ⟨⟩⟩ := fails_expectIdentifier.1 h
    exact ⟨[], .current s, blocked_statement_name hname⟩
  obtain ⟨hname, rfl⟩ := yields_expectIdentifier.1 hyields
  have hne : s.current.token ≠ .endOfInput := by rw [hname]; nofun
  obtain ⟨-, hs₁⟩ := hs.advance hne
  obtain h | ⟨_, _, hyields, h⟩ := fails_bind.1 h
  · obtain ⟨hassign, ⟨⟩⟩ := fails_expect.1 h
    refine ⟨[s.current], (hs.takes hne).holds (.current _), ?_⟩
    rw [List.map_singleton, hname]
    exact blocked_statement_assign hassign
  obtain ⟨hassign, rfl⟩ := yields_expect.1 hyields
  have hne₁ : s.advance.current.token ≠ .endOfInput := by rw [hassign]; decide
  obtain ⟨us, hholds, hblocked⟩ := (enter_precise limit limit .expression).blocked _ _ _ _
    (hs₁.advance hne₁).2 (h.of_bind fun _ _ => not_fails_spanFrom_pure)
  refine ⟨s.current :: s.advance.current :: us, ((hs.takes hne).trans (hs₁.takes hne₁)).holds hholds, ?_⟩
  rw [List.map_cons, List.map_cons, hname, hassign]
  exact blocked_statement_expression hblocked

/-- The tokens of a statement that was read, and that the next word may be followed by others. -/
theorem statement_reads {first : Statement} (hs : s.Ended) (h : (statement (expression limit)).Yields s first s') :
    ∃ us x w r e, s.Takes us s' ∧ s'.Ended ∧
      us.map PlacedToken.token = .identifier x :: .mark .assign :: w ∧
      Reads .lookahead .expression (w ++ s'.current.token :: r) e (s'.current.token :: r) := by
  obtain ⟨x, e, hname, hassign, he, -⟩ := yields_statement.1 h
  have hne : s.current.token ≠ .endOfInput := by rw [hname]; nofun
  obtain ⟨-, hs₁⟩ := hs.advance hne
  have hne₁ : s.advance.current.token ≠ .endOfInput := by rw [hassign]; decide
  obtain ⟨us, r, hus, hs', hread⟩ :=
    (enter_precise limit limit .expression).reads (hs₁.advance hne₁).2 he
  refine ⟨s.current :: s.advance.current :: us, x, _, r, e,
    ((hs.takes hne).trans (hs₁.takes hne₁)).trans hus, hs', ?_, hread⟩
  rw [List.map_cons, List.map_cons, hname, hassign]

/-- A reader of statements stops at the first word with which there is no script. -/
theorem statementsWithin_stops (fuel : Nat) : ∀ s, s.Ended →
    (statementsWithin (expression limit) fuel).Fails s (.unexpectedToken expected found position) →
    StopsAt WholeScript s found position := by
  induction fuel with
  | zero =>
    intro s _ h
    exact absurd h not_fails_pure
  | succ fuel ih =>
    intro s hs h
    simp only [statementsWithin, monadLift_self] at h
    rw [fails_peek_bind] at h
    by_cases hend : s.current.token = .endOfInput
    · rw [if_pos hend] at h
      exact absurd h not_fails_pure
    rw [if_neg hend] at h
    obtain h | ⟨first, s₁, hfirst, h⟩ := fails_bind.1 h
    · obtain ⟨us, hholds, hblocked⟩ := statement_blocked hs h
      exact ⟨us, hholds, .statement hblocked (hholds.headD ▸ hend)⟩
    obtain ⟨us, x, w, _, e, hus, hs₁, hmap, hread⟩ := statement_reads hs hfirst
    rw [fails_peek_bind] at h
    by_cases hsemicolon : s₁.current.token = .mark .semicolon
    · have hne : s₁.current.token ≠ .endOfInput := by rw [hsemicolon]; decide
      rw [if_pos hsemicolon, fails_skip_bind] at h
      obtain ⟨vs, hholds, hstops⟩ := ih _ (hs₁.advance hne).2 (h.of_bind fun _ _ => not_fails_pure)
      refine ⟨us ++ s₁.current :: vs, hus.holds ((hs₁.takes hne).holds hholds), ?_⟩
      rw [hsemicolon] at hread
      rw [List.map_append, List.map_cons, hsemicolon, hmap]
      exact .next hread hstops
    rw [if_neg hsemicolon, fails_peek_bind] at h
    by_cases hlast : s₁.current.token = .endOfInput
    · rw [if_neg (not_not.2 hlast)] at h
      exact absurd (h.of_bind fun _ _ => not_fails_pure) (statementsWithin_of_end limit fuel hlast).not_fails
    · rw [if_pos hlast] at h
      obtain h | ⟨_, _, hyields, -⟩ := fails_bind.1 h
      · cases fails_unexpected.1 h
        exact ⟨us, hus.holds_current, hmap ▸ .separator hread hsemicolon hlast⟩
      · exact absurd hyields yields_unexpected

/-! ### What is accepted -/

/-- A reader succeeds on a stream. -/
def Accepts {α : Type} (p : Parser α) (s : TokenStream) : Prop := ∃ a s', p.Yields s a s'

/-- The first word with which a reader, given any limit on nesting, cannot go on: the words before it can be completed
    to words that are accepted if expressions may nest as often as there are words, and nothing that begins with
    them and it is accepted under any limit. -/
structure FirstImpossible {α : Type} (p : Nat → Parser α) (w : List Token) (tok : Token) : Prop where
  completed : ∃ v ws, w ++ v = ws ++ [.endOfInput] ∧ .endOfInput ∉ ws ∧
    ∀ s limit, s.words = w ++ v → ws.length ≤ limit → (p limit).Accepts s
  impossible : ∀ s limit, s.Ended → w ++ [tok] <+: s.words → ¬ (p limit).Accepts s

/-- What whole words cannot go on with, a reader that accepts just these cannot go on with. -/
theorem FirstImpossible.of_stops {α : Type} {p : Nat → Parser α} {L : List Token → Prop} {w : List Token}
    {tok : Token} (h : Stops L w tok)
    (hsound : ∀ s limit, s.Ended → (p limit).Accepts s → L s.words)
    (hcomplete : ∀ ws, L ws → ∃ init, ws = init ++ [.endOfInput] ∧ .endOfInput ∉ init ∧
      ∀ s limit, s.words = ws → init.length ≤ limit → (p limit).Accepts s) : FirstImpossible p w tok where
  completed := by
    obtain ⟨v, hv⟩ := h.viable
    obtain ⟨ws, hws, hend, haccepts⟩ := hcomplete _ hv
    exact ⟨v, ws, hws, hend, haccepts⟩
  impossible := by
    rintro s limit hs ⟨r, hr⟩ haccepts
    refine h.stuck r ?_
    rw [List.append_cons, hr]
    exact hsound s limit hs haccepts

end Parser

/-! ### Whole words are what is accepted -/

/-- The words before the end of the input are those of an expression, less a semicolon. -/
theorem wholeExpression_of_body {ws w : List Token} {e : Expr} (hbody : Body ws w)
    (h : Reads .lookahead .expression w e []) : WholeExpression (ws ++ [.endOfInput]) := by
  rw [← List.append_nil w] at h
  rcases hbody with rfl | rfl
  · exact ⟨_, ⟨e, h.close (.endOfInput [])⟩, .inr rfl⟩
  · rw [List.append_assoc]
    exact ⟨_, ⟨e, h.close (.semicolon [.endOfInput])⟩, .inl rfl⟩

theorem WholeExpression.body {ws : List Token} (h : WholeExpression ws) :
    ∃ init w e, ws = init ++ [.endOfInput] ∧ .endOfInput ∉ init ∧ Body init w ∧
      Reads .lookahead .expression w e [] := by
  obtain ⟨t, ⟨e, hread⟩, ht⟩ := h
  obtain ⟨w, rfl⟩ := hread.split
  have hmem : .endOfInput ∉ w := hread.notMem (.inr rfl)
  rcases ht with rfl | rfl
  · refine ⟨w ++ [.mark .semicolon], w, e, List.append_cons .., ?_, .inr rfl, hread.alone⟩
    simpa only [List.mem_append, List.mem_singleton, reduceCtorEq, or_false] using hmem
  · exact ⟨w, w, e, rfl, hmem, .inl rfl, hread.alone⟩

/-- The words before the end of the input are those of a script. -/
theorem wholeScript_of_reads {ws : List Token} {script : Script} (h : ReadsScript .lookahead ws script) :
    WholeScript (ws ++ [.endOfInput]) := by
  induction script generalizing ws with
  | nil =>
    obtain ⟨rfl, -⟩ | ⟨_, heq, -⟩ | ⟨_, _, _, heq, -⟩ := h.uncons
    · exact .empty
    · cases heq
    · cases heq
  | cons first rest ih =>
    obtain ⟨-, heq⟩ | ⟨_, -, hfirst⟩ | ⟨_, _, ws₁, heq, hfirst, hrest⟩ := h.uncons
    · cases heq
    · exact .last ⟨_, hfirst.append (.endOfInput [])⟩
    · cases heq
      exact .next ⟨_, hfirst.append (.semicolon _)⟩ (ih hrest)

theorem WholeScript.reads {ws : List Token} (h : WholeScript ws) :
    ∃ init script, ws = init ++ [.endOfInput] ∧ .endOfInput ∉ init ∧ ReadsScript .lookahead init script := by
  induction h with
  | empty => exact ⟨[], [], rfl, nofun, .empty⟩
  | last h =>
    obtain ⟨first, hfirst⟩ := h
    obtain ⟨w, rfl⟩ := hfirst.split
    have hlast := hfirst.close .nil
    rw [List.append_nil] at hlast
    exact ⟨w, [first], rfl, hfirst.notMem (.inr rfl), .statements (.last hlast)⟩
  | next h _ ih =>
    obtain ⟨first, hfirst⟩ := h
    obtain ⟨init, script, rfl, hmem, hrest⟩ := ih
    obtain ⟨w, rfl⟩ := hfirst.split
    refine ⟨w ++ .mark .semicolon :: init, first :: script, ?_, ?_, .next (hfirst.close (.semicolon init)) hrest⟩
    · rw [List.append_assoc, List.cons_append]
    · simp only [List.mem_append, List.mem_cons, reduceCtorEq, false_or, not_or]
      exact ⟨hfirst.notMem (.inr rfl), hmem⟩

namespace Parser

variable {w : List Token} {tok : Token}

theorem firstImpossible_standalone (h : Stops WholeExpression w tok) : FirstImpossible standalone w tok := by
  refine .of_stops h ?_ fun ws hws => ?_
  · rintro s limit ⟨ws, hs, hws⟩ ⟨e, s', hyields⟩
    obtain ⟨w, hbody, hread, -⟩ := standalone_sound hs hws hyields
    exact hs ▸ wholeExpression_of_body hbody hread
  · obtain ⟨init, w, e, hinit, hmem, hbody, hread⟩ := hws.body
    exact ⟨init, hinit, hmem, fun s limit hs hlimit =>
      (standalone_accepts (hs.trans hinit) hmem hlimit).2 ⟨w, e, hbody, hread.any⟩⟩

theorem firstImpossible_script (h : Stops WholeScript w tok) : FirstImpossible Parser.script w tok := by
  refine .of_stops h ?_ fun ws hws => ?_
  · rintro s limit ⟨ws, hs, hws⟩ ⟨script, s', hyields⟩
    obtain ⟨hread, -⟩ := script_sound hs hws hyields
    exact hs ▸ wholeScript_of_reads hread
  · obtain ⟨init, script, hinit, hmem, hread⟩ := hws.reads
    exact ⟨init, hinit, hmem, fun s limit hs hlimit =>
      (script_accepts (hs.trans hinit) hmem hlimit).2 ⟨script, hread.imp fun _ _ _ => ReadsStatement.any⟩⟩

/-! ### Texts -/

theorem runText_eq_error {α : Type} {p : Parser α} {text : String} {s : TokenStream} {err : ParseError}
    (h : TokenStream.ofText text = .ok s) : p.runText text = .error err ↔ p.Fails s err := by
  rw [runText_eq_runOn h, runOn, Fails]
  cases p.run s with
  | ok a s' =>
    constructor
    · rintro ⟨⟩
    · rintro ⟨_, ⟨⟩⟩
  | error e s' =>
    constructor
    · rintro ⟨⟩
      exact ⟨s', rfl⟩
    · rintro ⟨_, ⟨⟩⟩
      rfl

/-- A reader of a text reports an unexpected word where it stands, and that word is the first impossible one. -/
def ReportsFirst {α : Type} (p : Nat → Parser α) (limit : Nat) (text : String) (ts : List PlacedToken) : Prop :=
  ∀ expected found position, (p limit).runText text = .error (.unexpectedToken expected found position) →
    ∃ before t behind, ts = before ++ t :: behind ∧ found = t.token ∧ position = t.start ∧
      FirstImpossible p (before.map PlacedToken.token) t.token

theorem reportsFirst_of_stopsAt {α : Type} {p : Nat → Parser α} {L : List Token → Prop} {limit : Nat}
    {text : String} {ts : List PlacedToken} (h : tokenize text = .ok ts)
    (hstops : ∀ s expected found position, s.Ended →
      (p limit).Fails s (.unexpectedToken expected found position) → StopsAt L s found position)
    (himpossible : ∀ w tok, Stops L w tok → FirstImpossible p w tok) : ReportsFirst p limit text ts := by
  intro expected found position hrun
  obtain ⟨s, hs, htokens, -⟩ := TokenStream.ofText_tokens h
  have hfails := (runText_eq_error hs).1 hrun
  obtain ⟨us, ⟨t, behind, hheld, rfl, rfl⟩, hstop⟩ :=
    hstops s expected found position (TokenStream.ended_of_tokenize h htokens) hfails
  exact ⟨us, t, behind, htokens.symm.trans hheld, rfl, rfl, himpossible _ _ hstop⟩

/-- Readers of a whole expression and of a whole script report a word as unexpected only if it is the first impossible
    one, whatever the limit on nesting. -/
theorem unexpected_firstImpossible {text : String} {ts : List PlacedToken} (limit : Nat)
    (h : tokenize text = .ok ts) :
    ReportsFirst standalone limit text ts ∧ ReportsFirst Parser.script limit text ts := by
  constructor
  · refine reportsFirst_of_stopsAt h (fun s _ _ _ hs hfails => standalone_stops hs hfails) ?_
    exact fun _ _ => firstImpossible_standalone
  · refine reportsFirst_of_stopsAt h (fun s _ _ _ hs hfails => ?_) fun _ _ => firstImpossible_script
    exact statementsWithin_stops _ s hs (fails_remaining_bind.1 hfails)

/-- An assignment is no expression: behind its name there is no going on with the assignment mark. -/
theorem unexpected_firstImpossible_assignment :
    (∃ ts, tokenize "x:=1;" = .ok ts) ∧
      (standalone 4).runText "x:=1;" =
        .error (.unexpectedToken (.token .endOfInput) (.mark .assign) ⟨1, 2, 1⟩) ∧
      FirstImpossible standalone [.identifier "x"] (.mark .assign) := by
  have hrun : (standalone 4).runText "x:=1;" =
      .error (.unexpectedToken (.token .endOfInput) (.mark .assign) ⟨1, 2, 1⟩) := by
    rw [runText, TokenStream.ofText, tokenize_assignment]
    rfl
  refine ⟨⟨_, tokenize_assignment⟩, hrun, ?_⟩
  obtain ⟨before, t, behind, hts, htoken, -, himpossible⟩ :=
    (unexpected_firstImpossible 4 tokenize_assignment).1 _ _ _ hrun
  -- The mark is the second token, and no other is one.
  rcases before with _ | ⟨_, _ | ⟨_, before⟩⟩
  · cases hts
    cases htoken
  · cases hts
    exact himpossible
  · have hmem : t ∈ before ++ t :: behind := List.mem_append_right before List.mem_cons_self
    rw [List.cons_append, List.cons_append] at hts
    rw [← List.tail_eq_of_cons_eq (List.tail_eq_of_cons_eq hts)] at hmem
    simp only [List.mem_cons, List.not_mem_nil, or_false] at hmem
    rcases hmem with rfl | rfl | rfl <;> cases htoken

end Parser

end AssignScript
