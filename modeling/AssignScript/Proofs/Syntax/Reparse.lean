import AssignScript.Proofs.Lexing.Lossless
import AssignScript.Proofs.Syntax.Placed
import AssignScript.Proofs.Syntax.Whole

/-!
# Reading a part by itself

The span of every expression inside what the parser accepts is exact, and its text is read as that expression
again, with its places seen from where it stood.

## Main definitions

* `Expr.StandsIn`: an expression whose span is exact;
* `Expr.Reparses`: an expression all of whose parts are read again from their own text.

## Main statements

* `Parser.nodes_reparse`: what the parser accepts reparses.
-/

namespace AssignScript

open AssignScript.Parser

/-- A span of a text, in the piece of the text that begins at `p`. -/
def Span.seenFrom (p : Position) (s : Span) : Span :=
  ⟨p.seenFrom s.start, p.seenFrom s.stop, s.text⟩

/-- A span whose ends are at other places. -/
def Span.mapPlaces (f : Position → Position) (s : Span) : Span := ⟨f s.start, f s.stop, s.text⟩

/-! ### Spans in a piece -/

section

variable {c : Cursor} {ts us vs : List PlacedToken}

/-- The piece of a text with some of its tokens, and its ends. -/
theorem Cursor.tokens_ends (h : c.tokens = .ok (ts ++ (us ++ vs))) (hus : us ≠ []) (hvs : vs ≠ []) :
    ∃ before piece behind, c.rest = before ++ (piece ++ behind) ∧
      firstStart us = c.position.after before ∧
      lastStop (firstStart us) us = (c.position.after before).after piece ∧
      (Cursor.mk piece (c.position.after before)).tokens =
        .ok (us ++ [⟨.endOfInput, (c.position.after before).after piece,
          (c.position.after before).after piece⟩]) := by
  obtain ⟨before, skipped, piece, behind, start, stop, hrest, rfl, rfl, -, -, hstart, hstop, hown⟩ :=
    tokens_piece h hvs
  obtain ⟨t, us, rfl⟩ := List.exists_cons_of_ne_nil hus
  have htstart : t.start = c.position.after (before ++ skipped) := hstart t rfl
  refine ⟨before ++ skipped, piece, behind, ?_, htstart, hstop, hown⟩
  rw [hrest, List.append_assoc]

theorem firstStart_map (f : Position → Position) (hus : us ≠ []) :
    firstStart (us.map (.mapPlaces f)) = f (firstStart us) := by
  obtain ⟨t, us, rfl⟩ := List.exists_cons_of_ne_nil hus
  rfl

theorem lastStop_map (f : Position → Position) (p : Position) (us : List PlacedToken) :
    lastStop (f p) (us.map (.mapPlaces f)) = f (lastStop p us) := by
  induction us generalizing p with
  | nil => rfl
  | cons t us ih => exact ih t.stop

/-- The span of some tokens in a piece that stands in two texts, where the places in one are carried to those in
    the other. -/
theorem spanOf_mapPlaces {source source' before before' behind behind' : List Char} {f : Position → Position}
    (hsource : source = before ++ (c.rest ++ behind)) (hsource' : source' = before' ++ (c.rest ++ behind'))
    (hposition : c.position = Position.start.after before) (hf : f c.position = Position.start.after before')
    (hcarries : Position.Carries f c.position) (h : c.tokens = .ok (ts ++ (us ++ vs))) (hus : us ≠ [])
    (hvs : vs ≠ []) : spanOf source' (us.map (.mapPlaces f)) = (spanOf source us).mapPlaces f := by
  obtain ⟨init, piece, rest, hrest, hfirst, hlast, -⟩ := Cursor.tokens_ends h hus hvs
  -- In either text the piece stands behind what is before the first of the tokens.
  have hwhole : ∀ before behind : List Char, before ++ (c.rest ++ behind) =
      before ++ init ++ (piece ++ (rest ++ behind)) := by
    intro before behind
    rw [hrest]
    simp only [List.append_assoc]
  have hhere : spanOf source us = ⟨c.position.after init, (c.position.after init).after piece,
      String.ofList piece⟩ := by
    rw [spanOf, hlast, hfirst, hposition, ← Position.after_append, hsource, hwhole, Span.ofSource_after]
  have hthere : spanOf source' (us.map (.mapPlaces f)) = ⟨(f c.position).after init,
      ((f c.position).after init).after piece, String.ofList piece⟩ := by
    rw [spanOf, firstStart_map _ hus, lastStop_map, hlast, hfirst, hcarries.after init piece, hcarries init,
      hf, ← Position.after_append, hsource', hwhole, Span.ofSource_after]
  rw [hhere, hthere, Span.mapPlaces]
  simp only
  rw [hcarries.after init piece, hcarries init]

/-- The span of some tokens in a part of a text, and in that part by itself. -/
theorem spanOf_seenFrom {source before behind : List Char} (hsource : source = before ++ (c.rest ++ behind))
    (hposition : c.position = Position.start.after before) (h : c.tokens = .ok (ts ++ (us ++ vs)))
    (hus : us ≠ []) (hvs : vs ≠ []) :
    spanOf c.rest (us.map (.mapPlaces c.position.seenFrom)) =
      (spanOf source us).seenFrom c.position := by
  have hown : c.rest = [] ++ (c.rest ++ []) := (List.append_nil _).symm
  exact spanOf_mapPlaces hsource hown hposition (Position.seenFrom_self _) (Position.carries_seenFrom _) h hus hvs

end

/-! ### Texts -/

theorem TokenStream.ofText_tokens {text : String} {ts : List PlacedToken} (h : tokenize text = .ok ts) :
    ∃ s, ofText text = .ok s ∧ s.tokens = ts ∧ s.source = text.toList := by
  obtain ⟨t, us, rfl, hs⟩ := ofText_cons h
  exact ⟨_, hs, rfl, rfl⟩

/-- A text that has a stream has tokens. -/
theorem tokenize_of_runText {α : Type} {p : Parser α} {text : String} {a : α}
    (h : p.runText text = .ok a) : ∃ ts, tokenize text = .ok ts := by
  cases htokens : tokenize text with
  | ok ts => exact ⟨ts, rfl⟩
  | error e =>
    rw [runText, TokenStream.ofText, htokens] at h
    cases h

theorem TokenStream.ended_of_tokenize {text : String} {ts : List PlacedToken} {s : TokenStream}
    (h : tokenize text = .ok ts) (hs : s.tokens = ts) : s.Ended := by
  obtain ⟨ws, hws, hmem⟩ := tokenize_ended h
  refine ⟨ws, ?_, hmem⟩
  rw [← map_tokens, hs, hws]

namespace Parser

/-- An expression that is spelled by some tokens is found again where the same tokens stand at other places, if
    words that end it stand behind them. -/
theorem expression_mapPlaces {limit : Nat} {source : List Char} {us rest : List PlacedToken} {t : List Token}
    {e : Expr} {f : Position → Position} {g : Span → Span} {s : TokenStream} (hspelled : e.SpelledBy source us)
    (hread : Reads .lookahead .expression (us.map PlacedToken.token ++ t) e t) (hnest : e.nest < limit)
    (ht : t ≠ []) (hs : s.Ended) (htokens : s.tokens = us.map (.mapPlaces f) ++ rest)
    (hrest : rest.map PlacedToken.token = t)
    (hg : ∀ vs, vs <:+: us → vs ≠ [] → spanOf s.source (vs.map (.mapPlaces f)) = g (spanOf source vs)) :
    ∃ s', (expression limit).Yields s (e.mapSpan g) s' ∧ s'.tokens = rest := by
  have hwords : s.words = us.map PlacedToken.token ++ t := by
    rw [← TokenStream.map_tokens, htokens, List.map_append, List.map_map, hrest]
    rfl
  -- The words are those of the expression, so an expression of this form is found.
  obtain ⟨e', s', he, hwords', hbare⟩ := enter_finds limit hread ht hnest s hwords
  -- As many tokens are left as stand behind it, so it is placed on the tokens in front of them.
  obtain ⟨us', hus', hplaced⟩ := enter_exact limit limit .expression s e' s' hs he
  have hlength : s'.tokens.length = rest.length := by
    rw [← List.length_map PlacedToken.token, TokenStream.map_tokens, hwords', ← hrest, List.length_map]
  obtain ⟨rfl, hleft⟩ := List.append_inj' (hus'.tokens.symm.trans htokens) hlength
  have hexact : e' = e.mapSpan g := hspelled.eq_mapSpan e e' hplaced.spelled hbare hg
  exact ⟨s', hexact ▸ he, hleft⟩

/-- An expression is read again from its own text. -/
theorem standalone_reparses {limit : Nat} {text : String} {init us rest : List PlacedToken} {n : Expr}
    (h : tokenize text = .ok (init ++ (us ++ rest))) (hrest : rest ≠ [])
    (hspelled : n.SpelledBy text.toList us)
    (hread : Reads .lookahead .expression (us.map PlacedToken.token) n []) (hnest : n.nest < limit) :
    (standalone limit).runText n.span.text = .ok (n.mapSpan (Span.seenFrom n.span.start)) := by
  obtain ⟨before, piece, behind, htext, hfirst, hlast, hown⟩ :=
    Cursor.tokens_ends h hspelled.ne_nil hrest
  have htokens := Cursor.tokens_seenFrom hown
  have hspan : n.span = ⟨Position.start.after before, (Position.start.after before).after piece,
      String.ofList piece⟩ := by
    rw [hspelled.span, spanOf, hlast, hfirst]
    exact (congrArg (Span.ofSource · _ _) htext).trans (Span.ofSource_after before piece behind)
  rw [hspan]
  obtain ⟨s, hs, hstream, hsource⟩ := TokenStream.ofText_tokens htokens
  have hended := TokenStream.ended_of_tokenize htokens hstream
  rw [List.map_append] at hstream
  -- The end of the input closes the expression in its own text.
  have hclosed := Reads.close (w := us.map PlacedToken.token) (t := []) (by rwa [List.append_nil])
    (.endOfInput [])
  have hspans : ∀ vs, vs <:+: us → vs ≠ [] →
      spanOf s.source (vs.map (.mapPlaces (Position.start.after before).seenFrom)) =
        (spanOf text.toList vs).seenFrom (Position.start.after before) := by
    rintro vs ⟨x, y, rfl⟩ hne
    rw [hsource, String.toList_ofList]
    rw [List.append_assoc, List.append_assoc] at hown
    exact spanOf_seenFrom (c := ⟨piece, Position.start.after before⟩) htext rfl hown hne (by simp)
  obtain ⟨s', he, hleft⟩ := expression_mapPlaces hspelled hclosed hnest (List.cons_ne_nil _ _) hended hstream rfl
    hspans
  have hend : s'.current.token = .endOfInput := by
    have hcurrent := (List.cons.inj hleft).1
    rw [hcurrent]
    rfl
  rw [runText_eq_ok hs]
  exact ⟨_, yields_standalone.2 ⟨s', he, .inr ⟨hend, rfl⟩⟩⟩

end Parser

/-! ### Expressions in a text -/

/-- An expression that stands somewhere in a text: it is spelled by some of the tokens, its span reaches from the
    start of the first of them to the stop of the last, and the text of its span is what stands between these. -/
def Expr.StandsIn (text : List Char) (ts : List PlacedToken) (n : Expr) : Prop :=
  ∃ init us rest before piece behind, ts = init ++ (us ++ rest) ∧ us ≠ [] ∧ n.SpelledBy text us ∧
    text = before ++ (piece ++ behind) ∧
    n.span = ⟨firstStart us, lastStop (firstStart us) us, String.ofList piece⟩ ∧
    (firstStart us).IsBehind before ∧ (lastStop (firstStart us) us).IsBehind (before ++ piece)

/-- An expression that was read from a text. All expressions inside stand somewhere in the text, and unless they
    are placeholders, their own text is read as them again, with the places seen from where they start. -/
def Expr.Reparses (limit : Nat) (text : String) (e : Expr) : Prop :=
  ∃ ts, tokenize text = .ok ts ∧ ∀ n : Expr, n.Inside e → n.StandsIn text.toList ts ∧
    (n.isOmitted = false → (standalone limit).runText n.span.text =
      .ok (n.mapSpan (Span.seenFrom n.span.start)))

theorem Expr.SpelledBy.standsIn {text : String} {init us rest : List PlacedToken} {n : Expr}
    (h : tokenize text = .ok (init ++ (us ++ rest))) (hrest : rest ≠ [])
    (hspelled : n.SpelledBy text.toList us) : n.StandsIn text.toList (init ++ (us ++ rest)) := by
  obtain ⟨before, piece, behind, htext, hfirst, hlast, -⟩ := Cursor.tokens_ends h hspelled.ne_nil hrest
  change firstStart us = Position.start.after before at hfirst
  change lastStop (firstStart us) us = (Position.start.after before).after piece at hlast
  refine ⟨init, us, rest, before, piece, behind, rfl, hspelled.ne_nil, hspelled, htext, ?_, ?_, ?_⟩
  · rw [hspelled.span, spanOf, hlast, hfirst]
    exact (congrArg (Span.ofSource · _ _) htext).trans (Span.ofSource_after before piece behind)
  · rw [hfirst]
    exact Position.isBehind_after before
  · rw [hlast, ← Position.after_append]
    exact Position.isBehind_after _

/-- An expression on some of the tokens of a text reparses. -/
theorem Expr.PlacedOn.reparses {limit : Nat} {text : String} {init us rest : List PlacedToken} {e : Expr}
    (h : tokenize text = .ok (init ++ (us ++ rest))) (hrest : rest ≠ [])
    (hplaced : e.PlacedOn text.toList us) (hnest : e.nest < limit) : e.Reparses limit text := by
  refine ⟨_, h, fun n hn => ?_⟩
  obtain ⟨vs, ⟨x, y, rfl⟩, hspelled, hread⟩ := hplaced.covered n hn
  have hsame : init ++ (x ++ vs ++ y ++ rest) = init ++ x ++ (vs ++ (y ++ rest)) := by
    simp only [List.append_assoc]
  have hne : y ++ rest ≠ [] := List.append_ne_nil_of_right_ne_nil y hrest
  rw [hsame] at h ⊢
  exact ⟨hspelled.standsIn h hne, fun hgiven =>
    standalone_reparses h hne hspelled (hread hgiven) (Nat.lt_of_le_of_lt hn.nest_le hnest)⟩

namespace Parser

variable {limit : Nat}

/-- What the reader of a whole expression accepts. -/
theorem standalone_placed {s s' : TokenStream} {e : Expr} (hs : s.Ended)
    (h : (standalone limit).Yields s e s') :
    ∃ us rest, s.tokens = us ++ rest ∧ rest ≠ [] ∧ e.PlacedOn s.source us ∧ e.nest < limit := by
  obtain ⟨s₁, he, -⟩ := yields_standalone.1 h
  obtain ⟨-, -, hnest⟩ := enter_sound limit limit .expression _ _ _ hs he
  obtain ⟨us, hus, hplaced⟩ := enter_exact limit limit .expression _ _ _ hs he
  exact ⟨us, s₁.tokens, hus.tokens, List.cons_ne_nil _ _, hplaced, hnest⟩

/-- What the reader of a statement accepts. -/
theorem statement_placed {s s' : TokenStream} {first : Statement} (hs : s.Ended)
    (h : (statement (expression limit)).Yields s first s') :
    ∃ init us, s.Takes (init ++ us) s' ∧ first.expression.PlacedOn s.source us ∧
      first.expression.nest < limit := by
  obtain ⟨x, e, hname, hassign, he, rfl⟩ := yields_statement.1 h
  have hname' := hs.takes (by rw [hname]; nofun)
  obtain ⟨-, hs₁⟩ := hs.advance (by rw [hname]; nofun)
  have hassign' := hs₁.takes (by rw [hassign]; decide)
  obtain ⟨-, hs₂⟩ := hs₁.advance (by rw [hassign]; decide)
  obtain ⟨-, -, hnest⟩ := enter_sound limit limit .expression _ _ _ hs₂ he
  obtain ⟨us, hus, hplaced⟩ := enter_exact limit limit .expression _ _ _ hs₂ he
  rw [hassign'.source, hname'.source] at hplaced
  have hall := (hname'.trans hassign').trans hus
  exact ⟨_, us, hall, hplaced, hnest⟩

theorem statementsWithin_placed (fuel : Nat) : ∀ s script s', s.Ended →
    (statementsWithin (expression limit) fuel).Yields s script s' → ∀ first ∈ script,
      ∃ init us rest, s.tokens = init ++ (us ++ rest) ∧ rest ≠ [] ∧
        first.expression.PlacedOn s.source us ∧ first.expression.nest < limit := by
  induction fuel with
  | zero =>
    intro s script s' _ h
    obtain ⟨rfl, -⟩ := yields_pure.1 h
    exact nofun
  | succ fuel ih =>
    intro s script s' hs h
    obtain ⟨-, rfl, -⟩ | ⟨-, first, s₁, hfirst, rest, rfl, hrest⟩ := yields_statementsWithin.1 h
    · exact nofun
    · obtain ⟨hs₁, -, -⟩ := statement_sound hs hfirst
      obtain ⟨init, us, hus, hplaced, hnest⟩ := statement_placed hs hfirst
      refine List.forall_mem_cons.2 ⟨?_, fun next hnext => ?_⟩
      · refine ⟨init, us, s₁.tokens, ?_, List.cons_ne_nil _ _, hplaced, hnest⟩
        rw [hus.tokens, List.append_assoc]
      · -- The other statements come behind, with or without a semicolon in between.
        obtain ⟨skipped, s₂, hs₂, htakes, hmore⟩ : ∃ skipped s₂, s₂.Ended ∧ s₁.Takes skipped s₂ ∧
            (statementsWithin (expression limit) fuel).Yields s₂ rest s' := by
          rcases hrest with ⟨hsemicolon, hrest⟩ | ⟨-, hrest⟩
          · have hne : s₁.current.token ≠ .endOfInput := by rw [hsemicolon]; decide
            exact ⟨_, _, (hs₁.advance hne).2, hs₁.takes hne, hrest⟩
          · exact ⟨[], s₁, hs₁, .refl s₁, hrest⟩
        obtain ⟨init', us', rest', htokens, hne, hplaced', hnest'⟩ := ih _ _ _ hs₂ hmore next hnext
        have hall := hus.trans htakes
        rw [hall.source] at hplaced'
        refine ⟨init ++ us ++ skipped ++ init', us', rest', ?_, hne, hplaced', hnest'⟩
        rw [hall.tokens, htokens, List.append_assoc _ init']

/-- The span of every expression inside what the parser accepts is exact, and the text of the span is read as that
    expression again. -/
theorem nodes_reparse (limit : Nat) (text : String) :
    (∀ e, (standalone limit).runText text = .ok e → e.Reparses limit text) ∧
    (∀ script, (Parser.script limit).runText text = .ok script →
      ∀ s ∈ script, s.expression.Reparses limit text) := by
  constructor
  · intro e h
    obtain ⟨ts, hts⟩ := tokenize_of_runText h
    obtain ⟨s, hs, rfl, hsource⟩ := TokenStream.ofText_tokens hts
    obtain ⟨s', hyields⟩ := (runText_eq_ok hs).1 h
    obtain ⟨us, rest, htokens, hne, hplaced, hnest⟩ :=
      standalone_placed (TokenStream.ended_of_tokenize hts rfl) hyields
    have hall : tokenize text = .ok ([] ++ (us ++ rest)) := hts.trans (congrArg _ htokens)
    rw [hsource] at hplaced
    exact hplaced.reparses hall hne hnest
  · intro script h first hfirst
    obtain ⟨ts, hts⟩ := tokenize_of_runText h
    obtain ⟨s, hs, rfl, hsource⟩ := TokenStream.ofText_tokens hts
    obtain ⟨s', hyields⟩ := (runText_eq_ok hs).1 h
    simp only [Parser.script, wholeScript, monadLift_self, yields_bind, yields_remaining] at hyields
    obtain ⟨_, _, ⟨rfl, rfl⟩, hyields⟩ := hyields
    obtain ⟨init, us, rest, htokens, hne, hplaced, hnest⟩ := statementsWithin_placed _ _ _ _
      (TokenStream.ended_of_tokenize hts rfl) hyields first hfirst
    rw [htokens] at hts
    rw [hsource] at hplaced
    exact hplaced.reparses hts hne hnest

end Parser

end AssignScript
