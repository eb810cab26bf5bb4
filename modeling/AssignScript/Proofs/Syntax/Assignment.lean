import AssignScript.Proofs.Lexing.Assignment
import AssignScript.Proofs.Syntax.Reparse

/-!
# An expression behind a target

What is accepted as a whole expression is accepted as the script that binds a plain name to it, with the same
expression, whose places move along with the text.

## Main definitions

* `Span.behindTarget`: the spans of a text behind a target.

## Main statements

* `Parser.script_target`: the script that binds a name to a whole expression.
-/

namespace AssignScript

open AssignScript.Parser

/-- A span of a text, behind a target and the assignment mark. -/
def Span.behindTarget (name : String) : Span → Span :=
  Span.mapPlaces (Position.start.after (name ++ " := ").toList).behind

namespace TokenStream

/-- Unless it is the last, a token is passed. -/
theorem tokens_advance {s : TokenStream} {t : PlacedToken} {ts : List PlacedToken} (h : s.tokens = t :: ts)
    (hts : ts ≠ []) : s.advance.tokens = ts := by
  obtain ⟨u, ts, rfl⟩ := List.exists_cons_of_ne_nil hts
  obtain ⟨-, hfollowing⟩ := List.cons.inj h
  rw [advance, hfollowing]
  rfl

theorem source_advance (s : TokenStream) : s.advance.source = s.source := by
  rw [advance]
  split <;> rfl

end TokenStream

namespace Parser

variable {limit : Nat} {name text : String} {e : Expr}

/-- A script of one statement, with a semicolon behind it or none. -/
theorem script_of_statement {s s₁ : TokenStream} {first : Statement} (hne : s.current.token ≠ .endOfInput)
    (h : (statement (expression limit)).Yields s first s₁)
    (hbehind : (s₁.current.token = .mark .semicolon ∧ s₁.advance.current.token = .endOfInput) ∨
      s₁.current.token = .endOfInput) :
    ∃ s', (Parser.script limit).Yields s [first] s' := by
  have hscript : ∃ s', (statementsWithin (expression limit) (s.following.length + 1)).Yields s [first] s' := by
    rcases hbehind with ⟨hsemicolon, hend⟩ | hend
    · exact ⟨_, yields_statementsWithin.2 (.inr ⟨hne, first, s₁, h, [], rfl,
        .inl ⟨hsemicolon, statementsWithin_of_end limit _ hend⟩⟩)⟩
    · exact ⟨_, yields_statementsWithin.2 (.inr ⟨hne, first, s₁, h, [], rfl,
        .inr ⟨hend, statementsWithin_of_end limit _ hend⟩⟩)⟩
  obtain ⟨s', hscript⟩ := hscript
  have hlength : s.words.length = s.following.length + 1 := by
    rw [TokenStream.words, List.length_cons, List.length_map]
  refine ⟨s', ?_⟩
  simp only [Parser.script, wholeScript, monadLift_self, yields_bind, yields_remaining]
  exact ⟨_, s, ⟨rfl, rfl⟩, hlength ▸ hscript⟩

/-- The span of some tokens of a text moves along when the text stands behind a target. -/
theorem spanOf_behindTarget (name : String) {ts us vs : List PlacedToken}
    (h : tokenize text = .ok (ts ++ (us ++ vs))) (hus : us ≠ []) (hvs : vs ≠ []) :
    spanOf (name ++ " := " ++ text).toList
        (us.map (.mapPlaces (Position.start.after (name ++ " := ").toList).behind)) =
      (spanOf text.toList us).behindTarget name := by
  have hown : text.toList = [] ++ (text.toList ++ []) := by rw [List.append_nil, List.nil_append]
  have hbehind : (name ++ " := " ++ text).toList = (name ++ " := ").toList ++ (text.toList ++ []) := by
    rw [String.toList_append, List.append_nil]
  exact spanOf_mapPlaces (c := Cursor.ofText text.toList) hown hbehind rfl (Position.behind_start _)
    (Position.carries_behind _) h hus hvs

/-- What is a whole expression by itself is the only statement of the script that binds a plain name to it. -/
theorem script_target (h : IsPlainName name) (he : (standalone limit).runText text = .ok e) :
    ∃ span, (Parser.script limit).runText (name ++ " := " ++ text) =
      .ok [⟨name, e.mapSpan (Span.behindTarget name), span⟩] := by
  -- By itself the expression is spelled by the tokens in front of the end, or of a semicolon.
  obtain ⟨ts, hts⟩ := tokenize_of_runText he
  obtain ⟨s, hs, rfl, hsource⟩ := TokenStream.ofText_tokens hts
  obtain ⟨s', he⟩ := (runText_eq_ok hs).1 he
  obtain ⟨s₁, he, hbehind⟩ := yields_standalone.1 he
  have hended := TokenStream.ended_of_tokenize hts rfl
  obtain ⟨hended₁, hread, hnest⟩ := enter_sound limit limit .expression s e s₁ hended he
  obtain ⟨us, hus, hplaced⟩ := enter_exact limit limit .expression s e s₁ hended he
  rw [hus.words] at hread
  -- The same tokens stand behind the target.
  obtain ⟨t, u, ht, hu, htarget⟩ := tokenize_target h hts
  obtain ⟨S, hS, hstream, hsource'⟩ := TokenStream.ofText_tokens htarget
  have hname : S.current.token = .identifier name := (List.cons.inj hstream).1 ▸ ht
  have hstream₁ := TokenStream.tokens_advance hstream (List.cons_ne_nil _ _)
  have hassign : S.advance.current.token = .mark .assign := (List.cons.inj hstream₁).1 ▸ hu
  have hstream₂ := TokenStream.tokens_advance hstream₁ (List.cons_ne_nil _ _)
  rw [hus.tokens, List.map_append] at hstream₂
  have hended₂ : S.advance.advance.Ended := by
    have hended := TokenStream.ended_of_tokenize htarget hstream
    exact ((hended.advance (by rw [hname]; nofun)).2.advance (by rw [hassign]; decide)).2
  have hspans : ∀ vs, vs <:+: us → vs ≠ [] → spanOf S.advance.advance.source (vs.map (.mapPlaces
      (Position.start.after (name ++ " := ").toList).behind)) = (spanOf s.source vs).behindTarget name := by
    rintro vs ⟨x, y, rfl⟩ hne
    rw [TokenStream.source_advance, TokenStream.source_advance, hsource, hsource']
    rw [hus.tokens, List.append_assoc, List.append_assoc] at hts
    exact spanOf_behindTarget name hts hne (by simp [TokenStream.tokens])
  obtain ⟨S₁, hfound, hleft⟩ := expression_mapPlaces hplaced.spelled hread hnest s₁.words_ne_nil hended₂ hstream₂
    (by rw [List.map_map]; rfl) hspans
  -- What follows the expression follows the statement.
  have hwords : S₁.words = s₁.words := by
    rw [← TokenStream.map_tokens, hleft, List.map_map]
    rfl
  have hcurrent : S₁.current.token = s₁.current.token := TokenStream.current_of_words hwords
  have hscript := script_of_statement (by rw [hname]; nofun)
    (yields_statement.2 ⟨name, _, hname, hassign, hfound, rfl⟩) <| by
      rcases hbehind with ⟨hsemicolon, hend, -⟩ | ⟨hend, -⟩
      · rw [(hended₁.advance (by rw [hsemicolon]; decide)).1] at hwords
        have hadvance := TokenStream.words_advance hwords (TokenStream.words_ne_nil _)
        exact .inl ⟨hcurrent.trans hsemicolon, (TokenStream.current_of_words hadvance).trans hend⟩
      · exact .inr (hcurrent.trans hend)
  exact ⟨_, (runText_eq_ok hS).2 hscript⟩

end Parser

end AssignScript
