import AssignScript.Engine
import AssignScript.Proofs.Lexing.LineBreak
import AssignScript.Proofs.Pattern.Fragment
import AssignScript.Proofs.Syntax.Concat
import AssignScript.Proofs.Typing.Checked
import AssignScript.Proofs.Typing.Places

/-!
# Scripts as transactions

A script that fails leaves the engine as it was, whatever it did before it failed. A script that ends with a
semicolon, with another behind a line feed, does what the two do one after the other.

## Main statements

* `Engine.scopeAfter_eq_ok`: what a script does depends on its words only;
* `Engine.scopeAfter_append`: scripts one behind the other;
* `Engine.eval_transaction`: failure leaves no trace, and scripts compose.
-/

namespace AssignScript

open AssignScript.Parser

/-! ### Execution does not look at places -/

section Execution

variable [PatternLibrary]

theorem Statement.execute_eq_ok_of_bare_eq {limit : Nat} {scope scope' : Bindings} {s s' : Statement}
    (h : s.bare = s'.bare) :
    s.execute limit scope = .ok scope' ↔ s'.execute limit scope = .ok scope' := by
  obtain ⟨target, e, span⟩ := s
  obtain ⟨target', e', span'⟩ := s'
  simp only [bare, Statement.mk.injEq, and_true] at h
  obtain ⟨rfl, he⟩ := h
  simp only [execute, bind_eq_ok, checkIn, mapError_eq_ok, Checker.check_eq_ok_of_bare_eq he]

theorem Script.execute_eq_ok_of_bare_eq {limit : Nat} {scope scope' : Bindings}
    {script script' : Script} (h : script.map Statement.bare = script'.map Statement.bare) :
    script.execute limit scope = .ok scope' ↔ script'.execute limit scope = .ok scope' := by
  induction script generalizing scope script' with
  | nil =>
    rw [List.eq_nil_of_map_eq_nil h.symm]
  | cons s script ih =>
    obtain ⟨s', script', rfl, hs, hscript⟩ := List.map_eq_cons_iff.1 h.symm
    simp only [execute, List.foldlM_cons, bind_eq_ok] at ih ⊢
    simp only [Statement.execute_eq_ok_of_bare_eq hs, ih hscript.symm]

/-- Scripts one behind the other are executed one after the other. -/
theorem Script.execute_append {limit : Nat} {scope scope' : Bindings} {before behind : Script} :
    Script.execute limit scope (before ++ behind) = .ok scope' ↔
      ∃ between, before.execute limit scope = .ok between ∧
        behind.execute limit between = .ok scope' := by
  rw [execute, List.foldlM_append, bind_eq_ok]
  exact Iff.rfl

end Execution

/-! ### What a script does -/

namespace Engine

section Execution

variable [PatternLibrary]

/-- What a script does depends on its words only: they must be a script whose expressions nest within the
    limit, and it must run. -/
theorem scopeAfter_eq_ok {e : Engine} {text : String} {ts : List PlacedToken} {ws : List Token}
    {scope : Bindings} (h : tokenize text = .ok ts)
    (hws : ts.map PlacedToken.token = ws ++ [.endOfInput]) :
    e.scopeAfter text = .ok scope ↔ ∃ script, ReadsScript .lookahead ws script ∧
      (∀ first ∈ script, first.expression.nest < e.limit) ∧
      script.execute e.limit e.bindings = .ok scope := by
  -- Reading is sound and complete for the words, and what is found runs like what is there.
  obtain ⟨s, hs, hstream⟩ := TokenStream.ofText_eq_ok h
  rw [hws] at hstream
  have hend : .endOfInput ∉ ws := by
    obtain ⟨ws', hws', hend⟩ := tokenize_ended h
    rwa [List.append_cancel_right (hws.symm.trans hws')]
  simp only [scopeAfter, readText, bind_eq_ok, mapError_eq_ok, runText_eq_ok hs]
  constructor
  · rintro ⟨script, ⟨s', hscript⟩, hexecute⟩
    obtain ⟨hread, hnest⟩ := script_sound hstream hend hscript
    exact ⟨script, hread, hnest, hexecute⟩
  · rintro ⟨script, hread, hnest, hexecute⟩
    obtain ⟨script', s', hscript, hbare⟩ := script_finds hstream hread hnest
    exact ⟨script', ⟨s', hscript⟩, (Script.execute_eq_ok_of_bare_eq hbare).2 hexecute⟩

/-- A text without tokens is no script. -/
theorem scopeAfter_ne_ok {e : Engine} {text : String} {err : ParseError}
    (h : tokenize text = .error err) (scope : Bindings) : e.scopeAfter text ≠ .ok scope := by
  have hrun : (Parser.script e.limit).runText text = .error err := by
    rw [runText, TokenStream.ofText, h]
    rfl
  intro hscope
  simp only [scopeAfter, readText, bind_eq_ok, mapError_eq_ok, hrun] at hscope
  obtain ⟨_, hscript, -⟩ := hscope
  cases hscript

/-- Scripts one behind the other, with a line feed in between, run one after the other, if the first ends
    with a semicolon. -/
theorem scopeAfter_append {e : Engine} {a : String} {ts : List PlacedToken} {ws : List Token}
    (h : tokenize a = .ok ts) (hws : ts.map PlacedToken.token = ws ++ [.endOfInput])
    (hterminated : Terminated ws) (b : String) (scope : Bindings) :
    e.scopeAfter (a ++ "\n" ++ b) = .ok scope ↔ ∃ between, e.scopeAfter a = .ok between ∧
      ({ e with bindings := between } : Engine).scopeAfter b = .ok scope := by
  have htokens := tokenize_append h b
  cases hb : tokenize b with
  | error err =>
    rw [hb] at htokens
    -- Without tokens in the second text there are none in both.
    constructor
    · exact fun hscope => absurd hscope (scopeAfter_ne_ok htokens scope)
    · rintro ⟨between, -, hscope⟩
      exact absurd hscope (scopeAfter_ne_ok hb scope)
  | ok us =>
    rw [hb] at htokens
    obtain ⟨vs, hvs, -⟩ := tokenize_ended hb
    have hwords : (ts.dropLast ++ us.map (PlacedToken.mapPlaces (lineBreak a.toList))).map
        PlacedToken.token = (ws ++ vs) ++ [.endOfInput] := by
      rw [List.map_append, List.map_dropLast, hws, List.dropLast_concat, List.map_map,
        List.append_assoc, ← hvs]
      rfl
    simp only [scopeAfter_eq_ok htokens hwords, scopeAfter_eq_ok h hws, scopeAfter_eq_ok hb hvs]
    -- Reading, nesting and running all split where the first text ends.
    constructor
    · rintro ⟨script, hread, hnest, hexecute⟩
      obtain ⟨before, behind, rfl, hbefore, hbehind⟩ := (ReadsScript.append_iff hterminated).1 hread
      obtain ⟨hnest₁, hnest₂⟩ := List.forall_mem_append.1 hnest
      obtain ⟨between, hfirst, hsecond⟩ := Script.execute_append.1 hexecute
      exact ⟨between, ⟨before, hbefore, hnest₁, hfirst⟩, behind, hbehind, hnest₂, hsecond⟩
    · rintro ⟨between, ⟨before, hbefore, hnest₁, hfirst⟩, behind, hbehind, hnest₂, hsecond⟩
      exact ⟨before ++ behind, (ReadsScript.append_iff hterminated).2
        ⟨before, behind, rfl, hbefore, hbehind⟩, List.forall_mem_append.2 ⟨hnest₁, hnest₂⟩,
        Script.execute_append.2 ⟨between, hfirst, hsecond⟩⟩

/-! ### Transactions -/

/-- Running a script succeeds if the script leaves a scope, which the engine then has. -/
theorem eval_eq_ok {e e' : Engine} {text : String} : e.eval text = (.ok (), e') ↔
    ∃ scope, e.scopeAfter text = .ok scope ∧ e' = { e with bindings := scope } := by
  unfold eval
  cases e.scopeAfter text with
  | ok scope =>
    constructor
    · rintro ⟨⟩
      exact ⟨scope, rfl, rfl⟩
    · rintro ⟨_, ⟨⟩, rfl⟩
      rfl
  | error err => exact ⟨nofun, nofun⟩

/-- A script that fails leaves the engine as it was. A script of which the words are none or end with a
    semicolon, with another behind a line feed, succeeds exactly if both succeed one after the other, and does
    the same. -/
theorem eval_transaction (e : Engine) :
    (∀ text err e', e.eval text = (.error err, e') → e' = e) ∧
      ∀ a ts ws, tokenize a = .ok ts → ts.map PlacedToken.token = ws ++ [.endOfInput] →
        Terminated ws → ∀ b e'', e.eval (a ++ "\n" ++ b) = (.ok (), e'') ↔
          ∃ e', e.eval a = (.ok (), e') ∧ e'.eval b = (.ok (), e'') := by
  constructor
  · intro text err e' h
    unfold eval at h
    cases hscope : e.scopeAfter text with
    | ok scope =>
      rw [hscope] at h
      cases h
    | error err' =>
      rw [hscope] at h
      cases h
      rfl
  · intro a ts ws h hws hterminated b e''
    simp only [eval_eq_ok, scopeAfter_append h hws hterminated]
    constructor
    · rintro ⟨scope, ⟨between, hfirst, hsecond⟩, rfl⟩
      exact ⟨_, ⟨between, hfirst, rfl⟩, scope, hsecond, rfl⟩
    · rintro ⟨_, ⟨between, hfirst, rfl⟩, scope, hsecond, rfl⟩
      exact ⟨scope, ⟨between, hfirst, hsecond⟩, rfl⟩

end Execution

open scoped Fragment in
theorem eval_transaction_assignment :
    (∃ ts, tokenize "x:=1;" = .ok ts ∧ ts.map PlacedToken.token =
      [.identifier "x", .mark .assign, .number "1", .mark .semicolon] ++ [.endOfInput]) ∧
    Terminated [.identifier "x", .mark .assign, .number "1", .mark .semicolon] ∧
    ∀ e'', ({} : Engine).eval ("x:=1;" ++ "\n" ++ "y:=x") = (.ok (), e'') ↔
      ∃ e', ({} : Engine).eval "x:=1;" = (.ok (), e') ∧ e'.eval "y:=x" = (.ok (), e'') := by
  have hterminated :
      Terminated [.identifier "x", .mark .assign, .number "1", .mark .semicolon] :=
    .inr ⟨[.identifier "x", .mark .assign, .number "1"], rfl⟩
  exact ⟨⟨_, tokenize_assignment, rfl⟩, hterminated, fun e'' =>
    (eval_transaction {}).2 "x:=1;" _ _ tokenize_assignment rfl hterminated "y:=x" e''⟩

end Engine

end AssignScript
