import AssignScript.Proofs.Syntax.Whole

/-!
# Scripts one behind the other

Semicolons stand between statements and nowhere inside them. So words that end with a semicolon, with others
behind, make a script exactly if the words before and behind each make one.

## Main definitions

* `Terminated`: words that a further script may follow.

## Main statements

* `Reads.count_eq`: no semicolon stands in an expression;
* `ReadsScript.append_iff`: scripts one behind the other.
-/

namespace AssignScript

/-! ### Where semicolons stand -/

/-- No phrase takes a semicolon or the end of the input. -/
theorem Reads.count_eq {D : Seams} {X : Phrase} {s t : List Token} {e : Expr} {tok : Token}
    (htok : tok = .mark .semicolon ∨ tok = .endOfInput) (h : Reads D X s e t) :
    s.count tok = t.count tok := by
  rcases htok with rfl | rfl <;> induction h with
  | chain _ _ ih₁ ih₂ => rw [ih₁, ih₂]
  | stop => rfl
  | join _ hop _ _ ih₁ ih₂ =>
    rw [← ih₂, ← ih₁]
    cases hop <;> rfl
  | compare _ _ hop _ ih₁ ih₂ =>
    rw [← ih₂, ih₁]
    cases hop <;> rfl
  | sign _ hop _ ih =>
    rw [← ih]
    cases hop <;> rfl
  | literal _ _ h => cases h <;> rfl
  | conditional _ _ _ _ _ ih₁ ih₂ ih₃ =>
    rw [← ih₃]
    exact ih₁.trans ih₂
  | nextArgument _ _ ih₁ ih₂ => exact ih₁.trans ih₂
  | not _ _ ih | plain _ ih | single _ _ ih | unsigned _ ih | call _ ih | parens _ _ ih | given _ ih
    | lastArgument _ _ ih => exact ih
  | name | emptyCall | omitted => rfl

theorem ReadsStatement.count_eq {D : Seams} {s t : List Token} {first : Statement} {tok : Token}
    (htok : tok = .mark .semicolon ∨ tok = .endOfInput) (h : ReadsStatement D s first t) :
    s.count tok = t.count tok := by
  obtain ⟨span, hread⟩ := h
  rw [← hread.count_eq htok]
  rcases htok with rfl | rfl <;> rfl

theorem Reads.notMem {D : Seams} {X : Phrase} {w t : List Token} {e : Expr} {tok : Token}
    (htok : tok = .mark .semicolon ∨ tok = .endOfInput) (h : Reads D X (w ++ t) e t) : tok ∉ w := by
  have hcount := h.count_eq htok
  rw [List.count_append] at hcount
  exact List.count_eq_zero.1 (by omega)

/-- The words of a statement are those up to the first semicolon. -/
theorem ReadsStatement.notMem {D : Seams} {w t : List Token} {first : Statement} {tok : Token}
    (htok : tok = .mark .semicolon ∨ tok = .endOfInput) (h : ReadsStatement D (w ++ t) first t) : tok ∉ w := by
  have hcount := h.count_eq htok
  rw [List.count_append] at hcount
  exact List.count_eq_zero.1 (by omega)

/-- Of two ways to cut words at a semicolon, one cuts at the first. -/
theorem append_semicolon_eq {w u v t : List Token} (hw : .mark .semicolon ∉ w)
    (h : u ++ .mark .semicolon :: v = w ++ .mark .semicolon :: t) :
    (u = w ∧ v = t) ∨
      ∃ u', u = w ++ .mark .semicolon :: u' ∧ t = u' ++ .mark .semicolon :: v := by
  rcases List.append_eq_append_iff.1 h with ⟨k, hk, hv⟩ | ⟨k, hk, ht⟩
  · cases k with
    | nil =>
      rw [List.append_nil] at hk
      exact .inl ⟨hk.symm, (List.cons.inj hv).2⟩
    | cons tok k =>
      obtain ⟨rfl, -⟩ := List.cons.inj hv
      exact absurd (hk ▸ List.mem_append_right _ List.mem_cons_self) hw
  · cases k with
    | nil =>
      rw [List.append_nil] at hk
      exact .inl ⟨hk, (List.cons.inj ht).2.symm⟩
    | cons tok k =>
      obtain ⟨rfl, htail⟩ := List.cons.inj ht
      exact .inr ⟨k, hk, htail⟩

/-! ### Scripts one behind the other -/

namespace ReadsScript

theorem nil_iff {D : Seams} {script : Script} : ReadsScript D [] script ↔ script = [] := by
  constructor
  · intro h
    obtain ⟨-, hnil⟩ | ⟨_, -, hfirst⟩ | ⟨_, _, _, -, hfirst, -⟩ := h.uncons
    · exact hnil
    · exact absurd hfirst.nest_lt (Nat.not_lt_zero _)
    · exact absurd hfirst.nest_lt (Nat.not_lt_zero _)
  · rintro rfl
    exact .empty

/-- Words with a semicolon in them are those of a statement before one, with a script behind. -/
theorem uncons_of_semicolon {u v : List Token} {script : Script}
    (h : ReadsScript .lookahead (u ++ .mark .semicolon :: v) script) :
    ∃ first rest w, script = first :: rest ∧
      (∀ t, ReadsStatement .lookahead (w ++ .mark .semicolon :: t) first (.mark .semicolon :: t)) ∧
      ((u = w ∧ ReadsScript .lookahead v rest) ∨ ∃ u', u = w ++ .mark .semicolon :: u' ∧
        ReadsScript .lookahead (u' ++ .mark .semicolon :: v) rest) := by
  obtain ⟨hs, -⟩ | ⟨first, -, hfirst⟩ | ⟨first, rest, t, rfl, hfirst, hrest⟩ := h.uncons
  · exact absurd hs (List.append_ne_nil_of_right_ne_nil _ (List.cons_ne_nil _ _))
  -- A single statement has no semicolon in it.
  · have hcount := hfirst.count_eq (.inl rfl)
    rw [List.count_append, List.count_cons_self] at hcount
    exact absurd hcount (Nat.succ_ne_zero _)
  -- The first statement ends at the first semicolon, which is the one after `u` or one before it.
  · obtain ⟨w, hw⟩ := hfirst.split
    rw [hw] at hfirst
    refine ⟨first, rest, w, rfl, fun t => hfirst.close (.semicolon t), ?_⟩
    obtain ⟨rfl, rfl⟩ | ⟨u', rfl, rfl⟩ := append_semicolon_eq (hfirst.notMem (.inl rfl)) hw
    · exact .inl ⟨rfl, hrest⟩
    · exact .inr ⟨u', rfl, hrest⟩

/-- Scripts with a semicolon between them are one behind the other. -/
theorem append_semicolon {u v : List Token} {script rest : Script}
    (h : ReadsScript .lookahead (u ++ [.mark .semicolon]) script)
    (hrest : ReadsScript .lookahead v rest) :
    ReadsScript .lookahead (u ++ .mark .semicolon :: v) (script ++ rest) := by
  induction script generalizing u with
  | nil =>
    obtain ⟨_, _, _, hnil, -⟩ := h.uncons_of_semicolon
    cases hnil
  | cons first script ih =>
    obtain ⟨_, _, w, heq, hfirst, hlater⟩ := h.uncons_of_semicolon
    cases heq
    rcases hlater with ⟨rfl, hlater⟩ | ⟨u', rfl, hlater⟩
    · rw [nil_iff.1 hlater]
      exact .next (hfirst v) hrest
    · rw [List.append_assoc, List.cons_append]
      exact .next (hfirst _) (ih hlater)

/-- A script may be cut at every semicolon. -/
theorem cut_semicolon {u v : List Token} {script : Script}
    (h : ReadsScript .lookahead (u ++ .mark .semicolon :: v) script) :
    ∃ before behind, script = before ++ behind ∧
      ReadsScript .lookahead (u ++ [.mark .semicolon]) before ∧
      ReadsScript .lookahead v behind := by
  induction script generalizing u with
  | nil =>
    obtain ⟨_, _, _, hnil, -⟩ := h.uncons_of_semicolon
    cases hnil
  | cons first script ih =>
    obtain ⟨_, _, w, heq, hfirst, hlater⟩ := h.uncons_of_semicolon
    cases heq
    rcases hlater with ⟨rfl, hlater⟩ | ⟨u', rfl, hlater⟩
    · exact ⟨[first], script, rfl, .next (hfirst []) .empty, hlater⟩
    · obtain ⟨before, behind, rfl, hbefore, hbehind⟩ := ih hlater
      refine ⟨first :: before, behind, rfl, ?_, hbehind⟩
      rw [List.append_assoc, List.cons_append]
      exact .next (hfirst _) hbefore

end ReadsScript

/-- Words behind which another script may stand: none, or such that end with a semicolon. -/
def Terminated (ws : List Token) : Prop :=
  ws = [] ∨ ∃ init, ws = init ++ [.mark .semicolon]

/-- The scripts of words one behind the other are scripts one behind the other. -/
theorem ReadsScript.append_iff {u v : List Token} (hu : Terminated u) {script : Script} :
    ReadsScript .lookahead (u ++ v) script ↔ ∃ before behind, script = before ++ behind ∧
      ReadsScript .lookahead u before ∧ ReadsScript .lookahead v behind := by
  rcases hu with rfl | ⟨init, rfl⟩
  · constructor
    · exact fun h => ⟨[], script, rfl, .empty, h⟩
    · rintro ⟨before, behind, rfl, hbefore, hbehind⟩
      rwa [nil_iff.1 hbefore]
  · rw [List.append_assoc, List.singleton_append]
    constructor
    · exact cut_semicolon
    · rintro ⟨before, behind, rfl, hbefore, hbehind⟩
      exact append_semicolon hbefore hbehind

end AssignScript
