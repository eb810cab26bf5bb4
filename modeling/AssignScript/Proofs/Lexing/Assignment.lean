import Mathlib.Data.List.TakeWhile
import AssignScript.Proofs.Lexing.Layout

/-!
# Words behind a target

A name and the assignment mark in front of a text add two tokens in front of those of the text. The tokens of
the text stay as they are, at the places that they then have.

## Main definitions

* `Position.behind`: the places of a text that begins somewhere else;
* `IsPlainName`: names that are read as themselves, without quotes.

## Main statements

* `Position.carries_behind`: places behind the start of the text move along with it;
* `tokenize_target`: the tokens of a text behind a target.
-/

namespace AssignScript

open Text

namespace Position

/-- A place of a text, where that text begins at `p`. -/
def behind (p q : Position) : Position :=
  ⟨p.line + q.line - 1, if q.line = 1 then p.column + q.column - 1 else q.column, p.offset + q.offset⟩

theorem behind_start (p : Position) : p.behind start = p := by
  simp only [behind, start, if_pos, Nat.add_sub_cancel, Nat.add_zero]

theorem behind_step (p : Position) {q : Position} (c : Char) (hline : 1 ≤ q.line)
    (hcolumn : q.line = 1 → 1 ≤ q.column) : p.behind (q.step c) = (p.behind q).step c := by
  by_cases hc : c = '\n'
  · have hne : q.line + 1 ≠ 1 := by omega
    simp only [step, if_pos hc, behind, if_neg hne, mk.injEq, true_and]
    omega
  · simp only [step, if_neg hc, behind, mk.injEq, true_and]
    by_cases hfirst : q.line = 1
    · have hle := hcolumn hfirst
      simp only [if_pos hfirst]
      omega
    · simp only [if_neg hfirst, true_and]
      omega

theorem carries_behind (p : Position) : Carries p.behind start := by
  -- Lines and columns are counted from one, in the first line as in all others.
  suffices h : ∀ cs q, 1 ≤ q.line → (q.line = 1 → 1 ≤ q.column) →
      p.behind (q.after cs) = (p.behind q).after cs from
    fun cs => h cs start (Nat.le_refl _) fun _ => Nat.le_refl _
  intro cs
  induction cs with
  | nil =>
    intros
    rfl
  | cons c cs ih =>
    intro q hline hcolumn
    rw [after_cons, after_cons, ← behind_step p c hline hcolumn]
    by_cases hc : c = '\n'
    · simp only [step, if_pos hc] at ih ⊢
      exact ih _ (by simp only; omega) (by simp only; omega)
    · simp only [step, if_neg hc] at ih ⊢
      exact ih _ hline fun _ => Nat.le_add_left _ _

end Position

/-! ### Plain names -/

/-- A name that is read as itself when it stands alone, without quotes. -/
def IsPlainName (name : String) : Prop :=
  ∃ ts, tokenize name = .ok ts ∧ ts.map PlacedToken.token = [.identifier name, .endOfInput]

theorem quotedName?_length {cs name : List Char} {n : Nat} (h : quotedName? cs = some (name, n)) :
    name.length + 1 = n := by
  fun_induction quotedName? cs generalizing name n with
  | case1 => cases h
  | case2 cs =>
    cases h
    rfl
  | case3 c cs _ ih =>
    obtain ⟨⟨content, m⟩, hr, ⟨⟩⟩ := Option.map_eq_some_iff.1 h
    rw [List.length_cons, ih hr]

/-- A bare word that is a name is the name that it spells. -/
theorem toList_of_wordToken {word : List Char} {name : String} (h : wordToken word = .identifier name) :
    name.toList = word := by
  unfold wordToken at h
  simp only at h
  split at h
  · cases h
  · split at h <;> cases h
    exact String.toList_ofList

namespace IsPlainName

variable {name : String}

/-- A plain name is a letter or an underscore with letters, numerals and underscores behind it, and no keyword. -/
theorem spelled (h : IsPlainName name) :
    IsWord name.toList ∧ wordToken name.toList = .identifier name := by
  obtain ⟨ts, hts, hwords⟩ := h
  obtain ⟨t, c', hnext, ⟨-, rfl⟩ | ⟨-, ts', -, rfl⟩⟩ := Cursor.tokens_eq_ok hts
  · exact nomatch (List.cons.inj hwords).2
  · have ht : t.token = .identifier name := (List.cons.inj hwords).1
    obtain ⟨n, hgap, ⟨-, rfl, -⟩ | ⟨length, hfront, -⟩⟩ := Cursor.next_eq_ok hnext
    · cases ht
    · change gap name.toList = .clear n at hgap
      change front (name.toList.drop n) = .token t.token length at hfront
      rw [ht] at hfront
      obtain ⟨c, rest, hrest, hkind⟩ := front_eq_token hfront
      have hlength : name.toList.length = n + (rest.length + 1) := by
        have hdrop := congrArg List.length hrest
        rw [List.length_drop, List.length_cons] at hdrop
        omega
      -- A name in quotes is shorter than what it is read from.
      generalize hw : Token.identifier name = w at hkind
      cases hkind with
      | mark | text | number => cases hw
      | @quoted quoted m _ hr =>
        cases hw
        have hle := quotedName?_length_le hr
        have hname := quotedName?_length hr
        rw [String.toList_ofList] at hlength
        omega
      | word hstart =>
        have hname := toList_of_wordToken hw.symm
        have hsame : (rest.takeWhile isNamePart).length = n + rest.length := by
          rw [hname, List.length_cons] at hlength
          omega
        have hle := (List.takeWhile_sublist isNamePart (l := rest)).length_le
        obtain rfl : n = 0 := by omega
        have hall : rest.takeWhile isNamePart = rest :=
          (List.takeWhile_sublist isNamePart).eq_of_length (by omega)
        rw [hall] at hname
        have hparts : ∀ d ∈ rest, isNamePart d = true := by
          intro d hd
          rw [← hall] at hd
          exact List.mem_takeWhile_imp hd
        rw [hname]
        exact ⟨⟨c, rest, rfl, hstart, hparts⟩, by rw [hall]⟩

end IsPlainName

/-! ### Behind a target -/

/-- The tokens of a text behind a plain name and the assignment mark. -/
theorem tokenize_target {name text : String} {ts : List PlacedToken} (h : IsPlainName name)
    (hts : tokenize text = .ok ts) : ∃ t u, t.token = .identifier name ∧ u.token = .mark .assign ∧
      tokenize (name ++ " := " ++ text) =
        .ok (t :: u :: ts.map (.mapPlaces (Position.start.after (name ++ " := ").toList).behind)) := by
  obtain ⟨hname, hword⟩ := h.spelled
  have hchars : (name ++ " := " ++ text).toList =
      name.toList ++ ' ' :: ([':', '='] ++ ' ' :: text.toList) := by
    rw [String.toList_append, String.toList_append, List.append_assoc]
    rfl
  have hplace : (((Position.start.after name.toList).step ' ').after [':', '=']).step ' ' =
      Position.start.after (name ++ " := ").toList := by
    rw [String.toList_append, Position.after_append]
    rfl
  -- The text itself stands behind the last blank.
  have htext : (Cursor.mk text.toList (Position.start.after (name ++ " := ").toList)).tokens =
      .ok (ts.map (.mapPlaces (Position.start.after (name ++ " := ").toList).behind)) := by
    have hmove := Cursor.tokens_mapPlace (c := Cursor.ofText text.toList)
      (Position.carries_behind (Position.start.after (name ++ " := ").toList))
    rw [tokenize] at hts
    rw [hts] at hmove
    simp only [Cursor.mapPlace, Cursor.ofText, Position.behind_start] at hmove
    exact hmove
  have hfront : front (name.toList ++ ' ' :: ([':', '='] ++ ' ' :: text.toList)) =
      .token (.identifier name) name.toList.length := by
    rw [← hword]
    exact front_word hname (.inr ⟨' ', _, rfl, by decide⟩)
  have hassign : gap ([':', '='] ++ ' ' :: text.toList) = .clear 0 := gap_cons_of_ne (by decide) _
  refine ⟨⟨.identifier name, .start, Position.start.after name.toList⟩, ⟨.mark .assign,
    (Position.start.after name.toList).step ' ', ((Position.start.after name.toList).step ' ').after [':', '=']⟩,
    rfl, rfl, ?_⟩
  rw [tokenize, hchars, Cursor.ofText, Cursor.tokens_word (gap_word hname _) hfront, Cursor.tokens_blank (by decide),
    Cursor.tokens_word hassign rfl, Cursor.tokens_blank (by decide), hplace, htext]
  rfl

end AssignScript
