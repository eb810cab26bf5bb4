import Mathlib.Logic.Basic
import AssignScript.Operation.Basic
import AssignScript.Proofs.Pattern.Fragment

/-!
# Full matches

To match a text from end to end, the text of a pattern is put in a group between the tests of both ends. The group
holds the pattern, and no more and no less, if the pattern stays whole in it: if it closes no group that it has not
opened, and a parenthesis behind it is not taken for a part of it.

## Main definitions

* `PatternMeaning.IsSelfContained`: texts that stay whole in a group.

## Main statements

* `PatternMeaning.Describes.valid_anchored_iff`: such a text is a pattern if and only if it is one between the tests of
  both ends;
* `PatternMeaning.Describes.matches_anchored_iff`: what such a pattern matches there;
* `matches_full`: a match of such a pattern is a full match of the pattern itself.
-/

namespace AssignScript

namespace PatternMeaning

/-- A text that stays whole in a group. -/
structure IsSelfContained (m : PatternMeaning) (pattern : String) : Prop where
  /-- It closes no group that it has not opened. -/
  opened : ∀ inside behind, pattern = inside ++ ")" ++ behind → ¬m.Closes inside
  /-- If it is a pattern, a parenthesis behind it closes a group. -/
  closed : m.Valid pattern → m.Closes pattern

variable {m : PatternMeaning} {library : PatternLibrary} {p : String}

theorem anchored_eq (p : String) : anchored p = framed [.start] p [.stop] :=
  String.toList_inj.1 (by simp [anchored, framed, Anchor.signs, Anchor.sign])

/-- What stands before the end of a group is the whole text, or a part of it that closes the group already. -/
theorem eq_or_exists_of_append {inside behind : String} (h : p ++ ")$" = inside ++ ")" ++ behind) :
    inside = p ∨ ∃ rest, p = inside ++ ")" ++ rest := by
  have hlist : p.toList ++ [')', '$'] = inside.toList ++ ')' :: behind.toList := by
    simpa using congrArg String.toList h
  rcases List.append_eq_append_iff.1 hlist with ⟨extra, hinside, hending⟩ | ⟨rest, hp, hbehind⟩
  · cases extra with
    | nil => exact .inl (String.toList_inj.1 (by rw [hinside, List.append_nil]))
    | cons c extra =>
      -- Behind the parenthesis of the group there is no other one.
      rcases extra with _ | ⟨c', extra⟩ <;> simp at hending
  · cases rest with
    | nil => exact .inl (String.toList_inj.1 (by rw [hp, List.append_nil]))
    | cons c rest =>
      obtain ⟨rfl, -⟩ := List.cons.inj hbehind
      exact .inr ⟨.ofList rest, String.toList_inj.1 (by simp [hp])⟩

namespace Describes

/-- A text that stays whole in a group is a pattern between the tests of both ends if and only if it is one itself. -/
theorem valid_anchored_iff (hm : m.Describes library) (h : m.IsSelfContained p) : m.Valid (anchored p) ↔ m.Valid p := by
  constructor
  · intro hvalid
    have hopened : m.Valid (Anchor.signs [.start] ++ "(?:" ++ (p ++ ")$")) := by
      rw [anchored_eq, framed, String.append_assoc, String.append_assoc] at hvalid
      exact hvalid
    obtain ⟨inside, behind, hrest, hinside⟩ := hm.closed [.start] _ hopened
    rcases eq_or_exists_of_append hrest with rfl | ⟨rest, hp⟩
    · exact hinside.1
    · exact absurd hinside (h.opened inside rest hp)
  · intro hp
    rw [anchored_eq]
    exact hm.valid p (h.closed hp) [.start] [.stop]

/-- Between the tests of both ends, a pattern that stays whole in a group matches what it matches from end to end. -/
theorem matches_anchored_iff (hm : m.Describes library) (h : m.Closes p) {text : List Char} {first last : Nat} :
    m.Matches (anchored p) text first last ↔ first = 0 ∧ m.Matches p text first last ∧ last = text.length := by
  rw [anchored_eq, hm.before p h, hm.behind p h, hm.group p h]
  rfl

end Describes

end PatternMeaning

open PatternMeaning

section Matches

variable [library : PatternLibrary] {m : PatternMeaning}

/-- A pattern is refused if and only if the text is none, or takes too much room. -/
theorem compilePattern_refuses (hm : m.Describes library) (text pattern : String) :
    (∃ reason, compilePattern text pattern = .error (.invalidPattern pattern reason)) ↔
      ¬m.Valid text ∨ m.TooBig text := by
  rw [← imp_iff_not_or, ← not_and_not_right, ← hm.compile text, compilePattern]
  cases library.compile text with
  | ok compiled => exact iff_of_false nofun fun h => h ⟨compiled, rfl⟩
  | error reason => exact iff_of_true ⟨reason, rfl⟩ nofun

theorem applyBinary_matches (v p : String) : applyBinary .matches (.string v) (.string p) =
    (compilePattern (anchored p) p).map fun compiled => .boolean (compiled.isMatch v) := by
  change (compilePattern (anchored p) p).bind _ = _
  cases compilePattern (anchored p) p <;> rfl

theorem replaceMatches_strings (v p : String) (replacement : Option String) :
    replaceMatches (.string v) (.string p) (replacement.map .string) = (compilePattern p p).map fun compiled =>
      .string (compiled.replaceAll v
        (.ofList (Pattern.templateOfReplacement compiled.groupCount (replacement.getD "").toList))) := by
  have hrun : replaceMatches (.string v) (.string p) (replacement.map .string) =
      (compilePattern p p).bind fun compiled => .ok (.string (compiled.replaceAll v
        (.ofList (Pattern.templateOfReplacement compiled.groupCount (replacement.getD "").toList)))) := by
    cases replacement <;> rfl
  rw [hrun]
  cases compilePattern p p <;> rfl

/-- A match of a pattern that stays whole in a group is a full match of the pattern itself, whatever the library is, if
    it keeps to the meaning of patterns. Both a match and a replacement are refused if and only if the text is no
    pattern or takes too much room, for a match between the tests of both ends. Otherwise a match says whether the
    pattern can match from the first character to the last. -/
theorem matches_full (hm : m.Describes library) (v p : String) (replacement : Option String)
    (h : m.IsSelfContained p) :
    ((∃ reason, applyBinary .matches (.string v) (.string p) = .error (.invalidPattern p reason)) ↔
      ¬m.Valid p ∨ m.TooBig (anchored p)) ∧
    ((∃ reason, replaceMatches (.string v) (.string p) (replacement.map .string) =
      .error (.invalidPattern p reason)) ↔ ¬m.Valid p ∨ m.TooBig p) ∧
    (m.Valid p → ¬m.TooBig (anchored p) → ∃ b, applyBinary .matches (.string v) (.string p) = .ok (.boolean b) ∧
      (b = true ↔ m.Matches p v.toList 0 v.toList.length)) := by
  refine ⟨?_, ?_, fun hp hroom => ?_⟩
  · rw [applyBinary_matches, ← hm.valid_anchored_iff h, ← compilePattern_refuses hm (anchored p) p]
    cases compilePattern (anchored p) p <;> simp [Except.map]
  · rw [replaceMatches_strings, ← compilePattern_refuses hm p p]
    cases compilePattern p p <;> simp [Except.map]
  · obtain ⟨compiled, hcompiled⟩ := (hm.compile (anchored p)).2 ⟨(hm.valid_anchored_iff h).2 hp, hroom⟩
    refine ⟨compiled.isMatch v, ?_, ?_⟩
    · rw [applyBinary_matches, compilePattern, hcompiled]
      rfl
    · rw [hm.isMatch _ _ hcompiled]
      simp only [hm.matches_anchored_iff (h.closed hp), exists_and_left, exists_eq_left, exists_eq_right]

end Matches

open scoped Fragment in
/-- A choice stays whole in a group. -/
theorem matches_full_choice : Fragment.meaning.IsSelfContained "a|ab" ∧ Fragment.meaning.Valid "a|ab" ∧
    ∃ b, applyBinary .matches (.string "ab") (.string "a|ab") = .ok (.boolean b) ∧
      (b = true ↔ Fragment.meaning.Matches "a|ab" "ab".toList 0 2) := by
  have hvalid : Fragment.meaning.Valid "a|ab" := rfl
  have hself : Fragment.meaning.IsSelfContained "a|ab" := {
    opened := fun inside behind h => by
      have hmem : ')' ∈ "a|ab".toList := by simp [h]
      exact absurd hmem (by decide)
    closed := fun h => Fragment.closes_iff.2 h }
  exact ⟨hself, hvalid, (matches_full Fragment.meaning_describes "ab" "a|ab" none hself).2.2 hvalid not_false⟩

open scoped Fragment in
/-- Without that, a match can be told of a text that is no pattern, which then is taken for two patterns of which one
    is tested at the start and one at the end. -/
theorem matches_not_full : ¬Fragment.meaning.Valid "a)|(?:b" ∧
    (∃ reason, replaceMatches (.string "ax") (.string "a)|(?:b") none =
      .error (.invalidPattern "a)|(?:b" reason)) ∧
    applyBinary .matches (.string "ax") (.string "a)|(?:b") = .ok (.boolean true) := by
  have hinvalid : Fragment.ends? "a)|(?:b".toList = none := rfl
  refine ⟨fun hvalid => ?_, ⟨_, rfl⟩, rfl⟩
  obtain ⟨e, he⟩ := Option.isSome_iff_exists.1 hvalid
  cases hinvalid.symm.trans he

end AssignScript
