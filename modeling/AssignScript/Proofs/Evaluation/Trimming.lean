import Mathlib.Data.List.DropRight
import AssignScript.Operation.Basic

/-!
# Trimming of texts

The ends of a text can be trimmed in any order, also where everything could be removed from either of them. What the
one-sided trims remove the two-sided one removes too, so that they make no difference to it.

## Main definitions

* `TrimmedTo`: a piece of some characters with what has been removed around it;
* `UnaryOp.Maps`: an operation that replaces the characters of a text.

## Main statements

* `Text.trimRight_trimLeft`: the ends of a text can be trimmed in any order;
* `Text.trimLeft_absorbs`, `Text.trimLeft_of_trimmed`: a trim of more makes a trim of less superfluous, before it and
  after it;
* `trimmedTo_trimRight_trimLeft`: what is removed from the ends, and what is left;
* `trims_algebra`: how the three trims fit together.
-/

namespace AssignScript

namespace Text

section Trims

variable {p q : Char → Bool}

theorem trimLeft_cons_of_pos {c : Char} (hc : p c = true) (cs : List Char) :
    trimLeft p (c :: cs) = trimLeft p cs :=
  List.dropWhile_cons_of_pos hc

theorem trimLeft_cons_of_neg {c : Char} (hc : ¬ p c = true) (cs : List Char) : trimLeft p (c :: cs) = c :: cs :=
  List.dropWhile_cons_of_neg hc

/-- To trim the back is to trim the front of the text read backwards. -/
theorem trimRight_eq_reverse (p : Char → Bool) (cs : List Char) : trimRight p cs = (trimLeft p cs.reverse).reverse :=
  rfl

/-- The first character is removed from the back only if everything behind it is. -/
theorem trimRight_cons (p : Char → Bool) (c : Char) (cs : List Char) :
    trimRight p (c :: cs) = if trimRight p cs = [] ∧ p c = true then [] else c :: trimRight p cs := by
  rw [trimRight, trimRight, List.reverse_cons, List.dropWhile_append]
  cases hrest : cs.reverse.dropWhile p with
  | nil => by_cases hc : p c = true <;> simp [hc]
  | cons d ds => simp

/-- The ends can be trimmed in any order. -/
theorem trimRight_trimLeft (p q : Char → Bool) (cs : List Char) :
    trimRight q (trimLeft p cs) = trimLeft p (trimRight q cs) := by
  induction cs with
  | nil => rfl
  | cons c cs ih =>
    rw [trimRight_cons]
    -- If the front is trimmed of the first character, it does not matter whether the back has come that far.
    by_cases hc : p c = true
    · rw [trimLeft_cons_of_pos hc, ih]
      split
      · next hall => rw [hall.1]
      · rw [trimLeft_cons_of_pos hc]
    · rw [trimLeft_cons_of_neg hc, trimRight_cons]
      split
      · rfl
      · rw [trimLeft_cons_of_neg hc]

/-- A trim of less makes no difference before a trim of more. -/
theorem trimLeft_absorbs (hpq : ∀ c, p c = true → q c = true) (cs : List Char) :
    trimLeft q (trimLeft p cs) = trimLeft q cs := by
  induction cs with
  | nil => rfl
  | cons c cs ih =>
    by_cases hc : p c = true
    · rw [trimLeft_cons_of_pos hc, trimLeft_cons_of_pos (hpq c hc), ih]
    · rw [trimLeft_cons_of_neg hc]

/-- A trim of less has nothing to remove after a trim of more. -/
theorem trimLeft_of_trimmed (hpq : ∀ c, p c = true → q c = true) (cs : List Char) :
    trimLeft p (trimLeft q cs) = trimLeft q cs := by
  induction cs with
  | nil => rfl
  | cons c cs ih =>
    by_cases hc : q c = true
    · rw [trimLeft_cons_of_pos hc, ih]
    · rw [trimLeft_cons_of_neg hc, trimLeft_cons_of_neg fun hp => hc (hpq c hp)]

theorem trimRight_absorbs (hpq : ∀ c, p c = true → q c = true) (cs : List Char) :
    trimRight q (trimRight p cs) = trimRight q cs := by
  rw [trimRight_eq_reverse, trimRight_eq_reverse p, List.reverse_reverse, trimLeft_absorbs hpq, trimRight_eq_reverse]

theorem trimRight_of_trimmed (hpq : ∀ c, p c = true → q c = true) (cs : List Char) :
    trimRight p (trimRight q cs) = trimRight q cs := by
  rw [trimRight_eq_reverse, trimRight_eq_reverse q, List.reverse_reverse, trimLeft_of_trimmed hpq]

/-- What is trimmed at the front does not begin with a character that is removed there. -/
theorem head?_trimLeft (p : Char → Bool) (cs : List Char) : ∀ c ∈ (trimLeft p cs).head?, p c = false := by
  intro c hc
  rw [trimLeft, Option.mem_def] at hc
  have hfirst := List.head?_dropWhile_not p cs
  rwa [hc] at hfirst

theorem getLast?_trimRight (p : Char → Bool) (cs : List Char) : ∀ c ∈ (trimRight p cs).getLast?, p c = false := by
  intro c hc
  rw [trimRight_eq_reverse, List.getLast?_reverse] at hc
  exact head?_trimLeft p cs.reverse c hc

end Trims

/-! ### Trims of both ends -/

section Both

variable {p q : Char → Bool}

/-- A trim of less at one end makes no difference before a trim of more at both. -/
theorem trimBoth_trimLeft (hpq : ∀ c, p c = true → q c = true) (cs : List Char) :
    trimBoth q (trimLeft p cs) = trimBoth q cs := by
  rw [trimBoth, trimBoth, trimLeft_absorbs hpq]

theorem trimBoth_trimRight (hpq : ∀ c, p c = true → q c = true) (cs : List Char) :
    trimBoth q (trimRight p cs) = trimBoth q cs := by
  rw [trimBoth, ← trimRight_trimLeft, trimRight_absorbs hpq, trimBoth]

/-- A trim of less at one end has nothing to remove after a trim of more at both. -/
theorem trimLeft_trimBoth (hpq : ∀ c, p c = true → q c = true) (cs : List Char) :
    trimLeft p (trimBoth q cs) = trimBoth q cs := by
  rw [trimBoth, ← trimRight_trimLeft, trimLeft_of_trimmed hpq]

theorem trimRight_trimBoth (hpq : ∀ c, p c = true → q c = true) (cs : List Char) :
    trimRight p (trimBoth q cs) = trimBoth q cs := by
  rw [trimBoth, trimRight_of_trimmed hpq]

theorem trimBoth_trimBoth (p : Char → Bool) (cs : List Char) : trimBoth p (trimBoth p cs) = trimBoth p cs := by
  rw [trimBoth, trimLeft_trimBoth (fun _ => id), trimRight_trimBoth fun _ => id]

end Both

end Text

open Text

/-! ### What is removed -/

/-- A piece of some characters, around which characters of one class have been removed at the front and of another at
    the back, until there were no more. -/
structure TrimmedTo (front back : Char → Bool) (cs piece : List Char) : Prop where
  removed : ∃ before after, cs = before ++ piece ++ after ∧ (∀ c ∈ before, front c = true) ∧
    ∀ c ∈ after, back c = true
  first : ∀ c ∈ piece.head?, front c = false
  last : ∀ c ∈ piece.getLast?, back c = false

/-- The class without characters: an end that is not trimmed. -/
def noCharacter (_ : Char) : Bool :=
  false

theorem trimmedTo_trimRight_trimLeft (p q : Char → Bool) (cs : List Char) :
    TrimmedTo p q cs (trimRight q (trimLeft p cs)) where
  removed := by
    refine ⟨cs.takeWhile p, (cs.dropWhile p).rtakeWhile q, ?_, fun c => List.mem_takeWhile_imp,
      fun c => List.mem_rtakeWhile_imp⟩
    have hback : trimRight q (cs.dropWhile p) ++ (cs.dropWhile p).rtakeWhile q = cs.dropWhile p :=
      List.rdropWhile_append_rtakeWhile
    rw [trimLeft, List.append_assoc, hback, List.takeWhile_append_dropWhile]
  first := by
    rw [trimRight_trimLeft]
    exact head?_trimLeft p _
  last := getLast?_trimRight q _

theorem trimLeft_noCharacter (cs : List Char) : trimLeft noCharacter cs = cs := by
  cases cs <;> rfl

theorem trimRight_noCharacter (cs : List Char) : trimRight noCharacter cs = cs := by
  rw [trimRight_eq_reverse, trimLeft_noCharacter, List.reverse_reverse]

theorem trimmedTo_trimLeft (p : Char → Bool) (cs : List Char) : TrimmedTo p noCharacter cs (trimLeft p cs) := by
  have h := trimmedTo_trimRight_trimLeft p noCharacter cs
  rwa [trimRight_noCharacter] at h

theorem trimmedTo_trimRight (p : Char → Bool) (cs : List Char) : TrimmedTo noCharacter p cs (trimRight p cs) := by
  have h := trimmedTo_trimRight_trimLeft noCharacter p cs
  rwa [trimLeft_noCharacter] at h

/-! ### Operations on texts -/

/-- An operation that replaces the characters of a text. -/
def UnaryOp.Maps (op : UnaryOp) (f : List Char → List Char) : Prop :=
  ∀ s, applyUnary op (.string s) = .ok (mapText f s)

theorem maps_trim : UnaryOp.trim.Maps (trimBoth isControlOrSpace) := fun _ => rfl

theorem maps_ltrim : UnaryOp.ltrim.Maps (trimLeft isAsciiBlank) := fun _ => rfl

theorem maps_rtrim : UnaryOp.rtrim.Maps (trimRight isAsciiBlank) := fun _ => rfl

section Maps

variable {op op' : UnaryOp} {f g : List Char → List Char}

/-- One operation after another replaces the characters twice. -/
theorem UnaryOp.Maps.bind (hf : op.Maps f) (hg : op'.Maps g) (s : String) :
    applyUnary op (.string s) >>= applyUnary op' = .ok (.string (.ofList (g (f s.toList)))) := by
  rw [hf s]
  show applyUnary op' (.string (.ofList (f s.toList))) = _
  rw [hg, mapText, String.toList_ofList]

theorem UnaryOp.Maps.trimmedTo {front back : Char → Bool} {s : String} (hf : op.Maps f)
    (h : TrimmedTo front back s.toList (f s.toList)) :
    ∃ t, applyUnary op (.string s) = .ok (.string t) ∧ TrimmedTo front back s.toList t.toList :=
  ⟨.ofList (f s.toList), hf s, by rwa [String.toList_ofList]⟩

end Maps

/-- The one-sided trims remove nothing that the two-sided one keeps. -/
theorem isControlOrSpace_of_isAsciiBlank (c : Char) (h : isAsciiBlank c = true) : isControlOrSpace c = true := by
  simp only [isAsciiBlank, Bool.or_eq_true, beq_iff_eq, or_assoc] at h
  rcases h with rfl | rfl | rfl | rfl | rfl <;> rfl

/-- The three trims fit together. The one-sided ones commute, each trim has nothing left to do the second time, and
    the two-sided one gives what it gives with or without a one-sided one before or after it. What each of them gives is
    a piece of the text: around it only characters of its own class have been removed, at its own ends, and the piece
    neither begins nor ends with such a character there. -/
theorem trims_algebra (s : String) :
    (applyUnary .ltrim (.string s) >>= applyUnary .rtrim) = (applyUnary .rtrim (.string s) >>= applyUnary .ltrim) ∧
    (applyUnary .ltrim (.string s) >>= applyUnary .ltrim) = applyUnary .ltrim (.string s) ∧
    (applyUnary .rtrim (.string s) >>= applyUnary .rtrim) = applyUnary .rtrim (.string s) ∧
    (applyUnary .trim (.string s) >>= applyUnary .trim) = applyUnary .trim (.string s) ∧
    (applyUnary .ltrim (.string s) >>= applyUnary .trim) = applyUnary .trim (.string s) ∧
    (applyUnary .rtrim (.string s) >>= applyUnary .trim) = applyUnary .trim (.string s) ∧
    (applyUnary .trim (.string s) >>= applyUnary .ltrim) = applyUnary .trim (.string s) ∧
    (applyUnary .trim (.string s) >>= applyUnary .rtrim) = applyUnary .trim (.string s) ∧
    (∃ t, applyUnary .trim (.string s) = .ok (.string t) ∧
      TrimmedTo isControlOrSpace isControlOrSpace s.toList t.toList) ∧
    (∃ t, applyUnary .ltrim (.string s) = .ok (.string t) ∧ TrimmedTo isAsciiBlank noCharacter s.toList t.toList) ∧
    ∃ t, applyUnary .rtrim (.string s) = .ok (.string t) ∧ TrimmedTo noCharacter isAsciiBlank s.toList t.toList := by
  have hclass := isControlOrSpace_of_isAsciiBlank
  refine ⟨?_, ?_, ?_, ?_, ?_, ?_, ?_, ?_, ?_, ?_, ?_⟩
  · rw [maps_ltrim.bind maps_rtrim, maps_rtrim.bind maps_ltrim, trimRight_trimLeft]
  · rw [maps_ltrim.bind maps_ltrim, trimLeft_absorbs fun _ => id]
    rfl
  · rw [maps_rtrim.bind maps_rtrim, trimRight_absorbs fun _ => id]
    rfl
  · rw [maps_trim.bind maps_trim, trimBoth_trimBoth]
    rfl
  · rw [maps_ltrim.bind maps_trim, trimBoth_trimLeft hclass]
    rfl
  · rw [maps_rtrim.bind maps_trim, trimBoth_trimRight hclass]
    rfl
  · rw [maps_trim.bind maps_ltrim, trimLeft_trimBoth hclass]
    rfl
  · rw [maps_trim.bind maps_rtrim, trimRight_trimBoth hclass]
    rfl
  · exact maps_trim.trimmedTo (trimmedTo_trimRight_trimLeft _ _ _)
  · exact maps_ltrim.trimmedTo (trimmedTo_trimLeft _ _)
  · exact maps_rtrim.trimmedTo (trimmedTo_trimRight _ _)

end AssignScript
