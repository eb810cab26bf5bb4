import Mathlib.Data.Option.Basic
import AssignScript.Decimal.Numeral
import AssignScript.Proofs.Lexing.Tokens

/-!
# Numbers as tokens

A number token consists of digits, perhaps a point with digits, and perhaps an exponent. One with a point or
an exponent always has a value.

## Main definitions

* `IsNumeral`: the texts of number tokens;
* `IsNumber`: those that are written with digits behind a point.

## Main statements

* `isNumeral_of_front`: number tokens are numerals;
* `IsNumeral.exists_float`: numerals have values;
* `IsNumeral.digits_iff`: without a point and an exponent they are digits only.
-/

namespace AssignScript

open Text

/-- Digits only, and perhaps none. -/
def AreDigits (cs : List Char) : Prop := ∀ c ∈ cs, isAsciiDigit c = true

/-- Nothing, or a point with digits. -/
def IsFraction (cs : List Char) : Prop := cs = [] ∨ ∃ ds, cs = '.' :: ds ∧ AreDigits ds

/-- Nothing, or the mark of an exponent with perhaps a sign and with digits. -/
def IsExponent (cs : List Char) : Prop :=
  cs = [] ∨ ∃ mark sign ds, cs = mark :: (sign ++ ds) ∧ (mark = 'e' ∨ mark = 'E') ∧
    (sign = [] ∨ sign = ['+'] ∨ sign = ['-']) ∧ ds ≠ [] ∧ AreDigits ds

/-- Digits with perhaps a fraction and an exponent. -/
def IsNumeral (cs : List Char) : Prop :=
  ∃ whole fraction exponent, cs = whole ++ (fraction ++ exponent) ∧ whole ≠ [] ∧
    AreDigits whole ∧ IsFraction fraction ∧ IsExponent exponent

/-- Digits with perhaps a point and digits behind it, and perhaps an exponent: a number as it is written. -/
def IsNumber (cs : List Char) : Prop :=
  ∃ whole fraction exponent, cs = whole ++ (fraction ++ exponent) ∧ whole ≠ [] ∧ AreDigits whole ∧
    (fraction = [] ∨ ∃ ds, fraction = '.' :: ds ∧ ds ≠ [] ∧ AreDigits ds) ∧ IsExponent exponent

theorem isNumber_of_digits {ds : List Char} (hne : ds ≠ []) (h : AreDigits ds) : IsNumber ds :=
  ⟨ds, [], [], (List.append_nil ds).symm, hne, h, .inl rfl, .inl rfl⟩

/-- A number in decimal digits consists of digits. -/
theorem areDigits_repr (n : Nat) : AreDigits n.repr.toList := by
  intro c hc
  rw [Nat.toList_repr] at hc
  exact Nat.isDigit_of_mem_toDigits (by decide) (by decide) hc

theorem toList_repr_ne_nil (n : Nat) : n.repr.toList ≠ [] := by
  rw [Nat.toList_repr]
  exact Nat.toDigits_ne_nil

/-- A number in decimal digits is what these digits write. -/
theorem digitsValue_repr (n : Nat) : Decimal.digitsValue n.repr.toList = n := by
  rw [Nat.toList_repr]
  exact Nat.ofDigitChars_toDigits (by decide) (by decide)

/-! ### Number tokens are numerals -/

theorem take_digitRun (cs : List Char) : cs.take (digitRun cs) = cs.takeWhile isAsciiDigit :=
  (List.prefix_iff_eq_take.1 (List.takeWhile_prefix isAsciiDigit)).symm

theorem areDigits_take_digitRun (cs : List Char) : AreDigits (cs.take (digitRun cs)) := by
  rw [take_digitRun]
  exact List.all_eq_true.1 List.all_takeWhile

theorem isFraction_take (cs : List Char) : IsFraction (cs.take (fractionLength cs)) := by
  unfold fractionLength
  split
  · next ds =>
    split
    · exact .inl rfl
    · exact .inr ⟨_, rfl, areDigits_take_digitRun ds⟩
  · exact .inl rfl

/-- The digits of an exponent are there. -/
theorem take_digitRun_ne_nil {cs : List Char} (h : digitRun cs ≠ 0) :
    cs.take (digitRun cs) ≠ [] := by
  rw [take_digitRun]
  exact fun hnil => h (congrArg List.length hnil)

theorem isExponent_take (cs : List Char) : IsExponent (cs.take (exponentLength cs)) := by
  unfold exponentLength
  split
  · next mark cs =>
    split
    · next hmark =>
      split
      · next ds =>
        split
        · exact .inl rfl
        · next hne =>
          exact .inr ⟨mark, ['+'], _, rfl, hmark, by simp, take_digitRun_ne_nil hne,
            areDigits_take_digitRun ds⟩
      · next ds =>
        split
        · exact .inl rfl
        · next hne =>
          exact .inr ⟨mark, ['-'], _, rfl, hmark, by simp, take_digitRun_ne_nil hne,
            areDigits_take_digitRun ds⟩
      · split
        · exact .inl rfl
        · next hne =>
          exact .inr ⟨mark, [], _, rfl, hmark, by simp, take_digitRun_ne_nil hne,
            areDigits_take_digitRun cs⟩
    · exact .inl rfl
  · exact .inl rfl

/-- What the scanner takes for a number is a numeral. -/
theorem isNumeral_take {c : Char} {cs : List Char} (h : isAsciiDigit c = true) :
    IsNumeral ((c :: cs).take (numberLength (c :: cs))) := by
  have hwhole : digitRun (c :: cs) ≠ 0 := Nat.ne_of_gt (digitRun_pos h)
  refine ⟨_, _, _, ?_, take_digitRun_ne_nil hwhole, areDigits_take_digitRun (c :: cs),
    isFraction_take ((c :: cs).drop (digitRun (c :: cs))), isExponent_take ((c :: cs).drop
      (digitRun (c :: cs) + fractionLength ((c :: cs).drop (digitRun (c :: cs)))))⟩
  rw [numberLength, List.take_add, List.take_add, List.append_assoc]

theorem isNumeral_of_front {cs : List Char} {digits : String} {n : Nat}
    (h : front cs = .token (.number digits) n) : IsNumeral digits.toList := by
  obtain ⟨c, rest, rfl, hfront⟩ := front_eq_token h
  generalize ht : Token.number digits = t at hfront
  cases hfront with
  | number hdigit =>
    rw [Token.number.inj ht, String.toList_ofList]
    exact isNumeral_take hdigit
  | word =>
    rcases wordToken_cases (c :: rest.takeWhile isNamePart) with hw | ⟨_, hw⟩ | ⟨_, hw⟩ <;>
      cases ht.trans hw
  | mark | text | quoted => cases ht

/-! ### Numerals have values -/

theorem AreDigits.all {cs : List Char} (h : AreDigits cs) : cs.all isAsciiDigit = true :=
  List.all_eq_true.2 h

/-- What follows digits in a numeral begins with no digit. -/
theorem IsExponent.takeWhile {cs : List Char} (h : IsExponent cs) :
    cs.takeWhile isAsciiDigit = [] := by
  rcases h with rfl | ⟨mark, sign, ds, rfl, rfl | rfl, -⟩ <;> rfl

theorem IsExponent.readExponent? {cs : List Char} (h : IsExponent cs) :
    ∃ n, Decimal.readExponent? cs = some n := by
  rcases h with rfl | ⟨mark, sign, ds, rfl, hmark, hsign, hne, hds⟩
  · exact ⟨0, rfl⟩
  · have hdigits : (!ds.isEmpty && ds.all isAsciiDigit) = true := by
      rw [hds.all, Bool.and_true, Bool.not_eq_true', List.isEmpty_eq_false_iff]
      exact hne
    rcases hsign with rfl | rfl | rfl
    · simp only [Decimal.readExponent?, if_pos hmark, List.nil_append]
      split
      · next rest => exact absurd (hds '-' List.mem_cons_self) (by decide)
      · next rest => exact absurd (hds '+' List.mem_cons_self) (by decide)
      · exact ⟨_, if_pos hdigits⟩
    · exact ⟨_, (if_pos hmark).trans (if_pos hdigits)⟩
    · exact ⟨_, (if_pos hmark).trans (if_pos hdigits)⟩

/-- Digits are told apart from what follows them. -/
theorem AreDigits.span {ds rest : List Char} (h : AreDigits ds)
    (hrest : rest.takeWhile isAsciiDigit = []) :
    (ds ++ rest).takeWhile isAsciiDigit = ds ∧ (ds ++ rest).dropWhile isAsciiDigit = rest := by
  have hdrop := List.takeWhile_append_dropWhile (p := isAsciiDigit) (l := rest)
  rw [hrest, List.nil_append] at hdrop
  rw [List.takeWhile_append_of_pos h, List.dropWhile_append_of_pos h, hrest, hdrop, List.append_nil]
  exact ⟨rfl, rfl⟩

theorem IsNumeral.readNumeral? {cs : List Char} (h : IsNumeral cs) :
    ∃ d, Decimal.readNumeral? cs = some d := by
  obtain ⟨whole, fraction, exponent, rfl, hne, hwhole, hfraction, hexponent⟩ := h
  obtain ⟨n, hn⟩ := hexponent.readExponent?
  have hwritten : ∀ ds : List Char, (!(whole ++ ds).isEmpty) = true := by
    intro ds
    rw [Bool.not_eq_true', List.isEmpty_eq_false_iff]
    exact List.append_ne_nil_of_left_ne_nil hne ds
  -- What follows the first digits is no digit, so these are told apart from it.
  rcases hfraction with rfl | ⟨ds, rfl, hds⟩
  · obtain ⟨htake, hdrop⟩ := hwhole.span hexponent.takeWhile
    have hpoint : ∀ ds, exponent ≠ '.' :: ds := by
      rintro ds rfl
      obtain h | ⟨mark, sign, ds', h, rfl | rfl, -⟩ := hexponent <;> cases h
    refine ⟨⟨Decimal.digitsValue (whole ++ []), n - 0⟩, ?_⟩
    simp only [Decimal.readNumeral?, List.nil_append, htake, hdrop]
    rw [guard, if_pos (hwritten []), hn]
    rfl
  · have hrest : ('.' :: (ds ++ exponent)).takeWhile isAsciiDigit = [] := rfl
    obtain ⟨htake, hdrop⟩ := hwhole.span hrest
    obtain ⟨htake', hdrop'⟩ := hds.span hexponent.takeWhile
    refine ⟨⟨Decimal.digitsValue (whole ++ ds), n - ds.length⟩, ?_⟩
    simp only [Decimal.readNumeral?, List.cons_append, htake, hdrop, htake', hdrop']
    rw [guard, if_pos (hwritten ds), hn]
    rfl

/-- A numeral has a value: neither is it signed nor is it a word. -/
theorem IsNumeral.exists_float {digits : String} (h : IsNumeral digits.toList) :
    ∃ x, Decimal.readFloat? digits = some x := by
  obtain ⟨d, hd⟩ := h.readNumeral?
  obtain ⟨whole, fraction, exponent, hcs, hne, hwhole, -⟩ := h
  obtain ⟨c, whole, rfl⟩ := List.exists_cons_of_ne_nil hne
  have hc : isAsciiDigit c = true := hwhole c List.mem_cons_self
  rw [List.cons_append] at hcs
  -- A numeral begins with a digit, and so with no sign.
  have hsign : ∀ cs, c :: (whole ++ (fraction ++ exponent)) ≠ '-' :: cs ∧
      c :: (whole ++ (fraction ++ exponent)) ≠ '+' :: cs := by
    intro cs
    constructor <;>
    · rintro ⟨⟩
      exact absurd hc (by decide)
  rw [Decimal.readFloat?, hcs, Decimal.readSigned.eq_def]
  split
  · next cs h => exact absurd h (hsign cs).1
  · next cs h => exact absurd h (hsign cs).2
  · split
    -- Whether or not it is a word for a value, it has one.
    · next x _ => exact ⟨x, rfl⟩
    · rw [← hcs, hd]
      exact ⟨_, rfl⟩

/-- A numeral is digits only if it has no point and no mark of an exponent. -/
theorem IsNumeral.digits_iff {cs : List Char} (h : IsNumeral cs) :
    (∀ c ∈ cs, c ≠ '.' ∧ c ≠ 'e' ∧ c ≠ 'E') ↔ AreDigits cs := by
  obtain ⟨whole, fraction, exponent, rfl, -, hwhole, hfraction, hexponent⟩ := h
  constructor
  · intro hplain
    rcases hfraction with rfl | ⟨ds, rfl, -⟩
    · rcases hexponent with rfl | ⟨mark, sign, ds, rfl, hmark, -⟩
      · rwa [List.append_nil, List.append_nil]
      · have hne := hplain mark (by simp)
        exact absurd hmark (not_or.2 hne.2)
    · exact absurd rfl (hplain '.' (by simp)).1
  · intro hdigits c hc
    refine ⟨?_, ?_, ?_⟩ <;>
    · rintro rfl
      exact absurd (hdigits _ hc) (by decide)

end AssignScript
