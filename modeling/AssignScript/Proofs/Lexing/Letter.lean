import AssignScript.Proofs.Lexing.Tokens

/-!
# Letters and blanks

No letter is a blank. Below U+0080 that is arithmetic; from there on the ranges of the letters are gone through
once, and none of them meets a blank.

## Main definitions

* `wideBlanks`: the blanks from U+0080 on;
* `meetsNoBlank`: the ranges of a line that stay clear of them.

## Main statements

* `RangeTable.exists_range`: what a table contains lies in a range of one of its lines;
* `isBlank_of_isNameStart`: what begins a name is no blank;
* `gap_of_isNameStart`: nothing is passed over before a name.
-/

namespace AssignScript

namespace Text

/-! ### What a table contains -/

/-- The search by halving finds only what lies in a range. -/
theorem RangeTable.exists_of_holdsWithin {ranges : Array (Nat × Nat)} {n lo hi : Nat}
    (h : holdsWithin ranges n lo hi = true) : ∃ r ∈ ranges, r.1 ≤ n ∧ n ≤ r.2 := by
  fun_induction holdsWithin ranges n lo hi with
  | case1 lo hi _ mid hnone => cases h
  | case2 lo hi _ mid first last hmid hlow ih => exact ih h
  | case3 lo hi _ mid first last hmid hlow hhigh ih => exact ih h
  | case4 lo hi _ mid first last hmid hlow hhigh =>
    refine ⟨(first, last), Array.mem_of_getElem? hmid, ?_, ?_⟩
    · exact Nat.le_of_not_lt hlow
    · exact Nat.le_of_not_lt hhigh
  | case5 lo hi hle => cases h

/-- What a table contains lies in a range of one of its lines. -/
theorem RangeTable.exists_range {lines : List String} {n : Nat} (h : (ofLines lines).containsCode n = true) :
    ∃ line ∈ lines, ∃ r ∈ rangesOf line.toList, r.1 ≤ n ∧ n ≤ r.2 := by
  obtain ⟨r, hr, hn⟩ := exists_of_holdsWithin h
  rw [ofLines, List.mem_toArray] at hr
  obtain ⟨line, hline, hr⟩ := List.mem_flatMap.1 hr
  exact ⟨line, hline, r, hr, hn⟩

/-! ### Blanks and the ranges of letters -/

/-- The blanks from U+0080 on, as ranges. -/
def wideBlanks : List (Nat × Nat) :=
  [(0x85, 0x85), (0xA0, 0xA0), (0x1680, 0x1680), (0x2000, 0x200A), (0x2028, 0x2029), (0x202F, 0x202F),
    (0x205F, 0x205F), (0x3000, 0x3000)]

theorem isBlank_cases {c : Char} (h : isBlank c = true) :
    (9 ≤ c.toNat ∧ c.toNat ≤ 13 ∨ c.toNat = 32) ∨ ∃ b ∈ wideBlanks, b.1 ≤ c.toNat ∧ c.toNat ≤ b.2 := by
  simp only [isBlank, Bool.or_eq_true, Bool.and_eq_true, decide_eq_true_eq, beq_iff_eq] at h
  simp only [wideBlanks, List.mem_cons, List.not_mem_nil, or_false, exists_eq_or_imp, exists_eq_left]
  omega

/-- All ranges of a line lie between the blanks. -/
def meetsNoBlank (line : List Char) : Bool :=
  (RangeTable.rangesOf line).all fun r => wideBlanks.all fun b => r.2 < b.1 || b.2 < r.1

/-- A line is gone through character by character, without reading it from its bytes first. -/
theorem meetsNoBlank_ofList {cs : List Char} (h : meetsNoBlank cs = true) :
    meetsNoBlank (String.ofList cs).toList = true := by
  rwa [String.toList_ofList]

theorem alphabetic_meetsNoBlank :
    ∃ lines, Property.alphabetic = .ofLines lines ∧ ∀ line ∈ lines, meetsNoBlank line.toList = true := by
  refine ⟨_, rfl, ?_⟩
  repeat refine List.forall_mem_cons.2 ⟨meetsNoBlank_ofList (by decide +kernel), ?_⟩
  exact nofun

theorem alphabetic_of_wideBlank {n : Nat} {b : Nat × Nat} (hb : b ∈ wideBlanks) (hlow : b.1 ≤ n)
    (hhigh : n ≤ b.2) : Property.alphabetic.containsCode n = false := by
  obtain ⟨lines, hlines, hclear⟩ := alphabetic_meetsNoBlank
  rw [hlines, Bool.eq_false_iff]
  intro h
  obtain ⟨line, hline, r, hr, hfirst, hlast⟩ := RangeTable.exists_range h
  have hapart := List.all_eq_true.1 (List.all_eq_true.1 (hclear line hline) r hr) b hb
  simp only [Bool.or_eq_true, decide_eq_true_eq] at hapart
  omega

theorem isBlank_of_isLetter {c : Char} (h : isLetter c = true) : isBlank c = false := by
  rw [Bool.eq_false_iff]
  intro hblank
  rcases isBlank_cases hblank with hlow | ⟨b, hb, hfirst, hlast⟩
  · have hascii : isAsciiLetter c = true := by
      rw [isLetter, if_pos (by omega)] at h
      exact h
    simp only [isAsciiLetter, Bool.or_eq_true, Bool.and_eq_true, decide_eq_true_eq, Char.le_def,
      UInt32.le_iff_toNat_le] at hascii
    have hA : 'A'.val.toNat = 65 := rfl
    have ha : 'a'.val.toNat = 97 := rfl
    have hc : c.val.toNat = c.toNat := rfl
    omega
  · have hwide : ¬ c.toNat < 0x80 := by
      have hall : ∀ b ∈ wideBlanks, 0x80 ≤ b.1 := by decide
      have hle := hall b hb
      omega
    rw [isLetter, if_neg hwide, RangeTable.contains, alphabetic_of_wideBlank hb hfirst hlast] at h
    cases h

end Text

open Text

/-- What begins a name is no blank. -/
theorem isBlank_of_isNameStart {c : Char} (h : isNameStart c = true) : isBlank c = false := by
  rw [isNameStart, Bool.or_eq_true, beq_iff_eq] at h
  rcases h with h | rfl
  · exact isBlank_of_isLetter h
  · decide

/-- There is no gap before a name. -/
theorem gap_of_isNameStart {c : Char} (h : isNameStart c = true) (cs : List Char) :
    gap (c :: cs) = .clear 0 := by
  have hslash : c ≠ '/' := by
    rintro rfl
    exact absurd h (by decide)
  exact gap_of_not_blank hslash (isBlank_of_isNameStart h) cs

end AssignScript
