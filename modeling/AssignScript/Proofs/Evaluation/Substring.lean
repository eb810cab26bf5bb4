import AssignScript.Proofs.Evaluation.WholeNumber

/-!
# Pieces of texts

The piece of a text between two offsets is there exactly if the offsets are in order within the text. It is as long as
they are apart, pieces that meet make up the piece of both, and the piece of a piece is a piece of the text.

## Main definitions

* `charsBetween`: some of the characters of a list;
* `Within`: offsets in order within a text;
* `substr`: the piece of a value between two offsets.

## Main statements

* `charsBetween_append`, `charsBetween_charsBetween`: how the characters between offsets fit together;
* `substr_eq`: what the piece of a text is;
* `substr_algebra`: when there is a piece, how long it is, and how pieces fit together.
-/

namespace AssignScript

/-! ### Characters between offsets -/

/-- The characters from one offset up to another. -/
def charsBetween (cs : List Char) (first last : Nat) : List Char :=
  (cs.take last).drop first

section Characters

variable {cs : List Char} {a b c d m : Nat}

theorem length_charsBetween (h : b ≤ cs.length) : (charsBetween cs a b).length = b - a := by
  rw [charsBetween, List.length_drop, List.length_take, Nat.min_eq_left h]

theorem charsBetween_all (cs : List Char) : charsBetween cs 0 cs.length = cs := by
  rw [charsBetween, List.take_length, List.drop_zero]

/-- Pieces that meet make up one piece. -/
theorem charsBetween_append (ham : a ≤ m) (hmb : m ≤ b) :
    charsBetween cs a m ++ charsBetween cs m b = charsBetween cs a b := by
  obtain ⟨k, rfl⟩ := Nat.exists_eq_add_of_le ham
  obtain ⟨l, rfl⟩ := Nat.exists_eq_add_of_le hmb
  rw [charsBetween, charsBetween, charsBetween, ← List.take_drop, ← List.take_drop, Nat.add_assoc, ← List.take_drop,
    ← List.drop_drop, ← List.take_add]

/-- A piece of a piece is a piece of the whole. -/
theorem charsBetween_charsBetween (h : a + d ≤ b) :
    charsBetween (charsBetween cs a b) c d = charsBetween cs (a + c) (a + d) := by
  rw [charsBetween, charsBetween, charsBetween, List.take_drop, List.take_take, Nat.min_eq_left h, List.drop_drop]

end Characters

/-! ### Pieces of a text -/

/-- Offsets in order within a text. -/
def Within (s : String) (a b : Int64) : Prop :=
  0 ≤ a.toInt ∧ a.toInt ≤ b.toInt ∧ b.toInt ≤ s.toList.length

/-- The piece of a value from one offset up to another. -/
def substr (v : Value) (a b : Int64) : Evaluated Value :=
  substring v (some (.integer a)) (some (.integer b))

section Pieces

variable {s : String} {a b c d m : Int64}

/-- The piece of a text between offsets that are in order within it. -/
theorem substr_eq (h : Within s a b) :
    substr (.string s) a b = .ok (.string (.ofList (charsBetween s.toList a.toInt.toNat b.toInt.toNat))) :=
  if_pos h

theorem substr_of_not_within (h : ¬ Within s a b) :
    substr (.string s) a b = .error (.indexOutOfRange a b s.toList.length) :=
  if_neg h

/-- There is a piece exactly between offsets that are in order within the text. -/
theorem substr_eq_ok_iff {v : Value} :
    substr (.string s) a b = .ok v ↔
      Within s a b ∧ v = .string (.ofList (charsBetween s.toList a.toInt.toNat b.toInt.toNat)) := by
  by_cases h : Within s a b
  · rw [substr_eq h, Except.ok.injEq, and_iff_right h, eq_comm]
  · rw [substr_of_not_within h]
    exact iff_of_false nofun fun hv => h hv.1

/-- The whole text is a piece of it. -/
theorem substr_all (h : b.toInt = s.toList.length) : substr (.string s) 0 b = .ok (.string s) := by
  have hwithin : Within s 0 b := ⟨Int.le_refl 0, h ▸ Int.natCast_nonneg _, Int.le_of_eq h⟩
  have hchars : charsBetween s.toList (0 : Int64).toInt.toNat b.toInt.toNat = s.toList := by
    rw [h]
    exact charsBetween_all s.toList
  rw [substr_eq hwithin, hchars, String.ofList_toList]

/-- A piece is as long as its offsets are apart. -/
theorem length_substr {v : Value} (h : substr (.string s) a b = .ok v) :
    ∃ n : Int64, applyUnary .length v = .ok (.integer n) ∧ n.toInt = b.toInt - a.toInt := by
  obtain ⟨⟨ha, hab, hb⟩, rfl⟩ := substr_eq_ok_iff.1 h
  refine ⟨_, rfl, ?_⟩
  have hlast : b.toInt < 2 ^ 63 := b.toInt_lt
  rw [lengthOf, String.toList_ofList, length_charsBetween (by omega), Int64.toInt_ofNat_of_lt (by omega)]
  omega

/-- Pieces that meet make up one piece. -/
theorem substr_concat [PatternLibrary] {v : Value} (h : substr (.string s) a b = .ok v) (ham : a.toInt ≤ m.toInt)
    (hmb : m.toInt ≤ b.toInt) :
    (do applyBinary .concat (← substr (.string s) a m) (← substr (.string s) m b)) = .ok v := by
  obtain ⟨⟨ha, hab, hb⟩, rfl⟩ := substr_eq_ok_iff.1 h
  rw [substr_eq ⟨ha, ham, Int.le_trans hmb hb⟩, substr_eq ⟨Int.le_trans ha ham, hmb, hb⟩]
  rw [← charsBetween_append (Int.toNat_le_toNat ham) (Int.toNat_le_toNat hmb), String.ofList_append]
  rfl

/-- A piece of a piece is a piece of the text. -/
theorem substr_substr {v : Value} (h : substr (.string s) a b = .ok v) (hc : 0 ≤ c.toInt) (hcd : c.toInt ≤ d.toInt)
    (hd : d.toInt ≤ b.toInt - a.toInt) :
    ∃ w, substr v c d = .ok w ∧ substr (.string s) (a + c) (a + d) = .ok w := by
  obtain ⟨⟨ha, hab, hb⟩, rfl⟩ := substr_eq_ok_iff.1 h
  have hlast : b.toInt < 2 ^ 63 := b.toInt_lt
  have hfirst : (a + c).toInt = a.toInt + c.toInt := InRange.toInt_add ⟨by omega, by omega⟩
  have hsecond : (a + d).toInt = a.toInt + d.toInt := InRange.toInt_add ⟨by omega, by omega⟩
  have hlength : (charsBetween s.toList a.toInt.toNat b.toInt.toNat).length = b.toInt.toNat - a.toInt.toNat :=
    length_charsBetween (by omega)
  have hinner : Within (.ofList (charsBetween s.toList a.toInt.toNat b.toInt.toNat)) c d := by
    refine ⟨hc, hcd, ?_⟩
    rw [String.toList_ofList, hlength]
    omega
  have houter : Within s (a + c) (a + d) := ⟨by omega, by omega, by omega⟩
  refine ⟨_, substr_eq hinner, ?_⟩
  rw [substr_eq houter, hfirst, hsecond, Int.toNat_add ha hc, Int.toNat_add ha (by omega), String.toList_ofList,
    charsBetween_charsBetween (by omega)]

end Pieces

/-- Pieces of a text are exact. There is a piece between two offsets exactly if they are in order within the text, and
    otherwise the error names them with the number of characters. A piece is as long as its offsets are apart, the
    pieces on both sides of an offset in between make it up, and its own pieces are those of the text further on. The
    piece of all characters is the text. -/
theorem substr_algebra [PatternLibrary] (s : String) (a b : Int64) :
    ((∃ v, substr (.string s) a b = .ok v) ↔
      0 ≤ a.toInt ∧ a.toInt ≤ b.toInt ∧ b.toInt ≤ s.toList.length) ∧
    (¬ (0 ≤ a.toInt ∧ a.toInt ≤ b.toInt ∧ b.toInt ≤ s.toList.length) →
      substr (.string s) a b = .error (.indexOutOfRange a b s.toList.length)) ∧
    (∀ n : Int64, n.toInt = s.toList.length → substr (.string s) 0 n = .ok (.string s)) ∧
    ∀ v, substr (.string s) a b = .ok v →
      (∃ n : Int64, applyUnary .length v = .ok (.integer n) ∧ n.toInt = b.toInt - a.toInt) ∧
      (∀ m : Int64, a.toInt ≤ m.toInt → m.toInt ≤ b.toInt →
        (do applyBinary .concat (← substr (.string s) a m) (← substr (.string s) m b)) = .ok v) ∧
      ∀ c d : Int64, 0 ≤ c.toInt → c.toInt ≤ d.toInt → d.toInt ≤ b.toInt - a.toInt →
        ∃ w, substr v c d = .ok w ∧ substr (.string s) (a + c) (a + d) = .ok w := by
  refine ⟨?_, substr_of_not_within, fun n => substr_all, fun v hv => ⟨length_substr hv, fun m => substr_concat hv, ?_⟩⟩
  · exact ⟨fun ⟨v, hv⟩ => (substr_eq_ok_iff.1 hv).1, fun h => ⟨_, substr_eq h⟩⟩
  · exact fun c d => substr_substr hv

end AssignScript
