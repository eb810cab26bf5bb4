import Mathlib.Data.Nat.Count
import AssignScript.Proofs.Evaluation.Substring

/-!
# Places of occurrences

The search for the `n`-th occurrence of a text in another goes through the offsets from a start on, and counts every
one at which the text occurs, overlapping ones too. The place that it comes to counts from the start and from one; it
is zero where there are fewer occurrences, and one for the empty text.

## Main definitions

* `OccursAt`: a text stands at an offset of another;
* `occurrencesBefore`: how often it does before some offset;
* `instr`: the place of an occurrence.

## Main statements

* `nthOccurrence?_eq_some`, `nthOccurrence?_eq_none`: what the search through the characters finds;
* `substr_of_occursAt`: where a text occurs it is a piece;
* `instr_exact`: what the place of an occurrence is, and that the text stands there.
-/

namespace AssignScript

/-! ### Occurrences -/

/-- Some characters stand at an offset of others. -/
def OccursAt (needle cs : List Char) (i : Nat) : Prop :=
  needle <+: cs.drop i

instance (needle cs : List Char) : DecidablePred (OccursAt needle cs) :=
  fun i => inferInstanceAs (Decidable (needle <+: cs.drop i))

/-- How often some characters stand at the first `i` offsets of others, counted from a start. -/
def occurrencesBefore (needle cs : List Char) (start i : Nat) : Nat :=
  Nat.count (fun j => OccursAt needle cs (start + j)) i

section Occurrences

variable {needle cs : List Char} {i n start : Nat}

theorem isPrefixOf_iff_occursAt : needle.isPrefixOf cs = true ↔ OccursAt needle cs 0 :=
  List.isPrefixOf_iff_prefix

theorem occursAt_drop : OccursAt needle (cs.drop start) i ↔ OccursAt needle cs (start + i) := by
  rw [OccursAt, OccursAt, List.drop_drop]

/-- Characters that occur from an offset inside others end inside them. -/
theorem OccursAt.add_length_le (h : OccursAt needle cs i) (hi : i ≤ cs.length) : i + needle.length ≤ cs.length := by
  have hlength := h.length_le
  rw [List.length_drop] at hlength
  omega

theorem OccursAt.lt_length (h : OccursAt needle cs i) (hneedle : needle ≠ []) : i < cs.length := by
  have hlength := h.length_le
  have hpos := List.length_pos_iff.2 hneedle
  rw [List.length_drop] at hlength
  omega

/-- Occurrences behind the first character are those in the rest. -/
theorem count_occursAt_cons (c : Char) :
    Nat.count (OccursAt needle (c :: cs)) (i + 1) =
      Nat.count (OccursAt needle cs) i + if OccursAt needle (c :: cs) 0 then 1 else 0 :=
  Nat.count_succ' _ i

theorem count_occursAt_drop (needle cs : List Char) (start i : Nat) :
    Nat.count (OccursAt needle (cs.drop start)) i = occurrencesBefore needle cs start i :=
  List.countP_congr fun j _ => by simp only [decide_eq_true_eq, occursAt_drop]

/-- Where the search ends the text occurs, and as often before as was asked for. -/
theorem nthOccurrence?_eq_some (hn : 1 ≤ n) (h : nthOccurrence? needle n cs = some i) :
    OccursAt needle cs i ∧ Nat.count (OccursAt needle cs) i + 1 = n := by
  induction cs generalizing n i with
  | nil => cases h
  | cons c cs ih =>
    rw [nthOccurrence?] at h
    split at h
    · next hhere =>
      have hzero := isPrefixOf_iff_occursAt.1 hhere
      split at h
      · cases h
        exact ⟨hzero, by rw [Nat.count_zero]; omega⟩
      · obtain ⟨j, hj, rfl⟩ := Option.map_eq_some_iff.1 h
        obtain ⟨hoccurs, hcount⟩ := ih (by omega) hj
        refine ⟨hoccurs, ?_⟩
        rw [count_occursAt_cons, if_pos hzero]
        omega
    · next hhere =>
      have hzero := mt isPrefixOf_iff_occursAt.2 hhere
      obtain ⟨j, hj, rfl⟩ := Option.map_eq_some_iff.1 h
      obtain ⟨hoccurs, hcount⟩ := ih hn hj
      refine ⟨hoccurs, ?_⟩
      rw [count_occursAt_cons, if_neg hzero]
      exact hcount

/-- The search fails only where there are too few occurrences. -/
theorem nthOccurrence?_eq_none (hn : 1 ≤ n) (h : nthOccurrence? needle n cs = none) :
    Nat.count (OccursAt needle cs) cs.length < n := by
  induction cs generalizing n with
  | nil => exact hn
  | cons c cs ih =>
    rw [nthOccurrence?] at h
    rw [List.length_cons, count_occursAt_cons]
    split at h
    · next hhere =>
      split at h
      · cases h
      · have hrest := ih (by omega) (Option.map_eq_none_iff.1 h)
        rw [if_pos (isPrefixOf_iff_occursAt.1 hhere)]
        omega
    · next hhere =>
      rw [if_neg (mt isPrefixOf_iff_occursAt.2 hhere)]
      exact ih hn (Option.map_eq_none_iff.1 h)

end Occurrences

/-- The offset from a start at which the `n`-th occurrence stands. -/
def IsNthOccurrence (needle cs : List Char) (start n i : Nat) : Prop :=
  OccursAt needle cs (start + i) ∧ occurrencesBefore needle cs start i + 1 = n

section Search

variable {needle cs : List Char} {start n i j : Nat}

/-- There is only one such offset. -/
theorem IsNthOccurrence.unique (hi : IsNthOccurrence needle cs start n i) (hj : IsNthOccurrence needle cs start n j) :
    j = i :=
  Nat.count_injective hj.1 hi.1 (Nat.succ.inj (hj.2.trans hi.2.symm))

/-- The `n`-th occurrence is one of the occurrences. -/
theorem IsNthOccurrence.le_occurrencesBefore (hneedle : needle ≠ []) (h : IsNthOccurrence needle cs start n i) :
    n ≤ occurrencesBefore needle cs start (cs.length - start) := by
  have hlt := h.1.lt_length hneedle
  have hsucc : occurrencesBefore needle cs start (i + 1) = n :=
    (Nat.count_succ_eq_succ_count (p := fun j => OccursAt needle cs (start + j)) h.1).trans h.2
  exact hsucc ▸ Nat.count_monotone _ (by omega)

theorem isNthOccurrence_of_nthOccurrence? (hn : 1 ≤ n) (h : nthOccurrence? needle n (cs.drop start) = some i) :
    IsNthOccurrence needle cs start n i := by
  obtain ⟨hoccurs, hcount⟩ := nthOccurrence?_eq_some hn h
  rw [count_occursAt_drop] at hcount
  exact ⟨occursAt_drop.1 hoccurs, hcount⟩

/-- With enough occurrences the search ends at the `n`-th one. -/
theorem exists_isNthOccurrence (hn : 1 ≤ n) (h : n ≤ occurrencesBefore needle cs start (cs.length - start)) :
    ∃ i, nthOccurrence? needle n (cs.drop start) = some i ∧ IsNthOccurrence needle cs start n i := by
  cases hfound : nthOccurrence? needle n (cs.drop start) with
  | some i => exact ⟨i, rfl, isNthOccurrence_of_nthOccurrence? hn hfound⟩
  | none =>
    have hfew := nthOccurrence?_eq_none hn hfound
    rw [count_occursAt_drop, List.length_drop] at hfew
    omega

/-- With too few it fails. -/
theorem nthOccurrence?_of_lt (hn : 1 ≤ n) (hneedle : needle ≠ [])
    (h : occurrencesBefore needle cs start (cs.length - start) < n) :
    nthOccurrence? needle n (cs.drop start) = none := by
  cases hfound : nthOccurrence? needle n (cs.drop start) with
  | none => rfl
  | some i =>
    have hle := (isNthOccurrence_of_nthOccurrence? hn hfound).le_occurrencesBefore hneedle
    omega

end Search

/-! ### Places -/

section Places

variable {needle cs : List Char} {n : Int64}

theorem occurrencePlace_of_le (h : n.toInt ≤ 0) : occurrencePlace needle n cs = 0 :=
  if_pos h

theorem occurrencePlace_nil (h : 1 ≤ n.toInt) : occurrencePlace [] n cs = 1 := by
  rw [occurrencePlace, if_neg (by omega)]
  rfl

theorem occurrencePlace_of_ne_nil (h : 1 ≤ n.toInt) (hneedle : needle ≠ []) :
    occurrencePlace needle n cs = ((nthOccurrence? needle n.toInt.toNat cs).map (· + 1)).getD 0 := by
  rw [occurrencePlace, if_neg (by omega), if_neg (by rwa [List.isEmpty_iff])]

/-- A place that is not zero is one behind an offset at which the text occurs. -/
theorem occursAt_of_occurrencePlace_pos (h : 0 < occurrencePlace needle n cs) :
    ∃ i, occurrencePlace needle n cs = i + 1 ∧ OccursAt needle cs i ∧ (i = 0 ∨ i < cs.length) := by
  by_cases hn : 1 ≤ n.toInt
  · rcases eq_or_ne needle [] with rfl | hneedle
    · exact ⟨0, occurrencePlace_nil hn, List.nil_prefix, .inl rfl⟩
    · rw [occurrencePlace_of_ne_nil hn hneedle] at h ⊢
      cases hfound : nthOccurrence? needle n.toInt.toNat cs with
      | none =>
        rw [hfound] at h
        exact absurd h (Nat.lt_irrefl 0)
      | some i =>
        have hoccurs := (nthOccurrence?_eq_some (by omega) hfound).1
        exact ⟨i, rfl, hoccurs, .inr (hoccurs.lt_length hneedle)⟩
  · rw [occurrencePlace_of_le (by omega)] at h
    exact absurd h (Nat.lt_irrefl 0)

end Places

/-- The place of the `n`-th occurrence of a text in another, from a start on. -/
def instr (s p : String) (start n : Int64) : Evaluated Value :=
  occurrence (.string s) (.string p) (some (.integer start)) (some (.integer n))

section Instr

variable {s p : String} {start n : Int64}

theorem instr_of_start (h : 0 ≤ start.toInt ∧ start.toInt ≤ s.toList.length) :
    instr s p start n =
      .ok (.integer (.ofNat (occurrencePlace p.toList n (s.toList.drop start.toInt.toNat)))) :=
  if_pos h

theorem instr_of_not_start (h : ¬ (0 ≤ start.toInt ∧ start.toInt ≤ s.toList.length)) :
    instr s p start n = .error (.indexOutOfRange start (lengthOf s) s.toList.length) :=
  if_neg h

/-- Where a text occurs in another it is a piece. -/
theorem substr_of_occursAt {a b : Int64} {i : Nat} (h : OccursAt p.toList s.toList i) (hi : i ≤ s.toList.length)
    (ha : a.toInt = i) (hb : b.toInt = i + p.toList.length) : substr (.string s) a b = .ok (.string p) := by
  have hend := h.add_length_le hi
  have hchars : charsBetween s.toList i (i + p.toList.length) = p.toList := by
    rw [charsBetween, ← List.take_drop]
    exact (List.prefix_iff_eq_take.1 h).symm
  have hfirst : a.toInt.toNat = i := by omega
  have hlast : b.toInt.toNat = i + p.toList.length := by omega
  rw [substr_eq ⟨by omega, by omega, by omega⟩, hfirst, hlast, hchars, String.ofList_toList]

/-- At a place that is positive the text stands, if the text around it is one of those whose length is a number of 64
    bits. -/
theorem substr_of_instr (hlength : s.toList.length < 2 ^ 63) {r : Int64} (h : instr s p start n = .ok (.integer r))
    (hr : 0 < r.toInt) : substr (.string s) (start + (r - 1)) (start + (r - 1) + lengthOf p) = .ok (.string p) := by
  by_cases hstart : 0 ≤ start.toInt ∧ start.toInt ≤ s.toList.length
  · rw [instr_of_start hstart] at h
    cases h
    have hpos : 0 < occurrencePlace p.toList n (s.toList.drop start.toInt.toNat) := by
      refine Nat.pos_of_ne_zero fun hzero => ?_
      rw [hzero] at hr
      exact absurd hr (by decide)
    obtain ⟨i, hplace, hoccurs, hi⟩ := occursAt_of_occurrencePlace_pos hpos
    rw [List.length_drop] at hi
    have hoccurs := occursAt_drop.1 hoccurs
    have hend := hoccurs.add_length_le (by omega)
    -- No offset on the way has more than 64 bits, since none lies behind the text.
    have hstart' := start.toInt_lt
    have hr : (Int64.ofNat (i + 1)).toInt = i + 1 := Int64.toInt_ofNat_of_lt (by omega)
    have hp : (lengthOf p).toInt = p.toList.length := Int64.toInt_ofNat_of_lt (by omega)
    have hone : (1 : Int64).toInt = 1 := rfl
    have hback : (Int64.ofNat (i + 1) - 1).toInt = i := by
      rw [InRange.toInt_sub ⟨by omega, by omega⟩]
      omega
    have hfirst : (start + (Int64.ofNat (i + 1) - 1)).toInt = start.toInt + i := by
      rw [InRange.toInt_add ⟨by omega, by omega⟩, hback]
    have hlast : (start + (Int64.ofNat (i + 1) - 1) + lengthOf p).toInt = start.toInt + i + p.toList.length := by
      rw [InRange.toInt_add ⟨by omega, by omega⟩, hfirst, hp]
    rw [hplace]
    exact substr_of_occursAt hoccurs (by omega) (by omega) (by omega)
  · rw [instr_of_not_start hstart] at h
    cases h

end Instr

/-- The place of the `n`-th occurrence is exact. It is an error exactly where the start is not an offset of the text.
    Otherwise it is zero for an `n` that is not positive, and one for the empty text. For another text it is one more
    than the only offset from the start at which the text occurs, overlapping or not, with as many occurrences before
    as are asked for before it, and zero if there are too few. In a text whose length is a number of 64 bits, so in
    every one that is kept anywhere, the piece at a positive place is the text that was looked for. -/
theorem instr_exact (s p : String) (start n : Int64) :
    ((∃ first last length, instr s p start n = .error (.indexOutOfRange first last length)) ↔
      start.toInt < 0 ∨ s.toList.length < start.toInt) ∧
    (0 ≤ start.toInt → start.toInt ≤ s.toList.length →
      (n.toInt ≤ 0 → instr s p start n = .ok (.integer 0)) ∧
      (1 ≤ n.toInt → p = "" → instr s p start n = .ok (.integer 1)) ∧
      (1 ≤ n.toInt → p ≠ "" →
        let first := start.toInt.toNat
        let total := occurrencesBefore p.toList s.toList first (s.toList.length - first)
        (n.toInt ≤ total → ∃ i, IsNthOccurrence p.toList s.toList first n.toInt.toNat i ∧
          (∀ j, IsNthOccurrence p.toList s.toList first n.toInt.toNat j → j = i) ∧
          instr s p start n = .ok (.integer (.ofNat (i + 1)))) ∧
        (total < n.toInt → instr s p start n = .ok (.integer 0)))) ∧
    (s.toList.length < 2 ^ 63 → ∀ r : Int64, instr s p start n = .ok (.integer r) → 0 < r.toInt →
      substr (.string s) (start + (r - 1)) (start + (r - 1) + lengthOf p) = .ok (.string p)) := by
  refine ⟨?_, fun hfirst hlast => ?_, fun hlength r => substr_of_instr hlength⟩
  · by_cases hstart : 0 ≤ start.toInt ∧ start.toInt ≤ s.toList.length
    · rw [instr_of_start hstart]
      exact iff_of_false nofun (by omega)
    · rw [instr_of_not_start hstart]
      exact iff_of_true ⟨_, _, _, rfl⟩ (by omega)
  · rw [instr_of_start ⟨hfirst, hlast⟩]
    refine ⟨fun hn => ?_, fun hn hp => ?_, fun hn hp => ?_⟩
    · rw [occurrencePlace_of_le hn]
      rfl
    · rw [hp, String.toList_empty, occurrencePlace_nil hn]
      rfl
    · have hneedle : p.toList ≠ [] := fun hnil => hp (String.toList_inj.1 hnil)
      rw [occurrencePlace_of_ne_nil hn hneedle]
      refine ⟨fun henough => ?_, fun hfew => ?_⟩
      · have hcounted : n.toInt.toNat ≤ occurrencesBefore p.toList s.toList start.toInt.toNat
            (s.toList.length - start.toInt.toNat) := by omega
        obtain ⟨i, hfound, hi⟩ := exists_isNthOccurrence (by omega) hcounted
        exact ⟨i, hi, fun j => hi.unique, by rw [hfound]; rfl⟩
      · rw [nthOccurrence?_of_lt (by omega) hneedle (by omega)]
        rfl

end AssignScript
