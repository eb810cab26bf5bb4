import Mathlib.Tactic.ByContra
import AssignScript.DataType

/-!
# Widening of types

To widen is an order of the types, and the common type of some types is the least one to which all of them widen.
Therefore it depends on which types there are, and neither on their order nor on how they are grouped.

## Main definitions

* `DataType.AllWidenTo`: all types of a list widen to a type.

## Main statements

* `DataType.widensTo_of_widenAll`: a common type widens to what all types of the list widen to;
* `DataType.exists_widenAll`: types that all widen to one have a common type;
* `DataType.widenAll_mapM`: the common type of the common types of parts;
* `DataType.widenAll_least`: the common type is the least, whatever the order and the grouping.
-/

namespace AssignScript.DataType

/-! ### Two types -/

theorem widensTo_self (t : DataType) : t.widensTo t = true := by
  cases t <;> rfl

theorem widensTo_antisymm {t u : DataType} (h : t.widensTo u = true) (h' : u.widensTo t = true) : t = u := by
  cases t <;> cases u <;> first | rfl | contradiction

theorem widensTo_trans {t u v : DataType} (h : t.widensTo u = true) (h' : u.widensTo v = true) :
    t.widensTo v = true := by
  cases u <;> cases t <;> cases h <;> first | exact h' | (cases v <;> cases h'; rfl)

theorem eq_of_widensTo {t target : DataType} (h : t.widensTo target = true) (ht : target ≠ .number) : t = target := by
  cases target <;> cases t <;> first | rfl | contradiction

theorem isNumeric_of_widensTo {t : DataType} (h : t.widensTo .number = true) : t.isNumeric = true := by
  cases t <;> first | rfl | contradiction

theorem widensTo_number {t : DataType} (ht : t.isNumeric) : t.widensTo .number = true := by
  cases t <;> cases ht <;> rfl

theorem widensTo_number_eq_false {t : DataType} (h : t.isNumeric = false) : t.widensTo .number = false := by
  cases t <;> first | rfl | contradiction

/-- The common type of two operands. -/
theorem widen_eq_some {t u v : DataType} : t.widen u = some v ↔
    (t = u ∨ (t.isNumeric ∧ u.isNumeric)) ∧ v = if t = u then t else .number := by
  cases t <;> cases u <;> cases v <;> decide

theorem isNumeric_of_widen {a b t : DataType} (h : a.widen b = some t) (ht : t.isNumeric = true) :
    a.isNumeric = true ∧ b.isNumeric = true := by
  cases a <;> cases b <;> cases h <;> first | exact ⟨rfl, rfl⟩ | contradiction

/-- A common type that is not numeric is the type of both operands. -/
theorem eq_of_widen {a b t : DataType} (h : a.widen b = some t) (ht : t.isNumeric = false) : a = t ∧ b = t := by
  cases a <;> cases b <;> cases h <;> first | exact ⟨rfl, rfl⟩ | contradiction

/-- Operands with a common type are both of the type Null, or neither is. -/
theorem ne_null_of_widen {a b t : DataType} (h : a.widen b = some t) (ht : t ≠ .null) : a ≠ .null ∧ b ≠ .null := by
  cases a <;> cases b <;> cases h <;> first | exact absurd rfl ht | decide

/-- The common type of two types widens to exactly what both of them widen to. -/
theorem widensTo_of_widen {a b c : DataType} (h : a.widen b = some c) (v : DataType) :
    c.widensTo v = true ↔ a.widensTo v = true ∧ b.widensTo v = true := by
  cases a <;> cases b <;> cases h <;> cases v <;> decide

/-- Two types that widen to a third one have a common type. -/
theorem exists_widen {a b v : DataType} (ha : a.widensTo v = true) (hb : b.widensTo v = true) :
    ∃ c, a.widen b = some c := by
  cases a <;> cases v <;> cases ha <;> cases b <;> cases hb <;> exact ⟨_, rfl⟩

/-! ### Lists of types -/

/-- All types of a list widen to a type. -/
def AllWidenTo (ts : List DataType) (v : DataType) : Prop :=
  ∀ u ∈ ts, u.widensTo v = true

theorem allWidenTo_cons {a : DataType} {us : List DataType} {v : DataType} :
    AllWidenTo (a :: us) v ↔ a.widensTo v = true ∧ AllWidenTo us v :=
  List.forall_mem_cons

theorem allWidenTo_append {ts us : List DataType} {v : DataType} :
    AllWidenTo (ts ++ us) v ↔ AllWidenTo ts v ∧ AllWidenTo us v :=
  List.forall_mem_append

/-- A type that some types have been widened to, one after the other, widens to exactly what all of them widen to. -/
theorem widensTo_of_foldlM_widen {ts : List DataType} {a t : DataType} (h : ts.foldlM widen a = some t)
    (v : DataType) : t.widensTo v = true ↔ a.widensTo v = true ∧ AllWidenTo ts v := by
  induction ts generalizing a with
  | nil =>
    cases h
    exact (and_iff_left nofun).symm
  | cons u us ih =>
    rw [List.foldlM_cons] at h
    obtain ⟨c, hc, h⟩ := Option.bind_eq_some_iff.1 h
    rw [ih h, widensTo_of_widen hc v, and_assoc, allWidenTo_cons]

/-- A common type widens to exactly what all types of the list widen to. -/
theorem widensTo_of_widenAll {ts : List DataType} {t : DataType} (h : widenAll ts = some t) (v : DataType) :
    t.widensTo v = true ↔ AllWidenTo ts v := by
  cases ts with
  | nil => cases h
  | cons a us => rw [widensTo_of_foldlM_widen h v, allWidenTo_cons]

/-- As long as all types widen to one, no step on the way through the list is without a common type. -/
theorem exists_foldlM_widen {v : DataType} {ts : List DataType} (hts : AllWidenTo ts v) :
    ∀ a : DataType, a.widensTo v = true → ∃ t, ts.foldlM widen a = some t := by
  induction ts with
  | nil => exact fun a _ => ⟨a, rfl⟩
  | cons u us ih =>
    intro a ha
    obtain ⟨hu, hus⟩ := allWidenTo_cons.1 hts
    obtain ⟨c, hc⟩ := exists_widen ha hu
    rw [List.foldlM_cons, hc]
    exact ih hus c ((widensTo_of_widen hc v).2 ⟨ha, hu⟩)

/-- Types that all widen to one have a common type. -/
theorem exists_widenAll {ts : List DataType} {v : DataType} (hne : ts ≠ []) (h : AllWidenTo ts v) :
    ∃ t, widenAll ts = some t := by
  obtain ⟨a, us, rfl⟩ := List.exists_cons_of_ne_nil hne
  obtain ⟨ha, hus⟩ := allWidenTo_cons.1 h
  exact exists_foldlM_widen hus a ha

/-- Of types without a common one, some do not widen to a type, whatever it is. -/
theorem exists_not_widensTo {ts : List DataType} (hne : ts ≠ []) (h : widenAll ts = none) (t : DataType) :
    ∃ u ∈ ts, u.widensTo t = false := by
  by_contra hall
  obtain ⟨u, hu⟩ := exists_widenAll hne (v := t) (by simpa [AllWidenTo] using hall)
  rw [h] at hu
  cases hu

/-- A type is the common type of a list exactly if it widens to what all types of the list widen to. -/
theorem widenAll_eq_some_iff {ts : List DataType} {t : DataType} :
    widenAll ts = some t ↔ ts ≠ [] ∧ ∀ v, t.widensTo v = true ↔ AllWidenTo ts v := by
  constructor
  · intro h
    refine ⟨?_, widensTo_of_widenAll h⟩
    rintro rfl
    cases h
  · rintro ⟨hne, hleast⟩
    obtain ⟨u, hu⟩ := exists_widenAll hne ((hleast t).1 t.widensTo_self)
    have hiff : ∀ v, u.widensTo v = true ↔ t.widensTo v = true :=
      fun v => (widensTo_of_widenAll hu v).trans (hleast v).symm
    rw [hu, widensTo_antisymm ((hiff t).2 t.widensTo_self) ((hiff u).1 u.widensTo_self)]

/-- Lists that widen to the same types have the same common type, or both have none. -/
theorem widenAll_congr {ts us : List DataType} (hnil : ts = [] ↔ us = [])
    (h : ∀ v, AllWidenTo ts v ↔ AllWidenTo us v) : widenAll ts = widenAll us := by
  refine Option.ext fun t => ?_
  rw [widenAll_eq_some_iff, widenAll_eq_some_iff, ne_eq, ne_eq, hnil]
  exact and_congr_right fun _ => forall_congr' fun v => iff_congr Iff.rfl (h v)

/-- The order of the types does not matter. -/
theorem widenAll_perm {ts us : List DataType} (h : ts.Perm us) : widenAll ts = widenAll us := by
  refine widenAll_congr ⟨?_, ?_⟩ fun v => forall_congr' fun u => imp_congr_left h.mem_iff
  · rintro rfl
    exact h.nil_eq.symm
  · rintro rfl
    exact h.eq_nil

/-! ### Parts of lists -/

section Parts

variable {parts : List (List DataType)}

/-- The common types of parts widen to what all types of all parts widen to. -/
theorem allWidenTo_of_mapM {ts : List DataType} (h : parts.mapM widenAll = some ts) (v : DataType) :
    AllWidenTo ts v ↔ AllWidenTo parts.flatten v := by
  induction parts generalizing ts with
  | nil =>
    cases h
    rfl
  | cons part parts ih =>
    rw [List.mapM_cons] at h
    obtain ⟨t, ht, h⟩ := Option.bind_eq_some_iff.1 h
    obtain ⟨us, hus, h⟩ := Option.bind_eq_some_iff.1 h
    cases h
    rw [allWidenTo_cons, List.flatten_cons, allWidenTo_append]
    exact and_congr (widensTo_of_widenAll ht v) (ih hus)

/-- If all types of all parts widen to one, each part has a common type. -/
theorem exists_mapM_widenAll {v : DataType} (hparts : ∀ part ∈ parts, part ≠ [])
    (h : AllWidenTo parts.flatten v) : ∃ ts, parts.mapM widenAll = some ts := by
  induction parts with
  | nil => exact ⟨[], rfl⟩
  | cons part parts ih =>
    obtain ⟨hne, hparts⟩ := List.forall_mem_cons.1 hparts
    rw [List.flatten_cons, allWidenTo_append] at h
    obtain ⟨t, ht⟩ := exists_widenAll hne h.1
    obtain ⟨ts, hts⟩ := ih hparts h.2
    exact ⟨t :: ts, by rw [List.mapM_cons, ht, hts]; rfl⟩

theorem nil_iff_of_mapM {ts : List DataType} (hparts : ∀ part ∈ parts, part ≠ [])
    (h : parts.mapM widenAll = some ts) : ts = [] ↔ parts.flatten = [] := by
  cases parts with
  | nil =>
    cases h
    rfl
  | cons part parts =>
    rw [List.mapM_cons] at h
    obtain ⟨t, -, h⟩ := Option.bind_eq_some_iff.1 h
    obtain ⟨us, -, h⟩ := Option.bind_eq_some_iff.1 h
    cases h
    refine iff_of_false (List.cons_ne_nil _ _) fun hnil => ?_
    exact hparts part List.mem_cons_self (List.flatten_eq_nil_iff.1 hnil part List.mem_cons_self)

/-- The common type of the common types of parts is that of all types; there is none if a part has none. -/
theorem widenAll_mapM (hparts : ∀ part ∈ parts, part ≠ []) :
    (do widenAll (← parts.mapM widenAll)) = widenAll parts.flatten := by
  cases hts : parts.mapM widenAll with
  | some ts => exact widenAll_congr (nil_iff_of_mapM hparts hts) (allWidenTo_of_mapM hts)
  | none =>
    refine (Option.eq_none_iff_forall_ne_some.2 fun t ht => ?_).symm
    obtain ⟨ts, hsome⟩ := exists_mapM_widenAll hparts ((widensTo_of_widenAll ht t).1 t.widensTo_self)
    rw [hts] at hsome
    cases hsome

end Parts

/-- The common type of a list is the least one. A type is the common type exactly if there are types, all of them widen
    to it, and it widens to every type to which all of them widen. The types may stand in any order, and may be brought
    together part by part, however they are split up into parts that are not empty; there is no common type then if one
    of the parts has none. -/
theorem widenAll_least (ts : List DataType) :
    (∀ t, widenAll ts = some t ↔
      ts ≠ [] ∧ (∀ u ∈ ts, u.widensTo t = true) ∧
        ∀ v, (∀ u ∈ ts, u.widensTo v = true) → t.widensTo v = true) ∧
    (∀ us, us.Perm ts → widenAll us = widenAll ts) ∧
    ∀ parts : List (List DataType), (∀ part ∈ parts, part ≠ []) → parts.flatten.Perm ts →
      (do widenAll (← parts.mapM widenAll)) = widenAll ts := by
  refine ⟨fun t => ?_, fun us => widenAll_perm, fun parts hparts hperm => ?_⟩
  · rw [widenAll_eq_some_iff]
    refine and_congr_right fun _ => ⟨fun h => ⟨(h t).1 t.widensTo_self, fun v => (h v).2⟩, ?_⟩
    -- What is above the least type is above all types, since the order is transitive.
    rintro ⟨habove, hleast⟩ v
    exact ⟨fun htv u hu => widensTo_trans (habove u hu) htv, hleast v⟩
  · rw [widenAll_mapM hparts, widenAll_perm hperm]

/-- A number between whole numbers, and the whole numbers as a part of their own. -/
theorem widenAll_least_numbers :
    [integer, integer, number].Perm [integer, number, integer] ∧
      (∀ part ∈ [[integer, integer], [number]], part ≠ []) ∧
      widenAll [integer, integer, number] = widenAll [integer, number, integer] ∧
      (do widenAll (← [[integer, integer], [number]].mapM widenAll)) = widenAll [integer, number, integer] := by
  have hperm : [integer, integer, number].Perm [integer, number, integer] := by decide
  have hparts : ∀ part ∈ [[integer, integer], [number]], part ≠ [] := by decide
  obtain ⟨-, horder, hgroup⟩ := widenAll_least [integer, number, integer]
  exact ⟨hperm, hparts, horder _ hperm, hgroup _ hparts hperm⟩

end AssignScript.DataType
