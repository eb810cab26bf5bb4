/-!
# Maps from names

A map keeps each name once, in ascending order of code points. Two maps that answer every look-up alike are
therefore equal.

## Main definitions

* `NameMap`, `NameMap.get?`, `NameMap.insert`, `NameMap.map`;
* `NameMap.get?_insert`, `NameMap.get?_map`: what look-ups see;
* `NameMap.ext_get?`: look-ups determine the map.
-/

namespace AssignScript

/-- Entries in strictly ascending order of their names. -/
structure NameMap (α : Type) where
  /-- The names with what they stand for. -/
  entries : List (String × α)
  /-- Names ascend, so none occurs twice. -/
  sorted : entries.Pairwise fun a b => a.1 < b.1

namespace NameMap

variable {α β : Type}

instance [DecidableEq α] : DecidableEq (NameMap α) := fun a b =>
  if h : a.entries = b.entries then
    .isTrue (by cases a; cases b; cases h; rfl)
  else .isFalse fun hab => h (congrArg entries hab)

/-- The map that holds nothing. -/
def empty : NameMap α := ⟨[], .nil⟩

instance : Inhabited (NameMap α) := ⟨empty⟩

instance : EmptyCollection (NameMap α) := ⟨empty⟩

/-- Puts an entry in its place among sorted ones, over any of the same name. -/
def insertEntry (name : String) (a : α) : List (String × α) → List (String × α)
  | [] => [(name, a)]
  | (other, b) :: rest =>
    if name < other then (name, a) :: (other, b) :: rest
    else if name = other then (name, a) :: rest
    else (other, b) :: insertEntry name a rest

theorem mem_insertEntry {name : String} {a : α} {e : String × α} {es : List (String × α)}
    (h : e ∈ insertEntry name a es) : e = (name, a) ∨ e ∈ es := by
  induction es with
  | nil => simpa [insertEntry] using h
  | cons f es ih =>
    obtain ⟨other, b⟩ := f
    simp only [insertEntry] at h
    split at h
    · simpa using h
    · split at h
      · rcases List.mem_cons.1 h with h | h
        · exact .inl h
        · exact .inr (List.mem_cons_of_mem _ h)
      · rcases List.mem_cons.1 h with h | h
        · exact .inr (h ▸ List.mem_cons_self)
        · exact (ih h).imp_right (List.mem_cons_of_mem _)

theorem insertEntry_sorted (name : String) (a : α) {es : List (String × α)}
    (h : es.Pairwise fun a b => a.1 < b.1) :
    (insertEntry name a es).Pairwise fun a b => a.1 < b.1 := by
  induction es with
  | nil => simp [insertEntry]
  | cons f es ih =>
    obtain ⟨other, b⟩ := f
    have hes := List.pairwise_cons.1 h
    simp only [insertEntry]
    split
    · next hlt =>
      refine List.pairwise_cons.2 ⟨fun e he => ?_, h⟩
      rcases List.mem_cons.1 he with he | he
      · exact he ▸ hlt
      · exact String.lt_trans hlt (hes.1 e he)
    · next hnlt =>
      split
      · next heq => exact List.pairwise_cons.2 ⟨fun e he => heq ▸ hes.1 e he, hes.2⟩
      · next hne =>
        refine List.pairwise_cons.2 ⟨fun e he => ?_, ih hes.2⟩
        rcases mem_insertEntry he with he | he
        · subst he
          exact Std.lt_of_le_of_ne (Std.not_lt.1 hnlt) (Ne.symm hne)
        · exact hes.1 e he

/-- The map with an entry added, over any of the same name. -/
def insert (m : NameMap α) (name : String) (a : α) : NameMap α :=
  ⟨insertEntry name a m.entries, insertEntry_sorted name a m.sorted⟩

/-- What a name stands for in a list of entries. -/
def lookup (name : String) : List (String × α) → Option α
  | [] => none
  | (other, b) :: rest => if name = other then some b else lookup name rest

/-- What a name stands for. -/
def get? (m : NameMap α) (name : String) : Option α :=
  lookup name m.entries

/-- Whether a name stands for something. -/
def contains (m : NameMap α) (name : String) : Bool :=
  (m.get? name).isSome

/-- How many names the map holds. -/
def size (m : NameMap α) : Nat :=
  m.entries.length

/-- Whether the map holds nothing. -/
def isEmpty (m : NameMap α) : Bool :=
  m.entries.isEmpty

/-- The names, in ascending order. -/
def names (m : NameMap α) : List String :=
  m.entries.map (·.1)

/-- The map of the same names to other things. -/
def map (f : α → β) (m : NameMap α) : NameMap β :=
  ⟨m.entries.map fun e => (e.1, f e.2),
    List.pairwise_map.2 (m.sorted.imp fun h => h)⟩

/-- The map of a list of entries; of two with one name the later one counts. -/
def ofList (es : List (String × α)) : NameMap α :=
  es.foldl (fun m e => m.insert e.1 e.2) empty

/-! ### Look-ups -/

theorem lookup_insertEntry (name other : String) (a : α) (es : List (String × α)) :
    lookup other (insertEntry name a es) = if other = name then some a else lookup other es := by
  induction es with
  | nil => rfl
  | cons f es ih =>
    obtain ⟨first, b⟩ := f
    simp only [insertEntry]
    split
    · rfl
    · split
      · next heq =>
        subst heq
        by_cases h : other = name <;> simp [lookup, h]
      · next hne =>
        by_cases h : other = first
        · subst h
          simp [lookup, Ne.symm hne]
        · simp [lookup, h, ih]

/-- An insertion changes the look-up of its own name and of no other. -/
theorem get?_insert (m : NameMap α) (name other : String) (a : α) :
    (m.insert name a).get? other = if other = name then some a else m.get? other :=
  lookup_insertEntry name other a m.entries

theorem lookup_map (f : α → β) (name : String) (es : List (String × α)) :
    lookup name (es.map fun e => (e.1, f e.2)) = (lookup name es).map f := by
  induction es with
  | nil => rfl
  | cons e es ih => by_cases h : name = e.1 <;> simp [lookup, h, ih]

/-- Look-ups see the function that was mapped. -/
theorem get?_map (f : α → β) (m : NameMap α) (name : String) :
    (m.map f).get? name = (m.get? name).map f :=
  lookup_map f name m.entries

/-! ### Extensionality -/

theorem lookup_eq_some_iff {es : List (String × α)} (h : es.Pairwise fun a b => a.1 < b.1)
    {name : String} {a : α} : lookup name es = some a ↔ (name, a) ∈ es := by
  induction es with
  | nil => simp [lookup]
  | cons e es ih =>
    have hes := List.pairwise_cons.1 h
    obtain ⟨first, b⟩ := e
    simp only [lookup]
    by_cases hn : name = first
    · subst hn
      simp only [if_true, Option.some.injEq, List.mem_cons, Prod.mk.injEq, true_and]
      constructor
      · exact fun hab => .inl hab.symm
      · rintro (hab | hm)
        · exact hab.symm
        · exact absurd (hes.1 _ hm) (String.lt_irrefl _)
    · simp [hn, ih hes.2]

theorem entries_eq_of_mem_iff {es fs : List (String × α)}
    (hes : es.Pairwise fun a b => a.1 < b.1) (hfs : fs.Pairwise fun a b => a.1 < b.1)
    (h : ∀ e, e ∈ es ↔ e ∈ fs) : es = fs := by
  induction es generalizing fs with
  | nil =>
    cases fs with
    | nil => rfl
    | cons f fs => exact absurd ((h f).2 List.mem_cons_self) (by simp)
  | cons e es ih =>
    cases fs with
    | nil => exact absurd ((h e).1 List.mem_cons_self) (by simp)
    | cons f fs =>
      have he := List.pairwise_cons.1 hes
      have hf := List.pairwise_cons.1 hfs
      have hef : e = f := by
        rcases List.mem_cons.1 ((h e).1 List.mem_cons_self) with hef | hef
        · exact hef
        · rcases List.mem_cons.1 ((h f).2 List.mem_cons_self) with hfe | hfe
          · exact hfe.symm
          · exact absurd (String.lt_trans (hf.1 e hef) (he.1 f hfe)) (String.lt_irrefl _)
      subst hef
      refine congrArg (e :: ·) (ih he.2 hf.2 fun x => ?_)
      constructor
      · intro hx
        rcases List.mem_cons.1 ((h x).1 (List.mem_cons_of_mem _ hx)) with hxe | hxe
        · exact absurd (hxe ▸ he.1 x hx) (String.lt_irrefl _)
        · exact hxe
      · intro hx
        rcases List.mem_cons.1 ((h x).2 (List.mem_cons_of_mem _ hx)) with hxe | hxe
        · exact absurd (hxe ▸ hf.1 x hx) (String.lt_irrefl _)
        · exact hxe

/-- Two maps with the same look-ups are equal. -/
theorem ext_get? {m n : NameMap α} (h : ∀ name, m.get? name = n.get? name) : m = n := by
  have hentries : m.entries = n.entries :=
    entries_eq_of_mem_iff m.sorted n.sorted fun ⟨name, a⟩ => by
      rw [← lookup_eq_some_iff m.sorted, ← lookup_eq_some_iff n.sorted]
      exact iff_of_eq (congrArg (· = some a) (h name))
  cases m
  cases n
  cases hentries
  rfl

end NameMap

end AssignScript
