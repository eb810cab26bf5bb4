import AssignScript.Operation.Replacement
import AssignScript.Pattern.Template
import AssignScript.Proofs.Lexing.Number

/-!
# What replacements stand for

A replacement is written in one notation, turned into a template in another, and the template is read again when it
is filled in. What comes of both is what the replacement says read from left to right: no two parts that stand side
by side in the template run into each other.

## Main definitions

* `Stands`: what a replacement stands for, given the texts of groups;
* `BraceFree`: replacements without a dollar sign that could begin a reference in braces;
* `escape`: the replacement that stands for a text.

## Main statements

* `expand_dollars`, `expand_char`, `expand_group`: what the parts of a template give, whatever follows them;
* `groupNumber_append`: the number of a group is the longest that is not too large;
* `expand_templateOfReplacement`: a template gives what its replacement stands for.
-/

namespace AssignScript.Pattern

open Text Decimal

/-! ### What a replacement stands for -/

/-- The number that further digits make of one. -/
def withDigits (n : Nat) (ds : List Char) : Nat :=
  ds.foldl (fun total c => 10 * total + digitValue c) n

/-- Digits that extend a number as far as it is not too large: they do so themselves, and no digit follows that does
    with them. -/
structure Longest (groups n : Nat) (ds cs : List Char) : Prop where
  digits : AreDigits ds
  le : ds = [] ∨ withDigits n ds ≤ groups
  lt : ∀ x ∈ cs.head?, isAsciiDigit x → groups < withDigits n (ds ++ [x])

/-- What a replacement stands for, read from left to right, given the number of groups and their texts. -/
inductive Stands (groups : Nat) (groupText : Nat → List Char) : List Char → List Char → Prop where
  | nil : Stands groups groupText [] []
  /-- A character behind a backslash stands for itself. -/
  | escaped (c : Char) {cs out : List Char} (h : Stands groups groupText cs out) :
    Stands groups groupText ('\\' :: c :: cs) (c :: out)
  /-- So does a backslash at the end. -/
  | backslash : Stands groups groupText ['\\'] ['\\']
  /-- A dollar sign before a digit stands for the group of that number, extended by further digits as long as it is at
      most the number of groups. -/
  | group {d : Char} {ds cs out : List Char} (hd : isAsciiDigit d) (hds : Longest groups (digitValue d) ds cs)
    (h : Stands groups groupText cs out) :
    Stands groups groupText ('$' :: d :: (ds ++ cs)) (groupText (withDigits (digitValue d) ds) ++ out)
  /-- Any other dollar sign stands for itself. -/
  | dollar {cs out : List Char} (hcs : ∀ x ∈ cs.head?, ¬ isAsciiDigit x) (h : Stands groups groupText cs out) :
    Stands groups groupText ('$' :: cs) ('$' :: out)
  /-- So does any other character. -/
  | char {c : Char} {cs out : List Char} (hbackslash : c ≠ '\\') (hdollar : c ≠ '$')
    (h : Stands groups groupText cs out) : Stands groups groupText (c :: cs) (c :: out)

/-- No dollar sign stands right before a brace, unless it is behind a backslash that is not itself behind one. -/
def BraceFree : List Char → Prop
  | [] => True
  | '\\' :: _ :: cs => BraceFree cs
  | '$' :: cs => cs.head? ≠ some '\x7b' ∧ BraceFree cs
  | _ :: cs => BraceFree cs

/-- A text with a backslash before every backslash and every dollar sign. -/
def escape (cs : List Char) : List Char :=
  cs.flatMap fun c => if c = '\\' ∨ c = '$' then ['\\', c] else [c]

/-! ### Templates -/

section Template

variable (m : Match) (text : Array Char) (names : List (String × Nat))

@[simp] theorem expand_nil : m.expand text names [] = [] := by
  rw [Match.expand, templateParts, List.flatMap_nil]

/-- Two dollar signs give one. -/
theorem expand_dollars (cs : List Char) :
    m.expand text names ('$' :: '$' :: cs) = '$' :: m.expand text names cs := by
  rw [Match.expand, templateParts, List.flatMap_cons]
  rfl

/-- A character that is no dollar sign gives itself. -/
theorem expand_char {c : Char} (h : c ≠ '$') (cs : List Char) :
    m.expand text names (c :: cs) = c :: m.expand text names cs := by
  rw [Match.expand, templateParts, List.flatMap_cons]
  · rfl
  all_goals
    intros
    contradiction

/-- Digits are read as the number that they write, if it is not too large. -/
theorem readUnsigned?_digits {ds : List Char} (hds : AreDigits ds) (hne : ds ≠ [])
    (h : digitsValue ds < UInt64.size) : readUnsigned? ds = some (digitsValue ds) := by
  cases ds with
  | nil => exact absurd rfl hne
  | cons d ds =>
    have hplus : d ≠ '+' := by
      rintro rfl
      exact absurd (hds '+' List.mem_cons_self) (by decide)
    unfold readUnsigned?
    extract_lets digits
    have hdigits : digits = d :: ds := by
      simp only [digits]
      split
      · next heq => exact absurd (List.cons.inj heq).1 hplus
      · rfl
    rw [hdigits, if_neg]
    simp [hds.all, h]

/-- A number in braces gives the text of its group. -/
theorem expand_group {n : Nat} (h : n < UInt64.size) (cs : List Char) :
    m.expand text names ('$' :: '\x7b' :: ((toString n).toList ++ '\x7d' :: cs)) =
      m.groupText text n ++ m.expand text names cs := by
  have hdigits := areDigits_repr n
  have htake : ((toString n).toList ++ '\x7d' :: cs).takeWhile (· != '\x7d') = (toString n).toList := by
    rw [List.takeWhile_append_of_pos]
    · simp
    · intro c hc
      have hdigit := hdigits c hc
      simp only [bne_iff_ne]
      rintro rfl
      exact absurd hdigit (by decide)
  have hread : readUnsigned? (toString n).toList = some n := by
    have hvalue := digitsValue_repr n
    have hread := readUnsigned?_digits hdigits (toList_repr_ne_nil n) (hvalue.symm ▸ h)
    rwa [hvalue] at hread
  rw [Match.expand, templateParts]
  simp only [htake]
  rw [if_pos (by simp), List.flatMap_cons, TemplatePart.reference, hread, ← List.drop_drop, List.drop_left]
  rfl

end Template

/-! ### Numbers of groups -/

theorem withDigits_cons (n : Nat) (d : Char) (ds : List Char) :
    withDigits n (d :: ds) = withDigits (10 * n + digitValue d) ds := by
  rw [withDigits, List.foldl_cons, withDigits]

/-- Further digits make a number no smaller. -/
theorem le_withDigits (n : Nat) (ds : List Char) : n ≤ withDigits n ds := by
  induction ds generalizing n with
  | nil => exact Nat.le_refl n
  | cons d ds ih =>
    have := ih (10 * n + digitValue d)
    rw [withDigits_cons]
    omega

/-- The first of the digits that extend a number does so, and the others extend what comes of it. -/
theorem longest_cons_iff {groups n : Nat} {d : Char} {ds cs : List Char} :
    Longest groups n (d :: ds) cs ↔
      isAsciiDigit d ∧ 10 * n + digitValue d ≤ groups ∧ Longest groups (10 * n + digitValue d) ds cs := by
  constructor
  · rintro ⟨hdigits, hle, hlt⟩
    have hle := hle.resolve_left (List.cons_ne_nil d ds)
    refine ⟨hdigits d List.mem_cons_self, Nat.le_trans (le_withDigits _ ds) hle, ?_, .inr hle, hlt⟩
    exact fun c hc => hdigits c (List.mem_cons_of_mem d hc)
  · rintro ⟨hd, hle, hdigits, hle', hlt⟩
    refine ⟨List.forall_mem_cons.2 ⟨hd, hdigits⟩, .inr ?_, hlt⟩
    rcases hle' with rfl | hle'
    · exact hle
    · exact hle'

/-- The number of a group is as long as can be. -/
theorem groupNumber_append {groups n : Nat} {ds cs : List Char} (h : Longest groups n ds cs) :
    groupNumber groups n (ds ++ cs) = (withDigits n ds, ds.length) := by
  induction ds generalizing n with
  | nil =>
    cases cs with
    | nil => rfl
    | cons x cs =>
      rw [List.nil_append, groupNumber, if_neg]
      · rfl
      · intro hx
        rw [Bool.and_eq_true, decide_eq_true_iff] at hx
        exact absurd hx.2 (Nat.not_le_of_lt (h.lt x rfl hx.1))
  | cons d ds ih =>
    obtain ⟨hd, hle, h⟩ := longest_cons_iff.1 h
    rw [List.cons_append, groupNumber, if_pos (by simp [hd, hle]), ih h]
    rfl

/-- Every text begins with the digits that extend a number as far as can be. -/
theorem exists_longest (groups n : Nat) (cs : List Char) : ∃ ds rest, cs = ds ++ rest ∧ Longest groups n ds rest := by
  induction cs generalizing n with
  | nil => exact ⟨[], [], rfl, nofun, .inl rfl, nofun⟩
  | cons c cs ih =>
    by_cases hc : isAsciiDigit c ∧ 10 * n + digitValue c ≤ groups
    · obtain ⟨ds, rest, rfl, h⟩ := ih (10 * n + digitValue c)
      exact ⟨c :: ds, rest, rfl, longest_cons_iff.2 ⟨hc.1, hc.2, h⟩⟩
    · refine ⟨[], c :: cs, rfl, nofun, .inl rfl, ?_⟩
      rintro x ⟨⟩ hx
      exact Nat.lt_of_not_le fun hle => hc ⟨hx, hle⟩

/-! ### Replacements -/

section Replacement

variable {groups : Nat} {groupText : Nat → List Char}

/-- The template of a reference. -/
theorem templateOfReplacement_group {d : Char} {ds cs : List Char} (hd : isAsciiDigit d)
    (h : Longest groups (digitValue d) ds cs) :
    templateOfReplacement groups ('$' :: d :: (ds ++ cs)) =
      '$' :: '\x7b' :: ((toString (withDigits (digitValue d) ds)).toList ++
        '\x7d' :: templateOfReplacement groups cs) := by
  rw [templateOfReplacement, if_pos hd, groupNumber_append h]
  · dsimp only
    rw [List.drop_left]
  rintro rfl
  cases hd

/-- The template of a dollar sign that begins no reference. -/
theorem templateOfReplacement_dollar {cs : List Char} (hcs : ∀ x ∈ cs.head?, ¬ isAsciiDigit x)
    (hbrace : cs.head? ≠ some '\x7b') :
    templateOfReplacement groups ('$' :: cs) = '$' :: '$' :: templateOfReplacement groups cs := by
  cases cs with
  | nil => rw [templateOfReplacement, templateOfReplacement]
  | cons d cs =>
    rw [templateOfReplacement, if_neg (hcs d rfl)]
    rintro rfl
    exact hbrace rfl

/-- The template of a character behind a backslash. -/
theorem templateOfReplacement_escaped (c : Char) (cs : List Char) :
    templateOfReplacement groups ('\\' :: c :: cs) =
      (if c = '$' then ['$', '$'] else [c]) ++ templateOfReplacement groups cs := by
  split
  · next hc =>
    subst hc
    rw [templateOfReplacement]
    rfl
  · next hc =>
    rw [templateOfReplacement]
    · rfl
    · exact hc

/-- The template of any other character. -/
theorem templateOfReplacement_char {c : Char} (hbackslash : c ≠ '\\') (hdollar : c ≠ '$') (cs : List Char) :
    templateOfReplacement groups (c :: cs) = c :: templateOfReplacement groups cs := by
  rw [templateOfReplacement]
  all_goals
    intros
    contradiction

/-- Every replacement stands for something. -/
theorem Stands.exists (groups : Nat) (groupText : Nat → List Char) (cs : List Char) :
    ∃ out, Stands groups groupText cs out := by
  match cs with
  | [] => exact ⟨[], .nil⟩
  | c :: cs =>
    by_cases hbackslash : c = '\\'
    · subst hbackslash
      cases cs with
      | nil => exact ⟨_, .backslash⟩
      | cons c cs =>
        obtain ⟨out, h⟩ := Stands.exists groups groupText cs
        exact ⟨_, .escaped c h⟩
    by_cases hdollar : c = '$'
    · subst hdollar
      by_cases hcs : ∀ x ∈ cs.head?, ¬ isAsciiDigit x
      · obtain ⟨out, h⟩ := Stands.exists groups groupText cs
        exact ⟨_, .dollar hcs h⟩
      · cases cs with
        | nil => exact absurd nofun hcs
        | cons d cs =>
          have hd : isAsciiDigit d := by
            by_contra hd
            exact hcs fun x hx => Option.mem_some.1 hx ▸ hd
          obtain ⟨ds, rest, hsplit, hds⟩ := exists_longest groups (digitValue d) cs
          have hlt : rest.length < cs.length + 2 := by
            rw [hsplit, List.length_append]
            omega
          obtain ⟨out, h⟩ := Stands.exists groups groupText rest
          subst hsplit
          exact ⟨_, .group hd hds h⟩
    · obtain ⟨out, h⟩ := Stands.exists groups groupText cs
      exact ⟨_, .char hbackslash hdollar h⟩
termination_by cs.length
decreasing_by all_goals simp only [List.length_cons] at *; omega

end Replacement

/-! ### Both together -/

theorem isAsciiDigit_iff {d : Char} : isAsciiDigit d ↔ '0'.toNat ≤ d.toNat ∧ d.toNat ≤ '9'.toNat := by
  rw [isAsciiDigit, Bool.and_eq_true, decide_eq_true_iff, decide_eq_true_iff]
  exact Iff.rfl

theorem digitValue_le {d : Char} (h : isAsciiDigit d) : digitValue d ≤ 9 := by
  have := (isAsciiDigit_iff.1 h).2
  rw [digitValue]
  exact Nat.sub_le_sub_right this _

/-- The number of a reference has at most as many bits as the number of groups may have. -/
theorem Longest.lt_size {groups : Nat} {d : Char} {ds cs : List Char} (h : Longest groups (digitValue d) ds cs)
    (hd : isAsciiDigit d) (hgroups : groups < UInt64.size) : withDigits (digitValue d) ds < UInt64.size := by
  rcases h.le with rfl | hle
  · exact Nat.lt_of_le_of_lt (digitValue_le hd) (by decide)
  · exact Nat.lt_of_le_of_lt hle hgroups

theorem braceFree_char {c : Char} (hbackslash : c ≠ '\\') (hdollar : c ≠ '$') {cs : List Char} :
    BraceFree (c :: cs) ↔ BraceFree cs := by
  rw [BraceFree]
  all_goals
    intros
    contradiction

theorem braceFree_digits {ds : List Char} (hds : AreDigits ds) {cs : List Char} :
    BraceFree (ds ++ cs) ↔ BraceFree cs := by
  induction ds with
  | nil => rfl
  | cons d ds ih =>
    obtain ⟨hd, hds⟩ := List.forall_mem_cons.1 hds
    rw [List.cons_append, braceFree_char, ih hds] <;>
    · rintro rfl
      exact absurd hd (by decide)

/-- A template gives what the replacement that it is made of stands for. -/
theorem expand_of_stands {groups : Nat} {m : Match} {text : Array Char} {names : List (String × Nat)}
    (hgroups : groups < UInt64.size) {cs out : List Char} (h : Stands groups (m.groupText text) cs out)
    (hcs : BraceFree cs) : m.expand text names (templateOfReplacement groups cs) = out := by
  induction h with
  | nil => rw [templateOfReplacement, expand_nil]
  | @escaped c cs out _ ih =>
    rw [templateOfReplacement_escaped]
    split
    · next hc =>
      rw [List.cons_append, List.cons_append, List.nil_append, expand_dollars, ih hcs, hc]
    · next hc =>
      rw [List.cons_append, List.nil_append, expand_char _ _ _ hc, ih hcs]
  | backslash =>
    rw [templateOfReplacement, templateOfReplacement, expand_char _ _ _ (by decide), expand_nil]
    all_goals
      intros
      contradiction
  | @group d ds cs out hd hds _ ih =>
    obtain ⟨-, hcs⟩ := hcs
    have hcs := (braceFree_digits (List.forall_mem_cons.2 ⟨hd, hds.digits⟩)).1 hcs
    rw [templateOfReplacement_group hd hds, expand_group _ _ _ (hds.lt_size hd hgroups), ih hcs]
  | @dollar cs out hdigit _ ih =>
    obtain ⟨hbrace, hcs⟩ := hcs
    rw [templateOfReplacement_dollar hdigit hbrace, expand_dollars, ih hcs]
  | @char c cs out hbackslash hdollar _ ih =>
    rw [templateOfReplacement_char hbackslash hdollar, expand_char _ _ _ hdollar,
      ih ((braceFree_char hbackslash hdollar).1 hcs)]

/-- The replacement that a text becomes by backslashes stands for the text, whatever the groups are. -/
theorem stands_escape (groups : Nat) (groupText : Nat → List Char) (cs : List Char) :
    Stands groups groupText (escape cs) cs := by
  induction cs with
  | nil => exact .nil
  | cons c cs ih =>
    rw [escape, List.flatMap_cons]
    split
    · exact .escaped c ih
    · next hc =>
      rw [not_or] at hc
      exact .char hc.1 hc.2 ih

theorem braceFree_escape (cs : List Char) : BraceFree (escape cs) := by
  induction cs with
  | nil => trivial
  | cons c cs ih =>
    rw [escape, List.flatMap_cons]
    split
    · exact ih
    · next hc =>
      rw [not_or] at hc
      exact (braceFree_char hc.1 hc.2).2 ih

/-- The template of a replacement gives exactly what the replacement stands for read from left to right, for every
    match, whatever its groups and their names are, if their number has 64 bits. So a text with a backslash before
    every backslash and every dollar sign gives the text itself. -/
theorem expand_templateOfReplacement (groups : Nat) (hgroups : groups < UInt64.size) (m : Match) (text : Array Char)
    (names : List (String × Nat)) :
    (∀ cs out, BraceFree cs →
      (m.expand text names (templateOfReplacement groups cs) = out ↔ Stands groups (m.groupText text) cs out)) ∧
    ∀ cs, m.expand text names (templateOfReplacement groups (escape cs)) = cs := by
  constructor
  · intro cs out hcs
    constructor
    · rintro rfl
      obtain ⟨out, h⟩ := Stands.exists groups (m.groupText text) cs
      rwa [expand_of_stands hgroups h hcs]
    · exact fun h => expand_of_stands hgroups h hcs
  · intro cs
    exact expand_of_stands hgroups (stands_escape groups _ cs) (braceFree_escape cs)

/-- For a pattern with one group, two digits behind a dollar sign name the group of the first one. -/
theorem expand_templateOfReplacement_digits :
    let m : Match := ⟨0, 2, [(2, 0), (3, 2)]⟩
    let text : Array Char := #['a', 'b']
    let cs : List Char := ['$', '1', '2', '\\', '$']
    1 < UInt64.size ∧ BraceFree cs ∧ Stands 1 (m.groupText text) cs ['a', 'b', '2', '$'] ∧
      m.expand text [] (templateOfReplacement 1 cs) = ['a', 'b', '2', '$'] ∧
      m.expand text [] (templateOfReplacement 1 (escape cs)) = cs := by
  intro m text cs
  have hsize : 1 < UInt64.size := by decide
  have hcs : BraceFree cs := ⟨by decide, trivial⟩
  have hstands : Stands 1 (m.groupText text) cs ['a', 'b', '2', '$'] := by
    have hrest : Stands 1 (m.groupText text) ['2', '\\', '$'] ['2', '$'] :=
      .char (by decide) (by decide) (.escaped '$' .nil)
    refine @Stands.group 1 _ '1' [] _ _ rfl ⟨nofun, .inl rfl, ?_⟩ hrest
    rintro x ⟨⟩ -
    decide
  obtain ⟨hexpand, hescape⟩ := expand_templateOfReplacement 1 hsize m text []
  exact ⟨hsize, hcs, hstands, (hexpand cs _ hcs).2 hstands, hescape cs⟩

end AssignScript.Pattern
