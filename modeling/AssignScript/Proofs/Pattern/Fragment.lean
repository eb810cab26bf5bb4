import AssignScript.Proofs.Pattern.Meaning

/-!
# A small library of regular expressions

The notation has letters, choices, groups and the tests of both ends. It is read sign by sign, with a stack of the
groups that are open. The library keeps to the meaning of its patterns, so that what theorems ask of a library can be
had, and it is the library that their examples are run with.

## Main definitions

* `Fragment.Ends`: where a pattern can stop that starts at a place;
* `Fragment.Sign`, `Fragment.signs?`: the signs of a text;
* `Fragment.Reading`, `Fragment.step`: what has been read, and one sign more;
* `Fragment.library`, `Fragment.meaning`.

## Main statements

* `Fragment.read_append_outer`: what groups are open outside does not matter inside;
* `Fragment.read_closing`: a group that is closed is closed behind a pattern;
* `Fragment.meaning_describes`: the library keeps to the meaning of its patterns.
-/

namespace AssignScript.Fragment

/-! ### Patterns -/

/-- Where a pattern can stop in a text if it starts at a place, the preferred way first. -/
abbrev Ends := (text : List Char) → (place : Nat) → List Nat

namespace Ends

/-- Nothing. -/
def empty : Ends := fun _ place => [place]

/-- No way at all. -/
def none : Ends := fun _ _ => []

/-- One letter. -/
def letter (c : Char) : Ends := fun text place => if text[place]? = some c then [place + 1] else []

/-- A test of an end. -/
def anchor (a : Anchor) : Ends := fun text place => if a.Holds text place then [place] else []

/-- One after the other. -/
def sequence (first second : Ends) : Ends := fun text place => (first text place).flatMap (second text)

/-- One or the other. -/
def choice (first second : Ends) : Ends := fun text place => first text place ++ second text place

end Ends

/-- A sign of a pattern. -/
inductive Sign where
  /-- A letter, which stands for itself. -/
  | letter (c : Char)
  /-- A test of an end. -/
  | anchor (a : Anchor)
  /-- The bar between two choices. -/
  | choice
  /-- The opening of a group. -/
  | opening
  /-- The closing of a group. -/
  | closing

/-- The sign of a character, unless it means something else by itself or with others. -/
def sign? : Char → Option Sign
  | '^' => some (.anchor .start)
  | '$' => some (.anchor .stop)
  | '|' => some .choice
  | ')' => some .closing
  | '(' | '[' | '\x7b' | '\\' | '.' | '*' | '+' | '?' => none
  | c => some (.letter c)

/-- The signs of a text. -/
def signs? : List Char → Option (List Sign)
  | [] => some []
  | '(' :: '?' :: ':' :: cs => (signs? cs).map (.opening :: ·)
  | c :: cs => do return (← sign? c) :: (← signs? cs)

/-- What has been read of a group that is open: the choices before the last bar, and what stands behind it. -/
structure Group where
  choices : Ends
  last : Ends

namespace Group

/-- A group of which nothing has been read. -/
def start : Group := ⟨.none, .empty⟩

/-- All choices of a group. -/
def ends (g : Group) : Ends := g.choices.choice g.last

/-- A group with something more. -/
def push (g : Group) (e : Ends) : Group := { g with last := g.last.sequence e }

end Group

/-- What has been read of a pattern: the group that is read, and those around it. -/
structure Reading where
  group : Group
  outer : List Group

/-- Reads one sign more. No group is closed that is not open. -/
def step (r : Reading) : Sign → Option Reading
  | .letter c => some { r with group := r.group.push (.letter c) }
  | .anchor a => some { r with group := r.group.push (.anchor a) }
  | .choice => some { r with group := ⟨r.group.ends, .empty⟩ }
  | .opening => some ⟨.start, r.group :: r.outer⟩
  | .closing =>
    match r.outer with
    | [] => none
    | g :: gs => some ⟨g.push r.group.ends, gs⟩

/-- Reads signs, one after the other. -/
def read (r : Reading) (signs : List Sign) : Option Reading :=
  signs.foldlM step r

/-- Where the pattern of a text can stop, if it is one. No group is left open. -/
def ends? (cs : List Char) : Option Ends := do
  let signs ← signs? cs
  let r ← read ⟨.start, []⟩ signs
  if r.outer.isEmpty then some r.group.ends else none

/-- What can be done with a pattern. It has no groups that could be referred to, and no example replaces a match. -/
def compiled (e : Ends) : CompiledPattern where
  isMatch text := (List.range (text.length + 1)).any fun place => !(e text.toList place).isEmpty
  groupCount := 0
  replaceAll text _ := text

/-- The library of these patterns. -/
scoped instance library : PatternLibrary where
  compile p :=
    match ends? p.toList with
    | some e => .ok (compiled e)
    | none => .error "not a pattern"

/-- What these patterns mean. None takes too much room. -/
def meaning : PatternMeaning where
  Valid p := (ends? p.toList).isSome
  TooBig _ := False
  Matches p text first last := first ≤ text.length ∧ ∃ e, ends? p.toList = some e ∧ last ∈ e text first

/-! ### The signs of a text -/

theorem signs?_cons {c : Char} {s : Sign} (h : sign? c = some s) (cs : List Char) :
    signs? (c :: cs) = (signs? cs).map (s :: ·) := by
  rw [signs?, h]
  · cases signs? cs <;> rfl
  · rintro _ rfl _
    cases h

/-- Where the signs of a text end, those of another can follow. -/
theorem signs?_append {cs ds : List Char} {ss : List Sign} (h : signs? cs = some ss) :
    signs? (cs ++ ds) = (signs? ds).map (ss ++ ·) := by
  fun_induction signs? cs generalizing ss with
  | case1 =>
    cases h
    simp
  | case2 cs ih =>
    obtain ⟨ts, hts, rfl⟩ := Option.map_eq_some_iff.1 h
    change (signs? (cs ++ ds)).map _ = _
    rw [ih hts, Option.map_map]
    rfl
  | case3 c cs hc ih =>
    obtain ⟨s, hs, h⟩ := Option.bind_eq_some_iff.1 h
    obtain ⟨ts, hts, h⟩ := Option.bind_eq_some_iff.1 h
    cases h
    rw [List.cons_append, signs?_cons hs, ih hts, Option.map_map]
    rfl

theorem eq_of_sign?_closing {c : Char} (h : sign? c = some .closing) : c = ')' := by
  unfold sign? at h
  split at h <;> first | rfl | cases h

/-- The sign that closes a group stands somewhere in the text. -/
theorem exists_of_signs?_closing {cs : List Char} {ss ts : List Sign} (h : signs? cs = some (ss ++ .closing :: ts)) :
    ∃ ds es, cs = ds ++ ')' :: es ∧ signs? ds = some ss := by
  fun_induction signs? cs generalizing ss with
  | case1 => cases ss <;> cases h
  | case2 cs ih =>
    obtain ⟨us, hus, h⟩ := Option.map_eq_some_iff.1 h
    cases ss with
    | nil => cases h
    | cons s ss =>
      cases h
      obtain ⟨ds, es, rfl, hds⟩ := ih hus
      refine ⟨'(' :: '?' :: ':' :: ds, es, rfl, ?_⟩
      rw [signs?, hds]
      rfl
  | case3 c cs hc ih =>
    obtain ⟨s, hs, h⟩ := Option.bind_eq_some_iff.1 h
    obtain ⟨us, hus, h⟩ := Option.bind_eq_some_iff.1 h
    cases ss with
    | nil =>
      cases h
      rw [eq_of_sign?_closing hs]
      exact ⟨[], cs, rfl, rfl⟩
    | cons s ss =>
      cases h
      obtain ⟨ds, es, rfl, hds⟩ := ih hus
      refine ⟨c :: ds, es, rfl, ?_⟩
      rw [signs?_cons hs, hds]
      rfl

theorem signs?_anchors (anchors : List Anchor) :
    signs? (anchors.map Anchor.sign) = some (anchors.map Sign.anchor) := by
  induction anchors with
  | nil => rfl
  | cons a anchors ih =>
    have ha : sign? a.sign = some (.anchor a) := by cases a <;> rfl
    rw [List.map_cons, signs?_cons ha, ih]
    rfl

/-! ### Groups inside one another -/

theorem step_append_outer {r t : Reading} {s : Sign} (h : step r s = some t) (outside : List Group) :
    step ⟨r.group, r.outer ++ outside⟩ s = some ⟨t.group, t.outer ++ outside⟩ := by
  obtain ⟨g, outer⟩ := r
  cases s with
  | closing =>
    cases outer with
    | nil => cases h
    | cons g' outer =>
      cases h
      rfl
  | _ =>
    cases h
    rfl

/-- What groups are open outside does not matter inside. -/
theorem read_append_outer {r t : Reading} {ss : List Sign} (h : read r ss = some t) (outside : List Group) :
    read ⟨r.group, r.outer ++ outside⟩ ss = some ⟨t.group, t.outer ++ outside⟩ := by
  induction ss generalizing r with
  | nil =>
    cases h
    rfl
  | cons s ss ih =>
    rw [read, List.foldlM_cons] at h ⊢
    obtain ⟨u, hu, h⟩ := Option.bind_eq_some_iff.1 h
    rw [step_append_outer hu]
    exact ih h

/-- A group that is closed is closed behind a pattern: where it is read, no group inside is open. -/
theorem read_closing {g g' : Group} {outer outside : List Group} {ss : List Sign} {r : Reading}
    (h : read ⟨g, outer ++ g' :: outside⟩ ss = some r) (hr : r.outer.length ≤ outside.length) :
    ∃ ts us x, ss = ts ++ .closing :: us ∧ read ⟨g, outer⟩ ts = some ⟨x, []⟩ := by
  induction ss generalizing g outer with
  | nil =>
    cases h
    rw [List.length_append, List.length_cons] at hr
    omega
  | cons s ss ih =>
    by_cases hs : s = .closing ∧ outer = []
    · obtain ⟨rfl, rfl⟩ := hs
      exact ⟨[], ss, g, rfl, rfl⟩
    · obtain ⟨t, ht⟩ : ∃ t, step ⟨g, outer⟩ s = some t := by
        cases s with
        | closing =>
          cases outer with
          | nil => exact absurd ⟨rfl, rfl⟩ hs
          | cons _ _ => exact ⟨_, rfl⟩
        | _ => exact ⟨_, rfl⟩
      rw [read, List.foldlM_cons, step_append_outer ht] at h
      obtain ⟨ts, us, x, rfl, hts⟩ := ih h
      refine ⟨s :: ts, us, x, rfl, ?_⟩
      rw [read, List.foldlM_cons, ht]
      exact hts

/-! ### Whole patterns -/

theorem ends?_eq_some {cs : List Char} {e : Ends} :
    ends? cs = some e ↔ ∃ ss g, signs? cs = some ss ∧ read ⟨.start, []⟩ ss = some ⟨g, []⟩ ∧ g.ends = e := by
  constructor
  · intro h
    obtain ⟨ss, hss, h⟩ := Option.bind_eq_some_iff.1 h
    obtain ⟨⟨g, outer⟩, hread, h⟩ := Option.bind_eq_some_iff.1 h
    cases outer with
    | nil =>
      cases h
      exact ⟨ss, g, hss, hread, rfl⟩
    | cons _ _ => cases h
  · rintro ⟨ss, g, hss, hread, rfl⟩
    change (signs? cs).bind _ = _
    rw [hss]
    change (read ⟨.start, []⟩ ss).bind _ = _
    rw [hread]
    rfl

theorem read_append (r : Reading) (ss ts : List Sign) : read r (ss ++ ts) = (read r ss).bind (read · ts) :=
  List.foldlM_append ..

/-- A parenthesis behind a pattern closes a group, as there are no comments. -/
theorem closes_iff {p : String} : meaning.Closes p ↔ meaning.Valid p := by
  refine ⟨And.left, fun h => ⟨h, fun hbehind => ?_⟩⟩
  obtain ⟨e, he⟩ := Option.isSome_iff_exists.1 h
  obtain ⟨ss, g, hss, hread, -⟩ := ends?_eq_some.1 he
  obtain ⟨e', he'⟩ := Option.isSome_iff_exists.1 hbehind
  obtain ⟨ss', g', hss', hread', -⟩ := ends?_eq_some.1 he'
  have hclosed : signs? (p ++ ")").toList = some (ss ++ [.closing]) := by
    rw [String.toList_append, signs?_append hss]
    rfl
  cases hclosed.symm.trans hss'
  rw [read_append, hread] at hread'
  cases hread'

/-- Tests are made one after the other, at the place where what stands before them stops. -/
theorem read_anchors (anchors : List Anchor) (g : Group) (outer : List Group) :
    ∃ last, read ⟨g, outer⟩ (anchors.map .anchor) = some ⟨⟨g.choices, last⟩, outer⟩ ∧
      ∀ text i j, j ∈ last text i ↔ j ∈ g.last text i ∧ ∀ a ∈ anchors, a.Holds text j := by
  induction anchors generalizing g with
  | nil => exact ⟨g.last, rfl, by simp⟩
  | cons a anchors ih =>
    obtain ⟨last, hread, hlast⟩ := ih (g.push (.anchor a))
    refine ⟨last, hread, fun text i j => ?_⟩
    have hpush : j ∈ (g.push (.anchor a)).last text i ↔ j ∈ g.last text i ∧ a.Holds text j := by
      simp only [Group.push, Ends.sequence, Ends.anchor, List.mem_flatMap, List.mem_ite_nil_right,
        List.mem_singleton]
      constructor
      · rintro ⟨_, hj, ha, rfl⟩
        exact ⟨hj, ha⟩
      · rintro ⟨hj, ha⟩
        exact ⟨j, hj, ha, rfl⟩
    rw [hlast, hpush, List.forall_mem_cons, and_assoc]

theorem signs?_framed {p : String} {ss : List Sign} (h : signs? p.toList = some ss) (before behind : List Anchor) :
    signs? (framed before p behind).toList =
      some (before.map .anchor ++ .opening :: (ss ++ .closing :: behind.map .anchor)) := by
  have htext : (framed before p behind).toList =
      before.map Anchor.sign ++ '(' :: '?' :: ':' :: (p.toList ++ ')' :: behind.map Anchor.sign) := by
    simp [framed, Anchor.signs]
  rw [htext, signs?_append (signs?_anchors before), signs?, signs?_append h, signs?_cons (s := .closing) rfl,
    signs?_anchors]
  rfl

/-- A pattern in a group, with tests before and behind. -/
theorem ends?_framed {p : String} {e : Ends} (h : ends? p.toList = some e) (before behind : List Anchor) :
    ∃ e', ends? (framed before p behind).toList = some e' ∧
      ∀ text i j, j ∈ e' text i ↔ (∀ a ∈ before, a.Holds text i) ∧ j ∈ e text i ∧
        ∀ a ∈ behind, a.Holds text j := by
  obtain ⟨ss, g, hss, hread, rfl⟩ := ends?_eq_some.1 h
  obtain ⟨first, hbefore, hfirst⟩ := read_anchors before .start []
  obtain ⟨last, hbehind, hlast⟩ := read_anchors behind (Group.push ⟨.none, first⟩ g.ends) []
  have hgroup : read ⟨.start, [⟨.none, first⟩]⟩ ss = some ⟨g, [⟨.none, first⟩]⟩ := read_append_outer hread _
  have hwhole : read ⟨.start, []⟩ (before.map .anchor ++ .opening :: (ss ++ .closing :: behind.map .anchor)) =
      some ⟨⟨.none, last⟩, []⟩ := by
    rw [read_append, hbefore]
    change read ⟨.start, [⟨.none, first⟩]⟩ (ss ++ _) = _
    rw [read_append, hgroup]
    exact hbehind
  refine ⟨_, ends?_eq_some.2 ⟨_, _, signs?_framed hss before behind, hwhole, rfl⟩, fun text i j => ?_⟩
  have hstart : ∀ k, k ∈ first text i ↔ k = i ∧ ∀ a ∈ before, a.Holds text k := fun k =>
    (hfirst text i k).trans (and_congr_left' List.mem_singleton)
  change j ∈ [] ++ last text i ↔ _
  rw [List.nil_append, hlast, ← and_assoc]
  refine and_congr_left' (List.mem_flatMap.trans ?_)
  constructor
  · rintro ⟨k, hk, hj⟩
    obtain ⟨rfl, hholds⟩ := (hstart k).1 hk
    exact ⟨hholds, hj⟩
  · rintro ⟨hholds, hj⟩
    exact ⟨i, (hstart i).2 ⟨rfl, hholds⟩, hj⟩

/-- A group that is opened behind some tests is closed behind a pattern. -/
theorem exists_of_opened {before : List Anchor} {rest : String}
    (h : meaning.Valid (Anchor.signs before ++ "(?:" ++ rest)) :
    ∃ inside behind, rest = inside ++ ")" ++ behind ∧ meaning.Valid inside := by
  obtain ⟨e, he⟩ := Option.isSome_iff_exists.1 h
  obtain ⟨ss, g, hss, hread, -⟩ := ends?_eq_some.1 he
  have htext : (Anchor.signs before ++ "(?:" ++ rest).toList =
      before.map Anchor.sign ++ '(' :: '?' :: ':' :: rest.toList := by
    simp [Anchor.signs]
  rw [htext, signs?_append (signs?_anchors before), signs?, Option.map_map] at hss
  obtain ⟨ts, hts, rfl⟩ := Option.map_eq_some_iff.1 hss
  obtain ⟨first, hbefore, -⟩ := read_anchors before .start []
  change read _ (before.map .anchor ++ .opening :: ts) = _ at hread
  rw [read_append, hbefore] at hread
  change read ⟨.start, [] ++ ⟨.none, first⟩ :: []⟩ ts = _ at hread
  obtain ⟨us, vs, x, rfl, hus⟩ := read_closing hread (Nat.le_refl 0)
  obtain ⟨ds, es, hrest, hds⟩ := exists_of_signs?_closing hts
  refine ⟨.ofList ds, .ofList es, String.toList_inj.1 ?_, ?_⟩
  · simp [hrest]
  · have hends : ends? (String.ofList ds).toList = some x.ends :=
      ends?_eq_some.2 ⟨us, x, by rwa [String.toList_ofList], hus, rfl⟩
    exact Option.isSome_iff_exists.2 ⟨_, hends⟩

theorem matches_iff {p : String} {e : Ends} (h : ends? p.toList = some e) {text : List Char} {i j : Nat} :
    meaning.Matches p text i j ↔ i ≤ text.length ∧ j ∈ e text i := by
  refine and_congr_right' ⟨?_, fun hj => ⟨e, h, hj⟩⟩
  rintro ⟨e', he', hj⟩
  cases h.symm.trans he'
  exact hj

theorem compile_of_ends? {p : String} {e : Ends} (h : ends? p.toList = some e) :
    library.compile p = .ok (compiled e) := by
  change (match ends? p.toList with | some e => Except.ok (compiled e) | none => _) = _
  rw [h]

theorem compile_isOk {p : String} : (∃ q, library.compile p = .ok q) ↔ ∃ e, ends? p.toList = some e := by
  constructor
  · rintro ⟨q, hq⟩
    change (match ends? p.toList with | some e => Except.ok (compiled e) | none => _) = _ at hq
    split at hq
    · exact ⟨_, ‹_›⟩
    · cases hq
  · rintro ⟨e, he⟩
    exact ⟨_, compile_of_ends? he⟩

/-- All tests around a group are made at once. -/
theorem matches_framed_iff {p : String} (hp : meaning.Valid p) (before behind : List Anchor) {text : List Char}
    {i j : Nat} : meaning.Matches (framed before p behind) text i j ↔
      (∀ a ∈ before, a.Holds text i) ∧ meaning.Matches p text i j ∧ ∀ a ∈ behind, a.Holds text j := by
  obtain ⟨e, he⟩ := Option.isSome_iff_exists.1 hp
  obtain ⟨e', he', hends⟩ := ends?_framed he before behind
  rw [matches_iff he', matches_iff he, hends, and_left_comm, and_assoc]

/-- The library keeps to the meaning of its patterns. -/
theorem meaning_describes : meaning.Describes library where
  compile p := compile_isOk.trans ((and_iff_left not_false).trans Option.isSome_iff_exists).symm
  isMatch p q h text := by
    obtain ⟨e, he⟩ := compile_isOk.1 ⟨q, h⟩
    cases (compile_of_ends? he).symm.trans h
    simp only [compiled, matches_iff he, List.any_eq_true, List.mem_range, Nat.lt_succ_iff, Bool.not_eq_true',
      List.isEmpty_eq_false_iff_exists_mem, exists_and_left, String.length_toList]
  valid p hp before behind := by
    obtain ⟨e, he⟩ := Option.isSome_iff_exists.1 hp.1
    obtain ⟨e', he', -⟩ := ends?_framed he before behind
    exact Option.isSome_iff_exists.2 ⟨e', he'⟩
  group p hp text i j := by simp [matches_framed_iff hp.1]
  before p hp a before behind text i j := by
    rw [matches_framed_iff hp.1, matches_framed_iff hp.1, List.forall_mem_cons, and_assoc]
  behind p hp a before behind text i j := by
    rw [matches_framed_iff hp.1, matches_framed_iff hp.1, List.forall_mem_cons, and_comm (a := a.Holds text j)]
    simp only [and_assoc]
  closed before rest h := by
    obtain ⟨inside, behind, hrest, hinside⟩ := exists_of_opened h
    exact ⟨inside, behind, hrest, closes_iff.2 hinside⟩

end AssignScript.Fragment
