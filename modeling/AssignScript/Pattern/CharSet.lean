import AssignScript.Pattern.Unicode.Folding
import AssignScript.Text.Letter

/-!
# Sets of characters

The sets that a pattern can ask a character to be in. A set is kept as ascending ranges of code points with
a gap between any two, so that equal sets are kept alike. Surrogates are no characters and in no set.

## Main definitions

* `CharSet`, `CharSet.contains`, `CharSet.toTable`: sets, membership, and a form for quick look-up;
* `CharSet.union`, `CharSet.compl`, `CharSet.inter`, `CharSet.diff`, `CharSet.symmDiff`: operations;
* `CharSet.caseless`, `CharSet.asciiCaseless`: what differs at most in case from a member.
-/

namespace AssignScript.Pattern

open Text

/-- A set of characters as ascending ranges of code points, both ends included, with a gap between any
    two. -/
structure CharSet where
  /-- The ranges. -/
  ranges : List (Nat × Nat)
  deriving DecidableEq, Inhabited, Repr

namespace CharSet

/-- Whether a character is in a set. -/
def contains (s : CharSet) (c : Char) : Bool :=
  s.ranges.any fun r => r.1 ≤ c.toNat && c.toNat ≤ r.2

/-- A set in the form in which characters are looked up. -/
def toTable (s : CharSet) : RangeTable :=
  ⟨s.ranges.toArray⟩

/-- The characters of a table. -/
def ofTable (t : RangeTable) : CharSet :=
  ⟨t.ranges.toList⟩

/-- The empty set. -/
def empty : CharSet := ⟨[]⟩

/-! ### Operations -/

/-- A range before ascending ranges, joined with those that it reaches. -/
def absorb (first last : Nat) : List (Nat × Nat) → List (Nat × Nat)
  | [] => [(first, last)]
  | (a, b) :: rest =>
    if a ≤ last + 1 then absorb first (max last b) rest else (first, last) :: absorb a b rest

/-- Ranges in ascending order, joined where they meet. -/
def joinAscending : List (Nat × Nat) → List (Nat × Nat)
  | [] => []
  | (a, b) :: rest => absorb a b rest

/-- A range put among ascending ranges, behind which `rest` goes on with what is not before it. -/
def placeThen (r : Nat × Nat) (rest : List (Nat × Nat) → List (Nat × Nat)) :
    List (Nat × Nat) → List (Nat × Nat)
  | [] => r :: rest []
  | u :: us => if r.1 ≤ u.1 then r :: rest (u :: us) else u :: placeThen r rest us

/-- Two ascending lists of ranges in one. -/
def interleave : List (Nat × Nat) → List (Nat × Nat) → List (Nat × Nat)
  | [], us => us
  | r :: rs, us => placeThen r (interleave rs) us

/-- The characters of at least one of two sets. -/
def union (s t : CharSet) : CharSet :=
  ⟨joinAscending (interleave s.ranges t.ranges)⟩

/-- The code points between ascending ranges, from a given one up to the last of all. -/
def gaps (start : Nat) : List (Nat × Nat) → List (Nat × Nat)
  | [] => if start ≤ 0x10ffff then [(start, 0x10ffff)] else []
  | (a, b) :: rest => if start < a then (start, a - 1) :: gaps (b + 1) rest else gaps (b + 1) rest

/-- The code points that are no characters. -/
def surrogates : CharSet := ⟨[(0xd800, 0xdfff)]⟩

/-- The characters that are not in a set. -/
def compl (s : CharSet) : CharSet :=
  ⟨gaps 0 (s.union surrogates).ranges⟩

/-- The characters of both sets. -/
def inter (s t : CharSet) : CharSet :=
  (s.compl.union t.compl).compl

/-- The characters of the first set that are not in the second. -/
def diff (s t : CharSet) : CharSet :=
  (s.compl.union t).compl

/-- The characters of exactly one of two sets. -/
def symmDiff (s t : CharSet) : CharSet :=
  (s.diff t).union (t.diff s)

/-- The characters of at least one of some sets. -/
def unions (sets : List CharSet) : CharSet :=
  sets.foldr union empty

/-! ### Simple sets -/

/-- The set of one character. -/
def single (c : Char) : CharSet := ⟨[(c.toNat, c.toNat)]⟩

/-- The characters from one to another. -/
def range (first last : Char) : CharSet :=
  diff ⟨[(first.toNat, last.toNat)]⟩ surrogates

/-- The set of every character. -/
def all : CharSet := compl empty

/-- The set of some characters. -/
def ofChars (cs : List Char) : CharSet :=
  ⟨joinAscending (cs.foldr (fun c => placeThen (c.toNat, c.toNat) id) [])⟩

/-- The character of a set that has just one. -/
def single? (s : CharSet) : Option Char :=
  match s.ranges with
  | [(a, b)] => if a = b then some (Char.ofNat a) else none
  | _ => none

/-- Whether all characters of a set are ASCII. -/
def isAscii (s : CharSet) : Bool :=
  s.ranges.all fun r => r.2 < 0x80

/-- The decimal digits `0` to `9`. -/
def asciiDigit : CharSet := range '0' '9'

/-- The letters `A` to `Z` and `a` to `z`. -/
def asciiLetter : CharSet := (range 'A' 'Z').union (range 'a' 'z')

/-- The ASCII characters of words. -/
def asciiWord : CharSet := unions [asciiDigit, asciiLetter, single '_']

/-- The ASCII blanks, the vertical tab among them. -/
def asciiBlank : CharSet := (range '\t' '\r').union (single ' ')

/-! ### Case -/

/-- A set with everything that differs from a member at most by the given moves, each of which leads from
    a character to the one that stands for it. -/
def closure (moves : List (Char × Char)) (s : CharSet) : CharSet :=
  let members := s.toTable
  let heads := ofChars (moves.filterMap fun (c, head) =>
    if members.contains c || members.contains head then some head else none)
  let led := heads.toTable
  let others := ofChars (moves.filterMap fun (c, head) => if led.contains head then some c else none)
  unions [s, heads, others]

/-- The characters that differ at most in case from one of a set. -/
def caseless (s : CharSet) : CharSet :=
  s.closure Unicode.Folding.moves

/-- The moves between the two cases of ASCII letters. -/
def asciiMoves : List (Char × Char) :=
  (List.range 26).map fun i => (Char.ofNat ('a'.toNat + i), Char.ofNat ('A'.toNat + i))

/-- The characters that differ at most in the case of an ASCII letter from one of a set. -/
def asciiCaseless (s : CharSet) : CharSet :=
  s.closure asciiMoves

end CharSet

/-- An ASCII letter and the same letter in the other case; any other character alone. -/
def asciiCaseVariants (c : Char) : List Char :=
  if isAsciiLetter c then [c.toLower, c.toUpper] else [c]

end AssignScript.Pattern
