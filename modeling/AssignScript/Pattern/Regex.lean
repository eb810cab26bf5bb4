import AssignScript.Pattern.NamedSet

/-!
# Regular expressions

What a pattern says once its notation is resolved: characters of sets, tests of the place between two
characters, and how these follow one another.

## Main definitions

* `Look`, `Look.holds`: tests of a place;
* `Regex`: expressions;
* `Regex.minLength?`, `Regex.maxLength?`: how long a match can be;
* `Regex.ofSet`, `Regex.sequence`, `Regex.choice`, `Regex.repeated`: expressions in their simplest form.

## Design notes

Expressions are built by the functions of the last item only. These leave no sequence in a sequence and no
choice in a choice, join literals that follow one another, make one set of a choice between single
characters or between sets, and take out what all branches of a choice start with. How much memory a
pattern takes depends on this form.
-/

namespace AssignScript.Pattern

open Text

/-- Tests of the place between two characters. Where words matter, they are made of all word characters
    or of the ASCII ones. -/
inductive Look where
  /-- Before the first character. -/
  | textStart
  /-- Behind the last character. -/
  | textEnd
  /-- At the start of a line; `crlf` counts carriage returns as ends of lines too. -/
  | lineStart (crlf : Bool)
  /-- At the end of a line. -/
  | lineEnd (crlf : Bool)
  /-- Between a word and what is none. -/
  | wordBoundary (unicode : Bool)
  /-- Inside a word or outside of all. -/
  | noWordBoundary (unicode : Bool)
  /-- Where a word starts. -/
  | wordStart (unicode : Bool)
  /-- Where a word ends. -/
  | wordEnd (unicode : Bool)
  /-- Behind what is no word. -/
  | wordStartHalf (unicode : Bool)
  /-- Before what is no word. -/
  | wordEndHalf (unicode : Bool)
  deriving DecidableEq, Repr

namespace Look

/-- Whether a neighbour of a place belongs to a word. -/
def isWord (unicode : Bool) : Option Char → Bool
  | none => false
  | some c => if unicode then CharSet.wordTable.contains c else CharSet.asciiWord.contains c

/-- Whether a test holds between two neighbours, either of which is missing at an end of the text. -/
def holds (look : Look) (before after : Option Char) : Bool :=
  match look with
  | .textStart => before.isNone
  | .textEnd => after.isNone
  | .lineStart crlf =>
    before.isNone || before == some '\n' ||
      (crlf && before == some '\r' && after != some '\n')
  | .lineEnd crlf =>
    if crlf then
      after.isNone || after == some '\r' || (after == some '\n' && before != some '\r')
    else after.isNone || after == some '\n'
  | .wordBoundary u => isWord u before != isWord u after
  | .noWordBoundary u => isWord u before == isWord u after
  | .wordStart u => !isWord u before && isWord u after
  | .wordEnd u => isWord u before && !isWord u after
  | .wordStartHalf u => !isWord u before
  | .wordEndHalf u => !isWord u after

end Look

/-- Regular expressions. -/
inductive Regex where
  /-- The empty text. -/
  | empty
  /-- Given characters, one at least. -/
  | literal (c : Char) (cs : List Char)
  /-- A character of a set. -/
  | set (s : CharSet)
  /-- Nothing, where a test holds. -/
  | look (l : Look)
  /-- An expression whose match is remembered under a number. -/
  | group (index : Nat) (r : Regex)
  /-- One expression, then another. -/
  | seq (a b : Regex)
  /-- One expression, or else another. -/
  | alt (a b : Regex)
  /-- An expression some number of times, as often as possible or, if not greedy, as rarely. -/
  | repeat (r : Regex) (least : Nat) (most : Option Nat) (greedy : Bool)
  deriving DecidableEq, Inhabited

namespace Regex

/-! ### Lengths -/

/-- How many bytes characters take. -/
def byteLength (cs : List Char) : Nat :=
  cs.foldl (fun n c => n + c.utf8Size) 0

/-- An operation on two numbers that both are there. -/
def both? (op : Nat → Nat → Nat) (m n : Option Nat) : Option Nat := do
  return op (← m) (← n)

/-- The bytes of the shortest match, tests aside, if there can be one. -/
def minLength? : Regex → Option Nat
  | .empty | .look _ => some 0
  | .literal c cs => some (byteLength (c :: cs))
  | .set s => s.ranges.head?.map fun r => (Char.ofNat r.1).utf8Size
  | .group _ r => r.minLength?
  | .seq a b => both? (· + ·) a.minLength? b.minLength?
  | .alt a b => both? min a.minLength? b.minLength?
  | .repeat r least _ _ => r.minLength?.map (· * least)

/-- The bytes of the longest match, tests aside, if there is one. -/
def maxLength? : Regex → Option Nat
  | .empty | .look _ => some 0
  | .literal c cs => some (byteLength (c :: cs))
  | .set s => s.ranges.getLast?.map fun r => (Char.ofNat r.2).utf8Size
  | .group _ r => r.maxLength?
  | .seq a b => both? (· + ·) a.maxLength? b.maxLength?
  | .alt a b => both? max a.maxLength? b.maxLength?
  | .repeat r _ most _ => both? (· * ·) r.maxLength? most

/-- Whether an expression matches nothing but the empty text. -/
def isEmptyOnly (r : Regex) : Bool :=
  r.maxLength? == some 0

/-- Whether an expression can match the empty text, its tests aside, or nothing at all. -/
def canBeEmpty (r : Regex) : Bool :=
  r.minLength?.all (· == 0)

/-- The highest number of a group in an expression, zero if it has none. -/
def groupCount : Regex → Nat
  | .empty | .literal _ _ | .set _ | .look _ => 0
  | .group index r => max index r.groupCount
  | .seq a b | .alt a b => max a.groupCount b.groupCount
  | .repeat r _ _ _ => r.groupCount

/-! ### Sets and sequences -/

/-- A character of a set; the character itself if there is only one. -/
def ofSet (s : CharSet) : Regex :=
  match s.single? with
  | some c => .literal c []
  | none => .set s

/-- What an expression is a sequence of. -/
def parts : Regex → List Regex
  | .empty => []
  | .seq a b => a.parts ++ b.parts
  | r => [r]

/-- An expression before others. A literal becomes one with a literal behind it. -/
def attach : Regex → List Regex → List Regex
  | .literal c cs, .literal d ds :: rest => .literal c (cs ++ d :: ds) :: rest
  | r, rest => r :: rest

/-- One expression after the other. -/
def ofParts : List Regex → Regex
  | [] => .empty
  | [r] => r
  | r :: rs => .seq r (ofParts rs)

/-- Expressions that follow one another. -/
def sequence (rs : List Regex) : Regex :=
  ofParts ((rs.flatMap parts).foldr attach [])

/-! ### Choices -/

/-- What an expression is a choice of. -/
def branches : Regex → List Regex
  | .alt a b => a.branches ++ b.branches
  | r => [r]

/-- The only character that an expression matches. -/
def char? : Regex → Option Char
  | .literal c [] => some c
  | _ => none

/-- The set of which an expression matches a character. -/
def set? : Regex → Option CharSet
  | .set s => some s
  | _ => none

/-- One expression or else the next; none of no expressions. -/
def ofBranches : List Regex → Regex
  | [] => .set .empty
  | [r] => r
  | r :: rs => .alt r (ofBranches rs)

/-- A choice of branches none of which is a choice. Characters, and likewise sets, become one set. -/
def merge (rs : List Regex) : Regex :=
  match rs.mapM char?, rs.mapM set? with
  | some cs, _ => ofSet (.ofChars cs)
  | none, some sets => ofSet (.unions sets)
  | none, none => ofBranches rs

/-- The parts of a sequence of two or more. -/
def sequenceParts? : Regex → Option (List Regex)
  | .seq a b => some (Regex.seq a b).parts
  | _ => none

/-- What two lists start with. -/
def commonStart : List Regex → List Regex → List Regex
  | a :: as, b :: bs => if a = b then a :: commonStart as bs else []
  | _, _ => []

/-- Expressions of which one is taken, the earlier ones first. Where all are sequences, what they all start
    with is taken out. -/
def choice (rs : List Regex) : Regex :=
  let flat := rs.flatMap branches
  match flat.mapM sequenceParts? with
  | some (first :: second :: others) =>
    let common := (second :: others).foldl commonStart first
    if common.isEmpty then merge flat
    else
      let rests := (first :: second :: others).map fun ps => sequence (ps.drop common.length)
      sequence (common ++ [merge (rests.flatMap branches)])
  | _ => merge flat

/-! ### Repetitions -/

/-- A repetition in its simplest form: what matches only the empty text is not repeated, zero times is
    empty, and once is the expression itself. -/
def repeated (r : Regex) (least : Nat) (most : Option Nat) (greedy : Bool) : Regex :=
  let (least, most) :=
    if r.isEmptyOnly then (min least 1, some (min (most.getD 1) 1)) else (least, most)
  match least, most with
  | 0, some 0 => .empty
  | 1, some 1 => r
  | _, _ => .repeat r least most greedy

end Regex

end AssignScript.Pattern
