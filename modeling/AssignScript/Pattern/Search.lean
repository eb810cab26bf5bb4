import AssignScript.Pattern.Program
import Std.Data.TreeSet.Basic

/-!
# Searching

A search follows the instructions of a program, the preferred way first, and comes back to the next way
where one fails. No instruction is followed twice at the same place: what failed there once fails again.

## Main definitions

* `Match`, `Match.group?`: a match and the matches of its groups;
* `Program.step`: the ways on from an instruction;
* `Program.find?`: the leftmost match from a place on;
* `Program.findAll`: matches that do not overlap, from left to right.
-/

namespace AssignScript.Pattern

/-- A way through a program that is still to be tried. -/
structure Thread where
  /-- The address of the next instruction. -/
  address : Nat
  /-- How many characters of the text lie before the place. -/
  place : Nat
  /-- Slots with the places they remember, the last one first. -/
  marks : List (Nat × Nat)

/-- A match in a text. -/
structure Match where
  /-- Where it starts. -/
  start : Nat
  /-- Where it stops. -/
  stop : Nat
  /-- Slots with the places they remember, the last one first. -/
  marks : List (Nat × Nat)

/-- The places between which a group matched, if it took part. Group 0 is the whole match. -/
def Match.group? (m : Match) (index : Nat) : Option (Nat × Nat) :=
  if index = 0 then some (m.start, m.stop)
  else do return (← m.marks.lookup (2 * index), ← m.marks.lookup (2 * index + 1))

/-- What comes of following one instruction. -/
inductive Step where
  /-- The match is complete. -/
  | done
  /-- The ways to try next, the preferred one first. -/
  | ways (threads : List Thread)

namespace Program

/-- The character before a place. -/
def before? (text : Array Char) : (place : Nat) → Option Char
  | 0 => none
  | place + 1 => text[place]?

/-- Follows one instruction. -/
def step (p : Program) (text : Array Char) (t : Thread) : Step :=
  match p[t.address]? with
  | none => .ways []
  | some .accept => .done
  | some (.char c next) =>
    .ways (if text[t.place]? = some c then [⟨next, t.place + 1, t.marks⟩] else [])
  | some (.set table next) =>
    .ways (if text[t.place]?.any table.contains then [⟨next, t.place + 1, t.marks⟩] else [])
  | some (.look l next) =>
    .ways (if l.holds (before? text t.place) text[t.place]? then [⟨next, t.place, t.marks⟩] else [])
  | some (.save slot next) => .ways [⟨next, t.place, (slot, t.place) :: t.marks⟩]
  | some (.jump next) => .ways [⟨next, t.place, t.marks⟩]
  | some (.split first second) =>
    .ways [⟨first, t.place, t.marks⟩, ⟨second, t.place, t.marks⟩]

/-- Instructions that have been followed, each at its place. -/
abbrev Visited := Std.TreeSet Nat

/-- The number under which an instruction counts as followed at a place. -/
def visit (p : Program) (t : Thread) : Nat :=
  t.place * p.size + t.address

/-- What comes of trying ways until one completes a match. -/
inductive Exploration where
  /-- The way that completed a match. -/
  | found (t : Thread)
  /-- No way did; all that they led to has been visited. -/
  | exhausted (seen : Visited)

/-- Tries ways in order, each with all that it leads to before the next. -/
def explore (p : Program) (text : Array Char) : (fuel : Nat) → Visited → List Thread → Exploration
  | 0, seen, _ => .exhausted seen
  | _ + 1, seen, [] => .exhausted seen
  | fuel + 1, seen, t :: others =>
    if seen.contains (p.visit t) then p.explore text fuel seen others
    else
      match p.step text t with
      | .done => .found t
      | .ways threads => p.explore text fuel (seen.insert (p.visit t)) (threads ++ others)

/-- Fuel for any exploration from one way: an instruction leads to two ways at most, and is followed once
    at each place. -/
def explorationFuel (p : Program) (text : Array Char) : Nat :=
  2 * (p.size * (text.size + 1)) + 2

/-- The first match that starts at one of `count` consecutive places. -/
def findFrom (p : Program) (text : Array Char) :
    (count place : Nat) → Visited → Option Match
  | 0, _, _ => none
  | count + 1, place, seen =>
    match p.explore text (p.explorationFuel text) seen [⟨0, place, []⟩] with
    | .found t => some ⟨place, t.place, t.marks⟩
    | .exhausted seen => findFrom p text count (place + 1) seen

/-- The leftmost match that starts at or after a place; of those that start together, the preferred
    one. -/
def find? (p : Program) (text : Array Char) (place : Nat) : Option Match :=
  p.findFrom text (text.size + 1 - place) place ∅

/-- The next match after one that stopped at a place: not the empty one right there. -/
def findAfter? (p : Program) (text : Array Char) (place : Nat) : Option Match :=
  match p.find? text place with
  | none => none
  | some m => if m.stop = place then p.find? text (place + 1) else some m

/-- Matches in order, given a match and how many more there can be. -/
def matchesAfter (p : Program) (text : Array Char) : (room : Nat) → Match → List Match
  | 0, m => [m]
  | room + 1, m =>
    m :: match p.findAfter? text m.stop with
      | none => []
      | some next => matchesAfter p text room next

/-- All matches from left to right, none of which overlaps the one before. -/
def findAll (p : Program) (text : Array Char) : List Match :=
  match p.find? text 0 with
  | none => []
  | some m => p.matchesAfter text (text.size + 1) m

end Program

end AssignScript.Pattern
