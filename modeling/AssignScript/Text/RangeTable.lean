/-!
# Tables of code point ranges

A property of characters is kept as the sorted list of the code point ranges that have it. The table
is written as lines of text, ranges in hexadecimal and separated by spaces, and looked up by halving.

## Main definitions

* `hexNumber?`: the number that hexadecimal digits write;
* `partsBetween`: the parts of a text between separators;
* `RangeTable`, `RangeTable.ofLines`, `RangeTable.contains`.
-/

namespace AssignScript.Text

/-- The value of a hexadecimal digit. -/
def hexDigit? (c : Char) : Option Nat :=
  if '0' ≤ c ∧ c ≤ '9' then some (c.toNat - '0'.toNat)
  else if 'a' ≤ c ∧ c ≤ 'f' then some (c.toNat - 'a'.toNat + 10)
  else if 'A' ≤ c ∧ c ≤ 'F' then some (c.toNat - 'A'.toNat + 10)
  else none

/-- The number that a nonempty list of hexadecimal digits writes. -/
def hexNumber? : List Char → Option Nat
  | [] => none
  | cs => cs.foldl (fun total c => do return 16 * (← total) + (← hexDigit? c)) (some 0)

/-- The parts of a text between separators. -/
def partsBetween (separator : Char) : List Char → List (List Char)
  | [] => [[]]
  | c :: cs =>
    if c = separator then [] :: partsBetween separator cs
    else match partsBetween separator cs with
      | [] => [[c]]
      | part :: parts => (c :: part) :: parts

/-- Sorted, disjoint ranges of code points, both ends included. -/
structure RangeTable where
  /-- The ranges, in ascending order. -/
  ranges : Array (Nat × Nat)

namespace RangeTable

/-- Reads one range: a single code point, or two with a hyphen between. -/
def range? (word : List Char) : Option (Nat × Nat) :=
  match partsBetween '-' word with
  | [single] => (hexNumber? single).map fun n => (n, n)
  | [first, last] => do return (← hexNumber? first, ← hexNumber? last)
  | _ => none

/-- Reads the ranges of a line. -/
def rangesOf (line : List Char) : List (Nat × Nat) :=
  (partsBetween ' ' line).filterMap range?

/-- Reads a table from the lines of its text. -/
def ofLines (lines : List String) : RangeTable :=
  ⟨(lines.flatMap fun line => rangesOf line.toList).toArray⟩

/-- Whether one of the ranges at the positions `lo ≤ i < hi` holds `n`. -/
def holdsWithin (ranges : Array (Nat × Nat)) (n lo hi : Nat) : Bool :=
  if _ : lo < hi then
    let mid := (lo + hi) / 2
    match ranges[mid]? with
    | none => false
    | some (first, last) =>
      if n < first then holdsWithin ranges n lo mid
      else if last < n then holdsWithin ranges n (mid + 1) hi
      else true
  else false
termination_by hi - lo

/-- Whether a code point is in the table. -/
def containsCode (t : RangeTable) (n : Nat) : Bool :=
  holdsWithin t.ranges n 0 t.ranges.size

/-- Whether a character is in the table. -/
def contains (t : RangeTable) (c : Char) : Bool :=
  t.containsCode c.toNat

end RangeTable

end AssignScript.Text
