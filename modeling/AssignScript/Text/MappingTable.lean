import AssignScript.Text.RangeTable

/-!
# Tables that move characters

A mapping between characters is kept as runs: from `first` to `last`, every `step`-th code point moves
by one and the same shift. The few characters that become several are listed one by one.

## Main definitions

* `MappingTable.ofLines`, `MappingTable.image?`;
* `ExpansionTable.ofLines`, `ExpansionTable.image?`.
-/

namespace AssignScript.Text

/-- Equally spaced code points that all move by the same shift. -/
structure MappingRun where
  /-- The first code point that moves. -/
  first : Nat
  /-- The last code point that moves. -/
  last : Nat
  /-- The distance between two neighbours that move. -/
  step : Nat
  /-- How far each of them moves. -/
  shift : Int

/-- Sorted, disjoint runs of code points that move. -/
structure MappingTable where
  /-- The runs, in ascending order. -/
  runs : Array MappingRun

namespace MappingTable

/-- Reads a shift: hexadecimal digits, after a hyphen if it goes down. -/
def shift? (word : List Char) : Option Int :=
  match word with
  | '-' :: digits => (hexNumber? digits).map fun n => -(n : Int)
  | digits => (hexNumber? digits).map fun n => (n : Int)

/-- Reads one run: first, last, step and shift with commas between. -/
def run? (word : String) : Option MappingRun :=
  match word.splitOn "," with
  | [first, last, step, shift] => do
    return ⟨← hexNumber? first.toList, ← hexNumber? last.toList, ← hexNumber? step.toList,
      ← shift? shift.toList⟩
  | _ => none

/-- Reads a table from the lines of its text. -/
def ofLines (lines : List String) : MappingTable :=
  ⟨(lines.flatMap fun line => (line.splitOn " ").filterMap run?).toArray⟩

/-- The shift of `n` in the runs at the positions `lo ≤ i < hi`. -/
def shiftWithin (runs : Array MappingRun) (n lo hi : Nat) : Option Int :=
  if _ : lo < hi then
    let mid := (lo + hi) / 2
    match runs[mid]? with
    | none => none
    | some run =>
      if n < run.first then shiftWithin runs n lo mid
      else if run.last < n then shiftWithin runs n (mid + 1) hi
      else if (n - run.first) % run.step = 0 then some run.shift
      else none
  else none
termination_by hi - lo

/-- Where a character goes, if the table moves it. -/
def image? (t : MappingTable) (c : Char) : Option Char :=
  (shiftWithin t.runs c.toNat 0 t.runs.size).map fun shift => Char.ofNat ((c.toNat : Int) + shift).toNat

/-- Every move of the table, from and to. -/
def moves (t : MappingTable) : List (Char × Char) :=
  t.runs.toList.flatMap fun run =>
    (List.range ((run.last - run.first) / run.step + 1)).map fun i =>
      let n := run.first + i * run.step
      (Char.ofNat n, Char.ofNat ((n : Int) + run.shift).toNat)

end MappingTable

/-- Characters that become several. -/
structure ExpansionTable where
  /-- Each character with what it becomes. -/
  entries : List (Char × List Char)

namespace ExpansionTable

/-- Reads one entry: the character, a colon, and what it becomes with commas between. -/
def entry? (word : String) : Option (Char × List Char) :=
  match word.splitOn ":" with
  | [single, several] => do
    let code ← hexNumber? single.toList
    let codes ← (several.splitOn ",").mapM fun part => hexNumber? part.toList
    return (Char.ofNat code, codes.map Char.ofNat)
  | _ => none

/-- Reads a table from the lines of its text. -/
def ofLines (lines : List String) : ExpansionTable :=
  ⟨lines.flatMap fun line => (line.splitOn " ").filterMap entry?⟩

/-- What a character becomes, if the table lists it. -/
def image? (t : ExpansionTable) (c : Char) : Option (List Char) :=
  t.entries.lookup c

end ExpansionTable

end AssignScript.Text
