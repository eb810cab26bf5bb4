import AssignScript.EvalError
import AssignScript.Operation.Replacement
import AssignScript.PatternLibrary

/-!
# Functions of texts

Offsets into a text count characters and start at zero. An argument that is null makes the result null,
once every argument before it, and of its kind, has the right type.

## Main definitions

* `substring`: the characters between two offsets;
* `replaceMatches`: a text with the matches of a pattern replaced;
* `nthOccurrence?`, `occurrence`: where a text occurs in another;
* `matchesWhole`: whether a pattern matches a text from end to end.
-/

namespace AssignScript

/-! ### Arguments -/

/-- A text as an argument; none if it is null. -/
def textArgument (function : String) : Value → Evaluated (Option String)
  | .null => .ok none
  | .string s => .ok (some s)
  | v => unexpected v function

/-- A whole number as an argument that may be left out for a default; none if it is null. -/
def offsetArgument (function : String) (default : Int64) : Option Value → Evaluated (Option Int64)
  | none => .ok (some default)
  | some .null => .ok none
  | some (.integer i) => .ok (some i)
  | some v => unexpected v function

/-! ### Pieces -/

/-- The length of a text as a number. -/
def lengthOf (s : String) : Int64 :=
  .ofNat s.toList.length

/-- The characters of a text from one offset up to another. -/
def slice (s : String) (first last : Int64) : Evaluated Value :=
  if 0 ≤ first.toInt ∧ first.toInt ≤ last.toInt ∧ last.toInt ≤ s.toList.length then
    let first := first.toInt.toNat
    let last := last.toInt.toNat
    .ok (.string (.ofList ((s.toList.take last).drop first)))
  else .error (.indexOutOfRange first last s.toList.length)

/-- `substr(value, first, last)`: by default from the start, and up to the end. -/
def substring (value : Value) (first last : Option Value) : Evaluated Value := do
  let some s ← textArgument "substr" value | return .null
  let first ← offsetArgument "substr" 0 first
  let last ← offsetArgument "substr" (lengthOf s) last
  match first, last with
  | some first, some last => slice s first last
  | _, _ => return .null

/-! ### Patterns -/

section Patterns

variable [PatternLibrary]

/-- Compiles a text that stands for a pattern of the user, which is named if the text is wrong. -/
def compilePattern (text pattern : String) : Evaluated CompiledPattern :=
  (PatternLibrary.compile text).mapError (.invalidPattern pattern)

/-- The text of a pattern with the tests of both ends around it. -/
def anchored (pattern : String) : String :=
  "^(?:" ++ pattern ++ ")$"

/-- Whether a pattern, put between the ends of a text, matches. -/
def matchesWhole (text pattern : String) : Evaluated Value := do
  let compiled ← compilePattern (anchored pattern) pattern
  return .boolean (compiled.isMatch text)

/-- `replace(value, pattern, replacement)`: by default matches are removed. -/
def replaceMatches (value pattern : Value) (replacement : Option Value) : Evaluated Value := do
  let replacement ← match replacement with
    | some v => textArgument "replace" v
    | none => pure (some "")
  let value ← textArgument "replace" value
  let pattern ← textArgument "replace" pattern
  match value, pattern, replacement with
  | some s, some p, some r =>
    let compiled ← compilePattern p p
    let template := Pattern.templateOfReplacement compiled.groupCount r.toList
    return .string (compiled.replaceAll s (.ofList template))
  | _, _, _ => return .null

end Patterns

/-! ### Occurrences -/

/-- The offset of the `n`-th occurrence of some characters among others; occurrences may overlap. -/
def nthOccurrence? (needle : List Char) : (n : Nat) → List Char → Option Nat
  | _, [] => none
  | n, c :: cs =>
    if needle.isPrefixOf (c :: cs) then
      if n ≤ 1 then some 0 else (nthOccurrence? needle (n - 1) cs).map (· + 1)
    else (nthOccurrence? needle n cs).map (· + 1)

/-- The place of the `n`-th occurrence, counted from one; zero if there is none. The empty text occurs
    at the first place however often. -/
def occurrencePlace (needle : List Char) (n : Int64) (cs : List Char) : Nat :=
  if n.toInt ≤ 0 then 0
  else if needle.isEmpty then 1
  else ((nthOccurrence? needle n.toInt.toNat cs).map (· + 1)).getD 0

/-- `instr(value, pattern, start, occurrence)`: by default the first one from the start. Places count
    from where the search starts. -/
def occurrence (value pattern : Value) (start occurrence : Option Value) : Evaluated Value := do
  let value ← textArgument "instr" value
  let pattern ← textArgument "instr" pattern
  match value, pattern with
  | some s, some p =>
    let start ← offsetArgument "instr" 0 start
    let occurrence ← offsetArgument "instr" 1 occurrence
    match start, occurrence with
    | some start, some n =>
      if 0 ≤ start.toInt ∧ start.toInt ≤ s.toList.length then
        return .integer (.ofNat (occurrencePlace p.toList n (s.toList.drop start.toInt.toNat)))
      else throw (.indexOutOfRange start (lengthOf s) s.toList.length)
    | _, _ => return .null
  | _, _ => return .null

end AssignScript
