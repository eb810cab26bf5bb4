import AssignScript.Pattern.Notation
import AssignScript.Pattern.Template
import AssignScript.PatternLibrary

/-!
# A library of regular expressions

A pattern is a regular expression ready to be searched for. The program is run with the library of these patterns.

## Main definitions

* `Pattern`, `Pattern.ofNotation?`;
* `Pattern.isMatch`: whether a pattern matches in a text;
* `Pattern.replaceAll`: a text with every match replaced;
* `Pattern.library`: the library of patterns.
-/

namespace AssignScript

/-- A regular expression ready to be searched for. -/
structure Pattern where
  /-- Its program. -/
  program : Pattern.Program
  /-- How many groups it has. -/
  groupCount : Nat
  /-- The names of groups with their numbers. -/
  groupNames : List (String × Nat)

namespace Pattern

/-- Reads a pattern, unless its notation is wrong. -/
def ofNotation? (text : String) : Option Pattern := do
  let (r, names) ← Regex.ofNotation? text
  return ⟨r.program, r.groupCount, names⟩

/-- Whether a pattern matches somewhere in a text. -/
def isMatch (p : Pattern) (text : String) : Bool :=
  (p.program.find? text.toList.toArray 0).isSome

/-- What becomes of a text from a place on, given the matches there. -/
def replaceFrom (text : Array Char) (expand : Match → List Char) (place : Nat) :
    List Match → List Char
  | [] => (text.extract place text.size).toList
  | m :: ms =>
    (text.extract place m.start).toList ++ (expand m ++ replaceFrom text expand m.stop ms)

/-- A text with every match replaced by what a template gives for it. -/
def replaceAll (p : Pattern) (text template : String) : String :=
  let chars := text.toList.toArray
  .ofList <| replaceFrom chars (fun m => m.expand chars p.groupNames template.toList) 0
    (p.program.findAll chars)

/-- The library of patterns. It does not say what is wrong with a text that is none. -/
instance library : PatternLibrary where
  compile text :=
    match ofNotation? text with
    | some p => .ok ⟨p.isMatch, p.groupCount, p.replaceAll⟩
    | none => .error "not a regular expression"

end Pattern

end AssignScript
