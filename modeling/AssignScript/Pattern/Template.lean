import AssignScript.Decimal.Natural
import AssignScript.Pattern.Search

/-!
# Templates

A template is a text in which a dollar sign begins a reference to a group of a match.

## Main definitions

* `TemplatePart`, `templateParts`: what a template is made of;
* `Match.expand`: a template filled in from a match.
-/

namespace AssignScript.Pattern

open Text Decimal

/-- A part of a template. -/
inductive TemplatePart where
  /-- A character that stands for itself. -/
  | char (c : Char)
  /-- The text of a group by number. -/
  | group (index : Nat)
  /-- The text of a group by name. -/
  | named (name : String)
  deriving DecidableEq, Repr

namespace TemplatePart

/-- The reference of a number or else of a name. -/
def reference (cs : List Char) : TemplatePart :=
  match readUnsigned? cs with
  | some index => .group index
  | none => .named (String.ofList cs)

end TemplatePart

/-- Whether a character can be part of a reference without braces. -/
def isReferencePart (c : Char) : Bool :=
  isAsciiLetter c || isAsciiDigit c || c == '_'

/-- The parts of a template. Two dollar signs stand for one, and so does one that begins no
    reference. -/
def templateParts : List Char → List TemplatePart
  | [] => []
  | '$' :: '$' :: cs => .char '$' :: templateParts cs
  | '$' :: '\x7b' :: cs =>
    let name := cs.takeWhile (· != '\x7d')
    if name.length < cs.length then .reference name :: templateParts (cs.drop (name.length + 1))
    else .char '$' :: .char '\x7b' :: templateParts cs
  | '$' :: cs =>
    let name := cs.takeWhile isReferencePart
    if name.isEmpty then .char '$' :: templateParts cs
    else .reference name :: templateParts (cs.drop name.length)
  | c :: cs => .char c :: templateParts cs
termination_by cs => cs.length
decreasing_by all_goals simp only [List.length_cons, List.length_drop]; omega

/-- The characters of a group of a match, none if it took no part. -/
def Match.groupText (m : Match) (text : Array Char) (index : Nat) : List Char :=
  match m.group? index with
  | some (start, stop) => (text.extract start stop).toList
  | none => []

/-- What a part of a template gives for a match. -/
def Match.expandPart (m : Match) (text : Array Char) (names : List (String × Nat)) :
    TemplatePart → List Char
  | .char c => [c]
  | .group index => m.groupText text index
  | .named name => ((names.lookup name).map (m.groupText text)).getD []

/-- A template filled in from a match. -/
def Match.expand (m : Match) (text : Array Char) (names : List (String × Nat))
    (template : List Char) : List Char :=
  (templateParts template).flatMap (m.expandPart text names)

end AssignScript.Pattern
