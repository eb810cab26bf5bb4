import AssignScript.Decimal.Natural

/-!
# Replacements

The replacement of a match is written in a notation with backslashes, which becomes a template of the library of
regular expressions. In a template a dollar sign begins a reference to a group, and two stand for one.

## Main definitions

* `groupNumber`: the number of a group that a replacement refers to;
* `templateOfReplacement`: the template that a replacement stands for.
-/

namespace AssignScript.Pattern

open Text Decimal

/-- The number of a group that starts with some digits, extended by further digits as long as there is a
    group of that number, and how many further digits that takes.

    Machine words do for this: a number that is extended is one digit or at most `groups`, which counts the groups of
    one compiled pattern, so that ten times as many are still far fewer than `2 ^ 64`. -/
def groupNumber (groups : Nat) : (index : Nat) → List Char → Nat × Nat
  | index, [] => (index, 0)
  | index, d :: cs =>
    if isAsciiDigit d && 10 * index + digitValue d ≤ groups then
      let (number, count) := groupNumber groups (10 * index + digitValue d) cs
      (number, count + 1)
    else (index, 0)

/-- The template that a replacement stands for, for a pattern with some number of groups. A backslash
    makes the next character stand for itself, a dollar sign before digits refers to a group, and any
    other dollar sign, unless a brace follows, stands for itself. -/
def templateOfReplacement (groups : Nat) : List Char → List Char
  | [] => []
  | '\\' :: '$' :: cs => '$' :: '$' :: templateOfReplacement groups cs
  | '\\' :: c :: cs => c :: templateOfReplacement groups cs
  | '$' :: '\x7b' :: cs => '$' :: '\x7b' :: templateOfReplacement groups cs
  | '$' :: d :: cs =>
    if isAsciiDigit d then
      let (number, count) := groupNumber groups (digitValue d) cs
      '$' :: '\x7b' :: ((toString number).toList ++
        '\x7d' :: templateOfReplacement groups (cs.drop count))
    else '$' :: '$' :: templateOfReplacement groups (d :: cs)
  | ['$'] => ['$', '$']
  | c :: cs => c :: templateOfReplacement groups cs
termination_by cs => cs.length
decreasing_by all_goals simp only [List.length_cons, List.length_drop]; omega

end AssignScript.Pattern
