/-!
# Regular expressions as a parameter

Patterns are regular expressions of a library that is not part of the program. What the program asks of the library
is a parameter of everything that evaluates.

## Main definitions

* `CompiledPattern`: what can be done with a pattern that the library has accepted;
* `PatternLibrary`: a library, which accepts a pattern or says what is wrong with it.
-/

namespace AssignScript

/-- What can be done with a pattern that a library has accepted. -/
structure CompiledPattern where
  /-- Whether it matches somewhere in a text. -/
  isMatch : (text : String) → Bool
  /-- How many groups it has, the whole match not counted. -/
  groupCount : Nat
  /-- A text with every match replaced by what a template gives for it. -/
  replaceAll : (text template : String) → String

/-- A library of regular expressions. -/
class PatternLibrary where
  /-- Accepts a pattern, or says what is wrong with it. -/
  compile : (pattern : String) → Except String CompiledPattern

end AssignScript
