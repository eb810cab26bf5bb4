import AssignScript.PatternLibrary

/-!
# What is documented of a library of regular expressions

Theorems about patterns take the library as it comes, and what its documents say of patterns as a hypothesis: which
texts are patterns, between which places of a text a pattern can match, what a group and the tests of both ends mean,
and that a group that is opened is closed.

## Main definitions

* `framed`: the text of a pattern in a group, with tests before and behind;
* `PatternMeaning`: what patterns mean, apart from any library;
* `PatternMeaning.Closes`: patterns behind which a parenthesis closes a group;
* `PatternMeaning.Describes`: a library keeps to the meaning of patterns.

## Design notes

Of the notation of patterns no more is said than what holds of a text as it stands, as no pattern is taken apart. A
parenthesis behind a pattern can belong to the pattern, since there are notations with comments; if it does not, there
is no group for it to close, and the two together are no pattern. Limits of the size and of the nesting of a pattern
are no matter of the notation.
-/

namespace AssignScript

/-- A test of an end of the text. -/
inductive Anchor where
  /-- Nothing stands before the place. -/
  | start
  /-- Nothing stands behind the place. -/
  | stop
  deriving DecidableEq

namespace Anchor

/-- The sign of a test. -/
def sign : Anchor → Char
  | .start => '^'
  | .stop => '$'

/-- A place passes a test. -/
def Holds (text : List Char) (place : Nat) : Anchor → Prop
  | .start => place = 0
  | .stop => place = text.length

instance (text : List Char) (place : Nat) : (a : Anchor) → Decidable (a.Holds text place)
  | .start => inferInstanceAs (Decidable (place = 0))
  | .stop => inferInstanceAs (Decidable (place = text.length))

/-- The signs of some tests. -/
def signs (anchors : List Anchor) : String :=
  .ofList (anchors.map sign)

end Anchor

/-- The text of a pattern in a group, with tests before and behind. -/
def framed (before : List Anchor) (pattern : String) (behind : List Anchor) : String :=
  Anchor.signs before ++ "(?:" ++ pattern ++ ")" ++ Anchor.signs behind

/-- What patterns mean. -/
structure PatternMeaning where
  /-- A text is a pattern. -/
  Valid : (pattern : String) → Prop
  /-- A pattern takes more room, or nests more deeply, than a library allows. -/
  TooBig : (pattern : String) → Prop
  /-- A pattern can match in a text, from one place to another. -/
  Matches : (pattern : String) → (text : List Char) → (first last : Nat) → Prop

namespace PatternMeaning

variable (m : PatternMeaning)

/-- A text is a pattern, and a parenthesis behind it closes a group. -/
def Closes (pattern : String) : Prop :=
  m.Valid pattern ∧ ¬m.Valid (pattern ++ ")")

/-- A library keeps to the meaning of patterns. -/
structure Describes (library : PatternLibrary) : Prop where
  /-- It accepts the patterns that do not take too much room. -/
  compile : ∀ p, (∃ compiled, library.compile p = .ok compiled) ↔ m.Valid p ∧ ¬m.TooBig p
  /-- A pattern matches in a text if it can match from some place to another. -/
  isMatch : ∀ p compiled, library.compile p = .ok compiled →
    ∀ text, compiled.isMatch text = true ↔ ∃ first last, m.Matches p text.toList first last
  /-- A pattern in a group, with tests before and behind, is a pattern. -/
  valid : ∀ p, m.Closes p → ∀ before behind, m.Valid (framed before p behind)
  /-- A group matches what the pattern in it does. -/
  group : ∀ p, m.Closes p → ∀ text first last,
    m.Matches (framed [] p []) text first last ↔ m.Matches p text first last
  /-- One test more before a group is made where the match starts. -/
  before : ∀ p, m.Closes p → ∀ a before behind text first last,
    m.Matches (framed (a :: before) p behind) text first last ↔
      a.Holds text first ∧ m.Matches (framed before p behind) text first last
  /-- One test more behind a group is made where the match stops. -/
  behind : ∀ p, m.Closes p → ∀ a before behind text first last,
    m.Matches (framed before p (a :: behind)) text first last ↔
      m.Matches (framed before p behind) text first last ∧ a.Holds text last
  /-- A group that is opened behind some tests is closed behind a pattern. -/
  closed : ∀ (before : List Anchor) (rest : String), m.Valid (Anchor.signs before ++ "(?:" ++ rest) →
    ∃ inside behind, rest = inside ++ ")" ++ behind ∧ m.Closes inside

end PatternMeaning

end AssignScript
