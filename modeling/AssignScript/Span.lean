import AssignScript.Position

/-!
# Spans of a text

A span is the piece of a text between two places, kept together with the piece itself so that a message
can quote it.

## Main definitions

* `sliceBytes?`: the characters between two byte offsets;
* `Span`, `Span.ofSource`, `Span.unplaced`.
-/

namespace AssignScript

/-- Splits a text after `n` bytes; nothing when that falls inside a character or past the end. -/
def splitAtByte? : List Char → Nat → Option (List Char × List Char)
  | cs, 0 => some ([], cs)
  | [], _ + 1 => none
  | c :: cs, n + 1 =>
    if c.utf8Size ≤ n + 1 then
      (splitAtByte? cs (n + 1 - c.utf8Size)).map fun parts => (c :: parts.1, parts.2)
    else none

/-- The characters between two byte offsets; nothing when they are out of order, past the end, or
    inside a character. -/
def sliceBytes? (cs : List Char) (first last : Nat) : Option (List Char) := do
  guard (first ≤ last)
  let (_, rest) ← splitAtByte? cs first
  let (slice, _) ← splitAtByte? rest (last - first)
  return slice

/-- A piece of a text with its two ends. -/
structure Span where
  /-- Where the piece starts. -/
  start : Position
  /-- Where the piece stops. -/
  stop : Position
  /-- The piece itself. -/
  text : String
  deriving DecidableEq, Repr, Inhabited

namespace Span

/-- The span of a text between two places; its text is empty if there is no such piece. -/
def ofSource (source : List Char) (start stop : Position) : Span :=
  ⟨start, stop, String.ofList ((sliceBytes? source start.offset stop.offset).getD [])⟩

/-- A span for a text that was not read from a source. -/
def unplaced (text : String) : Span :=
  ⟨.start, .start, text⟩

/-- How a span is named in a message: by its start. -/
def describe (s : Span) : String :=
  s.start.describe

end Span

end AssignScript
