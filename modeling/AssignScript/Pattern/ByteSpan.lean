import AssignScript.Pattern.CharSet

/-!
# Characters as bytes

In UTF-8 a character is one to four bytes. A range of characters is cut into spans, in each of which every
byte varies on its own.

## Main definitions

* `ByteRange`: the values that one byte can have;
* `byteSpans`, `charSpans`: the spans of a range of characters, in ascending order;
* `CharSet.spans`, `charBytes`: the spans of a set, and the bytes of a character.
-/

namespace AssignScript.Pattern

/-- The values from one to another, both included, that a byte can have. -/
structure ByteRange where
  /-- The first value. -/
  low : Nat
  /-- The last value. -/
  high : Nat
  deriving DecidableEq, Inhabited, Repr

/-- Any byte that goes on with a character. -/
def ByteRange.continuation : ByteRange := ⟨0x80, 0xbf⟩

/-- The spans of the numbers from `first` to `last`, written as a byte with some bits set and so many
    bytes of six bits behind it. -/
def byteSpans (mark : Nat) : (trailing : Nat) → (first last : Nat) → List (List ByteRange)
  | 0, first, last => [[⟨mark + first, mark + last⟩]]
  | trailing + 1, first, last =>
    let block := Nat.pow 64 (trailing + 1)
    let a := first / block
    let b := last / block
    let under (lead first last : Nat) :=
      (byteSpans 0x80 trailing first last).map fun span => ⟨mark + lead, mark + lead⟩ :: span
    if a = b then under a (first % block) (last % block)
    else
      let low := if first % block = 0 then [] else under a (first % block) (block - 1)
      let full := if first % block = 0 then a else a + 1
      let high := if last % block = block - 1 then [] else under b 0 (last % block)
      let fullEnd := if last % block = block - 1 then b + 1 else b
      let middle :=
        if full < fullEnd then
          [⟨mark + full, mark + (fullEnd - 1)⟩ :: List.replicate (trailing + 1) .continuation]
        else []
      low ++ (middle ++ high)

/-- The lengths of characters: the bits that mark the first byte, the number of bytes behind it, and the
    first and the last code point. -/
def encodings : List (Nat × Nat × Nat × Nat) :=
  [(0, 0, 0, 0x7f), (0xc0, 1, 0x80, 0x7ff), (0xe0, 2, 0x800, 0xffff), (0xf0, 3, 0x10000, 0x10ffff)]

/-- The spans of the characters from one code point to another. -/
def charSpans (first last : Nat) : List (List ByteRange) :=
  encodings.flatMap fun (mark, trailing, least, most) =>
    let first := max first least
    let last := min last most
    if first ≤ last then byteSpans mark trailing first last else []

/-- The spans of a set. -/
def CharSet.spans (s : CharSet) : List (List ByteRange) :=
  s.ranges.flatMap fun r => charSpans r.1 r.2

/-- The bytes of a character. -/
def charBytes (c : Char) : List Nat :=
  (charSpans c.toNat c.toNat).flatten.map ByteRange.low

end AssignScript.Pattern
