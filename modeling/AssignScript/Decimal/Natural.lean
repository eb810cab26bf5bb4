import AssignScript.Text.Letter

/-!
# Natural numbers in decimal digits

## Main definitions

* `Decimal.digitValue`, `Decimal.digitsValue`: what digits write;
* `Decimal.readUnsigned?`: the number below `2 ^ 64` that a text writes.
-/

namespace AssignScript.Decimal

open Text

/-- The value of a decimal digit. -/
def digitValue (d : Char) : Nat :=
  d.toNat - '0'.toNat

/-- The whole number that decimal digits write. -/
def digitsValue (cs : List Char) : Nat :=
  cs.foldl (fun total c => 10 * total + digitValue c) 0

/-- The number that a text writes: digits, with a plus sign before them or not, below `2 ^ 64`. -/
def readUnsigned? (cs : List Char) : Option Nat :=
  let digits := match cs with
    | '+' :: digits => digits
    | digits => digits
  if digits.isEmpty || !digits.all isAsciiDigit || UInt64.size ≤ digitsValue digits then none
  else some (digitsValue digits)

end AssignScript.Decimal
