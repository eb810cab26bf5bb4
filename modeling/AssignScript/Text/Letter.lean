import AssignScript.Text.Property

/-!
# Letters and numerals

The characters that names are made of. Below U+0080 the classes are decided without a table.

## Main definitions

* `isLetter`: the Unicode property Alphabetic;
* `isNumeral`: the general categories Nd, Nl and No;
* `isAsciiDigit`: the ten digits that numbers are written with.
-/

namespace AssignScript.Text

/-- Whether a character is one of the ten ASCII digits. -/
def isAsciiDigit (c : Char) : Bool :=
  '0' ≤ c && c ≤ '9'

/-- Whether a character is an ASCII letter. -/
def isAsciiLetter (c : Char) : Bool :=
  ('a' ≤ c && c ≤ 'z') || ('A' ≤ c && c ≤ 'Z')

/-- Whether a character is alphabetic. -/
def isLetter (c : Char) : Bool :=
  if c.toNat < 0x80 then isAsciiLetter c else Property.alphabetic.contains c

/-- Whether a character is a numeral of any script. -/
def isNumeral (c : Char) : Bool :=
  if c.toNat < 0x80 then isAsciiDigit c
  else Property.numeral.contains c

end AssignScript.Text
