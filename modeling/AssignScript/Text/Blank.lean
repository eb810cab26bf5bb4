/-!
# Blank characters

Three notions of blank are in use: what separates the words of a script, what the one-sided trims
remove, and what the two-sided trim removes.

## Main definitions

* `isBlank`: the 25 characters with the Unicode property White_Space;
* `isAsciiBlank`: space, tab, line feed, form feed and carriage return;
* `isControlOrSpace`: every character up to the space;
* `trimBoth`, `trimLeft`, `trimRight`: removal at the ends of a list of characters.
-/

namespace AssignScript.Text

/-- Whether a character has the Unicode property White_Space. -/
def isBlank (c : Char) : Bool :=
  let n := c.toNat
  (9 ≤ n && n ≤ 13) || n == 0x20 || n == 0x85 || n == 0xA0 || n == 0x1680 ||
    (0x2000 ≤ n && n ≤ 0x200A) || n == 0x2028 || n == 0x2029 || n == 0x202F || n == 0x205F ||
    n == 0x3000

/-- Whether a character is a space, tab, line feed, form feed or carriage return. -/
def isAsciiBlank (c : Char) : Bool :=
  c == ' ' || c == '\t' || c == '\n' || c == '\x0c' || c == '\r'

/-- Whether a character is the space or comes before it. -/
def isControlOrSpace (c : Char) : Bool :=
  c.toNat ≤ 0x20

/-- Removes characters with a property from the front. -/
def trimLeft (p : Char → Bool) (cs : List Char) : List Char :=
  cs.dropWhile p

/-- Removes characters with a property from the back. -/
def trimRight (p : Char → Bool) (cs : List Char) : List Char :=
  (cs.reverse.dropWhile p).reverse

/-- Removes characters with a property from both ends. -/
def trimBoth (p : Char → Bool) (cs : List Char) : List Char :=
  trimRight p (trimLeft p cs)

end AssignScript.Text
