import AssignScript.Text.Property

/-!
# Quoted text

A text is shown in quotes with everything escaped that would be misread or not be seen.

## Main definitions

* `hexadecimal`: a number in lower-case hexadecimal digits;
* `isSeen`: whether a character is shown as it is;
* `escapeChar`: a character as it is shown in quotes;
* `quoted`: a text in quotes.
-/

namespace AssignScript.Text

/-- A number in lower-case hexadecimal digits. -/
def hexadecimal (n : Nat) : String :=
  .ofList (Nat.toDigits 16 n)

/-- Whether a character can be seen as it is: the space, and whatever has a shape of its own and does not
    merge with the character before it. -/
def isSeen (c : Char) : Bool :=
  c == ' ' || (Property.visible.contains c && !Property.graphemeExtend.contains c &&
    !Property.defaultIgnorable.contains c)

/-- A character as it is shown in quotes: quotes and backslashes are marked by a backslash, four control
    characters have short names, and what cannot be seen is shown by its code point. -/
def escapeChar (c : Char) : String :=
  if c = '"' then "\\\""
  else if c = '\\' then "\\\\"
  else if c = '\x00' then "\\0"
  else if c = '\t' then "\\t"
  else if c = '\r' then "\\r"
  else if c = '\n' then "\\n"
  else if isSeen c then c.toString
  else "\\u\x7b" ++ hexadecimal c.toNat ++ "\x7d"

/-- A text in quotes. -/
def quoted (s : String) : String :=
  "\"" ++ String.join (s.toList.map escapeChar) ++ "\""

end AssignScript.Text
