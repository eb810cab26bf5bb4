import AssignScript.Text.CaseMap
import AssignScript.Text.Property

/-!
# Upper and lower case

Whole texts change case, not only single characters: a character may become several, and the Greek
capital sigma has another lower case at the end of a word.

## Main definitions

* `toUpper`, `toLower`: the full, language-independent case mappings of a text.
-/

namespace AssignScript.Text

/-- The upper case of one character. -/
def upperChar (c : Char) : List Char :=
  if c.toNat < 0x80 then [c.toUpper]
  else match CaseMap.expansions.image? c with
    | some cs => cs
    | none => [(CaseMap.raising.image? c).getD c]

/-- The lower case of one character that does not depend on its neighbours. -/
def lowerChar (c : Char) : List Char :=
  if c.toNat < 0x80 then [c.toLower]
  else if c = '\u0130' then ['i', '\u0307']
  else [(CaseMap.lowering.image? c).getD c]

/-- Whether a cased letter comes first, once the characters that case ignores are passed over. -/
def startsCased (cs : List Char) : Bool :=
  match cs.dropWhile Property.caseIgnorable.contains with
  | [] => false
  | c :: _ => Property.cased.contains c

/-- Lower case from left to right; `before` holds the characters already passed, the last one
    first. A capital sigma that ends a word takes its final form. -/
def lowerAfter (before : List Char) : List Char → List Char
  | [] => []
  | c :: cs =>
    let lower :=
      if c = 'Σ' then if startsCased before && !startsCased cs then ['ς'] else ['σ']
      else lowerChar c
    lower ++ lowerAfter (c :: before) cs

/-- The lower case of a text. -/
def toLower (s : String) : String :=
  String.ofList (lowerAfter [] s.toList)

/-- The upper case of a text. -/
def toUpper (s : String) : String :=
  String.ofList (s.toList.flatMap upperChar)

end AssignScript.Text
