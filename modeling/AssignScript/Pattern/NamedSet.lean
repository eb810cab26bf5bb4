import AssignScript.Pattern.CharSet
import AssignScript.Pattern.Unicode.Age
import AssignScript.Pattern.Unicode.Category
import AssignScript.Pattern.Unicode.GraphemeBreak
import AssignScript.Pattern.Unicode.Property
import AssignScript.Pattern.Unicode.ScriptExtension
import AssignScript.Pattern.Unicode.SentenceBreak
import AssignScript.Pattern.Unicode.WordBreak

/-!
# Sets of characters by name

The names that some sets go by in patterns, and the sets that have a sign of their own.

## Main definitions

* `CharSet.word`, `CharSet.digit`, `CharSet.blank`: words, digits and blanks of all scripts;
* `CharSet.ofPosixName?`: ASCII sets by name;
* `CharSet.ofPropertyName?`, `CharSet.ofPropertyValue?`: sets by a property, with or without a value.
-/

namespace AssignScript.Pattern.CharSet

open Text (RangeTable)
open Unicode

/-- The ASCII set that a name between `[:` and `:]` stands for. -/
def ofPosixName? : String → Option CharSet
  | "alnum" => some (asciiDigit.union asciiLetter)
  | "alpha" => some asciiLetter
  | "ascii" => some (range '\x00' '\x7f')
  | "blank" => some ((single '\t').union (single ' '))
  | "cntrl" => some ((range '\x00' '\x1f').union (single '\x7f'))
  | "digit" => some asciiDigit
  | "graph" => some (range '!' '~')
  | "lower" => some (range 'a' 'z')
  | "print" => some (range ' ' '~')
  | "punct" => some (unions [range '!' '/', range ':' '@', range '[' '\x60', range '\x7b' '~'])
  | "space" => some asciiBlank
  | "upper" => some (range 'A' 'Z')
  | "word" => some asciiWord
  | "xdigit" => some (unions [asciiDigit, range 'A' 'F', range 'a' 'f'])
  | _ => none

/-! ### Names -/

/-- A name of a property or of one of its values as names are compared: ASCII only, in lower case,
    without spaces, hyphens and underscores, and without a leading `is`. -/
def normalizeName (name : List Char) : String :=
  let (rest, cut) := match name with
    | i :: s :: rest =>
      if (i == 'i' || i == 'I') && (s == 's' || s == 'S') then (rest, true) else (name, false)
    | _ => (name, false)
  let kept := rest.filter fun c => c.toNat < 0x80 && c != ' ' && c != '-' && c != '_'
  let lower := String.ofList (kept.map Char.toLower)
  if cut && lower == "c" then "isc" else lower

/-- The entry of a list that goes by a name. -/
def lookupName? (entries : List (List String × RangeTable)) (name : String) : Option CharSet :=
  (entries.find? fun entry => entry.1.contains name).map fun entry => ofTable entry.2

/-! ### Categories -/

/-- The characters of some categories. -/
def ofCategories (names : List String) : CharSet :=
  unions (names.filterMap (lookupName? Category.named))

/-- The categories that letters are divided into. -/
def letterNames : List String := ["lu", "ll", "lt", "lm", "lo"]

/-- The categories that marks are divided into. -/
def markNames : List String := ["mn", "mc", "me"]

/-- The categories that numerals are divided into. -/
def numberNames : List String := ["nd", "nl", "no"]

/-- The categories that punctuation is divided into. -/
def punctuationNames : List String := ["pc", "pd", "ps", "pe", "pi", "pf", "po"]

/-- The categories that symbols are divided into. -/
def symbolNames : List String := ["sm", "sc", "sk", "so"]

/-- The categories that separators are divided into. -/
def separatorNames : List String := ["zs", "zl", "zp"]

/-- The characters that are assigned to some category. -/
def assigned : CharSet :=
  unions (Category.named.map fun entry => ofTable entry.2)

/-- The set of a general category or of several, by normalized name. There is none of the surrogates, which
    are no characters. -/
def ofCategoryName? (name : String) : Option CharSet :=
  if name == "any" then some all
  else if name == "assigned" then some assigned
  else if name == "ascii" then some (range '\x00' '\x7f')
  else if name ∈ ["l", "letter"] then some (ofCategories letterNames)
  else if name ∈ ["lc", "casedletter"] then some (ofCategories ["lu", "ll", "lt"])
  else if name ∈ ["m", "mark", "combiningmark"] then some (ofCategories markNames)
  else if name ∈ ["n", "number"] then some (ofCategories numberNames)
  else if name ∈ ["p", "punctuation", "punct"] then some (ofCategories punctuationNames)
  else if name ∈ ["s", "symbol"] then some (ofCategories symbolNames)
  else if name ∈ ["z", "separator"] then some (ofCategories separatorNames)
  else if name ∈ ["c", "other"] then
    some (ofCategories (letterNames ++ markNames ++ numberNames ++ punctuationNames ++ symbolNames ++
      separatorNames)).compl
  else if name ∈ ["cn", "unassigned"] then some assigned.compl
  else lookupName? Category.named name

/-! ### Properties -/

/-- The set of a script, by normalized name. -/
def ofScriptName? (name : String) : Option CharSet :=
  lookupName? Script.named name

/-- The characters that a version of Unicode already had, by the normalized name of the version. -/
def ofAgeName? (name : String) : Option CharSet :=
  let later := Age.named.dropWhile fun entry => !entry.1.contains name
  if later.isEmpty then none
  else
    let upTo := Age.named.take (Age.named.length - later.length + 1)
    some (unions (upTo.map fun entry => ofTable entry.2))

/-- The set that a single name stands for: a yes-or-no property, else a category, else a script. Three
    short names that a property shares with a category mean the category. -/
def ofPropertyName? (name : List Char) : Option CharSet :=
  let norm := normalizeName name
  let property := if norm ∈ ["cf", "sc", "lc"] then none else lookupName? Property.named norm
  property.or ((ofCategoryName? norm).or (ofScriptName? norm))

/-- The set of a property with a value: a general category, a script that characters belong to or are
    used in, the version that had them, or what they do at the boundaries of a text's parts. -/
def ofPropertyValue? (name value : List Char) : Option CharSet :=
  let property := normalizeName name
  let value := normalizeName value
  if property ∈ ["gc", "generalcategory"] then ofCategoryName? value
  else if property ∈ ["sc", "script"] then ofScriptName? value
  else if property ∈ ["scx", "scriptextensions"] then lookupName? ScriptExtension.named value
  else if property == "age" then ofAgeName? value
  else if property ∈ ["gcb", "graphemeclusterbreak"] then lookupName? GraphemeBreak.named value
  else if property ∈ ["wb", "wordbreak"] then lookupName? WordBreak.named value
  else if property ∈ ["sb", "sentencebreak"] then lookupName? SentenceBreak.named value
  else none

/-! ### Sets with a sign of their own -/

/-- What words are made of: letters, marks, decimal digits, connecting punctuation and the two
    joiners. -/
def word : CharSet :=
  unions [ofTable Property.alphabetic, ofCategories ("nd" :: "pc" :: markNames),
    ofTable Property.joinControl]

/-- The decimal digits of all scripts. -/
def digit : CharSet := ofTable Category.decimalNumber

/-- The blanks of all scripts. -/
def blank : CharSet := ofTable Property.whiteSpace

/-- The characters of words in the form in which characters are looked up. -/
def wordTable : RangeTable := word.toTable

end AssignScript.Pattern.CharSet
