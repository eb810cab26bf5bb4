import AssignScript.Position
import AssignScript.Text.Case

/-!
# Tokens

The words of a script: names, numbers, texts, keywords and marks.

## Main definitions

* `Keyword`, `Keyword.ofWord?`: keywords, read in any case;
* `Mark`: operators and punctuation;
* `Token`, `Token.describe`;
* `PlacedToken`: a token with the places where it starts and stops.
-/

namespace AssignScript

/-- The reserved words. -/
inductive Keyword where
  | and | or | xor | not | true | false | null | ifWord | thenWord | elseWord
  deriving DecidableEq, Repr

namespace Keyword

/-- Every keyword. -/
def all : List Keyword :=
  [.and, .or, .xor, .not, .true, .false, .null, .ifWord, .thenWord, .elseWord]

/-- How a keyword is spelled in lower case. -/
def spelling : Keyword → String
  | .and => "and"
  | .or => "or"
  | .xor => "xor"
  | .not => "not"
  | .true => "true"
  | .false => "false"
  | .null => "null"
  | .ifWord => "if"
  | .thenWord => "then"
  | .elseWord => "else"

/-- The keyword that a word spells in any case. -/
def ofWord? (word : String) : Option Keyword :=
  let lower := Text.toLower word
  all.find? fun k => k.spelling == lower

end Keyword

/-- Operators and punctuation. -/
inductive Mark where
  | assign | plus | minus | star | slash | concat
  | equal | notEqual | less | lessEqual | greater | greaterEqual
  | leftParen | rightParen | comma | semicolon | underscore
  deriving DecidableEq, Repr

namespace Mark

/-- How a mark is spelled. -/
def spelling : Mark → String
  | .assign => ":="
  | .plus => "+"
  | .minus => "-"
  | .star => "*"
  | .slash => "/"
  | .concat => "||"
  | .equal => "="
  | .notEqual => "<>"
  | .less => "<"
  | .lessEqual => "<="
  | .greater => ">"
  | .greaterEqual => ">="
  | .leftParen => "("
  | .rightParen => ")"
  | .comma => ","
  | .semicolon => ";"
  | .underscore => "_"

end Mark

/-- The words of a script. -/
inductive Token where
  /-- A name, bare or in single quotes. -/
  | identifier (name : String)
  /-- A number as it is written. -/
  | number (digits : String)
  /-- The content of a text in double quotes. -/
  | string (content : String)
  /-- A reserved word. -/
  | keyword (k : Keyword)
  /-- An operator or a punctuation mark. -/
  | mark (m : Mark)
  /-- What stands behind the last word. -/
  | endOfInput
  deriving DecidableEq, Repr, Inhabited

namespace Token

/-- How a token is named in a message. -/
def describe : Token → String
  | .identifier name => "identifier " ++ name
  | .number digits => "number " ++ digits
  | .string content => "string \"" ++ content ++ "\""
  | .keyword k => "'" ++ k.spelling ++ "'"
  | .mark m => "'" ++ m.spelling ++ "'"
  | .endOfInput => "end of input"

end Token

/-- A token with its two ends. -/
structure PlacedToken where
  /-- The token. -/
  token : Token
  /-- Where it starts. -/
  start : Position
  /-- Where it stops. -/
  stop : Position
  deriving DecidableEq, Repr, Inhabited

end AssignScript
