import AssignScript.Token

/-!
# Errors of reading a script

## Main definitions

* `Expectation`: what could have stood at a place;
* `ParseError`, `ParseError.position`, `ParseError.message`.
-/

namespace AssignScript

/-- What could have stood where something else was found. -/
inductive Expectation where
  /-- One token and no other. -/
  | token (t : Token)
  /-- Any name. -/
  | identifier
  /-- The beginning of an expression. -/
  | expression
  deriving DecidableEq, Repr

/-- How an expectation is named in a message. -/
def Expectation.describe : Expectation → String
  | .token t => t.describe
  | .identifier => "identifier"
  | .expression => "expression"

/-- Why a text is no script or no expression. -/
inductive ParseError where
  /-- A character that begins no token. -/
  | unexpectedCharacter (character : Char) (position : Position)
  /-- A text or a quoted name without its closing quote. -/
  | unterminatedString (position : Position)
  /-- A comment without its end. -/
  | unterminatedComment (position : Position)
  /-- A token where it cannot stand. -/
  | unexpectedToken (expected : Expectation) (found : Token) (position : Position)
  /-- A whole number of more than 64 bits. -/
  | invalidNumber (digits : String) (position : Position)
  /-- An expression inside too many others. -/
  | nestingTooDeep (limit : Nat) (position : Position)
  deriving DecidableEq, Repr

namespace ParseError

/-- Where an error lies. -/
def position : ParseError → Position
  | .unexpectedCharacter _ p | .unterminatedString p | .unterminatedComment p
  | .unexpectedToken _ _ p | .invalidNumber _ p | .nestingTooDeep _ p => p

/-- The message of an error. -/
def message : ParseError → String
  | .unexpectedCharacter c p => s!"unexpected character '{c}' at {p.describe}"
  | .unterminatedString p => s!"unterminated string literal starting at {p.describe}"
  | .unterminatedComment p => s!"unterminated comment starting at {p.describe}"
  | .unexpectedToken expected found p =>
    s!"expected {expected.describe}, found {found.describe} at {p.describe}"
  | .invalidNumber digits p => s!"invalid number {digits} at {p.describe}"
  | .nestingTooDeep limit p => s!"expression nested deeper than {limit} levels at {p.describe}"

end ParseError

end AssignScript
