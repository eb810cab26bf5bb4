import AssignScript.Pattern.Regex

/-!
# Flags of patterns

A pattern is read under flags, which a group can set for its own part of the notation.

## Main definitions

* `Flags`, `Flags.set?`: the flags and their letters;
* `Flags.read?`: the flags at the front of a group;
* `Flags.fold`, `Flags.literal`, `Flags.caret`, `Flags.dollar`: what characters and places mean under flags.
-/

namespace AssignScript.Pattern

/-- How the notation of a pattern is read. -/
structure Flags where
  /-- Whether letters match in either case. -/
  ignoreCase : Bool := false
  /-- Whether `^` and `$` hold at every line. -/
  multiLine : Bool := false
  /-- Whether `.` matches the end of a line. -/
  dotAll : Bool := false
  /-- Whether repetitions are lazy unless a `?` follows. -/
  swapGreed : Bool := false
  /-- Whether classes and cases are those of all scripts and not of ASCII. -/
  unicode : Bool := true
  /-- Whether carriage returns end lines too. -/
  crlf : Bool := false
  /-- Whether blanks and comments stand for nothing. -/
  verbose : Bool := false

namespace Flags

/-- The flags with the one of a letter switched on or off. -/
def set? (f : Flags) (letter : Char) (on : Bool) : Option Flags :=
  match letter with
  | 'i' => some { f with ignoreCase := on }
  | 'm' => some { f with multiLine := on }
  | 's' => some { f with dotAll := on }
  | 'U' => some { f with swapGreed := on }
  | 'u' => some { f with unicode := on }
  | 'R' => some { f with crlf := on }
  | 'x' => some { f with verbose := on }
  | _ => none

/-- What the letters at the front of a group make of the flags. -/
structure Reading where
  /-- The flags from there on. -/
  flags : Flags
  /-- Whether there was no letter. -/
  isEmpty : Bool
  /-- Whether a colon ended the letters; otherwise the group closed. -/
  opensGroup : Bool
  /-- What follows. -/
  rest : List Char

/-- Reads letters up to a colon or the end of the group. Letters behind a hyphen are switched off, no
    letter or hyphen may stand twice, and the hyphen may not stand last. `seen` is what has been
    read. -/
def read? (f : Flags) (on : Bool) (seen : List Char) : List Char → Option Reading
  | [] => none
  | c :: rest =>
    if c = ':' ∨ c = ')' then
      if seen.head? = some '-' then none
      else some { flags := f, isEmpty := seen.isEmpty, opensGroup := c = ':', rest }
    else if seen.contains c then none
    else if c = '-' then read? f false (c :: seen) rest
    else do read? (← f.set? c on) on (c :: seen) rest

/-- A set under the flag for case. -/
def fold (f : Flags) (s : CharSet) : CharSet :=
  if f.ignoreCase then if f.unicode then s.caseless else s.asciiCaseless else s

/-- A character under the flag for case. -/
def literal (f : Flags) (c : Char) : Regex :=
  if f.ignoreCase then
    .ofSet (.ofChars (if f.unicode then Unicode.Folding.variants c else asciiCaseVariants c))
  else .literal c []

/-- What `.` matches. Without Unicode it would match parts of characters and is refused. -/
def dot? (f : Flags) : Option CharSet :=
  if !f.unicode then none
  else if f.dotAll then some .all
  else if f.crlf then some (CharSet.ofChars ['\n', '\r']).compl
  else some (CharSet.single '\n').compl

/-- The test of `^`. -/
def caret (f : Flags) : Look :=
  if f.multiLine then .lineStart f.crlf else .textStart

/-- The test of `$`. -/
def dollar (f : Flags) : Look :=
  if f.multiLine then .lineEnd f.crlf else .textEnd

/-- A set or, if asked for, all other characters. Without Unicode these would hold parts of characters
    and are refused. -/
def negate? (f : Flags) (negated : Bool) (s : CharSet) : Option CharSet :=
  if !negated then some s else if f.unicode then some s.compl else none

end Flags

end AssignScript.Pattern
