import AssignScript.Decimal.Natural
import AssignScript.Pattern.Flags
import AssignScript.Text.Blank

/-!
# Reading the notation of patterns

The notation is read once from left to right, under flags that may change on the way. Whatever is wrong
with it, nothing comes of it.

## Main definitions

* `Progress`, `Reader`: where reading stands, and steps of it;
* `Reader.skipBlanks`: passes what stands for nothing;
* `Reader.decimal`, `Reader.hexDigits`: numbers;
* `Reader.escape`: what stands behind a backslash.
-/

namespace AssignScript.Pattern

open Text

/-- Where reading stands. -/
structure Progress where
  /-- What is still to be read. -/
  rest : List Char
  /-- How it is read. -/
  flags : Flags
  /-- How many groups have a number. -/
  groups : Nat
  /-- The names of groups with their numbers. -/
  names : List (String × Nat)
  /-- How many characters the whole notation has. -/
  size : Nat

/-- A step of reading that gives something, unless the notation is wrong. -/
abbrev Reader := StateT Progress Option

namespace Reader

/-- What is still to be read. -/
def rest : Reader (List Char) := return (← get).rest

/-- Goes on at another place. -/
def goOn (rest : List Char) : Reader Unit := modify fun p => { p with rest }

/-- Fuel for any loop that takes a character in each round. -/
def fuel : Reader Nat := return (← get).size + 1

/-- How the notation is read. -/
def flags : Reader Flags := return (← get).flags

/-- Reads on under other flags. -/
def setFlags (flags : Flags) : Reader Unit := modify fun p => { p with flags }

/-- Refuses the notation if there is nothing. -/
def require {α : Type} : Option α → Reader α
  | some a => return a
  | none => failure

/-- Takes a character. -/
def next : Reader Char := do
  match ← rest with
  | [] => failure
  | c :: cs => goOn cs; return c

/-- Takes a character if it is the given one, and says whether it was. -/
def accept (c : Char) : Reader Bool := do
  match ← rest with
  | d :: cs => if d = c then goOn cs; return true else return false
  | [] => return false

/-- Takes the given character. -/
def expect (c : Char) : Reader Unit := do
  unless ← accept c do failure

/-- Drops blanks, and comments up to the ends of their lines. -/
def dropBlanks (inComment : Bool) : List Char → List Char
  | [] => []
  | c :: cs =>
    if inComment then dropBlanks (c != '\n') cs
    else if c == '#' then dropBlanks true cs
    else if isBlank c then dropBlanks false cs
    else c :: cs

/-- Passes blanks and comments where they stand for nothing. -/
def skipBlanks : Reader Unit :=
  modify fun p => if p.flags.verbose then { p with rest := dropBlanks false p.rest } else p

/-- Takes at most `fuel` characters as long as they have a property, and what stands for nothing behind
    each. -/
def takeAtMost (property : Char → Bool) : (fuel : Nat) → Reader (List Char)
  | 0 => return []
  | fuel + 1 => do
    match ← rest with
    | [] => return []
    | c :: cs =>
      if property c then
        goOn cs
        skipBlanks
        return c :: (← takeAtMost property fuel)
      else return []

/-- Takes characters as long as they have a property, and what stands for nothing behind each. -/
def takeWhile (property : Char → Bool) : Reader (List Char) := do
  takeAtMost property (← fuel)

/-! ### Numbers -/

/-- A count in decimal digits with blanks around, below `2 ^ 32`. -/
def decimal : Reader Nat := do
  goOn ((← rest).dropWhile isBlank)
  let digits ← takeWhile isAsciiDigit
  goOn ((← rest).dropWhile isBlank)
  let value := Decimal.digitsValue digits
  if digits.isEmpty || UInt32.size ≤ value then failure
  return value

/-- A fixed number of digits, with what stands for nothing before each. -/
def hexDigits : (count : Nat) → Reader (List Char)
  | 0 => return []
  | count + 1 => do
    skipBlanks
    let c ← next
    return c :: (← hexDigits count)

/-- The character of a code point in hexadecimal digits. -/
def charOfHex? (digits : List Char) : Option Char := do
  let code ← hexNumber? digits
  if code.isValidChar then return Char.ofNat code else none

/-- A character by its code point, in as many digits as its letter asks for or in braces. Without
    Unicode the short form means a byte, and one that is no character of its own is refused. -/
def hexEscape (count : Nat) : Reader Char := do
  skipBlanks
  if ← accept '\x7b' then
    skipBlanks
    let digits ← takeWhile (· != '\x7d')
    expect '\x7d'
    require (charOfHex? digits)
  else
    let c ← require (charOfHex? (← hexDigits count))
    if count = 2 && 0x80 ≤ c.toNat && !(← flags).unicode then failure
    return c

/-! ### Escapes -/

/-- What an escape stands for. -/
inductive Escape where
  /-- A character. -/
  | char (c : Char)
  /-- A character of a set. -/
  | set (s : CharSet)
  /-- A test of a place. -/
  | look (l : Look)

/-- What stands before and behind the first place where a sign stands. -/
def splitAt? (sign : List Char) : List Char → Option (List Char × List Char)
  | [] => none
  | c :: cs =>
    if sign.isPrefixOf (c :: cs) then some ([], (c :: cs).drop sign.length)
    else (splitAt? sign cs).map fun parts => (c :: parts.1, parts.2)

/-- The set of a property, or of the characters for which it has a value, if one is given behind `:`, `=`
    or `!=`, and whether the last of these signs asks for all other characters. -/
def propertyNamed? (name : List Char) : Option (Bool × CharSet) :=
  match splitAt? ['!', '='] name with
  | some (property, value) => (CharSet.ofPropertyValue? property value).map (true, ·)
  | none =>
    match splitAt? [':'] name <|> splitAt? ['='] name with
    | some (property, value) => (CharSet.ofPropertyValue? property value).map (false, ·)
    | none => (CharSet.ofPropertyName? name).map (false, ·)

/-- The set of a property, by one letter or by a name in braces. -/
def propertySet (negated : Bool) : Reader CharSet := do
  skipBlanks
  let name ←
    if ← accept '\x7b' then
      skipBlanks
      let name ← takeWhile (· != '\x7d')
      expect '\x7d'
      pure name
    else
      let c ← next
      if c = '\\' then failure
      pure [c]
  let flags ← flags
  if !flags.unicode then failure
  let (other, s) ← require (propertyNamed? name)
  require (flags.negate? (negated != other) (flags.fold s))

/-- The set of digits, blanks or word characters. -/
def shortSet (all ascii : CharSet) (negated : Bool) : Reader CharSet := do
  let flags ← flags
  require (flags.negate? negated (if flags.unicode then all else ascii))

/-- The test that a name in braces behind `\b` stands for. -/
def boundaryName? (unicode : Bool) : String → Option Look
  | "start" => some (.wordStart unicode)
  | "end" => some (.wordEnd unicode)
  | "start-half" => some (.wordStartHalf unicode)
  | "end-half" => some (.wordEndHalf unicode)
  | _ => none

/-- Whether a character can be part of the name of a boundary. -/
def isBoundaryLetter (c : Char) : Bool :=
  isAsciiLetter c || c == '-'

/-- The test of `\b`. A brace that no name can follow is left for a repetition. -/
def boundary : Reader Look := do
  let unicode := (← flags).unicode
  let start ← rest
  if ← accept '\x7b' then
    skipBlanks
    match (← rest).head?.map isBoundaryLetter with
    | none => failure
    | some false => goOn start; return .wordBoundary unicode
    | some true =>
      let name ← takeWhile isBoundaryLetter
      expect '\x7d'
      require (boundaryName? unicode (String.ofList name))
  else return .wordBoundary unicode

/-- Whether a backslash before a character takes away its meaning: any ASCII character but letters,
    digits and angle brackets. -/
def isEscapable (c : Char) : Bool :=
  c.toNat < 0x80 && !isAsciiLetter c && !isAsciiDigit c && c != '<' && c != '>'

/-- What stands behind a backslash. -/
def escape : Reader Escape := do
  let c ← next
  match c with
  | 'x' => return .char (← hexEscape 2)
  | 'u' => return .char (← hexEscape 4)
  | 'U' => return .char (← hexEscape 8)
  | 'p' => return .set (← propertySet false)
  | 'P' => return .set (← propertySet true)
  | 'd' => return .set (← shortSet .digit .asciiDigit false)
  | 's' => return .set (← shortSet .blank .asciiBlank false)
  | 'w' => return .set (← shortSet .word .asciiWord false)
  | 'D' => return .set (← shortSet .digit .asciiDigit true)
  | 'S' => return .set (← shortSet .blank .asciiBlank true)
  | 'W' => return .set (← shortSet .word .asciiWord true)
  | 'a' => return .char '\x07'
  | 'f' => return .char '\x0c'
  | 't' => return .char '\t'
  | 'n' => return .char '\n'
  | 'r' => return .char '\r'
  | 'v' => return .char '\x0b'
  | 'A' => return .look .textStart
  | 'z' => return .look .textEnd
  | 'b' => return .look (← boundary)
  | 'B' => return .look (.noWordBoundary (← flags).unicode)
  | '<' => return .look (.wordStart (← flags).unicode)
  | '>' => return .look (.wordEnd (← flags).unicode)
  | c => if isEscapable c then return .char c else failure

end Reader

end AssignScript.Pattern
