import AssignScript.Pattern.Bracket
import AssignScript.Pattern.Footprint

/-!
# The notation of patterns

Patterns are written with the usual signs: alternatives, groups, repetitions, brackets and escapes. Reading
gives an expression or finds the notation wrong.

## Main definitions

* `Piece`: a part of the notation with its expression;
* `Reader.body`, `Reader.group`: what stands in a group, and a group;
* `Regex.ofNotation?`: the expression of a whole notation.

## Design notes

What stands in a group is read item by item and can hold groups, so the reader of a group is an argument
of the reader of a body; `Reader.group` ties the knot by recursion on the levels that are left of the limit.
-/

namespace AssignScript.Pattern

/-- How deeply a notation may nest. Groups, repetitions and brackets make a level each, and so do several
    things side by side. -/
def nestingLimit : Nat := 250

/-- A part of the notation. -/
structure Piece where
  /-- What it says. -/
  regex : Regex
  /-- How deeply it nests. -/
  depth : Nat
  /-- Whether a repetition can follow. -/
  isRepeatable : Bool := true

namespace Piece

/-- A part that nests nothing. -/
def flat (r : Regex) : Piece := ⟨r, 0, true⟩

/-- Several parts side by side, with what they say together. -/
def join (together : List Regex → Regex) : List Piece → Piece
  | [] => flat .empty
  | [p] => p
  | ps =>
    ⟨together (ps.map Piece.regex), ps.foldl (fun d p => max d p.depth) 0 + 1, true⟩

/-- Parts that follow one another. -/
def sequence (ps : List Piece) : Piece := join .sequence ps

/-- Parts of which one is taken. -/
def choice (ps : List Piece) : Piece := join .choice ps

/-- A part some number of times. -/
def repeated (p : Piece) (least : Nat) (most : Option Nat) (greedy : Bool) : Piece :=
  ⟨p.regex.repeated least most greedy, p.depth + 1, true⟩

end Piece

/-- What has been read of a group. -/
structure Body where
  /-- The alternatives before the current one, the last one first. -/
  branches : List Piece := []
  /-- The parts of the current one, the last one first. -/
  items : List Piece := []

namespace Body

/-- One more part. -/
def push (b : Body) (p : Piece) : Body := { b with items := p :: b.items }

/-- The next alternative. -/
def nextBranch (b : Body) : Body := ⟨.sequence b.items.reverse :: b.branches, []⟩

/-- All that has been read. -/
def finish (b : Body) : Piece := .choice b.nextBranch.branches.reverse

end Body

namespace Reader

/-- Whether a `?` follows that makes a repetition lazy, under the flag that swaps the two kinds. -/
def greed : Reader Bool := do
  let lazy ← accept '?'
  return lazy == (← flags).swapGreed

/-- How often a repetition in braces runs, from behind its opening. -/
def counts : Reader (Nat × Option Nat) := do
  skipBlanks
  let least ← decimal
  let most ←
    if ← accept ',' then
      skipBlanks
      if (← rest).head? = some '\x7d' then pure none else some <$> decimal
    else pure (some least)
  expect '\x7d'
  skipBlanks
  if most.any (· < least) then failure
  return (least, most)

/-- The last part of a body, which must be there and repeatable, and the body before it. -/
def lastItem (b : Body) : Reader (Piece × Body) :=
  match b.items with
  | p :: items => if p.isRepeatable then return (p, { b with items }) else failure
  | [] => failure

/-- A repetition of the last part of a body. -/
def repetition (b : Body) (count : Reader (Nat × Option Nat)) : Reader Body := do
  let (p, before) ← lastItem b
  let (least, most) ← count
  return before.push (p.repeated least most (← greed))

/-- A character, an escape, or a sign that stands for either a set or a test. -/
def atom : Reader Piece := do
  let c ← next
  let flags ← flags
  match c with
  | '.' => return .flat (.ofSet (← require flags.dot?))
  | '^' => return .flat (.look flags.caret)
  | '$' => return .flat (.look flags.dollar)
  | '\\' =>
    match ← escape with
    | .char c => return .flat (flags.literal c)
    | .set s => return .flat (.ofSet s)
    | .look l => return .flat (.look l)
  | c => return .flat (flags.literal c)

/-- What stands in a group up to its end, which is left to be read. `inner` reads what stands behind
    the opening of a group inside. -/
def body (inner : Reader Piece) : (fuel : Nat) → Body → Reader Piece
  | 0, _ => failure
  | fuel + 1, b => do
    skipBlanks
    match ← rest with
    | [] | ')' :: _ => return b.finish
    | '(' :: cs => goOn cs; body inner fuel (b.push (← inner))
    | '|' :: cs => goOn cs; body inner fuel b.nextBranch
    | '?' :: cs => goOn cs; body inner fuel (← repetition b (pure (0, some 1)))
    | '*' :: cs => goOn cs; body inner fuel (← repetition b (pure (0, none)))
    | '+' :: cs => goOn cs; body inner fuel (← repetition b (pure (1, none)))
    | '\x7b' :: cs => goOn cs; body inner fuel (← repetition b counts)
    | '[' :: cs =>
      goOn cs
      let listed ← bracket nestingLimit
      body inner fuel (b.push ⟨.ofSet listed.set, listed.depth, true⟩)
    | _ => body inner fuel (b.push (← atom))

/-- The number of the next group. -/
def nextGroup : Reader Nat := do
  let p ← get
  set { p with groups := p.groups + 1 }
  return p.groups + 1

/-- Whether a character can be part of the name of a group. -/
def isGroupNamePart (c : Char) : Bool :=
  Text.isLetter c || Text.isNumeral c || c == '_' || c == '.' || c == '[' || c == ']'

/-- The name of a group up to the closing angle bracket: a letter or `_`, then anything that can be part
    of one. No two groups have one name. -/
def groupName (index : Nat) : Reader Unit := do
  let cs ← rest
  let name := cs.takeWhile (· != '>')
  goOn (cs.drop name.length)
  expect '>'
  match name with
  | [] => failure
  | c :: others =>
    if !(Text.isLetter c || c == '_') || !others.all isGroupNamePart then failure
  let p ← get
  let name := String.ofList name
  if (p.names.lookup name).isSome then failure
  set { p with names := (name, index) :: p.names }

/-- The body of a group and its end. Flags that are set inside do not outlast it. -/
def groupBody (inner : Reader Piece) (outer : Flags) (wrap : Regex → Regex) : Reader Piece := do
  let p ← body inner (← fuel) {}
  expect ')'
  setFlags outer
  return ⟨wrap p.regex, p.depth + 1, true⟩

/-- A group with a number. -/
def numberedGroup (inner : Reader Piece) (named : Bool) : Reader Piece := do
  let index ← nextGroup
  if named then groupName index
  groupBody inner (← flags) (.group index)

/-- What stands behind the opening of a group: a body with or without a number, or flags for the rest of
    the group around. -/
def group : (room : Nat) → Reader Piece
  | 0 => failure
  | room + 1 => do
    skipBlanks
    match ← rest with
    | '?' :: '=' :: _ | '?' :: '!' :: _ | '?' :: '<' :: '=' :: _ | '?' :: '<' :: '!' :: _ => failure
    | '?' :: 'P' :: '<' :: cs => goOn cs; numberedGroup (group room) true
    | '?' :: '<' :: cs => goOn cs; numberedGroup (group room) true
    | '?' :: cs =>
      let outer ← flags
      let reading ← require (outer.read? true [] cs)
      goOn reading.rest
      setFlags reading.flags
      if reading.opensGroup then groupBody (group room) outer id
      else if reading.isEmpty then failure
      else return ⟨.empty, 0, false⟩
    | _ => numberedGroup (group room) false

/-- A whole notation. -/
def whole : Reader Piece := do
  let p ← body (group nestingLimit) (← fuel) {}
  unless (← rest).isEmpty do failure
  return p

end Reader

/-- The expression of a notation with the numbers of its named groups, if the notation is right and
    within the limits. -/
def Regex.ofNotation? (text : String) : Option (Regex × List (String × Nat)) := do
  let cs := text.toList
  let (p, progress) ← Reader.whole.run ⟨cs, {}, 0, [], cs.length⟩
  if p.depth ≤ nestingLimit && p.regex.isAffordable then
    return (p.regex, progress.names)
  else none

end AssignScript.Pattern
