import AssignScript.Pattern.Reader

/-!
# Sets in brackets

A bracket lists characters, ranges, named sets and further brackets, and can combine what it lists with
what follows a set operation.

## Main definitions

* `SetOp`: the operations on sets;
* `Listed`: a set with the depth of its notation;
* `Reader.bracket`: a whole bracket.
-/

namespace AssignScript.Pattern

/-- Operations on the sets that a bracket lists. -/
inductive SetOp where
  /-- The characters of both sets. -/
  | inter
  /-- The characters of the first set alone. -/
  | diff
  /-- The characters of one set alone. -/
  | symmDiff

/-- The set that an operation makes of two. -/
def SetOp.apply : SetOp → CharSet → CharSet → CharSet
  | .inter => .inter
  | .diff => .diff
  | .symmDiff => .symmDiff

/-- The operation that two equal characters stand for. -/
def SetOp.ofSign? : Char → Option SetOp
  | '&' => some .inter
  | '-' => some .diff
  | '~' => some .symmDiff
  | _ => none

/-- A set with the depth of its notation. -/
structure Listed where
  /-- The characters. -/
  set : CharSet
  /-- How deeply the notation nests. -/
  depth : Nat

namespace Listed

/-- Everything that is listed without an operation between; more than one item makes a level. -/
def all (items : List Listed) : Listed where
  set := .unions (items.map Listed.set)
  depth :=
    match items with
    | [] => 0
    | [item] => item.depth
    | items => items.foldl (fun d item => max d item.depth) 0 + 1

/-- What is listed up to here, combined with what stands before the last operation. -/
def combine (flags : Flags) (pending : Option (SetOp × Listed)) (items : List Listed) : Listed :=
  let right := all items.reverse
  match pending with
  | none => right
  | some (op, left) =>
    { set := op.apply (flags.fold left.set) (flags.fold right.set)
      depth := max left.depth right.depth + 1 }

end Listed

namespace Reader

/-- The set of a name that ends with a colon and a bracket, and what follows. -/
def asciiNameEnd? (cs : List Char) : Option (CharSet × List Char) :=
  match cs.dropWhile (· != ':') with
  | ':' :: ']' :: after => do
    return (← CharSet.ofPosixName? (String.ofList (cs.takeWhile (· != ':'))), after)
  | _ => none

/-- A named ASCII set, from behind its opening bracket: whether it is negated, the set, and what
    follows. -/
def asciiName? : List Char → Option (Bool × CharSet × List Char)
  | ':' :: '^' :: cs => (asciiNameEnd? cs).map (true, ·)
  | ':' :: cs => (asciiNameEnd? cs).map (false, ·)
  | _ => none

/-- A character or an escape. -/
def bracketAtom : Reader Escape := do
  match ← next with
  | '\\' => escape
  | c => return .char c

/-- The next character behind a hyphen. Where blanks stand for nothing, blanks are passed, one number
    sign, and blanks again. -/
def behindHyphen (flags : Flags) (cs : List Char) : Option Char :=
  if flags.verbose then
    match cs.dropWhile Text.isBlank with
    | '#' :: cs => (cs.dropWhile Text.isBlank).head?
    | cs => cs.head?
  else cs.head?

/-- Whether a hyphen follows that makes a range: not one before the end of the bracket or before
    another hyphen. -/
def rangeFollows : Reader Bool := do
  match ← rest with
  | '-' :: cs =>
    let behind := behindHyphen (← flags) cs
    return behind != some ']' && behind != some '-'
  | _ => return false

/-- The characters from one to another; without Unicode both must be ASCII. -/
def rangeSet (first last : Char) : Reader CharSet := do
  if !(← flags).unicode && (0x80 ≤ first.toNat || 0x80 ≤ last.toNat) then failure
  if first ≤ last then return .range first last else failure

/-- A character, a range or a named set. -/
def bracketItem : Reader CharSet := do
  let first ← bracketAtom
  skipBlanks
  if ← rangeFollows then
    expect '-'
    skipBlanks
    match first, ← bracketAtom with
    | .char a, .char b => rangeSet a b
    | _, _ => failure
  else
    match first with
    | .char c => rangeSet c c
    | .set s => return s
    | .look _ => failure

/-- What stands in a bracket up to its end. `nested` reads a bracket inside, `items` is what has been
    listed since the last operation, the last item first. -/
def bracketBody (nested : Reader Listed) :
    (fuel : Nat) → (pending : Option (SetOp × Listed)) → (items : List Listed) → Reader Listed
  | 0, _, _ => failure
  | fuel + 1, pending, items => do
    skipBlanks
    match ← rest with
    | [] => failure
    | ']' :: cs =>
      goOn cs
      return .combine (← flags) pending items
    | '[' :: cs =>
      goOn cs
      match asciiName? cs with
      | some (negated, s, after) =>
        goOn after
        let flags ← flags
        let s ← require (flags.negate? negated (flags.fold s))
        bracketBody nested fuel pending (⟨s, 0⟩ :: items)
      | none =>
        let inner ← nested
        bracketBody nested fuel pending (inner :: items)
    | c :: cs =>
      match if cs.head? = some c then SetOp.ofSign? c else none with
      | some op =>
        goOn cs.tail
        bracketBody nested fuel (some (op, .combine (← flags) pending items)) []
      | none =>
        let s ← bracketItem
        bracketBody nested fuel pending (⟨s, 0⟩ :: items)

/-- A bracket, from behind its opening. Hyphens at its front are listed, and so is a closing bracket
    that nothing stands before. -/
def bracket : (room : Nat) → Reader Listed
  | 0 => failure
  | room + 1 => do
    skipBlanks
    let negated ← accept '^'
    skipBlanks
    let hyphens ← takeWhile (· == '-')
    let closing ← if hyphens.isEmpty then accept ']' else pure false
    let front := if closing then [']'] else hyphens
    let body ← bracketBody (bracket room) (← fuel) none
      (front.map fun c => ⟨.single c, 0⟩)
    let flags ← flags
    let s ← require (flags.negate? negated (flags.fold body.set))
    return ⟨s, body.depth + 1⟩

end Reader

end AssignScript.Pattern
