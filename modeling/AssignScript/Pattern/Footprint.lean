import AssignScript.Pattern.ByteSpan
import AssignScript.Pattern.Regex
import Std.Data.TreeMap.Basic

/-!
# How much memory a pattern takes

A pattern is refused if it takes too much memory. What counts are two automata that read a text byte by
byte, one forwards and one backwards. An automaton is laid out node by node; what matters of a node is its
number, which is how many there were before it, and the bytes it takes.

## Main definitions

* `Tally`, `Layout`: the nodes so far, and steps of laying out that stay below the limit;
* `layForwards`, `layBackwards`: the nodes of a set, which share what they have in common;
* `Regex.lay`: the nodes of an expression;
* `Regex.isAffordable`: whether both automata of a pattern stay below the limit, if it needs them.

## Design notes

Nodes of a set are found again by their contents in a limited number of slots. Where two contents meet in
a slot, the later one takes it, and a node that has lost its slot is laid out anew. Contents tell the numbers
of other nodes, so the same set can take more or less memory at another place of a pattern.

A choice of very many words is searched for with all words at once, without these automata.
-/

namespace AssignScript.Pattern

/-- What has been laid out. -/
structure Tally where
  /-- The number of nodes. -/
  nodes : Nat := 0
  /-- The bytes that they take. -/
  bytes : Nat := 0

/-- A step of laying out that gives something, unless the limit is passed. -/
abbrev Layout := StateT Tally Option

namespace Layout

/-- The memory that an automaton may take: ten mebibytes. -/
def limit : Nat := 10 * 1024 * 1024

/-- Takes some bytes. -/
def take (bytes : Nat) : Layout Unit := fun t =>
  let total := t.bytes + bytes
  if limit < total then none else some ((), { t with bytes := total })

/-- The bytes of every node. -/
def nodeBytes : Nat := 32

/-- The bytes of an edge that a node keeps with the values of a byte. -/
def edgeBytes : Nat := 8

/-- Lays out a node with some bytes of its own and gives its number. -/
def node (extra : Nat) : Layout Nat := fun t =>
  let total := t.bytes + (nodeBytes + extra)
  if limit < total then none else some (t.nodes, { nodes := t.nodes + 1, bytes := total })

/-- Gives a node that chooses between others one more to choose. -/
def link : Layout Unit := take 4

/-- Ends one part where another goes on, which takes memory if the end is a node that chooses. -/
def join (isOpen : Bool) : Layout Unit :=
  if isOpen then link else pure ()

end Layout

open Layout

/-! ### Shared nodes -/

/-- Nodes by slot, each with its contents. -/
abbrev Slots (κ : Type) := Std.TreeMap Nat (κ × Nat)

/-- A step of laying out nodes that are shared. -/
abbrev Sharing (κ : Type) := StateT (Slots κ) Layout

/-- The slot of numbers among some slots. -/
def slotOf (slots : Nat) (xs : List Nat) : Nat :=
  let mixed := xs.foldl (fun h x => (h ^^^ UInt64.ofNat x) * 1099511628211) 14695981039346656037
  mixed.toNat % slots

/-- The node with given contents: the one in the slot if its contents are these, else a new one, which
    takes the slot. -/
def shared {κ : Type} [DecidableEq κ] (slot : Nat) (contents : κ) (extra : Nat) :
    Sharing κ Nat := do
  let old := (← get)[slot]?
  match old.filter fun entry => entry.1 = contents with
  | some (_, found) => return found
  | none =>
    let new ← node extra
    modify fun slots => slots.insert slot (contents, new)
    return new

/-! ### Sets forwards -/

/-- A way on from a node. -/
structure Edge where
  /-- The bytes that take it. -/
  range : ByteRange
  /-- The node it leads to. -/
  target : Nat
  deriving DecidableEq

/-- A node that can still get edges. -/
structure Pending where
  /-- Its edges, the last one first. -/
  edges : List Edge := []
  /-- The bytes of a further edge whose target is pending. -/
  last : Option ByteRange := none

namespace Pending

/-- The edges of a pending node once the target of the last one is there, the last one first. -/
def close (p : Pending) (target : Nat) : List Edge :=
  match p.last with
  | none => p.edges
  | some range => ⟨range, target⟩ :: p.edges

end Pending

/-- The node with given edges, the last one first. -/
def edgeNode (edges : List Edge) : Sharing (List Edge) Nat :=
  let edges := edges.reverse
  shared (slotOf 10000 (edges.flatMap fun e => [e.range.low, e.range.high, e.target])) edges
    (edgeBytes * edges.length)

/-- Lays out pending nodes, each of which leads to the next and the last one to `target`, and gives the
    first. -/
def settle (target : Nat) : List Pending → Sharing (List Edge) Nat
  | [] => return target
  | p :: rest => do edgeNode (p.close (← settle target rest))

/-- Adds a span to pending nodes. Where it leaves the span before, nothing can be added any more to the
    nodes behind, and they are laid out. -/
def addSpan (target : Nat) : List Pending → List ByteRange → Sharing (List Edge) (List Pending)
  | p :: rest, range :: span => do
    if p.last = some range then return p :: (← addSpan target rest span)
    else
      let next ← settle target rest
      return ⟨p.close next, some range⟩ :: span.map fun range => ⟨[], some range⟩
  | pending, _ => return pending

/-- Lays out a set that is read forwards. -/
def layForwards (s : CharSet) : Layout Unit := do
  let target ← node 0
  let all : Sharing (List Edge) Nat := do
    settle target (← s.spans.foldlM (addSpan target) [{}])
  discard (all.run ∅)

/-! ### Sets backwards -/

/-- Lays out a span that is read backwards and gives the node of its last byte, which is read first.
    `target` is where its first byte leads. -/
def laySpan (target : Nat) (span : List ByteRange) : Sharing (List Nat) Nat :=
  span.foldlM (fun target range =>
    let contents := [target, range.low, range.high]
    shared (slotOf 1000 contents) contents 0) target

/-- Lays out a set that is read backwards. -/
def layBackwards (s : CharSet) : Layout Unit := do
  let _ ← node 0
  let target ← node 0
  let all : Sharing (List Nat) Unit :=
    s.spans.forM fun span => do
      let _ ← laySpan target span
      link
  discard (all.run ∅)

/-- Lays out a set of ASCII characters, each of which is one byte. -/
def layAscii (s : CharSet) : Layout Unit := do
  let _ ← node 0
  let _ ← node (edgeBytes * s.ranges.length)

/-! ### Words -/

/-- What words go on with, by their first byte, the last one first, in stretches between which a whole
    word ends. -/
abbrev Stretches := List (List (Nat × List (List Nat)))

/-- A word put with those that start with the same byte. -/
def addToStretch (byte : Nat) (word : List Nat) :
    List (Nat × List (List Nat)) → List (Nat × List (List Nat))
  | [] => [(byte, [word])]
  | (b, words) :: rest =>
    if b = byte then (b, word :: words) :: rest else (b, words) :: addToStretch byte word rest

/-- One more word, put into the first stretch. A word that ends begins a new stretch, unless nothing but
    ended words has come before. -/
def addWord (stretches : Stretches) : List Nat → Stretches
  | [] =>
    if stretches.all List.isEmpty && 2 ≤ stretches.length then stretches else [] :: stretches
  | byte :: word =>
    match stretches with
    | [] => [[(byte, [word])]]
    | stretch :: rest => addToStretch byte word stretch :: rest

/-- Lays out a node for what all words start with and those behind it. -/
def layWords : (fuel : Nat) → List (List Nat) → Layout Unit
  | 0, _ => return ()
  | fuel + 1, words => do
    let stretches := words.foldl addWord [[]]
    let ways := stretches.filter (!·.isEmpty)
    ways.forM fun stretch => do
      stretch.forM fun entry => do
        if entry.2.any (!·.isEmpty) then layWords fuel entry.2.reverse
      let _ ← node (if stretch.length = 1 then 0 else edgeBytes * stretch.length)
    let _ ← node (4 * (ways.length + (stretches.length - 1)))

/-! ### Expressions -/

/-- The direction in which a text is read. -/
inductive Direction where
  /-- From its start to its end. -/
  | forwards
  /-- From its end to its start. -/
  | backwards
  deriving DecidableEq

/-- What an expression is a part of. -/
inductive Setting where
  /-- Nothing that matters. -/
  | alone
  /-- The second branch of a choice. -/
  | second
  /-- A later branch of a choice. -/
  | later

/-- Lays out a branch of a choice, between a node that leads to it and one that it leads to. -/
def layBranch (branch : Layout Bool) : Layout Unit := do
  let isOpen ← branch
  link
  join isOpen

/-- Lays out an expression that is no choice in its setting. The nodes around a choice come after its
    second branch. -/
def Setting.lay (setting : Setting) (expression : Layout Bool) : Layout Bool := do
  match setting with
  | .alone => expression
  | .second =>
    layBranch expression
    let _ ← node 0
    let _ ← node 0
    return false
  | .later =>
    layBranch expression
    return false

/-- Lays out an expression several times, one behind the other. `isOpen` says whether the end of what is
    before is a node that chooses; the answer says so of the last one. -/
def layCopies (once : Layout Bool) : (count : Nat) → (isOpen : Bool) → Layout Bool
  | 0, isOpen => return isOpen
  | count + 1, isOpen => do
    join isOpen
    layCopies once count (← once)

/-- Lays out an expression several times, each time with a choice to go past all that is left. -/
def layOptions (once : Layout Bool) : (count : Nat) → (isOpen : Bool) → Layout Bool
  | 0, isOpen => return isOpen
  | count + 1, isOpen => do
    let _ ← node 0
    let ends ← once
    join isOpen
    link
    link
    layOptions once count ends

/-- Lays out a repetition of an expression. -/
def layRepeat (once : Layout Bool) (canBeEmpty : Bool) :
    (least : Nat) → (most : Option Nat) → Layout Bool
  | 0, some 1 => do
    let _ ← node 0
    let isOpen ← once
    let _ ← node 0
    link
    link
    join isOpen
    return false
  | 0, none => do
    if canBeEmpty then
      let isOpen ← once
      let _ ← node 0
      join isOpen
      let _ ← node 0
      let _ ← node 0
      link
      link
      link
      link
      return false
    else
      let _ ← node 0
      let isOpen ← once
      link
      join isOpen
      return true
  | least + 1, none => do
    let isOpen ← layCopies once (least + 1) false
    let _ ← node 0
    join isOpen
    link
    return true
  | least, some most => do
    let isOpen ←
      if least = 0 then
        let _ ← node 0
        pure false
      else layCopies once least false
    if least = most then return isOpen
    let _ ← node 0
    join (← layOptions once (most - least) isOpen)
    return false

namespace Regex

/-- The literals that an expression is a choice of. -/
def words? : Regex → Option (List (List Char))
  | .literal c cs => some [c :: cs]
  | .alt a b => do return (← a.words?) ++ (← b.words?)
  | _ => none

/-- The bytes of characters as they are read in a direction. -/
def wordBytes (d : Direction) (cs : List Char) : List Nat :=
  match d with
  | .forwards => cs.flatMap charBytes
  | .backwards => (cs.flatMap charBytes).reverse

/-- The length of the longest list. -/
def longest (words : List (List Nat)) : Nat :=
  words.foldl (fun n word => max n word.length) 0

/-- Lays out an expression that is read in a direction, and says whether its end is a node that
    chooses. -/
def lay (d : Direction) : Regex → Setting → Layout Bool
  | .empty, setting => setting.lay do
    let _ ← node 0
    return false
  | .literal c cs, setting => setting.lay do
    (c :: cs).forM fun c => c.utf8Size.forM fun _ _ => discard (node 0)
    return false
  | .set s, setting => setting.lay do
    if s.isAscii then layAscii s
    else
      match d with
      | .forwards => layForwards s
      | .backwards => layBackwards s
    return false
  | .look _, setting => setting.lay do
    let _ ← node 0
    return false
  | .group _ r, setting => setting.lay do
    match d with
    | .forwards =>
      let _ ← node 0
      let isOpen ← r.lay d .alone
      let _ ← node 0
      join isOpen
      return false
    | .backwards => r.lay d .alone
  | .seq a b, setting => setting.lay do
    match d with
    | .forwards =>
      let isOpen ← a.lay d .alone
      let ends ← b.lay d .alone
      join isOpen
      return ends
    | .backwards =>
      let isOpen ← b.lay d .alone
      let ends ← a.lay d .alone
      join isOpen
      return ends
  | .alt a b, setting => do
    match setting with
    | .alone =>
      match (Regex.alt a b).words? with
      | some words =>
        let words := words.map (wordBytes d)
        let _ ← node 0
        layWords (longest words + 1) words
        return false
      | none =>
        layBranch (a.lay d .alone)
        b.lay d .second
    | .second =>
      layBranch (a.lay d .alone)
      let _ ← node 0
      let _ ← node 0
      b.lay d .later
    | .later =>
      layBranch (a.lay d .alone)
      b.lay d .later
  | .repeat r least most _, setting => setting.lay do
    layRepeat (r.lay d .alone) r.canBeEmpty least most

/-! ### Automata -/

/-- Whether every match starts with the text. -/
def startsText : Regex → Bool
  | .look l => l == .textStart
  | .group _ r => r.startsText
  | .seq a b => a.startsText || (a.isEmptyOnly && b.startsText)
  | .alt a b => a.startsText && b.startsText
  | .repeat r least _ _ => 0 < least && r.startsText
  | _ => false

/-- Whether every match ends with the text. -/
def endsText : Regex → Bool
  | .look l => l == .textEnd
  | .group _ r => r.endsText
  | .seq a b => b.endsText || (a.endsText && b.isEmptyOnly)
  | .alt a b => a.endsText && b.endsText
  | .repeat r least _ _ => 0 < least && r.endsText
  | _ => false

/-- Lays out what passes over the text before a match, where a match can be anywhere. -/
def layApproach (isFixed : Bool) : Layout Unit := do
  let _ ← node 0
  unless isFixed do
    let _ ← node 0
    let _ ← node edgeBytes
    link
    link

/-- Lays out the automaton that finds the ends of matches. -/
def layFinder (r : Regex) : Layout Unit := do
  layApproach r.startsText
  let _ ← node 0
  let isOpen ← r.lay .forwards .alone
  let _ ← node 0
  join isOpen
  let _ ← node 0

/-- Lays out the automaton that finds where a match with a given end starts. -/
def layTracer (r : Regex) : Layout Unit := do
  layApproach r.endsText
  let isOpen ← r.lay .backwards .alone
  let _ ← node 0
  join isOpen

/-- The least number of words that are searched for all at once. -/
def manyWords : Nat := 3000

/-- Whether a pattern is a choice of so many words that it needs no automata. -/
def isManyWords (r : Regex) : Bool :=
  r.words?.any fun words => manyWords ≤ words.length

/-- Whether the automata of a pattern stay below the limit, if it needs them. -/
def isAffordable (r : Regex) : Bool :=
  r.isManyWords || ((r.layFinder.run {}).isSome && (r.layTracer.run {}).isSome)

end Regex

end AssignScript.Pattern
