import AssignScript.Pattern.Regex

/-!
# Programs of regular expressions

An expression becomes a list of instructions at consecutive addresses. Each instruction names the address
where matching goes on; where there are two, the first is preferred.

## Main definitions

* `Inst`: instructions;
* `Regex.codeSize`, `Regex.code`: the instructions of an expression, at least one;
* `Regex.program`: these, and an end that accepts.

## Design notes

A repetition whose body can be empty enters its body before it asks whether to go on. Together with a
search that visits an instruction only once at each place, this decides what an empty round does: it ends
the repetition.
-/

namespace AssignScript.Pattern

/-- One step of a match. -/
inductive Inst where
  /-- Takes a given character. -/
  | char (c : Char) (next : Nat)
  /-- Takes a character of a table. -/
  | set (t : Text.RangeTable) (next : Nat)
  /-- Goes on where a test holds. -/
  | look (l : Look) (next : Nat)
  /-- Remembers the place in a slot. -/
  | save (slot : Nat) (next : Nat)
  /-- Goes on elsewhere. -/
  | jump (next : Nat)
  /-- Tries one way, then another. -/
  | split (first second : Nat)
  /-- Ends the match. -/
  | accept
  deriving Inhabited

/-- The instructions of a pattern, by address. -/
abbrev Program := Array Inst

namespace Regex

/-- How many instructions an expression takes. -/
def codeSize : Regex → Nat
  | .empty | .set _ | .look _ => 1
  | .literal _ cs => cs.length + 1
  | .group _ r => r.codeSize + 2
  | .seq a b => a.codeSize + b.codeSize
  | .alt a b => a.codeSize + b.codeSize + 1
  | .repeat r 0 none _ => r.codeSize + if r.canBeEmpty then 2 else 1
  | .repeat r (least + 1) none _ => (least + 1) * r.codeSize + 1
  | .repeat r least (some most) _ =>
    least * r.codeSize + (most - least) * (r.codeSize + 1) + 1

/-- A choice between going into a body and going past it. -/
def fork (greedy : Bool) (body past : Nat) : Inst :=
  if greedy then .split body past else .split past body

/-- The instructions that take one character after the other. -/
def codeChars : Char → List Char → (here next : Nat) → List Inst
  | c, [], _, next => [.char c next]
  | c, d :: cs, here, next => .char c (here + 1) :: codeChars d cs (here + 1) next

/-- The instructions of an expression that starts at address `here` and goes on at `next`. -/
def code : Regex → (here next : Nat) → List Inst
  | .empty, _, next => [.jump next]
  | .literal c cs, here, next => codeChars c cs here next
  | .set s, _, next => [.set s.toTable next]
  | .look l, _, next => [.look l next]
  | .group index r, here, next =>
    let last := here + 1 + r.codeSize
    .save (2 * index) (here + 1) :: (r.code (here + 1) last ++ [.save (2 * index + 1) next])
  | .seq a b, here, next =>
    let middle := here + a.codeSize
    a.code here middle ++ b.code middle next
  | .alt a b, here, next =>
    let second := here + 1 + a.codeSize
    .split (here + 1) second :: (a.code (here + 1) next ++ b.code second next)
  | .repeat r 0 none greedy, here, next =>
    if r.canBeEmpty then
      let again := here + 1 + r.codeSize
      fork greedy (here + 1) next :: (r.code (here + 1) again ++ [fork greedy (here + 1) next])
    else fork greedy (here + 1) next :: r.code (here + 1) here
  | .repeat r (least + 1) none greedy, here, next =>
    let n := r.codeSize
    (List.range (least + 1)).flatMap (fun i => r.code (here + i * n) (here + (i + 1) * n)) ++
      [fork greedy (here + least * n) next]
  | .repeat r least (some most) greedy, here, next =>
    let n := r.codeSize
    let rest := here + least * n
    let last := rest + (most - least) * (n + 1)
    (List.range least).flatMap (fun i => r.code (here + i * n) (here + (i + 1) * n)) ++
      (List.range (most - least)).flatMap (fun i =>
        fork greedy (rest + i * (n + 1) + 1) last ::
          r.code (rest + i * (n + 1) + 1) (rest + (i + 1) * (n + 1))) ++
      [.jump next]

/-- The program of an expression. -/
def program (r : Regex) : Program :=
  (r.code 0 r.codeSize ++ [Inst.accept]).toArray

end Regex

end AssignScript.Pattern
