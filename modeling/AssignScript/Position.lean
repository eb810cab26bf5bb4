/-!
# Positions in a text

A place in a text is given three times over: by line and column for people, both counted from one,
and by the number of bytes before it for slicing. Only the line feed begins a new line, and a column is
one character wide whatever its width in bytes.

## Main definitions

* `Position`, `Position.start`;
* `Position.step`, `Position.after`: the place behind a character, behind a list of characters.
-/

namespace AssignScript

/-- A place between two characters of a text. -/
structure Position where
  /-- The line, counted from one. -/
  line : Nat
  /-- The column, counted from one in characters. -/
  column : Nat
  /-- The number of bytes before this place. -/
  offset : Nat
  deriving DecidableEq, Repr

namespace Position

/-- The place before the first character. -/
def start : Position := ⟨1, 1, 0⟩

instance : Inhabited Position := ⟨start⟩

/-- The place behind one more character. -/
def step (p : Position) (c : Char) : Position :=
  if c = '\n' then ⟨p.line + 1, 1, p.offset + c.utf8Size⟩
  else ⟨p.line, p.column + 1, p.offset + c.utf8Size⟩

/-- The place behind some more characters. -/
def after (p : Position) (cs : List Char) : Position :=
  cs.foldl step p

/-- How a place is named in a message. -/
def describe (p : Position) : String :=
  s!"line {p.line}, column {p.column}"

@[simp] theorem after_nil (p : Position) : p.after [] = p := rfl

@[simp] theorem after_cons (p : Position) (c : Char) (cs : List Char) :
    p.after (c :: cs) = (p.step c).after cs := rfl

theorem after_append (p : Position) (cs ds : List Char) :
    p.after (cs ++ ds) = (p.after cs).after ds := by
  simp [after, List.foldl_append]

end Position

end AssignScript
