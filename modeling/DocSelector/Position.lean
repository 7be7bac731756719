/-!
# Positions in a selector

A `Position` is a point between two characters of a selector. Reading a character moves the point
with `Position.advance`; a line feed starts a new line, and every other character only moves along
its line. Characters are counted, not bytes.

## Main definitions

* `Position`: line, column and offset of a point.
* `Position.advance`, `Position.advanceOver`: the point after one character, and after a text.

## Design notes

The counters are natural numbers that stop at `Position.limit`, so that a text of any length has
positions and none of them wraps round.
-/

namespace DocSelector

/-- A point in the text of a selector. Lines and columns count from one; the offset is the number
of characters before the point. -/
@[ext] structure Position where
  line : Nat
  column : Nat
  offset : Nat
deriving DecidableEq, Repr

namespace Position

/-- The greatest value of a counter: the greatest number of thirty-two bits. -/
def limit : Nat := 0xffffffff

/-- The next value of a counter, which stays at the limit once it is there. -/
def bump (n : Nat) : Nat := min (n + 1) limit

/-- The point before the first character of any text. -/
def start : Position where
  line := 1
  column := 1
  offset := 0

instance : Inhabited Position := ⟨start⟩

instance : ToString Position where
  toString p := s!"{p.line}:{p.column}"

/-- The point after the character `c` has been read at `p`. -/
def advance (p : Position) (c : Char) : Position :=
  if c = '\n' then { line := bump p.line, column := 1, offset := bump p.offset }
  else { p with column := bump p.column, offset := bump p.offset }

/-- The point after all characters of `text` have been read from `p` on. -/
def advanceOver (p : Position) (text : List Char) : Position :=
  text.foldl advance p

variable {p : Position} {c : Char} {text rest : List Char}

@[simp] theorem advanceOver_nil : p.advanceOver [] = p := rfl

@[simp] theorem advanceOver_cons :
    p.advanceOver (c :: text) = (p.advance c).advanceOver text := rfl

@[simp] theorem advanceOver_append :
    p.advanceOver (text ++ rest) = (p.advanceOver text).advanceOver rest := by
  simp [advanceOver]

end Position

end DocSelector
