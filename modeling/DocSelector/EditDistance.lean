/-!
# Edit distance

The edit distance of two names is the least number of single-character edits that turn one into the
other: putting a character in, leaving one out, or writing another in its place.

It is read off a table with a row for each prefix of the longer name and a column for each prefix of
the shorter one. Only two rows of the table are kept: every character of the longer name writes over
one of them by means of the other, and then they change places.

## Main definitions

* `EditDistance.entry`: an entry of the table from its three neighbours.
* `EditDistance.Rows`: the two rows that are kept.
* `EditDistance.Rows.next`: the rows after one more character of the longer name.
* `EditDistance.Rows.ofTexts`: the rows after all of it.
* `editDistance`: the last entry of the row for the whole of the longer name.
-/

namespace DocSelector

namespace EditDistance

/-- An entry of the table from its three neighbours. The entry `above` belongs to the same column,
`left` to the same row, and `diagonal` to neither; `c` and `d` are the characters at which the row
and the column end. -/
def entry (c d : Char) (diagonal above left : Nat) : Nat :=
  min (min (above + 1) (left + 1)) (diagonal + if c = d then 0 else 1)

/-- Writes over the entries of `current` behind column `j`, one for each character of `short`. Each
comes from the entries of `previous` in its own column and the one before it, and from the entry
written last. -/
def fillRow (c : Char) (previous : Array Nat) : Nat → List Char → Array Nat → Array Nat
  | _, [], current => current
  | j, d :: short, current =>
    -- Of `current` only the entry written last is read, never one that is out of date.
    let here := entry c d (previous.getD j 0) (previous.getD (j + 1) 0) (current.getD j 0)
    fillRow c previous (j + 1) short (current.setIfInBounds (j + 1) here)

/-- The two rows of the table that are kept. -/
structure Rows where
  /-- The row for the part of the longer name that has been read. -/
  previous : Array Nat
  /-- The row that will be written over; what it holds is out of date. -/
  current : Array Nat
deriving Repr

/-- The rows before anything is read: every prefix of the shorter name takes as many edits as it has
characters. -/
def Rows.first (short : List Char) : Rows where
  previous := Array.range (short.length + 1)
  current := Array.replicate (short.length + 1) 0

/-- The rows after one more character of the longer name, given with the number of characters before
it. The row that has been written over and the other one change places. -/
def Rows.next (short : List Char) (rows : Rows) (cell : Char × Nat) : Rows where
  previous := fillRow cell.1 rows.previous 0 short (rows.current.setIfInBounds 0 (cell.2 + 1))
  current := rows.previous

/-- The rows after all of `long`. -/
def Rows.ofTexts (long short : List Char) : Rows :=
  long.zipIdx.foldl (Rows.next short) (Rows.first short)

/-- The longer of two texts and the other one; of two equally long texts the first is taken to be
the longer. -/
def orderByLength (a b : List Char) : List Char × List Char :=
  if b.length ≤ a.length then (a, b) else (b, a)

/-- The edit distance of two texts. No table is needed for the empty text. -/
def ofTexts (a b : List Char) : Nat :=
  let (long, short) := orderByLength a b
  if short.isEmpty then long.length
  else (Rows.ofTexts long short).previous.getD short.length 0

end EditDistance

/-- The least number of single-character insertions, deletions and substitutions that turn `a` into
`b`. -/
def editDistance (a b : String) : Nat := EditDistance.ofTexts a.toList b.toList

end DocSelector
