import DocSelector.Proofs.Metric

/-!
# The rows that are kept and the full table

The edit distance keeps two rows of its table. Here the table is written out in full, in place: all
entries are zero at first, then the first entry of each row and the first row are written, and then
the others, row by row, each from the three entries before it. Nothing is written over later.

A row of the full table depends on the row before it in the way in which the row that is written
over depends on the other one. So the rows that are kept go through the rows of the full table in
order, and since that only takes the first entry to be written, it does not matter what else stood
in the row that is written over. The values of the recurrence do not depend on the order of the two
texts, so the last entry of the table for the two texts as they were given is the edit distance as
well.

## Main definitions

* `EditDistance.fullTable`: the table with all its rows.
* `EditDistance.Rows.after`: the rows that are kept after a number of characters.
* `EditDistance.Rows.Reached`: rows that are reached although values get lost on the way.

## Main statements

* `EditDistance.writeRow_eq_modify`: a row of the full table is written as a row that is kept.
* `EditDistance.FilledTo.writeTable`: every character leads to the next row of the full table.
* `EditDistance.isRow_fullTable`: the rows of the full table are those of the recurrence.
* `EditDistance.Rows.Reached.at_take`: the rows that are reached are those of the recurrence.
* `EditDistance.kept_rows_are_rows_of_fullTable`: the rows that are kept are rows of the full table,
  and the last entry is the edit distance.
-/

namespace DocSelector

namespace EditDistance

/-! ### The full table -/

/-- The entry in row `i` and column `j`. -/
def cell (table : Array (Array Nat)) (i j : Nat) : Nat := (table.getD i #[]).getD j 0

/-- Writes an entry in row `i` and column `j`. -/
def writeCell (table : Array (Array Nat)) (i j value : Nat) : Array (Array Nat) :=
  table.modify i fun row => row.setIfInBounds j value

/-- Writes the entries of row `i + 1` behind column `j`, one for each character of `b`, where `c` is
the character at which the row ends. -/
def writeRow (c : Char) (i : Nat) : Nat → List Char → Array (Array Nat) → Array (Array Nat)
  | _, [], table => table
  | j, d :: b, table =>
    let here := entry c d (cell table i j) (cell table i (j + 1)) (cell table (i + 1) j)
    writeRow c i (j + 1) b (writeCell table (i + 1) (j + 1) here)

/-- Writes the rows behind row `i`, one for each character of the first text. -/
def writeTable (b : List Char) : Nat → List Char → Array (Array Nat) → Array (Array Nat)
  | _, [], table => table
  | i, c :: a, table => writeTable b (i + 1) a (writeRow c i 0 b table)

/-- A table of zeros in which the first entry of each row is written: so many edits does a text take
against the empty text. -/
def firstColumn (m n : Nat) : Array (Array Nat) :=
  (Array.replicate (m + 1) (Array.replicate (n + 1) 0)).mapIdx fun i row => row.setIfInBounds 0 i

/-- The table before any character is read, with its first column and its first row. -/
def blankTable (m n : Nat) : Array (Array Nat) :=
  (List.range (n + 1)).foldl (fun table j => writeCell table 0 j j) (firstColumn m n)

/-- The table with a row for every prefix of `a` and a column for every prefix of `b`. -/
def fullTable (a b : List Char) : Array (Array Nat) :=
  writeTable b 0 a (blankTable a.length b.length)

section Writing

variable {table : Array (Array Nat)} {i j k : Nat} {b : List Char} {c : Char}

theorem getD_modify_self {f : Array Nat → Array Nat} (h : i < table.size) :
    (table.modify i f).getD i #[] = f (table.getD i #[]) := by
  simp [Array.getElem_modify, h]

theorem getD_modify_ne {f : Array Nat → Array Nat} (h : i ≠ k) :
    (table.modify i f).getD k #[] = table.getD k #[] := by
  simp [Array.getElem?_modify, h]

theorem modify_unchanged (table : Array (Array Nat)) (i : Nat) :
    table.modify i (fun row => row) = table := by
  refine Array.ext_getElem? fun k => ?_
  rw [Array.getElem?_modify]
  split
  · rw [Option.map_id_fun', id]
  · rfl

/-- Two changes of a row one after the other are one change, if they agree with it on that row. -/
theorem modify_modify_eq {f g h : Array Nat → Array Nat}
    (heq : g (f (table.getD i #[])) = h (table.getD i #[])) :
    (table.modify i f).modify i g = table.modify i h := by
  refine Array.ext_getElem? fun k => ?_
  rw [Array.getElem?_modify, Array.getElem?_modify, Array.getElem?_modify]
  by_cases hk : i = k
  · subst hk
    rw [if_pos rfl, if_pos rfl, if_pos rfl, Option.map_map]
    rcases hrow : table[i]? with - | row
    · rfl
    · rw [Array.getD_eq_getD_getElem?, hrow, Option.getD_some] at heq
      exact congrArg some heq
  · rw [if_neg hk, if_neg hk, if_neg hk]

/-- A row of the full table is written as the row that is written over, with the row before it in
place of the other one. -/
theorem writeRow_eq_modify :
    writeRow c i j b table = table.modify (i + 1) (fillRow c (table.getD i #[]) j b) := by
  induction b generalizing j table with
  | nil => exact (modify_unchanged table (i + 1)).symm
  | cons d b ih =>
    have hrow : i + 1 ≠ i := by omega
    rw [writeRow, ih, writeCell, getD_modify_ne hrow]
    exact modify_modify_eq rfl

end Writing

/-! ### What is written when -/

/-- What the table holds when the characters `before` have been read and `after` are left. Their
rows are those of the recurrence; of a row further down nothing but its first entry is known. -/
structure FilledTo (before after b : List Char) (table : Array (Array Nat)) : Prop where
  size : table.size = before.length + after.length + 1
  done : ∀ i ≤ before.length, IsRow (before.take i).reverse b (table.getD i #[])
  ahead : ∀ i, before.length < i → i ≤ before.length + after.length →
    (table.getD i #[]).size = b.length + 1 ∧ (table.getD i #[]).getD 0 0 = i

section Filling

variable {table : Array (Array Nat)} {a b before after : List Char} {c : Char}

/-- One more character leads to the next row, and no row that has been written is touched. -/
theorem FilledTo.writeRow (h : FilledTo before (c :: after) b table) :
    FilledTo (before ++ [c]) after b (writeRow c before.length 0 b table) := by
  have hlength : (before ++ [c]).length = before.length + 1 := by
    rw [List.length_append, List.length_singleton]
  have hsize := h.size
  rw [List.length_cons] at hsize
  rw [writeRow_eq_modify]
  refine ⟨?_, ?_, ?_⟩
  · rw [Array.size_modify, hsize, hlength]
    omega
  · intro i hi
    rw [hlength] at hi
    by_cases hlast : before.length + 1 = i
    · subst hlast
      obtain ⟨hrow, hfirst⟩ := h.ahead (before.length + 1) (by omega) (by
        rw [List.length_cons]
        omega)
      have hprevious := h.done before.length le_rfl
      rw [List.take_length] at hprevious
      rw [getD_modify_self (by omega), ← hlength, List.take_length, List.reverse_append,
        List.reverse_singleton, List.singleton_append, hlength]
      refine hprevious.fillRow hrow ?_
      rw [hfirst, List.length_reverse]
    · rw [getD_modify_ne hlast, List.take_append_of_le_length (by omega)]
      exact h.done i (by omega)
  · intro i hi hlast
    rw [hlength] at hi hlast
    rw [getD_modify_ne (by omega)]
    refine h.ahead i (by omega) ?_
    rw [List.length_cons]
    omega

/-- The characters lead from row to row. -/
theorem FilledTo.writeTable (h : FilledTo before after b table) :
    FilledTo (before ++ after) [] b (writeTable b before.length after table) := by
  induction after generalizing before table with
  | nil => rwa [List.append_nil, EditDistance.writeTable]
  | cons c after ih =>
    have hstep := ih h.writeRow
    rw [List.length_append, List.length_singleton] at hstep
    rwa [List.append_cons, EditDistance.writeTable]

/-- The row with its first `n` entries written over by the numbers of their columns. -/
def numbered (n : Nat) (row : Array Nat) : Array Nat :=
  (List.range n).foldl (fun row j => row.setIfInBounds j j) row

theorem numbered_succ (n : Nat) (row : Array Nat) :
    numbered (n + 1) row = (numbered n row).setIfInBounds n n := by
  rw [numbered, List.range_succ, List.foldl_append, List.foldl_cons, List.foldl_nil, numbered]

theorem size_numbered (n : Nat) (row : Array Nat) : (numbered n row).size = row.size := by
  induction n with
  | zero => rfl
  | succ n ih => rw [numbered_succ, Array.size_setIfInBounds, ih]

theorem getD_numbered {n j : Nat} {row : Array Nat} (hj : j < n) (hrow : j < row.size) :
    (numbered n row).getD j 0 = j := by
  induction n with
  | zero => exact absurd hj (Nat.not_lt_zero j)
  | succ n ih =>
    rw [numbered_succ]
    by_cases hlast : n = j
    · subst hlast
      exact getD_setIfInBounds_self (by rwa [size_numbered])
    · rw [getD_setIfInBounds_ne hlast]
      exact ih (by omega)

/-- Writing the entries of the first row touches nothing below it. -/
theorem foldl_writeCell (n : Nat) :
    (List.range n).foldl (fun table j => writeCell table 0 j j) table =
      table.modify 0 (numbered n) := by
  induction n with
  | zero => exact (modify_unchanged table 0).symm
  | succ n ih =>
    rw [List.range_succ, List.foldl_append, ih, List.foldl_cons, List.foldl_nil, writeCell]
    exact modify_modify_eq (numbered_succ n _).symm

theorem filledTo_blankTable (a b : List Char) :
    FilledTo [] a b (blankTable a.length b.length) := by
  have hsize : (firstColumn a.length b.length).size = a.length + 1 := by
    rw [firstColumn, Array.size_mapIdx, Array.size_replicate]
  have hrow (i : Nat) (hi : i ≤ a.length) : (firstColumn a.length b.length).getD i #[] =
      (Array.replicate (b.length + 1) 0).setIfInBounds 0 i := by
    have hlt : i < a.length + 1 := by omega
    rw [firstColumn, Array.getD_eq_getD_getElem?, Array.getElem?_mapIdx,
      Array.getElem?_replicate, if_pos hlt, Option.map_some, Option.getD_some]
  rw [blankTable, foldl_writeCell]
  refine ⟨?_, ?_, ?_⟩
  · rw [Array.size_modify, hsize, List.length_nil, Nat.zero_add]
  · intro i hi
    obtain rfl : i = 0 := Nat.le_zero.1 hi
    rw [getD_modify_self (by omega), hrow 0 (Nat.zero_le a.length)]
    have hlength : ((Array.replicate (b.length + 1) 0).setIfInBounds 0 0).size = b.length + 1 := by
      rw [Array.size_setIfInBounds, Array.size_replicate]
    refine ⟨(size_numbered _ _).trans hlength, fun j hj => ?_⟩
    rw [getD_numbered (by omega) (by omega), List.take_zero, List.reverse_nil, alignCost_nil_left,
      List.length_reverse, List.length_take_of_le hj]
  · intro i hi hlast
    rw [List.length_nil] at hi hlast
    rw [getD_modify_ne (by omega), hrow i (by omega), Array.size_setIfInBounds,
      Array.size_replicate, getD_setIfInBounds_self]
    · exact ⟨rfl, rfl⟩
    · rw [Array.size_replicate]
      omega

/-- Every row of the full table is a row of the recurrence. -/
theorem isRow_fullTable {i : Nat} (hi : i ≤ a.length) :
    IsRow (a.take i).reverse b ((fullTable a b).getD i #[]) := by
  have h := (filledTo_blankTable a b).writeTable
  rw [List.nil_append] at h
  exact h.done i hi

example : fullTable ['b', 'a'] ['a', 'a'] = #[#[0, 1, 2], #[1, 1, 2], #[2, 1, 1]] := by decide

end Filling

/-! ### The rows that are kept -/

/-- The rows that are kept after the first `n` characters of the longer name. -/
def Rows.after (long short : List Char) (n : Nat) : Rows :=
  (long.zipIdx.take n).foldl (Rows.next short) (Rows.first short)

/-- The rows that may be reached after a number of characters of the longer name, if at any time the
row that will be written over may be filled with any other values. -/
inductive Rows.Reached (long short : List Char) : Nat → Rows → Prop
  | first : Reached long short 0 (Rows.first short)
  | next {i : Nat} {rows : Rows} {c : Char} (reached : Reached long short i rows)
      (read : long[i]? = some c) : Reached long short (i + 1) (rows.next short (c, i))
  | stale {i : Nat} {rows : Rows} (reached : Reached long short i rows) (values : Array Nat)
      (size : values.size = rows.current.size) :
      Reached long short i { rows with current := values }

section Kept

variable {long short done : List Char} {rows : Rows} {row row' : Array Nat} {i : Nat}

theorem Rows.after_length (long short : List Char) :
    Rows.after long short long.length = Rows.ofTexts long short := by
  rw [Rows.after, Rows.ofTexts, ← List.length_zipIdx (i := 0), List.take_length]

theorem Rows.after_succ {c : Char} (h : long[i]? = some c) :
    Rows.after long short (i + 1) = (Rows.after long short i).next short (c, i) := by
  have hcell : long.zipIdx[i]? = some (c, i) := by
    rw [List.getElem?_zipIdx, h, Option.map_some, Nat.zero_add]
  rw [Rows.after, List.take_add_one, hcell, Option.toList_some, List.foldl_append, List.foldl_cons,
    List.foldl_nil, Rows.after]

theorem Rows.reached_after (hi : i ≤ long.length) :
    Rows.Reached long short i (Rows.after long short i) := by
  induction i with
  | zero => exact .first
  | succ i ih =>
    have hread : long[i]? = some long[i] := List.getElem?_eq_getElem hi
    rw [Rows.after_succ hread]
    exact (ih (by omega)).next hread

theorem Rows.Reached.le_length (h : Rows.Reached long short i rows) : i ≤ long.length := by
  induction h with
  | first => exact Nat.zero_le long.length
  | next reached read ih => exact (List.getElem?_eq_some_iff.1 read).1
  | stale reached values size ih => exact ih

/-- The rows that are reached are those of the recurrence, as no value of the row that is written
over is read before it is written. -/
theorem Rows.Reached.at_take (h : Rows.Reached long short i rows) :
    rows.At (long.take i).reverse short := by
  induction h with
  | first => exact Rows.at_first
  | @next i rows c reached read ih =>
    have hnext := ih.next (c := c)
    rw [List.length_reverse, List.length_take_of_le reached.le_length] at hnext
    rwa [List.take_add_one, read, Option.toList_some, List.reverse_append, List.reverse_singleton,
      List.singleton_append]
  | stale reached values size ih => exact ⟨ih.previous, size.trans ih.current⟩

/-- The values of the recurrence make up one row. -/
theorem IsRow.eq (h : IsRow done short row) (h' : IsRow done short row') : row = row' := by
  refine Array.ext (h.size.trans h'.size.symm) fun j hj hj' => ?_
  have hcolumn : j ≤ short.length := by
    have := h.size
    omega
  rw [Array.getElem_eq_getD 0, Array.getElem_eq_getD 0, h.entries j hcolumn, h'.entries j hcolumn]

/-- A row with entries is a row that the table has. -/
theorem getElem?_of_isRow {table : Array (Array Nat)} (h : IsRow done short (table.getD i #[])) :
    table[i]? = some (table.getD i #[]) := by
  rcases hrow : table[i]? with - | row
  · have hsize := h.size
    rw [Array.getD_eq_getD_getElem?, hrow, Option.getD_none, Array.size_empty] at hsize
    omega
  · rw [Array.getD_eq_getD_getElem?, hrow, Option.getD_some]

theorem IsRow.getElem?_length (h : IsRow done short row) :
    row[short.length]? = some (alignCost done short.reverse) := by
  have hlast : short.length < row.size := by
    rw [h.size]
    omega
  rw [Array.getElem?_eq_getElem hlast, Array.getElem_eq_getD 0, h.entries short.length le_rfl,
    List.take_length]

theorem Rows.Reached.getElem?_fullTable (h : Rows.Reached long short i rows) :
    (fullTable long short)[i]? = some rows.previous := by
  have hrow := isRow_fullTable (b := short) h.le_length
  rw [getElem?_of_isRow hrow, hrow.eq h.at_take.previous]

theorem alignCost_orderByLength (a b : List Char) :
    alignCost (orderByLength a b).1 (orderByLength a b).2 = alignCost a b := by
  by_cases h : b.length ≤ a.length
  · simp only [orderByLength, if_pos h]
  · simp only [orderByLength, if_neg h, alignCost_comm]

/-- The last entry of the full table is the value of the recurrence. -/
theorem last_fullTable (a b : List Char) :
    (fullTable a b)[a.length]?.bind (fun row => row[b.length]?) = some (alignCost a b) := by
  have hrow := isRow_fullTable (b := b) (le_refl a.length)
  rw [getElem?_of_isRow hrow, Option.bind_some, hrow.getElem?_length, List.take_length,
    alignCost_reverse]

end Kept

/-- After each character of the longer name the row that is kept is the row of the full table with
the same number, complete from the first column to the last. It is so whatever other values the row
that is written over is filled with between the characters. And the last entry of the last row is
the edit distance, and so is that of the full table for the two texts in the order in which they
were given. -/
theorem kept_rows_are_rows_of_fullTable (a b : String) (long short : List Char)
    (hordered : orderByLength a.toList b.toList = (long, short)) :
    (∀ i ≤ long.length, (fullTable long short)[i]? = some (Rows.after long short i).previous ∧
        (Rows.after long short i).previous.size = short.length + 1) ∧
      (∀ i rows, Rows.Reached long short i rows →
        rows.previous = (Rows.after long short i).previous) ∧
      Rows.after long short long.length = Rows.ofTexts long short ∧
      (Rows.ofTexts long short).previous[short.length]? = some (editDistance a b) ∧
      (fullTable a.toList b.toList)[a.toList.length]?.bind (fun row => row[b.toList.length]?) =
        some (editDistance a b) := by
  have hdistance := editDistance_eq_alignCost a b
  have hcost : alignCost long short = alignCost a.toList b.toList := by
    have h := alignCost_orderByLength a.toList b.toList
    rwa [hordered] at h
  refine ⟨?_, ?_, Rows.after_length long short, ?_, ?_⟩
  · intro i hi
    have h : Rows.Reached long short i (Rows.after long short i) := Rows.reached_after hi
    exact ⟨h.getElem?_fullTable, h.at_take.previous.size⟩
  · intro i rows h
    exact h.at_take.previous.eq (Rows.reached_after h.le_length).at_take.previous
  · rw [(Rows.at_ofTexts long short).previous.getElem?_length, alignCost_reverse, hcost, hdistance]
  · rw [hdistance]
    exact last_fullTable a.toList b.toList

/-- The second name is the longer one, and the rows are kept for it. Whatever the other row is
filled with before its last character, the last row comes out the same. -/
theorem kept_rows_are_rows_of_fullTable_intro :
    orderByLength "into".toList "intro".toList = ("intro".toList, "into".toList) ∧
      (∀ stale : Array Nat, stale.size = 5 →
        (Rows.next "into".toList
            { Rows.after "intro".toList "into".toList 4 with current := stale } ('o', 4)).previous =
          (Rows.after "intro".toList "into".toList 5).previous) ∧
      (fullTable "into".toList "intro".toList)[4]?.bind (fun row => row[5]?) =
        some (editDistance "into" "intro") := by
  have hordered : orderByLength "into".toList "intro".toList =
      ("intro".toList, "into".toList) := by decide +kernel
  obtain ⟨-, hstale, -, -, hlast⟩ :=
    kept_rows_are_rows_of_fullTable "into" "intro" "intro".toList "into".toList hordered
  refine ⟨hordered, ?_, hlast⟩
  intro stale hsize
  have hfour : 4 ≤ "intro".toList.length := by decide +kernel
  have hread : "intro".toList[4]? = some 'o' := by decide +kernel
  have hreached : Rows.Reached "intro".toList "into".toList 4
      (Rows.after "intro".toList "into".toList 4) := Rows.reached_after hfour
  refine hstale 5 _ ((hreached.stale stale ?_).next hread)
  rw [hreached.at_take.current, hsize]
  decide +kernel

end EditDistance

end DocSelector
