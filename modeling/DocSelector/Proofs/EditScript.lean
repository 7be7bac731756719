import DocSelector.EditDistance
import Mathlib.Order.Bounds.Basic

/-!
# The edit distance as the length of a shortest script

A script is a chain of edits, each of a single character at any place of the text, so it may come
back to a place again and again. The table knows nothing of scripts; its entries follow a
recurrence. No script beats the recurrence, because an edit moves its value by one at most, and the
recurrence itself tells which edits to make. What the table ends with is the value of the
recurrence.

## Main definitions

* `EditDistance.Edit`: one edit of a text.
* `EditDistance.Script`: a chain of edits.
* `EditDistance.alignCost`: the recurrence of the table.
* `EditDistance.Rows.At`: the rows of the table as the recurrence gives them.

## Main statements

* `EditDistance.alignCost_le_of_script`: no script is shorter than the recurrence says.
* `EditDistance.script_alignCost`: some script is as short as the recurrence says.
* `EditDistance.Rows.At.next`: every character of the longer name leads to the next row.
* `EditDistance.ofTexts_eq_alignCost`: the table ends with the value of the recurrence.
* `EditDistance.isLeast_editDistance`: the edit distance is the least length of a script.
-/

namespace DocSelector

namespace EditDistance

/-- One edit of a text: at any place a character is put in or left out, or a character is written in
the place of another one. -/
inductive Edit : List Char → List Char → Prop
  | insert (before after : List Char) (c : Char) : Edit (before ++ after) (before ++ c :: after)
  | delete (before after : List Char) (c : Char) : Edit (before ++ c :: after) (before ++ after)
  | substitute (before after : List Char) (c d : Char) :
      Edit (before ++ c :: after) (before ++ d :: after)

/-- A chain of `n` edits from one text to another. -/
inductive Script : Nat → List Char → List Char → Prop
  | done (a : List Char) : Script 0 a a
  | step {n : Nat} {a b c : List Char} (edit : Edit a b) (rest : Script n b c) :
      Script (n + 1) a c

/-- The recurrence of the table. A text costs its length against the empty text; otherwise the cost
comes from the three pairs that lack one of the two first characters or both. -/
def alignCost : List Char → List Char → Nat
  | [], b => b.length
  | c :: a, [] => (c :: a).length
  | c :: a, d :: b =>
    entry c d (alignCost a b) (alignCost a (d :: b)) (alignCost (c :: a) b)
termination_by a b => a.length + b.length

section Entry

variable {c d : Char} {diagonal above left diagonal' above' left' : Nat}

theorem entry_le_above : entry c d diagonal above left ≤ above + 1 := by
  rw [entry]
  omega

theorem entry_le_left : entry c d diagonal above left ≤ left + 1 := by
  rw [entry]
  omega

theorem entry_le_diagonal : entry c d diagonal above left ≤ diagonal + 1 := by
  rw [entry]
  split <;> omega

theorem entry_self_le : entry c c diagonal above left ≤ diagonal := by
  simp [entry]

theorem entry_cases (c d : Char) (diagonal above left : Nat) :
    entry c d diagonal above left = above + 1 ∨ entry c d diagonal above left = left + 1 ∨
      (c = d ∧ entry c d diagonal above left = diagonal) ∨
        entry c d diagonal above left = diagonal + 1 := by
  by_cases h : c = d
  · subst h
    simp only [entry, if_true, Nat.add_zero, true_and]
    omega
  · simp only [entry, if_neg h]
    omega

/-- An entry moves by one at most when its neighbours do. -/
theorem entry_le_entry_succ (hdiagonal : diagonal ≤ diagonal' + 1) (habove : above ≤ above' + 1)
    (hleft : left ≤ left' + 1) :
    entry c d diagonal above left ≤ entry c d diagonal' above' left' + 1 := by
  by_cases h : c = d
  · rw [entry, entry, if_pos h]
    omega
  · rw [entry, entry, if_neg h]
    omega

theorem entry_comm : entry d c diagonal left above = entry c d diagonal above left := by
  simp only [entry, eq_comm (a := d), Nat.min_comm (left + 1)]

end Entry

section Recurrence

variable {a b x : List Char} {c d : Char}

@[simp]
theorem alignCost_nil_left : alignCost [] b = b.length := by
  rw [alignCost]

@[simp]
theorem alignCost_nil_right : alignCost a [] = a.length := by
  cases a with
  | nil => exact alignCost_nil_left
  | cons c a => rw [alignCost]

theorem alignCost_cons_cons : alignCost (c :: a) (d :: b) =
    entry c d (alignCost a b) (alignCost a (d :: b)) (alignCost (c :: a) b) := by
  rw [alignCost]

theorem alignCost_comm (a b : List Char) : alignCost b a = alignCost a b := by
  induction a, b using alignCost.induct with
  | case1 b => rw [alignCost_nil_left, alignCost_nil_right]
  | case2 c a => rw [alignCost_nil_left, alignCost_nil_right]
  | case3 c a d b diagonal above left =>
    rw [alignCost_cons_cons, alignCost_cons_cons, diagonal, above, left, entry_comm]

theorem alignCost_self (a : List Char) : alignCost a a = 0 := by
  induction a with
  | nil => exact alignCost_nil_left
  | cons c a ih =>
    have h : alignCost (c :: a) (c :: a) ≤ alignCost a a := by
      rw [alignCost_cons_cons]
      exact entry_self_le
    omega

end Recurrence

section Edits

variable {a b x : List Char} {c d : Char} {n : Nat}

theorem alignCost_cons_right_le : alignCost x (c :: a) ≤ alignCost x a + 1 := by
  cases x with
  | nil => simp
  | cons e x =>
    rw [alignCost_cons_cons]
    exact entry_le_left

theorem alignCost_cons_left_le : alignCost (c :: x) a ≤ alignCost x a + 1 := by
  cases a with
  | nil => simp
  | cons d a =>
    rw [alignCost_cons_cons]
    exact entry_le_above

theorem alignCost_le_cons_right : alignCost x a ≤ alignCost x (c :: a) + 1 := by
  induction x with
  | nil =>
    simp only [alignCost_nil_left, List.length_cons]
    omega
  | cons e x ih =>
    -- Whichever neighbour the entry for `c` comes from bounds the cost without `c`.
    have hcons : alignCost (e :: x) a ≤ alignCost x a + 1 := alignCost_cons_left_le
    rw [alignCost_cons_cons]
    rcases entry_cases e c (alignCost x a) (alignCost x (c :: a)) (alignCost (e :: x) a) with
      h | h | ⟨-, h⟩ | h <;> omega

theorem alignCost_substitute_le : alignCost x (d :: a) ≤ alignCost x (c :: a) + 1 := by
  induction x with
  | nil => simp
  | cons e x ih =>
    have habove : alignCost (e :: x) (d :: a) ≤ alignCost x (d :: a) + 1 := alignCost_cons_left_le
    have hleft : alignCost (e :: x) (d :: a) ≤ alignCost (e :: x) a + 1 := alignCost_cons_right_le
    have hdiagonal : alignCost (e :: x) (d :: a) ≤ alignCost x a + 1 := by
      rw [alignCost_cons_cons]
      exact entry_le_diagonal
    rw [alignCost_cons_cons (d := c)]
    rcases entry_cases e c (alignCost x a) (alignCost x (c :: a)) (alignCost (e :: x) a) with
      h | h | ⟨-, h⟩ | h <;> omega

/-- What raises the cost by one at most still does so behind one more character. -/
theorem alignCost_cons_right_mono (h : ∀ x, alignCost x b ≤ alignCost x a + 1) (x : List Char) :
    alignCost x (c :: b) ≤ alignCost x (c :: a) + 1 := by
  induction x with
  | nil => simpa using h []
  | cons e x ih =>
    rw [alignCost_cons_cons, alignCost_cons_cons]
    exact entry_le_entry_succ (h x) ih (h (e :: x))

theorem alignCost_append_right_mono (h : ∀ x, alignCost x b ≤ alignCost x a + 1)
    (before x : List Char) : alignCost x (before ++ b) ≤ alignCost x (before ++ a) + 1 := by
  induction before generalizing x with
  | nil => exact h x
  | cons c before ih => exact alignCost_cons_right_mono ih x

/-- An edit raises the cost by one at most, whatever text the cost is against. -/
theorem alignCost_le_of_edit (edit : Edit a b) (x : List Char) :
    alignCost x b ≤ alignCost x a + 1 := by
  cases edit with
  | insert before after c =>
    exact alignCost_append_right_mono (fun _ => alignCost_cons_right_le) before x
  | delete before after c =>
    exact alignCost_append_right_mono (fun _ => alignCost_le_cons_right) before x
  | substitute before after c d =>
    exact alignCost_append_right_mono (fun _ => alignCost_substitute_le) before x

theorem alignCost_le_add_of_script (script : Script n a b) (x : List Char) :
    alignCost x b ≤ alignCost x a + n := by
  induction script with
  | done a => exact le_rfl
  | step edit rest ih =>
    have h := alignCost_le_of_edit edit x
    omega

/-- No script is shorter than the recurrence says. -/
theorem alignCost_le_of_script (script : Script n a b) : alignCost a b ≤ n := by
  have h := alignCost_le_add_of_script script a
  rw [alignCost_self] at h
  omega

end Edits

section Scripts

variable {a b : List Char} {n : Nat}

theorem Edit.cons (c : Char) (edit : Edit a b) : Edit (c :: a) (c :: b) := by
  cases edit with
  | insert before after d => exact .insert (c :: before) after d
  | delete before after d => exact .delete (c :: before) after d
  | substitute before after d e => exact .substitute (c :: before) after d e

theorem Script.cons (c : Char) (script : Script n a b) : Script n (c :: a) (c :: b) := by
  induction script with
  | done a => exact .done (c :: a)
  | step edit rest ih => exact .step (edit.cons c) ih

theorem script_nil_left (b : List Char) : Script b.length [] b := by
  induction b with
  | nil => exact .done []
  | cons d b ih => exact .step (.insert [] [] d) (ih.cons d)

theorem script_nil_right (a : List Char) : Script a.length a [] := by
  induction a with
  | nil => exact .done []
  | cons c a ih => exact .step (.delete [] a c) ih

/-- Some script is as short as the recurrence says: it makes the edit of the neighbour that the
entry is reached from. -/
theorem script_alignCost (a b : List Char) : Script (alignCost a b) a b := by
  induction a, b using alignCost.induct with
  | case1 b =>
    rw [alignCost_nil_left]
    exact script_nil_left b
  | case2 c a =>
    rw [alignCost_nil_right]
    exact script_nil_right (c :: a)
  | case3 c a d b diagonal above left =>
    rw [alignCost_cons_cons]
    rcases entry_cases c d (alignCost a b) (alignCost a (d :: b)) (alignCost (c :: a) b) with
      h | h | ⟨hcd, h⟩ | h
    · rw [h]
      exact .step (.delete [] a c) above
    · rw [h]
      -- The script for the neighbour runs behind the character that is put in.
      exact .step (.insert [] (c :: a) d) (left.cons d)
    · rw [h, hcd]
      exact diagonal.cons d
    · rw [h]
      exact .step (.substitute [] a c d) (diagonal.cons d)

theorem Edit.length_le (edit : Edit a b) :
    a.length ≤ b.length + 1 ∧ b.length ≤ a.length + 1 := by
  cases edit <;> simp only [List.length_append, List.length_cons] <;> omega

/-- A script has at least as many edits as its two texts differ in length. -/
theorem Script.length_le (script : Script n a b) :
    a.length ≤ b.length + n ∧ b.length ≤ a.length + n := by
  induction script with
  | done a => exact ⟨le_rfl, le_rfl⟩
  | step edit rest ih =>
    have h := edit.length_le
    omega

theorem Edit.reverse (edit : Edit a b) : Edit a.reverse b.reverse := by
  cases edit with
  | insert before after c => simpa using Edit.insert after.reverse before.reverse c
  | delete before after c => simpa using Edit.delete after.reverse before.reverse c
  | substitute before after c d => simpa using Edit.substitute after.reverse before.reverse c d

theorem Script.reverse (script : Script n a b) : Script n a.reverse b.reverse := by
  induction script with
  | done a => exact .done a.reverse
  | step edit rest ih => exact .step edit.reverse ih

theorem alignCost_reverse_le (a b : List Char) : alignCost a.reverse b.reverse ≤ alignCost a b :=
  alignCost_le_of_script (script_alignCost a b).reverse

theorem alignCost_reverse (a b : List Char) : alignCost a.reverse b.reverse = alignCost a b := by
  refine le_antisymm (alignCost_reverse_le a b) ?_
  simpa using alignCost_reverse_le a.reverse b.reverse

end Scripts

section Table

/-- The row holds the values of the recurrence for `done` against each prefix of `short`. As the
table grows by the last characters of the prefixes, the recurrence runs over them backwards, and
`done` is given backwards too. -/
structure IsRow (done short : List Char) (row : Array Nat) : Prop where
  size : row.size = short.length + 1
  entries : ∀ j ≤ short.length, row.getD j 0 = alignCost done (short.take j).reverse

/-- The rows of the table when `done` has been read. Of the row that will be written over, nothing
but the size is known. -/
structure Rows.At (done short : List Char) (rows : Rows) : Prop where
  previous : IsRow done short rows.previous
  current : rows.current.size = short.length + 1

variable {done short before after : List Char} {c : Char} {previous current : Array Nat}
  {rows : Rows}

theorem getD_setIfInBounds_self {j v : Nat} (h : j < current.size) :
    (current.setIfInBounds j v).getD j 0 = v := by
  simp [Array.getElem?_setIfInBounds_self_of_lt h]

theorem getD_setIfInBounds_ne {i j v : Nat} (h : i ≠ j) :
    (current.setIfInBounds i v).getD j 0 = current.getD j 0 := by
  simp [Array.getElem?_setIfInBounds_ne h]

/-- The entry in the column of `d` comes out as the recurrence says. -/
theorem entry_eq_alignCost {d : Char} {left : Nat}
    (hprevious : IsRow done (before ++ d :: after) previous)
    (hleft : left = alignCost (c :: done) before.reverse) :
    entry c d (previous.getD before.length 0) (previous.getD (before.length + 1) 0) left =
      alignCost (c :: done) (before ++ [d]).reverse := by
  have hlength : (before ++ d :: after).length = before.length + after.length + 1 := by
    rw [List.length_append, List.length_cons]
    omega
  have hdiagonal := hprevious.entries before.length (by omega)
  have habove := hprevious.entries (before.length + 1) (by omega)
  rw [List.take_left] at hdiagonal
  rw [List.take_length_add_append, List.take_one, List.head?_cons, Option.toList_some] at habove
  rw [List.reverse_append, List.reverse_singleton, List.singleton_append] at habove ⊢
  rw [hdiagonal, habove, hleft, alignCost_cons_cons]

/-- If the entries up to a column are those of the next row, writing over the others completes
it. -/
theorem isRow_fillRow (before : List Char) (hprevious : IsRow done (before ++ after) previous)
    (hsize : current.size = (before ++ after).length + 1)
    (hcurrent : ∀ j ≤ before.length,
      current.getD j 0 = alignCost (c :: done) ((before ++ after).take j).reverse) :
    IsRow (c :: done) (before ++ after) (fillRow c previous before.length after current) := by
  induction after generalizing before current with
  | nil =>
    refine ⟨hsize, fun j hj => hcurrent j ?_⟩
    rwa [List.append_nil] at hj
  | cons d after ih =>
    have hleft := hcurrent before.length le_rfl
    rw [List.take_left] at hleft
    rw [fillRow, entry_eq_alignCost hprevious hleft]
    -- The column of `d` joins those before it.
    have hbefore : (before ++ [d]).length = before.length + 1 := by
      rw [List.length_append, List.length_singleton]
    rw [List.append_cons] at hprevious hsize hcurrent ⊢
    rw [← hbefore]
    refine ih (before ++ [d]) hprevious (by rw [Array.size_setIfInBounds, hsize]) ?_
    intro j hj
    by_cases hlast : (before ++ [d]).length = j
    · have hbound : j < current.size := by
        rw [hsize, List.length_append]
        omega
      subst hlast
      rw [getD_setIfInBounds_self hbound, List.take_left]
    · rw [getD_setIfInBounds_ne hlast]
      exact hcurrent j (by omega)

/-- Once the first entry is written, the others of the next row follow from it and from the row
before. -/
theorem IsRow.fillRow (hprevious : IsRow done short previous)
    (hsize : current.size = short.length + 1) (hfirst : current.getD 0 0 = done.length + 1) :
    IsRow (c :: done) short (EditDistance.fillRow c previous 0 short current) := by
  refine isRow_fillRow [] hprevious hsize ?_
  intro j hj
  obtain rfl : j = 0 := Nat.le_zero.1 hj
  rw [hfirst, List.take_zero, List.reverse_nil, alignCost_nil_right, List.length_cons]

/-- One more character of the longer name leads to the next row, whatever stood in the row that has
been written over. -/
theorem Rows.At.next (h : rows.At done short) :
    (rows.next short (c, done.length)).At (c :: done) short where
  previous := by
    have hzero : 0 < rows.current.size := by
      rw [h.current]
      omega
    refine h.previous.fillRow ?_ (getD_setIfInBounds_self hzero)
    rw [Array.size_setIfInBounds, h.current]
  current := h.previous.size

theorem Rows.at_first : (Rows.first short).At [] short where
  previous := by
    refine ⟨Array.size_range, ?_⟩
    intro j hj
    have hlt : j < short.length + 1 := by omega
    simp [Rows.first, hlt, hj]
  current := Array.size_replicate

/-- The characters of the longer name lead from row to row. -/
theorem Rows.At.foldl (h : rows.At done short) (long : List Char) :
    ((long.zipIdx done.length).foldl (Rows.next short) rows).At (long.reverse ++ done) short := by
  induction long generalizing done rows with
  | nil => exact h
  | cons c long ih =>
    rw [List.zipIdx_cons, List.foldl_cons, List.reverse_cons, List.append_assoc]
    exact ih h.next

theorem Rows.at_ofTexts (long short : List Char) :
    (Rows.ofTexts long short).At long.reverse short := by
  have h := (@Rows.at_first short).foldl long
  rwa [List.append_nil] at h

/-- The table ends with the value of the recurrence, whichever text is the longer one. -/
theorem ofTexts_eq_alignCost (a b : List Char) : ofTexts a b = alignCost a b := by
  have hlast (long short : List Char) :
      (if short.isEmpty then long.length
        else (Rows.ofTexts long short).previous.getD short.length 0) = alignCost long short := by
    cases short with
    | nil => exact alignCost_nil_right.symm
    | cons d short =>
      have h := (Rows.at_ofTexts long (d :: short)).previous.entries _ le_rfl
      rw [List.take_length, alignCost_reverse] at h
      exact h
  by_cases h : b.length ≤ a.length
  · simp only [ofTexts, orderByLength, if_pos h, hlast]
  · simp only [ofTexts, orderByLength, if_neg h, hlast, alignCost_comm]

end Table

/-- The edit distance of two texts is the least number of edits in a chain from one to the other. -/
theorem isLeast_editDistance (a b : String) :
    IsLeast {n | Script n a.toList b.toList} (editDistance a b) := by
  rw [editDistance, ofTexts_eq_alignCost]
  refine ⟨script_alignCost a.toList b.toList, ?_⟩
  intro n script
  exact alignCost_le_of_script script

example : editDistance "kitten" "sitting" = 3 := by cbv

end EditDistance

end DocSelector
