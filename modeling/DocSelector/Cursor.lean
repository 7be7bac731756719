import DocSelector.Position

/-!
# Cursors

A cursor stands between two characters of a text. It knows what lies behind it and what lies ahead,
and it counts its way in two units at once: bytes of the UTF-8 form, by which pieces of the text are
asked for, and the lines and columns of `Position`.

## Main definitions

* `Cursor`: a point of a text with both its sides.
* `Cursor.next?`, `Cursor.skip`, `Cursor.eatWhile`: moves, all of them forward.
* `Cursor.sliceFrom`: the piece of text between a byte index and the cursor.
-/

namespace DocSelector

/-- A point of a text with both its sides. -/
structure Cursor where
  /-- The characters already passed, the nearest first. -/
  behind : List Char
  ahead : List Char
  /-- The number of bytes of the characters already passed. -/
  bytePos : Nat
  position : Position
deriving DecidableEq, Repr

namespace Cursor

/-- The cursor before the first character of `text`. -/
def ofText (text : List Char) : Cursor where
  behind := []
  ahead := text
  bytePos := 0
  position := .start

def isAtEnd (cursor : Cursor) : Bool := cursor.ahead.isEmpty

def current? (cursor : Cursor) : Option Char := cursor.ahead.head?

def peek? (cursor : Cursor) : Option Char := cursor.ahead.tail.head?

/-- The cursor after it has passed `c`, with `rest` still to come. -/
def pass (cursor : Cursor) (c : Char) (rest : List Char) : Cursor where
  behind := c :: cursor.behind
  ahead := rest
  bytePos := cursor.bytePos + c.utf8Size
  position := cursor.position.advance c

/-- The next character and the cursor after it, or nothing at the end of the text. -/
def next? (cursor : Cursor) : Option (Char × Cursor) :=
  match cursor.ahead with
  | [] => none
  | c :: rest => some (c, cursor.pass c rest)

/-- The cursor after up to `n` more characters; it stops at the end of the text. -/
def skip (cursor : Cursor) : Nat → Cursor
  | 0 => cursor
  | n + 1 =>
    match cursor.next? with
    | none => cursor
    | some (_, cursor) => cursor.skip n

/-- The cursor before the next character that does not satisfy `p`. -/
def eatWhile (p : Char → Bool) (cursor : Cursor) : Cursor :=
  go cursor cursor.ahead
where
  /-- Passes characters of the list as long as they satisfy `p`. -/
  go (cursor : Cursor) : List Char → Cursor
    | [] => cursor
    | c :: rest => if p c then go (cursor.pass c rest) rest else cursor

/-- The characters that end a reversed text and take exactly `n` bytes, put in front of `text`. If
no number of characters takes exactly `n` bytes, there are none. -/
def lastBytes? : Nat → List Char → List Char → Option (List Char)
  | 0, _, text => some text
  | _ + 1, [], _ => none
  | n + 1, c :: behind, text =>
    if c.utf8Size ≤ n + 1 then lastBytes? (n + 1 - c.utf8Size) behind (c :: text) else none

/-- The text from the byte index `n` up to the cursor. It is empty if the index lies after the
cursor or inside a character. -/
def sliceFrom (cursor : Cursor) (n : Nat) : List Char :=
  if n ≤ cursor.bytePos then (lastBytes? (cursor.bytePos - n) cursor.behind []).getD [] else []

variable {cursor : Cursor} {c : Char} {rest text : List Char} {n : Nat}

@[simp] theorem next?_eq_none_iff : cursor.next? = none ↔ cursor.ahead = [] := by
  unfold next?; split <;> simp_all

theorem next?_of_ahead_eq_cons (h : cursor.ahead = c :: rest) :
    cursor.next? = some (c, cursor.pass c rest) := by
  simp [next?, h]

/-- Where a move ends: the characters that it takes are behind the cursor, and they are counted. -/
theorem skip_eq (cursor : Cursor) (n : Nat) :
    cursor.skip n =
      { behind := (cursor.ahead.take n).reverse ++ cursor.behind
        ahead := cursor.ahead.drop n
        bytePos := cursor.bytePos + (String.ofList (cursor.ahead.take n)).utf8ByteSize
        position := cursor.position.advanceOver (cursor.ahead.take n) } := by
  induction n generalizing cursor with
  | zero => rfl
  | succ n ih =>
    rw [skip]
    cases h : cursor.ahead with
    | nil =>
      cases cursor
      simp_all [next?]
    | cons c rest => simp [next?_of_ahead_eq_cons h, ih, pass, Nat.add_assoc]

@[simp] theorem ahead_skip : (cursor.skip n).ahead = cursor.ahead.drop n := by
  rw [skip_eq]

theorem position_skip :
    (cursor.skip n).position = cursor.position.advanceOver (cursor.ahead.take n) := by
  rw [skip_eq]

theorem behind_skip :
    (cursor.skip n).behind = (cursor.ahead.take n).reverse ++ cursor.behind := by
  rw [skip_eq]

theorem bytePos_skip :
    (cursor.skip n).bytePos =
      cursor.bytePos + (String.ofList (cursor.ahead.take n)).utf8ByteSize := by
  rw [skip_eq]

theorem skip_skip {m : Nat} : (cursor.skip n).skip m = cursor.skip (n + m) := by
  induction n generalizing cursor with
  | zero => rw [skip, Nat.zero_add]
  | succ n ih =>
    rw [Nat.add_right_comm]
    cases hnext : cursor.next? with
    | none =>
      simp only [skip, hnext]
      cases m <;> simp only [skip, hnext]
    | some step =>
      simp only [skip, hnext]
      exact ih

theorem drop_succ_of_drop_eq_cons (h : text.drop n = c :: rest) : text.drop (n + 1) = rest := by
  rw [← List.tail_drop, h, List.tail_cons]

/-- One more character makes the move longer by one. -/
theorem pass_skip (h : cursor.ahead.drop n = c :: rest) :
    (cursor.skip n).pass c rest = cursor.skip (n + 1) := by
  have hnext := next?_of_ahead_eq_cons (ahead_skip.trans h)
  rw [← skip_skip, skip, hnext]
  rfl

/-- Characters that satisfy `p` are passed up to the first one that does not. -/
theorem eatWhile_skip {p : Char → Bool} :
    (cursor.skip n).eatWhile p =
      cursor.skip (n + ((cursor.ahead.drop n).takeWhile p).length) := by
  rw [eatWhile, ahead_skip]
  generalize htext : cursor.ahead.drop n = text
  induction text generalizing n with
  | nil => rfl
  | cons c text ih =>
    by_cases hc : p c
    · rw [eatWhile.go, if_pos hc, pass_skip htext, ih (drop_succ_of_drop_eq_cons htext),
        List.takeWhile_cons_of_pos hc, List.length_cons, Nat.add_assoc, Nat.add_comm 1]
    · rw [eatWhile.go, if_neg hc, List.takeWhile_cons_of_neg hc]
      rfl

/-- As many bytes as the nearest characters have bring back exactly these characters. -/
theorem lastBytes?_append {passed behind : List Char} :
    lastBytes? (String.ofList passed).utf8ByteSize (passed ++ behind) text =
      some (passed.reverse ++ text) := by
  induction passed generalizing text with
  | nil => simp [lastBytes?]
  | cons c passed ih =>
    have hbytes : (String.ofList (c :: passed)).utf8ByteSize =
        c.utf8Size + (String.ofList passed).utf8ByteSize := by simp
    have hpos : 0 < c.utf8Size := c.utf8Size_pos
    -- The recursion is on the number of bytes, and a character has at least one.
    obtain ⟨n, hn⟩ : ∃ n, (String.ofList (c :: passed)).utf8ByteSize = n + 1 :=
      Nat.exists_eq_add_one.2 (by omega)
    have hle : c.utf8Size ≤ n + 1 := by omega
    have hrest : n + 1 - c.utf8Size = (String.ofList passed).utf8ByteSize := by omega
    rw [hn, List.cons_append, lastBytes?, if_pos hle, hrest, ih]
    simp

theorem utf8ByteSize_reverse :
    (String.ofList text.reverse).utf8ByteSize = (String.ofList text).utf8ByteSize := by
  induction text with
  | nil => rfl
  | cons c text ih => simp [ih, Nat.add_comm]

/-- The slice between the two ends of a move is the text that the move has passed. -/
theorem sliceFrom_skip : (cursor.skip n).sliceFrom cursor.bytePos = cursor.ahead.take n := by
  rw [sliceFrom, bytePos_skip, if_pos (Nat.le_add_right _ _), Nat.add_sub_cancel_left, behind_skip,
    ← utf8ByteSize_reverse, lastBytes?_append]
  simp

@[simp] theorem sliceFrom_bytePos : cursor.sliceFrom cursor.bytePos = [] := by
  simp [sliceFrom, lastBytes?]

end Cursor

end DocSelector
