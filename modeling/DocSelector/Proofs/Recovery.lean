import DocSelector.Proofs.Concatenation
import DocSelector.Proofs.Lineage
import DocSelector.Proofs.Location

/-!
# Going on as if nothing had come before

A stream keeps nothing of what it has read but its cursor. So at any moment it gives what a new
stream would give on the text that is still ahead, only that the points go on from the cursor
instead of starting anew. This holds after errors as well: behind the character that an error is
about, the text is read as if it stood alone.

## Main definitions

* `Piece.itemsFrom`: the items of pieces that are read from some point on.
* `TokenStream.dropReads`: the stream after `read` has been asked a number of times.
* `TokenStream.ReadsAfresh`: what it is to go on like a new stream.

## Main statements

* `TokenStream.readsAfresh_of_not_finished`: wherever a stream stands, it goes on like a new one.
* `TokenStream.dropReads_eq_afresh_drop`: the two ways to ask for items lead to the same cursor.
* `TokenStream.rest_is_read_afresh`: a selector after any number of items, and after an error.
-/

namespace DocSelector

namespace Piece

/-- The item of the piece when its text is read from `p` on. -/
def itemAt (p : Position) (piece : Piece) : TokenStream.Item :=
  match piece.item with
  | .ok token => .ok { token with start := p, stop := p.advanceOver piece.text }
  | .error e => .error { e with start := p }

/-- The items of the pieces when their texts are read from `p` on, one behind the other. -/
def itemsFrom (p : Position) : List Piece → List TokenStream.Item
  | [] => []
  | piece :: pieces => piece.itemAt p :: itemsFrom (p.advanceOver piece.text) pieces

variable {p q : Position} {lexemes : List Lexeme}

theorem itemsFrom_locate : itemsFrom p (locate q lexemes) = (locate p lexemes).map item := by
  induction lexemes generalizing p q with
  | nil => rfl
  | cons lexeme lexemes ih =>
    have hitem : (ofLexeme q lexeme).itemAt p = (ofLexeme p lexeme).item := by
      cases lexeme <;> rfl
    rw [locate, itemsFrom, hitem, ofLexeme, ih]
    rfl

end Piece

namespace TokenStream

variable {stream after : TokenStream} {e : LexicalError} {n : Nat}

/-- The stream after `read` has been asked `n` times. -/
def dropReads (stream : TokenStream) : Nat → TokenStream
  | 0 => stream
  | n + 1 => stream.read.2.dropReads n

/-- What is still to come from the stream is what comes from a new stream on the text ahead, as
items and as tokens, with every point found by reading the same characters from `p` on. -/
structure ReadsAfresh (p : Position) (stream : TokenStream) : Prop where
  items : stream.items = Piece.itemsFrom p (ofText stream.cursor.ahead).pieces
  tokens :
    stream.items.map Item.toToken = Piece.tokensFrom p (ofText stream.cursor.ahead).pieces

/-- Whatever a stream has read, it goes on like a new one from its cursor. -/
theorem readsAfresh_of_not_finished (hf : stream.finished = false) :
    stream.ReadsAfresh stream.cursor.position := by
  constructor
  · rw [items_eq_map_pieces, pieces_eq_locate hf, pieces_ofText, Piece.itemsFrom_locate]
  · rw [items_eq_map_pieces, pieces_eq_locate hf, pieces_ofText, Piece.tokensFrom_locate,
      List.map_map]
    rfl

/-! ### The two ways to ask -/

theorem eq_afresh (hf : stream.finished = false) : stream = stream.afresh := by
  obtain ⟨cursor, finished⟩ := stream
  obtain rfl : finished = false := hf
  rfl

theorem dropReads_of_isEnd (h : stream.read.1.isEnd = true) : stream.dropReads n = stream := by
  induction n with
  | zero => rfl
  | succ n ih => rw [dropReads, read_of_isEnd h, ih]

theorem drop_of_finished (h : stream.finished = true) : stream.drop n = stream := by
  cases n with
  | zero => rfl
  | succ n => simp only [drop, next?_of_finished h]

/-- However often `read` is asked, the cursor stands where it stands after as many items of `next?`.
Only the mark of the end is not set. -/
theorem dropReads_eq_afresh_drop (hf : stream.finished = false) :
    stream.dropReads n = (stream.drop n).afresh := by
  induction n generalizing stream with
  | zero => exact eq_afresh hf
  | succ n ih =>
    have hnext := next?_of_not_finished hf
    -- At the end of the text both ways stay where they are; anywhere else neither sets the mark.
    by_cases hend : stream.read.1.isEnd = true
    · have hdrop : stream.drop (n + 1) = { stream.read.2 with finished := true } := by
        simp only [drop, hnext, hend]
        exact drop_of_finished rfl
      rw [dropReads_of_isEnd hend, hdrop, read_of_isEnd hend]
      exact eq_afresh hf
    · have hgo : { stream.read.2 with finished := stream.read.1.isEnd } = stream.read.2 := by
        rw [Bool.eq_false_iff.2 hend, ← hf, ← finished_read]
      have hdrop : stream.drop (n + 1) = stream.read.2.drop n := by
        simp only [drop, hnext, hgo]
      rw [dropReads, hdrop, ih (finished_read.trans hf)]

theorem finished_drop (h : n < stream.items.length) : (stream.drop n).finished = false := by
  cases hf : (stream.drop n).finished with
  | false => rfl
  | true =>
    have hnone := pieces_of_next?_eq_none (next?_of_finished hf)
    rw [pieces_drop, List.drop_eq_nil_iff] at hnone
    rw [items_eq_map_pieces, List.length_map] at h
    omega

theorem items_drop : (stream.drop n).items = stream.items.drop n := by
  rw [items_eq_map_pieces, items_eq_map_pieces, pieces_drop, List.map_drop]

/-! ### Errors -/

/-- An error takes the one character that it is about, and the stream goes on right behind it. -/
theorem ahead_of_next?_eq_error (h : stream.next? = some (.error e, after)) :
    stream.cursor.ahead = e.cause.character :: after.cursor.ahead ∧
      after.cursor.position = e.stop ∧ after.finished = false := by
  obtain ⟨rest, ha, -, hstart, rfl⟩ := next?_eq_error_cases h
  have hfault : stream.cursor.ahead = (Lexeme.fault e.cause).text ++ rest := ha
  rw [ahead_past hfault, position_past hfault, ← hstart]
  exact ⟨ha, rfl, rfl⟩

/-! ### The rest of a selector -/

/-- The rest of a selector is read as if it stood alone. After `k` items that `read` has given, for
any `k`, the cursor stands behind the text of these items, and what is still to come is what a new
stream gives on the text ahead, with every point found by reading the same characters on from the
cursor. Items that `next?` gives lead to the same stream, as long as one more is to come; after the
token for the end of input it gives nothing more. If an item is an error, what is still to come
behind it is what a new stream gives on the text behind the one character that the error is
about. -/
theorem rest_is_read_afresh (source : String) (k : Nat) :
    source.toList =
        Piece.textOf ((ofText source.toList).pieces.take k) ++
          ((ofText source.toList).dropReads k).cursor.ahead ∧
      ((ofText source.toList).dropReads k).cursor.position =
        .ofText (Piece.textOf ((ofText source.toList).pieces.take k)) ∧
      ((ofText source.toList).dropReads k).ReadsAfresh
        ((ofText source.toList).dropReads k).cursor.position ∧
      (k < (ofText source.toList).items.length →
        (ofText source.toList).drop k = (ofText source.toList).dropReads k) ∧
      ((ofText source.toList).drop k).items = (ofText source.toList).items.drop k ∧
      ∀ e, (ofText source.toList).items[k]? = some (.error e) →
        source.toList =
            Piece.textOf ((ofText source.toList).pieces.take k) ++
              e.cause.character :: ((ofText source.toList).drop (k + 1)).cursor.ahead ∧
          ((ofText source.toList).drop (k + 1)).ReadsAfresh e.stop := by
  have hreads : (ofText source.toList).dropReads k = ((ofText source.toList).drop k).afresh :=
    dropReads_eq_afresh_drop rfl
  have hahead := ahead_eq_append (ofText source.toList) k
  have hposition := position_drop (ofText source.toList) k
  rw [hreads]
  refine ⟨hahead, ?_, readsAfresh_of_not_finished rfl, ?_, items_drop, ?_⟩
  · rw [← Position.advanceOver_start]
    exact hposition
  · intro hk
    exact eq_afresh (finished_drop hk)
  · intro e he
    rw [← List.head?_drop, ← items_drop] at he
    obtain ⟨later, hlater⟩ := List.head?_eq_some_iff.1 he
    obtain ⟨after, hnext, -⟩ := exists_next?_of_items_eq_cons hlater
    obtain ⟨htext, hstop, hf⟩ := ahead_of_next?_eq_error hnext
    rw [drop_succ_of_next?_eq_some hnext, ← htext, ← hstop]
    exact ⟨hahead, readsAfresh_of_not_finished hf⟩

/-- The rest behind a stray character on the second line, and behind an open string before it. -/
theorem rest_is_read_afresh_behind_errors :
    (ofText "'\n@b".toList).items[2]? =
        some (.error { cause := .unexpectedCharacter '@', start := ⟨2, 1, 2⟩ }) ∧
      "'\n@b".toList =
        Piece.textOf ((ofText "'\n@b".toList).pieces.take 2) ++
          '@' :: ((ofText "'\n@b".toList).drop 3).cursor.ahead ∧
      ((ofText "'\n@b".toList).drop 3).ReadsAfresh ⟨2, 2, 3⟩ := by
  have hcut : Lexeme.cut "'\n@b".toList =
      [.fault (.unterminatedString '\''), .plain .newline ['\n'],
        .fault (.unexpectedCharacter '@'), .plain .identifier ['b']] := by
    decide +kernel
  have hitem : (ofText "'\n@b".toList).items[2]? =
      some (.error { cause := .unexpectedCharacter '@', start := ⟨2, 1, 2⟩ }) := by
    rw [items_eq_map_pieces, pieces_ofText, hcut]
    rfl
  exact ⟨hitem, (rest_is_read_afresh "'\n@b" 2).2.2.2.2.2 _ hitem⟩

end TokenStream

end DocSelector
