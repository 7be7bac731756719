import DocSelector.Proofs.Closing
import DocSelector.Proofs.Segmentation

/-!
# Quotes that are never closed

When a string turns out to be open, only its opening quote is passed, and the text behind it is read
again from there. Backslashes that were parts of pairs may now stand on their own, and quotes that
were protected may now begin tokens. Still no string that is opened by the same quote is ever closed
in the rest of the selector: an unprotected quote behind such an opening quote would have been
unprotected behind the first one as well, since no run of backslashes goes on across a quote.

## Main definitions

* `Literal.Spent`: a text in which no copy of the quote can open a string.

## Main statements

* `Literal.spent_of_read?_eq_none`: what is left of a text in which no end of the string was found.
* `Literal.Spent.of_append`, `TokenStream.spent_of_next?`: every step of a stream keeps a quote
  spent.
* `TokenStream.error_of_mem_pieces`: so does a whole run.
* `TokenStream.open_quote_never_closes`: behind an open string no string opens with the same quote.
-/

namespace DocSelector

/-! ### Texts without an end for any string -/

namespace Literal

variable {quote : Char} {text front rest before : List Char}

/-- No copy of the quote in the text has an unprotected copy behind it. -/
def Spent (quote : Char) (text : List Char) : Prop :=
  ∀ front rest, text = front ++ quote :: rest → ∀ before, ¬Unprotected quote rest before

/-- An unprotected quote stays so when another copy of the quote and any text come in front. -/
theorem Unprotected.behind_quote (hquote : quote ≠ '\\') (h : Unprotected quote rest before) :
    Unprotected quote (front ++ quote :: rest) (front ++ quote :: before) := by
  obtain ⟨hbegin, heven⟩ := h
  constructor
  · rw [List.append_assoc, List.cons_append, List.prefix_append_right_inj, List.cons_prefix_cons]
    exact ⟨rfl, hbegin⟩
  · -- The copy in front is no backslash, so the run does not go on across it.
    rwa [backslashesAtEnd_append_cons hquote]

/-- If a string is open in a text, it is as good as open behind every quote of the text. -/
theorem spent_of_read?_eq_none (hquote : quote ≠ '\\') (h : read? quote text = none) :
    Spent quote text := by
  intro front rest htext before hfree
  subst htext
  exact not_unprotected_of_read? hquote h (hfree.behind_quote hquote)

/-- What is true of every quote of a text is true of those in its end. -/
theorem Spent.of_append (h : Spent quote (front ++ rest)) : Spent quote rest := by
  intro inner tail htext
  subst htext
  exact h (front ++ inner) tail (List.append_assoc front inner _).symm

theorem Spent.read?_eq_none (hquote : quote ≠ '\\') (h : Spent quote (quote :: rest)) :
    read? quote rest = none := by
  cases hread : read? quote rest with
  | none => rfl
  | some content =>
    have hfirst := firstUnprotected_of_read? hquote hread
    exact absurd hfirst.1 (h [] rest rfl content.raw)

end Literal

/-! ### The run of a stream behind an open string -/

namespace TokenStream

open Grammar (Quote)
open Literal (Spent)

variable {stream after : TokenStream} {item : Item} {quote : Char} {p : Position}

/-- A string is found open only at a quote, and then this quote is spent behind it. -/
theorem spent_of_unterminated
    (h : stream.next? = some (.error { cause := .unterminatedString quote, start := p }, after)) :
    Quote quote ∧ Spent quote after.cursor.ahead := by
  obtain ⟨rest, ha, hstart, -, rfl⟩ := next?_eq_error_cases h
  have hahead : (stream.past (.fault (.unterminatedString quote))).cursor.ahead = rest :=
    ahead_past ha
  rcases Lexeme.cause_of_startingWith_eq_fault hstart with ⟨-, hcause⟩ | ⟨hopen, hread, -⟩
  · cases hcause
  · have hquote : Quote quote := Grammar.isQuote_iff.1 hopen
    rw [hahead]
    exact ⟨hquote, Literal.spent_of_read?_eq_none hquote.ne_backslash hread⟩

/-- A quote that is spent stays so with every item that is given. -/
theorem spent_of_next? (h : stream.next? = some (item, after))
    (hspent : Spent quote stream.cursor.ahead) : Spent quote after.cursor.ahead := by
  rw [ahead_of_next?_eq_some h] at hspent
  exact hspent.of_append

/-- An item that begins with a spent quote is the error for an open string. -/
theorem item_of_spent (hquote : Quote quote) (h : stream.next? = some (item, after))
    (hspent : Spent quote stream.cursor.ahead)
    (hhead : (after.cursor.sliceFrom stream.cursor.bytePos).head? = some quote) :
    item = .error { cause := .unterminatedString quote, start := stream.cursor.position } := by
  rcases next?_eq_some_cases h with ⟨-, -, rfl⟩ | ⟨lexeme, rest, ha, hl, rfl, rfl⟩
  · rw [Cursor.sliceFrom_bytePos] at hhead
    cases hhead
  · rw [sliceFrom_past ha] at hhead
    obtain ⟨tail, htext⟩ := List.head?_eq_some_iff.1 hhead
    rw [ha, htext, List.cons_append] at hspent
    rw [htext, List.cons_append, Grammar.first?_of_quote hquote, Lexeme.quotation,
      hspent.read?_eq_none hquote.ne_backslash] at hl
    cases hl
    rfl

/-- While a quote is spent, every piece that begins with it is the error for an open string. -/
theorem error_of_mem_pieces (hquote : Quote quote) (hspent : Spent quote stream.cursor.ahead) :
    ∀ piece ∈ stream.pieces, piece.text.head? = some quote →
      ∃ p, piece.item = .error { cause := .unterminatedString quote, start := p } := by
  fun_induction pieces stream with
  | case1 => simp
  | case2 stream item after h ih =>
    rw [List.forall_mem_cons]
    exact ⟨fun hhead => ⟨_, item_of_spent hquote h hspent hhead⟩, ih (spent_of_next? h hspent)⟩

/-- Once a string has been found open, no string opened by the same quote comes up in the rest of
the selector: wherever a later piece begins with this quote, it is the error for an open string
again. -/
theorem open_quote_never_closes {source : String} {quote : Char} {start : Position}
    {earlier later : List Piece} {piece : Piece}
    (h : (ofText source.toList).pieces = earlier ++ piece :: later)
    (hopen : piece.item = .error { cause := .unterminatedString quote, start }) :
    ∀ other ∈ later,
      (other.text.head? = some quote →
        ∃ p, other.item = .error { cause := .unterminatedString quote, start := p }) ∧
      ∀ token, other.item = .ok token → token.kind = .string →
        other.text.head? ≠ some quote := by
  have hdrop : ((ofText source.toList).drop earlier.length).pieces = piece :: later := by
    rw [pieces_drop, h, List.drop_left]
  obtain ⟨after, hnext, -, rfl⟩ := exists_next?_of_pieces_eq_cons hdrop
  rw [hopen] at hnext
  obtain ⟨hquote, hspent⟩ := spent_of_unterminated hnext
  intro other hother
  have herror := error_of_mem_pieces hquote hspent other hother
  refine ⟨herror, fun token hitem _ hhead => ?_⟩
  obtain ⟨p, hp⟩ := herror hhead
  cases hitem.symm.trans hp

/-- A quote is open in front of a protected copy of itself. Behind it the backslash begins a piece
of its own and the copy is open too; a third one stands in a string of the other quote. -/
theorem open_quote_never_closes_read_again :
    ∃ piece later,
      (ofText "\"\\\"x'\\\"'".toList).pieces = [] ++ piece :: later ∧
        piece.item = .error { cause := .unterminatedString '"', start := .start } ∧
        later.map Piece.text = [['\\'], ['"'], ['x'], "'\\\"'".toList, []] ∧
        ∀ other ∈ later,
          (other.text.head? = some '"' →
            ∃ p, other.item = .error { cause := .unterminatedString '"', start := p }) ∧
          ∀ token, other.item = .ok token → token.kind = .string →
            other.text.head? ≠ some '"' := by
  have hcut : Lexeme.cut "\"\\\"x'\\\"'".toList =
      [.fault (.unterminatedString '"'), .fault (.unexpectedCharacter '\\'),
        .fault (.unterminatedString '"'), .plain .identifier ['x'],
        .literal '\'' { raw := ['\\', '"'], value := ['\\', '"'] }] := by
    decide +kernel
  have hpieces := pieces_ofText "\"\\\"x'\\\"'".toList
  rw [hcut, Piece.locate, ← List.nil_append (_ :: _)] at hpieces
  exact ⟨_, _, hpieces, rfl, rfl, open_quote_never_closes hpieces rfl⟩

end TokenStream

end DocSelector
