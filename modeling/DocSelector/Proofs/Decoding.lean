import DocSelector.Proofs.Coverage
import DocSelector.Proofs.Grammar

/-!
# What strings stand for

The content of a string is decoded from left to right. Five pairs of a backslash and a character
stand for one character, every other pair stands for itself, and so does every character outside of
pairs.

The scan of a string does not decode as it goes. Up to the first pair it only passes characters,
since a slice of the selector will do; from there on it gathers the value in a buffer that begins
with the slice so far. This is not to be seen in the result: it does not matter where the buffer
begins.

## Main definitions

* `Literal.decode`: the text that the content of a string stands for.

## Main statements

* `Literal.value_of_read?`: the value that is read is the decoded content.
* `Cursor.scanContent_go_none`: the scan without a buffer and the scan with one.
* `TokenStream.string_value_is_decoded`: the values of the strings of a selector.
-/

namespace DocSelector

namespace Literal

/-- The text that the content of a string opened by `quote` stands for. -/
def decode (quote : Char) : List Char → List Char
  | '\\' :: 'n' :: raw => '\n' :: decode quote raw
  | '\\' :: 't' :: raw => '\t' :: decode quote raw
  | '\\' :: 'r' :: raw => '\r' :: decode quote raw
  | '\\' :: '\\' :: raw => '\\' :: decode quote raw
  | '\\' :: c :: raw =>
    if c = quote then quote :: decode quote raw else '\\' :: c :: decode quote raw
  | c :: raw => c :: decode quote raw
  | [] => []

variable {quote c : Char} {plain raw text : List Char} {l : Literal}

@[simp] theorem decode_nil : decode quote [] = [] := rfl

/-- The pairs are decoded one by one, as they are when a string is read. -/
theorem decode_pair : decode quote ('\\' :: c :: raw) = pairValue quote c ++ decode quote raw := by
  rw [decode.eq_def, pairValue, escaped?.eq_def]
  split <;> grind

theorem decode_cons (hc : c ≠ '\\') : decode quote (c :: raw) = c :: decode quote raw := by
  rw [decode.eq_def]
  split <;> grind

/-- A text without backslashes stands for itself in front of anything else. -/
theorem decode_append (h : '\\' ∉ plain) :
    decode quote (plain ++ raw) = plain ++ decode quote raw := by
  induction plain with
  | nil => rfl
  | cons c plain ih =>
    rw [List.mem_cons, not_or] at h
    rw [List.cons_append, decode_cons (Ne.symm h.1), ih h.2, List.cons_append]

theorem decode_eq_self (h : '\\' ∉ raw) : decode quote raw = raw := by
  have happend := @decode_append quote raw [] h
  rwa [decode_nil, List.append_nil] at happend

/-- What is read of a string has the decoded content as its value. -/
theorem value_of_read? (h : read? quote text = some l) : l.value = decode quote l.raw := by
  fun_induction read? quote text generalizing l with
  | case1 => cases h
  | case2 =>
    cases h
    rfl
  | case3 => cases h
  | case4 =>
    cases h
    rfl
  | case5 d text _ ih =>
    obtain ⟨inner, hinner, rfl⟩ := Option.map_eq_some_iff.1 h
    rw [consPair, decode_pair, ih hinner]
  | case6 c d text _ hbackslash ih =>
    obtain ⟨inner, hinner, rfl⟩ := Option.map_eq_some_iff.1 h
    rw [consPlain, decode_cons hbackslash, ih hinner]

/-- Only the quote that opened the string is written as a pair, not the other one. -/
example : decode '"' "C:\\docs\\\"\\'\\n".toList = "C:\\docs\"\\'\n".toList := by
  decide

end Literal

/-- A scan without a buffer gives what it gives with a buffer that holds the slice so far, wherever
the buffer begins. -/
theorem Cursor.scanContent_go_none (quote : Char) (opened : Cursor) (n : Nat) :
    scanContent.go quote opened (opened.skip n) none (opened.ahead.drop n) =
      scanContent.go quote opened (opened.skip n) (some (String.ofList (opened.ahead.take n)))
        (opened.ahead.drop n) := by
  rw [scanContent_skip rfl, scanContent_skip rfl]
  rfl

namespace Piece

variable {piece : Piece} {p : Position} {source : List Char}

/-- A string among the pieces of a text has been read behind its opening quote. -/
theorem exists_literal_of_kind_eq_string (h : piece ∈ locate p (Lexeme.cut source))
    (hkind : piece.token.kind = .string) :
    ∃ q quote content rest, piece = ofLexeme q (.literal quote content) ∧
      isQuote quote = true ∧ Literal.read? quote rest = some content := by
  rcases eq_last_or_exists_first?_of_mem_locate h with ⟨stop, rfl⟩ | ⟨q, lexeme, rest, hfirst, rfl⟩
  · cases hkind
  · cases lexeme with
    | plain kind text => exact absurd hkind (Lexeme.scanned_of_first? hfirst).1
    | literal quote content =>
      obtain ⟨hquote, -, hread⟩ :=
        Lexeme.read?_of_startingWith_eq_literal (Option.some.inj hfirst)
      exact ⟨q, quote, content, _, rfl, hquote, hread⟩
    | fault cause => cases hkind

end Piece

namespace TokenStream

open Grammar (Quote)
open Literal (decode)

/-- The value of every string of a selector is its decoded content, which lies between its two
quotes. The content up to the first backslash stands for itself, wherever that backslash is, and so
does the whole content if there is none. It makes no difference to the scan whether it takes a slice
or goes on with a buffer. -/
theorem string_value_is_decoded (source : String) :
    tokenize source = (ofText source.toList).pieces.map Piece.token ∧
      (∀ piece ∈ (ofText source.toList).pieces, piece.token.kind = .string →
        ∃ quote raw, Quote quote ∧ piece.text = quote :: (raw ++ [quote]) ∧
          piece.token.value = String.ofList (decode quote raw) ∧
          (∀ plain rest, raw = plain ++ rest → '\\' ∉ plain →
            piece.token.value = String.ofList (plain ++ decode quote rest)) ∧
          ('\\' ∉ raw → piece.token.value = String.ofList raw)) ∧
      ∀ (quote : Char) (opened : Cursor) (n : Nat),
        Cursor.scanContent.go quote opened (opened.skip n) none (opened.ahead.drop n) =
          Cursor.scanContent.go quote opened (opened.skip n)
            (some (String.ofList (opened.ahead.take n))) (opened.ahead.drop n) := by
  refine ⟨tokenize_eq_map_pieces source, ?_, Cursor.scanContent_go_none⟩
  intro piece hpiece hkind
  rw [pieces_ofText] at hpiece
  obtain ⟨q, quote, content, rest, rfl, hquote, hread⟩ :=
    Piece.exists_literal_of_kind_eq_string hpiece hkind
  have hvalue : (Piece.ofLexeme q (.literal quote content)).token.value =
      String.ofList (decode quote content.raw) :=
    congrArg String.ofList (Literal.value_of_read? hread)
  refine ⟨quote, content.raw, Grammar.isQuote_iff.1 hquote, rfl, hvalue, ?_, ?_⟩
  · intro plain tail hraw hplain
    rw [hvalue, hraw, Literal.decode_append hplain]
  · intro hraw
    rw [hvalue, Literal.decode_eq_self hraw]

end TokenStream

end DocSelector
