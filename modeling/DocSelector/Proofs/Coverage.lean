import DocSelector.Proofs.Segmentation

/-!
# Nothing of a selector is lost

The pieces of a selector lie side by side from its first character to its last. Only the token for
the end of input takes no text. A token takes its own value, a string takes its content as written
and the quotes around it, and an error takes the one character that it is about: the scan looks for
the closing quote up to the end of the text, but goes on right behind the opening one.

## Main definitions

* `Piece.Fits`: how the text of a piece is tied to its item.

## Main statements

* `TokenStream.run_covers_source`: a run of a stream from its beginning to its end.
-/

namespace DocSelector

/-! ### The pieces made up by lexemes -/

namespace Piece

/-- How the text of a piece is tied to its item, apart from the last piece of a selector. -/
def Fits : Piece → Prop
  | ⟨.ok token, text⟩ =>
    token.kind ≠ .endOfInput ∧
      (token.kind = .string →
        ∃ quote raw, isQuote quote = true ∧ text = quote :: (raw ++ [quote])) ∧
      (token.kind ≠ .string → token.value = String.ofList text)
  | ⟨.error ⟨.unterminatedString quote, _⟩, text⟩ => isQuote quote = true ∧ text = [quote]
  | ⟨.error ⟨.unexpectedCharacter found, _⟩, text⟩ => text = [found]

variable {p : Position} {lexeme : Lexeme} {pieces : List Piece}

theorem fits_ofLexeme (h : lexeme.Scanned) : (ofLexeme p lexeme).Fits := by
  cases lexeme with
  | plain kind text =>
    obtain ⟨hstring, -, hend⟩ := h
    exact ⟨hend, fun hkind => absurd hkind hstring, fun _ => rfl⟩
  | literal quote content =>
    exact ⟨nofun, fun _ => ⟨quote, content.raw, h, rfl⟩, fun hkind => absurd rfl hkind⟩
  | fault cause =>
    cases cause with
    | unterminatedString quote => exact ⟨h, rfl⟩
    | unexpectedCharacter found => rfl

/-- Located lexemes are pieces made of them, one for each, with the end of input behind them. -/
theorem exists_locate_eq_append (p : Position) (lexemes : List Lexeme) :
    ∃ body stop, locate p lexemes = body ++ [last stop] ∧
      ∀ piece ∈ body, ∃ q, ∃ lexeme ∈ lexemes, piece = ofLexeme q lexeme := by
  induction lexemes generalizing p with
  | nil => exact ⟨[], p, rfl, by simp⟩
  | cons lexeme lexemes ih =>
    obtain ⟨body, stop, hbody, hmem⟩ := ih (p.advanceOver lexeme.text)
    refine ⟨ofLexeme p lexeme :: body, stop, by rw [locate, hbody]; rfl, ?_⟩
    intro piece hpiece
    rcases List.mem_cons.1 hpiece with rfl | hpiece
    · exact ⟨p, lexeme, List.mem_cons_self, rfl⟩
    · obtain ⟨q, other, hother, rfl⟩ := hmem piece hpiece
      exact ⟨q, other, List.mem_cons_of_mem _ hother, rfl⟩

/-- The pieces of a text are what the scan finds in it, each somewhere, and the end of input. -/
theorem eq_last_or_exists_first?_of_mem_locate {piece : Piece} {source : List Char}
    (h : piece ∈ locate p (Lexeme.cut source)) :
    (∃ stop, piece = last stop) ∨
      ∃ q lexeme rest, Lexeme.first? (lexeme.text ++ rest) = some lexeme ∧
        piece = ofLexeme q lexeme := by
  obtain ⟨body, stop, hbody, hmem⟩ := exists_locate_eq_append p (Lexeme.cut source)
  rw [hbody, List.mem_append, List.mem_singleton] at h
  rcases h with h | rfl
  · obtain ⟨q, lexeme, hlexeme, rfl⟩ := hmem piece h
    obtain ⟨rest, hfirst⟩ := Lexeme.exists_first?_of_mem_cut hlexeme
    exact .inr ⟨q, lexeme, rest, hfirst, rfl⟩
  · exact .inl ⟨stop, rfl⟩

theorem length_le_length_textOf (h : ∀ piece ∈ pieces, piece.text ≠ []) :
    pieces.length ≤ (textOf pieces).length := by
  induction pieces with
  | nil => exact Nat.le_refl 0
  | cons piece pieces ih =>
    rw [List.forall_mem_cons] at h
    have hpos := List.length_pos_iff.2 h.1
    have hle := ih h.2
    rw [textOf_cons, List.length_append, List.length_cons]
    omega

theorem textOf_take_append_last {n : Nat} :
    textOf ((pieces ++ [last p]).take n) = textOf (pieces.take n) := by
  rw [List.take_append, textOf_append]
  cases n - pieces.length <;> simp [last]

end Piece

/-! ### A whole run -/

namespace TokenStream

/-- A run of a stream over a selector. Its items take the selector piece by piece, the last of them
is the token for the end of input and no other is, and after it the stream gives nothing. When `n`
items have been given, exactly the text of the first `n` pieces has been passed. The tokens of the
selector are the items of the run. -/
theorem run_covers_source (source : String) :
    ∃ (body : List Piece) (stop : Position),
      (ofText source.toList).pieces = body ++ [.last stop] ∧
      (ofText source.toList).items = body.map Piece.item ++ [.ok (.endOfInput stop)] ∧
      tokenize source = body.map Piece.token ++ [.endOfInput stop] ∧
      ((ofText source.toList).drop (body.length + 1)).next? = none ∧
      body.length ≤ source.length ∧
      Piece.textOf body = source.toList ∧
      (∀ n, source.toList =
        Piece.textOf (body.take n) ++ ((ofText source.toList).drop n).cursor.ahead) ∧
      ∀ piece ∈ body, piece.text ≠ [] ∧ piece.Fits := by
  obtain ⟨body, stop, hbody, hmem⟩ :=
    Piece.exists_locate_eq_append .start (Lexeme.cut source.toList)
  have hpieces : (ofText source.toList).pieces = body ++ [.last stop] := by
    rw [pieces_ofText, hbody]
  have hitems : (ofText source.toList).items = body.map Piece.item ++ [.ok (.endOfInput stop)] := by
    rw [items_eq_map_pieces, hpieces, List.map_append]
    rfl
  have hfits : ∀ piece ∈ body, piece.text ≠ [] ∧ piece.Fits := by
    intro piece hpiece
    obtain ⟨q, lexeme, hlexeme, rfl⟩ := hmem piece hpiece
    obtain ⟨hscanned, hne⟩ := Lexeme.scanned_of_mem_cut hlexeme
    exact ⟨hne, Piece.fits_ofLexeme hscanned⟩
  -- The last piece has no text, so the others have all of it.
  have htext : Piece.textOf body = source.toList := by
    have h := textOf_pieces_ofText source.toList
    rw [hpieces, Piece.textOf_append] at h
    simpa [Piece.last] using h
  refine ⟨body, stop, hpieces, hitems, ?_, ?_, ?_, htext, ?_, hfits⟩
  · rw [tokenize_eq_map_pieces, hpieces, List.map_append]
    rfl
  · apply next?_eq_none_of_pieces_eq_nil
    rw [pieces_drop, hpieces, List.drop_eq_nil_iff]
    simp
  · have h := Piece.length_le_length_textOf fun piece hpiece => (hfits piece hpiece).1
    rwa [htext, String.length_toList] at h
  · intro n
    have h := ahead_eq_append (ofText source.toList) n
    rwa [hpieces, Piece.textOf_take_append_last] at h

end TokenStream

end DocSelector
