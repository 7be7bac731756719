import DocSelector.Proofs.Concatenation

/-!
# Blanks between the tokens of a selector

A blank that is put between two tokens, or at either end of a selector, becomes a token of its own
and leaves the others as they are. The token in front of it does not go on with a blank, and the
tokens behind it are read as before. Where a string is never closed this is not so: what stands
behind the quote is read again, and a blank there may come between a backslash and a quote.

Where the tokens stand changes with the blank, so only their kinds and values are compared.

## Main definitions

* `Token.content`: the kind and the value of a token.
* `TokenBorder`: the places where a token of a selector begins or ends.

## Main statements

* `Lexeme.cut_insert_blank`: the lexemes of a text with a blank among them.
* `blank_at_border_is_insignificant`: the tokens of a selector with a blank among them.
-/

namespace DocSelector

namespace Token

/-- What a token says, wherever it stands. -/
def content (token : Token) : Kind × String := (token.kind, token.value)

end Token

/-- The first text ends where a token of the two texts together begins or ends. -/
def TokenBorder (before after : String) : Prop :=
  ∃ earlier later, (TokenStream.ofText (before ++ after).toList).pieces = earlier ++ later ∧
    Piece.textOf earlier = before.toList

/-! ### Lexemes with a blank among them -/

namespace Lexeme

variable {c : Char} {source : List Char} {earlier later : List Lexeme}

/-- The lexeme of a blank. -/
def ofBlank (c : Char) : Lexeme := plain (if c = '\n' then .newline else .whitespace) [c]

theorem first?_blank (hblank : Text.isBlank c = true) (rest : List Char) :
    first? (c :: rest) = some (ofBlank c) := by
  rw [first?, startingWith, ofBlank]
  by_cases hfeed : c = '\n'
  · rw [CharClass.of_eq_newline_iff.2 hfeed, if_pos hfeed]
  · rw [CharClass.of_eq_blank_iff.2 ⟨hfeed, hblank⟩, if_neg hfeed]

theorem cut_blank_cons (hblank : Text.isBlank c = true) (rest : List Char) :
    cut (c :: rest) = ofBlank c :: cut rest :=
  @cut_append rest (ofBlank c) (first?_blank hblank rest)

/-- A blank between the lexemes of a text is a lexeme of its own, and the others stay as they are,
if none of those in front of it is a quote that is never closed. -/
theorem cut_insert_blank (hblank : Text.isBlank c = true) (h : cut source = earlier ++ later)
    (hclosed : ∀ lexeme ∈ earlier, ∀ quote, lexeme ≠ .fault (.unterminatedString quote)) :
    cut (earlier.flatMap text ++ c :: later.flatMap text) = earlier ++ ofBlank c :: later := by
  induction source using cut_induction generalizing earlier with
  | nil =>
    obtain ⟨rfl, rfl⟩ := List.append_eq_nil_iff.1 (h.symm.trans cut_nil)
    exact (cut_blank_cons hblank []).trans (congrArg _ cut_nil)
  | cons lexeme rest hfirst ih =>
    rw [cut_append hfirst] at h
    cases earlier with
    | nil =>
      obtain rfl : lexeme :: cut rest = later := h
      rw [← cut_append hfirst, flatMap_text_cut]
      exact cut_blank_cons hblank _
    | cons first earlier =>
      rw [List.cons_append] at h
      obtain ⟨rfl, hrest⟩ := List.cons.inj h
      rw [List.forall_mem_cons] at hclosed
      have htext : earlier.flatMap text ++ later.flatMap text = rest := by
        rw [← List.flatMap_append, ← hrest, flatMap_text_cut]
      -- The blank is the next character behind `lexeme`, or this character has not changed.
      have hinsert : first? (lexeme.text ++ (earlier.flatMap text ++ c :: later.flatMap text)) =
          some lexeme := by
        apply first?_in_front_of .start hfirst hclosed.1
        intro d hd
        cases hahead : earlier.flatMap text with
        | nil =>
          rw [hahead] at hd
          obtain rfl : c = d := Option.some.inj hd
          exact .inr (Token.not_goesOnWith_of_isBlank _ hblank)
        | cons e ahead =>
          rw [hahead] at hd htext
          rw [← htext]
          exact .inl hd
      rw [List.flatMap_cons, List.append_assoc, cut_append hinsert, ih hrest hclosed.2,
        List.cons_append]

end Lexeme

/-! ### Tokens with a blank among them -/

namespace Lexeme

variable {p : Position} {c : Char} {lexeme : Lexeme} {lexemes : List Lexeme}

/-- What the token of a lexeme says. -/
def content (lexeme : Lexeme) : Token.Kind × String := (Piece.ofLexeme .start lexeme).token.content

theorem content_token_ofLexeme : (Piece.ofLexeme p lexeme).token.content = lexeme.content := by
  cases lexeme <;> rfl

theorem isTrivia_content_ofBlank : (ofBlank c).content.1.isTrivia = true := by
  rw [ofBlank]
  split <;> rfl

theorem map_content_locate :
    (Piece.locate p lexemes).map (fun piece => piece.token.content) =
      lexemes.map content ++ [(.endOfInput, "")] := by
  induction lexemes generalizing p with
  | nil => rfl
  | cons lexeme lexemes ih =>
    rw [Piece.locate, List.map_cons, content_token_ofLexeme, ih, List.map_cons, List.cons_append]

theorem map_content_tokenize (source : String) :
    (tokenize source).map Token.content =
      (cut source.toList).map content ++ [(.endOfInput, "")] := by
  rw [TokenStream.tokenize_eq_map_pieces, TokenStream.pieces_ofText, List.map_map]
  exact map_content_locate

theorem textOf_take_locate (n : Nat) :
    Piece.textOf ((Piece.locate p lexemes).take n) = (lexemes.take n).flatMap text := by
  induction lexemes generalizing p n with
  | nil => cases n <;> simp [Piece.locate, Piece.last]
  | cons lexeme lexemes ih =>
    cases n with
    | zero => rfl
    | succ n =>
      rw [Piece.locate, List.take_succ_cons, Piece.textOf_cons, ih, List.take_succ_cons,
        List.flatMap_cons]
      rfl

end Lexeme

variable {before after : String}

/-- Two texts that meet at a border have the lexemes of the first and those of the second. -/
theorem TokenBorder.exists_cut_eq_append (h : TokenBorder before after) :
    ∃ earlier later, Lexeme.cut (before ++ after).toList = earlier ++ later ∧
      earlier.flatMap Lexeme.text = before.toList ∧ later.flatMap Lexeme.text = after.toList := by
  obtain ⟨pieces, others, hpieces, htext⟩ := h
  have hbefore : ((Lexeme.cut (before ++ after).toList).take pieces.length).flatMap Lexeme.text =
      before.toList := by
    rw [← htext, ← @Lexeme.textOf_take_locate .start, ← TokenStream.pieces_ofText, hpieces,
      List.take_left]
  have hall : (Lexeme.cut (before ++ after).toList).flatMap Lexeme.text =
      before.toList ++ after.toList := by
    rw [Lexeme.flatMap_text_cut, String.toList_append]
  rw [← List.take_append_drop pieces.length (Lexeme.cut _), List.flatMap_append, hbefore] at hall
  exact ⟨_, _, (List.take_append_drop pieces.length _).symm, hbefore, List.append_cancel_left hall⟩

theorem map_content_significant (tokens : List Token) :
    (significant tokens).map Token.content =
      (tokens.map Token.content).filter fun content => !content.1.isTrivia := by
  rw [List.filter_map]
  rfl

theorem countP_isTrivia (tokens : List Token) :
    tokens.countP Token.isTrivia =
      (tokens.map Token.content).countP fun content => content.1.isTrivia := by
  rw [List.countP_map]
  rfl

/-- A blank is insignificant where a token begins or ends, be it a line feed or any other. If no
string is open in a selector, the selector with the blank has the same tokens that are not trivia,
errors among them, and one more that is. -/
theorem blank_at_border_is_insignificant (before after : String) (c : Char)
    (hblank : Text.isBlank c = true) (hborder : TokenBorder before after)
    (hclosed : ∀ e, .error e ∈ (TokenStream.ofText (before ++ after).toList).items →
      ∀ quote, e.cause ≠ .unterminatedString quote) :
    (significant (tokenize (before ++ c.toString ++ after))).map Token.content =
        (significant (tokenize (before ++ after))).map Token.content ∧
      (tokenize (before ++ c.toString ++ after)).countP Token.isTrivia =
        (tokenize (before ++ after)).countP Token.isTrivia + 1 := by
  obtain ⟨earlier, later, hcut, hbefore, hafter⟩ := hborder.exists_cut_eq_append
  have hlexemes := TokenStream.ne_unterminated_of_mem_cut hclosed
  rw [hcut] at hlexemes
  have hinsert := Lexeme.cut_insert_blank hblank hcut
    fun lexeme hmem => hlexemes lexeme (List.mem_append_left later hmem)
  have hsource : (before ++ c.toString ++ after).toList =
      earlier.flatMap Lexeme.text ++ c :: later.flatMap Lexeme.text := by
    rw [hbefore, hafter]
    simp
  have htrivia := @Lexeme.isTrivia_content_ofBlank c
  constructor
  · rw [map_content_significant, map_content_significant, Lexeme.map_content_tokenize,
      Lexeme.map_content_tokenize, hsource, hinsert, hcut]
    simp [htrivia]
  · rw [countP_isTrivia, countP_isTrivia, Lexeme.map_content_tokenize,
      Lexeme.map_content_tokenize, hsource, hinsert, hcut]
    simp [htrivia]
    omega

/-- A no-break space in front of a string that has a blank inside, with a stray character behind. -/
theorem blank_at_border_is_insignificant_no_break :
    Text.isBlank '\u00a0' = true ∧ TokenBorder "a:" "'x y'@7" ∧
      (∀ e, .error e ∈ (TokenStream.ofText ("a:" ++ "'x y'@7").toList).items →
        ∀ quote, e.cause ≠ .unterminatedString quote) ∧
      (significant (tokenize ("a:" ++ '\u00a0'.toString ++ "'x y'@7"))).map Token.content =
        (significant (tokenize ("a:" ++ "'x y'@7"))).map Token.content ∧
      (tokenize ("a:" ++ '\u00a0'.toString ++ "'x y'@7")).countP Token.isTrivia =
        (tokenize ("a:" ++ "'x y'@7")).countP Token.isTrivia + 1 := by
  have hcut : Lexeme.cut ("a:" ++ "'x y'@7").toList =
      [.plain .identifier ['a'], .plain .punctuation [':'],
        .literal '\'' { raw := ['x', ' ', 'y'], value := ['x', ' ', 'y'] },
        .fault (.unexpectedCharacter '@'), .plain .number ['7']] := by
    decide +kernel
  have hpieces := TokenStream.pieces_ofText ("a:" ++ "'x y'@7").toList
  rw [hcut] at hpieces
  have hborder : TokenBorder "a:" "'x y'@7" :=
    ⟨_, _, hpieces.trans (List.take_append_drop 2 _).symm, rfl⟩
  have hclosed : ∀ e, .error e ∈ (TokenStream.ofText ("a:" ++ "'x y'@7").toList).items →
      ∀ quote, e.cause ≠ .unterminatedString quote := by
    rw [TokenStream.items_eq_map_pieces, hpieces]
    intro e he quote
    simp [Piece.locate, Piece.ofLexeme, Piece.last, Lexeme.item] at he
    simp [he]
  exact ⟨rfl, hborder, hclosed,
    blank_at_border_is_insignificant "a:" "'x y'@7" '\u00a0' rfl hborder hclosed⟩

/-- Where a string is open, a blank can take the place of a quote behind a backslash, and the quote
closes the string. -/
example :
    TokenBorder "'\\" "'" ∧ (significant (tokenize ("'\\" ++ "'"))).length = 4 ∧
      (significant (tokenize ("'\\" ++ ' '.toString ++ "'"))).length = 2 := by
  have hcut : Lexeme.cut ("'\\" ++ "'").toList =
      [.fault (.unterminatedString '\''), .fault (.unexpectedCharacter '\\'),
        .fault (.unterminatedString '\'')] := by
    decide +kernel
  have hpieces := TokenStream.pieces_ofText ("'\\" ++ "'").toList
  rw [hcut] at hpieces
  refine ⟨⟨_, _, hpieces.trans (List.take_append_drop 2 _).symm, rfl⟩, ?_, ?_⟩ <;> decide +kernel

end DocSelector
