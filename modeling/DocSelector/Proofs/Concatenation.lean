import DocSelector.Proofs.Grammar

/-!
# Selectors put one behind the other

Two texts can be read apart and their tokens put together, unless the last token of the first text
goes on into the second one: a number into digits, a word into characters of words, a colon into a
second colon. A string must not be open in the first text either, since it could be closed in the
second. Apart from that no token of the first text changes when the second follows, and the tokens
of the second are the same with their points counted on from the end of the first.

## Main definitions

* `Token.GoesOnWith`: the characters that would make a token longer.
* `Piece.tokensFrom`: the tokens of pieces that are read from some point on.
* `Joined`: the tokens of two texts put together.

## Main statements

* `Lexeme.first?_in_front_of`: a lexeme does not change when another text is put behind it.
* `Piece.locate_cut_append`: neither do the pieces of a text.
* `append_keeps_tokens`: the tokens of two texts one behind the other.
-/

namespace DocSelector

namespace Token

/-- Whether the token would be longer if `c` stood behind it. -/
def GoesOnWith (token : Token) (c : Char) : Prop :=
  token.kind = .number ∧ Grammar.Digit c ∨
    (token.kind = .identifier ∨ token.kind.isKeyword = true) ∧ Grammar.WordPart c ∨
    token.kind = .punctuation ∧ token.value = ":" ∧ c = ':'

end Token

namespace Piece

/-- The token of the piece when its text is read from `p` on. -/
def tokenAt (p : Position) (piece : Piece) : Token :=
  { piece.token with start := p, stop := p.advanceOver piece.text }

/-- The tokens of the pieces when their texts are read from `p` on, one behind the other. -/
def tokensFrom (p : Position) : List Piece → List Token
  | [] => []
  | piece :: pieces => piece.tokenAt p :: tokensFrom (p.advanceOver piece.text) pieces

end Piece

/-- The tokens of `a ++ b` are those of `a` up to its end, and behind them those of `b`, with every
point found by reading the same characters of `b` from the end of `a` on. -/
def Joined (a b : String) : Prop :=
  ∃ stop,
    tokenize a = (tokenize a).dropLast ++ [.endOfInput stop] ∧
      tokenize b = (TokenStream.ofText b.toList).pieces.map Piece.token ∧
      tokenize (a ++ b) =
        (tokenize a).dropLast ++ Piece.tokensFrom stop (TokenStream.ofText b.toList).pieces

/-! ### Lexemes in front of another text -/

/-- A string that is closed is read in the same way whatever follows its closing quote. -/
theorem Literal.read?_raw_append {quote : Char} {text : List Char} {l : Literal} (other : List Char)
    (h : read? quote text = some l) : read? quote (l.raw ++ quote :: other) = some l := by
  fun_induction read? quote text generalizing l with
  | case1 => cases h
  | case2 =>
    cases h
    exact read?_quote
  | case3 => cases h
  | case4 =>
    cases h
    exact read?_quote
  | case5 d text hquote ih =>
    obtain ⟨inner, hinner, rfl⟩ := Option.map_eq_some_iff.1 h
    rw [consPair, List.cons_append, List.cons_append, read?_pair (Ne.symm hquote), ih hinner]
    rfl
  | case6 c d text hquote hbackslash ih =>
    obtain ⟨inner, hinner, rfl⟩ := Option.map_eq_some_iff.1 h
    rw [consPlain, List.cons_append, read?_plain hquote hbackslash, ih hinner]
    rfl

/-- A run stays whole in front of another text that does not go on with it either. -/
theorem Grammar.Run.in_front_of {p : Char → Prop} {run rest other : List Char} (h : Run p run rest)
    (hnext : ∀ d ∈ other.head?, d ∈ rest.head? ∨ ¬p d) : Run p run other := by
  refine ⟨h.1, fun d hd hpd => ?_⟩
  rcases hnext d hd with hsame | hstop
  · exact h.2 d hsame hpd
  · exact hstop hpd

namespace Lexeme

open Grammar (Run isDigit_iff isWordChar_iff takeWhile_eq_iff)
open Piece (ofLexeme)

variable {c quote : Char} {tail rest other text : List Char} {p : Position}

theorem kind_word : (word text).kind = .identifier ∨ (word text).kind.isKeyword = true := by
  rw [word]
  split
  · exact .inr rfl
  · exact .inl rfl

theorem kind_token_ofLexeme {lexeme : Lexeme} : (ofLexeme p lexeme).token.kind = lexeme.kind := by
  cases lexeme <;> rfl

theorem colon_in_front_of (htext : (colon (tail ++ rest)).text = ':' :: tail)
    (hnext : ∀ d ∈ other.head?,
      d ∈ rest.head? ∨ ¬(ofLexeme p (colon (tail ++ rest))).token.GoesOnWith d) :
    colon (tail ++ other) = colon (tail ++ rest) := by
  cases tail with
  | cons d tail =>
    unfold colon at htext
    split at htext
    · next heq =>
      obtain ⟨rfl, -⟩ := List.cons.inj heq
      rfl
    · cases htext
  | nil =>
    rw [List.nil_append] at htext hnext ⊢
    rw [List.nil_append]
    -- The colon is alone, so it is a mark that would go on with a colon.
    have halone : colon rest = plain .punctuation [':'] := by
      unfold colon at htext ⊢
      split at htext
      · cases htext
      · rfl
    rw [halone] at hnext ⊢
    unfold colon
    split
    · rcases hnext ':' rfl with hsame | hgo
      · obtain ⟨after, rfl⟩ := List.head?_eq_some_iff.1 hsame
        cases halone
      · exact absurd (.inr (.inr ⟨rfl, rfl, rfl⟩)) hgo
    · rfl

theorem quotation_in_front_of (htext : (quotation quote (tail ++ rest)).text = quote :: tail)
    (hclosed : quotation quote (tail ++ rest) ≠ .fault (.unterminatedString quote)) :
    quotation quote (tail ++ other) = quotation quote (tail ++ rest) := by
  unfold quotation at htext hclosed ⊢
  cases hread : Literal.read? quote (tail ++ rest) with
  | none =>
    rw [hread] at hclosed
    exact absurd rfl hclosed
  | some content =>
    rw [hread] at htext
    obtain rfl : content.raw ++ [quote] = tail := (List.cons.inj htext).2
    rw [List.append_assoc, List.singleton_append, Literal.read?_raw_append other hread]

/-- The first lexeme of a text is the same with another text behind it, unless it is a quote that is
never closed, or goes on with the character with which the other text begins. -/
theorem first?_in_front_of {lexeme : Lexeme} (p : Position)
    (h : first? (lexeme.text ++ rest) = some lexeme)
    (hclosed : ∀ quote, lexeme ≠ .fault (.unterminatedString quote))
    (hnext : ∀ d ∈ other.head?, d ∈ rest.head? ∨ ¬(ofLexeme p lexeme).token.GoesOnWith d) :
    first? (lexeme.text ++ other) = some lexeme := by
  obtain ⟨c, tail, htext⟩ := List.exists_cons_of_ne_nil (text_ne_nil_of_first? h)
  rw [htext, List.cons_append] at h ⊢
  obtain rfl := Option.some.inj h
  refine congrArg some ?_
  unfold startingWith at htext hclosed hnext ⊢
  cases hclass : CharClass.of c with
  | colon =>
    obtain rfl := CharClass.eq_colon_of_of_eq_colon hclass
    simp only [hclass] at htext hnext ⊢
    exact colon_in_front_of htext hnext
  | quote =>
    simp only [hclass] at htext hclosed ⊢
    exact quotation_in_front_of htext (hclosed c)
  | digit =>
    simp only [hclass] at htext hnext ⊢
    have hrun := (takeWhile_eq_iff fun c => isDigit_iff).1 (List.cons.inj htext).2
    have hother : (tail ++ other).takeWhile Char.isDigit = tail := by
      refine (takeWhile_eq_iff fun c => isDigit_iff).2 (hrun.in_front_of fun d hd => ?_)
      exact (hnext d hd).imp_right fun hgo hdigit => hgo (.inl ⟨rfl, hdigit⟩)
    rw [hother, ← htext, text_plain]
  | wordStart =>
    simp only [hclass, text_word] at htext hnext ⊢
    have hrun := (takeWhile_eq_iff fun c => isWordChar_iff).1 (List.cons.inj htext).2
    have hother : (tail ++ other).takeWhile isWordChar = tail := by
      refine (takeWhile_eq_iff fun c => isWordChar_iff).2 (hrun.in_front_of fun d hd => ?_)
      refine (hnext d hd).imp_right fun hgo hpart => hgo (.inr (.inl ⟨?_, hpart⟩))
      rw [kind_token_ofLexeme]
      exact kind_word
    rw [hother, ← htext]
  | newline => rfl
  | blank => rfl
  | mark kind => rfl
  | foreign => rfl

end Lexeme

/-! ### The pieces of two texts -/

namespace Piece

variable {p q : Position} {lexeme : Lexeme} {lexemes : List Lexeme} {source more : List Char}

theorem dropLast_locate_cons :
    (locate p (lexeme :: lexemes)).dropLast =
      ofLexeme p lexeme :: (locate (p.advanceOver lexeme.text) lexemes).dropLast := by
  rw [locate, List.dropLast_cons_of_ne_nil]
  cases lexemes <;> simp [locate]

theorem locate_eq_dropLast_append :
    locate p lexemes =
      (locate p lexemes).dropLast ++ [last (p.advanceOver (lexemes.flatMap Lexeme.text))] := by
  induction lexemes generalizing p with
  | nil => rfl
  | cons lexeme lexemes ih =>
    rw [dropLast_locate_cons, locate, ih, List.dropLast_concat, List.flatMap_cons,
      Position.advanceOver_append]
    rfl

theorem exists_ofLexeme_mem_locate (p : Position) (h : lexeme ∈ lexemes) :
    ∃ q, ofLexeme q lexeme ∈ locate p lexemes := by
  induction lexemes generalizing p with
  | nil => cases h
  | cons first lexemes ih =>
    rcases List.mem_cons.1 h with rfl | h
    · exact ⟨p, List.mem_cons_self⟩
    · obtain ⟨q, hq⟩ := ih (p.advanceOver first.text) h
      exact ⟨q, List.mem_cons_of_mem _ hq⟩

/-- The pieces of a text do not change when another one is put behind, and the pieces of the other
one follow. -/
theorem locate_cut_append
    (hclosed : ∀ lexeme ∈ Lexeme.cut source, ∀ quote, lexeme ≠ .fault (.unterminatedString quote))
    (hborder : ∀ piece ∈ (locate p (Lexeme.cut source)).dropLast.getLast?,
      ∀ d ∈ more.head?, ¬piece.token.GoesOnWith d) :
    locate p (Lexeme.cut (source ++ more)) =
      (locate p (Lexeme.cut source)).dropLast ++
        locate (p.advanceOver source) (Lexeme.cut more) := by
  induction source using Lexeme.cut_induction generalizing p with
  | nil => simp [locate]
  | cons lexeme rest hl ih =>
    rw [Lexeme.cut_append hl] at hclosed hborder ⊢
    rw [List.forall_mem_cons] at hclosed
    rw [dropLast_locate_cons, List.getLast?_cons] at hborder
    have hfirst : Lexeme.first? (lexeme.text ++ (rest ++ more)) = some lexeme := by
      apply Lexeme.first?_in_front_of p hl hclosed.1
      -- Only the last piece of the text can reach up to `more`.
      cases rest with
      | nil =>
        rw [Lexeme.cut_nil] at hborder
        exact fun d hd => .inr (hborder _ rfl d hd)
      | cons c rest => exact fun d hd => .inl hd
    have htail : ∀ piece ∈ (locate (p.advanceOver lexeme.text) (Lexeme.cut rest)).dropLast.getLast?,
        ∀ d ∈ more.head?, ¬piece.token.GoesOnWith d := by
      intro piece hpiece
      exact hborder piece (by rw [Option.mem_def.1 hpiece]; rfl)
    rw [List.append_assoc, Lexeme.cut_append hfirst, locate, ih hclosed.2 htail,
      dropLast_locate_cons, Position.advanceOver_append]
    rfl

theorem tokensFrom_locate : tokensFrom p (locate q lexemes) = (locate p lexemes).map token := by
  induction lexemes generalizing p q with
  | nil => rfl
  | cons lexeme lexemes ih =>
    have htoken : (ofLexeme q lexeme).tokenAt p = (ofLexeme p lexeme).token := by
      cases lexeme <;> rfl
    rw [locate, tokensFrom, htoken, ofLexeme, ih]
    rfl

end Piece

/-! ### The tokens of two texts -/

namespace TokenStream

theorem dropLast_tokenize (source : String) :
    (tokenize source).dropLast =
      (Piece.locate .start (Lexeme.cut source.toList)).dropLast.map Piece.token := by
  rw [tokenize_eq_map_pieces, pieces_ofText, List.map_dropLast]

/-- A text without open strings has no lexeme that is one. -/
theorem ne_unterminated_of_mem_cut {source : String}
    (h : ∀ e, .error e ∈ (ofText source.toList).items →
      ∀ quote, e.cause ≠ .unterminatedString quote) :
    ∀ lexeme ∈ Lexeme.cut source.toList, ∀ quote, lexeme ≠ .fault (.unterminatedString quote) := by
  rintro lexeme hmem quote rfl
  obtain ⟨q, hpiece⟩ := Piece.exists_ofLexeme_mem_locate .start hmem
  refine h { cause := .unterminatedString quote, start := q } ?_ quote rfl
  rw [items_eq_map_pieces, pieces_ofText]
  exact List.mem_map_of_mem hpiece

end TokenStream

theorem joined_of_border {a b : String}
    (hclosed : ∀ e, .error e ∈ (TokenStream.ofText a.toList).items →
      ∀ quote, e.cause ≠ .unterminatedString quote)
    (hborder : ∀ token ∈ (tokenize a).dropLast.getLast?, ∀ c ∈ b.toList.head?,
      ¬token.GoesOnWith c) :
    Joined a b := by
  have hpieces : ∀ piece ∈ (Piece.locate .start (Lexeme.cut a.toList)).dropLast.getLast?,
      ∀ c ∈ b.toList.head?, ¬piece.token.GoesOnWith c := by
    intro piece hpiece
    apply hborder
    rw [TokenStream.dropLast_tokenize, List.getLast?_map]
    exact Option.mem_map_of_mem _ hpiece
  refine ⟨Position.start.advanceOver a.toList, ?_, TokenStream.tokenize_eq_map_pieces b, ?_⟩
  · rw [TokenStream.dropLast_tokenize, TokenStream.tokenize_eq_map_pieces,
      TokenStream.pieces_ofText, Piece.locate_eq_dropLast_append, Lexeme.flatMap_text_cut,
      List.map_append, List.dropLast_concat]
    rfl
  · rw [TokenStream.dropLast_tokenize, TokenStream.tokenize_eq_map_pieces,
      TokenStream.pieces_ofText, TokenStream.pieces_ofText, Piece.tokensFrom_locate,
      String.toList_append,
      Piece.locate_cut_append (TokenStream.ne_unterminated_of_mem_cut hclosed) hpieces,
      List.map_append]

/-- No token goes on with a blank. -/
theorem Token.not_goesOnWith_of_isBlank (token : Token) {c : Char}
    (hblank : Text.isBlank c = true) :
    ¬token.GoesOnWith c := by
  have hcode := toNat_of_isBlank hblank
  rintro (⟨-, hdigit⟩ | ⟨-, hpart⟩ | ⟨-, -, rfl⟩)
  · have hrange := toNat_of_isDigit (Grammar.isDigit_iff.2 hdigit)
    omega
  · rcases hpart with hstart | hdigit
    · have hrange := toNat_of_isWordStart (Grammar.isWordStart_iff.2 hstart)
      omega
    · have hrange := toNat_of_isDigit (Grammar.isDigit_iff.2 hdigit)
      omega
  · exact absurd hblank (by decide)

/-- No token goes on with a line feed. -/
theorem Token.not_goesOnWith_lineFeed (token : Token) : ¬token.GoesOnWith '\n' :=
  token.not_goesOnWith_of_isBlank rfl

/-- If no string is open in the first of two texts and its last token does not go on into the
second, the tokens of the two texts can be put together. A line feed is a border that no token
crosses. -/
theorem append_keeps_tokens (a b : String)
    (hclosed : ∀ e, .error e ∈ (TokenStream.ofText a.toList).items →
      ∀ quote, e.cause ≠ .unterminatedString quote) :
    ((∀ token ∈ (tokenize a).dropLast.getLast?, ∀ c ∈ b.toList.head?, ¬token.GoesOnWith c) →
        Joined a b) ∧
      (b.toList.head? = some '\n' → Joined a b) := by
  refine ⟨joined_of_border hclosed, fun hfeed => joined_of_border hclosed ?_⟩
  intro token _ c hc
  obtain rfl := Option.some.inj (hfeed.symm.trans hc)
  exact token.not_goesOnWith_lineFeed

/-- A number in front of a word, and in front of a line feed, behind a string over two lines and a
stray character. In what follows a string is open. -/
theorem append_keeps_tokens_number :
    (∀ e, .error e ∈ (TokenStream.ofText "'\\'\n'@12".toList).items →
        ∀ quote, e.cause ≠ .unterminatedString quote) ∧
      (∀ token ∈ (tokenize "'\\'\n'@12").dropLast.getLast?, ∀ c ∈ "x1'".toList.head?,
        ¬token.GoesOnWith c) ∧
      Joined "'\\'\n'@12" "x1'" ∧ Joined "'\\'\n'@12" "\n34\"" := by
  have hcut : Lexeme.cut "'\\'\n'@12".toList =
      [.literal '\'' { raw := ['\\', '\'', '\n'], value := ['\'', '\n'] },
        .fault (.unexpectedCharacter '@'), .plain .number ['1', '2']] := by
    decide +kernel
  have hitems : (TokenStream.ofText "'\\'\n'@12".toList).items =
      [.ok { kind := .string, value := "'\n", start := .start, stop := ⟨2, 2, 5⟩ },
        .error { cause := .unexpectedCharacter '@', start := ⟨2, 2, 5⟩ },
        .ok { kind := .number, value := "12", start := ⟨2, 3, 6⟩, stop := ⟨2, 5, 8⟩ },
        .ok (.endOfInput ⟨2, 5, 8⟩)] := by
    rw [TokenStream.items_eq_map_pieces, TokenStream.pieces_ofText, hcut]
    rfl
  have hclosed : ∀ e, .error e ∈ (TokenStream.ofText "'\\'\n'@12".toList).items →
      ∀ quote, e.cause ≠ .unterminatedString quote := by
    rw [hitems]
    intro e he quote
    simp only [List.mem_cons, List.not_mem_nil, reduceCtorEq, Except.error.injEq, false_or,
      or_false] at he
    simp [he]
  have hborder : ∀ token ∈ (tokenize "'\\'\n'@12").dropLast.getLast?, ∀ c ∈ "x1'".toList.head?,
      ¬token.GoesOnWith c := by
    rw [tokenize, hitems]
    rintro token ⟨⟩ c ⟨⟩ (⟨-, hdigit⟩ | ⟨hkind, -⟩ | ⟨hkind, -⟩)
    · exact absurd (Grammar.isDigit_iff.2 hdigit) (by decide)
    · exact absurd hkind (by decide)
    · exact absurd hkind (by decide)
  exact ⟨hclosed, hborder, (append_keeps_tokens _ _ hclosed).1 hborder,
    (append_keeps_tokens _ _ hclosed).2 rfl⟩

end DocSelector
