import DocSelector.TokenStream

/-!
# The pieces of a selector

Each item of a token stream takes a piece of the selector: the text between the two cursors at which
the stream stands before and after it. What a stream gives until its end is the list of lexemes into
which the text ahead is cut, each located where the lexemes before it end, with the token for the
end of input behind them.

## Main definitions

* `Lexeme.cut`: the lexemes of a text, from left to right.
* `Piece`: an item together with the text that it takes.
* `Piece.locate`: the pieces that a list of lexemes makes up from a point on.
* `TokenStream.pieces`: everything that is still to come, as pieces.
* `TokenStream.drop`: the stream after a number of items.

## Main statements

* `TokenStream.next?_eq_some_cases`: what one step of a stream can be.
* `TokenStream.pieces_eq_locate`: the pieces of a stream are those of the lexemes ahead.
* `TokenStream.ahead_eq_append`: a number of items takes as much text as their pieces hold.
-/

namespace DocSelector

namespace Lexeme

variable {c : Char} {source rest : List Char} {lexeme : Lexeme} {p q : Position}

/-! ### What a scan can find -/

/-- A lexeme as a scan can find it: the kind of a plain lexeme is neither that of a string nor that
of an error nor that of the end, and whatever opens a string is a quote. -/
def Scanned : Lexeme → Prop
  | plain kind _ => kind ≠ .string ∧ kind ≠ .error ∧ kind ≠ .endOfInput
  | literal quote _ => isQuote quote = true
  | fault (.unterminatedString quote) => isQuote quote = true
  | fault (.unexpectedCharacter _) => True

theorem scanned_word {text : List Char} : (word text).Scanned := by
  rw [word]
  split <;> simp [Scanned]

theorem scanned_colon : (colon rest).Scanned := by
  unfold colon
  split <;> simp [Scanned]

theorem scanned_quotation (h : isQuote c = true) : (quotation c rest).Scanned := by
  rw [quotation]
  split <;> exact h

theorem scanned_startingWith : (startingWith c rest).Scanned := by
  rw [startingWith]
  split
  case h_3 => exact scanned_colon
  case h_4 h => exact scanned_quotation (CharClass.of_eq_quote_iff.1 h)
  case h_6 => exact scanned_word
  case h_7 kind h =>
    rcases eq_of_markKind?_eq_some (CharClass.of_eq_mark_iff.1 h) with
      rfl | rfl | rfl | rfl | rfl | rfl <;> simp [Scanned]
  all_goals simp [Scanned]

theorem scanned_of_first? (h : first? source = some lexeme) : lexeme.Scanned := by
  cases source with
  | nil => cases h
  | cons c rest => exact Option.some.inj h ▸ scanned_startingWith

/-- A lexeme is a stray character, or it begins with a quote, or else it is plain. -/
theorem startingWith_cases (c : Char) (rest : List Char) :
    CharClass.of c = .foreign ∧ startingWith c rest = .fault (.unexpectedCharacter c) ∨
      isQuote c = true ∧ startingWith c rest = quotation c rest ∨
      ∃ kind text, startingWith c rest = .plain kind text := by
  unfold startingWith
  split
  case h_3 =>
    unfold colon
    split <;> exact .inr (.inr ⟨_, _, rfl⟩)
  case h_4 hclass => exact .inr (.inl ⟨CharClass.of_eq_quote_iff.1 hclass, rfl⟩)
  case h_6 =>
    unfold word
    split <;> exact .inr (.inr ⟨_, _, rfl⟩)
  case h_8 hclass => exact .inl ⟨hclass, rfl⟩
  all_goals exact .inr (.inr ⟨_, _, rfl⟩)

/-- Only a character that begins no token and a quote without its partner are in error. -/
theorem cause_of_startingWith_eq_fault {cause : LexicalError.Cause}
    (h : startingWith c rest = .fault cause) :
    CharClass.of c = .foreign ∧ cause = .unexpectedCharacter c ∨
      isQuote c = true ∧ Literal.read? c rest = none ∧ cause = .unterminatedString c := by
  rcases startingWith_cases c rest with
    ⟨hforeign, hstart⟩ | ⟨hquote, hstart⟩ | ⟨kind, text, hstart⟩
  · cases hstart.symm.trans h
    exact .inl ⟨hforeign, rfl⟩
  · rw [hstart, quotation] at h
    split at h
    · cases h
    · next hread =>
      cases h
      exact .inr ⟨hquote, hread, rfl⟩
  · cases hstart.symm.trans h

/-- Only what is read behind a quote is a string. -/
theorem read?_of_startingWith_eq_literal {quote : Char} {content : Literal}
    (h : startingWith c rest = .literal quote content) :
    isQuote quote = true ∧ c = quote ∧ Literal.read? quote rest = some content := by
  rcases startingWith_cases c rest with ⟨-, hstart⟩ | ⟨hquote, hstart⟩ | ⟨kind, text, hstart⟩
  · cases hstart.symm.trans h
  · rw [hstart, quotation] at h
    split at h
    · next hread =>
      cases h
      exact ⟨hquote, rfl, hread⟩
    · cases h
  · cases hstart.symm.trans h

theorem isEnd_item (h : lexeme.Scanned) : TokenStream.Item.isEnd (lexeme.item p q) = false := by
  cases lexeme with
  | plain kind text => simpa [item, TokenStream.Item.isEnd] using h.2.2
  | literal quote content => rfl
  | fault cause => rfl

/-! ### Cutting a text -/

theorem exists_append_of_first? (h : first? source = some lexeme) :
    ∃ rest, source = lexeme.text ++ rest := by
  obtain ⟨rest, hrest⟩ := text_isPrefix_of_first? h
  exact ⟨rest, hrest.symm⟩

/-- The lexemes of a text, from left to right. -/
def cut (source : List Char) : List Lexeme :=
  match _h : first? source with
  | none => []
  | some lexeme => lexeme :: cut (source.drop lexeme.text.length)
termination_by source.length
decreasing_by
  have hpos := List.length_pos_iff.2 (text_ne_nil_of_first? _h)
  have hle := (text_isPrefix_of_first? _h).length_le
  simp only [List.length_drop]
  omega

@[simp] theorem cut_nil : cut [] = [] := by
  rw [cut]
  rfl

theorem cut_append (h : first? (lexeme.text ++ rest) = some lexeme) :
    cut (lexeme.text ++ rest) = lexeme :: cut rest := by
  rw [cut]
  split
  · next h' =>
    rw [h] at h'
    cases h'
  · next lexeme' h' =>
    rw [h] at h'
    cases h'
    rw [List.drop_left]

/-- A text is empty, or it is its first lexeme and a text to which the same applies. -/
@[elab_as_elim]
theorem cut_induction {motive : List Char → Prop} (source : List Char) (nil : motive [])
    (cons : ∀ (lexeme : Lexeme) (rest : List Char),
      first? (lexeme.text ++ rest) = some lexeme → motive rest → motive (lexeme.text ++ rest)) :
    motive source := by
  -- The recursion of `cut` is over the text behind the first lexeme, found by its length.
  fun_induction cut source with
  | case1 source h => exact first?_eq_none_iff.1 h ▸ nil
  | case2 source lexeme h ih =>
    obtain ⟨rest, rfl⟩ := exists_append_of_first? h
    rw [List.drop_left] at ih
    exact cons lexeme rest h ih

theorem flatMap_text_cut : (cut source).flatMap text = source := by
  induction source using cut_induction with
  | nil => simp
  | cons lexeme rest h ih => rw [cut_append h, List.flatMap_cons, ih]

/-- Every lexeme of a text is the first one of what is left of the text from there on. -/
theorem exists_first?_of_mem_cut (h : lexeme ∈ cut source) :
    ∃ rest, first? (lexeme.text ++ rest) = some lexeme := by
  induction source using cut_induction with
  | nil => simp at h
  | cons first rest hfirst ih =>
    rw [cut_append hfirst, List.mem_cons] at h
    rcases h with rfl | h
    · exact ⟨rest, hfirst⟩
    · exact ih h

theorem scanned_of_mem_cut (h : lexeme ∈ cut source) : lexeme.Scanned ∧ lexeme.text ≠ [] := by
  obtain ⟨rest, hfirst⟩ := exists_first?_of_mem_cut h
  exact ⟨scanned_of_first? hfirst, text_ne_nil_of_first? hfirst⟩

end Lexeme

/-! ### Pieces -/

/-- An item of a token stream together with the text that it takes. -/
structure Piece where
  item : TokenStream.Item
  text : List Char

namespace Piece

/-- The token of a piece, also where it is in error. -/
def token (piece : Piece) : Token := piece.item.toToken

/-- The last piece of every selector: the token for the end of input, which takes no text. -/
def last (p : Position) : Piece where
  item := .ok (.endOfInput p)
  text := []

/-- The lexeme as the piece that begins at `p`. -/
def ofLexeme (p : Position) (lexeme : Lexeme) : Piece where
  item := lexeme.item p (p.advanceOver lexeme.text)
  text := lexeme.text

/-- The pieces that the lexemes make up one behind the other, from `p` to the end of input. -/
def locate (p : Position) : List Lexeme → List Piece
  | [] => [last p]
  | lexeme :: lexemes => ofLexeme p lexeme :: locate (p.advanceOver lexeme.text) lexemes

/-- The text that the pieces take together. -/
def textOf (pieces : List Piece) : List Char := pieces.flatMap text

variable {p : Position} {piece : Piece} {pieces others : List Piece} {lexemes : List Lexeme}

@[simp] theorem textOf_nil : textOf [] = [] := rfl

@[simp] theorem textOf_cons : textOf (piece :: pieces) = piece.text ++ textOf pieces := rfl

@[simp] theorem textOf_append : textOf (pieces ++ others) = textOf pieces ++ textOf others :=
  List.flatMap_append

theorem textOf_locate : textOf (locate p lexemes) = lexemes.flatMap Lexeme.text := by
  induction lexemes generalizing p with
  | nil => rfl
  | cons lexeme lexemes ih => rw [locate, textOf_cons, ih, List.flatMap_cons]; rfl

end Piece

/-! ### The pieces of a stream -/

namespace TokenStream

variable {stream after : TokenStream} {item : Item} {lexeme : Lexeme} {rest : List Char} {n : Nat}
  {e : LexicalError} {piece : Piece} {later : List Piece}

/-- Everything that is still to come, each item with the text between the two cursors. -/
def pieces (stream : TokenStream) : List Piece :=
  match _h : stream.next? with
  | none => []
  | some (item, after) =>
    { item, text := after.cursor.sliceFrom stream.cursor.bytePos } :: after.pieces
termination_by stream.remaining
decreasing_by exact remaining_lt_of_next? _h

/-- The stream after up to `n` more items; it stays where it is when there are no more. -/
def drop (stream : TokenStream) : Nat → TokenStream
  | 0 => stream
  | n + 1 =>
    match stream.next? with
    | none => stream
    | some (_, after) => after.drop n

theorem pieces_of_next?_eq_none (h : stream.next? = none) : stream.pieces = [] := by
  rw [pieces]
  split
  · rfl
  · next h' =>
    rw [h] at h'
    cases h'

theorem pieces_of_next?_eq_some (h : stream.next? = some (item, after)) :
    stream.pieces =
      { item, text := after.cursor.sliceFrom stream.cursor.bytePos } :: after.pieces := by
  rw [pieces]
  split
  · next h' =>
    rw [h] at h'
    cases h'
  · next h' =>
    rw [h] at h'
    cases h'
    rfl

/-- The first of the pieces to come is the next item with its text, and the others come after it. -/
theorem exists_next?_of_pieces_eq_cons (h : stream.pieces = piece :: later) :
    ∃ after, stream.next? = some (piece.item, after) ∧
      piece.text = after.cursor.sliceFrom stream.cursor.bytePos ∧ after.pieces = later := by
  cases hn : stream.next? with
  | none =>
    rw [pieces_of_next?_eq_none hn] at h
    cases h
  | some step =>
    obtain ⟨item, after⟩ := step
    rw [pieces_of_next?_eq_some hn] at h
    obtain ⟨rfl, rfl⟩ := List.cons.inj h
    exact ⟨after, rfl, rfl, rfl⟩

theorem next?_eq_none_of_pieces_eq_nil (h : stream.pieces = []) : stream.next? = none := by
  cases hn : stream.next? with
  | none => rfl
  | some step =>
    rw [pieces_of_next?_eq_some hn] at h
    cases h

theorem items_eq_map_pieces : stream.items = stream.pieces.map Piece.item := by
  fun_induction items stream with
  | case1 stream h => rw [pieces_of_next?_eq_none h]; rfl
  | case2 stream item after h ih => rw [pieces_of_next?_eq_some h, ih]; rfl

theorem tokenize_eq_map_pieces (source : String) :
    tokenize source = (ofText source.toList).pieces.map Piece.token := by
  rw [tokenize, items_eq_map_pieces, List.map_map]
  rfl

/-! ### One step of a stream -/

def past (stream : TokenStream) (lexeme : Lexeme) : TokenStream where
  cursor := stream.cursor.skip lexeme.text.length

theorem ahead_past (ha : stream.cursor.ahead = lexeme.text ++ rest) :
    (stream.past lexeme).cursor.ahead = rest := by
  rw [past, Cursor.ahead_skip, ha, List.drop_left]

theorem position_past (ha : stream.cursor.ahead = lexeme.text ++ rest) :
    (stream.past lexeme).cursor.position = stream.cursor.position.advanceOver lexeme.text := by
  rw [past, Cursor.position_skip, ha, List.take_left]

theorem sliceFrom_past (ha : stream.cursor.ahead = lexeme.text ++ rest) :
    (stream.past lexeme).cursor.sliceFrom stream.cursor.bytePos = lexeme.text := by
  rw [past, Cursor.sliceFrom_skip, ha, List.take_left]

/-- At the end of the text the stream gives the token for the end of input and is finished. -/
theorem next?_of_ahead_eq_nil (hf : stream.finished = false) (ha : stream.cursor.ahead = []) :
    stream.next? =
      some (.ok (.endOfInput stream.cursor.position), { stream with finished := true }) := by
  rw [next?_of_not_finished hf,
    read_of_first?_eq_none (Lexeme.first?_eq_none_iff.2 ha)]
  rfl

/-- Anywhere else it gives its first lexeme and stands behind it. -/
theorem next?_of_ahead_eq_append (hf : stream.finished = false)
    (ha : stream.cursor.ahead = lexeme.text ++ rest)
    (hl : Lexeme.first? (lexeme.text ++ rest) = some lexeme) :
    stream.next? =
      some (lexeme.item stream.cursor.position
        (stream.cursor.position.advanceOver lexeme.text), stream.past lexeme) := by
  rw [← position_past ha, next?_of_not_finished hf, read_of_first?_eq_some (ha ▸ hl)]
  simp only [Lexeme.isEnd_item (Lexeme.scanned_of_first? hl)]
  rfl

theorem drop_one_of_ahead_eq_append (hf : stream.finished = false)
    (ha : stream.cursor.ahead = lexeme.text ++ rest)
    (hl : Lexeme.first? (lexeme.text ++ rest) = some lexeme) :
    stream.drop 1 = stream.past lexeme := by
  rw [drop, next?_of_ahead_eq_append hf ha hl]
  rfl

/-! ### The run of a stream -/

/-- The pieces of a stream are those of the lexemes ahead of it. -/
theorem pieces_eq_locate (hf : stream.finished = false) :
    stream.pieces = Piece.locate stream.cursor.position (Lexeme.cut stream.cursor.ahead) := by
  -- The text ahead shrinks by one lexeme with every step, and the stream moves along with it.
  generalize ha : stream.cursor.ahead = source
  induction source using Lexeme.cut_induction generalizing stream with
  | nil =>
    have hend : ({ stream with finished := true } : TokenStream).next? = none :=
      next?_of_finished rfl
    rw [pieces_of_next?_eq_some (next?_of_ahead_eq_nil hf ha), pieces_of_next?_eq_none hend,
      Lexeme.cut_nil, Cursor.sliceFrom_bytePos]
    rfl
  | cons lexeme rest hl ih =>
    rw [pieces_of_next?_eq_some (next?_of_ahead_eq_append hf ha hl), sliceFrom_past ha,
      ih rfl (ahead_past ha), position_past ha, Lexeme.cut_append hl]
    rfl

theorem pieces_ofText (text : List Char) :
    (ofText text).pieces = Piece.locate .start (Lexeme.cut text) :=
  pieces_eq_locate rfl

theorem textOf_pieces (hf : stream.finished = false) :
    Piece.textOf stream.pieces = stream.cursor.ahead := by
  rw [pieces_eq_locate hf, Piece.textOf_locate, Lexeme.flatMap_text_cut]

theorem textOf_pieces_ofText (text : List Char) : Piece.textOf (ofText text).pieces = text :=
  textOf_pieces rfl

/-- What a step can be: at the end of the text it gives the token for the end of input, and anywhere
else the first lexeme. -/
theorem next?_eq_some_cases (h : stream.next? = some (item, after)) :
    (stream.cursor.ahead = [] ∧ item = .ok (.endOfInput stream.cursor.position) ∧
        after = { stream with finished := true }) ∨
      ∃ lexeme rest, stream.cursor.ahead = lexeme.text ++ rest ∧
        Lexeme.first? (lexeme.text ++ rest) = some lexeme ∧
        item = lexeme.item stream.cursor.position
          (stream.cursor.position.advanceOver lexeme.text) ∧
        after = stream.past lexeme := by
  cases hf : stream.finished with
  | true =>
    rw [next?_of_finished hf] at h
    cases h
  | false =>
    cases hl : Lexeme.first? stream.cursor.ahead with
    | none =>
      have ha := Lexeme.first?_eq_none_iff.1 hl
      rw [next?_of_ahead_eq_nil hf ha] at h
      cases h
      exact .inl ⟨ha, rfl, rfl⟩
    | some lexeme =>
      obtain ⟨rest, ha⟩ := Lexeme.exists_append_of_first? hl
      rw [ha] at hl
      rw [next?_of_ahead_eq_append hf ha hl] at h
      cases h
      exact .inr ⟨lexeme, rest, ha, hl, rfl, rfl⟩

/-- An error takes the one character that it is about. -/
theorem next?_eq_error_cases (h : stream.next? = some (.error e, after)) :
    ∃ rest, stream.cursor.ahead = e.cause.character :: rest ∧
      Lexeme.startingWith e.cause.character rest = .fault e.cause ∧
      e.start = stream.cursor.position ∧ after = stream.past (.fault e.cause) := by
  rcases next?_eq_some_cases h with ⟨-, hitem, -⟩ | ⟨lexeme, rest, ha, hl, hitem, hafter⟩
  · cases hitem
  · cases lexeme with
    | plain kind text => cases hitem
    | literal quote content => cases hitem
    | fault cause =>
      cases hitem
      exact ⟨rest, ha, Option.some.inj hl, rfl, hafter⟩

/-- The text of an item is what separates the cursors before and after it. -/
theorem ahead_of_next?_eq_some (h : stream.next? = some (item, after)) :
    stream.cursor.ahead =
      after.cursor.sliceFrom stream.cursor.bytePos ++ after.cursor.ahead := by
  rcases next?_eq_some_cases h with ⟨-, -, rfl⟩ | ⟨lexeme, rest, ha, -, -, rfl⟩
  · rw [Cursor.sliceFrom_bytePos, List.nil_append]
  · rw [sliceFrom_past ha, ahead_past ha, ha]

theorem position_of_next?_eq_some (h : stream.next? = some (item, after)) :
    after.cursor.position = stream.cursor.position.advanceOver
      (after.cursor.sliceFrom stream.cursor.bytePos) := by
  rcases next?_eq_some_cases h with ⟨-, -, rfl⟩ | ⟨lexeme, rest, ha, -, -, rfl⟩
  · rw [Cursor.sliceFrom_bytePos]
    rfl
  · rw [sliceFrom_past ha, position_past ha]

/-- A number of items takes as much text as their pieces hold. -/
theorem ahead_eq_append (stream : TokenStream) (n : Nat) :
    stream.cursor.ahead =
      Piece.textOf (stream.pieces.take n) ++ (stream.drop n).cursor.ahead := by
  induction n generalizing stream with
  | zero => rfl
  | succ n ih =>
    cases h : stream.next? with
    | none => simp [drop, h, pieces_of_next?_eq_none h]
    | some step =>
      obtain ⟨item, after⟩ := step
      rw [pieces_of_next?_eq_some h, ahead_of_next?_eq_some h, List.take_succ_cons,
        Piece.textOf_cons, List.append_assoc, ih after]
      simp only [drop, h]

theorem position_drop (stream : TokenStream) (n : Nat) :
    (stream.drop n).cursor.position =
      stream.cursor.position.advanceOver (Piece.textOf (stream.pieces.take n)) := by
  induction n generalizing stream with
  | zero => rfl
  | succ n ih =>
    cases h : stream.next? with
    | none => simp [drop, h, pieces_of_next?_eq_none h]
    | some step =>
      obtain ⟨item, after⟩ := step
      rw [pieces_of_next?_eq_some h, List.take_succ_cons, Piece.textOf_cons,
        Position.advanceOver_append]
      simp only [drop, h, ih after, position_of_next?_eq_some h]

/-- One more item is the next one after the others. -/
theorem drop_succ_of_next?_eq_some (h : (stream.drop n).next? = some (item, after)) :
    stream.drop (n + 1) = after := by
  induction n generalizing stream with
  | zero =>
    have hnext : stream.next? = some (item, after) := h
    simp only [drop, hnext]
  | succ n ih =>
    rw [drop]
    rw [drop] at h
    cases hnext : stream.next? with
    | none =>
      rw [hnext] at h
      cases hnext.symm.trans h
    | some step =>
      rw [hnext] at h
      exact ih h

/-- What comes after a number of items is what is left of all that was to come. -/
theorem pieces_drop (stream : TokenStream) (n : Nat) :
    (stream.drop n).pieces = stream.pieces.drop n := by
  induction n generalizing stream with
  | zero => rfl
  | succ n ih =>
    cases h : stream.next? with
    | none => simp [drop, h, pieces_of_next?_eq_none h]
    | some step =>
      obtain ⟨item, after⟩ := step
      simp only [drop, h, pieces_of_next?_eq_some h, List.drop_succ_cons, ih]

end TokenStream

end DocSelector
