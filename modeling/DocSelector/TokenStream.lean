import DocSelector.Scan

/-!
# Token streams

A token stream reads a selector from left to right and gives one token or one error at a time. It is
a value: a copy of it can be kept and read again later. At the end of the selector comes the token
for the end of input, and after it nothing more.

## Main definitions

* `TokenStream.read`: the next token or error. At the end of the selector it gives the token for the
  end of input every time it is asked.
* `TokenStream.next?`: the same, but after the token for the end of input there is nothing.
* `TokenStream.items`: everything that is still to come.
* `TokenStream.collect`: the tokens still to come, given up at the first error.
* `tokenize`, `tokenizeStrict`: the tokens of a selector, with errors among them as tokens, or
  without errors at all.
-/

namespace DocSelector

/-- A selector in the course of being read. -/
structure TokenStream where
  /-- Where reading goes on. -/
  cursor : Cursor
  /-- Whether `next?` has given the token for the end of input. -/
  finished : Bool := false
deriving DecidableEq, Repr

namespace TokenStream

/-- What a stream gives at each step. -/
abbrev Item := Except LexicalError Token

/-- Whether the item is the token for the end of input. -/
def Item.isEnd : Item → Bool
  | .ok token => token.kind == .endOfInput
  | .error _ => false

/-- The item as a token, an error too. -/
def Item.toToken : Item → Token
  | .ok token => token
  | .error e => e.toToken

/-- The stream at the beginning of `text`. -/
def ofText (text : List Char) : TokenStream where
  cursor := .ofText text

/-- The next token or error, and the stream after it. -/
def read (stream : TokenStream) : Item × TokenStream :=
  match stream.cursor.current? with
  | none => (.ok (.endOfInput stream.cursor.position), stream)
  | some c =>
    let (item, cursor) := stream.cursor.scan c
    (item, { stream with cursor })

/-- The next token or error and the stream after it, or nothing after the token for the end of
input. -/
def next? (stream : TokenStream) : Option (Item × TokenStream) :=
  if stream.finished then none
  else
    let (item, after) := stream.read
    some (item, { after with finished := item.isEnd })

variable {stream after : TokenStream} {item : Item} {lexeme : Lexeme}

theorem read_of_first?_eq_none (h : Lexeme.first? stream.cursor.ahead = none) :
    stream.read = (.ok (.endOfInput stream.cursor.position), stream) := by
  have hcurrent : stream.cursor.current? = none := by
    rw [Cursor.current?, Lexeme.first?_eq_none_iff.1 h, List.head?_nil]
  simp only [read, hcurrent]

theorem read_of_first?_eq_some (h : Lexeme.first? stream.cursor.ahead = some lexeme) :
    stream.read =
      (lexeme.item stream.cursor.position (stream.cursor.skip lexeme.text.length).position,
        { stream with cursor := stream.cursor.skip lexeme.text.length }) := by
  cases hahead : stream.cursor.ahead with
  | nil =>
    rw [hahead] at h
    cases h
  | cons c rest =>
    have hcurrent : stream.cursor.current? = some c := by
      rw [Cursor.current?, hahead, List.head?_cons]
    rw [hahead] at h
    obtain rfl := Option.some.inj h
    simp only [read, hcurrent, Cursor.scan_eq_take hahead]
    rfl

theorem next?_of_finished (h : stream.finished = true) : stream.next? = none := by
  simp [next?, h]

theorem next?_of_not_finished (h : stream.finished = false) :
    stream.next? =
      some (stream.read.1, { stream.read.2 with finished := stream.read.1.isEnd }) := by
  simp [next?, h]

/-- A bound on the number of items that are still to come. -/
def remaining (stream : TokenStream) : Nat :=
  if stream.finished then 0 else stream.cursor.ahead.length + 1

/-- Every item brings the stream nearer to its end. -/
theorem remaining_lt_of_next? (h : stream.next? = some (item, after)) :
    after.remaining < stream.remaining := by
  cases hf : stream.finished with
  | true => simp [next?_of_finished hf] at h
  | false =>
    rw [next?_of_not_finished hf] at h
    obtain ⟨_, rfl⟩ := Prod.mk.inj (Option.some.inj h)
    simp only [remaining, hf, Bool.false_eq_true, ↓reduceIte]
    cases hl : Lexeme.first? stream.cursor.ahead with
    | none => simp [read_of_first?_eq_none hl, Item.isEnd, Token.endOfInput]
    | some lexeme =>
      have hpos := List.length_pos_iff.2 (Lexeme.text_ne_nil_of_first? hl)
      have hle := (Lexeme.text_isPrefix_of_first? hl).length_le
      simp only [read_of_first?_eq_some hl, Cursor.ahead_skip, List.length_drop]
      split <;> omega

/-- Everything that is still to come. -/
def items (stream : TokenStream) : List Item :=
  match _h : stream.next? with
  | none => []
  | some (item, after) => item :: after.items
termination_by stream.remaining
decreasing_by exact remaining_lt_of_next? _h

/-- The tokens that are still to come, or the first error. Nothing is read past an error. -/
def collect (stream : TokenStream) : Except LexicalError (List Token) :=
  match _h : stream.next? with
  | none => .ok []
  | some (.error e, _) => .error e
  | some (.ok token, after) => after.collect.map (token :: ·)
termination_by stream.remaining
decreasing_by exact remaining_lt_of_next? _h

end TokenStream

/-- The tokens of a selector. Errors are among them as tokens, and the last is the token for the end
of input. -/
def tokenize (selector : String) : List Token :=
  (TokenStream.ofText selector.toList).items.map TokenStream.Item.toToken

/-- The tokens of a selector that has no error, or the first error. -/
def tokenizeStrict (selector : String) : Except LexicalError (List Token) :=
  (TokenStream.ofText selector.toList).collect

end DocSelector
