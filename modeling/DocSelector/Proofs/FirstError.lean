import DocSelector.Proofs.Segmentation

/-!
# Giving up at the first error

A selector can be read in two ways. One goes on past every error and puts a token in its place; the
other gives up at the first error and never looks at what comes behind it. Both read the same
stream, so the second gives what the first gives as long as no error has come up, and the error at
which it gives up is the one that stands first among the tokens of the other.

## Main statements

* `TokenStream.collect_of_items_eq_map`, `TokenStream.collect_of_items_eq_append`: what is collected
  from a stream, told from everything that is still to come.
* `TokenStream.isError_of_ok_mem_items`: a token that a stream gives is never an error in disguise.
* `strict_gives_up_at_first_error`: the two ways to read a selector side by side.
-/

namespace DocSelector

namespace TokenStream

variable {stream after : TokenStream} {item : Item} {items rest : List Item} {token : Token}
  {tokens : List Token} {e : LexicalError} {lexeme : Lexeme} {p q : Position}

/-! ### Everything that is still to come, up to the first error -/

theorem items_of_next?_eq_none (h : stream.next? = none) : stream.items = [] := by
  rw [items_eq_map_pieces, pieces_of_next?_eq_none h, List.map_nil]

theorem items_of_next?_eq_some (h : stream.next? = some (item, after)) :
    stream.items = item :: after.items := by
  rw [items_eq_map_pieces, items_eq_map_pieces, pieces_of_next?_eq_some h, List.map_cons]

/-- The first of the items to come is the next one, and the others come after it. -/
theorem exists_next?_of_items_eq_cons (h : stream.items = item :: rest) :
    ∃ after, stream.next? = some (item, after) ∧ after.items = rest := by
  rw [items_eq_map_pieces, List.map_eq_cons_iff] at h
  obtain ⟨piece, later, hpieces, rfl, rfl⟩ := h
  obtain ⟨after, hnext, -, rfl⟩ := exists_next?_of_pieces_eq_cons hpieces
  exact ⟨after, hnext, items_eq_map_pieces⟩

theorem next?_eq_none_of_items_eq_nil (h : stream.items = []) : stream.next? = none := by
  rw [items_eq_map_pieces, List.map_eq_nil_iff] at h
  exact next?_eq_none_of_pieces_eq_nil h

/-- Of a list of items either all are tokens, or there is a first error with tokens before it. -/
theorem eq_map_or_eq_append (items : List Item) :
    (∃ tokens : List Token, items = tokens.map .ok) ∨
      ∃ (tokens : List Token) (e : LexicalError) (rest : List Item),
        items = tokens.map .ok ++ .error e :: rest := by
  induction items with
  | nil => exact .inl ⟨[], rfl⟩
  | cons item items ih =>
    cases item with
    | error e => exact .inr ⟨[], e, items, rfl⟩
    | ok token =>
      rcases ih with ⟨tokens, rfl⟩ | ⟨tokens, e, rest, rfl⟩
      · exact .inl ⟨token :: tokens, rfl⟩
      · exact .inr ⟨token :: tokens, e, rest, rfl⟩

theorem collect_of_next?_eq_none (h : stream.next? = none) : stream.collect = .ok [] := by
  rw [collect]
  split <;> simp_all

theorem collect_of_next?_eq_error (h : stream.next? = some (.error e, after)) :
    stream.collect = .error e := by
  rw [collect]
  split <;> simp_all

theorem collect_of_next?_eq_ok (h : stream.next? = some (.ok token, after)) :
    stream.collect = after.collect.map (token :: ·) := by
  rw [collect]
  split <;> simp_all

/-- A stream without errors is collected as a whole. -/
theorem collect_of_items_eq_map (h : stream.items = tokens.map .ok) :
    stream.collect = .ok tokens := by
  induction tokens generalizing stream with
  | nil => exact collect_of_next?_eq_none (next?_eq_none_of_items_eq_nil h)
  | cons token tokens ih =>
    obtain ⟨after, hnext, htail⟩ := exists_next?_of_items_eq_cons h
    rw [collect_of_next?_eq_ok hnext, ih htail]
    rfl

/-- The first error of a stream is all that is collected from it, whatever comes behind the
error. -/
theorem collect_of_items_eq_append (h : stream.items = tokens.map .ok ++ .error e :: rest) :
    stream.collect = .error e := by
  induction tokens generalizing stream with
  | nil =>
    obtain ⟨after, hnext, -⟩ := exists_next?_of_items_eq_cons h
    exact collect_of_next?_eq_error hnext
  | cons token tokens ih =>
    obtain ⟨after, hnext, htail⟩ := exists_next?_of_items_eq_cons h
    rw [collect_of_next?_eq_ok hnext, ih htail]
    rfl

/-! ### Tokens that are no errors -/

theorem isError_of_item_eq_ok (hs : lexeme.Scanned) (h : lexeme.item p q = .ok token) :
    token.isError = false := by
  cases lexeme with
  | plain kind text =>
    cases h
    simpa [Token.isError] using hs.2.1
  | literal quote content =>
    cases h
    rfl
  | fault cause => cases h

/-- One step of a stream never gives a token of the kind for errors. -/
theorem isError_of_next?_eq_ok (h : stream.next? = some (.ok token, after)) :
    token.isError = false := by
  rcases next?_eq_some_cases h with ⟨-, hitem, -⟩ | ⟨lexeme, rest, -, hl, hitem, -⟩
  · cases hitem
    rfl
  · exact isError_of_item_eq_ok (Lexeme.scanned_of_first? hl) hitem.symm

/-- Nor does a run, from any stream on. -/
theorem isError_of_ok_mem_items (h : .ok token ∈ stream.items) : token.isError = false := by
  fun_induction items stream with
  | case1 => cases h
  | case2 stream item after hn ih =>
    rcases List.mem_cons.1 h with rfl | h
    · exact isError_of_next?_eq_ok hn
    · exact ih h

theorem isError_of_items_eq_append (h : stream.items = tokens.map .ok ++ rest) :
    ∀ token ∈ tokens, token.isError = false := by
  intro token htoken
  have hmem : .ok token ∈ stream.items := by
    rw [h]
    exact List.mem_append_left _ (List.mem_map_of_mem htoken)
  exact isError_of_ok_mem_items hmem

/-! ### The two ways to read a selector -/

theorem map_toToken_map_ok : (tokens.map (.ok : Token → Item)).map Item.toToken = tokens := by
  rw [List.map_map]
  exact List.map_id tokens

end TokenStream

section

variable {source : String} {tokens before after : List Token} {token : Token} {e : LexicalError}

theorem tokenize_of_strict_eq_ok (h : tokenizeStrict source = .ok tokens) :
    tokenize source = tokens ∧ ∀ token ∈ tokens, token.isError = false := by
  rcases TokenStream.eq_map_or_eq_append (TokenStream.ofText source.toList).items with
    ⟨given, hitems⟩ | ⟨given, e, rest, hitems⟩
  · have hcollect := TokenStream.collect_of_items_eq_map hitems
    obtain rfl : given = tokens := Except.ok.inj (hcollect.symm.trans h)
    refine ⟨by rw [tokenize, hitems, TokenStream.map_toToken_map_ok], ?_⟩
    rw [← List.append_nil (given.map _)] at hitems
    exact TokenStream.isError_of_items_eq_append hitems
  · have hcollect := TokenStream.collect_of_items_eq_append hitems
    cases hcollect.symm.trans h

theorem tokenize_of_strict_eq_error (h : tokenizeStrict source = .error e) :
    ∃ before after, tokenize source = before ++ e.toToken :: after ∧
      ∀ token ∈ before, token.isError = false := by
  rcases TokenStream.eq_map_or_eq_append (TokenStream.ofText source.toList).items with
    ⟨given, hitems⟩ | ⟨given, e', rest, hitems⟩
  · have hcollect := TokenStream.collect_of_items_eq_map hitems
    cases hcollect.symm.trans h
  · have hcollect := TokenStream.collect_of_items_eq_append hitems
    obtain rfl : e' = e := Except.error.inj (hcollect.symm.trans h)
    refine ⟨given, rest.map TokenStream.Item.toToken, ?_,
      TokenStream.isError_of_items_eq_append hitems⟩
    rw [tokenize, hitems, List.map_append, TokenStream.map_toToken_map_ok]
    rfl

/-- If no token is an error, the strict way to read a selector gives the same tokens. -/
theorem strict_eq_ok_of_forall (h : ∀ token ∈ tokenize source, token.isError = false) :
    tokenizeStrict source = .ok (tokenize source) := by
  cases hstrict : tokenizeStrict source with
  | ok tokens => rw [(tokenize_of_strict_eq_ok hstrict).1]
  | error e =>
    obtain ⟨before, after, hall, -⟩ := tokenize_of_strict_eq_error hstrict
    have hmem : e.toToken ∈ tokenize source := by
      rw [hall]
      exact List.mem_append_right _ List.mem_cons_self
    exact absurd e.isError_toToken (Bool.eq_false_iff.1 (h e.toToken hmem))

theorem firstError?_of_eq_append (hbefore : ∀ token ∈ before, token.isError = false)
    (htoken : token.isError = true) : firstError? (before ++ token :: after) = some token := by
  have hnone : before.find? Token.isError = none := by
    rw [List.find?_eq_none]
    intro other hother
    rw [hbefore other hother]
    exact Bool.false_ne_true
  rw [firstError?, List.find?_append, hnone, Option.none_or, List.find?_cons_of_pos htoken]

end

/-- The two ways to read a selector. The strict one succeeds exactly when there is no error among
the tokens of the other, and gives the same tokens. Otherwise it fails with the error that stands
first among them, which its text locates in words. -/
theorem strict_gives_up_at_first_error (source : String) :
    (∀ tokens, tokenizeStrict source = .ok tokens ↔
        (∀ token ∈ tokenize source, token.isError = false) ∧ tokens = tokenize source) ∧
      ((∃ token ∈ tokenize source, token.isError = true) ↔
        ∃ (e : LexicalError) (before after : List Token),
          tokenizeStrict source = .error e ∧
          tokenize source = before ++ e.toToken :: after ∧
          (∀ token ∈ before, token.isError = false) ∧
          firstError? (tokenize source) = some e.toToken ∧
          toString e =
            s!"Line {e.toToken.start.line}, Column {e.toToken.start.column}: {e.cause.message}") := by
  cases hstrict : tokenizeStrict source with
  | ok tokens =>
    obtain ⟨hall, hfree⟩ := tokenize_of_strict_eq_ok hstrict
    rw [hall]
    refine ⟨fun tokens' => ?_, ?_⟩
    · rw [Except.ok.injEq, eq_comm]
      exact (and_iff_right hfree).symm
    · simpa using hfree
  | error e =>
    obtain ⟨before, after, hall, hfree⟩ := tokenize_of_strict_eq_error hstrict
    have herror : e.toToken ∈ tokenize source := by
      rw [hall]
      exact List.mem_append_right _ List.mem_cons_self
    have hfirst : firstError? (tokenize source) = some e.toToken := by
      rw [hall]
      exact firstError?_of_eq_append hfree e.isError_toToken
    constructor
    · intro tokens
      constructor
      · intro h
        cases h
      · rintro ⟨hnone, -⟩
        exact absurd e.isError_toToken (Bool.eq_false_iff.1 (hnone _ herror))
    · constructor
      · intro _
        exact ⟨e, before, after, rfl, hall, hfree, hfirst, e.toString_eq_message⟩
      · intro _
        exact ⟨e.toToken, herror, e.isError_toToken⟩

end DocSelector
