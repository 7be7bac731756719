import DocSelector.Proofs.Grammar
import DocSelector.Proofs.Location

/-!
# Texts put between quotes

Every text can be written as a string of a selector. A backslash and the quote itself must stand
behind a backslash; a line feed, a tab and a carriage return may be written as a pair or stand as
they are, as the writer likes; every other character stands for itself, the other quote too.
Whatever the choices, reading gives the text back and stops right behind the closing quote.

## Main definitions

* `Literal.Spells`: the ways to write one character.
* `Literal.Encodes`: the ways to write a text.

## Main statements

* `Literal.read?_spelling`: one written character is read as that character.
* `Literal.read?_of_encodes`: a written text is read as that text, up to the closing quote.
* `Literal.quoted_text_comes_back`: the first token of a selector that begins with a quoted text.
-/

namespace DocSelector

namespace Literal

open Grammar (Quote)

/-- `Spells quote c spelling`: the character may be written so in a string opened by `quote`. -/
inductive Spells (quote : Char) : Char → List Char → Prop
  | backslash : Spells quote '\\' ['\\', '\\']
  | quote : Spells quote quote ['\\', quote]
  | lineFeed : Spells quote '\n' ['\\', 'n']
  | tab : Spells quote '\t' ['\\', 't']
  | carriageReturn : Spells quote '\r' ['\\', 'r']
  | itself {c : Char} : c ≠ '\\' → c ≠ quote → Spells quote c [c]

/-- `Encodes quote value written`: the text may be written so in a string opened by `quote`, every
character of it in one of its ways. -/
inductive Encodes (quote : Char) : List Char → List Char → Prop
  | nil : Encodes quote [] []
  | cons {c : Char} {spelling value written : List Char} :
      Spells quote c spelling → Encodes quote value written →
        Encodes quote (c :: value) (spelling ++ written)

/-- The written text between two copies of the quote. -/
def quoted (quote : Char) (written : String) : String :=
  String.singleton quote ++ written ++ String.singleton quote

variable {quote c : Char} {spelling value written text rest : List Char}

theorem exists_spells (quote c : Char) : ∃ spelling, Spells quote c spelling := by
  by_cases hbackslash : c = '\\'
  · subst hbackslash
    exact ⟨_, .backslash⟩
  · by_cases hquote : c = quote
    · subst hquote
      exact ⟨_, .quote⟩
    · exact ⟨_, .itself hbackslash hquote⟩

theorem exists_encodes (quote : Char) (value : List Char) :
    ∃ written, Encodes quote value written := by
  induction value with
  | nil => exact ⟨[], .nil⟩
  | cons c value ih =>
    obtain ⟨spelling, hspelling⟩ := exists_spells quote c
    obtain ⟨written, hwritten⟩ := ih
    exact ⟨spelling ++ written, .cons hspelling hwritten⟩

/-- The quote is none of the letters that stand for something else behind a backslash. -/
theorem pairValue_quote (hquote : Quote quote) : pairValue quote quote = [quote] := by
  rcases hquote with rfl | rfl <;> rfl

/-- A pair that stands for a single character is read as that character. -/
theorem read?_pair_of_pairValue {d : Char} (hquote : Quote quote) (hd : pairValue quote d = [c]) :
    read? quote (['\\', d] ++ text) =
      (read? quote text).map fun l => { raw := ['\\', d] ++ l.raw, value := c :: l.value } := by
  rw [List.cons_append, List.singleton_append, read?_pair hquote.ne_backslash]
  refine congrArg (Option.map · _) (funext fun l => ?_)
  rw [consPair, hd]
  rfl

/-- Whichever way a character is written, it is read as that character. -/
theorem read?_spelling (hquote : Quote quote) (h : Spells quote c spelling) :
    read? quote (spelling ++ text) =
      (read? quote text).map fun l => { raw := spelling ++ l.raw, value := c :: l.value } := by
  cases h with
  | backslash => exact read?_pair_of_pairValue hquote rfl
  | quote => exact read?_pair_of_pairValue hquote (pairValue_quote hquote)
  | lineFeed => exact read?_pair_of_pairValue hquote rfl
  | tab => exact read?_pair_of_pairValue hquote rfl
  | carriageReturn => exact read?_pair_of_pairValue hquote rfl
  | itself hbackslash hne => exact read?_plain hne hbackslash

/-- A written text is read as the text, and reading ends at the first quote behind it. -/
theorem read?_of_encodes (hquote : Quote quote) (h : Encodes quote value written) :
    read? quote (written ++ quote :: rest) = some { raw := written, value } := by
  induction h with
  | nil => exact read?_quote
  | cons hspelling _ ih =>
    rw [List.append_assoc, read?_spelling hquote hspelling, ih]
    rfl

/-- A selector that begins with a quoted text begins with a string. -/
theorem first?_of_encodes (hquote : Quote quote) (h : Encodes quote value written) :
    Lexeme.first? ((Lexeme.literal quote { raw := written, value }).text ++ rest) =
      some (.literal quote { raw := written, value }) := by
  rw [Lexeme.text_literal, List.cons_append, List.append_assoc, List.singleton_append,
    Grammar.first?_of_quote hquote, Lexeme.quotation, read?_of_encodes hquote h]

theorem toList_quoted {written : String} {content : Literal} (h : content.raw = written.toList) :
    (quoted quote written).toList = (Lexeme.literal quote content).text := by
  simp [quoted, h]

/-- Every text can be written between quotes, and comes back from wherever it is written so, in
whichever of the ways: the first token is a string, its value is the text, and it takes the written
text with the two quotes, whatever comes behind them. -/
theorem quoted_text_comes_back {quote : Char} (hquote : Quote quote) (value : String) :
    (∃ written : String, Encodes quote value.toList written.toList) ∧
      ∀ written rest : String, Encodes quote value.toList written.toList →
        (tokenize (quoted quote written ++ rest)).head? =
            some {
              kind := .string
              value
              start := .start
              stop := .ofText (quoted quote written).toList } ∧
          ((TokenStream.ofText (quoted quote written ++ rest).toList).drop 1).cursor.ahead =
            rest.toList := by
  constructor
  · obtain ⟨written, h⟩ := exists_encodes quote value.toList
    exact ⟨String.ofList written, by rwa [String.toList_ofList]⟩
  · intro written rest h
    have htext := @toList_quoted quote written { raw := written.toList, value := value.toList } rfl
    have hfirst := @first?_of_encodes quote value.toList written.toList rest.toList hquote h
    rw [TokenStream.tokenize_eq_map_pieces, String.toList_append, htext]
    constructor
    · rw [TokenStream.pieces_ofText, Lexeme.cut_append hfirst, ← Position.advanceOver_start]
      simp [Piece.locate, Piece.token, Piece.ofLexeme, Lexeme.item, TokenStream.Item.toToken]
    · rw [TokenStream.drop_one_of_ahead_eq_append rfl rfl hfirst]
      exact TokenStream.ahead_past rfl

/-- A backslash in front of a quote, a line feed written as a pair and the other quote. -/
theorem quoted_text_comes_back_escaped :
    Quote '"' ∧ Encodes '"' "\\\"\n'".toList "\\\\\\\"\\n'".toList ∧
      (tokenize (quoted '"' "\\\\\\\"\\n'" ++ "\"")).head? =
        some {
          kind := .string
          value := "\\\"\n'"
          start := .start
          stop := .ofText (quoted '"' "\\\\\\\"\\n'").toList } ∧
      ((TokenStream.ofText (quoted '"' "\\\\\\\"\\n'" ++ "\"").toList).drop 1).cursor.ahead =
        ['"'] := by
  have hquote : Quote '"' := .inl rfl
  have hencodes : Encodes '"' "\\\"\n'".toList "\\\\\\\"\\n'".toList :=
    .cons .backslash (.cons .quote (.cons .lineFeed (.cons (.itself (by decide) (by decide)) .nil)))
  exact ⟨hquote, hencodes, (quoted_text_comes_back hquote _).2 _ _ hencodes⟩

end Literal

end DocSelector
