import DocSelector.CharClass
import DocSelector.LexicalError
import DocSelector.Literal

/-!
# Lexemes

A lexeme is what the first characters of a text form, apart from where the text stands: a plain
piece that is its own value, a quoted string, or a character that is in error. A selector is cut
into lexemes from left to right, each as long as its class allows.

## Main definitions

* `Lexeme`: the three forms.
* `Lexeme.text`: the characters that a lexeme takes from the text.
* `Lexeme.first?`: the lexeme with which a text begins.
* `Lexeme.item`: the token or the error that a lexeme is between two points.

## Main statements

* `Lexeme.text_isPrefix_of_first?`: the lexeme found is the beginning of the text.
* `Lexeme.text_ne_nil_of_first?`: it takes at least one character.
-/

namespace DocSelector

/-- What the first characters of a text form. -/
inductive Lexeme where
  /-- Characters that are the value of their token. -/
  | plain (kind : Token.Kind) (text : List Char)
  /-- A string opened and closed by `quote`. -/
  | literal (quote : Char) (content : Literal)
  /-- A single character that is in error. -/
  | fault (cause : LexicalError.Cause)
deriving DecidableEq, Repr

namespace Lexeme

/-- The characters that the lexeme takes from the text. -/
def text : Lexeme → List Char
  | plain _ text => text
  | literal quote content => quote :: (content.raw ++ [quote])
  | fault cause => [cause.character]

/-- The lexeme of a word: a keyword if it is spelt like one. -/
def word (text : List Char) : Lexeme :=
  match Keyword.ofText? (String.ofList text) with
  | some keyword => plain (.keyword keyword) text
  | none => plain .identifier text

/-- The lexeme of a colon before `rest`: two colons belong together. -/
def colon : List Char → Lexeme
  | ':' :: _ => plain .namespaceSeparator [':', ':']
  | _ => plain .punctuation [':']

/-- The lexeme of a quote before `rest`. If the string is not closed, only the quote is in error. -/
def quotation (quote : Char) (rest : List Char) : Lexeme :=
  match Literal.read? quote rest with
  | some content => literal quote content
  | none => fault (.unterminatedString quote)

/-- The lexeme that begins with `c` and may go on into `rest`. -/
def startingWith (c : Char) (rest : List Char) : Lexeme :=
  match CharClass.of c with
  | .newline => plain .newline [c]
  | .blank => plain .whitespace [c]
  | .colon => colon rest
  | .quote => quotation c rest
  | .digit => plain .number (c :: rest.takeWhile Char.isDigit)
  | .wordStart => word (c :: rest.takeWhile isWordChar)
  | .mark kind => plain kind [c]
  | .foreign => fault (.unexpectedCharacter c)

/-- The lexeme with which a text begins; the empty text has none. -/
def first? : List Char → Option Lexeme
  | [] => none
  | c :: rest => some (startingWith c rest)

/-- The token that the lexeme is between two points, or the error. -/
def item (start stop : Position) : Lexeme → Except LexicalError Token
  | plain kind text => .ok { kind, value := String.ofList text, start, stop }
  | literal _ content => .ok { kind := .string, value := String.ofList content.value, start, stop }
  | fault cause => .error { cause, start }

variable {c : Char} {rest source : List Char} {lexeme : Lexeme}

/-! ### The characters of a lexeme -/

@[simp] theorem text_plain {kind : Token.Kind} {text : List Char} :
    (plain kind text).text = text := rfl

@[simp] theorem text_literal {quote : Char} {content : Literal} :
    (literal quote content).text = quote :: (content.raw ++ [quote]) := rfl

@[simp] theorem text_fault {cause : LexicalError.Cause} :
    (fault cause).text = [cause.character] := rfl

@[simp] theorem text_word {text : List Char} : (word text).text = text := by
  rw [word]
  split <;> rfl

theorem text_colon_isPrefix : (colon rest).text <+: ':' :: rest := by
  rw [colon.eq_def]
  split <;> simp

theorem text_quotation_isPrefix : (quotation c rest).text <+: c :: rest := by
  rw [quotation]
  split
  · next content h => simpa using Literal.raw_append_isPrefix_of_read? h
  · simp [LexicalError.Cause.character]

theorem text_startingWith_isPrefix : (startingWith c rest).text <+: c :: rest := by
  rw [startingWith]
  split
  case h_3 h =>
    obtain rfl := CharClass.eq_colon_of_of_eq_colon h
    exact text_colon_isPrefix
  case h_4 => exact text_quotation_isPrefix
  all_goals simp [LexicalError.Cause.character, List.takeWhile_prefix]

theorem text_startingWith_ne_nil : (startingWith c rest).text ≠ [] := by
  unfold startingWith colon quotation
  split
  case h_3 => split <;> simp
  case h_4 => split <;> simp
  all_goals simp

/-! ### The first lexeme of a text -/

@[simp] theorem first?_eq_none_iff : first? source = none ↔ source = [] := by
  cases source <;> simp [first?]

/-- The lexeme found is the beginning of the text. -/
theorem text_isPrefix_of_first? (h : first? source = some lexeme) : lexeme.text <+: source := by
  cases source with
  | nil => cases h
  | cons c rest => exact Option.some.inj h ▸ text_startingWith_isPrefix

/-- A lexeme takes at least one character. -/
theorem text_ne_nil_of_first? (h : first? source = some lexeme) : lexeme.text ≠ [] := by
  cases source with
  | nil => cases h
  | cons c rest => exact Option.some.inj h ▸ text_startingWith_ne_nil

end Lexeme

end DocSelector
