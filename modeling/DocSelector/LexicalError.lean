import DocSelector.ErrorCode
import DocSelector.Token

/-!
# Lexical errors

Two things can be wrong with the text of a selector: a string that is never closed, and a character
that begins no token. Either way the error covers a single character, the opening quote or the
stray character, and reading goes on after it.

## Main definitions

* `LexicalError.Cause`: what is wrong, with the character it is wrong with.
* `LexicalError`: a cause and the place of its character.
* `LexicalError.toToken`: the token that stands for the error where reading goes on.
-/

namespace DocSelector

/-- What is wrong at some point of a selector. -/
inductive LexicalError.Cause where
  /-- The string opened by `quote` is never closed. -/
  | unterminatedString (quote : Char)
  /-- No token begins with `found`. -/
  | unexpectedCharacter (found : Char)
deriving DecidableEq, Repr

namespace LexicalError.Cause

/-- The character that the error is about: the opening quote, or the one that was found. -/
def character : Cause → Char
  | unterminatedString quote => quote
  | unexpectedCharacter found => found

def code : Cause → ErrorCode
  | unterminatedString _ => .unterminatedString
  | unexpectedCharacter _ => .unexpectedCharacter

/-- The cause in words, without the place. -/
def message : Cause → String
  | unterminatedString _ => "Unterminated string"
  | unexpectedCharacter found => s!"Unexpected character {Text.quoteChar found}"

/-- The value of the token that stands for the error: the words for a string that is never closed,
and for a stray character the character itself. -/
def tokenValue : Cause → String
  | cause@(unterminatedString _) => cause.message
  | unexpectedCharacter found => found.toString

end LexicalError.Cause

/-- An error in the text of a selector. -/
structure LexicalError where
  cause : LexicalError.Cause
  /-- The point before the character that the error is about. -/
  start : Position
deriving DecidableEq, Repr

namespace LexicalError

/-- The family to which every error of this kind belongs. -/
def category : String := "LEXICAL_ERROR"

/-- The point after the character that the error is about. -/
def stop (e : LexicalError) : Position := e.start.advance e.cause.character

def code (e : LexicalError) : ErrorCode := e.cause.code

instance : ToString LexicalError where
  toString e :=
    let place := s!"Line {e.start.line}, Column {e.start.column}"
    match e.cause with
    | .unterminatedString _ => s!"{place}: Unterminated string"
    | .unexpectedCharacter found => s!"{place}: Unexpected character {Text.quoteChar found}"

/-- The token that stands for the error among the others. -/
def toToken (e : LexicalError) : Token where
  kind := .error
  value := e.cause.tokenValue
  start := e.start
  stop := e.stop

/-- The text of an error is the cause in words, behind the place. -/
theorem toString_eq_message (e : LexicalError) :
    toString e = s!"Line {e.start.line}, Column {e.start.column}: {e.cause.message}" := by
  obtain ⟨cause, start⟩ := e
  have hcolon (place words : String) : place ++ (": " ++ words) = place ++ ": " ++ words :=
    String.append_assoc.symm
  cases cause with
  | unterminatedString quote => exact hcolon _ "Unterminated string"
  | unexpectedCharacter found =>
    exact (congrArg (· ++ Text.quoteChar found) (hcolon _ "Unexpected character ")).trans
      String.append_assoc

@[simp] theorem isError_toToken (e : LexicalError) : e.toToken.isError = true := rfl

end LexicalError

end DocSelector
