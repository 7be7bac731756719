import DocSelector.Text.Blank
import DocSelector.Text.Lines

/-!
# Error codes

Each cause of a lexical error has a code under which it is explained at length. A code is written
with a letter and four digits; a reader may leave out the letter or write it small.

## Main definitions

* `ErrorCode`: the codes, their text and their explanations.
* `ErrorCode.parse`: reads a code as a person would type it.
-/

namespace DocSelector

/-- The code of a cause of lexical errors. -/
inductive ErrorCode where
  | unterminatedString
  | unexpectedCharacter
deriving DecidableEq, Repr

/-- A text that is not the code of any error. -/
structure UnknownErrorCode where
  text : String
deriving DecidableEq, Repr

instance : ToString UnknownErrorCode where
  toString unknown := s!"unknown error code `{unknown.text}`"

namespace ErrorCode

def all : List ErrorCode := [unterminatedString, unexpectedCharacter]

def digits : ErrorCode → String
  | unterminatedString => "0001"
  | unexpectedCharacter => "0002"

def text (code : ErrorCode) : String := "E" ++ code.digits

instance : ToString ErrorCode := ⟨text⟩

/-- What the error means and how it is mended. -/
def explanation : ErrorCode → String
  | unterminatedString => Text.unlines [
      "A quoted string in the selector was never closed.",
      "",
      "Strings open with `\"` or `'` and must close with the same",
      "character. Inside a string, `\\n`, `\\t`, `\\r`, `\\\\` and an",
      "escaped copy of the opening quote are decoded; any other",
      "backslash pair is kept as written.",
      "",
      "Erroneous example:",
      "",
      "    heading:\"Getting started",
      "",
      "Fixed:",
      "",
      "    heading:\"Getting started\""]
  | unexpectedCharacter => Text.unlines [
      "The selector contains a character that is not part of the",
      "selector language.",
      "",
      "Names may use ASCII letters, digits and `_`. Anything else,",
      "such as `@`, `$` or accented letters, must be written inside",
      "a quoted string.",
      "",
      "Erroneous example:",
      "",
      "    heading:intro@v2",
      "",
      "Fixed:",
      "",
      "    heading:\"intro@v2\""]

/-- The text without the letter that may stand in front of the digits. -/
def dropLetter : List Char → List Char
  | 'E' :: digits | 'e' :: digits => digits
  | digits => digits

/-- The code that `s` names. Blanks around it do not matter, and neither does the letter. -/
def parse (s : String) : Except UnknownErrorCode ErrorCode :=
  match all.find? fun code => code.digits.toList == dropLetter (Text.trim s.toList) with
  | some code => .ok code
  | none => .error { text := s }

end ErrorCode

end DocSelector
