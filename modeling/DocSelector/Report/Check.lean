import DocSelector.Report
import DocSelector.Suggestion
import DocSelector.TokenStream

/-!
# Checks

A check says whether a selector can be read. If it can, words that stand where a keyword is expected
and look like a misspelt one are pointed out. If it cannot, the line with the first error is shown,
with a caret below the character in question.

## Main definitions

* `KeywordWarning`, `keywordWarnings`: words that were probably meant to be keywords.
* `LexicalError.excerpt`: the line with an error and the caret below it.
* `check`: what a check finds.
* `checkReport`: the same as a text.
-/

namespace DocSelector

/-- A word before a colon that was probably meant to be a keyword. -/
structure KeywordWarning where
  name : String
  start : Position
  suggestion : String
deriving DecidableEq, Repr

namespace KeywordWarning

/-- The warning for a token and the next one that is not trivia, if there is reason for one: the
first is a word, the second a single colon, and some keyword is near to the word. -/
def ofPair? (token next : Token) : Option KeywordWarning :=
  if token.kind == .identifier && next.kind == .punctuation && next.value == ":" then
    (suggest? token.value (Keyword.all.map Keyword.text)).map fun suggestion =>
      { name := token.value, start := token.start, suggestion }
  else none

def line (warning : KeywordWarning) : String :=
  s!"warning: `{warning.name}` at {warning.start} is not a selector keyword; " ++
    hint warning.suggestion

end KeywordWarning

def neighbours {α : Type} (l : List α) : List (α × α) := l.zip l.tail

def keywordWarnings (tokens : List Token) : List KeywordWarning :=
  (neighbours (significant tokens)).filterMap fun (token, next) =>
    KeywordWarning.ofPair? token next

/-- What a check finds in a selector that can be read. -/
structure CheckResult where
  warnings : List KeywordWarning
  /-- The number of tokens, trivia and the end of input included. -/
  tokenCount : Nat
deriving DecidableEq, Repr

/-- The lines that state the result: a line for each warning, and a last one. -/
def CheckResult.lines (result : CheckResult) : List String :=
  result.warnings.map KeywordWarning.line ++ [s!"ok ({result.tokenCount} tokens)"]

/-- Checks a selector: warnings if it can be read, and otherwise its first error. -/
def check (selector : String) : Except LexicalError CheckResult :=
  (tokenizeStrict selector).map fun tokens =>
    { warnings := keywordWarnings tokens, tokenCount := tokens.length }

namespace LexicalError

/-- The line of the selector on which the error stands, without the carriage returns at its end. -/
def sourceLine (e : LexicalError) (selector : List Char) : List Char :=
  Text.trimReturns ((Text.lines selector)[e.start.line - 1]?.getD [])

/-- Blanks as wide as the part of `line` in front of the error. A tab stays a tab, so that the caret
behind the blanks comes to stand below the error. -/
def caretPadding (e : LexicalError) (line : List Char) : List Char :=
  (line.take (e.start.column - 1)).map fun c => if c = '\t' then '\t' else ' '

/-- The lines that state the error and show its place in the selector. -/
def excerpt (e : LexicalError) (selector : String) : List String :=
  let number := toString e.start.line
  let gutter := String.ofList (List.replicate number.length ' ')
  let line := e.sourceLine selector.toList
  [ s!"error[{e.code}]: {e}",
    s!"{gutter} |",
    s!"{number} | {String.ofList line}",
    s!"{gutter} | {String.ofList (e.caretPadding line)}^",
    s!"{gutter} = help: run `mdsel explain {e.code}` for details" ]

end LexicalError

/-- The text of a check. It succeeds if the selector can be read. -/
def checkReport (selector : String) : Report :=
  match check selector with
  | .ok result => { text := Text.unlines result.lines, success := true }
  | .error e => { text := Text.unlines (e.excerpt selector), success := false }

end DocSelector
