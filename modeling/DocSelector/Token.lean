import DocSelector.Keyword
import DocSelector.Position
import DocSelector.Text.Quoted

/-!
# Tokens

A token is a classified piece of a selector together with the two points between which it lies.
Blanks and line feeds are tokens too, so that the tokens of a selector cover all of it; they are
called trivia, and a reader of selectors passes over them.

## Main definitions

* `Token.Kind`: the class of a token, with its name and its code.
* `Token`: kind, value and span.
* `significant`, `firstError?`: the views of a list of tokens that its readers need.
-/

namespace DocSelector

/-- The class of a token. -/
inductive Token.Kind where
  | keyword (word : Keyword)
  | identifier
  | number
  /-- A quoted string; its value is the content with the escapes resolved. -/
  | string
  | namespaceSeparator
  | pathSeparator
  | querySeparator
  | andSeparator
  | openBracket
  | closeBracket
  /-- Any other mark, a single colon among them. -/
  | punctuation
  /-- A single blank other than a line feed. -/
  | whitespace
  | newline
  /-- A lexical error; its value is a diagnostic. -/
  | error
  /-- The end of the selector, empty and without width. -/
  | endOfInput
deriving DecidableEq, Repr

namespace Token.Kind

/-- The name under which the kind is shown. -/
def name : Kind → String
  | keyword word => word.text ++ " keyword"
  | identifier => "identifier"
  | number => "number"
  | string => "string"
  | namespaceSeparator => "namespace separator"
  | pathSeparator => "path separator"
  | querySeparator => "query separator"
  | andSeparator => "and separator"
  | openBracket => "open bracket"
  | closeBracket => "close bracket"
  | punctuation => "punctuation"
  | whitespace => "whitespace"
  | newline => "newline"
  | error => "error"
  | endOfInput => "end of input"

/-- The text of every token of the kind, for the kinds that are always spelt the same way. -/
def lexeme? : Kind → Option String
  | keyword word => some word.text
  | namespaceSeparator => some "::"
  | pathSeparator => some "/"
  | querySeparator => some "?"
  | andSeparator => some "&"
  | openBracket => some "["
  | closeBracket => some "]"
  | newline => some "\n"
  | endOfInput => some ""
  | identifier | number | string | punctuation | whitespace | error => none

/-- A number for the kind. Kinds of one family have neighbouring numbers: keywords from 0, literals
from 8, separators from 16, marks from 32, trivia from 48; errors and the end come last. -/
def code : Kind → Nat
  | keyword .heading => 0
  | keyword .block => 1
  | keyword .nameSpace => 2
  | identifier => 8
  | number => 9
  | string => 10
  | namespaceSeparator => 16
  | pathSeparator => 17
  | querySeparator => 18
  | andSeparator => 19
  | openBracket => 32
  | closeBracket => 33
  | punctuation => 34
  | whitespace => 48
  | newline => 49
  | error => 240
  | endOfInput => 255

def isKeyword : Kind → Bool
  | keyword _ => true
  | _ => false

/-- Whether tokens of the kind only separate others. -/
def isTrivia : Kind → Bool
  | whitespace | newline => true
  | _ => false

instance : ToString Kind := ⟨name⟩

end Token.Kind

/-- A classified piece of a selector. -/
structure Token where
  kind : Token.Kind
  /-- What the token says: its text, the content of a string, or a diagnostic. -/
  value : String
  /-- The point before the first character. -/
  start : Position
  /-- The point after the last character. -/
  stop : Position
deriving DecidableEq, Repr

namespace Token

/-- The token that ends every selector, at the point `p`. -/
def endOfInput (p : Position) : Token where
  kind := .endOfInput
  value := ""
  start := p
  stop := p

def isError (token : Token) : Bool := token.kind == .error

def isTrivia (token : Token) : Bool := token.kind.isTrivia

/-- The number of characters between the two ends of the token. -/
def spanLength (token : Token) : Nat := token.stop.offset - token.start.offset

/-- The value in quotes and the two ends, as listings show them. -/
def valueAndSpan (token : Token) : String :=
  s!"{Text.quoteString token.value} @ {token.start}-{token.stop}"

instance : ToString Token where
  toString token := s!"{token.kind} {token.valueAndSpan}"

theorem isTrivia_iff {token : Token} :
    token.isTrivia = true ↔ token.kind = .whitespace ∨ token.kind = .newline := by
  rw [isTrivia]
  cases token.kind <;> simp [Kind.isTrivia]

end Token

/-- The tokens that are not trivia. -/
def significant (tokens : List Token) : List Token :=
  tokens.filter fun token => !token.isTrivia

/-- The first token that stands for a lexical error. -/
def firstError? (tokens : List Token) : Option Token :=
  tokens.find? Token.isError

/-- In front of the first token that is not trivia there are only trivia. -/
theorem head?_significant_eq_some_iff {tokens : List Token} {token : Token} :
    (significant tokens).head? = some token ↔
      ∃ trivia later : List Token, tokens = trivia ++ token :: later ∧
        (∀ other ∈ trivia, other.isTrivia = true) ∧ token.isTrivia = false := by
  rw [significant, List.head?_filter, List.find?_eq_some_iff_append]
  simp only [Bool.not_eq_true', Bool.not_not]
  constructor
  · rintro ⟨htoken, trivia, later, rfl, htrivia⟩
    exact ⟨trivia, later, rfl, htrivia, htoken⟩
  · rintro ⟨trivia, later, rfl, htrivia, htoken⟩
    exact ⟨htoken, trivia, later, rfl, htrivia⟩

end DocSelector
