import DocSelector.Text.Lines
import DocSelector.TokenStream

/-!
# Listings

A listing shows the tokens of a selector, one on each line below a header: the name of the kind, the
value in quotes and the two ends. Names are filled up with spaces, so that the values stand below
one another.

## Main definitions

* `Listing.row`: the line of a token.
* `listing`: the whole text for a selector.
-/

namespace DocSelector

namespace Listing

/-- The number of characters of the longest name of a kind among the tokens. -/
def nameWidth (tokens : List Token) : Nat :=
  tokens.foldl (fun width token => max width token.kind.name.length) 0

/-- The text filled up with spaces to at least `width` characters. -/
def padded (width : Nat) (s : String) : String :=
  String.ofList (s.toList.rightpad width ' ')

/-- The line of a token in a listing whose names take `width` characters. -/
def row (width : Nat) (token : Token) : String :=
  s!"  {padded width token.kind.name} {token.valueAndSpan}"

/-- The first line of a listing. -/
def header (selector : String) (count : Nat) : String :=
  s!"Tokens for {Text.quoteString selector} ({count} tokens):"

/-- The lines of a listing. -/
def lines (selector : String) (tokens : List Token) : List String :=
  header selector tokens.length :: tokens.map (row (nameWidth tokens))

end Listing

/-- The tokens of a selector, errors included, one on each line. -/
def listing (selector : String) : String :=
  Text.unlines (Listing.lines selector (tokenize selector))

end DocSelector
