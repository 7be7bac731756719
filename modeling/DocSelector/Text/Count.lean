/-!
# Counts

A count is a natural number below two to the power of sixty-four. It is written with decimal digits,
as many leading zeros as one likes, and at most one plus in front; nothing else may stand beside the
digits.
-/

namespace DocSelector.Text

/-- The greatest count: the greatest number of sixty-four bits. -/
def countLimit : Nat := 0xffffffffffffffff

/-- The text without one plus at its beginning. -/
def dropPlus : List Char → List Char
  | '+' :: text => text
  | text => text

/-- The count that `text` is written for, if it is one. -/
def parseCount? (text : List Char) : Option Nat :=
  let digits := dropPlus text
  if digits.isEmpty || !digits.all Char.isDigit then none
  else
    let count := Nat.ofDigitChars 10 digits 0
    if count ≤ countLimit then some count else none

end DocSelector.Text
