import DocSelector.Text.Ranges

/-!
# Blank characters

A character is blank when it has the Unicode property `White_Space`: twenty-five characters, the
line feed and the no-break spaces among them. The zero-width space and the byte order mark do not
have the property.

## Main definitions

* `Text.isBlank`: membership in the property.
* `Text.trim`: a text without the blanks at its two ends.
-/

namespace DocSelector.Text

/-- The code points with the property `White_Space`. -/
def blankRanges : List (Nat × Nat) :=
  [(0x09, 0x0d), (0x20, 0x20), (0x85, 0x85), (0xa0, 0xa0), (0x1680, 0x1680), (0x2000, 0x200a),
    (0x2028, 0x2029), (0x202f, 0x202f), (0x205f, 0x205f), (0x3000, 0x3000)]

/-- Whether `c` has the property `White_Space`. -/
def isBlank (c : Char) : Bool := inRanges blankRanges c

/-- The text without the blanks at its beginning and at its end. -/
def trim (text : List Char) : List Char :=
  ((text.dropWhile isBlank).reverse.dropWhile isBlank).reverse

end DocSelector.Text
