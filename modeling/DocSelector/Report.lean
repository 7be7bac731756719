/-!
# Reports

What a command has to say is a report: a text of lines, and whether the answer is a good one.
-/

namespace DocSelector

/-- The answer of a command. -/
structure Report where
  /-- The text for the reader. -/
  text : String
  /-- Whether the selector is sound, the code is known, or a suggestion was found. -/
  success : Bool
deriving DecidableEq, Repr

end DocSelector
