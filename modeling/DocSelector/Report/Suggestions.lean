import DocSelector.Report
import DocSelector.SuggestOptions
import DocSelector.Suggestion
import DocSelector.Text.Lines

/-!
# Lists of suggestions

The candidates nearest to a name: a hint in words, and below it a line for each of them with its
distance.
-/

namespace DocSelector

/-- The line of a suggestion: its distance and the candidate. -/
def Suggestion.line (s : Suggestion) : String := s!"  {s.distance}  {s.candidate}"

/-- The greatest distance that the options allow for `name`. -/
def SuggestOptions.thresholdFor (options : SuggestOptions) (name : String) : Nat :=
  options.threshold?.getD (defaultThreshold name.length)

/-- The suggestions for `name`. It succeeds if there is one. -/
def suggestionsReport (name : String) (candidates : List String) (options : SuggestOptions) :
    Report :=
  let threshold := options.thresholdFor name
  let suggestions := ranked name threshold options.maxResults candidates
  match hint? (suggestions.map Suggestion.candidate) with
  | none =>
    { text := Text.unlines [s!"no candidates within distance {threshold} of `{name}`"],
      success := false }
  | some hint =>
    { text := Text.unlines (hint :: suggestions.map Suggestion.line), success := true }

end DocSelector
