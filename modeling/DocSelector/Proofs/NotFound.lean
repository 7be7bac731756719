import DocSelector.Proofs.Nearest
import DocSelector.Report.Suggestions

/-!
# Reports that nothing was found

A report of suggestions fails with one sentence: that no candidate is within the threshold of the
name. It says so whenever the ranking is empty, and a ranking is empty for three reasons. There may
be no candidate within the threshold, and then the sentence is true. But nothing is ranked for the
empty name either, and nothing if no suggestions are asked for, however near the candidates are. So
a report of failure tells about the candidates only if the name is not empty and a suggestion may be
shown.

## Main definitions

* `SuggestOptions.notFound`: the report of failure.

## Main statements

* `suggestionsReport_eq_notFound_iff`: when a report is the one of failure.
* `notFound_in_spite_of_candidate`: it may be so in spite of a candidate within the threshold.
-/

namespace DocSelector

/-- The report that no candidate is within the threshold of `name`. -/
def SuggestOptions.notFound (options : SuggestOptions) (name : String) : Report where
  text := Text.unlines [s!"no candidates within distance {options.thresholdFor name} of `{name}`"]
  success := false

variable {name : String} {candidates names : List String} {options : SuggestOptions}

/-- Only for no suggestions at all there are no words. -/
theorem hint?_eq_none_iff : hint? names = none ↔ names = [] := by
  cases names with
  | nil => exact iff_of_true rfl rfl
  | cons first others => cases others <;> simp [hint?]

theorem suggestionsReport_of_ranked_eq_nil
    (h : ranked name (options.thresholdFor name) options.maxResults candidates = []) :
    suggestionsReport name candidates options = options.notFound name := by
  simp only [suggestionsReport, h]
  rfl

theorem success_suggestionsReport_of_ranked_ne_nil
    (h : ranked name (options.thresholdFor name) options.maxResults candidates ≠ []) :
    (suggestionsReport name candidates options).success = true := by
  rw [suggestionsReport]
  split
  · next hnone =>
    rw [hint?_eq_none_iff, List.map_eq_nil_iff] at hnone
    exact absurd hnone h
  · rfl

/-- A report fails exactly if nothing is ranked. -/
theorem success_suggestionsReport_eq_false_iff :
    (suggestionsReport name candidates options).success = false ↔
      ranked name (options.thresholdFor name) options.maxResults candidates = [] := by
  constructor
  · intro hfailed
    by_contra hne
    rw [success_suggestionsReport_of_ranked_ne_nil hne] at hfailed
    cases hfailed
  · intro hnil
    rw [suggestionsReport_of_ranked_eq_nil hnil]
    rfl

/-- A report fails because the name is empty, because no suggestions are asked for, or because no
candidate is within the threshold. Whatever the reason, it says the same. -/
theorem suggestionsReport_eq_notFound_iff (name : String) (candidates : List String)
    (options : SuggestOptions) :
    (suggestionsReport name candidates options = options.notFound name ↔
        name = "" ∨ options.maxResults = 0 ∨
          ¬∃ candidate ∈ candidates, editDistance name candidate ≤ options.thresholdFor name) ∧
      ((suggestionsReport name candidates options).success = false ↔
        suggestionsReport name candidates options = options.notFound name) := by
  have hfailed : suggestionsReport name candidates options = options.notFound name ↔
      (suggestionsReport name candidates options).success = false := by
    constructor
    · intro heq
      rw [heq]
      rfl
    · intro hsuccess
      exact suggestionsReport_of_ranked_eq_nil (success_suggestionsReport_eq_false_iff.1 hsuccess)
  refine ⟨?_, hfailed.symm⟩
  rw [hfailed, success_suggestionsReport_eq_false_iff, ranked_eq_nil_iff]
  simp only [not_exists, not_and, not_le]

/-- The sentence of a failed report may be false: if no suggestions are asked for, it is said of a
name that is itself a candidate. -/
theorem notFound_in_spite_of_candidate :
    SuggestOptions.withArgument? {} "--max=0" = .ok (some { maxResults := 0 }) ∧
      suggestionsReport "intro" ["intro"] { maxResults := 0 } = {
        text := "no candidates within distance 2 of `intro`\n"
        success := false } ∧
      SuggestOptions.thresholdFor { maxResults := 0 } "intro" = 2 ∧
      editDistance "intro" "intro" = 0 ∧
      ¬∀ (name : String) (candidates : List String) (options : SuggestOptions),
        suggestionsReport name candidates options = options.notFound name ↔
          ¬∃ candidate ∈ candidates, editDistance name candidate ≤ options.thresholdFor name := by
  refine ⟨by decide +kernel, by decide +kernel, by decide +kernel, by decide +kernel, ?_⟩
  intro htruthful
  have hreport : suggestionsReport "intro" ["intro"] { maxResults := 0 } =
      SuggestOptions.notFound { maxResults := 0 } "intro" := by decide +kernel
  apply (htruthful "intro" ["intro"] { maxResults := 0 }).1 hreport
  exact ⟨"intro", List.mem_cons_self, by decide +kernel⟩

end DocSelector
