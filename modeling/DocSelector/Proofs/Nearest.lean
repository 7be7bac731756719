import DocSelector.Proofs.Ranking
import Mathlib.Data.List.MinMax

/-!
# The nearest candidate and the ranking

The nearest candidate is found in one pass over the list, in which the best candidate so far gives
way only to a nearer one. The ranking sorts the same candidates, so of several that are equally near
it may begin with another one. Still the two agree on whether there is any candidate and on the
distance of the best: the one pass ends with the first candidate at the distance with which the
ranking begins, and none of all candidates is nearer.

## Main definitions

* `Suggestion.FirstNearest`: the candidate that one pass should end with.

## Main statements

* `Suggestion.foldl_better`: what one pass ends with.
* `closest?_eq_none_iff`, `firstNearest_of_closest?`: the nearest candidate, told from the list.
* `ranked_eq_nil_iff`, `Suggestion.isLeast_of_sortedNear_eq_cons`: when a ranking is empty, and how
  it begins otherwise.
* `closest_agrees_with_ranked`: the nearest candidate beside the ranking.
-/

namespace DocSelector

namespace Suggestion

/-- No candidate is nearer to the name than `best`, and none that stands before it is as near. -/
def FirstNearest (name : String) (candidates : List String) (best : String) : Prop :=
  ∃ before after, candidates = before ++ best :: after ∧
    (∀ candidate ∈ before, editDistance name best < editDistance name candidate) ∧
    ∀ candidate ∈ after, editDistance name best ≤ editDistance name candidate

variable {name best candidate : String} {threshold : Nat} {candidates : List String}
  {s : Suggestion} {later : List Suggestion}

theorem FirstNearest.mem (h : FirstNearest name candidates best) : best ∈ candidates := by
  obtain ⟨before, after, rfl, -, -⟩ := h
  exact List.mem_append_right _ List.mem_cons_self

theorem FirstNearest.le (h : FirstNearest name candidates best) (hmem : candidate ∈ candidates) :
    editDistance name best ≤ editDistance name candidate := by
  obtain ⟨before, after, rfl, hbefore, hafter⟩ := h
  rcases List.mem_append.1 hmem with hmem | hmem
  · exact (hbefore candidate hmem).le
  · rcases List.mem_cons.1 hmem with rfl | hmem
    · exact le_rfl
    · exact hafter candidate hmem

theorem FirstNearest.isLeast (h : FirstNearest name candidates best) :
    IsLeast {d | ∃ candidate ∈ candidates, editDistance name candidate = d}
      (editDistance name best) := by
  refine ⟨⟨best, h.mem, rfl⟩, ?_⟩
  rintro _ ⟨candidate, hcandidate, rfl⟩
  exact h.le hcandidate

theorem firstNearest_of_argmin (h : candidates.argmin (editDistance name) = some best) :
    FirstNearest name candidates best := by
  obtain ⟨hmem, hle, hfirst⟩ := List.argmin_eq_some_iff.1 h
  obtain ⟨before, after, rfl, hnew⟩ := List.eq_append_cons_of_mem hmem
  refine ⟨before, after, rfl, ?_, ?_⟩
  · intro candidate hcandidate
    -- Anything as near as `best` in front of it would be found in its place.
    by_contra hnear
    have hindex := hfirst candidate (List.mem_append_left _ hcandidate) (not_lt.1 hnear)
    rw [List.idxOf_append_of_notMem hnew, List.idxOf_cons_self,
      List.idxOf_append_of_mem hcandidate] at hindex
    have hlt := List.idxOf_lt_length_of_mem hcandidate
    omega
  · intro candidate hcandidate
    exact hle candidate (List.mem_append_right _ (List.mem_cons_of_mem _ hcandidate))

/-! ### One pass over the candidates -/

/-- To leave candidates aside for their length makes no difference. -/
theorem ofCandidate?_eq (name : String) (threshold : Nat) (candidate : String) :
    ofCandidate? name threshold candidate =
      if editDistance name candidate ≤ threshold then
        some { distance := editDistance name candidate, candidate }
      else none := by
  have hgap := lengthGap_le_editDistance name candidate
  rw [ofCandidate?]
  by_cases hlength : threshold < lengthGap name candidate
  · rw [if_pos hlength, if_neg (by omega)]
  · rw [if_neg hlength]

/-- One pass ends with the first of the nearest candidates, if that is near enough. -/
theorem foldl_better (name : String) (threshold : Nat) (candidates : List String) :
    (candidates.filterMap (ofCandidate? name threshold)).foldl better none =
      (candidates.argmin (editDistance name)).bind (ofCandidate? name threshold) := by
  induction candidates using List.reverseRecOn with
  | nil => rfl
  | append_singleton candidates candidate ih =>
    rw [List.filterMap_append, List.foldl_append, ih, List.argmin_concat]
    cases candidates.argmin (editDistance name) with
    | none =>
      cases h : ofCandidate? name threshold candidate <;> simp [h, better]
    | some best =>
      -- Whether the candidate takes the place of `best` is asked once with the threshold and once
      -- without it.
      simp only [Option.bind_some, List.filterMap_cons, List.filterMap_nil, ofCandidate?_eq]
      grind [better]

/-! ### The beginning of a ranking -/

theorem sortedNear_eq_nil_iff :
    sortedNear name threshold candidates = [] ↔
      ∀ candidate ∈ candidates, threshold < editDistance name candidate := by
  rw [List.eq_nil_iff_forall_not_mem]
  constructor
  · intro hnone candidate hcandidate
    by_contra hnear
    exact hnone { distance := editDistance name candidate, candidate }
      (mem_sortedNear.2 ⟨hcandidate, rfl, not_lt.1 hnear⟩)
  · intro hfar s hs
    obtain ⟨hmem, hdistance, hle⟩ := mem_sortedNear.1 hs
    have hlt := hfar s.candidate hmem
    omega

/-- The distance with which the sorted candidates begin is the least of all candidates, those that
are not near enough included. -/
theorem isLeast_of_sortedNear_eq_cons (h : sortedNear name threshold candidates = s :: later) :
    IsLeast {d | ∃ candidate ∈ candidates, editDistance name candidate = d} s.distance := by
  have hs : s ∈ sortedNear name threshold candidates := h ▸ List.mem_cons_self
  obtain ⟨hmem, hdistance, hle⟩ := mem_sortedNear.1 hs
  refine ⟨⟨s.candidate, hmem, hdistance.symm⟩, ?_⟩
  rintro _ ⟨candidate, hcandidate, rfl⟩
  by_cases hnear : editDistance name candidate ≤ threshold
  · have hsorted : { distance := editDistance name candidate, candidate } ∈
        sortedNear name threshold candidates := mem_sortedNear.2 ⟨hcandidate, rfl, hnear⟩
    have hpairwise := @pairwise_sortedNear name threshold candidates
    rw [h] at hsorted hpairwise
    rcases List.mem_cons.1 hsorted with rfl | hlater
    · exact le_rfl
    · rcases (List.pairwise_cons.1 hpairwise).1 _ hlater with hlt | ⟨heq, -⟩
      · exact hlt.le
      · exact heq.le
  · omega

end Suggestion

section

variable {name best : String} {threshold count : Nat} {candidates : List String}

/-- The nearest candidate is the first of the nearest, unless that is too far from the name. -/
theorem closest?_eq_some_iff (hname : name ≠ "") :
    closest? name threshold candidates = some best ↔
      candidates.argmin (editDistance name) = some best ∧ editDistance name best ≤ threshold := by
  rw [closest?, if_neg (by rwa [String.isEmpty_iff]), Suggestion.foldl_better]
  cases candidates.argmin (editDistance name) with
  | none => simp
  | some first =>
    rw [Option.bind_some, Suggestion.ofCandidate?_eq, Option.some.injEq]
    by_cases hnear : editDistance name first ≤ threshold
    · rw [if_pos hnear]
      constructor
      · rintro ⟨⟩
        exact ⟨rfl, hnear⟩
      · rintro ⟨rfl, -⟩
        rfl
    · rw [if_neg hnear]
      constructor
      · rintro ⟨⟩
      · rintro ⟨rfl, hle⟩
        exact absurd hle hnear

theorem closest?_eq_none_iff :
    closest? name threshold candidates = none ↔
      name = "" ∨ ∀ candidate ∈ candidates, threshold < editDistance name candidate := by
  by_cases hname : name = ""
  · subst hname
    exact iff_of_true rfl (.inl rfl)
  · rw [Option.eq_none_iff_forall_ne_some, or_iff_right hname]
    simp only [ne_eq, closest?_eq_some_iff hname, not_and, not_le]
    constructor
    · intro hfar candidate hcandidate
      cases hargmin : candidates.argmin (editDistance name) with
      | none => simp [List.argmin_eq_none.1 hargmin] at hcandidate
      | some best => exact (hfar best hargmin).trans_le (List.le_of_mem_argmin hcandidate hargmin)
    · intro hfar best hargmin
      exact hfar best (List.argmin_mem hargmin)

theorem firstNearest_of_closest? (h : closest? name threshold candidates = some best) :
    name ≠ "" ∧ editDistance name best ≤ threshold ∧
      Suggestion.FirstNearest name candidates best := by
  have hname : name ≠ "" := by
    rintro rfl
    cases h
  obtain ⟨hargmin, hnear⟩ := (closest?_eq_some_iff hname).1 h
  exact ⟨hname, hnear, Suggestion.firstNearest_of_argmin hargmin⟩

theorem ranked_eq_nil_iff :
    ranked name threshold count candidates = [] ↔
      name = "" ∨ count = 0 ∨
        ∀ candidate ∈ candidates, threshold < editDistance name candidate := by
  by_cases hname : name = ""
  · simp [hname, ranked_eq_nil]
  · rw [ranked_eq_take hname, List.take_eq_nil_iff, Suggestion.sortedNear_eq_nil_iff]
    simp [hname]

/-- A ranking that is cut off behind its first place holds a suggestion at the least distance. -/
theorem exists_ranked_one_eq (hname : name ≠ "")
    (hnear : ∃ candidate ∈ candidates, editDistance name candidate ≤ threshold) :
    ∃ s, ranked name threshold 1 candidates = [s] ∧
      IsLeast {d | ∃ candidate ∈ candidates, editDistance name candidate = d} s.distance := by
  rw [ranked_eq_take hname]
  cases hsorted : Suggestion.sortedNear name threshold candidates with
  | nil =>
    obtain ⟨candidate, hcandidate, hle⟩ := hnear
    exact absurd hle (not_le.2 (Suggestion.sortedNear_eq_nil_iff.1 hsorted candidate hcandidate))
  | cons s later => exact ⟨s, rfl, Suggestion.isLeast_of_sortedNear_eq_cons hsorted⟩

end

/-- The nearest candidate beside the ranking. There is none exactly when every ranking is empty, and
that is when the name is empty or every candidate is too far from it. Otherwise it is the first of
the candidates at the distance with which the ranking begins, and this is the least distance of all
candidates. -/
theorem closest_agrees_with_ranked (name : String) (threshold : Nat) (candidates : List String) :
    (closest? name threshold candidates = none ↔
        ∀ count, 1 ≤ count → ranked name threshold count candidates = []) ∧
      (closest? name threshold candidates = none ↔
        name = "" ∨ ¬∃ candidate ∈ candidates, editDistance name candidate ≤ threshold) ∧
      ∀ best, closest? name threshold candidates = some best →
        ∃ s, ranked name threshold 1 candidates = [s] ∧
          (∃ before after, candidates = before ++ best :: after ∧
            editDistance name best = s.distance ∧
            ∀ candidate ∈ before, editDistance name candidate ≠ s.distance) ∧
          IsLeast {d | ∃ candidate ∈ candidates, editDistance name candidate = d} s.distance := by
  refine ⟨?_, ?_, ?_⟩
  · simp only [closest?_eq_none_iff, ranked_eq_nil_iff]
    constructor
    · rintro (hname | hfar) count -
      · exact .inl hname
      · exact .inr (.inr hfar)
    · intro h
      simpa using h 1 le_rfl
  · simp [closest?_eq_none_iff]
  · intro best hbest
    obtain ⟨hname, hnear, hfirst⟩ := firstNearest_of_closest? hbest
    obtain ⟨s, hs, hleast⟩ := exists_ranked_one_eq hname ⟨best, hfirst.mem, hnear⟩
    -- Both distances are the least of all candidates.
    have hdistance : editDistance name best = s.distance := hfirst.isLeast.unique hleast
    obtain ⟨before, after, hsplit, hbefore, -⟩ := hfirst
    refine ⟨s, hs, ⟨before, after, hsplit, hdistance, ?_⟩, hleast⟩
    intro candidate hcandidate
    rw [← hdistance]
    exact (hbefore candidate hcandidate).ne'

/-- Of two candidates that are equally near, the two may name different ones. -/
example :
    closest? "ab" 1 ["bb", "aa"] = some "bb" ∧
      ranked "ab" 1 1 ["bb", "aa"] = [{ distance := 1, candidate := "aa" }] := by
  constructor <;> cbv

end DocSelector
