import DocSelector.Proofs.Likeness

/-!
# Likely typos that are too far away to be suggested

Two names can look like one name mistyped in two ways: by a single edit, or by letters that differ
in case. A single edit is within the default threshold of every name but the empty one, so a
candidate like that is always suggested. Letters in the wrong case are edits too, and there can be
more of them than the threshold allows. As many as it allows are still found; but a name of two
characters or more that is written in the other case throughout is never led back to the candidate.

## Main definitions

* `EditDistance.mismatches`: the number of places at which two texts differ.
* `CaseBeyondThreshold`: the names that only look alike.

## Main statements

* `EditDistance.alignCost_le_mismatches`: it is never worse to replace every character that differs.
* `likely_typo_is_suggested_iff`: which of the likely typos are suggested.
* `likely_typo_not_suggested`: not all of them are.
-/

namespace DocSelector

namespace EditDistance

variable {a b : List Char}

/-- The number of places at which both texts have a character, but not the same. -/
def mismatches (a b : List Char) : Nat := (a.zip b).countP fun pair => pair.1 != pair.2

/-- Of two texts of one length, one can be written over the other where they differ. -/
theorem alignCost_le_mismatches (h : a.length = b.length) :
    alignCost a b ≤ mismatches a b := by
  induction a generalizing b with
  | nil =>
    obtain rfl := List.length_eq_zero_iff.1 h.symm
    rw [alignCost_self]
    exact Nat.zero_le _
  | cons c a ih =>
    obtain ⟨d, b, rfl⟩ := List.exists_cons_of_length_eq_add_one h.symm
    have hrest : alignCost a b ≤ mismatches a b := ih (Nat.succ.inj h)
    rw [alignCost_cons_cons, mismatches, List.zip_cons_cons, List.countP_cons]
    by_cases hcd : c = d
    · subst hcd
      exact (entry_self_le.trans hrest).trans (Nat.le_add_right _ _)
    · rw [if_pos (by simpa using hcd)]
      exact entry_le_diagonal.trans (Nat.succ_le_succ hrest)

end EditDistance

section

variable {a b : String}

/-- The two names differ in the case of letters only, but that takes more edits than the default
threshold of the first one allows. -/
def CaseBeyondThreshold (a b : String) : Prop :=
  equalIgnoringCase a b = true ∧ defaultThreshold a.length < editDistance a b

/-- Every name but the empty one is allowed an edit. -/
theorem one_le_defaultThreshold (hname : a ≠ "") : 1 ≤ defaultThreshold a.length := by
  have hlength : a.length ≠ 0 := mt String.length_eq_zero_iff.1 hname
  unfold defaultThreshold
  split_ifs <;> omega

theorem suggest?_singleton_eq_none_iff (hname : a ≠ "") :
    suggest? a [b] = none ↔ defaultThreshold a.length < editDistance a b := by
  rw [suggest?, closest?_eq_none_iff, or_iff_right hname, List.forall_mem_singleton]

theorem suggest?_singleton_eq_some_iff (hname : a ≠ "") :
    suggest? a [b] = some b ↔ editDistance a b ≤ defaultThreshold a.length := by
  rw [suggest?, closest?_eq_some_iff hname, List.argmin_singleton]
  exact and_iff_right rfl

/-- Of the likely typos only those in the case of letters can be beyond the threshold. -/
theorem lt_editDistance_iff_of_isLikelyTypo (hname : a ≠ "") (htypo : isLikelyTypo a b = true) :
    defaultThreshold a.length < editDistance a b ↔ CaseBeyondThreshold a b := by
  refine ⟨fun hfar => ⟨?_, hfar⟩, And.right⟩
  rw [isLikelyTypo, Bool.or_eq_true, beq_iff_eq] at htypo
  rcases htypo with hcase | hone
  · exact hcase
  · have hallowed := one_le_defaultThreshold hname
    omega

/-- A likely typo is no further away than it has places that differ, unless it is a single edit. -/
theorem editDistance_le_max_one_mismatches (htypo : isLikelyTypo a b = true) :
    editDistance a b ≤ max 1 (EditDistance.mismatches a.toList b.toList) := by
  rw [isLikelyTypo, Bool.or_eq_true, beq_iff_eq] at htypo
  rcases htypo with hcase | hone
  · have hlength : a.toList.length = b.toList.length := by
      rw [String.length_toList, String.length_toList]
      exact (equalIgnoringCase_iff.1 hcase).1
    rw [EditDistance.editDistance_eq_alignCost]
    exact (EditDistance.alignCost_le_mismatches hlength).trans (le_max_right _ _)
  · exact hone.le.trans (le_max_left _ _)

end

/-- A candidate that looks like the name mistyped is suggested for it exactly if the two do not
differ in case by more edits than the default threshold allows; otherwise nothing is suggested. It
is suggested if it differs by a single edit, or at no more places than the threshold allows. If it
has no character in common with a name of two characters or more, as a name in the other case has
none, it is not suggested. -/
theorem likely_typo_is_suggested_iff (a b : String) (hname : a ≠ "")
    (htypo : isLikelyTypo a b = true) :
    (suggest? a [b] = some b ↔ ¬CaseBeyondThreshold a b) ∧
      (suggest? a [b] = none ↔ CaseBeyondThreshold a b) ∧
      (DifferInOnePlace a b → suggest? a [b] = some b) ∧
      (EditDistance.mismatches a.toList b.toList ≤ defaultThreshold a.length →
        suggest? a [b] = some b) ∧
      (2 ≤ a.length → (∀ c ∈ a.toList, c ∉ b.toList) → suggest? a [b] = none) := by
  rw [suggest?_singleton_eq_none_iff hname, suggest?_singleton_eq_some_iff hname,
    ← lt_editDistance_iff_of_isLikelyTypo hname htypo]
  have hallowed := one_le_defaultThreshold hname
  refine ⟨not_lt.symm, Iff.rfl, ?_, ?_, ?_⟩
  · intro hplace
    rw [editDistance_eq_one_iff.2 hplace]
    exact hallowed
  · intro hplaces
    exact (editDistance_le_max_one_mismatches htypo).trans (max_le hallowed hplaces)
  · intro hlength hnone
    by_contra hnear
    -- What is near enough would have a character of the name.
    obtain ⟨⟨c, hc, hcb⟩, -⟩ := share_of_le_defaultThreshold hlength (not_lt.1 hnear)
    exact hnone c hc hcb

/-- Three capital letters are within the threshold of a name of seven characters, and a fourth one
is not. -/
theorem likely_typo_is_suggested_iff_capitals :
    "HEAding" ≠ "" ∧ isLikelyTypo "HEAding" "heading" = true ∧
      suggest? "HEAding" ["heading"] = some "heading" ∧
      "HEADing" ≠ "" ∧ isLikelyTypo "HEADing" "heading" = true ∧
      CaseBeyondThreshold "HEADing" "heading" ∧ suggest? "HEADing" ["heading"] = none := by
  have hthree : isLikelyTypo "HEAding" "heading" = true := by decide +kernel
  have hfour : isLikelyTypo "HEADing" "heading" = true := by decide +kernel
  have hbeyond : CaseBeyondThreshold "HEADing" "heading" := ⟨by decide +kernel, by decide +kernel⟩
  exact ⟨by decide, hthree,
    (likely_typo_is_suggested_iff "HEAding" "heading" (by decide) hthree).2.2.2.1 (by decide),
    by decide, hfour, hbeyond,
    (likely_typo_is_suggested_iff "HEADing" "heading" (by decide) hfour).2.1.2 hbeyond⟩

/-- A name in capital letters looks like the name in small letters mistyped, but nothing is
suggested for it. -/
theorem likely_typo_not_suggested :
    "INTRO" ≠ "" ∧ isLikelyTypo "INTRO" "intro" = true ∧ suggest? "INTRO" ["intro"] = none ∧
      ¬∀ a b : String, a ≠ "" → isLikelyTypo a b = true → suggest? a [b] = some b := by
  have hnone : suggest? "INTRO" ["intro"] = none := by decide +kernel
  refine ⟨by decide, by decide +kernel, hnone, ?_⟩
  intro hstricter
  cases hnone.symm.trans (hstricter "INTRO" "intro" (by decide) (by decide +kernel))

end DocSelector
