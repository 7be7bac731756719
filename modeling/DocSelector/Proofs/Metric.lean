import DocSelector.Proofs.EditScript
import Mathlib.Data.List.Basic

/-!
# The edit distance as a metric

The edit distance is a metric on texts: only a text itself is at distance zero, it does not matter
from which of two texts the way begins, and no way is shorter for leading over a third text. All
this is said of the shortest scripts, since scripts can be put one behind the other.

The lengths of two texts tell how far they are apart at least and at most. At least one edit is
needed for every character that one of them has more than the other, and never more edits than the
longer one has characters. So many are needed if the two have no character in common, as then
nothing of either text is of use for the other.

## Main statements

* `EditDistance.Script.append`: scripts one behind the other.
* `EditDistance.alignCost_le_max`, `EditDistance.alignCost_of_disjoint`: the bound by the longer
  text, and when it is reached.
* `EditDistance.editDistance_is_metric`: the laws of a metric, with the bounds.
-/

namespace DocSelector

namespace EditDistance

variable {a b c : List Char} {d e : Char} {m n : Nat}

/-! ### Scripts one behind the other -/

theorem Script.eq_of_zero (script : Script 0 a b) : a = b := by
  cases script with
  | done a => rfl

theorem Script.append (first : Script m a b) (second : Script n b c) : Script (m + n) a c := by
  induction first with
  | done a => rwa [Nat.zero_add]
  | step edit rest ih =>
    rw [Nat.succ_add]
    exact .step edit (ih second)

theorem alignCost_eq_zero_iff : alignCost a b = 0 ↔ a = b := by
  constructor
  · intro h
    have script := script_alignCost a b
    rw [h] at script
    exact script.eq_of_zero
  · rintro rfl
    exact alignCost_self a

/-- No way is shorter for leading over a third text. -/
theorem alignCost_le_add (a b c : List Char) : alignCost a c ≤ alignCost a b + alignCost b c :=
  alignCost_le_of_script ((script_alignCost a b).append (script_alignCost b c))

/-! ### The lengths of the two texts -/

/-- The characters that the longer text has more are put in or left out one by one. -/
theorem sub_le_alignCost (a b : List Char) :
    max a.length b.length - min a.length b.length ≤ alignCost a b := by
  have h := (script_alignCost a b).length_le
  omega

/-- It is never worse to write one text over the other. -/
theorem alignCost_le_max (a b : List Char) : alignCost a b ≤ max a.length b.length := by
  induction a, b using alignCost.induct with
  | case1 b =>
    rw [alignCost_nil_left]
    exact le_max_right _ _
  | case2 d a =>
    rw [alignCost_nil_right]
    exact le_max_left _ _
  | case3 d a e b diagonal above left =>
    have hentry : alignCost (d :: a) (e :: b) ≤ alignCost a b + 1 := by
      rw [alignCost_cons_cons]
      exact entry_le_diagonal
    rw [List.length_cons, List.length_cons]
    omega

/-- If the two texts have no character in common, every character of the longer one takes an
edit. -/
theorem alignCost_of_disjoint (h : a.Disjoint b) : alignCost a b = max a.length b.length := by
  induction a, b using alignCost.induct with
  | case1 b =>
    rw [alignCost_nil_left, List.length_nil, Nat.zero_max]
  | case2 d a =>
    rw [alignCost_nil_right, List.length_nil, Nat.max_zero]
  | case3 d a e b diagonal above left =>
    obtain ⟨hd, ha⟩ := List.disjoint_cons_left.1 h
    obtain ⟨-, hab⟩ := List.disjoint_cons_right.1 ha
    obtain ⟨-, hdb⟩ := List.disjoint_cons_right.1 h
    have hne : d ≠ e := fun heq => hd (heq ▸ List.mem_cons_self)
    rw [alignCost_cons_cons, diagonal hab, above ha, left hdb, entry, if_neg hne]
    simp only [List.length_cons]
    omega

theorem editDistance_eq_alignCost (a b : String) :
    editDistance a b = alignCost a.toList b.toList :=
  ofTexts_eq_alignCost a.toList b.toList

/-- The edit distance is a metric, and the lengths of two texts bound it from both sides. The upper
bound is reached by texts that have no character in common. -/
theorem editDistance_is_metric (a b c : String) :
    (editDistance a b = 0 ↔ a = b) ∧
      editDistance a b = editDistance b a ∧
      editDistance a c ≤ editDistance a b + editDistance b c ∧
      max a.length b.length - min a.length b.length ≤ editDistance a b ∧
      editDistance a b ≤ max a.length b.length ∧
      ((∀ character ∈ a.toList, character ∉ b.toList) →
        editDistance a b = max a.length b.length) := by
  simp only [editDistance_eq_alignCost, ← String.length_toList]
  refine ⟨?_, ?_, ?_, ?_, ?_, ?_⟩
  · rw [alignCost_eq_zero_iff, String.toList_inj]
  · exact alignCost_comm b.toList a.toList
  · exact alignCost_le_add a.toList b.toList c.toList
  · exact sub_le_alignCost a.toList b.toList
  · exact alignCost_le_max a.toList b.toList
  · intro hnone
    exact alignCost_of_disjoint hnone

end EditDistance

end DocSelector
