import DocSelector.Proofs.Metric
import DocSelector.Proofs.Nearest

/-!
# What near names have in common

Names that are near to one another look alike, and how they do can be said without distances.

A name and a text that has no character in common with it are as far apart as the longer one is
long. The default threshold stays below the length of every name of two characters or more, so
whatever is offered for such a name shares a character with it.

Two texts at distance one differ in one place: between a common beginning and a common end each of
them has one character at most. Texts that look like one name mistyped differ like this, or in the
case of letters only.

## Main definitions

* `SameLetter`: characters that differ in the case of an ASCII letter at most.
* `DifferInOnePlace`: texts that are equal but for one character at one place.

## Main statements

* `exists_common_of_editDistance_lt`: names nearer than they are long have a character in common.
* `default_suggestions_share_character`: what is offered within the default threshold.
* `EditDistance.alignCost_eq_one_iff`, `editDistance_eq_one_iff`: distance one.
* `isLikelyTypo_iff_case_or_one_place`: what makes two texts look like one name mistyped.
-/

namespace DocSelector

/-! ### Common characters -/

section

variable {name candidate : String} {threshold count : Nat} {candidates : List String}
  {s : Suggestion}

/-- A candidate that is nearer to the name than the name is long has a character of the name. -/
theorem exists_common_of_editDistance_lt (h : editDistance name candidate < name.length) :
    ∃ c ∈ name.toList, c ∈ candidate.toList := by
  by_contra hnone
  have hdisjoint : name.toList.Disjoint candidate.toList := by
    intro c hname hcandidate
    exact hnone ⟨c, hname, hcandidate⟩
  have hdistance := EditDistance.alignCost_of_disjoint hdisjoint
  rw [← EditDistance.editDistance_eq_alignCost, String.length_toList, String.length_toList]
    at hdistance
  omega

/-- A name of two characters is allowed a single edit, and a longer one half its length at most,
rounded up. -/
theorem defaultThreshold_lt {length : Nat} (h : 2 ≤ length) : defaultThreshold length < length := by
  unfold defaultThreshold
  split_ifs <;> omega

theorem editDistance_le_of_mem_ranked (h : s ∈ ranked name threshold count candidates) :
    editDistance name s.candidate ≤ threshold := by
  obtain ⟨-, hdistance, hle⟩ := Suggestion.mem_sortedNear.1 (mem_sortedNear_of_mem_ranked h)
  omega

/-- What is within the default threshold of a name of two characters or more shares a character with
it, so it is not empty. -/
theorem share_of_le_defaultThreshold (hname : 2 ≤ name.length)
    (h : editDistance name candidate ≤ defaultThreshold name.length) :
    (∃ c ∈ name.toList, c ∈ candidate.toList) ∧ candidate ≠ "" := by
  have hshare := exists_common_of_editDistance_lt (h.trans_lt (defaultThreshold_lt hname))
  refine ⟨hshare, ?_⟩
  rintro rfl
  obtain ⟨c, -, hc⟩ := hshare
  cases hc

end

/-- Every suggestion for a name of two characters or more within the default threshold, the nearest
one and each of a ranking, has a character in common with the name. The empty text is never
offered. -/
theorem default_suggestions_share_character (name : String) (candidates : List String)
    (hname : 2 ≤ name.length) :
    (∀ best, suggest? name candidates = some best →
        (∃ c ∈ name.toList, c ∈ best.toList) ∧ best ≠ "") ∧
      ∀ count, ∀ s ∈ ranked name (defaultThreshold name.length) count candidates,
        (∃ c ∈ name.toList, c ∈ s.candidate.toList) ∧ s.candidate ≠ "" := by
  refine ⟨?_, ?_⟩
  · intro best hbest
    obtain ⟨-, hnear, -⟩ := firstNearest_of_closest? hbest
    exact share_of_le_defaultThreshold hname hnear
  · intro count s hs
    exact share_of_le_defaultThreshold hname (editDistance_le_of_mem_ranked hs)

/-- With two characters a single edit leaves one of them, in a candidate as long as the name and in
a shorter one. -/
theorem default_suggestions_share_character_two :
    2 ≤ "h2".length ∧ suggest? "h2" ["", "b7", "2", "h3"] = some "2" ∧
      ((∃ c ∈ "h2".toList, c ∈ "2".toList) ∧ "2" ≠ "") ∧
      { distance := 1, candidate := "h3" } ∈
        ranked "h2" (defaultThreshold 2) 3 ["", "b7", "2", "h3"] ∧
      ((∃ c ∈ "h2".toList, c ∈ "h3".toList) ∧ "h3" ≠ "") := by
  have hlength : 2 ≤ "h2".length := by decide
  have hbest : suggest? "h2" ["", "b7", "2", "h3"] = some "2" := by decide +kernel
  have hranked : { distance := 1, candidate := "h3" } ∈
      ranked "h2" (defaultThreshold 2) 3 ["", "b7", "2", "h3"] := by
    rw [mem_ranked_iff (by decide)]
    decide +kernel
  have hshare := default_suggestions_share_character "h2" ["", "b7", "2", "h3"] hlength
  exact ⟨hlength, hbest, hshare.1 "2" hbest, hranked, hshare.2 3 _ hranked⟩

/-- For a name of one character a single edit leaves nothing. -/
example : suggest? "a" ["b"] = some "b" ∧ suggest? "a" [""] = some "" := by
  constructor <;> decide +kernel

/-! ### Characters that differ in case -/

/-- The two characters are the same, or one is a capital letter of ASCII and the other one the small
letter that belongs to it. -/
def SameLetter (c d : Char) : Prop :=
  c = d ∨ (c.isUpper = true ∧ d.toNat = c.toNat + 32) ∨ (d.isUpper = true ∧ c.toNat = d.toNat + 32)

theorem isUpper_iff {c : Char} : c.isUpper = true ↔ 65 ≤ c.toNat ∧ c.toNat ≤ 90 := by
  have h : c.isUpper = decide (65 ≤ c.val ∧ c.val ≤ 90) := rfl
  rw [h, decide_eq_true_iff, UInt32.le_iff_toNat_le, UInt32.le_iff_toNat_le]
  rfl

theorem toNat_toLower (c : Char) :
    c.toLower.toNat = if c.isUpper = true then c.toNat + 32 else c.toNat := by
  by_cases h : c.isUpper = true
  · have hlower : c.toLower = ⟨c.val + 32, _⟩ := dif_pos (of_decide_eq_true h)
    have hle : c.val.toNat ≤ 90 := (isUpper_iff.1 h).2
    rw [if_pos h, hlower]
    show (c.val.toNat + 32) % 2 ^ 32 = c.toNat + 32
    exact Nat.mod_eq_of_lt (by omega)
  · have hlower : c.toLower = c := dif_neg (mt decide_eq_true h)
    rw [if_neg h, hlower]

theorem toLower_eq_toLower_iff {c d : Char} : c.toLower = d.toLower ↔ SameLetter c d := by
  simp only [SameLetter, ← Char.toNat_inj, toNat_toLower, isUpper_iff]
  split_ifs <;> omega

theorem equalIgnoringCase_iff {a b : String} :
    equalIgnoringCase a b = true ↔
      a.length = b.length ∧
        ∀ (i : Nat) (c d : Char), a.toList[i]? = some c → b.toList[i]? = some d →
          SameLetter c d := by
  rw [equalIgnoringCase, beq_iff_eq, ← List.forall₂_eq_eq_eq, List.forall₂_map_left_iff,
    List.forall₂_map_right_iff, List.forall₂_iff_get, ← String.length_toList,
    ← String.length_toList]
  simp only [toLower_eq_toLower_iff, List.get_eq_getElem, List.getElem?_eq_some_iff]
  apply and_congr_right
  intro hlength
  constructor
  · rintro h i _ _ ⟨ha, rfl⟩ ⟨hb, rfl⟩
    exact h i ha hb
  · intro h i ha hb
    exact h i _ _ ⟨ha, rfl⟩ ⟨hb, rfl⟩

/-! ### Distance one -/

/-- The two texts have a common beginning and a common end, and in between each of them has one
character at most, not the same. -/
def DifferInOnePlace (a b : String) : Prop :=
  ∃ before after x y : String, x.length ≤ 1 ∧ y.length ≤ 1 ∧ x ≠ y ∧
    a = before ++ x ++ after ∧ b = before ++ y ++ after

namespace EditDistance

variable {a b : List Char}

/-- One edit is enough exactly for texts that differ, and differ by an edit. -/
theorem alignCost_eq_one_iff : alignCost a b = 1 ↔ Edit a b ∧ a ≠ b := by
  constructor
  · intro h
    have hne : a ≠ b := by
      intro heq
      have hzero := alignCost_eq_zero_iff.2 heq
      omega
    have script := script_alignCost a b
    rw [h] at script
    cases script with
    | step edit rest => exact ⟨rest.eq_of_zero ▸ edit, hne⟩
  · rintro ⟨edit, hne⟩
    have hle : alignCost a b ≤ 1 := alignCost_le_of_script (.step edit (.done b))
    have hpos : alignCost a b ≠ 0 := fun hzero => hne (alignCost_eq_zero_iff.1 hzero)
    omega

theorem eq_nil_or_singleton_of_length_le_one {a : List Char} (h : a.length ≤ 1) :
    a = [] ∨ ∃ c, a = [c] := by
  rwa [Nat.le_one_iff_eq_zero_or_eq_one, List.length_eq_zero_iff, List.length_eq_one_iff] at h

/-- An edit that changes a text puts one character at most in the place of one character at most. -/
theorem edit_and_ne_iff :
    Edit a b ∧ a ≠ b ↔
      ∃ before after x y : List Char, x.length ≤ 1 ∧ y.length ≤ 1 ∧ x ≠ y ∧
        a = before ++ x ++ after ∧ b = before ++ y ++ after := by
  constructor
  · rintro ⟨edit, hne⟩
    cases edit with
    | insert before after c => exact ⟨before, after, [], [c], by simp⟩
    | delete before after c => exact ⟨before, after, [c], [], by simp⟩
    | substitute before after c d =>
      have hcd : c ≠ d := by
        rintro rfl
        exact hne rfl
      exact ⟨before, after, [c], [d], by simp [hcd]⟩
  · rintro ⟨before, after, x, y, hx, hy, hne, rfl, rfl⟩
    refine ⟨?_, fun heq => hne (List.append_cancel_left (List.append_cancel_right heq))⟩
    rcases eq_nil_or_singleton_of_length_le_one hx with rfl | ⟨c, rfl⟩
    · rcases eq_nil_or_singleton_of_length_le_one hy with rfl | ⟨d, rfl⟩
      · exact absurd rfl hne
      · simpa using Edit.insert before after d
    · rcases eq_nil_or_singleton_of_length_le_one hy with rfl | ⟨d, rfl⟩
      · simpa using Edit.delete before after c
      · simpa using Edit.substitute before after c d

end EditDistance

theorem differInOnePlace_iff {a b : String} :
    DifferInOnePlace a b ↔
      ∃ before after x y : List Char, x.length ≤ 1 ∧ y.length ≤ 1 ∧ x ≠ y ∧
        a.toList = before ++ x ++ after ∧ b.toList = before ++ y ++ after := by
  constructor
  · rintro ⟨before, after, x, y, hx, hy, hne, rfl, rfl⟩
    refine ⟨before.toList, after.toList, x.toList, y.toList, ?_, ?_, ?_, ?_, ?_⟩
    · rwa [String.length_toList]
    · rwa [String.length_toList]
    · rwa [ne_eq, String.toList_inj]
    · rw [String.toList_append, String.toList_append]
    · rw [String.toList_append, String.toList_append]
  · rintro ⟨before, after, x, y, hx, hy, hne, ha, hb⟩
    refine ⟨.ofList before, .ofList after, .ofList x, .ofList y, ?_, ?_, ?_, ?_, ?_⟩
    · rwa [String.length_ofList]
    · rwa [String.length_ofList]
    · rwa [ne_eq, String.ofList_inj]
    · rw [← String.ofList_append, ← String.ofList_append, ← ha, String.ofList_toList]
    · rw [← String.ofList_append, ← String.ofList_append, ← hb, String.ofList_toList]

theorem editDistance_eq_one_iff {a b : String} :
    editDistance a b = 1 ↔ DifferInOnePlace a b := by
  rw [EditDistance.editDistance_eq_alignCost, EditDistance.alignCost_eq_one_iff,
    EditDistance.edit_and_ne_iff, differInOnePlace_iff]

/-- Two texts look like one name mistyped exactly if they are equally long and have the same letters
at every place, whatever the case of those, or if they differ in one place: between a common
beginning and a common end each of them has one character at most, not the same. -/
theorem isLikelyTypo_iff_case_or_one_place (a b : String) :
    isLikelyTypo a b = true ↔
      (a.length = b.length ∧
        ∀ (i : Nat) (c d : Char), a.toList[i]? = some c → b.toList[i]? = some d → SameLetter c d) ∨
      DifferInOnePlace a b := by
  rw [isLikelyTypo, Bool.or_eq_true, beq_iff_eq, equalIgnoringCase_iff, editDistance_eq_one_iff]

/-- Any number of letters may differ in case, but two letters that change places are two edits. -/
example :
    isLikelyTypo "INTRO" "intro" = true ∧ isLikelyTypo "intro" "into" = true ∧
      isLikelyTypo "haeding" "heading" = false := by
  refine ⟨?_, ?_, ?_⟩ <;> decide +kernel

end DocSelector
