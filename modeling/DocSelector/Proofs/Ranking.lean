import DocSelector.Proofs.EditScript
import DocSelector.Suggestion
import Mathlib.Data.Finset.Card
import Mathlib.Data.List.Sort
import Mathlib.Data.Prod.Lex
import Mathlib.Data.String.Basic

/-!
# The best candidates for a name

The ranking of the candidates for a name is made in four steps: those whose length alone rules them
out are left aside, the others that are near enough are sorted, repetitions that the sorting brings
together are dropped, and the list is cut off. What comes out can be said without the steps. It is
strictly increasing, and a candidate is in it if it is near enough and fewer candidates than asked
for come before it. So neither the order of the candidates matters nor how often one of them occurs.

## Main definitions

* `Suggestion.Before`: the order of a ranking, without ties.
* `Suggestion.rivals`: the candidates within the threshold that come before a suggestion.

## Main statements

* `Suggestion.lengthGap_le_editDistance`: no candidate is left aside that is near enough.
* `pairwise_eraseRepsBy`, `mem_take_iff_countP_lt`: what dropping repetitions makes of a sorted
  list, and what cutting it off leaves.
* `ranked_holds_the_best`: the ranking told from the candidates.
-/

namespace DocSelector

namespace Suggestion

/-- Whether `s` comes before `t` in a ranking: by distance, and at equal distance in the order of
the code points of the candidates. -/
def Before (s t : Suggestion) : Prop :=
  s.distance < t.distance ∨ s.distance = t.distance ∧ s.candidate < t.candidate

instance (s t : Suggestion) : Decidable (Before s t) :=
  inferInstanceAs (Decidable (_ ∨ _))

/-- The candidates within the threshold, each counted once, that come before `s`. -/
def rivals (name : String) (threshold : Nat) (candidates : List String) (s : Suggestion) :
    Finset String :=
  candidates.toFinset.filter fun candidate =>
    editDistance name candidate ≤ threshold ∧
      Before { distance := editDistance name candidate, candidate } s

variable {s t u : Suggestion} {name : String} {threshold : Nat} {candidates : List String}

/-! ### The order of a ranking -/

/-- A suggestion as a pair, in which the distance comes first. -/
def key (s : Suggestion) : ℕ ×ₗ String := toLex (s.distance, s.candidate)

theorem key_injective : Function.Injective key := by
  intro s t h
  cases s
  cases t
  cases toLex.injective h
  rfl

theorem before_iff : Before s t ↔ s.key < t.key := by
  rw [key, key, Prod.Lex.toLex_lt_toLex]
  rfl

theorem precedes_iff : precedes s t = true ↔ s.key ≤ t.key := by
  rw [key, key, Prod.Lex.toLex_le_toLex, precedes, Bool.or_eq_true, Bool.and_eq_true,
    decide_eq_true_eq, beq_iff_eq, decide_eq_true_eq]

theorem Before.asymm (h : Before s t) : ¬Before t s := by
  rw [before_iff] at h ⊢
  exact lt_asymm h

instance : Std.Irrefl Before where
  irrefl _ h := h.asymm h

instance : Std.Antisymm Before where
  antisymm _ _ h h' := absurd h' h.asymm

theorem before_of_precedes_of_ne (h : precedes s t = true) (hne : s ≠ t) : Before s t :=
  before_iff.2 (lt_of_le_of_ne (precedes_iff.1 h) (key_injective.ne hne))

theorem Before.trans_precedes (h : Before s t) (hle : precedes t u = true) : Before s u :=
  before_iff.2 (lt_of_lt_of_le (before_iff.1 h) (precedes_iff.1 hle))

theorem pairwise_mergeSort_precedes (l : List Suggestion) :
    (l.mergeSort precedes).Pairwise fun s t => precedes s t = true := by
  apply List.pairwise_mergeSort
  · intro s t u hst htu
    exact precedes_iff.2 ((precedes_iff.1 hst).trans (precedes_iff.1 htu))
  · intro s t
    rw [Bool.or_eq_true, precedes_iff, precedes_iff]
    exact le_total s.key t.key

/-! ### The candidates that are near enough -/

/-- A candidate that is left aside for its length is too far from the name. -/
theorem lengthGap_le_editDistance (a b : String) : lengthGap a b ≤ editDistance a b := by
  have h := (EditDistance.script_alignCost a.toList b.toList).length_le
  rw [← EditDistance.ofTexts_eq_alignCost, ← editDistance, String.length_toList,
    String.length_toList] at h
  rw [lengthGap]
  omega

theorem mem_filterMap_ofCandidate? :
    s ∈ candidates.filterMap (ofCandidate? name threshold) ↔
      s.candidate ∈ candidates ∧ s.distance = editDistance name s.candidate ∧
        s.distance ≤ threshold := by
  simp only [List.mem_filterMap, ofCandidate?_eq_some_iff]
  constructor
  · rintro ⟨candidate, hmem, rfl, hle, -⟩
    exact ⟨hmem, rfl, hle⟩
  · rintro ⟨hmem, hdistance, hle⟩
    have hgap := lengthGap_le_editDistance name s.candidate
    rw [← hdistance] at hgap
    refine ⟨s.candidate, hmem, ?_, by rwa [← hdistance], hgap.trans hle⟩
    rw [← hdistance]

/-- The distance of a suggestion is told by its candidate. -/
theorem eq_of_candidate_eq (hs : s ∈ candidates.filterMap (ofCandidate? name threshold))
    (ht : t ∈ candidates.filterMap (ofCandidate? name threshold)) (h : s.candidate = t.candidate) :
    s = t := by
  have hdistance : s.distance = t.distance := by
    rw [(mem_filterMap_ofCandidate?.1 hs).2.1, (mem_filterMap_ofCandidate?.1 ht).2.1, h]
  exact key_injective (congrArg toLex (Prod.ext hdistance h))

end Suggestion

/-! ### Lists without repetitions -/

section EraseReps

variable {α : Type} {same : α → α → Bool} {a b : α} {l : List α}

theorem eraseRepsBy_loop (a : α) (l acc : List α) :
    List.eraseRepsBy.loop same a l acc = acc.reverse ++ List.eraseRepsBy.loop same a l [] := by
  induction l generalizing a acc with
  | nil => simp [List.eraseRepsBy.loop]
  | cons b l ih =>
    simp only [List.eraseRepsBy.loop]
    split
    · exact ih a acc
    · rw [ih b (a :: acc), ih b [a]]
      simp

theorem eraseRepsBy_cons_cons_of_same (h : same a b = true) :
    (a :: b :: l).eraseRepsBy same = (a :: l).eraseRepsBy same := by
  simp [List.eraseRepsBy, List.eraseRepsBy.loop, h]

theorem eraseRepsBy_cons_cons_of_not_same (h : same a b = false) :
    (a :: b :: l).eraseRepsBy same = a :: (b :: l).eraseRepsBy same := by
  rw [List.eraseRepsBy, List.eraseRepsBy.loop, h]
  exact eraseRepsBy_loop b l [a]

theorem mem_eraseRepsBy {x : α} (hsame : ∀ a ∈ l, ∀ b ∈ l, same a b = true → a = b) :
    x ∈ l.eraseRepsBy same ↔ x ∈ l := by
  induction l with
  | nil => rfl
  | cons a l ih =>
    have ih := ih fun b hb c hc => hsame b (List.mem_cons_of_mem _ hb) c (List.mem_cons_of_mem _ hc)
    cases l with
    | nil => rfl
    | cons b l =>
      cases h : same a b with
      | true =>
        have hab : a = b := hsame a List.mem_cons_self b (by simp) h
        subst hab
        rw [eraseRepsBy_cons_cons_of_same h, ih]
        simp
      | false =>
        rw [eraseRepsBy_cons_cons_of_not_same h, List.mem_cons, ih]
        exact List.mem_cons.symm

/-- In a sorted list equal elements stand together, so what is left is strictly sorted. -/
theorem pairwise_eraseRepsBy {r r' : α → α → Prop}
    (hsame : ∀ a ∈ l, ∀ b ∈ l, same a b = true ↔ a = b) (hstrict : ∀ a b, r a b → a ≠ b → r' a b)
    (htrans : ∀ a b c, r' a b → r b c → r' a c) (h : l.Pairwise r) :
    (l.eraseRepsBy same).Pairwise r' := by
  induction l with
  | nil => exact .nil
  | cons a l ih =>
    have htell : ∀ b ∈ l, ∀ c ∈ l, same b c = true ↔ b = c := fun b hb c hc =>
      hsame b (List.mem_cons_of_mem _ hb) c (List.mem_cons_of_mem _ hc)
    cases l with
    | nil => exact List.pairwise_singleton r' a
    | cons b l =>
      obtain ⟨hfirst, htail⟩ := List.pairwise_cons.1 h
      have hab := hsame a List.mem_cons_self b (by simp)
      cases hsameab : same a b with
      | true =>
        obtain rfl := hab.1 hsameab
        rw [eraseRepsBy_cons_cons_of_same hsameab]
        exact ih htell htail
      | false =>
        rw [eraseRepsBy_cons_cons_of_not_same hsameab]
        refine List.pairwise_cons.2 ⟨fun x hx => ?_, ih htell htail⟩
        have hne : a ≠ b := fun heq => Bool.false_ne_true (hsameab.symm.trans (hab.2 heq))
        have hb : r' a b := hstrict a b (hfirst b List.mem_cons_self) hne
        rw [mem_eraseRepsBy fun b hb c hc => (htell b hb c hc).1] at hx
        rcases List.mem_cons.1 hx with rfl | hx
        · exact hb
        · exact htrans a b x hb ((List.pairwise_cons.1 htail).1 x hx)

end EraseReps

/-- What is left of a strictly sorted list when it is cut off: the elements before which fewer
others stand than are left. -/
theorem mem_take_iff_countP_lt {α : Type} {r : α → α → Prop} [DecidableRel r] {l : List α} {x : α}
    {n : Nat} (hasymm : ∀ a b, r a b → ¬r b a) (h : l.Pairwise r) :
    x ∈ l.take n ↔ x ∈ l ∧ l.countP (fun y => r y x) < n := by
  induction l generalizing n with
  | nil => simp
  | cons a l ih =>
    obtain ⟨hfirst, htail⟩ := List.pairwise_cons.1 h
    cases n with
    | zero => simp
    | succ n =>
      rw [List.take_succ_cons, List.mem_cons, List.mem_cons, ih htail]
      by_cases hx : x = a
      · subst hx
        have hzero : (x :: l).countP (fun y => r y x) = 0 := by
          rw [List.countP_eq_zero]
          intro y hy
          rw [decide_eq_true_eq]
          rcases List.mem_cons.1 hy with rfl | hy
          · exact fun h => hasymm y y h h
          · exact hasymm x y (hfirst y hy)
        simp [hzero]
      · simp only [hx, false_or]
        refine and_congr_right fun hmem => ?_
        rw [List.countP_cons, if_pos (decide_eq_true (hfirst x hmem))]
        omega

/-! ### The ranking -/

namespace Suggestion

/-- The candidates within the threshold as suggestions, sorted and each of them once. -/
def sortedNear (name : String) (threshold : Nat) (candidates : List String) : List Suggestion :=
  ((candidates.filterMap (ofCandidate? name threshold)).mergeSort precedes).eraseRepsBy
    fun s t => s.candidate == t.candidate

variable {s t : Suggestion} {name : String} {threshold count : Nat}
  {candidates others : List String}

theorem same_candidate_iff :
    ∀ s ∈ (candidates.filterMap (ofCandidate? name threshold)).mergeSort precedes,
      ∀ t ∈ (candidates.filterMap (ofCandidate? name threshold)).mergeSort precedes,
        (s.candidate == t.candidate) = true ↔ s = t := by
  intro s hs t ht
  rw [List.mem_mergeSort] at hs ht
  rw [beq_iff_eq]
  exact ⟨eq_of_candidate_eq hs ht, congrArg candidate⟩

theorem mem_sortedNear :
    s ∈ sortedNear name threshold candidates ↔
      s.candidate ∈ candidates ∧ s.distance = editDistance name s.candidate ∧
        s.distance ≤ threshold := by
  rw [sortedNear, mem_eraseRepsBy fun s hs t ht => (same_candidate_iff s hs t ht).1,
    List.mem_mergeSort, mem_filterMap_ofCandidate?]

theorem pairwise_sortedNear : (sortedNear name threshold candidates).Pairwise Before :=
  pairwise_eraseRepsBy same_candidate_iff (fun _ _ => before_of_precedes_of_ne)
    (fun _ _ _ => Before.trans_precedes) (pairwise_mergeSort_precedes _)

theorem nodup_candidates_sortedNear :
    ((sortedNear name threshold candidates).map candidate).Nodup := by
  apply pairwise_sortedNear.nodup.map_on
  intro s hs t ht
  apply eq_of_candidate_eq
  · exact mem_filterMap_ofCandidate?.2 (mem_sortedNear.1 hs)
  · exact mem_filterMap_ofCandidate?.2 (mem_sortedNear.1 ht)

theorem mem_rivals {c : String} :
    c ∈ s.rivals name threshold candidates ↔
      ∃ t ∈ sortedNear name threshold candidates, Before t s ∧ t.candidate = c := by
  rw [rivals, Finset.mem_filter, List.mem_toFinset]
  constructor
  · rintro ⟨hmem, hle, hbefore⟩
    exact ⟨_, mem_sortedNear.2 ⟨hmem, rfl, hle⟩, hbefore, rfl⟩
  · rintro ⟨t, ht, hbefore, rfl⟩
    obtain ⟨hmem, hdistance, hle⟩ := mem_sortedNear.1 ht
    rw [← hdistance]
    exact ⟨hmem, hle, hbefore⟩

/-- As many suggestions stand before `s` in the sorted list as it has rivals. -/
theorem countP_sortedNear :
    (sortedNear name threshold candidates).countP (fun t => Before t s) =
      (s.rivals name threshold candidates).card := by
  have hrivals : s.rivals name threshold candidates =
      (((sortedNear name threshold candidates).filter fun t => Before t s).map
        candidate).toFinset := by
    ext c
    simp [mem_rivals, and_assoc]
  have hnodup : (((sortedNear name threshold candidates).filter fun t => Before t s).map
      candidate).Nodup :=
    nodup_candidates_sortedNear.sublist (List.filter_sublist.map candidate)
  rw [List.countP_eq_length_filter, hrivals, List.toFinset_card_of_nodup hnodup, List.length_map]

theorem sortedNear_congr (h : ∀ candidate, candidate ∈ others ↔ candidate ∈ candidates) :
    sortedNear name threshold others = sortedNear name threshold candidates := by
  apply pairwise_sortedNear.eq_of_mem_iff pairwise_sortedNear
  intro s
  rw [mem_sortedNear, mem_sortedNear, h]

end Suggestion

theorem ranked_eq_nil {name : String} {threshold count : Nat} {candidates : List String}
    (h : name = "" ∨ count = 0) : ranked name threshold count candidates = [] := by
  rw [ranked, if_pos]
  simpa [String.isEmpty_iff] using h

theorem ranked_eq_take {name : String} (hname : name ≠ "") (threshold count : Nat)
    (candidates : List String) :
    ranked name threshold count candidates =
      (Suggestion.sortedNear name threshold candidates).take count := by
  by_cases hcount : count = 0
  · rw [ranked_eq_nil (.inr hcount), hcount, List.take_zero]
  · rw [ranked, if_neg]
    · rfl
    · simp [String.isEmpty_iff, hname, hcount]

theorem mem_sortedNear_of_mem_ranked {name : String} {threshold count : Nat}
    {candidates : List String} {s : Suggestion} (h : s ∈ ranked name threshold count candidates) :
    s ∈ Suggestion.sortedNear name threshold candidates := by
  by_cases hname : name = ""
  · rw [ranked_eq_nil (.inl hname)] at h
    cases h
  · rw [ranked_eq_take hname] at h
    exact List.mem_of_mem_take h

/-- A suggestion is in a ranking if it has fewer rivals than suggestions are asked for. -/
theorem mem_ranked_iff {name : String} (hname : name ≠ "") {threshold count : Nat}
    {candidates : List String} {s : Suggestion} :
    s ∈ ranked name threshold count candidates ↔
      s.candidate ∈ candidates ∧ s.distance = editDistance name s.candidate ∧
        s.distance ≤ threshold ∧ (s.rivals name threshold candidates).card < count := by
  rw [ranked_eq_take hname,
    mem_take_iff_countP_lt (fun _ _ => Suggestion.Before.asymm) Suggestion.pairwise_sortedNear,
    Suggestion.mem_sortedNear, Suggestion.countP_sortedNear, and_assoc, and_assoc]

/-- The ranking of the candidates for a name, told from the candidates. It is strictly increasing
and names no candidate twice. A candidate is in it, with its distance, if it is near enough and has
fewer rivals than suggestions are asked for; there are none for the empty name. Neither the order of
the candidates nor their repetitions matter. -/
theorem ranked_holds_the_best (name : String) (threshold count : Nat) (candidates : List String) :
    (name = "" ∨ count = 0 → ranked name threshold count candidates = []) ∧
      (ranked name threshold count candidates).Pairwise Suggestion.Before ∧
      ((ranked name threshold count candidates).map Suggestion.candidate).Nodup ∧
      (∀ s, s ∈ ranked name threshold count candidates ↔
        name ≠ "" ∧ s.candidate ∈ candidates ∧ s.distance = editDistance name s.candidate ∧
          s.distance ≤ threshold ∧ (s.rivals name threshold candidates).card < count) ∧
      ∀ others : List String, (∀ candidate, candidate ∈ others ↔ candidate ∈ candidates) →
        ranked name threshold count others = ranked name threshold count candidates := by
  refine ⟨ranked_eq_nil, ?_⟩
  by_cases hname : name = ""
  · subst hname
    have hnil (l : List String) : ranked "" threshold count l = [] := ranked_eq_nil (.inl rfl)
    simp [hnil]
  · refine ⟨?_, ?_, ?_, ?_⟩
    · rw [ranked_eq_take hname]
      exact Suggestion.pairwise_sortedNear.sublist (List.take_sublist _ _)
    · rw [ranked_eq_take hname]
      exact Suggestion.nodup_candidates_sortedNear.sublist ((List.take_sublist _ _).map _)
    · intro s
      rw [mem_ranked_iff hname, and_iff_right hname]
    · intro others hothers
      rw [ranked_eq_take hname, ranked_eq_take hname, Suggestion.sortedNear_congr hothers]

/-- A candidate that occurs twice takes up one place of the two. -/
theorem ranked_holds_the_best_repeated :
    (∀ candidate, candidate ∈ ["into", "outro", "into"] ↔ candidate ∈ ["outro", "into"]) ∧
      ranked "intro" 2 2 ["into", "outro", "into"] = ranked "intro" 2 2 ["outro", "into"] := by
  have hsame : ∀ candidate,
      candidate ∈ ["into", "outro", "into"] ↔ candidate ∈ ["outro", "into"] := by
    simp only [List.mem_cons, List.not_mem_nil]
    grind
  exact ⟨hsame, (ranked_holds_the_best "intro" 2 2 ["outro", "into"]).2.2.2.2 _ hsame⟩

example :
    ranked "ab" 1 2 ["ac", "abc", "aa", "aa"] =
      [{ distance := 1, candidate := "aa" }, { distance := 1, candidate := "abc" }] := by
  cbv

end DocSelector
