import DocSelector.EditDistance

/-!
# Suggestions

When a name is not known, the known names nearest to it by edit distance are offered in its place.
How far a suggestion may be from the name depends on the length of the name, unless a threshold is
given.

## Main definitions

* `defaultThreshold`: the distance allowed for a name of a given length.
* `Suggestion`: a candidate and its distance from the name.
* `closest?`: the best candidate, the earliest of several.
* `ranked`: the best candidates in order, each once.
* `isLikelyTypo`: whether two names differ by a slip of the pen.
* `hint`, `hint?`: one suggestion and several, put into words.

## Design notes

Two names whose lengths differ by more than the threshold are further apart than the threshold, so
their distance is not computed.
-/

namespace DocSelector

/-- The distance that is allowed for a name of `length` characters. Short names are allowed a single
edit, so that they are not offered for one another at random. -/
def defaultThreshold (length : Nat) : Nat :=
  if length = 0 then 0
  else if length ≤ 2 then 1
  else if length ≤ 5 then 2
  else if length ≤ 10 then 3
  else min (length / 2) 5

/-- A candidate for a name, with its distance from the name. -/
structure Suggestion where
  distance : Nat
  candidate : String
deriving DecidableEq, Repr

namespace Suggestion

/-- The difference of the lengths of two names, whichever is the longer. -/
def lengthGap (a b : String) : Nat := (a.length - b.length) + (b.length - a.length)

/-- The candidate as a suggestion for `name`, if it is near enough. -/
def ofCandidate? (name : String) (threshold : Nat) (candidate : String) : Option Suggestion :=
  if threshold < lengthGap name candidate then none
  else
    let distance := editDistance name candidate
    if distance ≤ threshold then some { distance, candidate } else none

/-- The better of the best suggestion so far and the next one. A later suggestion has to be nearer
to replace an earlier one. -/
def better (best? : Option Suggestion) (next : Suggestion) : Option Suggestion :=
  match best? with
  | none => some next
  | some best => if next.distance < best.distance then some next else some best

/-- Whether `s` comes before `t` in a ranking, or with it: by distance, and at equal distance in the
order of the code points of the candidates. -/
def precedes (s t : Suggestion) : Bool :=
  s.distance < t.distance || (s.distance == t.distance && s.candidate ≤ t.candidate)

end Suggestion

/-- The candidate nearest to `name` within the threshold; the earliest one if several are equally
near. Nothing is near to the empty name. -/
def closest? (name : String) (threshold : Nat) (candidates : List String) : Option String :=
  if name.isEmpty then none
  else
    (candidates.filterMap (Suggestion.ofCandidate? name threshold)).foldl Suggestion.better none
      |>.map Suggestion.candidate

/-- The candidate nearest to `name` within the default threshold for its length. -/
def suggest? (name : String) (candidates : List String) : Option String :=
  closest? name (defaultThreshold name.length) candidates

/-- The candidates within the threshold, nearest first and in the order of their code points at
equal distance, each of them once, and no more than `count`. There are none for the empty name. -/
def ranked (name : String) (threshold count : Nat) (candidates : List String) : List Suggestion :=
  if name.isEmpty || count == 0 then []
  else
    -- Repetitions stand side by side once the suggestions are sorted.
    (((candidates.filterMap (Suggestion.ofCandidate? name threshold)).mergeSort
      Suggestion.precedes).eraseRepsBy fun s t => s.candidate == t.candidate).take count

/-- Whether two names are the same but for the case of ASCII letters. -/
def equalIgnoringCase (a b : String) : Bool :=
  a.toList.map Char.toLower == b.toList.map Char.toLower

/-- Whether `a` and `b` look like one name that was mistyped: they differ in the case of ASCII
letters only, or by a single edit. -/
def isLikelyTypo (a b : String) : Bool :=
  equalIgnoringCase a b || editDistance a b == 1

def hint (candidate : String) : String := s!"did you mean `{candidate}`?"

/-- The suggestions in words, if there are any. -/
def hint? : List String → Option String
  | [] => none
  | [only] => some (hint only)
  | several =>
    let names := ", ".intercalate (several.map fun name => s!"`{name}`")
    some s!"did you mean one of {names}?"

theorem Suggestion.ofCandidate?_eq_some_iff {name candidate : String} {threshold : Nat}
    {s : Suggestion} :
    Suggestion.ofCandidate? name threshold candidate = some s ↔
      s = { distance := editDistance name candidate, candidate } ∧
        editDistance name candidate ≤ threshold ∧ lengthGap name candidate ≤ threshold := by
  simp only [ofCandidate?]
  split
  · simp only [reduceCtorEq, false_iff]; omega
  · split
    · simp only [Option.some.injEq, eq_comm (a := s)]; grind
    · simp only [reduceCtorEq, false_iff]; omega

end DocSelector
