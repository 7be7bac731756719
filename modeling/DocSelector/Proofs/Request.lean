import DocSelector.Command
import DocSelector.Proofs.Ranking

/-!
# What a request for suggestions depends on

A request for suggestions names a word, candidates and flags, in any order and any number. The first
flag with a bad value decides the outcome, whatever the other arguments are. If there is none, only
the set of the candidates and the last value of each flag matter, and the run succeeds exactly when
it lists a candidate.

## Main definitions

* `SuggestOptions.IsBad`: an argument that is a flag with a bad value.
* `SuggestOptions.IsCandidate`: an argument that is no flag.
* `SuggestOptions.Flag.last?`: the count that the last of several flags sets.
* `Suggestion.Listed`: a text that lists suggestions.

## Main statements

* `SuggestOptions.ofArguments_eq_error`: the first bad flag decides the error.
* `SuggestOptions.ofArguments_eq_ok`: what arguments without bad flags come to.
* `suggest_depends_on_request`: the outcome of a request.
-/

namespace DocSelector

namespace SuggestOptions

/-- The argument is a flag, and what stands behind its equals sign is not a count. -/
def IsBad (bad : BadFlag) (argument : String) : Prop :=
  argument = bad.flag.text ++ "=" ++ bad.value ∧ Text.parseCount? bad.value.toList = none

/-- The argument is one of those given, and it is no flag. -/
def IsCandidate (arguments : List String) (argument : String) : Prop :=
  argument ∈ arguments ∧ ∀ (flag : Flag) (value : String), argument ≠ flag.text ++ "=" ++ value

/-- The count that the argument sets for the flag, if it is this flag. -/
def Flag.count? (flag : Flag) (argument : String) : Option Nat :=
  (flag.value? argument).bind fun value => Text.parseCount? value.toList

/-- The count that the last of the arguments sets for the flag. -/
def Flag.last? (flag : Flag) (arguments : List String) : Option Nat :=
  (arguments.filterMap flag.count?).getLast?

/-- The options that the arguments leave behind if none of them is a bad flag. -/
def after (options : SuggestOptions) (arguments : List String) : SuggestOptions where
  maxResults := (Flag.maxResults.last? arguments).getD options.maxResults
  threshold? := (Flag.threshold.last? arguments).or options.threshold?

/-- The arguments that are no flags. -/
def withoutFlags (arguments : List String) : List String :=
  arguments.filter fun argument => (flag? argument).isNone

variable {flag other : Flag} {argument value : String} {arguments before : List String}
  {count : Nat} {bad : BadFlag} {options : SuggestOptions}

/-! ### One argument -/

theorem value?_eq_some_iff :
    flag.value? argument = some value ↔ argument = flag.text ++ "=" ++ value := by
  rw [Flag.value?, Option.map_eq_some_iff]
  constructor
  · rintro ⟨rest, hrest, rfl⟩
    rw [List.isPrefixOf?_eq_some_iff_append_eq] at hrest
    apply String.toList_injective
    rw [← hrest, String.toList_append (s := flag.text ++ "="), String.toList_ofList]
  · rintro rfl
    refine ⟨value.toList, ?_, String.ofList_toList⟩
    rw [List.isPrefixOf?_eq_some_iff_append_eq, String.toList_append (s := flag.text ++ "=")]

/-- No argument is two flags at once. -/
theorem value?_eq_none_of_ne (h : flag.value? argument = some value) (hne : other ≠ flag) :
    other.value? argument = none := by
  rw [value?_eq_some_iff] at h
  subst h
  cases hother : other.value? (flag.text ++ "=" ++ value) with
  | none => rfl
  | some value' =>
    have heq := congrArg String.toList (value?_eq_some_iff.1 hother)
    cases flag <;> cases other <;> simp [Flag.text] at heq hne

theorem flag?_eq_some_iff :
    flag? argument = some (flag, value) ↔ flag.value? argument = some value := by
  constructor
  · intro h
    obtain ⟨other, -, hmap⟩ := List.exists_of_findSome?_eq_some h
    obtain ⟨rest, hrest, heq⟩ := Option.map_eq_some_iff.1 hmap
    cases heq
    exact hrest
  · intro h
    cases flag with
    | maxResults => simp [flag?, Flag.all, h]
    | threshold =>
      have hnone := @value?_eq_none_of_ne .threshold .maxResults _ _ h (by decide)
      simp [flag?, Flag.all, h, hnone]

theorem value?_eq_none_of_flag?_eq_none (h : flag? argument = none) :
    flag.value? argument = none := by
  cases hvalue : flag.value? argument with
  | none => rfl
  | some value =>
    rw [flag?_eq_some_iff.2 hvalue] at h
    cases h

theorem flag?_eq_none_iff :
    flag? argument = none ↔
      ∀ (flag : Flag) (value : String), argument ≠ flag.text ++ "=" ++ value := by
  constructor
  · rintro h flag value hargument
    have hvalue := @value?_eq_none_of_flag?_eq_none flag _ h
    rw [value?_eq_some_iff.2 hargument] at hvalue
    cases hvalue
  · intro h
    cases hflag : flag? argument with
    | none => rfl
    | some found =>
      obtain ⟨flag, value⟩ := found
      exact absurd (value?_eq_some_iff.1 (flag?_eq_some_iff.1 hflag)) (h flag value)

theorem withArgument?_of_isBad (h : IsBad bad argument) :
    options.withArgument? argument = .error bad := by
  have hflag := flag?_eq_some_iff.2 (value?_eq_some_iff.2 h.1)
  simp only [withArgument?, hflag, h.2]

theorem isBad_of_parseCount?_eq_none (hflag : flag? argument = some (flag, value))
    (hcount : Text.parseCount? value.toList = none) : IsBad { flag, value } argument :=
  ⟨value?_eq_some_iff.1 (flag?_eq_some_iff.1 hflag), hcount⟩

/-- Only a bad flag is refused. -/
theorem isBad_of_withArgument?_eq_error (h : options.withArgument? argument = .error bad) :
    IsBad bad argument := by
  rw [withArgument?] at h
  split at h
  · cases h
  · next flag value hflag =>
    split at h
    · next hcount =>
      cases h
      exact isBad_of_parseCount?_eq_none hflag hcount
    · cases h

/-! ### All arguments -/

theorem last?_cons :
    flag.last? (argument :: arguments) = (flag.last? arguments).or (flag.count? argument) := by
  rw [Flag.last?, Flag.last?, List.filterMap_cons]
  cases flag.count? argument with
  | none => exact Option.or_none.symm
  | some count =>
    rw [List.getLast?_cons]
    cases (arguments.filterMap flag.count?).getLast? <;> rfl

theorem after_cons_of_flag?_eq_none (h : flag? argument = none) :
    options.after (argument :: arguments) = options.after arguments := by
  have hcount (flag : Flag) : flag.count? argument = none := by
    rw [Flag.count?, value?_eq_none_of_flag?_eq_none h]
    rfl
  simp only [after, last?_cons, hcount, Option.or_none]

/-- A flag has effect only as long as no other one of its kind follows. -/
theorem after_cons_of_flag?_eq_some (hflag : flag? argument = some (flag, value))
    (hcount : Text.parseCount? value.toList = some count) :
    options.after (argument :: arguments) = (options.set count flag).after arguments := by
  rw [flag?_eq_some_iff] at hflag
  have hself : flag.count? argument = some count := by
    rw [Flag.count?, hflag]
    exact hcount
  have hother : ∀ other, other ≠ flag → other.count? argument = none := by
    intro other hne
    rw [Flag.count?, value?_eq_none_of_ne hflag hne]
    rfl
  cases flag with
  | maxResults =>
    simp only [after, set, last?_cons, hself, hother .threshold (by decide), Option.or_none]
    cases Flag.maxResults.last? arguments <;> rfl
  | threshold =>
    simp only [after, set, last?_cons, hself, hother .maxResults (by decide), Option.or_none]
    cases Flag.threshold.last? arguments <;> rfl

/-- Without bad flags, the arguments come to the last value of each flag and the arguments that are
no flags. -/
theorem ofArguments_eq_ok (h : ∀ argument ∈ arguments, ∀ bad, ¬IsBad bad argument)
    (options : SuggestOptions) :
    options.ofArguments arguments = .ok (options.after arguments, withoutFlags arguments) := by
  induction arguments generalizing options with
  | nil => rfl
  | cons argument arguments ih =>
    rw [List.forall_mem_cons] at h
    cases hflag : flag? argument with
    | none =>
      have hrest : withoutFlags (argument :: arguments) = argument :: withoutFlags arguments :=
        List.filter_cons_of_pos (by rw [hflag]; rfl)
      simp only [ofArguments, withArgument?, hflag, ih h.2]
      rw [after_cons_of_flag?_eq_none hflag, hrest]
      rfl
    | some found =>
      obtain ⟨flag, value⟩ := found
      have hrest : withoutFlags (argument :: arguments) = withoutFlags arguments :=
        List.filter_cons_of_neg (by rw [hflag]; exact Bool.false_ne_true)
      cases hcount : Text.parseCount? value.toList with
      | none => exact absurd (isBad_of_parseCount?_eq_none hflag hcount) (h.1 _)
      | some count =>
        simp only [ofArguments, withArgument?, hflag, hcount, ih h.2]
        rw [after_cons_of_flag?_eq_some hflag hcount, hrest]

/-- The first bad flag decides the error, whatever stands before it and behind it. -/
theorem ofArguments_eq_error (hbefore : ∀ other ∈ before, ∀ bad, ¬IsBad bad other)
    (hbad : IsBad bad argument) (options : SuggestOptions) :
    options.ofArguments (before ++ argument :: arguments) = .error bad := by
  induction before generalizing options with
  | nil =>
    rw [List.nil_append, ofArguments, withArgument?_of_isBad hbad]
  | cons first before ih =>
    rw [List.forall_mem_cons] at hbefore
    rw [List.cons_append, ofArguments]
    cases hfirst : options.withArgument? first with
    | error bad' => exact absurd (isBad_of_withArgument?_eq_error hfirst) (hbefore.1 bad')
    | ok options? =>
      cases options? with
      | some options => exact ih hbefore.2 options
      | none =>
        simp only [ih hbefore.2 options]
        rfl

theorem isCandidate_iff : IsCandidate arguments argument ↔ argument ∈ withoutFlags arguments := by
  rw [IsCandidate, withoutFlags, List.mem_filter, Option.isNone_iff_eq_none, flag?_eq_none_iff]

/-- Of arguments among which there is a bad flag, one is the first. -/
theorem exists_first_bad (h : ∃ argument ∈ arguments, ∃ bad, IsBad bad argument) :
    ∃ before argument after bad, arguments = before ++ argument :: after ∧ IsBad bad argument ∧
      ∀ other ∈ before, ∀ bad, ¬IsBad bad other := by
  induction arguments with
  | nil =>
    obtain ⟨argument, hmem, -⟩ := h
    cases hmem
  | cons first arguments ih =>
    by_cases hfirst : ∃ bad, IsBad bad first
    · obtain ⟨bad, hbad⟩ := hfirst
      exact ⟨[], first, arguments, bad, rfl, hbad, by simp⟩
    · obtain ⟨argument, hmem, hbad⟩ := h
      rcases List.mem_cons.1 hmem with rfl | hmem
      · exact absurd hbad hfirst
      · obtain ⟨before, argument, after, bad, rfl, hbad, hbefore⟩ := ih ⟨argument, hmem, hbad⟩
        refine ⟨first :: before, argument, after, bad, rfl, hbad, ?_⟩
        rw [List.forall_mem_cons]
        exact ⟨fun bad hbad => hfirst ⟨bad, hbad⟩, hbefore⟩

end SuggestOptions

/-! ### The list of suggestions -/

/-- The text lists the suggestions: a hint that names them all, and below it a line for each. -/
def Suggestion.Listed (suggestions : List Suggestion) (text : String) : Prop :=
  ∃ hint, hint? (suggestions.map Suggestion.candidate) = some hint ∧
    text = Text.unlines (hint :: suggestions.map Suggestion.line)

variable {name : String} {threshold count : Nat} {candidates others names : List String}
  {options : SuggestOptions} {s : Suggestion}

theorem ranked_congr (h : ∀ candidate, candidate ∈ others ↔ candidate ∈ candidates) :
    ranked name threshold count others = ranked name threshold count candidates := by
  by_cases hname : name = ""
  · rw [ranked_eq_nil (.inl hname), ranked_eq_nil (.inl hname)]
  · rw [ranked_eq_take hname, ranked_eq_take hname, Suggestion.sortedNear_congr h]

theorem candidate_mem_of_mem_ranked (h : s ∈ ranked name threshold count candidates) :
    s.candidate ∈ candidates :=
  (Suggestion.mem_sortedNear.1 (mem_sortedNear_of_mem_ranked h)).1

theorem head?_of_hint? {hint : String} (h : hint? names = some hint) :
    hint.toList.head? = some 'd' := by
  unfold hint? at h
  split at h
  · cases h
  · cases h
    simp [DocSelector.hint, toString]
  · cases h
    simp [toString]

theorem head?_unlines {c : Char} {line : String} {lines : List String}
    (h : line.toList.head? = some c) : (Text.unlines (line :: lines)).toList.head? = some c := by
  rw [Text.toList_unlines, List.flatMap_cons, List.append_assoc, List.head?_append, h]
  rfl

/-- A report of suggestions succeeds exactly if it lists a candidate. -/
theorem success_suggestionsReport :
    (suggestionsReport name candidates options).success = true ↔
      ∃ suggestions, suggestions ≠ [] ∧ (∀ s ∈ suggestions, s.candidate ∈ candidates) ∧
        Suggestion.Listed suggestions (suggestionsReport name candidates options).text := by
  rw [suggestionsReport]
  cases hnames : hint? ((ranked name (options.thresholdFor name) options.maxResults candidates).map
      Suggestion.candidate) with
  | none =>
    -- What is said then begins with another letter than a hint.
    refine ⟨nofun, ?_⟩
    rintro ⟨suggestions, -, -, hint, hhint, htext⟩
    have hhead : (Text.unlines (hint :: suggestions.map Suggestion.line)).toList.head? = some 'd' :=
      head?_unlines (head?_of_hint? hhint)
    rw [← htext, @head?_unlines 'n' _ _ (by simp [toString])] at hhead
    exact absurd hhead (by decide)
  | some hint =>
    refine ⟨fun _ => ⟨_, ?_, fun s => candidate_mem_of_mem_ranked, hint, hnames, rfl⟩, fun _ => rfl⟩
    intro hnil
    rw [hnil] at hnames
    cases hnames

theorem suggestionsReport_congr {options' : SuggestOptions}
    (hcandidates : ∀ candidate, candidate ∈ others ↔ candidate ∈ candidates)
    (hmax : options'.maxResults = options.maxResults)
    (hthreshold : options'.thresholdFor name = options.thresholdFor name) :
    suggestionsReport name others options' = suggestionsReport name candidates options := by
  simp only [suggestionsReport, hmax, hthreshold, ranked_congr hcandidates]

/-! ### The outcome -/

variable {arguments : List String} {bad : SuggestOptions.BadFlag}

theorem runCommandLine_suggest (h : arguments ≠ []) :
    runCommandLine ("suggest" :: name :: arguments) =
      match SuggestOptions.ofArguments {} arguments with
      | .ok (options, candidates) => .ofReport (suggestionsReport name candidates options)
      | .error bad => .failure (Text.unlines [toString bad]) := by
  obtain ⟨argument, arguments, rfl⟩ := List.exists_cons_of_ne_nil h
  have hparse : Command.parse ("suggest" :: name :: argument :: arguments) =
      match SuggestOptions.ofArguments {} (argument :: arguments) with
      | .ok (options, candidates) => .ok (.suggest name candidates options)
      | .error bad => .error (.badFlag bad) := rfl
  rw [runCommandLine, hparse]
  cases SuggestOptions.ofArguments {} (argument :: arguments) <;> rfl

/-- Without bad flags the outcome is the report for the arguments that are no flags. -/
theorem runCommandLine_suggest_of_good (hne : arguments ≠ [])
    (h : ∀ argument ∈ arguments, ∀ bad, ¬SuggestOptions.IsBad bad argument) :
    runCommandLine ("suggest" :: name :: arguments) =
      .ofReport (suggestionsReport name (SuggestOptions.withoutFlags arguments)
        (SuggestOptions.after {} arguments)) := by
  rw [runCommandLine_suggest hne, SuggestOptions.ofArguments_eq_ok h]

theorem thresholdFor_after :
    (SuggestOptions.after {} arguments).thresholdFor name =
      (SuggestOptions.Flag.threshold.last? arguments).getD (defaultThreshold name.length) := by
  rw [SuggestOptions.thresholdFor, SuggestOptions.after, Option.or_none]

theorem exitCode_ofReport (report : Report) :
    (Outcome.ofReport report).exitCode = 0 ↔ report.success = true := by
  rw [Outcome.ofReport]
  cases report.success <;> simp

/-- The outcome of a request for suggestions. The first bad flag decides it alone. If there is none,
nothing is written as an error, the run succeeds exactly if it lists a candidate, and another
request for the same name has the same outcome if its candidates are the same in any order and
number, and the last value of each flag is the same, or what it is without the flag. -/
theorem suggest_depends_on_request (name : String) (arguments : List String)
    (hne : arguments ≠ []) :
    ((∃ argument ∈ arguments, ∃ bad, SuggestOptions.IsBad bad argument) →
        ∃ before argument after bad, arguments = before ++ argument :: after ∧
          SuggestOptions.IsBad bad argument ∧
          (∀ other ∈ before, ∀ bad, ¬SuggestOptions.IsBad bad other) ∧
          runCommandLine ("suggest" :: name :: arguments) = {
            exitCode := 1
            output := ""
            errors := Text.unlines
              [s!"error: {bad.flag.text} expects a non-negative integer, got '{bad.value}'"] }) ∧
      ((∀ argument ∈ arguments, ∀ bad, ¬SuggestOptions.IsBad bad argument) →
        let outcome := runCommandLine ("suggest" :: name :: arguments)
        outcome.errors = "" ∧ (outcome.exitCode = 0 ∨ outcome.exitCode = 1) ∧
          (outcome.exitCode = 0 ↔
            ∃ suggestions, suggestions ≠ [] ∧
              (∀ s ∈ suggestions, SuggestOptions.IsCandidate arguments s.candidate) ∧
              Suggestion.Listed suggestions outcome.output) ∧
          ∀ others, others ≠ [] →
            (∀ argument ∈ others, ∀ bad, ¬SuggestOptions.IsBad bad argument) →
            (∀ argument, SuggestOptions.IsCandidate others argument ↔
              SuggestOptions.IsCandidate arguments argument) →
            (SuggestOptions.Flag.maxResults.last? others).getD 3 =
              (SuggestOptions.Flag.maxResults.last? arguments).getD 3 →
            (SuggestOptions.Flag.threshold.last? others).getD (defaultThreshold name.length) =
              (SuggestOptions.Flag.threshold.last? arguments).getD (defaultThreshold name.length) →
            runCommandLine ("suggest" :: name :: others) = outcome) := by
  refine ⟨fun hbad => ?_, fun hgood => ?_⟩
  · obtain ⟨before, argument, after, bad, rfl, hbad, hbefore⟩ :=
      SuggestOptions.exists_first_bad hbad
    refine ⟨before, argument, after, bad, rfl, hbad, hbefore, ?_⟩
    rw [runCommandLine_suggest hne, SuggestOptions.ofArguments_eq_error hbefore hbad]
    rfl
  · intro outcome
    have houtcome : outcome = _ := runCommandLine_suggest_of_good hne hgood
    rw [houtcome]
    refine ⟨rfl, ?_, ?_, ?_⟩
    · rw [Outcome.ofReport]
      split
      · exact .inl rfl
      · exact .inr rfl
    · simp only [SuggestOptions.isCandidate_iff]
      exact (exitCode_ofReport _).trans success_suggestionsReport
    · intro others hothers hgood' hcandidates hmax hthreshold
      simp only [SuggestOptions.isCandidate_iff] at hcandidates
      rw [← thresholdFor_after, ← thresholdFor_after] at hthreshold
      rw [runCommandLine_suggest_of_good hothers hgood',
        suggestionsReport_congr hcandidates hmax hthreshold]

theorem SuggestOptions.forall_not_isBad {arguments : List String}
    (h : (arguments.all fun argument => (SuggestOptions.withArgument? {} argument).isOk) = true) :
    ∀ argument ∈ arguments, ∀ bad, ¬SuggestOptions.IsBad bad argument := by
  intro argument hmem bad hbad
  have hok := List.all_eq_true.1 h argument hmem
  rw [withArgument?_of_isBad hbad] at hok
  cases hok

/-- A bad flag behind a good one and in front of another bad one; and two requests with the same
candidates and the same last flags. -/
theorem suggest_depends_on_request_mixed :
    (["--max=1", "into", "--max=-1", "--threshold="] ≠ [] ∧
      (∃ argument ∈ ["--max=1", "into", "--max=-1", "--threshold="],
        ∃ bad, SuggestOptions.IsBad bad argument) ∧
      ∃ before argument after bad,
        ["--max=1", "into", "--max=-1", "--threshold="] = before ++ argument :: after ∧
          SuggestOptions.IsBad bad argument ∧
          (∀ other ∈ before, ∀ bad, ¬SuggestOptions.IsBad bad other) ∧
          runCommandLine ["suggest", "intro", "--max=1", "into", "--max=-1", "--threshold="] = {
            exitCode := 1
            output := ""
            errors := Text.unlines
              [s!"error: {bad.flag.text} expects a non-negative integer, got '{bad.value}'"] }) ∧
    ["into", "outro", "into", "--threshold=2"] ≠ [] ∧
      runCommandLine ["suggest", "intro", "outro", "--threshold=9", "--max=3", "into",
          "--threshold=+02"] =
        runCommandLine ["suggest", "intro", "into", "outro", "into", "--threshold=2"] := by
  have hbad : ∃ argument ∈ ["--max=1", "into", "--max=-1", "--threshold="],
      ∃ bad, SuggestOptions.IsBad bad argument :=
    ⟨"--threshold=", by decide, { flag := .threshold, value := "" }, by decide, by decide⟩
  refine ⟨⟨by decide, hbad, (suggest_depends_on_request "intro" _ (by decide)).1 hbad⟩,
    by decide, ?_⟩
  refine ((suggest_depends_on_request "intro" _ (by decide)).2
    (SuggestOptions.forall_not_isBad (by decide))).2.2.2 _ (by decide)
    (SuggestOptions.forall_not_isBad (by decide)) ?_ (by decide) (by decide)
  intro argument
  have hleft : SuggestOptions.withoutFlags ["outro", "--threshold=9", "--max=3", "into",
      "--threshold=+02"] = ["outro", "into"] := by decide
  have hright : SuggestOptions.withoutFlags ["into", "outro", "into", "--threshold=2"] =
      ["into", "outro", "into"] := by decide
  rw [SuggestOptions.isCandidate_iff, SuggestOptions.isCandidate_iff, hleft, hright]
  grind

end DocSelector
