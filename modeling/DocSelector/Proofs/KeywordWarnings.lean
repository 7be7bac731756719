import DocSelector.Proofs.Agreement
import DocSelector.Proofs.Coverage
import DocSelector.Proofs.Grammar
import DocSelector.Proofs.Metric
import DocSelector.Proofs.Nearest

/-!
# Which words are warned of

A check of a selector that can be read warns of words that look like a misspelt keyword. The trivia
are dropped before any two tokens are looked at side by side, so blanks and line feeds between a
word and its colon neither hide a warning nor lead to one. Told by the tokens of the selector,
trivia included, there is one warning for each word that is due one, in the order of the words. It
offers the first of the nearest keywords. As the scan has read the word as a name, that is another
word.

## Main definitions

* `KeywordWarning.BeforeColon`: a word with a single colon behind it.
* `KeywordWarning.NearKeyword`: a name that may be a misspelt keyword.
* `KeywordWarning.WarnsOf`: what a warning says about a word.
* `KeywordWarning.dueTo?`, `KeywordWarning.places`: the warnings token by token, and their places.

## Main statements

* `keywordWarnings_eq_filterMap`: the warnings are found token by token.
* `KeywordWarning.mem_places_iff`: where a warning is due.
* `exists_word_of_mem_tokenize`: the names of a selector are words but no keywords.
* `check_warns_of_misspelt_keywords`: what a check writes about a selector that can be read.
-/

namespace DocSelector

namespace KeywordWarning

/-! ### What a warning is about -/

/-- The `i`-th token is `word`, a word, and the next one that is not trivia is a single colon. -/
def BeforeColon (tokens : List Token) (i : Nat) (word : Token) : Prop :=
  ∃ (trivia : List Token) (colon : Token) (after : List Token),
    tokens.drop i = word :: (trivia ++ colon :: after) ∧ word.kind = .identifier ∧
    (∀ token ∈ trivia, token.kind = .whitespace ∨ token.kind = .newline) ∧
    colon.kind = .punctuation ∧ colon.value = ":"

/-- Some keyword is as near to the name as a suggestion has to be. -/
def NearKeyword (name : String) : Prop :=
  ∃ keyword ∈ Keyword.all, editDistance name keyword.text ≤ defaultThreshold name.length

/-- The line warns of the word: it says where the word begins, and it offers the first of the
nearest keywords, which is another word. -/
def WarnsOf (word : Token) (line : String) : Prop :=
  ∃ (before : List Keyword) (keyword : Keyword) (after : List Keyword),
    Keyword.all = before ++ keyword :: after ∧
    (∀ other ∈ before,
      editDistance word.value keyword.text < editDistance word.value other.text) ∧
    (∀ other ∈ after,
      editDistance word.value keyword.text ≤ editDistance word.value other.text) ∧
    keyword.text ≠ word.value ∧
    line = s!"warning: `{word.value}` at {word.start.line}:{word.start.column}" ++
      " is not a selector keyword; " ++ s!"did you mean `{keyword.text}`?"

/-- The warning that the first token is due, given the tokens behind it. -/
def dueTo? : List Token → Option KeywordWarning
  | [] => none
  | token :: after => (significant after).head?.bind (ofPair? token)

variable {token next word : Token} {tokens : List Token} {warning : KeywordWarning} {i : Nat}
  {name suggestion : String}

/-! ### Words and keywords -/

theorem not_nearKeyword_empty : ¬NearKeyword "" := by
  rintro ⟨keyword, -, hnear⟩
  rw [EditDistance.editDistance_eq_alignCost] at hnear
  have hsame := EditDistance.alignCost_eq_zero_iff.1 (Nat.le_zero.1 hnear)
  cases keyword <;> cases hsame

/-- A keyword is suggested for a name exactly when one is near to it. -/
theorem isSome_suggest?_iff :
    (suggest? name (Keyword.all.map Keyword.text)).isSome ↔ NearKeyword name := by
  rw [← Option.ne_none_iff_isSome, suggest?, ne_eq, closest?_eq_none_iff, not_or, NearKeyword]
  simp only [List.forall_mem_map, not_forall, not_lt, exists_prop]
  refine and_iff_right_of_imp ?_
  rintro hnear rfl
  exact not_nearKeyword_empty hnear

/-- The suggested keyword is the first of the nearest. -/
theorem exists_keyword_of_suggest?
    (h : suggest? name (Keyword.all.map Keyword.text) = some suggestion) :
    ∃ (before : List Keyword) (keyword : Keyword) (after : List Keyword),
      Keyword.all = before ++ keyword :: after ∧ keyword.text = suggestion ∧
      (∀ other ∈ before, editDistance name keyword.text < editDistance name other.text) ∧
      ∀ other ∈ after, editDistance name keyword.text ≤ editDistance name other.text := by
  obtain ⟨-, -, texts, later, hsplit, hbefore, hafter⟩ := firstNearest_of_closest? h
  obtain ⟨before, rest, hall, rfl, hrest⟩ := List.map_eq_append_iff.1 hsplit
  obtain ⟨keyword, after, rfl, rfl, rfl⟩ := List.map_eq_cons_iff.1 hrest
  rw [List.forall_mem_map] at hbefore hafter
  exact ⟨before, keyword, after, hall, rfl, hbefore, hafter⟩

/-- Of two keywords at the same distance the earlier one is offered. -/
example :
    editDistance "nheadinpace" "heading" = 5 ∧ editDistance "nheadinpace" "namespace" = 5 ∧
      suggest? "nheadinpace" (Keyword.all.map Keyword.text) = some "heading" := by
  refine ⟨?_, ?_, ?_⟩ <;> decide +kernel

/-! ### Token by token -/

theorem ofPair?_eq_some_iff :
    ofPair? token next = some warning ↔
      token.kind = .identifier ∧ next.kind = .punctuation ∧ next.value = ":" ∧
        ∃ suggestion, suggest? token.value (Keyword.all.map Keyword.text) = some suggestion ∧
          warning = { name := token.value, start := token.start, suggestion } := by
  have hpair :
      (token.kind == .identifier && next.kind == .punctuation && next.value == ":") = true ↔
        token.kind = .identifier ∧ next.kind = .punctuation ∧ next.value = ":" := by
    simp only [Bool.and_eq_true, beq_iff_eq, and_assoc]
  rw [ofPair?]
  split
  · next h =>
    obtain ⟨hword, hmark, hcolon⟩ := hpair.1 h
    simp only [hword, hmark, hcolon, true_and, Option.map_eq_some_iff, eq_comm (b := warning)]
  · next h =>
    constructor
    · nofun
    · rintro ⟨hword, hmark, hcolon, -⟩
      exact absurd (hpair.2 ⟨hword, hmark, hcolon⟩) h

/-- Trivia are due no warning, whatever follows them. -/
theorem ofPair?_eq_none_of_isTrivia (h : token.isTrivia = true) : ofPair? token next = none := by
  rw [Option.eq_none_iff_forall_ne_some]
  intro warning hwarning
  rw [Token.isTrivia, (ofPair?_eq_some_iff.1 hwarning).1] at h
  cases h

/-- The warning that a token is due tells its word, and what is suggested for that. -/
theorem dueTo?_drop_eq_some_iff :
    dueTo? (tokens.drop i) = some warning ↔
      ∃ word suggestion, BeforeColon tokens i word ∧
        suggest? word.value (Keyword.all.map Keyword.text) = some suggestion ∧
        warning = { name := word.value, start := word.start, suggestion } := by
  constructor
  · intro h
    cases htokens : tokens.drop i with
    | nil =>
      rw [htokens] at h
      cases h
    | cons word after =>
      rw [htokens] at h
      obtain ⟨colon, hcolon, hpair⟩ := Option.bind_eq_some_iff.1 h
      obtain ⟨trivia, later, rfl, htrivia, -⟩ := head?_significant_eq_some_iff.1 hcolon
      obtain ⟨hkind, hmark, hvalue, suggestion, hsuggest, rfl⟩ := ofPair?_eq_some_iff.1 hpair
      exact ⟨word, suggestion, ⟨trivia, colon, later, htokens, hkind,
        fun token htoken => Token.isTrivia_iff.1 (htrivia token htoken), hmark, hvalue⟩,
        hsuggest, rfl⟩
  · rintro ⟨word, suggestion, ⟨trivia, colon, later, htokens, hkind, htrivia, hmark, hvalue⟩,
      hsuggest, rfl⟩
    have hcolon : colon.isTrivia = false := by rw [Token.isTrivia, hmark]; rfl
    rw [htokens, dueTo?, head?_significant_eq_some_iff.2 ⟨trivia, later, rfl,
      fun token htoken => Token.isTrivia_iff.2 (htrivia token htoken), hcolon⟩, Option.bind_some,
      ofPair?_eq_some_iff]
    exact ⟨hkind, hmark, hvalue, suggestion, hsuggest, rfl⟩

theorem getElem?_of_beforeColon (h : BeforeColon tokens i word) : tokens[i]? = some word := by
  obtain ⟨trivia, colon, after, htokens, -⟩ := h
  rw [← List.head?_drop, htokens, List.head?_cons]

/-- A warning is due where a word has a colon behind it and is near to a keyword. -/
theorem isSome_dueTo?_drop_iff :
    (dueTo? (tokens.drop i)).isSome ↔
      ∃ word, BeforeColon tokens i word ∧ NearKeyword word.value := by
  simp only [Option.isSome_iff_exists, dueTo?_drop_eq_some_iff, ← isSome_suggest?_iff]
  constructor
  · rintro ⟨warning, word, suggestion, hcolon, hsuggest, -⟩
    exact ⟨word, hcolon, suggestion, hsuggest⟩
  · rintro ⟨word, hcolon, suggestion, hsuggest⟩
    exact ⟨_, word, suggestion, hcolon, hsuggest, rfl⟩

end KeywordWarning

/-- The tokens that are not trivia are looked at in pairs, but the warnings are those of the single
tokens, one behind the other. -/
theorem keywordWarnings_cons (token : Token) (tokens : List Token) :
    keywordWarnings (token :: tokens) =
      (KeywordWarning.dueTo? (token :: tokens)).toList ++ keywordWarnings tokens := by
  rw [KeywordWarning.dueTo?]
  by_cases htrivia : token.isTrivia = true
  · have hnone : (significant tokens).head?.bind (KeywordWarning.ofPair? token) = none := by
      rw [Option.bind_eq_none_iff]
      exact fun next _ => KeywordWarning.ofPair?_eq_none_of_isTrivia htrivia
    have hsame : significant (token :: tokens) = significant tokens := by
      simp [significant, htrivia]
    rw [hnone, keywordWarnings, hsame]
    rfl
  · have hcons : significant (token :: tokens) = token :: significant tokens := by
      simp [significant, htrivia]
    rw [keywordWarnings, keywordWarnings, hcons]
    cases hnext : significant tokens with
    | nil => rfl
    | cons next later =>
      simp only [neighbours, List.tail_cons, List.zip_cons_cons, List.filterMap_cons,
        List.head?_cons, Option.bind_some]
      cases KeywordWarning.ofPair? token next <;> rfl

/-- The warnings of a list of tokens, told by the places of the tokens in the list. -/
theorem keywordWarnings_eq_filterMap (tokens : List Token) :
    keywordWarnings tokens =
      (List.range tokens.length).filterMap fun i => KeywordWarning.dueTo? (tokens.drop i) := by
  induction tokens with
  | nil => rfl
  | cons token tokens ih =>
    rw [keywordWarnings_cons, ih, List.length_cons, List.range_succ_eq_map, List.filterMap_cons,
      List.filterMap_map, List.drop_zero]
    cases KeywordWarning.dueTo? (token :: tokens) <;> rfl

/-- Of the elements for which there is a result, each has its own. -/
theorem forall₂_filter_filterMap {α β : Type} (f : α → Option β) (l : List α) :
    List.Forall₂ (fun a b => f a = some b) (l.filter fun a => (f a).isSome) (l.filterMap f) := by
  induction l with
  | nil => exact .nil
  | cons a l ih =>
    cases h : f a with
    | none => simpa [h] using ih
    | some b => simpa [h] using ih

namespace KeywordWarning

variable {tokens : List Token} {i : Nat}

/-- The places of the tokens that are due a warning. -/
def places (tokens : List Token) : List Nat :=
  (List.range tokens.length).filter fun i => (dueTo? (tokens.drop i)).isSome

theorem pairwise_places : (places tokens).Pairwise (· < ·) :=
  List.pairwise_lt_range.filter _

theorem mem_places_iff :
    i ∈ places tokens ↔ ∃ word, BeforeColon tokens i word ∧ NearKeyword word.value := by
  rw [places, List.mem_filter, List.mem_range, isSome_dueTo?_drop_iff, and_iff_right_iff_imp]
  rintro ⟨word, hcolon, -⟩
  exact (List.getElem?_eq_some_iff.1 (getElem?_of_beforeColon hcolon)).1

theorem forall₂_places :
    List.Forall₂ (fun i warning => dueTo? (tokens.drop i) = some warning)
      (places tokens) (keywordWarnings tokens) := by
  rw [keywordWarnings_eq_filterMap]
  exact forall₂_filter_filterMap _ _

end KeywordWarning

/-! ### The names of a selector -/

/-- A name is a word, and none of the keywords. -/
theorem Grammar.word_of_lexes_identifier {text rest : List Char}
    (h : Grammar.Lexes .identifier text rest) :
    Grammar.Word text rest ∧ ∀ keyword ∈ Keyword.all, keyword.text.toList ≠ text := by
  cases h with
  | rule hrule =>
    cases hrule with
    | separator hmem => simp [Grammar.separators] at hmem
    | identifier hword hnone => exact ⟨hword, hnone⟩

section

variable {selector : String} {token : Token}

theorem exists_word_of_mem_tokenize (hmem : token ∈ tokenize selector)
    (hkind : token.kind = .identifier) :
    ∃ text rest, token.value = String.ofList text ∧ Grammar.Word text rest ∧
      ∀ keyword ∈ Keyword.all, keyword.text ≠ token.value := by
  rw [TokenStream.tokenize_eq_map_pieces, TokenStream.pieces_ofText] at hmem
  obtain ⟨piece, hpiece, rfl⟩ := List.mem_map.1 hmem
  rcases Piece.eq_last_or_exists_first?_of_mem_locate hpiece with
    ⟨stop, rfl⟩ | ⟨q, lexeme, rest, hfirst, rfl⟩
  · cases hkind
  · cases lexeme with
    | plain kind text =>
      obtain rfl : kind = .identifier := hkind
      obtain ⟨hword, hnone⟩ :=
        Grammar.word_of_lexes_identifier (Grammar.lexes_iff.2 ⟨_, hfirst, rfl, rfl⟩)
      refine ⟨text, rest, rfl, hword, ?_⟩
      intro keyword hkeyword hvalue
      apply hnone keyword hkeyword
      rw [hvalue]
      exact String.toList_ofList
    | literal quote content => cases hkind
    | fault cause => cases hkind

end

/-! ### The lines of a check -/

theorem Grammar.lineFeed_not_mem_of_word {text rest : List Char} (h : Grammar.Word text rest) :
    '\n' ∉ text := by
  have hpart : ¬Grammar.WordPart '\n' := by
    rw [← Grammar.isWordChar_iff]
    decide
  obtain ⟨c, tail, rfl, hstart, htail, -⟩ := h
  rw [List.mem_cons, not_or]
  refine ⟨?_, fun hmem => hpart (htail _ hmem)⟩
  rintro rfl
  exact hpart (.inl hstart)

theorem Keyword.lineFeed_not_mem_text (keyword : Keyword) : '\n' ∉ keyword.text.toList := by
  cases keyword <;> decide

namespace KeywordWarning

variable {word : Token} {shown suggestion : String}

theorem line_eq (name suggestion : String) (start : Position) :
    line { name, start, suggestion } =
      s!"warning: `{name}` at {start.line}:{start.column}" ++
        " is not a selector keyword; " ++ s!"did you mean `{suggestion}`?" := by
  unfold line hint
  simp only [toString, String.append_assoc]

/-- What is written about a name warns of it. -/
theorem warnsOf_line (hname : ∀ keyword ∈ Keyword.all, keyword.text ≠ word.value)
    (h : suggest? word.value (Keyword.all.map Keyword.text) = some suggestion) :
    WarnsOf word (line { name := word.value, start := word.start, suggestion }) := by
  obtain ⟨before, keyword, after, hall, rfl, hbefore, hafter⟩ := exists_keyword_of_suggest? h
  exact ⟨before, keyword, after, hall, hbefore, hafter, hname keyword keyword.mem_all,
    line_eq _ _ _⟩

theorem lineFeed_not_mem_of_warnsOf (hword : '\n' ∉ word.value.toList) (h : WarnsOf word shown) :
    '\n' ∉ shown.toList := by
  obtain ⟨before, keyword, after, -, -, -, -, rfl⟩ := h
  simp [toString, hword, Listing.lineFeed_not_mem_toDigits, keyword.lineFeed_not_mem_text]

end KeywordWarning

section

variable {selector : String} {i : Nat} {warning : KeywordWarning}

/-- A warning about a selector warns of the token that is due it. -/
theorem KeywordWarning.warnsOf_of_dueTo?
    (h : dueTo? ((tokenize selector).drop i) = some warning) :
    ∃ word, (tokenize selector)[i]? = some word ∧ '\n' ∉ word.value.toList ∧
      WarnsOf word warning.line := by
  obtain ⟨word, suggestion, hcolon, hsuggest, rfl⟩ := dueTo?_drop_eq_some_iff.1 h
  have hword := getElem?_of_beforeColon hcolon
  obtain ⟨trivia, colon, after, -, hkind, -⟩ := hcolon
  obtain ⟨text, rest, hvalue, hname, hnone⟩ :=
    exists_word_of_mem_tokenize (List.mem_of_getElem? hword) hkind
  refine ⟨word, hword, ?_, warnsOf_line hnone hsuggest⟩
  rw [hvalue, String.toList_ofList]
  exact Grammar.lineFeed_not_mem_of_word hname

theorem lineFeed_not_mem_of_mem_keywordWarnings
    (h : warning ∈ keywordWarnings (tokenize selector)) : '\n' ∉ warning.line.toList := by
  rw [keywordWarnings_eq_filterMap, List.mem_filterMap] at h
  obtain ⟨i, -, hdue⟩ := h
  obtain ⟨word, -, hword, hwarns⟩ := KeywordWarning.warnsOf_of_dueTo? hdue
  exact KeywordWarning.lineFeed_not_mem_of_warnsOf hword hwarns

end

/-- The lines of a check that succeeds: the warnings, and a last line with the number of tokens. -/
theorem lines_checkResult {warnings : List KeywordWarning} {count : Nat}
    (h : ∀ warning ∈ warnings, '\n' ∉ warning.line.toList) :
    Text.lines (Text.unlines { warnings, tokenCount := count : CheckResult }.lines).toList =
      (warnings.map KeywordWarning.line).map String.toList ++
        [(s!"ok ({count} tokens)").toList, []] := by
  have hfeed : ∀ line ∈ { warnings, tokenCount := count : CheckResult }.lines,
      '\n' ∉ line.toList := by
    rw [CheckResult.lines, List.forall_mem_append, List.forall_mem_map, List.forall_mem_singleton]
    exact ⟨h, lineFeed_not_mem_count count⟩
  rw [Text.lines_unlines hfeed, CheckResult.lines, List.map_append, List.append_assoc]
  rfl

/-- What a check writes about a selector without lexical errors. There is a line for each name that
has a single colon behind it, trivia aside, and is near to a keyword, and for no other token. The
lines stand in the order of the names, each warns of its name, and the last line behind them has the
number of all tokens. -/
theorem check_warns_of_misspelt_keywords (selector : String)
    (hfree : ∀ token ∈ tokenize selector, token.isError = false) :
    ∃ (places : List Nat) (warnings : List String),
      (checkReport selector).success = true ∧
      Text.lines (checkReport selector).text.toList =
        warnings.map String.toList ++
          [(s!"ok ({(tokenize selector).length} tokens)").toList, []] ∧
      places.Pairwise (· < ·) ∧
      (∀ i, i ∈ places ↔
        ∃ word, KeywordWarning.BeforeColon (tokenize selector) i word ∧
          KeywordWarning.NearKeyword word.value) ∧
      List.Forall₂ (fun i line =>
        ∃ word, (tokenize selector)[i]? = some word ∧ KeywordWarning.WarnsOf word line)
          places warnings := by
  have hlines := @lines_checkResult (keywordWarnings (tokenize selector))
    (tokenize selector).length fun warning => lineFeed_not_mem_of_mem_keywordWarnings
  rw [checkReport_of_ok (strict_eq_ok_of_forall hfree)]
  refine ⟨KeywordWarning.places (tokenize selector),
    (keywordWarnings (tokenize selector)).map KeywordWarning.line, rfl, hlines,
    KeywordWarning.pairwise_places, fun i => KeywordWarning.mem_places_iff, ?_⟩
  rw [List.forall₂_map_right_iff]
  refine KeywordWarning.forall₂_places.imp ?_
  intro i warning hdue
  obtain ⟨word, hword, -, hwarns⟩ := KeywordWarning.warnsOf_of_dueTo? hdue
  exact ⟨word, hword, hwarns⟩

/-- Two names that look like keywords, the first with a blank and a line feed in front of its
colon. -/
theorem check_warns_of_misspelt_keywords_two_names :
    (∀ token ∈ tokenize "haeding \n:a/blok:b", token.isError = false) ∧
      ∃ (places : List Nat) (warnings : List String),
        (checkReport "haeding \n:a/blok:b").success = true ∧
        Text.lines (checkReport "haeding \n:a/blok:b").text.toList =
          warnings.map String.toList ++ [(s!"ok ({10} tokens)").toList, []] ∧
        places.Pairwise (· < ·) ∧
        (∀ i, i ∈ places ↔
          ∃ word, KeywordWarning.BeforeColon (tokenize "haeding \n:a/blok:b") i word ∧
            KeywordWarning.NearKeyword word.value) ∧
        List.Forall₂ (fun i line =>
          ∃ word, (tokenize "haeding \n:a/blok:b")[i]? = some word ∧
            KeywordWarning.WarnsOf word line) places warnings := by
  have htokens : (tokenize "haeding \n:a/blok:b").map Token.isError = List.replicate 10 false := by
    decide +kernel
  have hfree : ∀ token ∈ tokenize "haeding \n:a/blok:b", token.isError = false := by
    intro token htoken
    have hmem := List.mem_map_of_mem (f := Token.isError) htoken
    rw [htokens] at hmem
    exact List.eq_of_mem_replicate hmem
  have hcount : (tokenize "haeding \n:a/blok:b").length = 10 := by
    rw [← List.length_map Token.isError, htokens, List.length_replicate]
  rw [← hcount]
  exact ⟨hfree, check_warns_of_misspelt_keywords _ hfree⟩

end DocSelector
