import DocSelector.Command
import DocSelector.Proofs.FirstError
import Mathlib.Data.List.Forall2

/-!
# Listing and checking a selector

Two commands read a selector: one lists its tokens, the other checks it. They read it in different
ways and write different texts, but what they write agrees. The check succeeds exactly when no row
of the listing is one of an error, and counts the tokens as the listing does. Otherwise it fails at
the first row of an error, with the line and the column at which this row begins, and with the code
that belongs to the value of the row.

All of this is said about the printed lines.

## Main definitions

* `Listing.Shows`: a line that shows a token of a listing.
* `Listing.ShowsError`: a line that shows an error.

## Main statements

* `Listing.isError_of_showsError_row`: only errors are shown as errors.
* `LexicalError.head?_lines_excerpt`: the first line of what a failed check writes.
* `lex_and_check_agree`: what the two commands write for a selector.
-/

namespace DocSelector

namespace Listing

/-- The line shows the name of a kind, filled up with spaces, a value in quotes, and the two points
between which a token lies. -/
def Shows (line name value : String) (start stop : Position) : Prop :=
  ∃ width, line =
    s!"  {padded width name} {Text.quoteString value} @ " ++
      s!"{start.line}:{start.column}-{stop.line}:{stop.column}"

/-- The line shows an error with the value and the points. -/
abbrev ShowsError (line value : String) (start stop : Position) : Prop :=
  Shows line "error" value start stop

variable {line name value other : String} {start stop : Position} {token : Token} {width : Nat}

theorem shows_row : Shows (row width token) token.kind.name token.value token.start token.stop := by
  refine ⟨width, ?_⟩
  simp only [row, Token.valueAndSpan, toString, String.append_assoc]

/-- Behind two spaces a line begins with the name that it shows. -/
theorem exists_append_of_shows (h : Shows line name value start stop) :
    ∃ rest, line.toList = ' ' :: ' ' :: (name.toList ++ rest) := by
  obtain ⟨width, rfl⟩ := h
  simp only [padded, List.rightpad, toString, String.toList_append, String.toList_ofList,
    List.append_assoc]
  exact ⟨_, rfl⟩

/-- Of the names of kinds only one begins as the name for errors does. -/
theorem eq_error_of_name_append_eq {kind : Token.Kind} {rest rest' : List Char}
    (h : kind.name.toList ++ rest = "error".toList ++ rest') : kind = .error := by
  cases kind with
  | error => rfl
  | keyword word => cases word <;> simp [Token.Kind.name, Keyword.text] at h
  | _ => simp [Token.Kind.name] at h

/-- Only errors are shown as errors, whatever values and points stand in the line. -/
theorem isError_of_showsError_row (h : ShowsError (row width token) value start stop) :
    token.isError = true := by
  obtain ⟨rest, hrest⟩ := exists_append_of_shows h
  obtain ⟨rest', hrest'⟩ := exists_append_of_shows (@shows_row token width)
  rw [hrest', List.cons.injEq, List.cons.injEq] at hrest
  rw [Token.isError, eq_error_of_name_append_eq hrest.2.2]
  rfl

theorem not_showsError_of_mem_map {tokens : List Token}
    (h : ∀ token ∈ tokens, token.isError = false) :
    ∀ line ∈ tokens.map (row width), ∀ value start stop, ¬ShowsError line value start stop := by
  rw [List.forall_mem_map]
  intro token htoken value start stop hshows
  exact Bool.false_ne_true ((h token htoken).symm.trans (isError_of_showsError_row hshows))

theorem showsError_row_of_isError (h : token.isError = true) :
    ShowsError (row width token) token.value token.start token.stop := by
  have hkind : token.kind = .error := by simpa [Token.isError] using h
  have hshows := @shows_row token width
  rwa [hkind] at hshows

/-! ### Lines of their own -/

theorem not_mem_toDigits {c : Char} (hc : c.isDigit = false) (n : Nat) :
    c ∉ Nat.toDigits 10 n := by
  intro h
  exact Bool.false_ne_true
    (hc.symm.trans (Nat.isDigit_of_mem_toDigits (by decide) (by decide) h))

theorem lineFeed_not_mem_toDigits (n : Nat) : '\n' ∉ Nat.toDigits 10 n :=
  not_mem_toDigits (by decide) n

theorem printable_name (kind : Token.Kind) : Text.Printable kind.name.toList := by
  apply Text.printable_of_ascii
  cases kind with
  | keyword word => cases word <;> decide
  | _ => decide

theorem printable_padded (h : Text.Printable name.toList) :
    Text.Printable (padded width name).toList := by
  have hspaces : ∀ n, Text.Printable (List.replicate n ' ') := by
    intro n c hc
    rw [List.eq_of_mem_replicate hc]
    rfl
  simp [padded, List.rightpad, h, hspaces]

theorem printable_number (n : Nat) : Text.Printable (Nat.toDigits 10 n) :=
  Text.printable_toDigits (by decide) (by decide) n

theorem printable_row : Text.Printable (row width token).toList := by
  simp [row, Token.valueAndSpan, toString, printable_padded (printable_name token.kind),
    Text.printable_quoteString, printable_number, Text.isUnprintable_ascii]

theorem printable_header (selector : String) (count : Nat) :
    Text.Printable (header selector count).toList := by
  simp [header, toString, Text.printable_quoteString, printable_number, Text.isUnprintable_ascii]

end Listing

namespace LexicalError

theorem lineFeed_not_mem_message (cause : Cause) : '\n' ∉ cause.message.toList := by
  cases cause with
  | unterminatedString quote =>
    have hmessage : (Cause.unterminatedString quote).message = "Unterminated string" := rfl
    rw [hmessage]
    decide
  | unexpectedCharacter found =>
    have hmessage : (Cause.unexpectedCharacter found).message =
        "Unexpected character " ++ Text.quoteChar found := rfl
    simp [hmessage, (Text.printable_quoteChar found).lineFeed_not_mem]

/-- An excerpt is headed by the code and the place of the error. -/
theorem title_eq (e : LexicalError) :
    s!"error[{e.code}]: {e}" =
      s!"error[{e.code.text}]: Line {e.start.line}, Column {e.start.column}: " ++
        e.cause.message := by
  have hplace := e.toString_eq_message
  simp only [toString] at hplace ⊢
  rw [hplace]
  simp only [String.append_assoc]
  rfl

theorem lineFeed_not_mem_code (e : LexicalError) : '\n' ∉ e.code.text.toList := by
  cases e.code <;> decide

theorem lineFeed_not_mem_title (e : LexicalError) :
    '\n' ∉ (s!"error[{e.code}]: {e}").toList := by
  rw [title_eq]
  simp [toString, Listing.lineFeed_not_mem_toDigits, lineFeed_not_mem_message,
    lineFeed_not_mem_code]

theorem head?_lines_excerpt (e : LexicalError) (selector : String) :
    (Text.lines (Text.unlines (e.excerpt selector)).toList).head? =
      some (s!"error[{e.code.text}]: Line {e.start.line}, Column {e.start.column}: " ++
        e.cause.message).toList := by
  rw [excerpt, Text.lines_unlines_cons e.lineFeed_not_mem_title, List.head?_cons, title_eq]

/-- The value of an error in a listing tells its code. -/
theorem tokenValue_and_code (cause : Cause) :
    cause.tokenValue = "Unterminated string" ∧ cause.code.text = "E0001" ∨
      cause.tokenValue.length = 1 ∧ cause.code.text = "E0002" := by
  cases cause with
  | unterminatedString quote => exact .inl ⟨rfl, rfl⟩
  | unexpectedCharacter found => exact .inr ⟨String.length_singleton, rfl⟩

end LexicalError

/-! ### The outcomes of the two commands -/

section

variable {selector : String} {tokens : List Token} {e : LexicalError}

theorem checkReport_of_ok (h : tokenizeStrict selector = .ok tokens) :
    checkReport selector = {
      text := Text.unlines
        { warnings := keywordWarnings tokens, tokenCount := tokens.length : CheckResult }.lines
      success := true } := by
  simp only [checkReport, check, h]
  rfl

theorem checkReport_of_error (h : tokenizeStrict selector = .error e) :
    checkReport selector = { text := Text.unlines (e.excerpt selector), success := false } := by
  simp only [checkReport, check, h]
  rfl

theorem run_check_of_ok (h : tokenizeStrict selector = .ok tokens) :
    (Command.check selector).run = {
      exitCode := 0
      output := Text.unlines
        { warnings := keywordWarnings tokens, tokenCount := tokens.length : CheckResult }.lines
      errors := "" } := by
  simp only [Command.run, checkReport_of_ok h]
  rfl

theorem run_check_of_error (h : tokenizeStrict selector = .error e) :
    (Command.check selector).run = {
      exitCode := 1
      output := ""
      errors := Text.unlines (e.excerpt selector) } := by
  simp only [Command.run, checkReport_of_error h]
  rfl

theorem lineFeed_not_mem_count (count : Nat) : '\n' ∉ (s!"ok ({count} tokens)").toList := by
  simp [toString, Listing.lineFeed_not_mem_toDigits]

/-- The last line of a check that succeeds counts the tokens. -/
theorem exists_lines_result (result : CheckResult) :
    ∃ warnings, Text.lines (Text.unlines result.lines).toList =
      warnings ++ [(s!"ok ({result.tokenCount} tokens)").toList, []] := by
  obtain ⟨warnings, hwarnings⟩ := Text.exists_lines_unlines_append
    (result.warnings.map KeywordWarning.line) [s!"ok ({result.tokenCount} tokens)"]
  refine ⟨warnings, ?_⟩
  rw [CheckResult.lines, hwarnings, Text.lines_unlines_cons (lineFeed_not_mem_count _)]
  rfl

/-- A listing is a header and a row for each token, on a line of its own. -/
theorem lines_listing (selector : String) :
    Text.lines (listing selector).toList =
      (Listing.header selector (tokenize selector).length).toList ::
        ((tokenize selector).map (Listing.row (Listing.nameWidth (tokenize selector)))).map
          String.toList ++ [[]] := by
  rw [listing, Listing.lines, Text.lines_unlines, List.map_cons]
  rw [List.forall_mem_cons, List.forall_mem_map]
  exact ⟨(Listing.printable_header _ _).lineFeed_not_mem,
    fun token _ => Listing.printable_row.lineFeed_not_mem⟩

end

/-- What is printed for a selector by the command that lists its tokens and by the one that checks
it. The listing has a row for each token. If none of the rows shows an error, the check succeeds and
ends with the number of tokens that stands in the header. Otherwise it fails, and the first line
that it writes as an error has the line and the column at which the first row of an error begins,
and the code for the value in this row. -/
theorem lex_and_check_agree (selector : String) (more more' : List String) :
    ∃ (lexed checked : Outcome) (rows : List String),
      runCommandLine ("lex" :: selector :: more) = lexed ∧
      runCommandLine ("check" :: selector :: more') = checked ∧
      lexed.exitCode = 0 ∧ lexed.errors = "" ∧
      Text.lines lexed.output.toList =
        (s!"Tokens for {Text.quoteString selector} ({rows.length} tokens):").toList ::
          rows.map String.toList ++ [[]] ∧
      List.Forall₂ (fun token row =>
        Listing.Shows row token.kind.name token.value token.start token.stop)
          (tokenize selector) rows ∧
      ((checked.exitCode = 0 ∧ checked.errors = "" ∧
          ∃ warnings, Text.lines checked.output.toList =
            warnings ++ [(s!"ok ({rows.length} tokens)").toList, []]) ↔
        ∀ row ∈ rows, ∀ value start stop, ¬Listing.ShowsError row value start stop) ∧
      ((∃ row ∈ rows, ∃ value start stop, Listing.ShowsError row value start stop) →
        checked.exitCode = 1 ∧ checked.output = "" ∧
          ∃ before row after value start stop, ∃ code message : String,
            rows = before ++ row :: after ∧
            (∀ other ∈ before, ∀ value start stop, ¬Listing.ShowsError other value start stop) ∧
            Listing.ShowsError row value start stop ∧
            (Text.lines checked.errors.toList).head? =
              some (s!"error[{code}]: Line {start.line}, Column {start.column}: " ++
                message).toList ∧
            (value = "Unterminated string" ∧ code = "E0001" ∨
              value.length = 1 ∧ code = "E0002")) := by
  refine ⟨(Command.lex selector).run, (Command.check selector).run,
    (tokenize selector).map (Listing.row (Listing.nameWidth (tokenize selector))),
    rfl, rfl, rfl, rfl, ?_, ?_, ?_⟩
  · rw [List.length_map]
    exact lines_listing selector
  · rw [List.forall₂_map_right_iff, List.forall₂_same]
    exact fun token _ => Listing.shows_row
  · rw [List.length_map]
    cases hstrict : tokenizeStrict selector with
    | ok tokens =>
      obtain ⟨hall, hfree⟩ := tokenize_of_strict_eq_ok hstrict
      rw [← hall] at hfree
      have hnone :=
        @Listing.not_showsError_of_mem_map (Listing.nameWidth (tokenize selector)) _ hfree
      obtain ⟨warnings, hwarnings⟩ := exists_lines_result
        { warnings := keywordWarnings tokens, tokenCount := tokens.length }
      rw [run_check_of_ok hstrict, hall] at *
      refine ⟨⟨fun _ => hnone, fun _ => ⟨rfl, rfl, warnings, hwarnings⟩⟩, ?_⟩
      rintro ⟨row, hrow, value, start, stop, hshows⟩
      exact absurd hshows (hnone row hrow value start stop)
    | error e =>
      obtain ⟨before, after, hall, hfree⟩ := tokenize_of_strict_eq_error hstrict
      let row := Listing.row (Listing.nameWidth (tokenize selector))
      have hrows : (tokenize selector).map row =
          before.map row ++ row e.toToken :: after.map row := by
        rw [hall, List.map_append, List.map_cons]
      have hshows : Listing.ShowsError (row e.toToken) e.cause.tokenValue e.start e.stop :=
        Listing.showsError_row_of_isError e.isError_toToken
      rw [run_check_of_error hstrict]
      refine ⟨⟨?_, ?_⟩, fun _ => ⟨rfl, rfl, before.map row, row e.toToken, after.map row,
        e.cause.tokenValue, e.start, e.stop, e.code.text, e.cause.message, hrows,
        Listing.not_showsError_of_mem_map hfree, hshows, e.head?_lines_excerpt selector,
        LexicalError.tokenValue_and_code e.cause⟩⟩
      · rintro ⟨hcode, -⟩
        cases hcode
      · intro hnone
        have hmem : row e.toToken ∈ (tokenize selector).map row := by
          rw [hrows]
          exact List.mem_append_right _ List.mem_cons_self
        exact absurd hshows (hnone _ hmem _ _ _)

end DocSelector
