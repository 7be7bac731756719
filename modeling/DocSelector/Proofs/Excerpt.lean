import DocSelector.Proofs.Agreement
import DocSelector.Proofs.OnePass

/-!
# The place of an error in an excerpt

A failed check shows the line of the selector on which the error stands, and below it a caret. The
number of the line and the column come from the scan, but the line itself is found by parting the
selector at its line feeds, and carriage returns at its end are dropped. Both ways of counting lead
to the same character: in front of it, the last line of the text up to the error, and behind it the
rest of its line. As the character is no carriage return it is never dropped, and the caret stands
below it.

## Main definitions

* `LexicalError.ShownIn`: what an excerpt that shows an error looks like.

## Main statements

* `Text.getElem?_lines`: the line on which a point of a text lies.
* `LexicalError.exists_of_strict_eq_error`: where the error of a selector stands.
* `LexicalError.lines_excerpt`: the lines of an excerpt.
* `check_points_at_error`: a failed check shows the character in error.
-/

namespace DocSelector

namespace Text

/-! ### Points and lines -/

/-- The line on which a point of a text lies is counted by the line feeds before the point. -/
theorem getElem?_lines (before after : List Char) :
    (lines (before ++ after))[before.count '\n']? =
      some (before.rtakeWhile (· != '\n') ++ after.takeWhile (· != '\n')) := by
  induction before using List.reverseRecOn generalizing after with
  | nil => exact getElem?_lines_zero after
  | append_singleton before c ih =>
    rw [List.append_assoc, List.singleton_append]
    by_cases hc : c = '\n'
    · subst hc
      -- What stands before the line feed makes up the lines that are passed over.
      have hlines : lines (before ++ '\n' :: after) = lines before ++ lines after :=
        List.splitOn_append_cons_self before after
      have hcount : (before ++ ['\n']).count '\n' = (lines before).length := by
        rw [length_lines, List.count_append]
        rfl
      rw [hlines, hcount, List.getElem?_append_right le_rfl, Nat.sub_self, getElem?_lines_zero,
        List.rtakeWhile_concat_neg _ _ _ (by simp), List.nil_append]
    · have hcount : (before ++ [c]).count '\n' = before.count '\n' := by simp [hc]
      rw [hcount, ih, List.rtakeWhile_concat_pos _ _ _ (by simp [hc]),
        List.takeWhile_cons_of_pos (by simp [hc]), List.append_assoc]
      rfl

theorem trimReturns_eq_rdropWhile (line : List Char) :
    trimReturns line = line.rdropWhile (· == '\r') := rfl

/-- Carriage returns that stand in front of another character are kept. -/
theorem trimReturns_append_cons {c : Char} (hc : c ≠ '\r') (left right : List Char) :
    trimReturns (left ++ c :: right) = left ++ c :: trimReturns right := by
  simp only [trimReturns_eq_rdropWhile]
  induction right using List.reverseRecOn with
  | nil => exact List.rdropWhile_concat_neg _ _ _ (by simp [hc])
  | append_singleton right d ih =>
    rw [← List.cons_append, ← List.append_assoc, List.rdropWhile_concat, List.rdropWhile_concat, ih]
    split <;> simp

theorem exists_eq_trimReturns_append (line : List Char) :
    ∃ n, line = trimReturns line ++ List.replicate n '\r' := by
  have hreturns : line.rtakeWhile (· == '\r') =
      List.replicate (line.rtakeWhile (· == '\r')).length '\r' := by
    rw [List.eq_replicate_length]
    intro c hc
    simpa using List.mem_rtakeWhile_imp hc
  refine ⟨(line.rtakeWhile (· == '\r')).length, ?_⟩
  rw [← hreturns, trimReturns_eq_rdropWhile, List.rdropWhile_append_rtakeWhile]

theorem getLast?_trimReturns (line : List Char) : (trimReturns line).getLast? ≠ some '\r' := by
  intro h
  have hne : trimReturns line ≠ [] := by
    rintro hnil
    rw [hnil] at h
    cases h
  rw [List.getLast?_eq_some_getLast hne, Option.some.injEq] at h
  exact List.rdropWhile_last_not (· == '\r') line hne (beq_iff_eq.2 h)

end Text

namespace LexicalError

/-! ### What an excerpt shows -/

/-- The number of the line on which the error stands, in decimal. -/
def lineNumber (e : LexicalError) : List Char := (toString e.start.line).toList

/-- Blanks as wide as the number of the line. -/
def gutter (e : LexicalError) : List Char := List.replicate e.lineNumber.length ' '

/-- The lines of a report show the error in a selector. The error stands on `line`, which is shown
as `snippet`, and `padding` stands in front of the caret. -/
structure ShownIn (e : LexicalError) (selector : List Char) (report : List (List Char))
    (line snippet padding : List Char) : Prop where
  line_pos : 1 ≤ e.start.line
  column_pos : 1 ≤ e.start.column
  /-- The lines of the selector are parted by line feeds only. -/
  line_eq : (Text.lines selector)[e.start.line - 1]? = some line
  returns : ∃ n, line = snippet ++ List.replicate n '\r'
  snippet_end : snippet.getLast? ≠ some '\r'
  column_le : e.start.column ≤ snippet.length
  character : snippet[e.start.column - 1]? = some e.cause.character
  padding_length : padding.length = e.start.column - 1
  padding_eq : ∀ i < e.start.column - 1,
    padding[i]? = some (if snippet[i]? = some '\t' then '\t' else ' ')
  /-- Five lines, each closed by a line feed. -/
  report_eq : ∃ title help, report =
    [title, e.gutter ++ " |".toList, e.lineNumber ++ " | ".toList ++ snippet,
      e.gutter ++ " | ".toList ++ padding ++ ['^'], help, []]
  /-- The bars of the second, the third and the fourth line stand one below the other. -/
  bars : ∃ column, ∀ i ∈ [1, 2, 3],
    ∃ shown, report[i]? = some shown ∧ shown.findIdx? (· == '|') = some column

variable {e : LexicalError} {selector : String} {source before after line : List Char} {c : Char}

theorem lineFeed_not_mem_sourceLine : '\n' ∉ e.sourceLine source := by
  have hline : '\n' ∉ (Text.lines source)[e.start.line - 1]?.getD [] := by
    cases h : (Text.lines source)[e.start.line - 1]? with
    | none => exact List.not_mem_nil
    | some line => exact Text.lineFeed_not_mem_of_mem_lines (List.mem_of_getElem? h)
  rw [sourceLine, Text.trimReturns_eq_rdropWhile]
  exact fun hmem => hline ((List.rdropWhile_prefix _ _).subset hmem)

theorem lineFeed_not_mem_caretPadding : '\n' ∉ e.caretPadding line := by
  rw [caretPadding, List.mem_map]
  rintro ⟨c, -, hc⟩
  split at hc <;> cases hc

/-- An excerpt consists of five lines, each closed by a line feed. -/
theorem exists_lines_excerpt (e : LexicalError) (selector : String) :
    ∃ title help, Text.lines (Text.unlines (e.excerpt selector)).toList =
      [title, e.gutter ++ " |".toList,
        e.lineNumber ++ " | ".toList ++ e.sourceLine selector.toList,
        e.gutter ++ " | ".toList ++ e.caretPadding (e.sourceLine selector.toList) ++ ['^'],
        help, []] := by
  have hfeed : ∀ line ∈ e.excerpt selector, '\n' ∉ line.toList := by
    simp only [excerpt, List.forall_mem_cons, List.not_mem_nil, IsEmpty.forall_iff, implies_true,
      and_true]
    refine ⟨e.lineFeed_not_mem_title, ?_, ?_, ?_, ?_⟩
    · simp [toString]
    · simp [toString, Listing.lineFeed_not_mem_toDigits, lineFeed_not_mem_sourceLine]
    · simp [toString, lineFeed_not_mem_caretPadding]
    · simp [toString, e.lineFeed_not_mem_code]
  have hgutter : String.ofList (List.replicate (toString e.start.line).length ' ') =
      String.ofList e.gutter := by
    rw [gutter, lineNumber, String.length_toList]
  rw [Text.lines_unlines hfeed]
  refine ⟨(s!"error[{e.code}]: {e}").toList,
    (s!"{String.ofList e.gutter} = help: run `mdsel explain {e.code}` for details").toList, ?_⟩
  simp only [excerpt, hgutter]
  simp [toString, lineNumber]

/-! ### The place of an error -/

/-- Line feeds and carriage returns may stand outside of strings, so they are never in error. -/
theorem character_ne
    (h : OnePass.Mode.outside.step e.cause.character = OnePass.modeBehind e.cause) :
    e.cause.character ≠ '\n' ∧ e.cause.character ≠ '\r' := by
  have hstop : ∀ cause, OnePass.modeBehind cause ≠ some .outside := by
    intro cause
    cases cause <;> nofun
  have hne : ∀ c, OnePass.isOrdinary c = true → e.cause.character ≠ c := by
    intro c hordinary hc
    rw [hc, OnePass.step_of_isOrdinary hordinary] at h
    exact hstop e.cause h.symm
  exact ⟨hne '\n' (by decide), hne '\r' (by decide)⟩

/-- The error of a selector stands on its character. -/
theorem exists_of_strict_eq_error (h : tokenizeStrict selector = .error e) :
    ∃ before after, selector.toList = before ++ e.cause.character :: after ∧
      e.start = .ofText before ∧ e.cause.character ≠ '\n' ∧ e.cause.character ≠ '\r' := by
  obtain ⟨before, -, ⟨-, tokens, hok⟩ | ⟨cause, after, hsource, hstep, herror⟩⟩ :=
    OnePass.strict_lastOutside selector
  · cases h.symm.trans hok
  · cases h.symm.trans herror
    exact ⟨before, after, hsource, rfl, character_ne hstep⟩

/-! ### The caret -/

theorem length_caretPadding (h : e.start.column - 1 ≤ source.length) :
    (e.caretPadding source).length = e.start.column - 1 := by
  rw [caretPadding, List.length_map, List.length_take, Nat.min_eq_left h]

theorem getElem?_caretPadding {i : Nat} (hi : i < e.start.column - 1)
    (h : e.start.column - 1 ≤ source.length) :
    (e.caretPadding source)[i]? = some (if source[i]? = some '\t' then '\t' else ' ') := by
  have hlt : i < source.length := by omega
  rw [caretPadding, List.getElem?_map, List.getElem?_take_of_lt hi, List.getElem?_eq_getElem hlt]
  simp only [Option.map_some, Option.some.injEq]

/-- The first bar of a line stands behind a space, if there is none in front of that. -/
theorem findIdx?_bar {front rest : List Char} (h : '|' ∉ front) :
    (front ++ ' ' :: '|' :: rest).findIdx? (· == '|') = some (front.length + 1) := by
  have hfront : front.findIdx? (· == '|') = none := by
    rw [List.findIdx?_eq_none_iff]
    intro c hc
    rw [beq_eq_false_iff_ne]
    rintro rfl
    exact h hc
  rw [List.findIdx?_append, hfront]
  simp [List.findIdx?_cons, Nat.add_comm]

theorem bar_not_mem_lineNumber : '|' ∉ e.lineNumber := by
  change '|' ∉ (Nat.repr e.start.line).toList
  rw [Nat.toList_repr]
  exact Listing.not_mem_toDigits (by decide) e.start.line

theorem length_gutter : e.gutter.length = e.lineNumber.length := List.length_replicate

theorem bar_not_mem_gutter : '|' ∉ e.gutter := by
  simp [gutter]

/-- As long as no counter has come to its limit, it counts the characters exactly. -/
theorem line_and_column_of_lt {text : List Char} (h : text.length < Position.limit) :
    (Position.ofText text).line = text.count '\n' + 1 ∧
      (Position.ofText text).column = (text.rtakeWhile (· != '\n')).length + 1 := by
  have hcount : text.count '\n' ≤ text.length := List.count_le_length
  have hlast := (List.rtakeWhile_suffix (· != '\n') text).length_le
  simp only [Position.ofText]
  omega

/-- An excerpt shows the error, wherever it stands in its line. -/
theorem shownIn_excerpt {left right : List Char} (hline : 1 ≤ e.start.line)
    (hcolumn : e.start.column = left.length + 1)
    (hsource : (Text.lines selector.toList)[e.start.line - 1]? =
      some (left ++ e.cause.character :: right))
    (hreturn : e.cause.character ≠ '\r') :
    e.ShownIn selector.toList (Text.lines (Text.unlines (e.excerpt selector)).toList)
      (left ++ e.cause.character :: right) (e.sourceLine selector.toList)
      (e.caretPadding (e.sourceLine selector.toList)) := by
  have hsnippet : e.sourceLine selector.toList =
      left ++ e.cause.character :: Text.trimReturns right := by
    rw [sourceLine, hsource, Option.getD_some, Text.trimReturns_append_cons hreturn]
  have hwidth : e.start.column - 1 = left.length := by omega
  have hshorter : e.start.column ≤ (e.sourceLine selector.toList).length := by
    rw [hsnippet, List.length_append, List.length_cons]
    omega
  have hpadding : e.start.column - 1 ≤ (e.sourceLine selector.toList).length := by omega
  obtain ⟨title, help, hreport⟩ := e.exists_lines_excerpt selector
  constructor
  case line_pos => exact hline
  case column_pos => omega
  case line_eq => exact hsource
  case returns =>
    rw [sourceLine, hsource]
    exact Text.exists_eq_trimReturns_append _
  case snippet_end => exact Text.getLast?_trimReturns _
  case column_le => exact hshorter
  case character => rw [hsnippet, hwidth, List.getElem?_append_right le_rfl, Nat.sub_self]; rfl
  case padding_length => exact length_caretPadding hpadding
  case padding_eq => exact fun i hi => getElem?_caretPadding hi hpadding
  case report_eq => exact ⟨title, help, hreport⟩
  case bars =>
    refine ⟨e.lineNumber.length + 1, ?_⟩
    rw [hreport, List.forall_mem_cons, List.forall_mem_cons, List.forall_mem_singleton]
    refine ⟨⟨_, rfl, ?_⟩, ⟨_, rfl, ?_⟩, ⟨_, rfl, ?_⟩⟩
    · rw [← length_gutter]
      exact findIdx?_bar bar_not_mem_gutter
    · rw [List.append_assoc]
      exact findIdx?_bar bar_not_mem_lineNumber
    · rw [List.append_assoc, List.append_assoc, ← length_gutter]
      exact findIdx?_bar bar_not_mem_gutter

/-- As long as the counters are exact, an excerpt shows the error of the selector. -/
theorem shownIn_of_strict_eq_error (h : tokenizeStrict selector = .error e)
    (hlength : selector.length ≤ Position.limit) :
    ∃ line snippet padding,
      e.ShownIn selector.toList (Text.lines (Text.unlines (e.excerpt selector)).toList)
        line snippet padding := by
  obtain ⟨before, after, hsource, hstart, hfeed, hreturn⟩ := exists_of_strict_eq_error h
  have hbefore : before.length < Position.limit := by
    rw [← String.length_toList, hsource, List.length_append, List.length_cons] at hlength
    omega
  obtain ⟨hline, hcolumn⟩ := line_and_column_of_lt hbefore
  rw [← hstart] at hline hcolumn
  -- The rest of the line begins with the character in error, as this is no line feed.
  have hshown := Text.getElem?_lines before (e.cause.character :: after)
  have hindex : before.count '\n' = e.start.line - 1 := by omega
  rw [← hsource, hindex, List.takeWhile_cons_of_pos (by simpa using hfeed)] at hshown
  exact ⟨_, _, _, shownIn_excerpt (by omega) hcolumn hshown hreturn⟩

end LexicalError

/-- A failed check points at the character in error. Of the five lines of its report, the third
shows the line of the error with its number, and the fourth has a caret below the character that the
error is about. -/
theorem check_points_at_error (selector : String) (hlength : selector.length < 0x100000000)
    (hfail : (checkReport selector).success = false) :
    ∃ e line snippet padding, tokenizeStrict selector = .error e ∧
      e.ShownIn selector.toList (Text.lines (checkReport selector).text.toList)
        line snippet padding := by
  cases hstrict : tokenizeStrict selector with
  | ok tokens =>
    rw [checkReport_of_ok hstrict] at hfail
    cases hfail
  | error e =>
    obtain ⟨line, snippet, padding, hshown⟩ :=
      LexicalError.shownIn_of_strict_eq_error hstrict (Nat.le_of_lt_succ hlength)
    rw [checkReport_of_error hstrict]
    exact ⟨e, line, snippet, padding, rfl, hshown⟩

/-- An open string on the second line, behind a string with a line feed in it, and in front of a
carriage return. -/
theorem check_points_at_error_second_line :
    "'a\nb'\tc\"d\r".length < 0x100000000 ∧
      (checkReport "'a\nb'\tc\"d\r").success = false ∧
      ∃ e line snippet padding, tokenizeStrict "'a\nb'\tc\"d\r" = .error e ∧
        e.ShownIn "'a\nb'\tc\"d\r".toList
          (Text.lines (checkReport "'a\nb'\tc\"d\r").text.toList) line snippet padding := by
  have hlength : "'a\nb'\tc\"d\r".length < 0x100000000 := by decide
  have hfail : (checkReport "'a\nb'\tc\"d\r").success = false := by decide +kernel
  exact ⟨hlength, hfail, check_points_at_error _ hlength hfail⟩

end DocSelector
