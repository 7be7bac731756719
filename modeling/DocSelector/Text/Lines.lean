/-!
# Lines

Lines are parted by line feeds, and only by them: a carriage return in front of a line feed belongs
to its line. A text has one line more than it has line feeds.

## Main definitions

* `Text.lines`: the lines of a text.
* `Text.unlines`: lines written one below the other, each closed by a line feed.
-/

namespace DocSelector.Text

/-- The lines of a text, without the line feeds between them. -/
def lines (text : List Char) : List (List Char) := text.splitOn '\n'

/-- The line without the carriage returns at its end. -/
def trimReturns (line : List Char) : List Char :=
  (line.reverse.dropWhile (· == '\r')).reverse

/-- The lines one after the other, each followed by a line feed. -/
def unlines (lines : List String) : String :=
  String.join (lines.map (· ++ "\n"))

/-- Every text has a first line, the empty text included. -/
theorem lines_ne_nil (text : List Char) : lines text ≠ [] :=
  List.splitOnP_ne_nil _ _

theorem length_lines (text : List Char) : (lines text).length = text.count '\n' + 1 := by
  induction text with
  | nil => rfl
  | cons c text ih =>
    rw [lines, List.splitOn_cons_eq_if_modifyHead, List.count_cons]
    split
    · rw [List.length_cons, ← lines, ih]
    · rw [List.length_modifyHead, ← lines, ih]

/-- The first line goes up to the first line feed. -/
theorem getElem?_lines_zero (text : List Char) :
    (lines text)[0]? = some (text.takeWhile (· != '\n')) := by
  induction text with
  | nil => rfl
  | cons c text ih =>
    rw [lines, List.splitOn_cons_eq_if_modifyHead, List.takeWhile_cons]
    by_cases hc : c = '\n'
    · simp [hc]
    · rw [lines] at ih
      simp [hc, List.getElem?_modifyHead, ih]

/-- No line feed is left in a line. -/
theorem lineFeed_not_mem_of_mem_lines {line text : List Char} (h : line ∈ lines text) :
    '\n' ∉ line := by
  induction text generalizing line with
  | nil =>
    obtain rfl : line = [] := List.mem_singleton.1 h
    exact List.not_mem_nil
  | cons c text ih =>
    rw [lines, List.splitOn_cons_eq_if_modifyHead, ← lines] at h
    split at h
    · rcases List.mem_cons.1 h with rfl | h
      · exact List.not_mem_nil
      · exact ih h
    · next hc =>
      obtain ⟨first, later, hlines⟩ := List.exists_cons_of_ne_nil (lines_ne_nil text)
      rw [hlines, List.modifyHead_cons] at h
      rw [hlines] at ih
      rcases List.mem_cons.1 h with rfl | h
      · rw [List.mem_cons, not_or]
        refine ⟨fun heq => hc ?_, ih List.mem_cons_self⟩
        rw [← heq, beq_self_eq_true]
      · exact ih (List.mem_cons_of_mem _ h)

theorem toList_unlines (lines : List String) :
    (unlines lines).toList = lines.flatMap fun line => line.toList ++ ['\n'] := by
  simp [unlines, List.flatMap_map]

/-- A line that is written above others is the first line of the text, as long as there is no line
feed in it. -/
theorem lines_unlines_cons {line : String} (h : '\n' ∉ line.toList) (ls : List String) :
    lines (unlines (line :: ls)).toList = line.toList :: lines (unlines ls).toList := by
  have hline : ∀ c ∈ line.toList, (c == '\n') = false := by
    intro c hc
    rw [beq_eq_false_iff_ne]
    rintro rfl
    exact h hc
  rw [toList_unlines, toList_unlines, List.flatMap_cons, List.append_assoc, List.singleton_append]
  exact List.splitOnP_append_cons_of_forall_mem hline '\n' rfl _

/-- Lines that are written one below the other are the lines of the text. The text ends with a line
feed, so there is an empty line at its end. -/
theorem lines_unlines {ls : List String} (h : ∀ line ∈ ls, '\n' ∉ line.toList) :
    lines (unlines ls).toList = ls.map String.toList ++ [[]] := by
  induction ls with
  | nil => rfl
  | cons line ls ih =>
    rw [List.forall_mem_cons] at h
    rw [lines_unlines_cons h.1, ih h.2]
    rfl

/-- What is written below other lines stands at the end of the text, whatever is in those. -/
theorem exists_lines_unlines_append (ls below : List String) :
    ∃ above, lines (unlines (ls ++ below)).toList = above ++ lines (unlines below).toList := by
  induction ls with
  | nil => exact ⟨[], rfl⟩
  | cons line ls ih =>
    obtain ⟨above, habove⟩ := ih
    refine ⟨lines line.toList ++ above, ?_⟩
    rw [toList_unlines] at habove
    rw [toList_unlines, List.cons_append, List.flatMap_cons, List.append_assoc,
      List.singleton_append, List.append_assoc, ← habove]
    exact List.splitOnP_append_cons _ _ rfl

end DocSelector.Text
