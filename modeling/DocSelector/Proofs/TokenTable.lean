import DocSelector.Proofs.Agreement
import DocSelector.Proofs.Unquoting

/-!
# Listings as tables

A listing is a table of lines: a header, and a row for each token. Whatever characters the selector
and the values of its tokens hold, none of them breaks a line, since nothing unprintable is written
as itself. The names in the rows are filled up to the longest, so the values stand in one column.
And nothing is lost, as the selector can be read back from the header: two selectors have the same
listing only if they are the same.

## Main definitions

* `Listing.ValueAt`: a line that shows a value from a given column on.
* `Listing.selector?`: the selector that the header of a listing shows.

## Main statements

* `Listing.valueAt_row`: the column of the values.
* `Listing.selector?_header`: the selector comes back from the header.
* `listing_is_lossless`: the lines of a listing.
-/

namespace DocSelector

namespace Listing

/-- The line shows the value in quotes from the column on, and no quote stands in front of it. The
first column is number zero. -/
def ValueAt (column : Nat) (value : String) (line : List Char) : Prop :=
  ∃ before after : List Char, line = before ++ (Text.quoteString value).toList ++ after ∧
    before.length = column ∧ '"' ∉ before

/-- The selector in quotes behind the first words of a header. -/
def selector? (header : List Char) : Option String :=
  ("Tokens for ".toList.isPrefixOf? header).bind fun text =>
    (Text.unquote? '"' text).map fun (selector, _) => String.ofList selector

variable {tokens : List Token} {token : Token} {width : Nat} {name : String}

/-! ### The column of the values -/

theorem le_foldl_max_name (tokens : List Token) (width : Nat) :
    width ≤ tokens.foldl (fun width token => max width token.kind.name.length) width := by
  induction tokens generalizing width with
  | nil => exact Nat.le_refl width
  | cons token tokens ih => exact Nat.le_trans (Nat.le_max_left _ _) (ih _)

/-- No name among the tokens is longer than the width. -/
theorem length_name_le_nameWidth (h : token ∈ tokens) :
    token.kind.name.length ≤ nameWidth tokens := by
  obtain ⟨before, after, rfl⟩ := List.append_of_mem h
  rw [nameWidth, List.foldl_append, List.foldl_cons]
  exact Nat.le_trans (Nat.le_max_right _ _) (le_foldl_max_name after _)

theorem length_padded (h : name.length ≤ width) : (padded width name).toList.length = width := by
  rw [padded, String.toList_ofList, List.length_rightpad, String.length_toList]
  omega

theorem quote_not_mem_name (kind : Token.Kind) : '"' ∉ kind.name.toList := by
  cases kind with
  | keyword word => cases word <;> decide
  | _ => decide

theorem quote_not_mem_padded (kind : Token.Kind) : '"' ∉ (padded width kind.name).toList := by
  simp [padded, List.rightpad, quote_not_mem_name]

/-- In a row that is wide enough for its name the value stands behind the two spaces at the
beginning and the one behind the name. -/
theorem valueAt_row (h : token.kind.name.length ≤ width) :
    ValueAt (width + 3) token.value (row width token).toList := by
  refine ⟨' ' :: ' ' :: (padded width token.kind.name).toList ++ [' '],
    (s!" @ {token.start}-{token.stop}").toList, ?_, ?_, ?_⟩
  · simp [row, Token.valueAndSpan, toString]
  · rw [List.length_append, List.length_cons, List.length_cons, length_padded h]
    rfl
  · simp [quote_not_mem_padded]

/-! ### The header -/

/-- The selector comes back from the header of its listing. -/
theorem selector?_header (selector : String) (count : Nat) :
    selector? (header selector count).toList = some selector := by
  have hheader : (header selector count).toList =
      "Tokens for ".toList ++
        (Text.quoted '"' selector.toList ++ (s!" ({count} tokens):").toList) := by
    simp [header, toString, Text.quoteString]
  have hquoted := (List.isPrefixOf?_eq_some_iff_append_eq).2 hheader.symm
  rw [selector?, hquoted, Option.bind_some, Text.unquote?_quoted (.inl rfl)]
  show some (String.ofList selector.toList) = some selector
  rw [String.ofList_toList]

end Listing

/-- The lines of a listing: a header, and a row for each token with its value in quotes. All values
begin at the same column, no line holds an unprintable character, and the selector comes back from
the header. So different selectors have different listings. -/
theorem listing_is_lossless (selector other : String) :
    (∃ (header : List Char) (rows : List (List Char)) (column : Nat),
      Text.lines (listing selector).toList = header :: rows ++ [[]] ∧
        rows.length = (tokenize selector).length ∧
        (listing selector).toList.count '\n' = (tokenize selector).length + 1 ∧
        (∀ line ∈ header :: rows, Text.Printable line) ∧
        List.Forall₂ (fun token row => Listing.ValueAt column token.value row)
          (tokenize selector) rows ∧
        Listing.selector? header = some selector) ∧
      (listing selector = listing other ↔ selector = other) := by
  have hlines := lines_listing selector
  have hheader := Listing.selector?_header selector (tokenize selector).length
  refine ⟨⟨_, _, Listing.nameWidth (tokenize selector) + 3, hlines, ?_, ?_, ?_, ?_, hheader⟩, ?_⟩
  · rw [List.length_map, List.length_map]
  · have hcount := Text.length_lines (listing selector).toList
    rw [hlines] at hcount
    simp only [List.length_append, List.length_cons, List.length_map, List.length_nil] at hcount
    omega
  · rw [List.forall_mem_cons, List.forall_mem_map, List.forall_mem_map]
    exact ⟨Listing.printable_header _ _, fun token _ => Listing.printable_row⟩
  · rw [List.forall₂_map_right_iff, List.forall₂_map_right_iff, List.forall₂_same]
    intro token htoken
    exact Listing.valueAt_row (Listing.length_name_le_nameWidth htoken)
  · refine ⟨fun heq => ?_, congrArg listing⟩
    -- The headers are the first lines of the two listings.
    have hfirst := lines_listing other
    rw [← heq, hlines, List.cons_append, List.cons_append, List.cons.injEq] at hfirst
    rw [hfirst.1, Listing.selector?_header] at hheader
    exact (Option.some.inj hheader).symm

end DocSelector
