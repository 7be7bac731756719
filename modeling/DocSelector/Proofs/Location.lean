import DocSelector.Proofs.Segmentation
import Mathlib.Data.List.Chain
import Mathlib.Data.List.DropRight

/-!
# Where the tokens of a selector stand

The points of a token are found character by character: by the cursor for tokens, and for the end of
an error from its beginning. Both ways lead to the point that counting gives, the line feeds and the
characters of the text up to there. So tokens lie end to end, and offsets never go back.

## Main definitions

* `Position.ofText`: the point after a text, found by counting.

## Main statements

* `Position.advanceOver_start`: reading a text leads to the point found by counting.
* `TokenStream.tokens_are_located`: the two points of every token of a selector.
-/

namespace DocSelector

namespace Position

/-- The point after `text`, found by counting its line feeds, the characters behind the last of them
and all its characters. -/
def ofText (text : List Char) : Position where
  line := min (1 + text.count '\n') limit
  column := min (1 + (text.rtakeWhile (· != '\n')).length) limit
  offset := min text.length limit

variable {p : Position} {c : Char} {text rest : List Char} {n : Nat}

theorem bump_min : bump (min n limit) = min (n + 1) limit := by
  rw [bump]
  omega

theorem ofText_concat : ofText (text ++ [c]) = (ofText text).advance c := by
  by_cases hc : c = '\n'
  · subst hc
    rw [advance, if_pos rfl]
    apply Position.ext
    · simp only [ofText, List.count_append, bump_min]
      rfl
    · have hstop : (text ++ ['\n']).rtakeWhile (· != '\n') = [] :=
        List.rtakeWhile_concat_neg _ _ _ (by simp)
      simp only [ofText, hstop]
      rfl
    · simp only [ofText, List.length_append, bump_min, List.length_singleton]
  · rw [advance, if_neg hc]
    apply Position.ext
    · simp [ofText, hc]
    · have hmore : (text ++ [c]).rtakeWhile (· != '\n') = text.rtakeWhile (· != '\n') ++ [c] :=
        List.rtakeWhile_concat_pos _ _ _ (by simp [hc])
      simp only [ofText, hmore, List.length_append, bump_min, List.length_singleton, Nat.add_assoc]
    · simp only [ofText, List.length_append, bump_min, List.length_singleton]

/-- Reading a text from its beginning leads to the point found by counting. -/
theorem advanceOver_start : start.advanceOver text = ofText text := by
  induction text using List.reverseRecOn with
  | nil => rfl
  | append_singleton text c ih =>
    rw [advanceOver_append, ih, ofText_concat]
    rfl

theorem offset_ofText_le : (ofText text).offset ≤ (ofText (text ++ rest)).offset := by
  simp only [ofText, List.length_append]
  omega

end Position

/-! ### The points of a piece -/

namespace Piece

variable {p : Position} {piece : Piece} {before after : List Piece} {lexeme : Lexeme}
  {lexemes : List Lexeme}

theorem start_token_ofLexeme : (ofLexeme p lexeme).token.start = p := by
  cases lexeme <;> rfl

/-- The end of a token is the point to which the cursor comes. An error finds its end by itself,
from its beginning and its character, and it is the same point. -/
theorem stop_token_ofLexeme :
    (ofLexeme p lexeme).token.stop = p.advanceOver lexeme.text := by
  cases lexeme <;> rfl

theorem points_of_locate_eq_append (h : locate p lexemes = before ++ piece :: after) :
    piece.token.start = p.advanceOver (textOf before) ∧
      piece.token.stop = p.advanceOver (textOf before ++ piece.text) := by
  induction before generalizing p lexemes with
  | nil =>
    cases lexemes with
    | nil =>
      cases h
      exact ⟨rfl, rfl⟩
    | cons lexeme lexemes =>
      cases h
      exact ⟨start_token_ofLexeme, stop_token_ofLexeme⟩
  | cons first before ih =>
    cases lexemes with
    | nil => simp [locate] at h
    | cons lexeme lexemes =>
      obtain ⟨rfl, htail⟩ := List.cons.inj h
      rw [textOf_cons, List.append_assoc, Position.advanceOver_append, Position.advanceOver_append]
      exact ih htail

end Piece

/-! ### The tokens of a selector -/

namespace TokenStream

variable {source : String} {piece other : Piece} {before between after : List Piece}

/-- The points of a piece are found by counting in the text before it and in its own. -/
theorem points_of_pieces_eq_append
    (h : (ofText source.toList).pieces = before ++ piece :: after) :
    piece.token.start = .ofText (Piece.textOf before) ∧
      piece.token.stop = .ofText (Piece.textOf before ++ piece.text) := by
  rw [pieces_ofText] at h
  rw [← Position.advanceOver_start, ← Position.advanceOver_start]
  exact Piece.points_of_locate_eq_append h

theorem textOf_of_pieces_eq_append
    (h : (ofText source.toList).pieces = before ++ piece :: after) :
    source.toList = Piece.textOf before ++ piece.text ++ Piece.textOf after := by
  rw [← textOf_pieces_ofText source.toList, h, Piece.textOf_append, Piece.textOf_cons,
    List.append_assoc]

theorem start_eq_stop_of_pieces_eq_append
    (h : (ofText source.toList).pieces = before ++ piece :: other :: after) :
    other.token.start = piece.token.stop := by
  have hother : (ofText source.toList).pieces = (before ++ [piece]) ++ other :: after := by
    rw [h, List.append_assoc]
    rfl
  rw [(points_of_pieces_eq_append h).2, (points_of_pieces_eq_append hother).1, Piece.textOf_append]
  simp

/-- A piece behind another one does not begin with a smaller offset than the other ends. -/
theorem offset_le_of_pieces_eq_append
    (h : (ofText source.toList).pieces = before ++ piece :: (between ++ other :: after)) :
    piece.token.stop.offset ≤ other.token.start.offset := by
  have hother :
      (ofText source.toList).pieces = (before ++ piece :: between) ++ other :: after := by
    rw [h, List.append_assoc]
    rfl
  rw [(points_of_pieces_eq_append h).2, (points_of_pieces_eq_append hother).1, Piece.textOf_append,
    Piece.textOf_cons, ← List.append_assoc]
  exact Position.offset_ofText_le

/-- The two offsets of a piece count the text before it, and that text and its own. -/
theorem offsets_of_pieces_eq_append
    (h : (ofText source.toList).pieces = before ++ piece :: after) :
    piece.token.start.offset = min (Piece.textOf before).length Position.limit ∧
      piece.token.stop.offset =
        min ((Piece.textOf before).length + piece.text.length) Position.limit := by
  obtain ⟨hstart, hstop⟩ := points_of_pieces_eq_append h
  rw [hstart, hstop]
  simp [Position.ofText]

/-- The points of the tokens of a selector. Every token stands between the point that counting gives
for the text before its piece and the point for the text up to the end of its piece. So each token
begins where the one before it ends, offsets never decrease, and the width of a token is the number
of characters that it covers, as long as the selector is short enough for the counters. -/
theorem tokens_are_located (source : String) :
    tokenize source = (ofText source.toList).pieces.map Piece.token ∧
      (∀ before piece after, (ofText source.toList).pieces = before ++ piece :: after →
        source.toList = Piece.textOf before ++ piece.text ++ Piece.textOf after ∧
          piece.token.start = .ofText (Piece.textOf before) ∧
          piece.token.stop = .ofText (Piece.textOf before ++ piece.text)) ∧
      (tokenize source).IsChain (fun s t => t.start = s.stop) ∧
      (tokenize source).Pairwise (fun s t => s.stop.offset ≤ t.start.offset) ∧
      (∀ token ∈ tokenize source, token.start.offset ≤ token.stop.offset) ∧
      (source.length < 0x100000000 →
        ∀ piece ∈ (ofText source.toList).pieces, piece.token.spanLength = piece.text.length) := by
  have htokens := tokenize_eq_map_pieces source
  refine ⟨htokens, ?_, ?_, ?_, ?_, ?_⟩
  · intro before piece after h
    exact ⟨textOf_of_pieces_eq_append h, points_of_pieces_eq_append h⟩
  · rw [htokens, List.isChain_map, List.isChain_iff_forall_rel_of_append_cons_cons]
    intro piece other before after h
    exact start_eq_stop_of_pieces_eq_append h
  · rw [htokens, List.pairwise_map, List.pairwise_iff_forall_sublist]
    intro piece other hsub
    -- The two pieces stand in two parts of the list, one after the other.
    obtain ⟨left, right, hsplit, hpiece, hother⟩ := List.cons_sublist_iff.1 hsub
    obtain ⟨before, between, rfl⟩ := List.append_of_mem hpiece
    obtain ⟨between', after, rfl⟩ := List.append_of_mem (List.singleton_sublist.1 hother)
    have h : (ofText source.toList).pieces =
        before ++ piece :: ((between ++ between') ++ other :: after) := by
      rw [hsplit]
      simp
    exact offset_le_of_pieces_eq_append h
  · intro token htoken
    rw [htokens] at htoken
    obtain ⟨piece, hpiece, rfl⟩ := List.mem_map.1 htoken
    obtain ⟨before, after, h⟩ := List.append_of_mem hpiece
    obtain ⟨hstart, hstop⟩ := offsets_of_pieces_eq_append h
    omega
  · intro hlength piece hpiece
    obtain ⟨before, after, h⟩ := List.append_of_mem hpiece
    obtain ⟨hstart, hstop⟩ := offsets_of_pieces_eq_append h
    have htext := congrArg List.length (textOf_of_pieces_eq_append h)
    rw [String.length_toList, List.length_append, List.length_append] at htext
    rw [Token.spanLength, hstart, hstop, Position.limit]
    omega

end TokenStream

end DocSelector
