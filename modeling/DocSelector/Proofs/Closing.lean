import DocSelector.Proofs.Grammar
import DocSelector.Scan
import Mathlib.Algebra.Group.Nat.Even
import Mathlib.Data.List.DropRight

/-!
# Where a string closes

The scan of a string goes through its content from left to right and takes every backslash together
with the character behind it. So it depends on everything before a quote whether the quote is
reached as such, or as the partner of a backslash. Seen from the quote it depends only on the
backslashes that stand directly in front of it: if their number is even they pair off, and the quote
is unprotected. The string closes at the first quote of this sort, and without one it is never
closed.

## Main definitions

* `Literal.backslashesAtEnd`: the number of backslashes that a text ends with.
* `Literal.Unprotected`, `Literal.FirstUnprotected`: the quotes that no backslash protects, and the
  first of them.

## Main statements

* `Literal.unprotected_pair_iff`: a pair in front of a text protects nothing in it.
* `Literal.firstUnprotected_of_read?`, `Literal.not_unprotected_of_read?`: what is read of a string
  ends at the first unprotected quote, and nothing is read if there is none.
* `Cursor.string_closes_at_first_unprotected_quote`: the scan of a string, told from the quotes
  behind the opening one.
-/

namespace DocSelector

namespace Literal

/-- The number of backslashes that stand one behind the other at the end of the text. -/
def backslashesAtEnd (text : List Char) : Nat := (text.rtakeWhile (· == '\\')).length

/-- Behind `before` the text has a copy of the quote that no backslash protects: the backslashes
directly in front of it are even in number. -/
def Unprotected (quote : Char) (text before : List Char) : Prop :=
  before ++ [quote] <+: text ∧ Even (backslashesAtEnd before)

/-- The first unprotected copy of the quote stands behind `before`. -/
def FirstUnprotected (quote : Char) (text before : List Char) : Prop :=
  Unprotected quote text before ∧
    ∀ other, Unprotected quote text other → before.length ≤ other.length

variable {quote c d : Char} {text front before other : List Char} {l : Literal}

/-! ### Backslashes at the end of a text -/

@[simp] theorem backslashesAtEnd_nil : backslashesAtEnd [] = 0 := rfl

theorem backslashesAtEnd_concat :
    backslashesAtEnd (text ++ [c]) = if c = '\\' then backslashesAtEnd text + 1 else 0 := by
  rw [backslashesAtEnd, List.rtakeWhile_concat]
  by_cases hc : c = '\\'
  · simp [hc, backslashesAtEnd]
  · simp [hc]

/-- Only the text behind a character that is no backslash counts. -/
theorem backslashesAtEnd_append_cons (hc : c ≠ '\\') :
    backslashesAtEnd (front ++ c :: text) = backslashesAtEnd text := by
  -- The run is counted from the end of the text, so the text is taken apart there.
  induction text using List.reverseRecOn with
  | nil => rw [backslashesAtEnd_concat, if_neg hc, backslashesAtEnd_nil]
  | append_singleton text d ih =>
    rw [← List.cons_append, ← List.append_assoc, backslashesAtEnd_concat, backslashesAtEnd_concat,
      ih]

/-- A backslash and the character behind it do not change whether the number is even: either they
are no part of the run at the end, or they make it longer by two. -/
theorem even_backslashesAtEnd_pair :
    Even (backslashesAtEnd ('\\' :: d :: text)) ↔ Even (backslashesAtEnd text) := by
  induction text using List.reverseRecOn with
  | nil =>
    have hpair : backslashesAtEnd ['\\', d] = if d = '\\' then 2 else 0 :=
      @backslashesAtEnd_concat d ['\\']
    rw [hpair, backslashesAtEnd_nil]
    split <;> decide
  | append_singleton text c ih =>
    rw [← List.cons_append, ← List.cons_append, backslashesAtEnd_concat, backslashesAtEnd_concat]
    by_cases hc : c = '\\'
    · rw [if_pos hc, if_pos hc, Nat.even_add_one, Nat.even_add_one, ih]
    · rw [if_neg hc, if_neg hc]

/-! ### Unprotected quotes -/

theorem not_unprotected_nil : ¬Unprotected quote [] before := by
  rintro ⟨hbegin, -⟩
  simpa using hbegin.length_le

theorem unprotected_quote : Unprotected quote (quote :: text) [] :=
  ⟨List.prefix_append [quote] text, Even.zero⟩

/-- A quote at the beginning is the first that is unprotected. -/
theorem firstUnprotected_quote : FirstUnprotected quote (quote :: text) [] :=
  ⟨unprotected_quote, fun _ _ => Nat.zero_le _⟩

/-- A plain character in front of a text protects nothing in it. -/
theorem unprotected_cons_iff (hne : c ≠ quote) (hc : c ≠ '\\') :
    Unprotected quote (c :: text) before ↔
      ∃ inner, before = [c] ++ inner ∧ Unprotected quote text inner := by
  cases before with
  | nil => simp [Unprotected, hne.symm]
  | cons d before =>
    have heven : backslashesAtEnd (c :: before) = backslashesAtEnd before :=
      @backslashesAtEnd_append_cons c before [] hc
    constructor
    · rintro ⟨hbegin, hrun⟩
      obtain ⟨rfl, htail⟩ := List.cons_prefix_cons.1 hbegin
      exact ⟨before, rfl, htail, heven ▸ hrun⟩
    · rintro ⟨inner, heq, hbegin, hrun⟩
      obtain ⟨rfl, rfl⟩ := List.cons.inj heq
      exact ⟨List.cons_prefix_cons.2 ⟨rfl, hbegin⟩, heven.symm ▸ hrun⟩

/-- Nor does a pair, whatever stands in it. The quote itself may stand in it, and is protected. -/
theorem unprotected_pair_iff (hquote : quote ≠ '\\') :
    Unprotected quote ('\\' :: d :: text) before ↔
      ∃ inner, before = ['\\', d] ++ inner ∧ Unprotected quote text inner := by
  constructor
  · rintro ⟨hbegin, hrun⟩
    match before with
    | [] => exact absurd (List.cons_prefix_cons.1 hbegin).1 hquote
    | [c] =>
      -- The quote would be the partner of the backslash.
      obtain ⟨rfl, -⟩ := List.cons_prefix_cons.1 hbegin
      exact absurd hrun (by decide)
    | c :: e :: inner =>
      obtain ⟨rfl, htail⟩ := List.cons_prefix_cons.1 hbegin
      obtain ⟨rfl, hinner⟩ := List.cons_prefix_cons.1 htail
      exact ⟨inner, rfl, hinner, even_backslashesAtEnd_pair.1 hrun⟩
  · rintro ⟨inner, rfl, hbegin, hrun⟩
    exact ⟨(List.prefix_append_right_inj ['\\', d]).2 hbegin, even_backslashesAtEnd_pair.2 hrun⟩

/-- Where `front` protects nothing behind it and holds no unprotected quote itself, the first one is
the first behind it. -/
theorem FirstUnprotected.append (h : FirstUnprotected quote text before) (front : List Char)
    (hfront : ∀ other, Unprotected quote (front ++ text) other ↔
      ∃ inner, other = front ++ inner ∧ Unprotected quote text inner) :
    FirstUnprotected quote (front ++ text) (front ++ before) := by
  refine ⟨(hfront _).2 ⟨before, rfl, h.1⟩, ?_⟩
  intro other hother
  obtain ⟨inner, rfl, hinner⟩ := (hfront other).1 hother
  have hle := h.2 inner hinner
  rw [List.length_append, List.length_append]
  omega

/-! ### Reading a string -/

/-- What is read of a string ends at the first unprotected quote. -/
theorem firstUnprotected_of_read? (hquote : quote ≠ '\\') (h : read? quote text = some l) :
    FirstUnprotected quote text l.raw := by
  fun_induction read? quote text generalizing l with
  | case1 => cases h
  | case2 =>
    cases h
    exact firstUnprotected_quote
  | case3 => cases h
  | case4 =>
    cases h
    exact firstUnprotected_quote
  | case5 d text _ ih =>
    obtain ⟨inner, hinner, rfl⟩ := Option.map_eq_some_iff.1 h
    exact (ih hinner).append ['\\', d] fun _ => unprotected_pair_iff hquote
  | case6 c d text hne hbackslash ih =>
    obtain ⟨inner, hinner, rfl⟩ := Option.map_eq_some_iff.1 h
    exact (ih hinner).append [c] fun _ => unprotected_cons_iff hne hbackslash

/-- If nothing is read, every quote is protected. -/
theorem not_unprotected_of_read? (hquote : quote ≠ '\\') (h : read? quote text = none) :
    ¬Unprotected quote text before := by
  fun_induction read? quote text generalizing before with
  | case1 => exact not_unprotected_nil
  | case2 => cases h
  | case3 c hne =>
    rintro ⟨hbegin, -⟩
    have hlength := hbegin.length_le
    rw [List.length_append, List.length_singleton, List.length_singleton] at hlength
    obtain rfl : before = [] := List.length_eq_zero_iff.1 (by omega)
    exact hne (List.cons_prefix_cons.1 hbegin).1.symm
  | case4 => cases h
  | case5 d text _ ih =>
    rw [unprotected_pair_iff hquote]
    rintro ⟨inner, -, hinner⟩
    exact ih (Option.map_eq_none_iff.1 h) hinner
  | case6 c d text hne hbackslash ih =>
    rw [unprotected_cons_iff hne hbackslash]
    rintro ⟨inner, -, hinner⟩
    exact ih (Option.map_eq_none_iff.1 h) hinner

end Literal

/-! ### The scan of a string -/

namespace Cursor

open Grammar (Quote)
open Literal (Unprotected FirstUnprotected)

variable {start stop : Cursor} {quote : Char} {rest : List Char} {token : Token}

theorem scanString_of_read?_eq_none (h : start.ahead = quote :: rest)
    (hread : Literal.read? quote rest = none) :
    start.scanString quote =
      (.error { cause := .unterminatedString quote, start := start.position }, start.skip 1) := by
  rw [scanString_eq_take h, Lexeme.quotation, hread]
  rfl

theorem scanString_of_read?_eq_some {content : Literal} (h : start.ahead = quote :: rest)
    (hread : Literal.read? quote rest = some content) :
    start.scanString quote =
      (.ok {
        kind := .string
        value := String.ofList content.value
        start := start.position
        stop := (start.skip (content.raw.length + 2)).position },
        start.skip (content.raw.length + 2)) := by
  have hlength : (Lexeme.literal quote content).text.length = content.raw.length + 2 := by
    rw [Lexeme.text_literal, List.length_cons, List.length_append, List.length_singleton]
  rw [scanString_eq_take h, Lexeme.quotation, hread, take, hlength]
  rfl

/-- A string is found exactly if one of the quotes behind the opening one is unprotected. It ends at
the first of these: its token lies between the opening quote and the point behind the closing one,
and there the scan goes on. If there is none, the string is never closed; the error is about the
opening quote, and the scan goes on right behind it. -/
theorem string_closes_at_first_unprotected_quote (hquote : Quote quote)
    (h : start.ahead = quote :: rest) :
    ((∃ token stop, start.scanString quote = (.ok token, stop)) ↔
        ∃ before, Unprotected quote rest before) ∧
      (∀ token stop, start.scanString quote = (.ok token, stop) →
        ∃ before after, FirstUnprotected quote rest before ∧ rest = before ++ quote :: after ∧
          stop = start.skip (quote :: (before ++ [quote])).length ∧ stop.ahead = after ∧
          token.kind = .string ∧ token.start = start.position ∧ token.stop = stop.position) ∧
      ((∀ before, ¬Unprotected quote rest before) →
        start.scanString quote =
            (.error { cause := .unterminatedString quote, start := start.position },
              start.skip 1) ∧
          (start.skip 1).ahead = rest) := by
  cases hread : Literal.read? quote rest with
  | none =>
    have hnone (before : List Char) : ¬Unprotected quote rest before :=
      Literal.not_unprotected_of_read? hquote.ne_backslash hread
    have hscan := scanString_of_read?_eq_none h hread
    refine ⟨?_, ?_, fun _ => ⟨hscan, ?_⟩⟩
    · simp [hscan, hnone]
    · intro token stop heq
      cases hscan.symm.trans heq
    · rw [ahead_skip, h, List.drop_one, List.tail_cons]
  | some content =>
    have hfirst := Literal.firstUnprotected_of_read? hquote.ne_backslash hread
    have hscan := scanString_of_read?_eq_some h hread
    obtain ⟨after, hafter⟩ := hfirst.1.1
    refine ⟨⟨fun _ => ⟨_, hfirst.1⟩, fun _ => ⟨_, _, hscan⟩⟩, ?_, fun hnone => ?_⟩
    · intro token stop heq
      cases hscan.symm.trans heq
      have hrest : rest = content.raw ++ quote :: after := by
        rw [← hafter, List.append_assoc, List.singleton_append]
      have hlength : (quote :: (content.raw ++ [quote])).length = content.raw.length + 2 := by
        rw [List.length_cons, List.length_append, List.length_singleton]
      have hahead : start.ahead = (quote :: (content.raw ++ [quote])) ++ after := by
        rw [h, ← hafter, List.cons_append]
      refine ⟨content.raw, after, hfirst, hrest, by rw [hlength], ?_, rfl, rfl, rfl⟩
      rw [ahead_skip, hahead, ← hlength, List.drop_left]
    · exact absurd hfirst.1 (hnone content.raw)

/-- A quote behind one backslash, and two others behind two and behind none. The string is closed,
at the first of its quotes that is unprotected. -/
theorem string_closes_at_first_unprotected_quote_second :
    Quote '"' ∧ ((ofText "a\"\\\"\\\\\"b\"".toList).skip 1).ahead = '"' :: "\\\"\\\\\"b\"".toList ∧
      ¬Unprotected '"' "\\\"\\\\\"b\"".toList "\\".toList ∧
      Unprotected '"' "\\\"\\\\\"b\"".toList "\\\"\\\\".toList ∧
      ∃ token stop before after,
        ((ofText "a\"\\\"\\\\\"b\"".toList).skip 1).scanString '"' = (.ok token, stop) ∧
          FirstUnprotected '"' "\\\"\\\\\"b\"".toList before ∧
          "\\\"\\\\\"b\"".toList = before ++ '"' :: after ∧ stop.ahead = after := by
  have hahead : ((ofText "a\"\\\"\\\\\"b\"".toList).skip 1).ahead =
      '"' :: "\\\"\\\\\"b\"".toList := by
    decide
  have hfree : Unprotected '"' "\\\"\\\\\"b\"".toList "\\\"\\\\".toList :=
    ⟨by decide, by decide⟩
  obtain ⟨hiff, hplace, -⟩ := string_closes_at_first_unprotected_quote (.inl rfl) hahead
  obtain ⟨token, stop, hscan⟩ := hiff.2 ⟨_, hfree⟩
  obtain ⟨before, after, hfirst, hrest, -, hstop, -⟩ := hplace token stop hscan
  exact ⟨.inl rfl, hahead, fun h => absurd h.2 (by decide), hfree, token, stop, before, after,
    hscan, hfirst, hrest, hstop⟩

end Cursor

end DocSelector
