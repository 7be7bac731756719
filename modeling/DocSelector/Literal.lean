/-!
# String literals

A string opens with a quote and closes with the next copy of that quote which no backslash
protects. A backslash and the character behind it form a pair; five pairs stand for one character,
and every other pair stands for itself.

## Main definitions

* `Literal`: the content of a string as it is written and as it is meant.
* `Literal.read?`: reads the content up to the closing quote.

## Design notes

One pass over the text yields the written form and the meant form together. A backslash at the very
end of the text has no partner, so the string is not closed.
-/

namespace DocSelector

/-- The content of a string, without the quotes around it. -/
structure Literal where
  /-- The characters between the quotes. -/
  raw : List Char
  /-- The characters that they stand for. -/
  value : List Char
deriving DecidableEq, Repr

namespace Literal

/-- What `c` stands for behind a backslash in a string opened by `quote`, if the pair stands for a
single character. Only the quote that opened the string can be written so, not the other one. -/
def escaped? (quote c : Char) : Option Char :=
  match c with
  | 'n' => some '\n'
  | 't' => some '\t'
  | 'r' => some '\r'
  | '\\' => some '\\'
  | _ => if c = quote then some quote else none

/-- What a backslash and `c` stand for together. -/
def pairValue (quote c : Char) : List Char :=
  match escaped? quote c with
  | some d => [d]
  | none => ['\\', c]

def empty : Literal where
  raw := []
  value := []

/-- The content with an ordinary character in front. -/
def consPlain (c : Char) (l : Literal) : Literal where
  raw := c :: l.raw
  value := c :: l.value

/-- The content with a backslash and `c` in front. -/
def consPair (quote c : Char) (l : Literal) : Literal where
  raw := '\\' :: c :: l.raw
  value := pairValue quote c ++ l.value

/-- The content of the string opened by `quote` just before `text`, or nothing if the string is not
closed. The last character of a text can close a string, but never protect or precede anything. -/
def read? (quote : Char) : List Char → Option Literal
  | [] => none
  | [c] => if c = quote then some empty else none
  | c :: d :: text =>
    if c = quote then some empty
    else if c = '\\' then (read? quote text).map (consPair quote d)
    else (read? quote (d :: text)).map (consPlain c)

variable {quote c d : Char} {text : List Char} {l : Literal}

@[simp] theorem read?_quote : read? quote (quote :: text) = some empty := by
  cases text <;> simp [read?]

theorem read?_pair (hq : quote ≠ '\\') :
    read? quote ('\\' :: d :: text) = (read? quote text).map (consPair quote d) := by
  simp [read?, hq.symm]

theorem read?_plain (hc : c ≠ quote) (hb : c ≠ '\\') :
    read? quote (c :: text) = (read? quote text).map (consPlain c) := by
  cases text <;> simp [read?, hc, hb]

/-- The text begins with the content as written, and the closing quote follows. -/
theorem raw_append_isPrefix_of_read? (h : read? quote text = some l) :
    l.raw ++ [quote] <+: text := by
  fun_induction read? quote text generalizing l with
  | case1 => cases h
  | case2 => simp [← Option.some.inj h, empty]
  | case3 => cases h
  | case4 => simp [← Option.some.inj h, empty]
  | case5 d text _ ih =>
    obtain ⟨m, hm, rfl⟩ := Option.map_eq_some_iff.1 h
    simpa [consPair] using ih hm
  | case6 c d text _ _ ih =>
    obtain ⟨m, hm, rfl⟩ := Option.map_eq_some_iff.1 h
    simpa [consPlain] using ih hm

end Literal

end DocSelector
