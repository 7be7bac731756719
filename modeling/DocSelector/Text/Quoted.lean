import DocSelector.Text.Unprintable

/-!
# Quoted text

A quoted text stands between two copies of a delimiter and shows every character: the delimiter and
the backslash behind a backslash, the usual control characters as a letter behind a backslash, and
any other unprintable character by its code point in hexadecimal, `\u` and braces around it. So a
quoted text never holds a line break, and the text can be told from it.

## Main definitions

* `Text.escape`: how one character is shown.
* `Text.quoted`: a text between delimiters.
* `Text.quoteString`, `Text.quoteChar`: a string in double quotes, a character in single quotes.
-/

namespace DocSelector.Text

/-- The letter that stands for a character behind a backslash, for the characters that have one in
every quoted text. -/
def escapeLetter? : Char → Option Char
  | '\x00' => some '0'
  | '\t' => some 't'
  | '\n' => some 'n'
  | '\r' => some 'r'
  | '\\' => some '\\'
  | _ => none

/-- The code point of `c` in lower-case hexadecimal, without leading zeros. -/
def hexDigits (c : Char) : List Char := Nat.toDigits 16 c.toNat

/-- How `c` is shown in a text quoted by `delimiter`. -/
def escape (delimiter c : Char) : List Char :=
  match escapeLetter? c with
  | some letter => ['\\', letter]
  | none =>
    if c = delimiter then ['\\', c]
    else if isUnprintable c then ['\\', 'u', '\x7b'] ++ hexDigits c ++ ['\x7d']
    else [c]

/-- The text in quotes, every character shown by `escape`. -/
def quoted (delimiter : Char) (text : List Char) : List Char :=
  delimiter :: (text.flatMap (escape delimiter) ++ [delimiter])

/-- The string in double quotes. -/
def quoteString (s : String) : String := String.ofList (quoted '"' s.toList)

/-- The character in single quotes. -/
def quoteChar (c : Char) : String := String.ofList (quoted '\'' [c])

/-! ### Quoted texts are printable -/

variable {delimiter c : Char} {n base : Nat}

theorem exists_digitChar_of_mem_toDigits (hbase : 1 < base) (h : c ∈ Nat.toDigits base n) :
    ∃ d < base, c = d.digitChar := by
  induction n using Nat.strongRecOn with
  | ind n ih =>
    by_cases hn : n < base
    · rw [Nat.toDigits_of_lt_base hn, List.mem_singleton] at h
      exact ⟨n, hn, h⟩
    · have hquotient : 0 < n / base := Nat.div_pos (by omega) (by omega)
      have hlast : n % base < base := Nat.mod_lt n (by omega)
      rw [← Nat.div_add_mod n base, ← Nat.toDigits_append_toDigits hbase hquotient hlast,
        List.mem_append] at h
      rcases h with h | h
      · exact ih (n / base) (Nat.div_lt_self (by omega) hbase) h
      · rw [Nat.toDigits_of_lt_base hlast, List.mem_singleton] at h
        exact ⟨n % base, hlast, h⟩

theorem printable_toDigits (hbase : 1 < base) (hle : base ≤ 16) (n : Nat) :
    Printable (Nat.toDigits base n) := by
  intro c hc
  obtain ⟨d, hd, rfl⟩ := exists_digitChar_of_mem_toDigits hbase hc
  have hdigits : ∀ d < 16, 0x20 ≤ d.digitChar.toNat ∧ d.digitChar.toNat < 0x7f := by decide
  obtain ⟨hlow, hhigh⟩ := hdigits d (by omega)
  rw [isUnprintable_ascii hhigh, decide_eq_false_iff_not]
  omega

/-- A character stands for itself only if it can be seen. -/
theorem printable_escape (hdelimiter : Printable [delimiter]) (c : Char) :
    Printable (escape delimiter c) := by
  rw [escape]
  split
  · next letter hletter =>
    apply printable_of_ascii
    unfold escapeLetter? at hletter
    split at hletter <;> cases hletter <;> decide
  · by_cases hquote : c = delimiter
    · rw [if_pos hquote, hquote]
      show Printable (['\\'] ++ [delimiter])
      exact printable_append.2 ⟨printable_of_ascii (by decide), hdelimiter⟩
    · rw [if_neg hquote]
      by_cases hprint : isUnprintable c = true
      · rw [if_pos hprint, printable_append, printable_append]
        exact ⟨⟨printable_of_ascii (by decide), printable_toDigits (by decide) (by decide) _⟩,
          printable_of_ascii (by decide)⟩
      · rw [if_neg hprint]
        simpa using hprint

/-- A quoted text is printable, whatever the text, so it stands on one line. -/
theorem printable_quoted (hdelimiter : Printable [delimiter]) (text : List Char) :
    Printable (quoted delimiter text) := by
  have hcontent : Printable (text.flatMap (escape delimiter)) := by
    intro c hc
    obtain ⟨d, -, hd⟩ := List.mem_flatMap.1 hc
    exact printable_escape hdelimiter d c hd
  have hends : isUnprintable delimiter = false := hdelimiter delimiter List.mem_cons_self
  simp [quoted, hends, hcontent]

theorem printable_quoteString (s : String) : Printable (quoteString s).toList := by
  rw [quoteString, String.toList_ofList]
  exact printable_quoted (printable_of_ascii (by decide)) _

theorem printable_quoteChar (c : Char) : Printable (quoteChar c).toList := by
  rw [quoteChar, String.toList_ofList]
  exact printable_quoted (printable_of_ascii (by decide)) _

end DocSelector.Text
