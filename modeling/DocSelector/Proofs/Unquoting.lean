import DocSelector.Text.Quoted
import Mathlib.Data.List.Basic

/-!
# Reading quoted text back

A text can be told from its quoted form, whatever characters it holds. Behind the opening delimiter
the characters are read one by one. One that is shown as itself is no backslash, so a backslash
begins a pair of two characters or the code point of one in braces, and what has been read first
tells where the next character begins. The closing delimiter is the first one that is met in this
way, as every other stands behind a backslash.

## Main definitions

* `Text.hexValue`: the number that hexadecimal digits are written for.
* `Text.readCharacter?`: the first character of what is quoted.
* `Text.readContent?`, `Text.unquote?`: all of what is quoted, up to the closing delimiter.

## Main statements

* `Text.hexValue_toDigits`: the number comes back from its digits.
* `Text.readCharacter?_escape`: a character comes back, whatever follows it.
* `Text.unquote?_quoted`: a text comes back, whatever follows its quoted form.
-/

namespace DocSelector.Text

/-- The hexadecimal digits, each at the place of its value. -/
def hexAlphabet : List Char := "0123456789abcdef".toList

/-- The number that hexadecimal digits are written for. -/
def hexValue (digits : List Char) : Nat :=
  digits.foldl (fun value digit => 16 * value + hexAlphabet.idxOf digit) 0

/-- The character that a letter behind a backslash stands for. Any other character stands for itself
there. -/
def ofLetter : Char → Char
  | '0' => '\x00'
  | 't' => '\t'
  | 'n' => '\n'
  | 'r' => '\r'
  | c => c

/-- The first character of what is quoted, and what is left to be read. -/
def readCharacter? : List Char → Option (Char × List Char)
  | [] => none
  | ['\\'] => none
  | '\\' :: 'u' :: '\x7b' :: text =>
    match text.dropWhile (· != '\x7d') with
    | [] => none
    | _ :: rest => some (Char.ofNat (hexValue (text.takeWhile (· != '\x7d'))), rest)
  | '\\' :: c :: text => some (ofLetter c, text)
  | c :: text => some (c, text)

theorem length_lt_of_readCharacter? {c : Char} {text rest : List Char}
    (h : readCharacter? text = some (c, rest)) : rest.length < text.length := by
  unfold readCharacter? at h
  split at h
  · cases h
  · cases h
  · next text =>
    split at h
    · cases h
    · next brace _ hdrop =>
      cases h
      have hle := (List.dropWhile_sublist (l := text) (· != '\x7d')).length_le
      rw [hdrop] at hle
      simp only [List.length_cons] at hle ⊢
      omega
  · cases h
    simp only [List.length_cons]
    omega
  · cases h
    simp

/-- What is quoted up to the closing delimiter, and what stands behind that. -/
def readContent? (delimiter : Char) : List Char → Option (List Char × List Char)
  | [] => none
  | c :: text =>
    if c = delimiter then some ([], text)
    else
      match _h : readCharacter? (c :: text) with
      | none => none
      | some (d, rest) =>
        (readContent? delimiter rest).map fun (content, after) => (d :: content, after)
termination_by text => text.length
decreasing_by exact length_lt_of_readCharacter? _h

/-- The text that a quoted text at the beginning shows, and what stands behind the quoted text. -/
def unquote? (delimiter : Char) : List Char → Option (List Char × List Char)
  | [] => none
  | c :: text => if c = delimiter then readContent? delimiter text else none

variable {delimiter c : Char} {text rest : List Char}

/-! ### Hexadecimal numbers -/

theorem hexValue_concat (digits : List Char) (d : Char) :
    hexValue (digits ++ [d]) = 16 * hexValue digits + hexAlphabet.idxOf d := by
  rw [hexValue, List.foldl_append]
  rfl

theorem idxOf_digitChar : ∀ d < 16, hexAlphabet.idxOf d.digitChar = d := by
  decide

/-- The last digit is the remainder of a division by sixteen, the others are those of the
quotient. -/
theorem hexValue_toDigits (n : Nat) : hexValue (Nat.toDigits 16 n) = n := by
  induction n using Nat.strongRecOn with
  | ind n ih =>
    by_cases hn : n < 16
    · rw [Nat.toDigits_of_lt_base hn]
      show 16 * 0 + hexAlphabet.idxOf n.digitChar = n
      rw [idxOf_digitChar n hn, Nat.zero_add]
    · have hquotient : 0 < n / 16 := by omega
      have hlast : n % 16 < 16 := by omega
      have hdigits := Nat.toDigits_append_toDigits (by decide : 1 < 16) hquotient hlast
      rw [Nat.div_add_mod, Nat.toDigits_of_lt_base hlast] at hdigits
      rw [← hdigits, hexValue_concat, ih (n / 16) (by omega), idxOf_digitChar _ hlast]
      omega

theorem brace_not_mem_hexDigits : '\x7d' ∉ hexDigits c := by
  intro h
  obtain ⟨d, hd, hbrace⟩ := exists_digitChar_of_mem_toDigits (by decide) h
  have hnone : ∀ d < 16, '\x7d' ≠ d.digitChar := by decide
  exact hnone d hd hbrace

/-! ### One character -/

theorem readCharacter?_codePoint (c : Char) (rest : List Char) :
    readCharacter? ('\\' :: 'u' :: '\x7b' :: (hexDigits c ++ '\x7d' :: rest)) = some (c, rest) := by
  have hdigits : ∀ d ∈ hexDigits c, (d != '\x7d') = true := by
    intro d hd
    rw [bne_iff_ne]
    rintro rfl
    exact brace_not_mem_hexDigits hd
  rw [readCharacter?, List.takeWhile_append_of_pos hdigits, List.dropWhile_append_of_pos hdigits]
  simp [hexDigits, hexValue_toDigits, Char.ofNat_toNat]

theorem readCharacter?_plain (hc : c ≠ '\\') (rest : List Char) :
    readCharacter? (c :: rest) = some (c, rest) := by
  unfold readCharacter?
  split <;> simp_all

/-- A character comes back from the form in which it is shown, whatever follows. -/
theorem readCharacter?_escape (hdelimiter : delimiter = '"' ∨ delimiter = '\'') (c : Char)
    (rest : List Char) : readCharacter? (escape delimiter c ++ rest) = some (c, rest) := by
  rw [escape]
  split
  · next letter hletter =>
    unfold escapeLetter? at hletter
    split at hletter <;> cases hletter <;> rfl
  · next hletter =>
    have hc : c ≠ '\\' := by
      rintro rfl
      cases hletter
    by_cases hquote : c = delimiter
    · rw [if_pos hquote, hquote]
      rcases hdelimiter with rfl | rfl <;> rfl
    · rw [if_neg hquote]
      by_cases hprint : isUnprintable c = true
      · rw [if_pos hprint]
        simpa using readCharacter?_codePoint c rest
      · rw [if_neg hprint]
        exact readCharacter?_plain hc rest

/-! ### All of the text -/

/-- No character is shown in a form that begins with the delimiter. -/
theorem exists_escape_eq_cons (hdelimiter : delimiter ≠ '\\') (c : Char) :
    ∃ d shown, escape delimiter c = d :: shown ∧ d ≠ delimiter := by
  rw [escape]
  split
  · exact ⟨_, _, rfl, hdelimiter.symm⟩
  · split_ifs with hquote hprint
    · exact ⟨_, _, rfl, hdelimiter.symm⟩
    · exact ⟨_, _, rfl, hdelimiter.symm⟩
    · exact ⟨_, _, rfl, hquote⟩

theorem readContent?_escape (hdelimiter : delimiter = '"' ∨ delimiter = '\'') (c : Char)
    (text : List Char) :
    readContent? delimiter (escape delimiter c ++ text) =
      (readContent? delimiter text).map fun (content, after) => (c :: content, after) := by
  have hread := readCharacter?_escape hdelimiter c text
  have hbackslash : delimiter ≠ '\\' := by rcases hdelimiter with rfl | rfl <;> decide
  obtain ⟨d, shown, hshown, hd⟩ := exists_escape_eq_cons hbackslash c
  rw [hshown, List.cons_append] at hread ⊢
  rw [readContent?, if_neg hd]
  split
  · next hnone => cases hread.symm.trans hnone
  · next hsome => cases hread.symm.trans hsome; rfl

theorem readContent?_flatMap (hdelimiter : delimiter = '"' ∨ delimiter = '\'')
    (text rest : List Char) :
    readContent? delimiter (text.flatMap (escape delimiter) ++ delimiter :: rest) =
      some (text, rest) := by
  induction text with
  | nil => rw [List.flatMap_nil, List.nil_append, readContent?, if_pos rfl]
  | cons c text ih =>
    rw [List.flatMap_cons, List.append_assoc, readContent?_escape hdelimiter, ih]
    rfl

/-- A text comes back from its quoted form, whatever follows. -/
theorem unquote?_quoted (hdelimiter : delimiter = '"' ∨ delimiter = '\'') (text rest : List Char) :
    unquote? delimiter (quoted delimiter text ++ rest) = some (text, rest) := by
  rw [quoted, List.cons_append, List.append_assoc, List.singleton_append, unquote?, if_pos rfl]
  exact readContent?_flatMap hdelimiter text rest

/-- A digit behind a code point, what only looks like a code point, and the delimiter itself. -/
example : unquote? '"' "\"\\u\x7b1b\x7d0 \\\\u\x7b1b\x7d\\\"\" (2 tokens)".toList =
    some ("\x1b0 \\u\x7b1b\x7d\"".toList, " (2 tokens)".toList) := by
  cbv

end DocSelector.Text
