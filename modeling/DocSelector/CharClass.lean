import DocSelector.Text.Blank
import DocSelector.Token

/-!
# Character classes

The first character of a token decides how the token is read. Words and numbers are made of ASCII
characters only; blanks may be any of the Unicode blanks.

## Main definitions

* `CharClass`: what a character can begin.
* `CharClass.of`: the class of a character.
* `isWordChar`: the characters that continue a word.
-/

namespace DocSelector

/-- What a character begins when it is the first of a token. -/
inductive CharClass where
  | newline
  | blank
  | colon
  | quote
  | digit
  /-- A letter or an underscore, the first of a word. -/
  | wordStart
  | mark (kind : Token.Kind)
  /-- A character that begins no token. -/
  | foreign
deriving DecidableEq, Repr

def isQuote (c : Char) : Bool := c == '"' || c == '\''

/-- Whether `c` may begin a word: an ASCII letter or an underscore. -/
def isWordStart (c : Char) : Bool := c.isAlpha || c == '_'

/-- Whether `c` may continue a word: an ASCII letter, a digit or an underscore. -/
def isWordChar (c : Char) : Bool := c.isAlphanum || c == '_'

/-- The kind of the token that consists of the mark `c`, for marks that are tokens by themselves. -/
def markKind? : Char → Option Token.Kind
  | '/' => some .pathSeparator
  | '[' => some .openBracket
  | ']' => some .closeBracket
  | '?' => some .querySeparator
  | '&' => some .andSeparator
  | '.' | ',' | '=' | '-' | '#' | '*' | '+' | '~' | '!' | '|' | ';' | '(' | ')' | '\x7b' | '\x7d'
  | '<' | '>' => some .punctuation
  | _ => none

def CharClass.of (c : Char) : CharClass :=
  -- The line feed is a blank as well, so it is asked for first.
  if c = '\n' then newline
  else if Text.isBlank c then blank
  else if c = ':' then colon
  else if isQuote c then quote
  else if c.isDigit then digit
  else if isWordStart c then wordStart
  else
    match markKind? c with
    | some kind => mark kind
    | none => foreign

/-! ### Where the tests of a class agree with the class

The tests are made one after the other, but no two of them hold of one character, the two for blanks
apart. So each class is told by its own test. -/

variable {c : Char} {kind : Token.Kind}

/-- No blank lies between the space and the next line character. -/
theorem toNat_of_isBlank (h : Text.isBlank c = true) : c.toNat ≤ 0x20 ∨ 0x85 ≤ c.toNat := by
  simp only [Text.isBlank, Text.inRanges, Text.blankRanges, List.any_cons, List.any_nil,
    Bool.or_eq_true, Bool.and_eq_true, decide_eq_true_eq, Bool.false_eq_true, or_false] at h
  omega

theorem toNat_of_isDigit (h : c.isDigit = true) : 0x30 ≤ c.toNat ∧ c.toNat ≤ 0x39 :=
  Char.isDigit_iff_toNat.1 h

/-- The letters are those of the two alphabets. -/
theorem isAlpha_iff : c.isAlpha = true ↔ 'A' ≤ c ∧ c ≤ 'Z' ∨ 'a' ≤ c ∧ c ≤ 'z' := by
  have hupper : c.isUpper = true ↔ 'A' ≤ c ∧ c ≤ 'Z' := decide_eq_true_iff
  have hlower : c.isLower = true ↔ 'a' ≤ c ∧ c ≤ 'z' := by
    apply Bool.and_eq_true_iff.trans
    exact and_congr decide_eq_true_iff decide_eq_true_iff
  rw [← hupper, ← hlower]
  exact Bool.or_eq_true_iff

theorem toNat_of_isWordStart (h : isWordStart c = true) : 0x41 ≤ c.toNat ∧ c.toNat ≤ 0x7a := by
  have hcode {d e : Char} (hle : d ≤ e) : d.toNat ≤ e.toNat := UInt32.le_iff_toNat_le.1 hle
  rw [isWordStart, Bool.or_eq_true, isAlpha_iff, beq_iff_eq] at h
  rcases h with (⟨hfrom, hto⟩ | ⟨hfrom, hto⟩) | rfl
  · exact ⟨hcode hfrom, Nat.le_trans (hcode hto) (by decide)⟩
  · exact ⟨Nat.le_trans (by decide) (hcode hfrom), hcode hto⟩
  · decide

namespace CharClass

theorem eq_colon_of_of_eq_colon (h : of c = colon) : c = ':' := by
  rw [of] at h
  grind

theorem of_eq_newline_iff : of c = newline ↔ c = '\n' := by
  rw [of]
  grind

theorem of_eq_blank_iff : of c = blank ↔ c ≠ '\n' ∧ Text.isBlank c = true := by
  rw [of]
  grind

theorem of_eq_quote_iff : of c = quote ↔ isQuote c = true := by
  constructor
  · rw [of]
    grind
  · intro h
    simp only [isQuote, Bool.or_eq_true, beq_iff_eq] at h
    rcases h with rfl | rfl <;> rfl

/-- In the ranges of the digits and the letters, the tests for line feeds, blanks, colons and quotes
fail. -/
theorem of_eq_of_toNat
    (h : 0x30 ≤ c.toNat ∧ c.toNat ≤ 0x39 ∨ 0x41 ≤ c.toNat ∧ c.toNat ≤ 0x7a) :
    of c =
      if c.isDigit then digit
      else if isWordStart c then wordStart
      else
        match markKind? c with
        | some kind => mark kind
        | none => foreign := by
  have hne (d : Char) (hd : d.toNat < 0x30 ∨ d.toNat = 0x3a) : c ≠ d := by
    rintro rfl
    omega
  have hblank : Text.isBlank c = false := Bool.eq_false_iff.2 fun hb => by
    have := toNat_of_isBlank hb
    omega
  have hquote : isQuote c = false := by
    simp [isQuote, hne '"' (by decide), hne '\'' (by decide)]
  rw [of, if_neg (hne '\n' (by decide)), if_neg (by simp [hblank]), if_neg (hne ':' (by decide)),
    if_neg (by simp [hquote])]

theorem of_eq_digit_iff : of c = digit ↔ c.isDigit = true := by
  constructor
  · rw [of]
    grind
  · intro h
    rw [of_eq_of_toNat (.inl (toNat_of_isDigit h)), if_pos h]

theorem of_eq_wordStart_iff : of c = wordStart ↔ isWordStart c = true := by
  constructor
  · rw [of]
    grind
  · intro h
    have hle := toNat_of_isWordStart h
    have hdigit : ¬c.isDigit = true := fun hd => by
      have := toNat_of_isDigit hd
      omega
    rw [of_eq_of_toNat (.inr hle), if_neg hdigit, if_pos h]

theorem of_eq_mark_iff : of c = mark kind ↔ markKind? c = some kind := by
  constructor
  · rw [of]
    grind
  · intro h
    unfold markKind? at h
    split at h <;> cases h <;> rfl

/-- A character of which no test holds begins no token. -/
theorem of_eq_foreign_iff :
    of c = foreign ↔ c ≠ '\n' ∧ Text.isBlank c = false ∧ c ≠ ':' ∧ isQuote c = false ∧
      c.isDigit = false ∧ isWordStart c = false ∧ markKind? c = none := by
  rw [of]
  grind

end CharClass

/-- Marks are separators, brackets and punctuation. -/
theorem eq_of_markKind?_eq_some (h : markKind? c = some kind) :
    kind = .pathSeparator ∨ kind = .openBracket ∨ kind = .closeBracket ∨
      kind = .querySeparator ∨ kind = .andSeparator ∨ kind = .punctuation := by
  unfold markKind? at h
  split at h <;> cases h <;> simp

end DocSelector
