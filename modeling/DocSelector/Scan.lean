import DocSelector.Cursor
import DocSelector.Lexeme

/-!
# Scans

A scan reads one token at a cursor, or finds one error. It walks on from the cursor at which it
begins, and the text of the token is what lies between that cursor and the one at which it ends. The
scan of a string may walk to the end of the text without finding the closing quote; then it goes
back to where it began, and passes the opening quote alone.

What a scan finds can be told from the text ahead of the cursor: it is the first lexeme.

## Main definitions

* `Scan`: a token or an error, and the cursor behind it.
* `Cursor.scanContent`: the content of a string.
* `Cursor.scan`: the token or error that begins with the next character.

## Main statements

* `Cursor.scanContent_skip`: the content of a string is the one that its text spells.
* `Cursor.scan_eq_take`: a scan takes the first lexeme of the text ahead.
-/

namespace DocSelector

/-- What a scan finds: a token or an error, and the cursor behind it. -/
abbrev Scan := Except LexicalError Token × Cursor

namespace Cursor

/-- The token of the kind for the text from `start` to `stop`. -/
def found (start stop : Cursor) (kind : Token.Kind) : Scan :=
  (.ok {
    kind
    value := String.ofList (stop.sliceFrom start.bytePos)
    start := start.position
    stop := stop.position }, stop)

/-- The error that the next character is in. Only this character is passed. -/
def failed (start : Cursor) (cause : LexicalError.Cause) : Scan :=
  (.error { cause, start := start.position }, start.skip 1)

/-- A token of one character. -/
def scanSingle (start : Cursor) (kind : Token.Kind) : Scan := start.found (start.skip 1) kind

/-- One colon, or two that stand together. -/
def scanColon (start : Cursor) : Scan :=
  let stop := start.skip 1
  if stop.current? = some ':' then start.found (stop.skip 1) .namespaceSeparator
  else start.found stop .punctuation

/-- A number, the next character of which is a digit. -/
def scanNumber (start : Cursor) : Scan := start.found (start.eatWhile Char.isDigit) .number

/-- A word, the next character of which may begin one. Its text tells whether it is a keyword. -/
def scanWord (start : Cursor) : Scan :=
  let stop := (start.skip 1).eatWhile isWordChar
  match Keyword.ofText? (String.ofList (stop.sliceFrom start.bytePos)) with
  | some keyword => start.found stop (.keyword keyword)
  | none => start.found stop .identifier

/-- What the rest of a string opened by `quote` stands for, and the cursor behind the closing quote.
If the string is not closed, there is nothing. -/
def scanContent (quote : Char) (opened : Cursor) : Option (String × Cursor) :=
  go opened none opened.ahead
where
  /-- Goes on through the text ahead. Up to the first backslash nothing is gathered, since the
  string stands for the text as it is; from there on `decoded` holds what the string stands for so
  far. -/
  go (cursor : Cursor) (decoded : Option String) : List Char → Option (String × Cursor)
    | [] => none
    | c :: rest =>
      let value := decoded.getD (String.ofList (cursor.sliceFrom opened.bytePos))
      let after := cursor.pass c rest
      if c = quote then some (value, after)
      else if c = '\\' then
        match rest with
        -- A backslash at the end of the text leaves the string open.
        | [] => none
        | d :: rest =>
          go (after.pass d rest) (value ++ String.ofList (Literal.pairValue quote d)) rest
      else go after (decoded.map (·.push c)) rest

/-- A string. If it is not closed, the scan goes back to `start` and finds an error there. -/
def scanString (start : Cursor) (quote : Char) : Scan :=
  match scanContent quote (start.skip 1) with
  | some (value, stop) =>
    (.ok { kind := .string, value, start := start.position, stop := stop.position }, stop)
  | none => start.failed (.unterminatedString quote)

/-- The token or error that begins with `c`, the next character. -/
def scan (start : Cursor) (c : Char) : Scan :=
  match CharClass.of c with
  | .newline => start.scanSingle .newline
  | .blank => start.scanSingle .whitespace
  | .colon => start.scanColon
  | .quote => start.scanString c
  | .digit => start.scanNumber
  | .wordStart => start.scanWord
  | .mark kind => start.scanSingle kind
  | .foreign => start.failed (.unexpectedCharacter c)

/-- The lexeme as a scan finds it: the token or the error, and the cursor behind its text. -/
def take (start : Cursor) (lexeme : Lexeme) : Scan :=
  let stop := start.skip lexeme.text.length
  (lexeme.item start.position stop.position, stop)

variable {start opened : Cursor} {c quote : Char} {kind : Token.Kind} {text rest : List Char}

/-- The token for a text that lies ahead is a plain lexeme. -/
theorem found_skip (text : List Char) (h : start.ahead = text ++ rest) :
    start.found (start.skip text.length) kind = start.take (.plain kind text) := by
  rw [found, sliceFrom_skip, h, List.take_left]
  rfl

theorem scanSingle_eq_take (h : start.ahead = c :: rest) :
    start.scanSingle kind = start.take (.plain kind [c]) :=
  found_skip [c] h

theorem scanColon_eq_take (h : start.ahead = ':' :: rest) :
    start.scanColon = start.take (Lexeme.colon rest) := by
  have hcurrent : (start.skip 1).current? = rest.head? := by
    rw [current?, ahead_skip, h]
    rfl
  rw [scanColon, hcurrent]
  cases rest with
  | nil => exact found_skip [':'] h
  | cons d rest =>
    by_cases hd : d = ':'
    · subst hd
      have hstop : start.skip 2 = (start.skip 1).skip 1 := by
        rw [skip_skip]
      rw [List.head?_cons, if_pos rfl, ← hstop]
      exact found_skip [':', ':'] h
    · have hcolon : Lexeme.colon (d :: rest) = .plain .punctuation [':'] := by
        unfold Lexeme.colon
        split
        · next heq => exact absurd (List.cons.inj heq).1 hd
        · rfl
      rw [List.head?_cons, if_neg (by simpa using hd), hcolon]
      exact found_skip [':'] h

theorem scanNumber_eq_take (h : start.ahead = c :: rest) (hc : c.isDigit) :
    start.scanNumber = start.take (.plain .number (c :: rest.takeWhile Char.isDigit)) := by
  have hstop : start.eatWhile Char.isDigit =
      start.skip (c :: rest.takeWhile Char.isDigit).length := by
    have heat := @eatWhile_skip start 0 Char.isDigit
    rwa [List.drop_zero, h, List.takeWhile_cons_of_pos hc, Nat.zero_add] at heat
  rw [scanNumber, hstop]
  apply found_skip
  rw [h, List.cons_append, List.takeWhile_append_dropWhile]

theorem scanWord_eq_take (h : start.ahead = c :: rest) :
    start.scanWord = start.take (Lexeme.word (c :: rest.takeWhile isWordChar)) := by
  have hahead : start.ahead = (c :: rest.takeWhile isWordChar) ++ rest.dropWhile isWordChar := by
    rw [h, List.cons_append, List.takeWhile_append_dropWhile]
  have hstop : (start.skip 1).eatWhile isWordChar =
      start.skip (c :: rest.takeWhile isWordChar).length := by
    rw [eatWhile_skip, h, List.drop_one, List.tail_cons, List.length_cons, Nat.add_comm]
  have htext : (start.skip (c :: rest.takeWhile isWordChar).length).sliceFrom start.bytePos =
      c :: rest.takeWhile isWordChar := by
    rw [sliceFrom_skip, hahead, List.take_left]
  rw [scanWord, hstop, Lexeme.word]
  simp only [htext]
  cases Keyword.ofText? (String.ofList (c :: rest.takeWhile isWordChar)) with
  | some keyword => exact found_skip _ hahead
  | none => exact found_skip _ hahead

/-- The content of a string is the one that its text spells, whether it has been gathered or not. -/
theorem scanContent_skip {n : Nat} {decoded : Option String} (h : opened.ahead.drop n = text) :
    scanContent.go quote opened (opened.skip n) decoded text =
      (Literal.read? quote text).map fun content =>
        (decoded.getD (String.ofList (opened.ahead.take n)) ++ String.ofList content.value,
          opened.skip (n + content.raw.length + 1)) := by
  have hslice (n : Nat) : (opened.skip n).sliceFrom opened.bytePos = opened.ahead.take n :=
    sliceFrom_skip
  -- The loop carries what the string stands for so far: gathered in `decoded`, or still the slice
  -- from `opened` to the cursor.
  fun_induction Literal.read? quote text generalizing n decoded with
  | case1 => rfl
  | case2 =>
    simp [scanContent.go, hslice, pass_skip h, Literal.empty]
  | case3 c hc =>
    simp [scanContent.go, hc]
  | case4 d text =>
    simp [scanContent.go, hslice, pass_skip h, Literal.empty]
  | case5 d text hquote ih =>
    have hnext := drop_succ_of_drop_eq_cons h
    simp only [scanContent.go, hslice, if_neg hquote, if_true, pass_skip h, pass_skip hnext,
      ih (drop_succ_of_drop_eq_cons hnext), Option.map_map]
    refine congrArg (Option.map · _) (funext fun content => Prod.ext ?_ ?_)
    · simp [Literal.consPair, String.append_assoc]
    · simp only [Function.comp_apply, Literal.consPair, List.length_cons]
      exact congrArg opened.skip (by omega)
  | case6 c d text hquote hbackslash ih =>
    have hpush (s t : String) : s.push c ++ t = s ++ (String.singleton c ++ t) := by
      rw [String.push_eq_append, String.append_assoc]
    -- Without a backslash so far the slice grows by `c`, as `decoded` would.
    have htake : opened.ahead.take (n + 1) = opened.ahead.take n ++ [c] := by
      rw [List.take_add, h]
      rfl
    simp only [scanContent.go, hslice, if_neg hquote, if_neg hbackslash, pass_skip h,
      ih (drop_succ_of_drop_eq_cons h), Option.map_map]
    refine congrArg (Option.map · _) (funext fun content => Prod.ext ?_ ?_)
    · cases decoded with
      | none => simp [Literal.consPlain, htake, hpush]
      | some buffer => simp [Literal.consPlain, hpush]
    · simp only [Function.comp_apply, Literal.consPlain, List.length_cons]
      exact congrArg opened.skip (by omega)

theorem scanString_eq_take (h : start.ahead = quote :: rest) :
    start.scanString quote = start.take (Lexeme.quotation quote rest) := by
  have hopened : (start.skip 1).ahead = rest := by
    rw [ahead_skip, h]
    rfl
  have hcontent := @scanContent_skip (start.skip 1) quote rest 0 none hopened
  rw [scanString, scanContent, hopened, Lexeme.quotation]
  rw [skip] at hcontent
  rw [hcontent]
  cases Literal.read? quote rest with
  | none => rfl
  | some content =>
    have hlength :
        (Lexeme.literal quote content).text.length = 1 + (0 + content.raw.length + 1) := by
      rw [Lexeme.text_literal, List.length_cons, List.length_append, List.length_singleton]
      omega
    rw [take, hlength, ← skip_skip]
    simp [Lexeme.item]

/-- A scan takes the first lexeme of the text ahead. -/
theorem scan_eq_take (h : start.ahead = c :: rest) :
    start.scan c = start.take (Lexeme.startingWith c rest) := by
  rw [scan, Lexeme.startingWith]
  cases hclass : CharClass.of c with
  | colon =>
    obtain rfl := CharClass.eq_colon_of_of_eq_colon hclass
    exact scanColon_eq_take h
  | quote => exact scanString_eq_take h
  | digit => exact scanNumber_eq_take h (CharClass.of_eq_digit_iff.1 hclass)
  | wordStart => exact scanWord_eq_take h
  | foreign => rfl
  | newline => exact scanSingle_eq_take h
  | blank => exact scanSingle_eq_take h
  | mark kind => exact scanSingle_eq_take h

end Cursor

end DocSelector
