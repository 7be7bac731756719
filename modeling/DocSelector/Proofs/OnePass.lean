import DocSelector.Proofs.FirstError
import DocSelector.Proofs.Grammar
import DocSelector.Proofs.Location

/-!
# Valid selectors in one pass

Whether a selector is valid can be told by a machine that goes through its characters once, from
left to right, and never goes back. It only knows whether it is outside of any string, inside one,
or behind a backslash in one. Outside it stops at a character that begins nothing; inside a string
nothing can stop it.

The scan of a selector works otherwise: it takes whole tokens, and it goes back when a string turns
out to be open. Still the two agree, also on the first error and on its place. Every token takes the
machine from outside to outside, so an error begins where the machine was outside for the last time.

## Main definitions

* `OnePass.Mode`, `OnePass.Mode.step`, `OnePass.Mode.run`: the machine.
* `OnePass.LastOutside`: the beginning of a text after which the machine is outside for the last
  time.

## Main statements

* `OnePass.run_of_rule`: every token takes the machine from outside to outside.
* `OnePass.collect_lastOutside`: what is collected from a stream, told from the last stay outside.
* `OnePass.strict_agrees_with_machine`: the machine decides which selectors are valid, and where the
  others are in error.
-/

namespace DocSelector

namespace OnePass

open Grammar (Quote Body Rule)

/-! ### The machine -/

/-- Where the machine is: outside of any string, in a string opened by `quote`, or behind a
backslash in such a string. -/
inductive Mode where
  | outside
  | inside (quote : Char)
  | escape (quote : Char)
deriving DecidableEq, Repr

/-- The characters that may stand outside of strings, apart from the quotes. -/
def isOrdinary (c : Char) : Bool :=
  Text.isBlank c || c.isAlphanum || c == '_' ||
    [':', '/', '[', ']', '?', '&', '.', ',', '=', '-', '#', '*', '+', '~', '!', '|', ';', '(', ')',
      '\x7b', '\x7d', '<', '>'].contains c

namespace Mode

/-- The mode after one more character; there is none if the machine fails on the character. -/
def step : Mode → Char → Option Mode
  | outside, c =>
    if c = '"' ∨ c = '\'' then some (inside c) else if isOrdinary c then some outside else none
  | inside quote, c =>
    if c = quote then some outside
    else if c = '\\' then some (escape quote)
    else some (inside quote)
  | escape quote, _ => some (inside quote)

/-- The mode after a text, unless the machine fails on one of its characters. -/
def run (mode : Mode) (text : List Char) : Option Mode := text.foldlM step mode

end Mode

open Mode (outside inside escape)

/-- `LastOutside source before`: of all beginnings of `source` after which the machine is outside,
`before` is the longest. -/
def LastOutside (source before : List Char) : Prop :=
  before <+: source ∧ outside.run before = some outside ∧
    ∀ read, read <+: source → outside.run read = some outside → read.length ≤ before.length

variable {mode : Mode} {c quote : Char} {text rest body read before source : List Char}

@[simp] theorem run_nil : mode.run [] = some mode := rfl

@[simp] theorem run_cons :
    mode.run (c :: text) = (mode.step c).bind fun next => next.run text := rfl

theorem run_append : mode.run (text ++ rest) = (mode.run text).bind fun next => next.run rest := by
  rw [Mode.run, List.foldlM_append]
  rfl

/-! ### Outside of strings -/

theorem exists_markKind?_iff :
    (∃ kind, markKind? c = some kind) ↔
      c ∈ Grammar.separators.map Prod.fst ∨ c ∈ Grammar.marks := by
  simp only [Grammar.markKind?_iff, Grammar.separators, List.mem_cons]
  grind

theorem isOrdinary_iff :
    isOrdinary c = true ↔ Text.isBlank c = true ∨ c.isDigit = true ∨ isWordStart c = true ∨
      c = ':' ∨ ∃ kind, markKind? c = some kind := by
  rw [exists_markKind?_iff]
  simp only [isOrdinary, isWordStart, Char.isAlphanum, Grammar.separators, Grammar.marks,
    Bool.or_eq_true, beq_iff_eq, List.contains_iff_mem, List.mem_cons, List.map_cons, List.map_nil]
  grind

theorem isOrdinary_of_wordPart (h : Grammar.WordPart c) : isOrdinary c = true := by
  rw [isOrdinary_iff]
  rcases h with h | h
  · exact .inr (.inr (.inl (Grammar.isWordStart_iff.2 h)))
  · exact .inr (.inl (Grammar.isDigit_iff.2 h))

theorem isOrdinary_of_markKind? {kind : Token.Kind} (h : markKind? c = some kind) :
    isOrdinary c = true :=
  isOrdinary_iff.2 (.inr (.inr (.inr (.inr ⟨kind, h⟩))))

theorem not_quote_of_isOrdinary (h : isOrdinary c = true) : ¬Quote c := by
  rintro (rfl | rfl)
  · revert h
    decide
  · revert h
    decide

theorem step_of_isOrdinary (h : isOrdinary c = true) : outside.step c = some outside :=
  (if_neg (not_quote_of_isOrdinary h)).trans (if_pos h)

theorem step_of_quote (h : Quote quote) : outside.step quote = some (inside quote) :=
  if_pos h

theorem step_of_foreign (h : CharClass.of c = .foreign) : outside.step c = none := by
  obtain ⟨-, hblank, hcolon, hquote, hdigit, hword, hmark⟩ := CharClass.of_eq_foreign_iff.1 h
  have hnot : ¬isOrdinary c = true := by
    rw [isOrdinary_iff]
    simp [hblank, hcolon, hdigit, hword, hmark]
  have hopen : ¬Quote c := by
    rw [← Grammar.isQuote_iff, hquote]
    exact Bool.false_ne_true
  exact (if_neg hopen).trans (if_neg hnot)

theorem run_of_isOrdinary (h : ∀ c ∈ text, isOrdinary c = true) :
    outside.run text = some outside := by
  induction text with
  | nil => rfl
  | cons c text ih =>
    rw [List.forall_mem_cons] at h
    rw [run_cons, step_of_isOrdinary h.1]
    exact ih h.2

theorem run_of_word (h : Grammar.Word text rest) : outside.run text = some outside := by
  obtain ⟨c, tail, rfl, hstart, hrun⟩ := h
  apply run_of_isOrdinary
  rw [List.forall_mem_cons]
  exact ⟨isOrdinary_of_wordPart (.inl hstart), fun d hd => isOrdinary_of_wordPart (hrun.1 d hd)⟩

/-! ### Inside of strings -/

theorem step_inside_quote : (inside quote).step quote = some outside :=
  if_pos rfl

theorem step_inside_backslash (hquote : quote ≠ '\\') :
    (inside quote).step '\\' = some (escape quote) :=
  (if_neg hquote.symm).trans (if_pos rfl)

theorem step_inside_plain (hne : c ≠ quote) (hbackslash : c ≠ '\\') :
    (inside quote).step c = some (inside quote) :=
  (if_neg hne).trans (if_neg hbackslash)

/-- What may stand between quotes keeps the machine in the string. -/
theorem run_of_body (hquote : quote ≠ '\\') (h : Body quote body) :
    (inside quote).run body = some (inside quote) := by
  induction h with
  | nil => rfl
  | plain hne hbackslash _ ih =>
    rw [run_cons, step_inside_plain hne hbackslash]
    exact ih
  | pair _ ih =>
    rw [run_cons, step_inside_backslash hquote]
    exact ih

/-- Only a closing quote behind a body takes the machine out of a string. -/
theorem exists_body_of_run (hquote : quote ≠ '\\') :
    ∀ read : List Char, (inside quote).run read = some outside →
      ∃ body after, Body quote body ∧ read = body ++ quote :: after
  | [], h => by cases h
  | c :: read, h => by
    by_cases hc : c = quote
    · exact ⟨[], read, .nil, by rw [hc]; rfl⟩
    by_cases hbackslash : c = '\\'
    · rw [hbackslash, run_cons, step_inside_backslash hquote] at h
      cases read with
      | nil => cases h
      | cons d read =>
        obtain ⟨body, after, hbody, rfl⟩ := exists_body_of_run hquote read h
        exact ⟨'\\' :: d :: body, after, .pair hbody, by rw [hbackslash]; rfl⟩
    · rw [run_cons, step_inside_plain hc hbackslash] at h
      obtain ⟨body, after, hbody, rfl⟩ := exists_body_of_run hquote read h
      exact ⟨c :: body, after, .plain hc hbackslash hbody, rfl⟩

/-- As long as it does not come out of a string, the machine knows by which quote it was opened. -/
theorem run_of_forall_ne_outside (hmode : mode = inside quote ∨ mode = escape quote)
    (h : ∀ read, read <+: text → mode.run read ≠ some outside) :
    mode.run text = some (inside quote) ∨ mode.run text = some (escape quote) := by
  induction text generalizing mode with
  | nil => simpa using hmode
  | cons c text ih =>
    have hnext {next : Mode} (hstep : mode.step c = some next) :
        ∀ read, read <+: text → next.run read ≠ some outside := by
      intro read hread hrun
      refine h (c :: read) (List.cons_prefix_cons.2 ⟨rfl, hread⟩) ?_
      rw [run_cons, hstep]
      exact hrun
    have hstay {next : Mode} (hstep : mode.step c = some next)
        (hmode : next = inside quote ∨ next = escape quote) :
        mode.run (c :: text) = some (inside quote) ∨
          mode.run (c :: text) = some (escape quote) := by
      rw [run_cons, hstep]
      exact ih hmode (hnext hstep)
    rcases hmode with rfl | rfl
    · by_cases hc : c = quote
      · subst hc
        exact absurd rfl (hnext step_inside_quote [] List.nil_prefix)
      · by_cases hbackslash : c = '\\'
        · subst hbackslash
          exact hstay (step_inside_backslash (Ne.symm hc)) (.inr rfl)
        · exact hstay (step_inside_plain hc hbackslash) (.inl rfl)
    · exact hstay rfl (.inl rfl)

/-! ### The machine and the grammar -/

/-- Every token takes the machine from outside to outside. -/
theorem run_of_rule {kind : Token.Kind} (h : Rule kind text rest) (hkind : kind ≠ .error) :
    outside.run text = some outside := by
  cases h with
  | newline => rfl
  | whitespace hblank _ =>
    exact run_of_isOrdinary (List.forall_mem_singleton.2 (isOrdinary_iff.2 (.inl hblank)))
  | namespaceSeparator => rfl
  | colon _ => rfl
  | separator hmem =>
    have hmark := Grammar.markKind?_iff.2 (.inl hmem)
    exact run_of_isOrdinary (List.forall_mem_singleton.2 (isOrdinary_of_markKind? hmark))
  | mark hmem =>
    have hmark := Grammar.markKind?_iff.2 (.inr ⟨rfl, hmem⟩)
    exact run_of_isOrdinary (List.forall_mem_singleton.2 (isOrdinary_of_markKind? hmark))
  | number _ hrun => exact run_of_isOrdinary fun d hd => isOrdinary_of_wordPart (.inr (hrun.1 d hd))
  | keyword hword _ _ => exact run_of_word hword
  | identifier hword _ => exact run_of_word hword
  | string hquote hbody =>
    rw [run_cons, step_of_quote hquote, Option.bind_some, run_append,
      run_of_body hquote.ne_backslash hbody, Option.bind_some, run_cons, step_inside_quote]
    rfl
  | openQuote _ _ => exact absurd rfl hkind

/-! ### The last stay outside -/

theorem LastOutside.append (htext : outside.run text = some outside) (h : LastOutside rest before) :
    LastOutside (text ++ rest) (text ++ before) := by
  obtain ⟨hbefore, hrun, hlongest⟩ := h
  refine ⟨(List.prefix_append_right_inj text).2 hbefore, ?_, ?_⟩
  · rw [run_append, htext]
    exact hrun
  · intro read hread hout
    rw [List.length_append]
    rcases List.prefix_or_prefix_of_prefix hread (List.prefix_append text rest) with hshort | hlong
    · have := hshort.length_le
      omega
    · obtain ⟨more, rfl⟩ := hlong
      rw [run_append, htext] at hout
      have := hlongest more ((List.prefix_append_right_inj text).1 hread) hout
      rw [List.length_append]
      omega

theorem lastOutside_self (h : outside.run source = some outside) : LastOutside source source :=
  ⟨List.prefix_rfl, h, fun _ hread _ => hread.length_le⟩

/-- The mode behind the character that an error is about. -/
def modeBehind : LexicalError.Cause → Option Mode
  | .unterminatedString quote => some (inside quote)
  | .unexpectedCharacter _ => none

/-- From the character of an error on, the machine is never outside again. -/
theorem run_of_fault {cause : LexicalError.Cause} (h : Lexeme.startingWith c rest = .fault cause) :
    c = cause.character ∧ outside.step c = modeBehind cause ∧
      ∀ read, read <+: rest → outside.run (c :: read) ≠ some outside := by
  rcases Lexeme.cause_of_startingWith_eq_fault h with ⟨hforeign, rfl⟩ | ⟨hquote, hread, rfl⟩
  · refine ⟨rfl, step_of_foreign hforeign, fun read _ hout => ?_⟩
    rw [run_cons, step_of_foreign hforeign] at hout
    cases hout
  · have hquote : Quote c := Grammar.isQuote_iff.1 hquote
    refine ⟨rfl, step_of_quote hquote, ?_⟩
    rintro read ⟨more, rfl⟩ hout
    rw [run_cons, step_of_quote hquote] at hout
    -- The machine could come out of the string only where the string can be closed.
    obtain ⟨body, after, hbody, rfl⟩ := exists_body_of_run hquote.ne_backslash read hout
    obtain ⟨content, hsome, -⟩ :=
      @Grammar.read?_of_body c body (after ++ more) hquote.ne_backslash hbody
    rw [List.append_assoc, List.cons_append, hsome] at hread
    cases hread

theorem lastOutside_nil (h : ∀ read, read <+: rest → outside.run (c :: read) ≠ some outside) :
    LastOutside (c :: rest) [] := by
  refine ⟨List.nil_prefix, rfl, fun read hread hout => ?_⟩
  cases read with
  | nil => exact Nat.le_refl 0
  | cons d read =>
    obtain ⟨rfl, htail⟩ := List.cons_prefix_cons.1 hread
    exact absurd hout (h read htail)

variable {stream : TokenStream} {lexeme : Lexeme} {p q : Position}

theorem run_of_lexes {kind : Token.Kind} (h : Grammar.Lexes kind text rest)
    (hkind : kind ≠ .error) :
    outside.run text = some outside := by
  cases h with
  | rule hrule => exact run_of_rule hrule hkind
  | stray => exact absurd rfl hkind

theorem fault_or_token (h : lexeme.Scanned) :
    (∃ cause, lexeme = .fault cause) ∨
      lexeme.kind ≠ .error ∧ ∀ p q, ∃ token, lexeme.item p q = .ok token := by
  cases lexeme with
  | plain kind text => exact .inr ⟨h.2.1, fun p q => ⟨_, rfl⟩⟩
  | literal quote content => exact .inr ⟨nofun, fun p q => ⟨_, rfl⟩⟩
  | fault cause => exact .inl ⟨cause, rfl⟩

/-- What is collected from a stream, told from the last stay of the machine outside. If that is the
end of the text there is no error, and otherwise the error is about the character behind it. -/
theorem collect_lastOutside (hf : stream.finished = false) :
    ∃ before, LastOutside stream.cursor.ahead before ∧
      (before = stream.cursor.ahead ∧ (∃ tokens, stream.collect = .ok tokens) ∨
        ∃ cause after, stream.cursor.ahead = before ++ cause.character :: after ∧
          outside.step cause.character = modeBehind cause ∧
          stream.collect =
            .error { cause, start := stream.cursor.position.advanceOver before }) := by
  generalize ha : stream.cursor.ahead = source
  induction source using Lexeme.cut_induction generalizing stream with
  | nil =>
    refine ⟨[], lastOutside_self rfl, .inl ⟨rfl, ?_⟩⟩
    rw [TokenStream.collect_of_next?_eq_ok (TokenStream.next?_of_ahead_eq_nil hf ha),
      TokenStream.collect_of_next?_eq_none (TokenStream.next?_of_finished rfl)]
    exact ⟨_, rfl⟩
  | cons lexeme rest hl ih =>
    have hnext := TokenStream.next?_of_ahead_eq_append hf ha hl
    rcases fault_or_token (Lexeme.scanned_of_first? hl) with ⟨cause, rfl⟩ | ⟨hkind, hitem⟩
    · obtain ⟨-, hstep, hstuck⟩ := run_of_fault (Option.some.inj hl)
      exact ⟨[], lastOutside_nil hstuck,
        .inr ⟨cause, rest, rfl, hstep, TokenStream.collect_of_next?_eq_error hnext⟩⟩
    · obtain ⟨token, htoken⟩ := hitem stream.cursor.position
        (stream.cursor.position.advanceOver lexeme.text)
      rw [htoken] at hnext
      have hrun := run_of_lexes (Grammar.lexes_iff.2 ⟨lexeme, hl, rfl, rfl⟩) hkind
      obtain ⟨before, hlast, hresult⟩ := ih rfl (TokenStream.ahead_past ha)
      refine ⟨lexeme.text ++ before, hlast.append hrun, ?_⟩
      rw [TokenStream.collect_of_next?_eq_ok hnext]
      rcases hresult with ⟨rfl, tokens, hcollect⟩ | ⟨cause, after, hrest, hstep, hcollect⟩
      · refine .inl ⟨rfl, ?_⟩
        rw [hcollect]
        exact ⟨_, rfl⟩
      · refine .inr ⟨cause, after, by rw [hrest, List.append_assoc], hstep, ?_⟩
        rw [hcollect, TokenStream.position_past ha, Position.advanceOver_append]
        rfl

theorem strict_lastOutside (source : String) :
    ∃ before, LastOutside source.toList before ∧
      (before = source.toList ∧ (∃ tokens, tokenizeStrict source = .ok tokens) ∨
        ∃ cause after, source.toList = before ++ cause.character :: after ∧
          outside.step cause.character = modeBehind cause ∧
          tokenizeStrict source = .error { cause, start := .ofText before }) := by
  obtain ⟨before, hlast, hresult⟩ := @collect_lastOutside (.ofText source.toList) rfl
  refine ⟨before, hlast, ?_⟩
  rw [← Position.advanceOver_start]
  exact hresult

/-- Behind the last stay outside the machine is never outside again. -/
theorem LastOutside.run_ne_outside {next : Mode} {after : List Char}
    (h : LastOutside source before) (hsource : source = before ++ c :: after)
    (hstep : outside.step c = some next) :
    ∀ read, read <+: after → next.run read ≠ some outside := by
  obtain ⟨-, hrun, hlongest⟩ := h
  subst hsource
  intro read hread hout
  have hprefix : before ++ c :: read <+: before ++ c :: after :=
    (List.prefix_append_right_inj before).2 (List.cons_prefix_cons.2 ⟨rfl, hread⟩)
  have hle := hlongest (before ++ c :: read) hprefix (by
    rw [run_append, hrun, Option.bind_some, run_cons, hstep]
    exact hout)
  rw [List.length_append, List.length_cons] at hle
  omega

/-- The machine decides whether a selector is valid. If it fails on a character, this is the
unexpected one; if it ends in a string, this string is the one that is not terminated, and it was
opened where the machine was outside for the last time. -/
theorem strict_agrees_with_machine (source : String) :
    ((∃ tokens, tokenizeStrict source = .ok tokens) ↔
        outside.run source.toList = some outside) ∧
      (outside.run source.toList = none →
        ∃ before c after, source.toList = before ++ c :: after ∧
          outside.run before = some outside ∧ outside.step c = none ∧
          tokenizeStrict source =
            .error { cause := .unexpectedCharacter c, start := .ofText before }) ∧
      ∀ quote, outside.run source.toList = some (inside quote) ∨
          outside.run source.toList = some (escape quote) →
        ∃ before after, source.toList = before ++ quote :: after ∧
          LastOutside source.toList before ∧ outside.step quote = some (inside quote) ∧
          tokenizeStrict source =
            .error { cause := .unterminatedString quote, start := .ofText before } := by
  obtain ⟨before, hlast, ⟨rfl, tokens, hok⟩ | ⟨cause, after, hsource, hstep, herror⟩⟩ :=
    strict_lastOutside source
  · have hrun := hlast.2.1
    rw [hok, hrun]
    simp
  · have hrun : outside.run source.toList =
        (outside.step cause.character).bind fun next => next.run after := by
      rw [hsource, run_append, hlast.2.1]
      rfl
    rw [herror, hrun, hstep]
    cases cause with
    | unexpectedCharacter c =>
      refine ⟨by simp [modeBehind], fun _ => ⟨before, c, after, hsource, hlast.2.1, hstep, rfl⟩, ?_⟩
      simp [modeBehind]
    | unterminatedString quote =>
      have hopen := run_of_forall_ne_outside (.inl rfl) (hlast.run_ne_outside hsource hstep)
      simp only [modeBehind, Option.bind_some]
      refine ⟨?_, ?_, ?_⟩
      · rcases hopen with h | h <;> simp [h]
      · rcases hopen with h | h <;> simp [h]
      · intro other hother
        obtain rfl : other = quote := by
          rcases hopen with h | h <;> simpa [h, eq_comm] using hother
        exact ⟨before, after, hsource, hlast, hstep, rfl⟩

/-- A stray character behind a string, and a string that is open behind a closed one. -/
theorem strict_agrees_with_machine_stray_and_open :
    (outside.run "'@'@".toList = none ∧
        ∃ before c after, "'@'@".toList = before ++ c :: after ∧
          outside.run before = some outside ∧ outside.step c = none ∧
          tokenizeStrict "'@'@" =
            .error { cause := .unexpectedCharacter c, start := .ofText before }) ∧
      outside.run "'a'\"\\\"@'".toList = some (inside '"') ∧
        ∃ before after, "'a'\"\\\"@'".toList = before ++ '"' :: after ∧
          LastOutside "'a'\"\\\"@'".toList before ∧ outside.step '"' = some (inside '"') ∧
          tokenizeStrict "'a'\"\\\"@'" =
            .error { cause := .unterminatedString '"', start := .ofText before } := by
  have hstray : outside.run "'@'@".toList = none := by decide
  have hopen : outside.run "'a'\"\\\"@'".toList = some (inside '"') := by decide
  exact ⟨⟨hstray, (strict_agrees_with_machine _).2.1 hstray⟩, hopen,
    (strict_agrees_with_machine _).2.2 '"' (.inl hopen)⟩

end OnePass

end DocSelector
