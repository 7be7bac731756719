import DocSelector.Proofs.Segmentation
import Mathlib.Data.List.TakeWhile

/-!
# The grammar of tokens

What may stand as a token in a selector, said without a scan: each rule of the grammar tells which
texts are of a kind, given the text that follows. The rules look at the text that follows only to
make tokens as long as they can be, and to tell a string from a quote that is never closed. A
selector can be cut by the rules in exactly one way, and the tokens of the selector are that cut.

## Main definitions

* `Grammar.Body`: what may stand between the quotes of a string.
* `Grammar.Rule`: the rules, apart from the one for characters that begin nothing.
* `Grammar.Lexes`: all rules.
* `Grammar.Cut`: the ways to cut a text.

## Main statements

* `Grammar.lexes_iff`: the rules find the lexeme that the scan finds, and no other.
* `Grammar.cut_iff_tokenize`: the tokens of a selector are its only cut.
-/

namespace DocSelector

namespace Grammar

/-! ### The rules -/

def Digit (c : Char) : Prop := '0' ≤ c ∧ c ≤ '9'

def WordStart (c : Char) : Prop := 'A' ≤ c ∧ c ≤ 'Z' ∨ 'a' ≤ c ∧ c ≤ 'z' ∨ c = '_'

def WordPart (c : Char) : Prop := WordStart c ∨ Digit c

/-- The characters that open and close strings. -/
def Quote (c : Char) : Prop := c = '"' ∨ c = '\''

/-- The marks that have a kind of their own. -/
def separators : List (Char × Token.Kind) :=
  [('/', .pathSeparator), ('[', .openBracket), (']', .closeBracket), ('?', .querySeparator),
    ('&', .andSeparator)]

/-- The other marks, all of one kind. -/
def marks : List Char :=
  ['.', ',', '=', '-', '#', '*', '+', '~', '!', '|', ';', '(', ')', '\x7b', '\x7d', '<', '>']

/-- All of `run` has the property, and what follows does not go on with it. -/
def Run (p : Char → Prop) (run rest : List Char) : Prop :=
  (∀ c ∈ run, p c) ∧ ∀ c ∈ rest.head?, ¬p c

/-- The text is a word that what follows does not go on with. -/
def Word (text rest : List Char) : Prop :=
  ∃ c tail, text = c :: tail ∧ WordStart c ∧ Run WordPart tail rest

/-- What may stand between two copies of `quote`: plain characters, and pairs of a backslash and any
character. -/
inductive Body (quote : Char) : List Char → Prop
  | nil : Body quote []
  | plain {c : Char} {body : List Char} :
      c ≠ quote → c ≠ '\\' → Body quote body → Body quote (c :: body)
  | pair {c : Char} {body : List Char} : Body quote body → Body quote ('\\' :: c :: body)

/-- `Rule kind text rest`: the text is of the kind when `rest` follows it. A quote is in error if no
body and closing quote can be read behind it. -/
inductive Rule : Token.Kind → List Char → List Char → Prop
  | newline {rest : List Char} : Rule .newline ['\n'] rest
  | whitespace {c : Char} {rest : List Char} :
      Text.isBlank c = true → c ≠ '\n' → Rule .whitespace [c] rest
  | namespaceSeparator {rest : List Char} : Rule .namespaceSeparator [':', ':'] rest
  | colon {rest : List Char} : rest.head? ≠ some ':' → Rule .punctuation [':'] rest
  | separator {c : Char} {kind : Token.Kind} {rest : List Char} :
      (c, kind) ∈ separators → Rule kind [c] rest
  | mark {c : Char} {rest : List Char} : c ∈ marks → Rule .punctuation [c] rest
  | number {digits rest : List Char} :
      digits ≠ [] → Run Digit digits rest → Rule .number digits rest
  | keyword {keyword : Keyword} {text rest : List Char} :
      Word text rest → keyword ∈ Keyword.all → keyword.text.toList = text →
        Rule (.keyword keyword) text rest
  | identifier {text rest : List Char} :
      Word text rest → (∀ keyword ∈ Keyword.all, keyword.text.toList ≠ text) →
        Rule .identifier text rest
  | string {quote : Char} {body rest : List Char} :
      Quote quote → Body quote body → Rule .string (quote :: (body ++ [quote])) rest
  | openQuote {quote : Char} {rest : List Char} :
      Quote quote → (∀ body after, Body quote body → rest ≠ body ++ quote :: after) →
        Rule .error [quote] rest

/-- All rules: those above, and that a character with which none of them begins is in error. -/
inductive Lexes : Token.Kind → List Char → List Char → Prop
  | rule {kind : Token.Kind} {text rest : List Char} : Rule kind text rest → Lexes kind text rest
  | stray {c : Char} {rest : List Char} :
      (∀ kind text after, ¬Rule kind (c :: text) after) → Lexes .error [c] rest

/-- `Cut source pieces`: the text is the pieces one behind the other, none of them empty and each of
its kind given the pieces behind it. -/
inductive Cut : List Char → List (Token.Kind × List Char) → Prop
  | nil : Cut [] []
  | cons {kind : Token.Kind} {text rest : List Char} {pieces : List (Token.Kind × List Char)} :
      text ≠ [] → Lexes kind text rest → Cut rest pieces →
        Cut (text ++ rest) ((kind, text) :: pieces)

/-! ### The characters of the rules -/

variable {c quote : Char} {kind : Token.Kind} {text rest body after : List Char}

theorem isDigit_iff : c.isDigit = true ↔ Digit c := by
  simp [Char.isDigit, Digit, Char.le_def]

theorem isWordStart_iff : isWordStart c = true ↔ WordStart c := by
  rw [isWordStart, Bool.or_eq_true, isAlpha_iff, beq_iff_eq, or_assoc]
  rfl

theorem isWordChar_iff : isWordChar c = true ↔ WordPart c := by
  rw [WordPart, ← isWordStart_iff, ← isDigit_iff]
  simp only [isWordChar, isWordStart, Char.isAlphanum, Bool.or_eq_true]
  exact or_right_comm

theorem isQuote_iff : isQuote c = true ↔ Quote c := by
  simp [isQuote, Quote]

theorem markKind?_iff :
    markKind? c = some kind ↔ (c, kind) ∈ separators ∨ kind = .punctuation ∧ c ∈ marks := by
  constructor
  · intro h
    unfold markKind? at h
    split at h <;> cases h <;> decide
  · simp only [separators, marks, List.mem_cons, List.not_mem_nil, Prod.mk.injEq, or_false]
    rintro (h | ⟨rfl, h⟩)
    · rcases h with ⟨rfl, rfl⟩ | ⟨rfl, rfl⟩ | ⟨rfl, rfl⟩ | ⟨rfl, rfl⟩ | ⟨rfl, rfl⟩ <;> rfl
    · rcases h with rfl | rfl | rfl | rfl | rfl | rfl | rfl | rfl | rfl | rfl | rfl | rfl | rfl |
        rfl | rfl | rfl | rfl <;> rfl

/-- Taking characters of a class takes the whole of a run, and only of a run. -/
theorem takeWhile_eq_iff {b : Char → Bool} {p : Char → Prop} {run : List Char}
    (hp : ∀ c, b c = true ↔ p c) : (run ++ rest).takeWhile b = run ↔ Run p run rest := by
  constructor
  · intro h
    have hrun : ∀ c ∈ run, b c = true := by
      intro c hc
      rw [← h] at hc
      exact List.mem_takeWhile_imp hc
    refine ⟨fun c hc => (hp c).1 (hrun c hc), ?_⟩
    intro c hc hpc
    rw [List.takeWhile_append_of_pos hrun, List.append_right_eq_self] at h
    cases rest with
    | nil => simp at hc
    | cons d rest =>
      cases hc
      simp [(hp c).2 hpc] at h
  · rintro ⟨hrun, hstop⟩
    rw [List.takeWhile_append_of_pos fun c hc => (hp c).2 (hrun c hc), List.append_right_eq_self]
    cases rest with
    | nil => rfl
    | cons d rest =>
      have hd : ¬b d = true := fun h => hstop d rfl ((hp d).1 h)
      simp [hd]

/-! ### Strings -/

/-- What is read between the quotes of a string is a body. -/
theorem body_raw_of_read? {content : Literal} (h : Literal.read? quote text = some content) :
    Body quote content.raw := by
  fun_induction Literal.read? quote text generalizing content with
  | case1 => cases h
  | case2 => cases h; exact .nil
  | case3 => cases h
  | case4 => cases h; exact .nil
  | case5 d text _ ih =>
    obtain ⟨inner, hinner, rfl⟩ := Option.map_eq_some_iff.1 h
    exact .pair (ih hinner)
  | case6 c d text hquote hbackslash ih =>
    obtain ⟨inner, hinner, rfl⟩ := Option.map_eq_some_iff.1 h
    exact .plain hquote hbackslash (ih hinner)

theorem read?_of_body (hquote : quote ≠ '\\') (h : Body quote body) :
    ∃ content, Literal.read? quote (body ++ quote :: after) = some content ∧
      content.raw = body := by
  induction h with
  | nil => exact ⟨.empty, Literal.read?_quote, rfl⟩
  | plain hc hbackslash _ ih =>
    obtain ⟨content, hread, rfl⟩ := ih
    refine ⟨content.consPlain _, ?_, rfl⟩
    rw [List.cons_append, Literal.read?_plain hc hbackslash, hread]
    rfl
  | pair _ ih =>
    obtain ⟨content, hread, rfl⟩ := ih
    refine ⟨content.consPair quote _, ?_, rfl⟩
    rw [List.cons_append, List.cons_append, Literal.read?_pair hquote, hread]
    rfl

theorem Quote.ne_backslash (h : Quote quote) : quote ≠ '\\' := by
  rcases h with rfl | rfl <;> decide

end Grammar

/-! ### The lexemes that the rules find -/

namespace Lexeme

def kind : Lexeme → Token.Kind
  | plain kind _ => kind
  | literal _ _ => .string
  | fault _ => .error

end Lexeme

namespace Grammar

open Lexeme (first? startingWith)

variable {c quote : Char} {kind : Token.Kind} {text rest body after : List Char} {lexeme : Lexeme}

theorem first?_of_word (h : Word text rest) :
    first? (text ++ rest) = some (Lexeme.word text) := by
  obtain ⟨c, tail, rfl, hstart, hrun⟩ := h
  rw [List.cons_append, first?, startingWith,
    CharClass.of_eq_wordStart_iff.2 (isWordStart_iff.2 hstart)]
  simp only [(takeWhile_eq_iff fun c => isWordChar_iff).2 hrun]

theorem ofText?_iff {keyword : Keyword} :
    Keyword.ofText? (String.ofList text) = some keyword ↔ keyword.text.toList = text := by
  rw [Keyword.ofText?_eq_some_iff]
  constructor
  · intro h
    rw [h, String.toList_ofList]
  · intro h
    rw [← h, String.ofList_toList]

/-- It takes a string with its two quotes, or else the quote alone. -/
theorem first?_of_quote (h : Quote quote) :
    first? (quote :: rest) = some (Lexeme.quotation quote rest) := by
  rw [first?, startingWith, CharClass.of_eq_quote_iff.2 (isQuote_iff.2 h)]

theorem first?_of_separator (h : (c, kind) ∈ separators ∨ kind = .punctuation ∧ c ∈ marks) :
    first? (c :: rest) = some (.plain kind [c]) := by
  rw [first?, startingWith, CharClass.of_eq_mark_iff.2 (markKind?_iff.2 h)]

/-- Whatever is a token by one of the rules is found by the scan. -/
theorem first?_of_rule (h : Rule kind text rest) :
    ∃ lexeme, first? (text ++ rest) = some lexeme ∧ lexeme.kind = kind ∧ lexeme.text = text := by
  cases h with
  | newline => exact ⟨_, rfl, rfl, rfl⟩
  | whitespace hblank hne =>
    refine ⟨.plain .whitespace _, ?_, rfl, rfl⟩
    rw [List.singleton_append, first?, startingWith, CharClass.of_eq_blank_iff.2 ⟨hne, hblank⟩]
  | namespaceSeparator => exact ⟨_, rfl, rfl, rfl⟩
  | colon hnext =>
    refine ⟨.plain .punctuation _, ?_, rfl, rfl⟩
    change some (Lexeme.colon rest) = _
    unfold Lexeme.colon
    split
    · simp at hnext
    · rfl
  | separator hmem => exact ⟨_, first?_of_separator (.inl hmem), rfl, rfl⟩
  | mark hmem => exact ⟨_, first?_of_separator (.inr ⟨rfl, hmem⟩), rfl, rfl⟩
  | number hne hrun =>
    obtain ⟨c, tail, rfl⟩ := List.exists_cons_of_ne_nil hne
    obtain ⟨hdigits, hstop⟩ := hrun
    rw [List.forall_mem_cons] at hdigits
    refine ⟨.plain .number (c :: tail), ?_, rfl, rfl⟩
    rw [List.cons_append, first?, startingWith,
      CharClass.of_eq_digit_iff.2 (isDigit_iff.2 hdigits.1)]
    simp only [(takeWhile_eq_iff fun c => isDigit_iff).2 ⟨hdigits.2, hstop⟩]
  | keyword hword _ htext =>
    refine ⟨_, first?_of_word hword, ?_⟩
    rw [Lexeme.word, ofText?_iff.2 htext]
    exact ⟨rfl, rfl⟩
  | identifier hword hnone =>
    refine ⟨_, first?_of_word hword, ?_⟩
    cases hk : Keyword.ofText? (String.ofList text) with
    | none =>
      rw [Lexeme.word, hk]
      exact ⟨rfl, rfl⟩
    | some keyword => exact absurd (ofText?_iff.1 hk) (hnone keyword keyword.mem_all)
  | @string quote body rest hquote hbody =>
    obtain ⟨content, hread, rfl⟩ := @read?_of_body quote body rest hquote.ne_backslash hbody
    refine ⟨.literal quote content, ?_, rfl, rfl⟩
    rw [List.cons_append, first?_of_quote hquote, Lexeme.quotation, List.append_assoc,
      List.singleton_append, hread]
  | openQuote hquote hopen =>
    refine ⟨.fault (.unterminatedString _), ?_, rfl, rfl⟩
    rw [List.singleton_append, first?_of_quote hquote, Lexeme.quotation]
    cases hread : Literal.read? _ rest with
    | none => rfl
    | some content =>
      obtain ⟨after, hafter⟩ := Literal.raw_append_isPrefix_of_read? hread
      refine absurd ?_ (hopen content.raw after (body_raw_of_read? hread))
      rw [← hafter, List.append_assoc, List.singleton_append]

/-! In the next lemmas `rest` is what follows the lexeme found at the beginning of a text. -/

theorem rule_of_colon {source : List Char}
    (h : (Lexeme.colon source).text ++ rest = ':' :: source) :
    Rule (Lexeme.colon source).kind (Lexeme.colon source).text rest := by
  unfold Lexeme.colon at h ⊢
  split at h
  · exact .namespaceSeparator
  · next hnext =>
    obtain rfl : rest = source := (List.cons.inj h).2
    apply Rule.colon
    intro hhead
    obtain ⟨tail, rfl⟩ := List.head?_eq_some_iff.1 hhead
    exact hnext tail rfl

theorem rule_of_quotation {source : List Char} (hquote : Quote quote)
    (h : (Lexeme.quotation quote source).text ++ rest = quote :: source) :
    Rule (Lexeme.quotation quote source).kind (Lexeme.quotation quote source).text rest := by
  unfold Lexeme.quotation at h ⊢
  split at h
  · next content hread => exact .string hquote (body_raw_of_read? hread)
  · next hread =>
    obtain rfl : rest = source := (List.cons.inj h).2
    apply Rule.openQuote hquote
    intro body after hbody hrest
    -- A body and a closing quote would have been read.
    obtain ⟨content, hsome, -⟩ := @read?_of_body quote body after hquote.ne_backslash hbody
    rw [← hrest, hread] at hsome
    cases hsome

theorem rule_of_digits {source : List Char} (hdigit : Digit c)
    (h : source.takeWhile Char.isDigit ++ rest = source) :
    Rule .number (c :: source.takeWhile Char.isDigit) rest := by
  have hrun : Run Digit (source.takeWhile Char.isDigit) rest :=
    (takeWhile_eq_iff fun c => isDigit_iff).1 (by rw [h])
  exact .number (List.cons_ne_nil _ _) ⟨List.forall_mem_cons.2 ⟨hdigit, hrun.1⟩, hrun.2⟩

theorem rule_of_word {source : List Char} (hstart : WordStart c)
    (h : source.takeWhile isWordChar ++ rest = source) :
    Rule (Lexeme.word (c :: source.takeWhile isWordChar)).kind (c :: source.takeWhile isWordChar)
      rest := by
  have hword : Word (c :: source.takeWhile isWordChar) rest :=
    ⟨c, _, rfl, hstart, (takeWhile_eq_iff fun c => isWordChar_iff).1 (by rw [h])⟩
  rw [Lexeme.word]
  split
  · next keyword hk => exact .keyword hword keyword.mem_all (ofText?_iff.1 hk)
  · next hk =>
    apply Rule.identifier hword
    intro keyword _ htext
    rw [ofText?_iff.2 htext] at hk
    cases hk

/-- Whatever the scan finds is a token by one of the rules, unless the character begins nothing. -/
theorem rule_of_startingWith {source : List Char} (hc : CharClass.of c ≠ .foreign)
    (h : (startingWith c source).text ++ rest = c :: source) :
    Rule (startingWith c source).kind (startingWith c source).text rest := by
  rw [startingWith] at h ⊢
  cases hclass : CharClass.of c with
  | newline =>
    obtain rfl := CharClass.of_eq_newline_iff.1 hclass
    exact .newline
  | blank =>
    obtain ⟨hne, hblank⟩ := CharClass.of_eq_blank_iff.1 hclass
    exact .whitespace hblank hne
  | colon =>
    obtain rfl := CharClass.eq_colon_of_of_eq_colon hclass
    simp only [hclass] at h ⊢
    exact rule_of_colon h
  | quote =>
    simp only [hclass] at h ⊢
    exact rule_of_quotation (isQuote_iff.1 (CharClass.of_eq_quote_iff.1 hclass)) h
  | digit =>
    simp only [hclass] at h ⊢
    exact rule_of_digits (isDigit_iff.1 (CharClass.of_eq_digit_iff.1 hclass)) (List.cons.inj h).2
  | wordStart =>
    simp only [hclass, Lexeme.text_word] at h ⊢
    exact rule_of_word (isWordStart_iff.1 (CharClass.of_eq_wordStart_iff.1 hclass))
      (List.cons.inj h).2
  | mark kind =>
    rcases markKind?_iff.1 (CharClass.of_eq_mark_iff.1 hclass) with hmem | ⟨rfl, hmem⟩
    · exact .separator hmem
    · exact .mark hmem
  | foreign => exact absurd hclass hc

/-- No rule begins with a character that begins no token. -/
theorem not_rule_of_foreign (h : CharClass.of c = .foreign) : ¬Rule kind (c :: text) after := by
  intro hrule
  obtain ⟨lexeme, hlexeme, rfl, -⟩ := first?_of_rule hrule
  rw [List.cons_append, first?, startingWith, h] at hlexeme
  obtain rfl := Option.some.inj hlexeme
  -- Only the rule for quotes finds errors.
  change Rule .error (c :: text) after at hrule
  cases hrule with
  | separator hmem => simp [separators] at hmem
  | openQuote hquote _ =>
    rw [CharClass.of_eq_quote_iff.2 (isQuote_iff.2 hquote)] at h
    cases h

theorem foreign_of_forall_not_rule (h : ∀ kind text after, ¬Rule kind (c :: text) after) :
    CharClass.of c = .foreign := by
  by_contra hc
  -- Alone, the character would be a token by one of the rules.
  obtain ⟨after, hafter⟩ := @Lexeme.text_startingWith_isPrefix c []
  have hrule := rule_of_startingWith hc hafter
  obtain ⟨d, tail, htext⟩ := List.exists_cons_of_ne_nil (@Lexeme.text_startingWith_ne_nil c [])
  rw [htext, List.cons_append] at hafter
  obtain ⟨rfl, -⟩ := List.cons.inj hafter
  exact h _ tail after (htext ▸ hrule)

/-- The rules make of a text what the scan finds at its beginning, and nothing else. -/
theorem lexes_iff :
    Lexes kind text rest ↔
      ∃ lexeme, first? (text ++ rest) = some lexeme ∧ lexeme.kind = kind ∧ lexeme.text = text := by
  constructor
  · rintro (hrule | @⟨c, _, hstray⟩)
    · exact first?_of_rule hrule
    · refine ⟨.fault (.unexpectedCharacter c), ?_, rfl, rfl⟩
      rw [List.singleton_append, first?, startingWith, foreign_of_forall_not_rule hstray]
  · rintro ⟨lexeme, hfirst, rfl, rfl⟩
    cases hsource : lexeme.text ++ rest with
    | nil =>
      rw [hsource] at hfirst
      cases hfirst
    | cons c source =>
      rw [hsource] at hfirst
      obtain rfl := Option.some.inj hfirst
      by_cases hforeign : CharClass.of c = .foreign
      · rw [startingWith, hforeign]
        exact .stray fun kind text after => not_rule_of_foreign hforeign
      · exact .rule (rule_of_startingWith hforeign hsource)

/-! ### The only cut -/

/-- The cuts of a text are its lexemes with their kinds. -/
theorem cut_iff {source : List Char} {pieces : List (Token.Kind × List Char)} :
    Cut source pieces ↔
      pieces = (Lexeme.cut source).map fun lexeme => (lexeme.kind, lexeme.text) := by
  constructor
  · intro h
    induction h with
    | nil => simp
    | cons _ hlexes _ ih =>
      obtain ⟨lexeme, hfirst, rfl, rfl⟩ := lexes_iff.1 hlexes
      rw [Lexeme.cut_append hfirst, List.map_cons, ih]
  · rintro rfl
    induction source using Lexeme.cut_induction with
    | nil => simpa using Cut.nil
    | cons lexeme rest hfirst ih =>
      rw [Lexeme.cut_append hfirst, List.map_cons]
      exact .cons (Lexeme.text_ne_nil_of_first? hfirst) (lexes_iff.2 ⟨lexeme, hfirst, rfl, rfl⟩) ih

end Grammar

namespace Piece

/-- The kind of the token of a piece, with the text that it takes. -/
def label (piece : Piece) : Token.Kind × List Char := (piece.token.kind, piece.text)

theorem label_ofLexeme {p : Position} {lexeme : Lexeme} :
    (ofLexeme p lexeme).label = (lexeme.kind, lexeme.text) := by
  cases lexeme <;> rfl

/-- Of located lexemes, only the end of input is of the kind of the end of input. -/
theorem filter_label_locate {p : Position} {lexemes : List Lexeme}
    (h : ∀ lexeme ∈ lexemes, lexeme.kind ≠ .endOfInput) :
    ((locate p lexemes).map label).filter (fun piece => piece.1 ≠ .endOfInput) =
      lexemes.map fun lexeme => (lexeme.kind, lexeme.text) := by
  induction lexemes generalizing p with
  | nil => rfl
  | cons lexeme lexemes ih =>
    rw [List.forall_mem_cons] at h
    rw [locate, List.map_cons, label_ofLexeme, List.filter_cons_of_pos (by simpa using h.1), ih h.2,
      List.map_cons]

end Piece

namespace Grammar

/-- The tokens of a selector, each with the text that it takes, are the cut of the selector by the
rules, and there is no other. The token for the end of input is no part of it. -/
theorem cut_iff_tokenize (source : String) :
    tokenize source = (TokenStream.ofText source.toList).pieces.map Piece.token ∧
      ∀ cut, Cut source.toList cut ↔
        cut = ((TokenStream.ofText source.toList).pieces.map Piece.label).filter
          (fun piece => piece.1 ≠ .endOfInput) := by
  refine ⟨TokenStream.tokenize_eq_map_pieces source, fun cut => ?_⟩
  have hkind : ∀ lexeme ∈ Lexeme.cut source.toList, lexeme.kind ≠ .endOfInput := by
    intro lexeme hmem
    have hscanned := (Lexeme.scanned_of_mem_cut hmem).1
    cases lexeme with
    | plain kind text => exact hscanned.2.2
    | literal quote content => nofun
    | fault cause => nofun
  rw [TokenStream.pieces_ofText, Piece.filter_label_locate hkind]
  exact cut_iff

end Grammar

end DocSelector
