import DocSelector.Proofs.Coverage
import DocSelector.Proofs.FirstError

/-!
# Streams that are asked in two ways and copied

What comes next can be asked of a stream in two ways: `next?` stops after the token for the end of
input, and `read` never stops. Both move the same cursor, so they can be mixed; and a stream can be
copied at any moment, the copy can be used in its place or beside it, and copied again.

What a call gives depends only on the calls that led to the stream, those made before it was copied
included. As many of the items are passed as calls have given one, whichever way they were asked
for, and the token for the end of input is never passed. Only `next?` marks a stream as finished,
and only `next?` minds the mark.

## Main definitions

* `TokenStream.Call`: the two ways to ask.
* `TokenStream.Held`: a stream with the calls that led to it.
* `TokenStream.Action`, `TokenStream.step`, `TokenStream.run`: what can be done with a number of
  streams, of which the first is at the beginning of a selector.

## Main statements

* `TokenStream.Held.Follows.ask`: what a call does to a stream that follows the items.
* `TokenStream.follows_foldl`: every stream follows the items, whatever is done.
* `TokenStream.calls_answer_by_lineage`: what a call gives, told from the calls that led to it.
-/

namespace DocSelector

namespace TokenStream

/-- The item that is the token for the end of input. -/
abbrev Item.last (stop : Position) : Item := .ok (.endOfInput stop)

/-! ### Calls and actions -/

/-- The two ways to ask a stream for what comes next. -/
inductive Call where
  | read
  | next
deriving DecidableEq, Repr

/-- What a call gives, and the stream after it. A stream that gives nothing stays as it is. -/
def Call.answer : Call → TokenStream → Option Item × TokenStream
  | read, stream => (some stream.read.1, stream.read.2)
  | next, stream =>
    match stream.next? with
    | none => (none, stream)
    | some (item, after) => (some item, after)

/-- A stream with the calls that led to it and what they gave, the latest first. -/
structure Held where
  stream : TokenStream
  past : List (Call × Option Item) := []

namespace Held

/-- The stream after a call, which is now the latest of those that led to it. -/
def ask (call : Call) (held : Held) : Held where
  stream := (call.answer held.stream).2
  past := (call, (call.answer held.stream).1) :: held.past

/-- The number of calls that have given an item. -/
def given (held : Held) : Nat := held.past.countP fun event => event.2.isSome

/-- Whether `next?` has given the token for the end of input. -/
def Ended (held : Held) : Prop := ∃ item, (Call.next, some item) ∈ held.past ∧ item.isEnd = true

end Held

/-- What can be done with a number of streams. -/
inductive Action where
  /-- The `i`-th stream is asked. -/
  | ask (i : Nat) (call : Call)
  /-- A copy of the `i`-th stream is put behind the others. -/
  | save (i : Nat)
  /-- The `i`-th stream is given up for a copy of the `j`-th. -/
  | restore (i j : Nat)
deriving DecidableEq, Repr

/-- The place of the stream that an action changes. -/
def Action.target? : Action → Option Nat
  | ask i _ => some i
  | save _ => none
  | restore i _ => some i

/-- The streams with the `i`-th of them replaced, if there is something to replace it. -/
def replace (session : List Held) (i : Nat) : Option Held → List Held
  | none => session
  | some held => session.set i held

/-- The streams after an action. A stream that does not exist can neither be asked nor copied. -/
def step (session : List Held) : Action → List Held
  | .ask i call => replace session i (session[i]?.map (Held.ask call))
  | .save i => session ++ session[i]?.toList
  | .restore i j => replace session i session[j]?

/-- The streams after a number of actions, at first a single one at the beginning of `source`. -/
def run (source : String) (actions : List Action) : List Held :=
  actions.foldl step [{ stream := .ofText source.toList }]

variable {stream : TokenStream} {held after : Held} {session : List Held} {action : Action}
  {actions : List Action} {call : Call} {body : List Item} {stop : Position} {i : Nat}

/-! ### One call -/

/-- The stream at the same cursor that has not finished. -/
def afresh (stream : TokenStream) : TokenStream where
  cursor := stream.cursor

/-- What is read depends on the cursor alone, and reading does not finish a stream. -/
theorem read_eq_afresh :
    stream.read =
      (stream.afresh.read.1, { stream with cursor := stream.afresh.read.2.cursor }) := by
  cases h : Lexeme.first? stream.cursor.ahead with
  | none =>
    have hfresh : Lexeme.first? stream.afresh.cursor.ahead = none := h
    rw [read_of_first?_eq_none h, read_of_first?_eq_none hfresh]
    rfl
  | some lexeme =>
    have hfresh : Lexeme.first? stream.afresh.cursor.ahead = some lexeme := h
    rw [read_of_first?_eq_some h, read_of_first?_eq_some hfresh]
    rfl

/-- The end of input is read without going on. -/
theorem read_of_isEnd (h : stream.read.1.isEnd = true) : stream.read.2 = stream := by
  cases hl : Lexeme.first? stream.cursor.ahead with
  | none => rw [read_of_first?_eq_none hl]
  | some lexeme =>
    rw [read_of_first?_eq_some hl, Lexeme.isEnd_item (Lexeme.scanned_of_first? hl)] at h
    cases h

/-- The first item to come is the one that is read, and if it is not the end of input, the others
come behind it. -/
theorem items_afresh :
    stream.afresh.items =
      stream.read.1 :: if stream.read.1.isEnd then [] else stream.read.2.afresh.items := by
  have hread := @read_eq_afresh stream
  have hnext := @next?_of_not_finished stream.afresh rfl
  rw [items_of_next?_eq_some hnext, hread]
  congr 1
  by_cases hend : stream.afresh.read.1.isEnd = true
  · rw [if_pos hend, hend]
    exact items_of_next?_eq_none (next?_of_finished rfl)
  · rw [if_neg hend, Bool.eq_false_iff.2 hend]
    rfl

theorem answer_of_finished (h : stream.finished = true) :
    Call.next.answer stream = (none, stream) := by
  simp only [Call.answer, next?_of_finished h]

theorem answer_of_not_finished (h : stream.finished = false) :
    Call.next.answer stream =
      (some stream.read.1, { stream.read.2 with finished := stream.read.1.isEnd }) := by
  simp only [Call.answer, next?_of_not_finished h]

theorem finished_read : stream.read.2.finished = stream.finished := by
  rw [read_eq_afresh]

/-! ### The calls that led to a stream -/

namespace Held

theorem given_ask :
    (held.ask call).given = held.given + if (call.answer held.stream).1.isSome then 1 else 0 := by
  rw [given, ask, List.countP_cons]
  rfl

theorem ended_ask :
    (held.ask call).Ended ↔
      held.Ended ∨
        call = .next ∧ ∃ item, (call.answer held.stream).1 = some item ∧ item.isEnd = true := by
  simp only [Ended, ask, List.mem_cons, Prod.mk.injEq]
  constructor
  · rintro ⟨item, ⟨hcall, hitem⟩ | hmem, hend⟩
    · exact .inr ⟨hcall.symm, item, hitem.symm, hend⟩
    · exact .inl ⟨item, hmem, hend⟩
  · rintro (⟨item, hmem, hend⟩ | ⟨hcall, item, hitem, hend⟩)
    · exact ⟨item, .inr hmem, hend⟩
    · exact ⟨item, .inl ⟨hcall.symm, hitem.symm⟩, hend⟩

/-- The stream stands behind as many of the items as its calls have given, or before the last of
them if they have given more; and it is finished if `next?` has given the last. -/
structure Follows (items : List Item) (held : Held) : Prop where
  ahead : held.stream.afresh.items = items.drop (min held.given (items.length - 1))
  finished : held.stream.finished = true ↔ held.Ended
  passed : held.Ended → items.length ≤ held.given

namespace Follows

/-- What is read from a stream that follows the items, and where the stream stands then. -/
theorem item_read (hbody : ∀ item ∈ body, item.isEnd = false)
    (h : held.Follows (body ++ [Item.last stop])) :
    (body ++ [Item.last stop])[min held.given body.length]? = some held.stream.read.1 ∧
      (held.stream.read.1.isEnd = true ↔ body.length ≤ held.given) ∧
      held.stream.read.2.afresh.items =
        (body ++ [Item.last stop]).drop (min (held.given + 1) body.length) := by
  have hahead := h.ahead
  rw [List.length_append, List.length_singleton, Nat.add_sub_cancel] at hahead
  refine ⟨?_, ?_⟩
  · rw [← List.head?_drop, ← hahead, items_afresh]
    rfl
  rw [items_afresh] at hahead
  by_cases hlt : held.given < body.length
  · -- The item is one of those before the end, so the stream goes on.
    have hlength : held.given < (body ++ [Item.last stop]).length := by
      rw [List.length_append]
      omega
    rw [Nat.min_eq_left (by omega), List.drop_eq_getElem_cons hlength,
      List.getElem_append_left hlt] at hahead
    obtain ⟨hitem, htail⟩ := List.cons.inj hahead
    have hend : held.stream.read.1.isEnd = false := by
      rw [hitem]
      exact hbody _ (List.getElem_mem hlt)
    rw [hend] at htail ⊢
    rw [Nat.min_eq_left (by omega)]
    exact ⟨by simpa using hlt, htail⟩
  · rw [Nat.min_eq_right (by omega), List.drop_left] at hahead
    have hend : held.stream.read.1.isEnd = true := by
      rw [(List.cons.inj hahead).1]
      rfl
    refine ⟨⟨fun _ => by omega, fun _ => hend⟩, ?_⟩
    rw [read_of_isEnd hend, items_afresh, hahead, Nat.min_eq_right (by omega), List.drop_left]

/-- A stream that follows the items still does behind the item that is read, if it is then finished
exactly when `next?` has given the last. -/
theorem pass (hbody : ∀ item ∈ body, item.isEnd = false)
    (h : held.Follows (body ++ [Item.last stop])) (hgiven : after.given = held.given + 1)
    (hcursor : after.stream.afresh = held.stream.read.2.afresh)
    (hfinished : after.stream.finished = true ↔ after.Ended)
    (hended : after.Ended → held.Ended ∨ held.stream.read.1.isEnd = true) :
    after.Follows (body ++ [Item.last stop]) := by
  obtain ⟨-, hend, hahead⟩ := h.item_read hbody
  have hlength : (body ++ [Item.last stop]).length = body.length + 1 := by
    rw [List.length_append, List.length_singleton]
  refine ⟨?_, hfinished, fun hpast => ?_⟩
  · rw [hcursor, hgiven, hlength]
    exact hahead
  · rw [hgiven, hlength]
    rcases hended hpast with hbefore | hread
    · have hpassed := h.passed hbefore
      omega
    · have hall := hend.1 hread
      omega

/-- A stream that follows the items does so after every call. -/
theorem ask (hbody : ∀ item ∈ body, item.isEnd = false)
    (h : held.Follows (body ++ [Item.last stop])) (call : Call) :
    (held.ask call).Follows (body ++ [Item.last stop]) := by
  cases call with
  | read =>
    have hended : (held.ask .read).Ended ↔ held.Ended := by
      rw [ended_ask]
      simp
    have hstay : (held.ask .read).stream.finished = held.stream.finished := finished_read
    apply h.pass hbody given_ask rfl
    · rw [hended, ← h.finished, hstay]
    · exact fun hpast => .inl (hended.1 hpast)
  | next =>
    cases hf : held.stream.finished with
    | true =>
      have hanswer := answer_of_finished hf
      have hgiven : (held.ask .next).given = held.given := by
        rw [given_ask, hanswer]
        rfl
      have hended : (held.ask .next).Ended ↔ held.Ended := by
        rw [ended_ask, hanswer]
        simp
      have hstream : (held.ask .next).stream = held.stream := by
        rw [Held.ask, hanswer]
      refine ⟨?_, ?_, ?_⟩
      · rw [hstream, hgiven]
        exact h.ahead
      · rw [hstream, hended]
        exact h.finished
      · rw [hended, hgiven]
        exact h.passed
    | false =>
      have hanswer := answer_of_not_finished hf
      have hgiven : (held.ask .next).given = held.given + 1 := by
        rw [given_ask, hanswer]
        rfl
      have hnot : ¬held.Ended := by
        rw [← h.finished, hf]
        exact Bool.false_ne_true
      have hended : (held.ask .next).Ended ↔ held.stream.read.1.isEnd = true := by
        rw [ended_ask, hanswer]
        simp [hnot]
      apply h.pass hbody hgiven
      · rw [Held.ask, hanswer]
        rfl
      · rw [hended, Held.ask, hanswer]
      · exact fun hpast => .inr (hended.1 hpast)

end Follows

end Held

/-! ### Any number of actions -/

theorem mem_replace {other? : Option Held} (h : held ∈ replace session i other?) :
    held ∈ session ∨ other? = some held := by
  cases other? with
  | none => exact .inl h
  | some other =>
    rcases List.mem_or_eq_of_mem_set h with hmem | rfl
    · exact .inl hmem
    · exact .inr rfl

/-- After an action a stream is one of those before, or a copy, or it has been asked. -/
theorem mem_step (h : held ∈ step session action) :
    held ∈ session ∨ ∃ before ∈ session, ∃ call, held = before.ask call := by
  cases action with
  | ask i call =>
    rcases mem_replace h with hmem | hask
    · exact .inl hmem
    · obtain ⟨before, hbefore, rfl⟩ := Option.map_eq_some_iff.1 hask
      exact .inr ⟨before, List.mem_of_getElem? hbefore, call, rfl⟩
  | save i =>
    rcases List.mem_append.1 h with hmem | hcopy
    · exact .inl hmem
    · exact .inl (List.mem_of_getElem? (Option.mem_toList.1 hcopy))
  | restore i j =>
    rcases mem_replace h with hmem | hcopy
    · exact .inl hmem
    · exact .inl (List.mem_of_getElem? hcopy)

/-- An action changes no stream but its target. -/
theorem getElem?_step (hi : i < session.length) (h : action.target? ≠ some i) :
    (step session action)[i]? = session[i]? := by
  have hreplace (j : Nat) (other? : Option Held) (hj : j ≠ i) :
      (replace session j other?)[i]? = session[i]? := by
    cases other? with
    | none => rfl
    | some other => exact List.getElem?_set_ne hj
  cases action with
  | ask j call => exact hreplace j _ fun heq => h (congrArg some heq)
  | save j => exact List.getElem?_append_left hi
  | restore j k => exact hreplace j _ fun heq => h (congrArg some heq)

theorem follows_foldl (hbody : ∀ item ∈ body, item.isEnd = false)
    (h : ∀ held ∈ session, held.Follows (body ++ [Item.last stop])) :
    ∀ held ∈ actions.foldl step session, held.Follows (body ++ [Item.last stop]) := by
  induction actions generalizing session with
  | nil => exact h
  | cons action actions ih =>
    apply ih
    intro held hheld
    rcases mem_step hheld with hmem | ⟨before, hbefore, call, rfl⟩
    · exact h held hmem
    · exact (h before hbefore).ask hbody call

/-- Of the items of a selector the last is the token for the end of input, and no other. -/
theorem exists_items_eq_append (source : String) :
    ∃ (body : List Item) (stop : Position),
      (ofText source.toList).items = body ++ [.last stop] ∧
        ∀ item ∈ body, item.isEnd = false := by
  obtain ⟨pieces, stop, hpieces, hmem⟩ :=
    Piece.exists_locate_eq_append .start (Lexeme.cut source.toList)
  refine ⟨pieces.map Piece.item, stop, ?_, ?_⟩
  · rw [items_eq_map_pieces, pieces_ofText, hpieces, List.map_append]
    rfl
  · intro item hitem
    obtain ⟨piece, hpiece, rfl⟩ := List.mem_map.1 hitem
    obtain ⟨q, lexeme, hlexeme, rfl⟩ := hmem piece hpiece
    exact Lexeme.isEnd_item (Lexeme.scanned_of_mem_cut hlexeme).1

/-- What a call gives, after whatever has been done with any number of copies of a stream. Let
`held` be one of the streams, and `k` the number of calls that led to it and gave an item. Then
`read` gives the `k`-th item of the selector, or the token for the end of input if there are not so
many. So does `next?`, unless it has already given the token for the end of input; then it gives
nothing and changes nothing, and `read` still gives that token. Nothing that is done with one of the
streams changes another. -/
theorem calls_answer_by_lineage (source : String) (actions : List Action) :
    ∃ (body : List Item) (stop : Position),
      (ofText source.toList).items = body ++ [.last stop] ∧
      (∀ item ∈ body, item.isEnd = false) ∧
      (∀ held ∈ run source actions, ∃ item,
        (ofText source.toList).items[min held.given body.length]? = some item ∧
          (Call.read.answer held.stream).1 = some item ∧
          (¬held.Ended → (Call.next.answer held.stream).1 = some item) ∧
          (held.Ended → item = .last stop ∧
            Call.next.answer held.stream = (none, held.stream))) ∧
      ∀ (action : Action) (i : Nat), i < (run source actions).length → action.target? ≠ some i →
        (step (run source actions) action)[i]? = (run source actions)[i]? := by
  obtain ⟨body, stop, hitems, hbody⟩ := exists_items_eq_append source
  refine ⟨body, stop, hitems, hbody, ?_, fun action i => getElem?_step⟩
  have hfollows : ∀ held ∈ run source actions, held.Follows (body ++ [Item.last stop]) := by
    apply follows_foldl hbody
    intro held hheld
    rw [List.mem_singleton] at hheld
    subst hheld
    exact ⟨hitems, by simp [Held.Ended, ofText], by simp [Held.Ended]⟩
  intro held hheld
  have h := hfollows held hheld
  obtain ⟨hread, -, -⟩ := h.item_read hbody
  rw [hitems]
  refine ⟨held.stream.read.1, hread, rfl, ?_, ?_⟩
  · intro hnot
    rw [← h.finished, Bool.not_eq_true] at hnot
    rw [answer_of_not_finished hnot]
  · intro hended
    have hpassed := h.passed hended
    rw [List.length_append, List.length_singleton] at hpassed
    rw [Nat.min_eq_right (by omega), List.getElem?_concat_length] at hread
    exact ⟨(Option.some.inj hread).symm, answer_of_finished (h.finished.2 hended)⟩

/-- Reading the end of input does not finish a stream, and a copy that is finished does not finish
the stream that it was made of. -/
example :
    (run "" [.ask 0 .read, .save 0, .ask 1 .next, .ask 1 .next, .ask 1 .read, .ask 0 .next]).map
        (fun held => held.past.reverse.map fun event => event.2.isSome) =
      [[true, true], [true, true, false, true]] := by
  cbv

end TokenStream

end DocSelector
