import DocSelector.Cursor
import Mathlib.Data.List.TakeWhile

/-!
# Cursors on their way through a text

A cursor keeps account of its place in three ways: as a byte index, as lines and columns, and by the
characters that are still ahead. All its moves keep the three in step. Wherever a cursor has come
to, be it by single characters, by runs of them, or by going back to a copy kept before, it stands
between a part of the source that it has passed and the rest of the source, and everything it tells
is about these two.

The byte index never points into a character or beyond the end, so what is ahead is found by it in
the source, and the end is reached when it is as large as the source. Of the byte indices that a
piece of text is asked for, those of character boundaries up to the cursor are answered, and all
others are not.

## Main definitions

* `Cursor.between`: the cursor between two parts of a text.
* `Cursor.textFrom?`, `Cursor.unread`: the source from a byte index on, or from that of a cursor.
* `Cursor.StandsBetween`: what a cursor tells between two parts of a source.
* `Cursor.Walk`, `Cursor.walk`: a cursor with the copies that are kept of it.

## Main statements

* `Cursor.next?_between`, `Cursor.eatWhile_between`: where the moves lead.
* `Cursor.sliceFrom_between`, `Cursor.sliceFrom_between_eq_nil`: the pieces of text behind a cursor.
* `Cursor.textFrom?_eq_some_iff`: where a source can be looked into by bytes.
* `Cursor.walk_splits_source`: where a cursor stands after any number of steps.
-/

namespace DocSelector

namespace Cursor

/-- The cursor in the text `passed ++ rest` behind the first part of it. -/
def between (passed rest : List Char) : Cursor := (ofText (passed ++ rest)).skip passed.length

variable {passed rest front back behind text slice later : List Char} {c : Char} {n : Nat}

theorem between_eq :
    between passed rest =
      { behind := passed.reverse
        ahead := rest
        bytePos := (String.ofList passed).utf8ByteSize
        position := Position.start.advanceOver passed } := by
  simp [between, skip_eq, ofText]

/-! ### Moves -/

theorem next?_between_nil : (between passed []).next? = none := by
  rw [next?_eq_none_iff, between_eq]

/-- The next character joins those that have been passed. -/
theorem next?_between :
    (between passed (c :: rest)).next? = some (c, between (passed ++ [c]) rest) := by
  have hahead : (between passed (c :: rest)).ahead = c :: rest := by rw [between_eq]
  have hdrop : (ofText (passed ++ c :: rest)).ahead.drop passed.length = c :: rest := List.drop_left
  rw [next?_of_ahead_eq_cons hahead, between, between, pass_skip hdrop, List.append_assoc,
    List.singleton_append, List.length_append, List.length_singleton]

/-- So does the longest run of characters that satisfy `p`. -/
theorem eatWhile_between (p : Char → Bool) :
    (between passed rest).eatWhile p =
      between (passed ++ rest.takeWhile p) (rest.dropWhile p) := by
  have hdrop : (ofText (passed ++ rest)).ahead.drop passed.length = rest := List.drop_left
  rw [between, between, eatWhile_skip, hdrop, List.append_assoc, List.takeWhile_append_dropWhile,
    List.length_append]

/-! ### Pieces of text -/

theorem utf8ByteSize_append :
    (String.ofList (front ++ back)).utf8ByteSize =
      (String.ofList front).utf8ByteSize + (String.ofList back).utf8ByteSize := by
  rw [String.ofList_append, String.utf8ByteSize_append]

/-- Only the characters that take exactly so many bytes are brought back. -/
theorem exists_append_of_lastBytes? (h : lastBytes? n behind text = some slice) :
    ∃ near far, behind = near ++ far ∧ (String.ofList near).utf8ByteSize = n ∧
      slice = near.reverse ++ text := by
  fun_induction lastBytes? n behind text with
  | case1 behind text =>
    cases h
    exact ⟨[], behind, rfl, rfl, rfl⟩
  | case2 => cases h
  | case3 n c behind text hle ih =>
    obtain ⟨near, far, rfl, hbytes, rfl⟩ := ih h
    refine ⟨c :: near, far, rfl, ?_, by simp⟩
    simp [hbytes]
    omega
  | case4 => cases h

/-- From the end of a part of what has been passed, the slice is the other part. -/
theorem sliceFrom_between :
    (between (front ++ back) rest).sliceFrom (String.ofList front).utf8ByteSize = back := by
  have hbytes : (String.ofList (front ++ back)).utf8ByteSize - (String.ofList front).utf8ByteSize =
      (String.ofList back.reverse).utf8ByteSize := by
    rw [utf8ByteSize_append, Nat.add_sub_cancel_left, utf8ByteSize_reverse]
  have hle : (String.ofList front).utf8ByteSize ≤ (String.ofList (front ++ back)).utf8ByteSize := by
    rw [utf8ByteSize_append]
    exact Nat.le_add_right _ _
  rw [between_eq, sliceFrom, if_pos hle, hbytes, List.reverse_append, lastBytes?_append,
    Option.getD_some, List.reverse_reverse, List.append_nil]

/-- From a byte index that is not the end of such a part, there is none. -/
theorem sliceFrom_between_eq_nil
    (h : ∀ front back, passed = front ++ back → (String.ofList front).utf8ByteSize ≠ n) :
    (between passed rest).sliceFrom n = [] := by
  rw [between_eq, sliceFrom]
  split
  · next hle =>
    have hbound : n ≤ (String.ofList passed).utf8ByteSize := hle
    cases hslice : lastBytes? ((String.ofList passed).utf8ByteSize - n) passed.reverse [] with
    | none => rfl
    | some slice =>
      obtain ⟨near, far, hpassed, hbytes, -⟩ := exists_append_of_lastBytes? hslice
      rw [List.reverse_eq_append_iff] at hpassed
      have hsum : (String.ofList passed).utf8ByteSize =
          (String.ofList far.reverse).utf8ByteSize + (String.ofList near).utf8ByteSize := by
        rw [hpassed, utf8ByteSize_append, @utf8ByteSize_reverse near]
      exact absurd (by omega) (h far.reverse near.reverse hpassed)
  · rfl

/-! ### Character boundaries -/

/-- A byte index is a character boundary exactly if a beginning of the text has so many bytes. -/
theorem isValid_iff {source : String} :
    (⟨n⟩ : String.Pos.Raw).IsValid source ↔
      ∃ front back, source.toList = front ++ back ∧ (String.ofList front).utf8ByteSize = n := by
  rw [String.Pos.Raw.isValid_iff_exists_append]
  constructor
  · rintro ⟨front, back, rfl, hend⟩
    refine ⟨front.toList, back.toList, String.toList_append, ?_⟩
    rw [String.ofList_toList]
    exact (congrArg String.Pos.Raw.byteIdx hend).symm
  · rintro ⟨front, back, hsource, rfl⟩
    refine ⟨.ofList front, .ofList back, ?_, rfl⟩
    rw [← String.ofList_append, ← hsource, String.ofList_toList]

/-- The source from the byte index `n` on. Nothing is found beyond its end or inside a character. -/
def textFrom? (source : String) (n : Nat) : Option (List Char) :=
  if h : (⟨n⟩ : String.Pos.Raw).IsValid source then some (source.sliceFrom ⟨⟨n⟩, h⟩).copy.toList
  else none

/-- What is left of the source at the cursor, by its byte index alone, and the empty text if nothing
is found there. -/
def unread (source : String) (cursor : Cursor) : List Char :=
  (textFrom? source cursor.bytePos).getD []

/-- Behind a beginning of the source the other part of it is found. -/
theorem textFrom?_of_append {source : String} (hsource : source.toList = front ++ back) :
    textFrom? source (String.ofList front).utf8ByteSize = some back := by
  have hvalid : (⟨(String.ofList front).utf8ByteSize⟩ : String.Pos.Raw).IsValid source :=
    isValid_iff.2 ⟨front, back, hsource, rfl⟩
  have hsplits : (⟨_, hvalid⟩ : source.Pos).Splits (.ofList front) (.ofList back) := by
    refine ⟨?_, rfl⟩
    rw [← String.ofList_append, ← hsource, String.ofList_toList]
  rw [textFrom?, dif_pos hvalid, (String.Pos.splits _).eq_right hsplits, String.toList_ofList]

/-- Nothing else is found anywhere. -/
theorem textFrom?_eq_some_iff {source : String} :
    textFrom? source n = some back ↔
      ∃ front, source.toList = front ++ back ∧ (String.ofList front).utf8ByteSize = n := by
  constructor
  · intro h
    by_cases hvalid : (⟨n⟩ : String.Pos.Raw).IsValid source
    · obtain ⟨front, found, hsource, rfl⟩ := isValid_iff.1 hvalid
      rw [textFrom?_of_append hsource, Option.some.injEq] at h
      subst h
      exact ⟨front, hsource, rfl⟩
    · rw [textFrom?, dif_neg hvalid] at h
      cases h
  · rintro ⟨front, hsource, rfl⟩
    exact textFrom?_of_append hsource

example : textFrom? "é/" 2 = some ['/'] ∧ textFrom? "é/" 1 = none ∧ textFrom? "é/" 4 = none := by
  decide +kernel

/-- The boundaries up to the end of a part of the text are those of this part. -/
theorem exists_append_of_isValid {source : String} (hsource : source.toList = passed ++ rest)
    (hle : n ≤ (String.ofList passed).utf8ByteSize)
    (hvalid : (⟨n⟩ : String.Pos.Raw).IsValid source) :
    ∃ front back, passed = front ++ back ∧ (String.ofList front).utf8ByteSize = n := by
  obtain ⟨front, back, hsplit, hbytes⟩ := isValid_iff.1 hvalid
  rcases List.append_eq_append_iff.1 (hsource.symm.trans hsplit) with
    ⟨more, rfl, -⟩ | ⟨more, rfl, -⟩
  · -- The beginning reaches beyond the part, but with no bytes, so with no characters.
    rw [utf8ByteSize_append] at hbytes
    have hmore : String.ofList more = "" := String.utf8ByteSize_eq_zero_iff.1 (by omega)
    rw [String.ofList_eq_empty_iff] at hmore
    subst hmore
    exact ⟨passed, [], (List.append_nil _).symm, by simpa using hbytes⟩
  · exact ⟨front, more, rfl, hbytes⟩

/-! ### What a cursor tells -/

/-- The cursor stands in the source between `passed` and `rest`: all that it tells is about them. -/
structure StandsBetween (source : String) (passed rest : List Char) (cursor : Cursor) : Prop where
  source_eq : source.toList = passed ++ rest
  bytePos : cursor.bytePos = (String.ofList passed).utf8ByteSize
  position : cursor.position = Position.start.advanceOver passed
  /-- The byte index is a character boundary of the source. -/
  boundary : (⟨cursor.bytePos⟩ : String.Pos.Raw).IsValid source
  /-- So the rest is found there, and the empty text never has to stand in for it. -/
  found : textFrom? source cursor.bytePos = some rest
  unread_eq_ahead : cursor.unread source = cursor.ahead
  ahead : cursor.ahead = rest
  current : cursor.current? = rest[0]?
  peek : cursor.peek? = rest[1]?
  atEnd : cursor.isAtEnd = true ↔ rest = []
  /-- By bytes the end is where the byte index is no longer smaller than the source. -/
  isAtEnd_iff_size_le : cursor.isAtEnd = true ↔ source.utf8ByteSize ≤ cursor.bytePos
  /-- From a character boundary up to the cursor, the slice is what has been passed since. -/
  slice : ∀ n ≤ cursor.bytePos, (⟨n⟩ : String.Pos.Raw).IsValid source →
    ∃ front, passed = front ++ cursor.sliceFrom n ∧ (String.ofList front).utf8ByteSize = n
  /-- From any other byte index, there is none. -/
  noSlice : ∀ n, ¬(n ≤ cursor.bytePos ∧ (⟨n⟩ : String.Pos.Raw).IsValid source) →
    cursor.sliceFrom n = []

theorem standsBetween {source : String} (hsource : source.toList = passed ++ rest) :
    (between passed rest).StandsBetween source passed rest := by
  have hbytes : (between passed rest).bytePos = (String.ofList passed).utf8ByteSize := by
    rw [between_eq]
  have hahead : (between passed rest).ahead = rest := by rw [between_eq]
  have hfound : textFrom? source (between passed rest).bytePos = some rest :=
    textFrom?_eq_some_iff.2 ⟨passed, hsource, hbytes.symm⟩
  have hend : (between passed rest).isAtEnd = true ↔ rest = [] := by
    rw [isAtEnd, hahead, List.isEmpty_iff]
  refine
    { source_eq := hsource
      bytePos := hbytes
      position := by rw [between_eq]
      boundary := isValid_iff.2 ⟨passed, rest, hsource, hbytes.symm⟩
      found := hfound
      unread_eq_ahead := by rw [unread, hfound, hahead, Option.getD_some]
      ahead := hahead
      current := by rw [current?, hahead, List.head?_eq_getElem?]
      peek := by rw [peek?, hahead, List.head?_eq_getElem?, List.getElem?_tail]
      atEnd := hend
      isAtEnd_iff_size_le := ?_
      slice := ?_
      noSlice := ?_ }
  · have hsize : source.utf8ByteSize =
        (String.ofList passed).utf8ByteSize + (String.ofList rest).utf8ByteSize := by
      rw [← utf8ByteSize_append, ← hsource, String.ofList_toList]
    have hrest : (String.ofList rest).utf8ByteSize = 0 ↔ rest = [] := by
      rw [String.utf8ByteSize_eq_zero_iff, String.ofList_eq_empty_iff]
    rw [hend, hbytes, ← hrest]
    omega
  · intro n hle hvalid
    rw [hbytes] at hle
    obtain ⟨front, back, rfl, rfl⟩ := exists_append_of_isValid hsource hle hvalid
    exact ⟨front, by rw [sliceFrom_between], rfl⟩
  · intro n hnone
    apply sliceFrom_between_eq_nil
    rintro front back rfl rfl
    apply hnone
    rw [hbytes, utf8ByteSize_append]
    refine ⟨Nat.le_add_right _ _, isValid_iff.2 ⟨front, back ++ rest, ?_, rfl⟩⟩
    rw [hsource, List.append_assoc]

/-! ### Walks -/

/-- What can be done with a cursor. -/
inductive Step where
  | next
  | eatWhile (p : Char → Bool)
  /-- A copy of the cursor is put in front of the others. -/
  | keep
  /-- The cursor is given up for the `i`-th copy. -/
  | goBack (i : Nat)

/-- A cursor and the copies that have been kept, the latest first. -/
structure Walk where
  cursor : Cursor
  kept : List Cursor := []

/-- The walk after a step. At the end of the text, and without the copy to go back to, the cursor
stays where it is. -/
def Walk.step (walk : Walk) : Step → Walk
  | .next =>
    match walk.cursor.next? with
    | none => walk
    | some (_, after) => { walk with cursor := after }
  | .eatWhile p => { walk with cursor := walk.cursor.eatWhile p }
  | .keep => { walk with kept := walk.cursor :: walk.kept }
  | .goBack i => { walk with cursor := walk.kept.getD i walk.cursor }

/-- The walk that a number of steps makes up from the beginning of `source` on. -/
def walk (source : String) (steps : List Step) : Walk :=
  steps.foldl Walk.step { cursor := .ofText source.toList }

/-- The cursor is one of those that stand somewhere in the source. -/
def IsIn (source : String) (cursor : Cursor) : Prop :=
  ∃ passed rest, source.toList = passed ++ rest ∧ cursor = between passed rest

variable {source : String} {cursor : Cursor}

theorem isIn_ofText (source : String) : (ofText source.toList).IsIn source :=
  ⟨[], source.toList, rfl, rfl⟩

theorem IsIn.next? {after : Cursor} (h : cursor.IsIn source)
    (hnext : cursor.next? = some (c, after)) : after.IsIn source := by
  obtain ⟨passed, rest, hsource, rfl⟩ := h
  cases rest with
  | nil => cases next?_between_nil.symm.trans hnext
  | cons d rest =>
    cases next?_between.symm.trans hnext
    exact ⟨passed ++ [c], rest, by rw [hsource, List.append_assoc]; rfl, rfl⟩

theorem IsIn.eatWhile (h : cursor.IsIn source) (p : Char → Bool) :
    (cursor.eatWhile p).IsIn source := by
  obtain ⟨passed, rest, hsource, rfl⟩ := h
  refine ⟨_, _, ?_, eatWhile_between p⟩
  rw [hsource, List.append_assoc, List.takeWhile_append_dropWhile]

/-- A step leads from cursors in the source to cursors in the source. -/
theorem isIn_step {walk : Walk} (h : ∀ cursor ∈ walk.cursor :: walk.kept, cursor.IsIn source)
    (step : Step) :
    ∀ cursor ∈ (walk.step step).cursor :: (walk.step step).kept, cursor.IsIn source := by
  rw [List.forall_mem_cons] at h ⊢
  obtain ⟨hcursor, hkept⟩ := h
  cases step with
  | next =>
    rw [Walk.step]
    split
    · exact ⟨hcursor, hkept⟩
    · next hnext => exact ⟨hcursor.next? hnext, hkept⟩
  | eatWhile p => exact ⟨hcursor.eatWhile p, hkept⟩
  | keep => exact ⟨hcursor, List.forall_mem_cons.2 ⟨hcursor, hkept⟩⟩
  | goBack i =>
    refine ⟨?_, hkept⟩
    rw [Walk.step, List.getD_eq_getElem?_getD]
    cases hcopy : walk.kept[i]? with
    | none => exact hcursor
    | some copy => exact hkept copy (List.mem_of_getElem? hcopy)

theorem isIn_foldl {walk : Walk} {steps : List Step}
    (h : ∀ cursor ∈ walk.cursor :: walk.kept, cursor.IsIn source) :
    (steps.foldl Walk.step walk).cursor.IsIn source := by
  induction steps generalizing walk with
  | nil => exact h _ List.mem_cons_self
  | cons step steps ih => exact ih (isIn_step h step)

theorem isIn_walk (source : String) (steps : List Step) : (walk source steps).cursor.IsIn source :=
  isIn_foldl (List.forall_mem_singleton.2 (isIn_ofText source))

/-- Wherever a walk through a source has led, its cursor stands between a part of the source that
has been passed and the rest of it. The next character goes from the rest to the part that has been
passed, if there is one; and so does the longest beginning of the rest whose characters satisfy a
predicate. -/
theorem walk_splits_source (source : String) (steps : List Step) :
    ∃ passed rest, (walk source steps).cursor.StandsBetween source passed rest ∧
      (rest = [] → (walk source steps).cursor.next? = none) ∧
      (∀ c later, rest = c :: later → ∃ after, (walk source steps).cursor.next? = some (c, after) ∧
        after.StandsBetween source (passed ++ [c]) later) ∧
      ∀ p : Char → Bool, ∃ run later, rest = run ++ later ∧ (∀ c ∈ run, p c = true) ∧
        (∀ c ∈ later.head?, p c = false) ∧
        ((walk source steps).cursor.eatWhile p).StandsBetween source (passed ++ run) later := by
  obtain ⟨passed, rest, hsource, hcursor⟩ := isIn_walk source steps
  rw [hcursor]
  refine ⟨passed, rest, standsBetween hsource, ?_, ?_, ?_⟩
  · rintro rfl
    exact next?_between_nil
  · rintro c later rfl
    refine ⟨_, next?_between, standsBetween ?_⟩
    rw [hsource, List.append_assoc, List.singleton_append]
  · intro p
    refine ⟨rest.takeWhile p, rest.dropWhile p, List.takeWhile_append_dropWhile.symm, ?_, ?_, ?_⟩
    · exact fun c hc => List.mem_takeWhile_imp hc
    · intro c hc
      have hstop := List.head?_dropWhile_not p rest
      rwa [Option.mem_def.1 hc] at hstop
    · rw [eatWhile_between]
      apply standsBetween
      rw [hsource, List.append_assoc, List.takeWhile_append_dropWhile]

/-- A character of two bytes has no boundary inside, and going back needs a copy. -/
example :
    (walk "é/" [.keep, .next, .goBack 1]).cursor.sliceFrom 0 = ['é'] ∧
      (walk "é/" [.keep, .next, .goBack 1]).cursor.sliceFrom 1 = [] ∧
      (walk "é/" [.keep, .next, .goBack 0]).cursor.current? = some 'é' := by
  decide

end Cursor

end DocSelector
