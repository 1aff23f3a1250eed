import Mathlib.Data.List.Infix
import Stencil.Yaml.Token

/-! How far a reader goes.

Whatever is read of a document, the reader is further on behind it: it stands at the front of what was still ahead, on
the same line or on a later one. The readers are given in the form in which one step of theirs shows.
-/

set_option autoImplicit false

namespace Stencil

theorem Outcome.map_eq_ok_iff {α β : Type} {f : α → β} {result : Outcome α} {b : β} :
    result.map f = .ok b ↔ ∃ a, result = .ok a ∧ f a = b := by
  cases result <;> simp [Except.map]

theorem Outcome.bind_eq_ok_iff {α β : Type} {f : α → Outcome β} {result : Outcome α} {b : β} :
    (result >>= f) = .ok b ↔ ∃ a, result = .ok a ∧ f a = .ok b := by
  cases result <;> simp [bind, Except.bind]

namespace Yaml

namespace Cursor

/-- A place is reached from another one by going forward. -/
def Reaches (cursor place : Cursor) : Prop :=
  ∃ count, cursor.forward count = place

theorem forward_add (first second : Nat) (cursor : Cursor) :
    cursor.forward (first + second) = (cursor.forward first).forward second := by
  induction first generalizing cursor with
  | zero => rw [Nat.zero_add, forward]
  | succ count ih => rw [Nat.add_right_comm, forward, forward, ih]

theorem Reaches.refl (cursor : Cursor) : cursor.Reaches cursor := ⟨0, rfl⟩

theorem Reaches.trans {cursor place other : Cursor} (first : cursor.Reaches place) (second : place.Reaches other) :
    cursor.Reaches other := by
  obtain ⟨count, rfl⟩ := first
  obtain ⟨more, rfl⟩ := second
  exact ⟨count + more, forward_add count more cursor⟩

theorem reaches_forward (cursor : Cursor) (count : Nat) : cursor.Reaches (cursor.forward count) := ⟨count, rfl⟩

theorem reaches_next (cursor : Cursor) : cursor.Reaches cursor.next := ⟨1, rfl⟩

theorem reaches_span (cursor : Cursor) (inClass : Char → Bool) : cursor.Reaches (cursor.span inClass).2 := ⟨_, rfl⟩

theorem Reaches.suffix {cursor place : Cursor} (reaches : cursor.Reaches place) : place.rest <:+ cursor.rest := by
  obtain ⟨count, rfl⟩ := reaches
  rw [rest_forward]
  exact List.drop_suffix count cursor.rest

theorem Reaches.length_le {cursor place : Cursor} (reaches : cursor.Reaches place) :
    place.rest.length ≤ cursor.rest.length :=
  reaches.suffix.length_le

theorem length_rest_next {cursor : Cursor} (more : cursor.rest ≠ []) :
    cursor.next.rest.length + 1 = cursor.rest.length := by
  obtain ⟨c, rest, eq⟩ := List.exists_cons_of_ne_nil more
  simp [rest_next, eq]

theorem line_le_next (cursor : Cursor) : cursor.line ≤ cursor.next.line := by
  unfold next
  split
  · exact Nat.le_refl _
  · split <;> simp

theorem Reaches.line_le {cursor place : Cursor} (reaches : cursor.Reaches place) : cursor.line ≤ place.line := by
  obtain ⟨count, rfl⟩ := reaches
  induction count generalizing cursor with
  | zero => exact Nat.le_refl _
  | succ count ih => exact Nat.le_trans (line_le_next cursor) (@ih cursor.next)

theorem offset_le_next (cursor : Cursor) : cursor.offset ≤ cursor.next.offset := by
  unfold next
  split
  · exact Nat.le_refl _
  · split <;> simp

theorem Reaches.offset_le {cursor place : Cursor} (reaches : cursor.Reaches place) : cursor.offset ≤ place.offset := by
  obtain ⟨count, rfl⟩ := reaches
  induction count generalizing cursor with
  | zero => exact Nat.le_refl _
  | succ count ih => exact Nat.le_trans (offset_le_next cursor) (@ih cursor.next)

theorem reaches_toToken (cursor : Cursor) : cursor.Reaches cursor.toToken.1 := ⟨_, rfl⟩

end Cursor

section Reading

open Cursor

/-- What the breaks between words go on with behind the spaces of a line. -/
def breaksFrom (fuel : Nat) (after : Cursor) : Option (List Char) × Cursor :=
  match after.rest with
  | c :: _ =>
    if isBreak c then ((plainBreaks fuel after.next).1.map (keptBreak c :: ·), (plainBreaks fuel after.next).2)
    else (some [], after)
  | [] => (some [], after)

theorem plainBreaks_succ (fuel : Nat) (cursor : Cursor) :
    plainBreaks (fuel + 1) cursor =
      if cursor.atDocumentMark then (none, cursor) else breaksFrom fuel (cursor.span (· == ' ')).2 := rfl

/-- The gap behind a word, from the spaces right behind the word on. -/
def gapFrom (fuel : Nat) (blanks : List Char) (after : Cursor) : PlainPart :=
  match after.rest with
  | c :: _ =>
    if isBreak c then
      ⟨((plainBreaks fuel after.next).1.map (folded c)).getD [], (plainBreaks fuel after.next).2, true⟩
    else ⟨blanks, after, false⟩
  | [] => ⟨blanks, after, false⟩

theorem plainGap_eq (fuel : Nat) (cursor : Cursor) :
    plainGap fuel cursor = gapFrom fuel (cursor.span (· == ' ')).1 (cursor.span (· == ' ')).2 := rfl

theorem breaksFrom_reaches {fuel : Nat} (reaches : ∀ cursor : Cursor, cursor.Reaches (plainBreaks fuel cursor).2)
    (after : Cursor) : after.Reaches (breaksFrom fuel after).2 := by
  unfold breaksFrom
  split
  · split
    · exact (reaches_next _).trans (reaches _)
    · exact .refl after
  · exact .refl after

theorem plainBreaks_reaches (fuel : Nat) (cursor : Cursor) : cursor.Reaches (plainBreaks fuel cursor).2 := by
  induction fuel generalizing cursor with
  | zero => exact .refl cursor
  | succ fuel ih =>
    rw [plainBreaks_succ]
    split
    · exact .refl cursor
    · exact (reaches_span cursor _).trans (breaksFrom_reaches ih _)

theorem gapFrom_reaches (fuel : Nat) (blanks : List Char) (after : Cursor) :
    after.Reaches (gapFrom fuel blanks after).place := by
  unfold gapFrom
  split
  · split
    · exact (reaches_next _).trans (plainBreaks_reaches fuel _)
    · exact .refl after
  · exact .refl after

theorem plainGap_reaches (fuel : Nat) (cursor : Cursor) : cursor.Reaches (plainGap fuel cursor).place :=
  (reaches_span cursor _).trans (gapFrom_reaches fuel _ _)

/-- The word that a plain scalar begins or goes on with. -/
def wordAt (inFlow : Bool) (s : List Char) : List Char :=
  if s.head? == some '#' then [] else plainWord inFlow s

/-- No word follows a gap, or none that belongs to the scalar. -/
def PlainPart.stops (inFlow : Bool) (least : Nat) (gap : PlainPart) : Bool :=
  gap.text.isEmpty || gap.place.rest.head? == some '#' || (!inFlow && gap.place.column < least)

theorem readWords_succ (inFlow : Bool) (least fuel : Nat) (fresh : Bool) (cursor : Cursor) :
    readWords inFlow least (fuel + 1) fresh cursor =
      let word := wordAt inFlow cursor.rest
      let gap := plainGap fuel (cursor.forward word.length)
      let more := readWords inFlow least fuel gap.fresh gap.place
      if word.isEmpty then ⟨[], cursor, fresh⟩
      else if gap.stops inFlow least then ⟨word, gap.place, gap.fresh⟩
      else ⟨if more.text.isEmpty then word else word ++ gap.text ++ more.text, more.place, more.fresh⟩ := rfl

theorem readWords_reaches (inFlow : Bool) (least fuel : Nat) (fresh : Bool) (cursor : Cursor) :
    cursor.Reaches (readWords inFlow least fuel fresh cursor).place := by
  induction fuel generalizing fresh cursor with
  | zero => exact .refl cursor
  | succ fuel ih =>
    have beyond := (reaches_forward cursor (wordAt inFlow cursor.rest).length).trans (plainGap_reaches fuel _)
    rw [readWords_succ]
    dsimp only
    split
    · exact .refl cursor
    · split
      · exact beyond
      · exact beyond.trans (ih _ _)

variable {cursor place : Cursor} {text : List Char}

def isBlankOrTab (c : Char) : Bool := c == ' ' || c == '\t'

/-- What blank lines of a quoted scalar go on with behind the blanks of a line. -/
def linesFrom (fuel : Nat) (after : Cursor) : Outcome (List Char × Cursor) :=
  match after.rest with
  | c :: _ =>
    if isBreak c then (blankLines fuel after.next).map fun found => (keptBreak c :: found.1, found.2)
    else .ok ([], after)
  | [] => .ok ([], after)

theorem blankLines_succ (fuel : Nat) (cursor : Cursor) :
    blankLines (fuel + 1) cursor =
      if cursor.atDocumentMark then .error .yaml else linesFrom fuel (cursor.span isBlankOrTab).2 := rfl

/-- A gap in a quoted scalar, from behind its first blanks on. -/
def quotedGapFrom (fuel : Nat) (blanks : List Char) (after : Cursor) : Outcome (List Char × Cursor) :=
  match after.rest with
  | [] => .error .yaml
  | c :: _ =>
    if isBreak c then (blankLines fuel after.next).map fun found => (folded c found.1, found.2)
    else .ok (blanks, after)

theorem quotedGap_eq (fuel : Nat) (cursor : Cursor) :
    quotedGap fuel cursor = quotedGapFrom fuel (cursor.span isBlankOrTab).1 (cursor.span isBlankOrTab).2 := rfl

theorem reaches_of_map {result : Outcome (List Char × Cursor)} {f : List Char → List Char}
    (reaches : ∀ text place, result = .ok (text, place) → cursor.Reaches place)
    (ok : (result.map fun found => (f found.1, found.2)) = .ok (text, place)) : cursor.Reaches place := by
  obtain ⟨⟨found, behind⟩, read, same⟩ := Outcome.map_eq_ok_iff.1 ok
  cases same
  exact reaches _ _ read

theorem linesFrom_reaches {fuel : Nat}
    (reaches : ∀ (cursor : Cursor) text place, blankLines fuel cursor = .ok (text, place) → cursor.Reaches place)
    (ok : linesFrom fuel cursor = .ok (text, place)) : cursor.Reaches place := by
  unfold linesFrom at ok
  split at ok
  · split at ok
    · exact (reaches_next cursor).trans (reaches_of_map (reaches _) ok)
    · cases ok
      exact .refl cursor
  · cases ok
    exact .refl cursor

theorem blankLines_reaches {fuel : Nat} (ok : blankLines fuel cursor = .ok (text, place)) : cursor.Reaches place := by
  induction fuel generalizing cursor text place with
  | zero => cases ok
  | succ fuel ih =>
    rw [blankLines_succ] at ok
    split at ok
    · cases ok
    · exact (reaches_span cursor _).trans (linesFrom_reaches (fun _ _ _ ok => ih ok) ok)

theorem readEscape_reaches {fuel : Nat} (ok : readEscape fuel cursor = .ok (text, place)) : cursor.Reaches place := by
  unfold readEscape at ok
  split at ok
  · cases ok
  · split at ok
    · cases ok
      exact reaches_next cursor
    · obtain ⟨written, -, same⟩ := Outcome.map_eq_ok_iff.1 ok
      cases same
      exact reaches_forward cursor _
    · split at ok
      · exact (reaches_next cursor).trans (blankLines_reaches ok)
      · cases ok

theorem quotedGapFrom_reaches {fuel : Nat} {blanks : List Char}
    (ok : quotedGapFrom fuel blanks cursor = .ok (text, place)) : cursor.Reaches place := by
  unfold quotedGapFrom at ok
  split at ok
  · cases ok
  · split at ok
    · exact (reaches_next cursor).trans (reaches_of_map (fun _ _ ok => blankLines_reaches ok) ok)
    · cases ok
      exact .refl cursor

theorem quotedGap_reaches {c : Char} {tail : List Char} {fuel : Nat} (rest : cursor.rest = c :: tail)
    (gap : isGap c = true) (ok : quotedGap fuel cursor = .ok (text, place)) : cursor.next.Reaches place := by
  rw [quotedGap_eq] at ok
  by_cases blank : isBlankOrTab c = true
  · refine Reaches.trans ⟨(tail.takeWhile isBlankOrTab).length, ?_⟩ (quotedGapFrom_reaches ok)
    simp [span, rest, blank, forward]
  · have stays : (cursor.span isBlankOrTab).2 = cursor := by simp [span, rest, blank, forward]
    have isBreak : isBreak c = true := by
      simp only [isBlankOrTab, Bool.or_eq_true, not_or, Bool.not_eq_true] at blank
      simpa [isGap, blank] using gap
    rw [stays, quotedGapFrom] at ok
    simp only [rest, isBreak, if_true] at ok
    exact reaches_of_map (fun _ _ ok => blankLines_reaches ok) ok

/-- What stands for itself or for something else in a quoted scalar: an escape, a gap or a character. -/
def quotedPart (quote : Char) (fuel : Nat) (c : Char) (cursor : Cursor) : Outcome (List Char × Cursor) :=
  if c = '\\' ∧ quote = '"' then readEscape fuel cursor.next
  else if isGap c then quotedGap fuel cursor
  else .ok ([c], cursor.next)

theorem quotedText_succ (quote : Char) (fuel : Nat) (cursor : Cursor) :
    quotedText quote (fuel + 1) cursor =
      match cursor.rest with
      | [] => .error .yaml
      | c :: rest =>
        if c = quote then
          if quote = '\'' ∧ rest.head? = some '\'' then
            (quotedText quote fuel (cursor.forward 2)).map fun more => ('\'' :: more.1, more.2)
          else .ok ([], cursor.next)
        else quotedPart quote fuel c cursor >>= fun part =>
          (quotedText quote fuel part.2).map fun more => (part.1 ++ more.1, more.2) := by
  have chained (part : Outcome (List Char × Cursor)) : (part >>= fun found => do
        let more ← quotedText quote fuel found.2
        return (found.1 ++ more.1, more.2)) =
      part >>= fun found => (quotedText quote fuel found.2).map fun more => (found.1 ++ more.1, more.2) := by
    cases part with
    | error fault => rfl
    | ok found =>
      simp only [bind, Except.bind]
      cases quotedText quote fuel found.2 <;> rfl
  rw [quotedText]
  cases cursor.rest with
  | nil => rfl
  | cons c rest =>
    simp only [quotedPart, ← chained]
    split
    · rfl
    · split
      · rfl
      · split <;> rfl

theorem quotedPart_reaches {quote c : Char} {tail : List Char} {fuel : Nat} (rest : cursor.rest = c :: tail)
    (ok : quotedPart quote fuel c cursor = .ok (text, place)) : cursor.next.Reaches place := by
  unfold quotedPart at ok
  split at ok
  · exact readEscape_reaches ok
  · split at ok
    · rename_i gap
      exact quotedGap_reaches rest gap ok
    · cases ok
      exact .refl _

theorem quotedText_reaches {quote : Char} {fuel : Nat} (ok : quotedText quote fuel cursor = .ok (text, place)) :
    cursor.Reaches place := by
  induction fuel generalizing cursor text with
  | zero => cases ok
  | succ fuel ih =>
    rw [quotedText_succ] at ok
    split at ok
    · cases ok
    · rename_i rest
      split at ok
      · split at ok
        · obtain ⟨⟨inner, behind⟩, more, same⟩ := Outcome.map_eq_ok_iff.1 ok
          cases same
          exact (reaches_forward cursor 2).trans (ih more)
        · cases ok
          exact reaches_next cursor
      · obtain ⟨⟨part, after⟩, first, ok⟩ := Outcome.bind_eq_ok_iff.1 ok
        obtain ⟨⟨more, behind⟩, second, same⟩ := Outcome.map_eq_ok_iff.1 ok
        cases same
        exact (reaches_next cursor).trans ((quotedPart_reaches rest first).trans (ih second))

end Reading

end Yaml

end Stencil
