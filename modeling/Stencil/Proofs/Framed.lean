import Stencil.Proofs.Strides

/-! Reading a part of a document where it stands and by itself.

A part of a document may have lines in front of it and gaps behind it. A reader that starts at the part reads the
same there as it reads from the part alone: the lines and characters in front are only counted, and the gaps behind
are passed over at most.
-/

set_option autoImplicit false

namespace Stencil

namespace Yaml

/-- What stands around a part of a document: lines and characters in front of it, and gaps behind it. -/
structure Frame where
  lines : Nat
  characters : Nat
  trail : List Char
  gaps : ∀ c ∈ trail, isGap c = true

namespace Frame

variable (frame : Frame)

/-- A place in a part of a document, as a place in the document. -/
def place (cursor : Cursor) : Cursor :=
  ⟨cursor.line + frame.lines, cursor.column, cursor.offset + frame.characters, cursor.rest ++ frame.trail⟩

/-- A place in a document is the one in its part, or a later one if the part ends there. -/
structure Follows (cursor other : Cursor) : Prop where
  reaches : (frame.place cursor).Reaches other
  same : cursor.rest ≠ [] → other = frame.place cursor

variable {frame} {cursor other : Cursor}

theorem follows_place (cursor : Cursor) : frame.Follows cursor (frame.place cursor) :=
  ⟨.refl _, fun _ => rfl⟩

/-- Where a part ends, the reader of the document may go on. -/
theorem Follows.further {later : Cursor} (follows : frame.Follows cursor other) (ends : cursor.rest = [])
    (reaches : other.Reaches later) : frame.Follows cursor later :=
  ⟨follows.reaches.trans reaches, fun more => absurd ends more⟩

theorem Follows.gaps (follows : frame.Follows cursor other) (ends : cursor.rest = []) :
    ∀ c ∈ other.rest, isGap c = true := by
  have suffix := follows.reaches.suffix
  simp only [place, ends, List.nil_append] at suffix
  exact fun c among => frame.gaps c (suffix.subset among)

theorem place_next (more : cursor.rest ≠ []) : frame.place cursor.next = (frame.place cursor).next := by
  obtain ⟨line, column, offset, rest⟩ := cursor
  obtain ⟨c, rest, rfl⟩ := List.exists_cons_of_ne_nil more
  simp only [place, Cursor.next, List.cons_append]
  split <;> simp [Nat.add_right_comm]

theorem place_forward {count : Nat} (within : count ≤ cursor.rest.length) :
    frame.place (cursor.forward count) = (frame.place cursor).forward count := by
  induction count generalizing cursor with
  | zero => rfl
  | succ count ih =>
    have more : cursor.rest ≠ [] := List.length_pos_iff.1 (Nat.lt_of_lt_of_le (Nat.succ_pos _) within)
    rw [Cursor.forward, Cursor.forward, ← place_next more]
    refine ih ?_
    rw [Cursor.rest_next, List.length_tail]
    omega

theorem atGap_append (frame : Frame) (rest : List Char) : atGap (rest ++ frame.trail) = atGap rest := by
  cases rest with
  | cons c rest => rfl
  | nil =>
    have gaps := frame.gaps
    cases trail : frame.trail with
    | nil => rfl
    | cons c more => simpa [atGap] using gaps c (by simp [trail])

theorem head?_append_iff {c : Char} (solid : isGap c = false) (rest : List Char) :
    (rest ++ frame.trail).head? = some c ↔ rest.head? = some c := by
  cases rest with
  | cons first rest => simp
  | nil =>
    refine iff_of_false (fun head => ?_) (by simp)
    obtain ⟨more, trail⟩ := List.head?_eq_some_iff.1 head
    have among : c ∈ frame.trail := by
      rw [List.nil_append] at trail
      simp [trail]
    simp [frame.gaps c among] at solid

theorem atMark_place {mark : Char} (solid : isGap mark = false) (cursor : Cursor) :
    (frame.place cursor).atMark mark = cursor.atMark mark := by
  have different : ∀ c ∈ frame.trail, (c == mark) = false := by
    intro c among
    rw [beq_eq_false_iff_ne]
    rintro rfl
    simp [frame.gaps c among] at solid
  unfold Cursor.atMark place
  congr 1
  obtain ⟨line, column, offset, rest⟩ := cursor
  match rest with
  | a :: b :: c :: rest => simp only [List.cons_append, atGap_append]
  | [a, b] =>
    cases trail : frame.trail with
    | nil => rfl
    | cons c more => simp [different c (by simp [trail])]
  | [a] =>
    match trail : frame.trail with
    | [] => rfl
    | [_] => rfl
    | b :: c :: more => simp [different b (by simp [trail])]
  | [] =>
    match trail : frame.trail with
    | [] => rfl
    | [_] => rfl
    | [_, _] => rfl
    | a :: b :: c :: more => simp [different a (by simp [trail])]

theorem atDocumentMark_place (cursor : Cursor) : (frame.place cursor).atDocumentMark = cursor.atDocumentMark := by
  simp only [Cursor.atDocumentMark, atMark_place (show isGap '-' = false by decide),
    atMark_place (show isGap '.' = false by decide)]

variable (frame) in
/-- A run of characters ends at the same place, or at the end of the part or behind it. -/
theorem span_place (inClass : Char → Bool) (cursor : Cursor) :
    frame.Follows (cursor.span inClass).2 ((frame.place cursor).span inClass).2 ∧
      ((cursor.span inClass).2.rest ≠ [] → ((frame.place cursor).span inClass).1 = (cursor.span inClass).1) := by
  have within : (cursor.rest.takeWhile inClass).length ≤ cursor.rest.length :=
    (List.takeWhile_prefix inClass).length_le
  by_cases whole : (cursor.rest.takeWhile inClass).length = cursor.rest.length
  · have ends : (cursor.span inClass).2.rest = [] := by
      rw [Cursor.span, Cursor.rest_forward, whole, List.drop_length]
    refine ⟨?_, fun more => absurd ends more⟩
    have run : (frame.place cursor).rest.takeWhile inClass = cursor.rest ++ frame.trail.takeWhile inClass := by
      rw [place, List.takeWhile_append, if_pos whole]
    refine Follows.further (follows_place _) ends ⟨(frame.trail.takeWhile inClass).length, ?_⟩
    rw [Cursor.span, Cursor.span, run, List.length_append, Cursor.forward_add, place_forward within, whole]
  · have run : (frame.place cursor).rest.takeWhile inClass = cursor.rest.takeWhile inClass := by
      rw [place, List.takeWhile_append, if_neg whole]
    rw [Cursor.span, Cursor.span, run, ← place_forward within]
    exact ⟨follows_place _, fun _ => rfl⟩

/-- A run of characters that are no gaps ends at the same place. -/
theorem span_place_of_solid {inClass : Char → Bool} (solid : ∀ c, inClass c = true → isGap c = false) (cursor : Cursor) :
    (frame.place cursor).span inClass = ((cursor.span inClass).1, frame.place (cursor.span inClass).2) := by
  have none : frame.trail.takeWhile inClass = [] := by
    have gaps := frame.gaps
    cases trail : frame.trail with
    | nil => rfl
    | cons c more =>
      have gap := gaps c (by simp [trail])
      exact List.takeWhile_cons_of_neg fun among => by simp [solid c among] at gap
  have run : (frame.place cursor).rest.takeWhile inClass = cursor.rest.takeWhile inClass := by
    rw [place, List.takeWhile_append, none, List.append_nil]
    split
    · rename_i whole
      exact ((List.takeWhile_prefix inClass).eq_of_length whole).symm
    · rfl
  rw [Cursor.span, Cursor.span, run, place_forward (List.takeWhile_prefix inClass).length_le]

section Plain

theorem colonEnds_append (frame : Frame) (inFlow : Bool) (rest : List Char) :
    colonEnds inFlow (rest ++ frame.trail) = colonEnds inFlow rest := by
  cases rest with
  | cons c rest => rfl
  | nil =>
    have gaps := frame.gaps
    cases trail : frame.trail with
    | nil => rfl
    | cons c more => simp [colonEnds, gaps c (by simp [trail])]

theorem plainWord_of_gaps {s : List Char} (gaps : ∀ c ∈ s, isGap c = true) (inFlow : Bool) :
    plainWord inFlow s = [] := by
  cases s with
  | nil => rfl
  | cons c rest => simp [plainWord, gaps c]

theorem plainWord_append (frame : Frame) (inFlow : Bool) (rest : List Char) :
    plainWord inFlow (rest ++ frame.trail) = plainWord inFlow rest := by
  induction rest with
  | nil => exact plainWord_of_gaps frame.gaps inFlow
  | cons c rest ih => simp only [List.cons_append, plainWord, colonEnds_append, ih]

theorem wordAt_of_gaps {s : List Char} (gaps : ∀ c ∈ s, isGap c = true) (inFlow : Bool) : wordAt inFlow s = [] := by
  simp [wordAt, plainWord_of_gaps gaps]

theorem wordAt_append (frame : Frame) (inFlow : Bool) (rest : List Char) :
    wordAt inFlow (rest ++ frame.trail) = wordAt inFlow rest := by
  cases rest with
  | nil => exact wordAt_of_gaps frame.gaps inFlow
  | cons c rest =>
    rw [wordAt, plainWord_append]
    rfl

theorem length_plainWord_le (inFlow : Bool) (s : List Char) : (plainWord inFlow s).length ≤ s.length := by
  induction s with
  | nil => exact Nat.le_refl _
  | cons c rest ih =>
    rw [plainWord]
    split
    · exact Nat.zero_le _
    · exact Nat.succ_le_succ ih

theorem length_wordAt_le (inFlow : Bool) (s : List Char) : (wordAt inFlow s).length ≤ s.length := by
  unfold wordAt
  split
  · exact Nat.zero_le _
  · exact length_plainWord_le inFlow s

theorem rest_place_of_cons {c : Char} {tail : List Char} (rest : cursor.rest = c :: tail) :
    (frame.place cursor).rest = c :: (tail ++ frame.trail) := by
  rw [place, rest, List.cons_append]

variable (frame) in
/-- Where the breaks between words do not reach the end of a part, they are read alike in the document. -/
theorem plainBreaks_place (fuel fuel' : Nat) (cursor : Cursor) (enough : cursor.rest.length < fuel)
    (enough' : cursor.rest.length + frame.trail.length < fuel') :
    frame.Follows (plainBreaks fuel cursor).2 (plainBreaks fuel' (frame.place cursor)).2 ∧
      ((plainBreaks fuel cursor).2.rest ≠ [] →
        (plainBreaks fuel' (frame.place cursor)).1 = (plainBreaks fuel cursor).1) := by
  induction fuel generalizing fuel' cursor with
  | zero => exact absurd enough (Nat.not_lt_zero _)
  | succ fuel ih =>
    obtain ⟨fuel', rfl⟩ : ∃ less, fuel' = less + 1 := Nat.exists_eq_succ_of_ne_zero (by omega)
    obtain ⟨follows, -⟩ := frame.span_place (· == ' ') cursor
    have shorter := (Cursor.reaches_span cursor (· == ' ')).length_le
    rw [plainBreaks_succ, plainBreaks_succ, atDocumentMark_place]
    split
    · exact ⟨follows_place _, fun _ => rfl⟩
    · generalize (cursor.span (· == ' ')).2 = after at *
      generalize ((frame.place cursor).span (· == ' ')).2 = after' at *
      cases rest : after.rest with
      | nil =>
        have stays : breaksFrom fuel after = (some [], after) := by simp [breaksFrom, rest]
        rw [stays]
        exact ⟨follows.further rest (breaksFrom_reaches (plainBreaks_reaches fuel') after'),
          fun more => absurd rest more⟩
      | cons c tail =>
        have more : after.rest ≠ [] := by simp [rest]
        have less := Cursor.length_rest_next more
        obtain rfl := follows.same more
        obtain ⟨further, alike⟩ := ih fuel' after.next (by omega) (by omega)
        rw [place_next more] at further alike
        simp only [breaksFrom, rest, rest_place_of_cons rest]
        split
        · exact ⟨further, fun goes => congrArg (Option.map _) (alike goes)⟩
        · exact ⟨follows_place after, fun _ => rfl⟩

variable (frame) in
/-- The gap behind a word is read alike, as far as it does not reach the end of a part. -/
theorem plainGap_place (fuel fuel' : Nat) (cursor : Cursor) (enough : cursor.rest.length ≤ fuel)
    (enough' : cursor.rest.length + frame.trail.length ≤ fuel') :
    frame.Follows (plainGap fuel cursor).place (plainGap fuel' (frame.place cursor)).place ∧
      ((plainGap fuel cursor).place.rest ≠ [] →
        (plainGap fuel' (frame.place cursor)).text = (plainGap fuel cursor).text ∧
          (plainGap fuel' (frame.place cursor)).fresh = (plainGap fuel cursor).fresh) := by
  obtain ⟨follows, run⟩ := frame.span_place (· == ' ') cursor
  have shorter := (Cursor.reaches_span cursor (· == ' ')).length_le
  rw [plainGap_eq, plainGap_eq]
  generalize (cursor.span (· == ' ')).2 = after at *
  generalize ((frame.place cursor).span (· == ' ')).2 = after' at *
  cases rest : after.rest with
  | nil =>
    have stays (blanks : List Char) : gapFrom fuel blanks after = ⟨blanks, after, false⟩ := by simp [gapFrom, rest]
    rw [stays]
    exact ⟨follows.further rest (gapFrom_reaches fuel' _ after'), fun more => absurd rest more⟩
  | cons c tail =>
    have more : after.rest ≠ [] := by simp [rest]
    have less := Cursor.length_rest_next more
    obtain rfl := follows.same more
    obtain ⟨further, alike⟩ := frame.plainBreaks_place fuel fuel' after.next (by omega) (by omega)
    rw [place_next more] at further alike
    simp only [gapFrom, rest, rest_place_of_cons rest, run more]
    split
    · exact ⟨further, fun goes => ⟨by rw [alike goes], rfl⟩⟩
    · exact ⟨follows_place after, fun _ => ⟨rfl, rfl⟩⟩

theorem readWords_of_no_word {inFlow : Bool} {cursor : Cursor} (none : wordAt inFlow cursor.rest = [])
    (least fuel : Nat) (fresh : Bool) : readWords inFlow least fuel fresh cursor = ⟨[], cursor, fresh⟩ := by
  cases fuel with
  | zero => rfl
  | succ fuel => simp [readWords_succ, none]

/-- A word behind whose gap there is none is the last one. -/
theorem readWords_last {inFlow : Bool} {least fuel : Nat} {cursor : Cursor} {gap : PlainPart} (fresh : Bool)
    (isGap : plainGap fuel (cursor.forward (wordAt inFlow cursor.rest).length) = gap)
    (word : wordAt inFlow cursor.rest ≠ []) (none : wordAt inFlow gap.place.rest = []) :
    readWords inFlow least (fuel + 1) fresh cursor = ⟨wordAt inFlow cursor.rest, gap.place, gap.fresh⟩ := by
  simp only [readWords_succ, isGap, readWords_of_no_word none, List.isEmpty_iff, word, if_false, if_true]
  split <;> rfl

/-- The words of a plain scalar in a part of a document are those that the document has there. -/
theorem readWords_place (inFlow : Bool) (least fuel fuel' : Nat) (fresh : Bool) (cursor : Cursor)
    (enough : cursor.rest.length < fuel) (enough' : cursor.rest.length + frame.trail.length < fuel') :
    (readWords inFlow least fuel' fresh (frame.place cursor)).text = (readWords inFlow least fuel fresh cursor).text ∧
      frame.Follows (readWords inFlow least fuel fresh cursor).place
        (readWords inFlow least fuel' fresh (frame.place cursor)).place ∧
      ((readWords inFlow least fuel fresh cursor).place.rest ≠ [] →
        (readWords inFlow least fuel' fresh (frame.place cursor)).fresh =
          (readWords inFlow least fuel fresh cursor).fresh) := by
  induction fuel generalizing fuel' fresh cursor with
  | zero => exact absurd enough (Nat.not_lt_zero _)
  | succ fuel ih =>
    obtain ⟨fuel', rfl⟩ : ∃ less, fuel' = less + 1 := Nat.exists_eq_succ_of_ne_zero (by omega)
    have sameWord : wordAt inFlow (frame.place cursor).rest = wordAt inFlow cursor.rest := wordAt_append frame inFlow _
    have within := length_wordAt_le inFlow cursor.rest
    by_cases word : wordAt inFlow cursor.rest = []
    · rw [readWords_of_no_word word, readWords_of_no_word (sameWord.trans word)]
      exact ⟨rfl, follows_place cursor, fun _ => rfl⟩
    · have length : (cursor.forward (wordAt inFlow cursor.rest).length).rest.length < cursor.rest.length := by
        rw [Cursor.rest_forward, List.length_drop]
        have := List.length_pos_iff.2 word
        omega
      obtain ⟨follows, alike⟩ := frame.plainGap_place fuel fuel'
        (cursor.forward (wordAt inFlow cursor.rest).length) (by omega) (by omega)
      rw [place_forward within] at follows alike
      have shorter := (plainGap_reaches fuel (cursor.forward (wordAt inFlow cursor.rest).length)).length_le
      generalize gap : plainGap fuel (cursor.forward (wordAt inFlow cursor.rest).length) = part at *
      generalize gap' : plainGap fuel' ((frame.place cursor).forward (wordAt inFlow cursor.rest).length) = part' at *
      by_cases ends : part.place.rest = []
      · -- The part ends with the gap. The document may be past it, but no further word is ahead there either.
        rw [readWords_last fresh gap word (by rw [ends]; rfl),
          readWords_last fresh (sameWord ▸ gap') (sameWord ▸ word) (wordAt_of_gaps (follows.gaps ends) inFlow)]
        exact ⟨sameWord, follows, fun more => absurd ends more⟩
      · obtain ⟨text, fresh'⟩ := alike ends
        have place' := follows.same ends
        have stops : part'.stops inFlow least = part.stops inFlow least := by
          obtain ⟨c, tail, rest⟩ := List.exists_cons_of_ne_nil ends
          simp only [PlainPart.stops, text, place', rest_place_of_cons rest, rest]
          rfl
        obtain ⟨more, further, alike⟩ := ih fuel' part.fresh part.place (by omega) (by omega)
        simp only [readWords_succ, sameWord, gap, gap', stops, text, fresh', place', List.isEmpty_iff, word, if_false,
          more]
        split
        · exact ⟨rfl, follows_place _, fun _ => rfl⟩
        · exact ⟨rfl, further, alike⟩

variable (frame) in
theorem readPlain_place (inFlow : Bool) (least : Nat) (cursor : Cursor) :
    (readPlain inFlow least (frame.place cursor)).text = (readPlain inFlow least cursor).text ∧
      frame.Follows (readPlain inFlow least cursor).place (readPlain inFlow least (frame.place cursor)).place ∧
      ((readPlain inFlow least cursor).place.rest ≠ [] →
        (readPlain inFlow least (frame.place cursor)).fresh = (readPlain inFlow least cursor).fresh) :=
  readWords_place inFlow least _ _ false cursor (Nat.lt_succ_self _) (by simp [place])

end Plain

section Quoted

variable (frame) in
/-- What a document reads is what its part reads as well, unless the reader has come to the gaps behind the part. -/
def Alike (inner outer : Outcome (List Char × Cursor)) : Prop :=
  ∀ text other, outer = .ok (text, other) → (∀ c ∈ other.rest, isGap c = true) ∨
    ∃ place, place.rest ≠ [] ∧ other = frame.place place ∧ inner = .ok (text, place)

theorem alike_of_place (text : List Char) (cursor : Cursor) :
    frame.Alike (.ok (text, cursor)) (.ok (text, frame.place cursor)) := by
  rintro text' other ok
  cases ok
  by_cases ends : cursor.rest = []
  · exact .inl ((follows_place cursor).gaps ends)
  · exact .inr ⟨cursor, ends, rfl, rfl⟩

theorem Alike.map {inner outer : Outcome (List Char × Cursor)} (alike : frame.Alike inner outer)
    (f : List Char → List Char) :
    frame.Alike (inner.map fun found => (f found.1, found.2)) (outer.map fun found => (f found.1, found.2)) := by
  rintro text other ok
  obtain ⟨⟨found, other⟩, read, same⟩ := Outcome.map_eq_ok_iff.1 ok
  cases same
  rcases alike found other read with gaps | ⟨place, more, rfl, inside⟩
  · exact .inl gaps
  · exact .inr ⟨place, more, rfl, Outcome.map_eq_ok_iff.2 ⟨_, inside, rfl⟩⟩

/-- What has come to the gaps behind a part stays there. -/
theorem alike_of_gaps {inner outer : Outcome (List Char × Cursor)} {other : Cursor}
    (gaps : ∀ c ∈ other.rest, isGap c = true)
    (reaches : ∀ text place, outer = .ok (text, place) → other.Reaches place) : frame.Alike inner outer :=
  fun text place ok => .inl fun c among => gaps c ((reaches text place ok).suffix.subset among)

theorem alike_of_error (inner : Outcome (List Char × Cursor)) (fault : Fault) : frame.Alike inner (.error fault) :=
  fun _ _ ok => nomatch ok

theorem blankLines_alike (fuel fuel' : Nat) (cursor : Cursor) (enough : cursor.rest.length < fuel) :
    frame.Alike (blankLines fuel cursor) (blankLines fuel' (frame.place cursor)) := by
  induction fuel generalizing fuel' cursor with
  | zero => exact absurd enough (Nat.not_lt_zero _)
  | succ fuel ih =>
    cases fuel' with
    | zero => exact alike_of_error _ _
    | succ fuel' =>
      obtain ⟨follows, -⟩ := frame.span_place isBlankOrTab cursor
      have shorter := (Cursor.reaches_span cursor isBlankOrTab).length_le
      rw [blankLines_succ, blankLines_succ, atDocumentMark_place]
      split
      · exact alike_of_error _ _
      · generalize (cursor.span isBlankOrTab).2 = after at *
        generalize ((frame.place cursor).span isBlankOrTab).2 = after' at *
        cases rest : after.rest with
        | nil =>
          exact alike_of_gaps (follows.gaps rest) fun _ _ ok =>
            linesFrom_reaches (fun _ _ _ ok => blankLines_reaches ok) ok
        | cons c tail =>
          have more : after.rest ≠ [] := by simp [rest]
          have less := Cursor.length_rest_next more
          obtain rfl := follows.same more
          simp only [linesFrom, rest, rest_place_of_cons rest, ← place_next more]
          split
          · exact (ih fuel' after.next (by omega)).map _
          · exact alike_of_place [] after

theorem quotedGap_alike (fuel fuel' : Nat) (cursor : Cursor) (enough : cursor.rest.length ≤ fuel) :
    frame.Alike (quotedGap fuel cursor) (quotedGap fuel' (frame.place cursor)) := by
  obtain ⟨follows, run⟩ := frame.span_place isBlankOrTab cursor
  have shorter := (Cursor.reaches_span cursor isBlankOrTab).length_le
  rw [quotedGap_eq, quotedGap_eq]
  generalize (cursor.span isBlankOrTab).2 = after at *
  generalize ((frame.place cursor).span isBlankOrTab).2 = after' at *
  cases rest : after.rest with
  | nil => exact alike_of_gaps (follows.gaps rest) fun _ _ ok => quotedGapFrom_reaches ok
  | cons c tail =>
    have more : after.rest ≠ [] := by simp [rest]
    have less := Cursor.length_rest_next more
    obtain rfl := follows.same more
    simp only [quotedGapFrom, rest, rest_place_of_cons rest, ← place_next more, run more]
    split
    · exact (blankLines_alike fuel fuel' after.next (by omega)).map _
    · exact alike_of_place _ after

theorem hexValue?_of_isGap {c : Char} (gap : isGap c = true) : Json.hexValue? c = none := by
  simp only [isGap, isBreak, Bool.or_eq_true, beq_iff_eq] at gap
  rcases gap with (rfl | rfl) | (((rfl | rfl) | rfl) | rfl) | rfl <;> rfl

theorem mapM_hexValue?_of_gap {s : List Char} {c : Char} (among : c ∈ s) (gap : isGap c = true) :
    s.mapM Json.hexValue? = none := by
  induction s with
  | nil => cases among
  | cons first rest ih =>
    rcases List.mem_cons.1 among with rfl | later
    · simp [List.mapM_cons, hexValue?_of_isGap gap]
    · simp [List.mapM_cons, ih later]

/-- The digits of an escape do not reach into gaps. -/
theorem hexChar_append {width : Nat} {rest : List Char} {written : Char}
    (ok : hexChar width (rest ++ frame.trail) = .ok written) :
    width ≤ rest.length ∧ hexChar width rest = .ok written := by
  by_cases within : width ≤ rest.length
  · refine ⟨within, ?_⟩
    have long : ¬ (rest ++ frame.trail).length < width := by
      rw [List.length_append]
      omega
    rw [← ok, hexChar, hexChar, if_neg long, if_neg (by omega), List.take_append_of_le_length within]
  · exfalso
    unfold hexChar at ok
    split at ok
    · rename_i values read
      split at read
      · cases read
      · rename_i long
        obtain ⟨c, more, trail⟩ : ∃ c more, frame.trail = c :: more := by
          cases trail : frame.trail with
          | nil => simp [trail] at long; omega
          | cons c more => exact ⟨c, more, rfl⟩
        have gap : isGap c = true := frame.gaps c (by simp [trail])
        have among : c ∈ (rest ++ frame.trail).take width := by
          obtain ⟨beyond, rfl⟩ := Nat.exists_eq_add_of_lt (Nat.lt_of_not_le within)
          simp [List.take_append, trail, Nat.add_assoc]
        rw [mapM_hexValue?_of_gap among gap] at read
        cases read
    · cases ok

theorem readEscape_alike (fuel fuel' : Nat) {cursor : Cursor} (more : cursor.rest ≠ [])
    (enough : cursor.rest.length ≤ fuel) :
    frame.Alike (readEscape fuel cursor) (readEscape fuel' (frame.place cursor)) := by
  obtain ⟨c, tail, rest⟩ := List.exists_cons_of_ne_nil more
  have less := Cursor.length_rest_next more
  simp only [readEscape, rest, rest_place_of_cons rest]
  split
  · rw [← place_next more]
    exact alike_of_place _ _
  · intro text other ok
    obtain ⟨written, read, same⟩ := Outcome.map_eq_ok_iff.1 ok
    cases same
    obtain ⟨within, inside⟩ := hexChar_append read
    rw [← place_forward (by rw [rest, List.length_cons]; omega), inside]
    exact alike_of_place _ _ _ _ rfl
  · split
    · rw [← place_next more]
      exact blankLines_alike fuel fuel' cursor.next (by omega)
    · exact alike_of_error _ _

theorem quotedPart_alike {quote c : Char} {tail : List Char} (fuel fuel' : Nat) {cursor : Cursor}
    (rest : cursor.rest = c :: tail) (enough : cursor.rest.length ≤ fuel) :
    frame.Alike (quotedPart quote fuel c cursor) (quotedPart quote fuel' c (frame.place cursor)) := by
  have more : cursor.rest ≠ [] := by simp [rest]
  have less := Cursor.length_rest_next more
  unfold quotedPart
  rw [← place_next more]
  split
  · by_cases ends : cursor.next.rest = []
    · exact alike_of_gaps ((follows_place cursor.next).gaps ends) fun _ _ ok => readEscape_reaches ok
    · exact readEscape_alike fuel fuel' ends (by omega)
  · split
    · exact quotedGap_alike fuel fuel' cursor enough
    · exact alike_of_place _ _

/-- A quoted scalar does not end in gaps. -/
theorem quotedText_of_gaps {quote : Char} (solid : isGap quote = false) (fuel : Nat) {cursor : Cursor}
    (gaps : ∀ c ∈ cursor.rest, isGap c = true) (found : List Char × Cursor) :
    quotedText quote fuel cursor ≠ .ok found := by
  induction fuel generalizing cursor found with
  | zero => exact nofun
  | succ fuel ih =>
    intro ok
    rw [quotedText_succ] at ok
    split at ok
    · cases ok
    · rename_i c rest eq
      have different : c ≠ quote := by
        rintro rfl
        simp [gaps c (by simp [eq])] at solid
      rw [if_neg different] at ok
      obtain ⟨⟨part, after⟩, first, ok⟩ := Outcome.bind_eq_ok_iff.1 ok
      obtain ⟨more, second, -⟩ := Outcome.map_eq_ok_iff.1 ok
      have reaches := (Cursor.reaches_next cursor).trans (quotedPart_reaches eq first)
      exact ih (fun c among => gaps c (reaches.suffix.subset among)) more second

/-- A quoted scalar of a document ends within the part where it begins, and is read there alike. -/
theorem quotedText_place {quote : Char} (solid : isGap quote = false) {fuel fuel' : Nat} {cursor other : Cursor}
    {text : List Char} (enough : cursor.rest.length < fuel)
    (ok : quotedText quote fuel' (frame.place cursor) = .ok (text, other)) :
    ∃ place, other = frame.place place ∧ quotedText quote fuel cursor = .ok (text, place) := by
  induction fuel generalizing fuel' cursor text other with
  | zero => exact absurd enough (Nat.not_lt_zero _)
  | succ fuel ih =>
    cases fuel' with
    | zero => cases ok
    | succ fuel' =>
      cases rest : cursor.rest with
      | nil => exact absurd ok (quotedText_of_gaps solid _ ((follows_place cursor).gaps rest) _)
      | cons c tail =>
        have more : cursor.rest ≠ [] := by simp [rest]
        have less := Cursor.length_rest_next more
        have doubled : (tail ++ frame.trail).head? = some '\'' ↔ tail.head? = some '\'' := head?_append_iff rfl tail
        simp only [quotedText_succ, rest, rest_place_of_cons rest, doubled] at ok ⊢
        split at ok
        · rename_i closes
          rw [if_pos closes]
          split at ok
          · rename_i double
            rw [if_pos double]
            have two : 2 ≤ cursor.rest.length := by
              obtain ⟨behind, tailIs⟩ := List.head?_eq_some_iff.1 double.2
              simp [rest, tailIs]
            have length : (cursor.forward 2).rest.length < fuel := by
              rw [Cursor.rest_forward, List.length_drop]
              omega
            obtain ⟨⟨inner, behind⟩, read, same⟩ := Outcome.map_eq_ok_iff.1 ok
            cases same
            rw [← place_forward two] at read
            obtain ⟨place, rfl, inside⟩ := ih length read
            exact ⟨place, rfl, Outcome.map_eq_ok_iff.2 ⟨_, inside, rfl⟩⟩
          · rename_i single
            rw [if_neg single]
            cases ok
            exact ⟨cursor.next, (place_next more).symm, rfl⟩
        · rename_i other
          rw [if_neg other]
          obtain ⟨⟨part, after⟩, first, ok⟩ := Outcome.bind_eq_ok_iff.1 ok
          obtain ⟨⟨inner, behind⟩, second, same⟩ := Outcome.map_eq_ok_iff.1 ok
          cases same
          -- What runs past the end of the part leaves only gaps ahead, and no quote to close the scalar.
          rcases quotedPart_alike fuel fuel' rest (by omega) part after first with gaps | ⟨place, -, rfl, inside⟩
          · exact absurd second (quotedText_of_gaps solid _ gaps _)
          · have shorter := (quotedPart_reaches rest inside).length_le
            obtain ⟨place, rfl, inside'⟩ := ih (by omega) second
            exact ⟨place, rfl, Outcome.bind_eq_ok_iff.2 ⟨_, inside, Outcome.map_eq_ok_iff.2 ⟨_, inside', rfl⟩⟩⟩

theorem readQuoted_place {quote : Char} (solid : isGap quote = false) {cursor other : Cursor} {text : List Char}
    (more : cursor.rest ≠ []) (ok : readQuoted quote (frame.place cursor) = .ok (text, other)) :
    ∃ place, other = frame.place place ∧ readQuoted quote cursor = .ok (text, place) := by
  have less := Cursor.length_rest_next more
  rw [readQuoted, ← place_next more] at ok
  exact quotedText_place solid (by omega) ok

end Quoted

end Frame

end Yaml

end Stencil
