import Stencil.Proofs.Framed
import Stencil.Proofs.LexerSteps

/-! Tokens of a part of a document.

The tokens of a part of a document that begins on a line of its own, and of the part by itself, are the same if all of
the document can be read: the lines in front hold no tokens, and the gaps behind close what is open where the part
ends, as the end of the part does.
-/

set_option autoImplicit false

namespace Stencil.Yaml

namespace Frame

variable {frame : Frame} {lexer inner outer next : Lexer}

/-- A candidate for a key of a part of a document, as one of the document. -/
def moved (frame : Frame) (candidate : Candidate) : Candidate :=
  { candidate with line := candidate.line + frame.lines, offset := candidate.offset + frame.characters }

/-- A reader of a part of a document, as one of the document. -/
def around (frame : Frame) (lexer : Lexer) : Lexer :=
  { lexer with
    cursor := frame.place lexer.cursor
    candidate? := lexer.candidate?.map frame.moved
    outer := lexer.outer.map (·.map frame.moved) }

/-- A reader of a document stands where the one of its part does, and has read the same. Where the part ends, it may
have gone on. -/
structure Tracks (frame : Frame) (inner outer : Lexer) : Prop where
  cursor : frame.Follows inner.cursor outer.cursor
  others : outer = { frame.around inner with cursor := outer.cursor, keysAllowed := outer.keysAllowed }
  keys : inner.cursor.rest ≠ [] → outer.keysAllowed = inner.keysAllowed

theorem tracks_around (lexer : Lexer) : frame.Tracks lexer (frame.around lexer) :=
  ⟨follows_place _, rfl, fun _ => rfl⟩

theorem Tracks.eq (tracks : frame.Tracks inner outer) (more : inner.cursor.rest ≠ []) : outer = frame.around inner := by
  rw [tracks.others, tracks.cursor.same more, tracks.keys more]
  rfl

theorem tracks_putPlain {part part' : PlainPart} (text : part'.text = part.text)
    (follows : frame.Follows part.place part'.place) (fresh : part.place.rest ≠ [] → part'.fresh = part.fresh) :
    frame.Tracks (lexer.putPlain part) ((frame.around lexer).putPlain part') where
  cursor := follows
  others := by
    simp only [Lexer.putPlain, text]
    rfl
  keys := fresh

section Alike

@[simp] theorem inFlow_around (lexer : Lexer) : (frame.around lexer).inFlow = lexer.inFlow := by
  simp [Lexer.inFlow, Frame.around]

theorem skip_eq_around {count : Nat} (same : outer = frame.around inner) (within : count ≤ inner.cursor.rest.length) :
    outer.skip count = frame.around (inner.skip count) := by
  simp only [same, Lexer.skip, Frame.around, place_forward within]

theorem closeBlocks_around (lexer : Lexer) (column? : Option Nat) :
    (frame.around lexer).closeBlocks column? = frame.around (lexer.closeBlocks column?) := by
  simp only [Lexer.closeBlocks, inFlow_around]
  split <;> rfl

theorem openBlock_around (lexer : Lexer) (column number : Nat) (token : Token) :
    (frame.around lexer).openBlock column number token = frame.around (lexer.openBlock column number token) := by
  have columns : (frame.around lexer).columns = lexer.columns := rfl
  unfold Lexer.openBlock
  rw [columns]
  split <;> rfl

theorem dropCandidate_around (lexer : Lexer) :
    (frame.around lexer).dropCandidate = lexer.dropCandidate.map frame.around := by
  unfold Lexer.dropCandidate
  have required : (frame.around lexer).candidate?.any (·.required) = lexer.candidate?.any (·.required) := by
    simp only [Frame.around]
    cases lexer.candidate? <;> rfl
  rw [required]
  split <;> rfl

theorem noteCandidate_around (lexer : Lexer) :
    (frame.around lexer).noteCandidate = lexer.noteCandidate.map frame.around := by
  unfold Lexer.noteCandidate
  have allowed : (frame.around lexer).keysAllowed = lexer.keysAllowed := rfl
  rw [dropCandidate_around, allowed]
  split
  · cases lexer.dropCandidate with
    | error fault => rfl
    | ok dropped =>
      simp only [Except.map, bind, Except.bind, inFlow_around]
      rfl
  · rfl

theorem isStale_moved (cursor : Cursor) (candidate : Candidate) :
    Lexer.Candidate.isStale (frame.place cursor) (frame.moved candidate) =
      Lexer.Candidate.isStale cursor candidate := by
  have line : (candidate.line + frame.lines != cursor.line + frame.lines) = (candidate.line != cursor.line) := by
    rw [Bool.eq_iff_iff]
    simp
  simp only [Lexer.Candidate.isStale, Frame.place, moved, line, Nat.add_sub_add_right]

theorem missesKey_moved (cursor : Cursor) (candidate? : Option Candidate) :
    Lexer.missesKey (frame.place cursor) (candidate?.map frame.moved) = Lexer.missesKey cursor candidate? := by
  cases candidate? with
  | none => rfl
  | some candidate => exact congrArg (candidate.required && ·) (isStale_moved cursor candidate)

theorem recent?_moved (cursor : Cursor) (candidate? : Option Candidate) :
    Lexer.recent? (frame.place cursor) (candidate?.map frame.moved) =
      (Lexer.recent? cursor candidate?).map frame.moved := by
  cases candidate? with
  | none => rfl
  | some candidate =>
    simp only [Lexer.recent?, Option.map_some, Option.filter_some, isStale_moved]
    split <;> rfl

theorem dropStale_around (lexer : Lexer) : (frame.around lexer).dropStale = lexer.dropStale.map frame.around := by
  have misses : (lexer.outer.map (·.map frame.moved)).any (Lexer.missesKey (frame.place lexer.cursor)) =
      lexer.outer.any (Lexer.missesKey lexer.cursor) := by
    simp only [List.any_map, Function.comp_def, missesKey_moved]
  unfold Lexer.dropStale
  simp only [Frame.around, missesKey_moved, misses, recent?_moved]
  split
  · rfl
  · simp only [Except.map, Frame.around, List.map_map, Function.comp_def, recent?_moved]

theorem readDocumentMark_around (mark : lexer.cursor.atDocumentMark = true) (token : Token) :
    (frame.around lexer).readDocumentMark token = (lexer.readDocumentMark token).map frame.around := by
  have within : 3 ≤ lexer.cursor.rest.length := Cursor.length_of_atDocumentMark mark
  obtain ⟨tokens, columns, closed⟩ := Lexer.exists_closeBlocks_eq lexer none
  unfold Lexer.readDocumentMark
  rw [closeBlocks_around, dropCandidate_around, closed]
  cases drop : Lexer.dropCandidate { lexer with tokens, columns } with
  | error fault => rfl
  | ok dropped =>
    obtain ⟨-, rfl⟩ := Lexer.dropCandidate_eq_ok_iff.1 drop
    exact congrArg Except.ok (skip_eq_around rfl within)

theorem readMark_around (more : lexer.cursor.rest ≠ []) (token : Token) (keysAfter : Bool) :
    (frame.around lexer).readMark token keysAfter = (lexer.readMark token keysAfter).map frame.around := by
  unfold Lexer.readMark
  rw [dropCandidate_around]
  cases drop : lexer.dropCandidate with
  | error fault => rfl
  | ok dropped =>
    obtain ⟨-, rfl⟩ := Lexer.dropCandidate_eq_ok_iff.1 drop
    exact congrArg Except.ok (skip_eq_around rfl (List.length_pos_iff.2 more))

theorem readBlockMark_around (more : lexer.cursor.rest ≠ []) (block token : Token) (keysAfter : Bool) :
    (frame.around lexer).readBlockMark block token keysAfter =
      (lexer.readBlockMark block token keysAfter).map frame.around := by
  have allowed : (frame.around lexer).keysAllowed = lexer.keysAllowed := rfl
  unfold Lexer.readBlockMark
  rw [inFlow_around, allowed, openBlock_around]
  split
  · exact readMark_around more token keysAfter
  · split
    · obtain ⟨tokens, columns, opened⟩ := Lexer.exists_openBlock_eq lexer lexer.cursor.column lexer.tokens.size block
      have place : (frame.around lexer).cursor.column = lexer.cursor.column := rfl
      have size : (frame.around lexer).tokens.size = lexer.tokens.size := rfl
      rw [place, size, opened]
      refine readMark_around ?_ token keysAfter
      exact more
    · rfl

theorem readOpening_around (more : lexer.cursor.rest ≠ []) (bracket : Bracket) :
    (frame.around lexer).readOpening bracket = (lexer.readOpening bracket).map frame.around := by
  unfold Lexer.readOpening
  rw [noteCandidate_around]
  cases note : lexer.noteCandidate with
  | error fault => rfl
  | ok noted =>
    obtain ⟨candidate?, rfl, -⟩ := Lexer.noteCandidate_ok note
    exact congrArg Except.ok (skip_eq_around rfl (List.length_pos_iff.2 more))

theorem readClosing_around (more : lexer.cursor.rest ≠ []) (bracket : Bracket) :
    (frame.around lexer).readClosing bracket = (lexer.readClosing bracket).map frame.around := by
  unfold Lexer.readClosing
  rw [dropCandidate_around]
  cases drop : lexer.dropCandidate with
  | error fault => rfl
  | ok dropped =>
    obtain ⟨-, rfl⟩ := Lexer.dropCandidate_eq_ok_iff.1 drop
    simp only [Except.map, bind, Except.bind]
    cases brackets : lexer.outer with
    | nil => rfl
    | cons candidate? outer =>
      exact congrArg Except.ok (skip_eq_around rfl (List.length_pos_iff.2 more))

theorem makeKey_around (lexer : Lexer) (candidate : Candidate) :
    (frame.around lexer).makeKey (frame.moved candidate) = frame.around (lexer.makeKey candidate) := by
  have prepared (lexer : Lexer) : (if (frame.around lexer).inFlow then frame.around lexer
      else (frame.around lexer).openBlock candidate.column candidate.number .blockMapping) =
        frame.around (if lexer.inFlow then lexer
          else lexer.openBlock candidate.column candidate.number .blockMapping) := by
    rw [inFlow_around, openBlock_around]
    split <;> rfl
  exact prepared { lexer with
    candidate? := none, tokens := lexer.tokens.insertIdxIfInBounds candidate.number .key, keysAllowed := false }

theorem readColon_around (more : lexer.cursor.rest ≠ []) :
    (frame.around lexer).readColon = lexer.readColon.map frame.around := by
  unfold Lexer.readColon
  rw [inFlow_around, readBlockMark_around more]
  have held : (frame.around lexer).candidate? = lexer.candidate?.map frame.moved := rfl
  rw [held]
  cases lexer.candidate? with
  | none => rfl
  | some candidate =>
    obtain ⟨tokens, columns, made⟩ := Lexer.exists_makeKey_eq lexer candidate
    simp only [Option.map_some, makeKey_around, made]
    exact congrArg Except.ok (skip_eq_around rfl (List.length_pos_iff.2 more))

theorem endsName_append (frame : Frame) (rest : List Char) :
    Lexer.endsName (rest ++ frame.trail) = Lexer.endsName rest := by
  unfold Lexer.endsName
  rw [atGap_append]
  cases rest <;> rfl

theorem isGap_of_isNameChar {c : Char} (isName : Lexer.isNameChar c = true) : isGap c = false := by
  rw [Bool.eq_false_iff]
  intro gap
  simp only [isGap, isBreak, Bool.or_eq_true, beq_iff_eq] at gap
  rcases gap with (rfl | rfl) | (((rfl | rfl) | rfl) | rfl) | rfl <;> revert isName <;> decide

theorem readName_around (more : lexer.cursor.rest ≠ []) (token : List Char → Token) :
    (frame.around lexer).readName token = (lexer.readName token).map frame.around := by
  unfold Lexer.readName
  rw [noteCandidate_around]
  cases note : lexer.noteCandidate with
  | error fault => rfl
  | ok noted =>
    obtain ⟨candidate?, rfl, -⟩ := Lexer.noteCandidate_ok note
    have run : (frame.place lexer.cursor).next.span Lexer.isNameChar =
        ((lexer.cursor.next.span Lexer.isNameChar).1, frame.place (lexer.cursor.next.span Lexer.isNameChar).2) := by
      rw [← place_next more, span_place_of_solid fun _ => isGap_of_isNameChar]
    have here : (frame.around { lexer with candidate? }).cursor = frame.place lexer.cursor := rfl
    have ends (cursor : Cursor) : Lexer.endsName (frame.place cursor).rest = Lexer.endsName cursor.rest :=
      endsName_append frame cursor.rest
    simp only [Except.map, bind, Except.bind, here, run, ends]
    split <;> rfl

/-- A quoted scalar of a document that begins in its part is read alike in the part. -/
theorem readQuotedScalar_around {quote : Char} (solid : isGap quote = false) (more : lexer.cursor.rest ≠ [])
    (ok : (frame.around lexer).readQuotedScalar quote = .ok outer) :
    ∃ inner, lexer.readQuotedScalar quote = .ok inner ∧ outer = frame.around inner := by
  unfold Lexer.readQuotedScalar at ok ⊢
  rw [noteCandidate_around] at ok
  obtain ⟨_, noted, ok⟩ := Outcome.bind_eq_ok_iff.1 ok
  obtain ⟨_, note, rfl⟩ := Outcome.map_eq_ok_iff.1 noted
  obtain ⟨candidate?, rfl, -⟩ := Lexer.noteCandidate_ok note
  obtain ⟨⟨text, other⟩, read, same⟩ := Outcome.bind_eq_ok_iff.1 ok
  obtain ⟨place, rfl, inside⟩ := readQuoted_place solid more read
  cases same
  exact ⟨_, Outcome.bind_eq_ok_iff.2 ⟨_, note, Outcome.bind_eq_ok_iff.2 ⟨_, inside, rfl⟩⟩, rfl⟩

/-- A plain scalar of a document that begins in its part is read alike in the part. -/
theorem readPlainScalar_around (ok : (frame.around lexer).readPlainScalar = .ok outer) :
    ∃ inner, lexer.readPlainScalar = .ok inner ∧ frame.Tracks inner outer := by
  rw [Lexer.readPlainScalar_eq, noteCandidate_around] at ok
  obtain ⟨_, noted, rfl⟩ := Outcome.map_eq_ok_iff.1 ok
  obtain ⟨_, note, rfl⟩ := Outcome.map_eq_ok_iff.1 noted
  obtain ⟨candidate?, rfl, -⟩ := Lexer.noteCandidate_ok note
  rw [Lexer.readPlainScalar_eq, note]
  obtain ⟨text, follows, fresh⟩ := frame.readPlain_place lexer.inFlow lexer.leastColumn lexer.cursor
  refine ⟨_, rfl, ?_⟩
  rw [inFlow_around]
  exact tracks_putPlain text follows fresh

theorem beginsPlain_append (frame : Frame) (inFlow : Bool) (c : Char) (rest : List Char) :
    beginsPlain inFlow (c :: (rest ++ frame.trail)) = beginsPlain inFlow (c :: rest) := by
  simp only [beginsPlain, atGap_append]

theorem actionAt_place (inFlow : Bool) (cursor : Cursor) (c : Char) (rest : List Char) :
    Lexer.actionAt inFlow (frame.place cursor) c (rest ++ frame.trail) = Lexer.actionAt inFlow cursor c rest := by
  simp only [Lexer.actionAt, atMark_place (show isGap '-' = false by decide),
    atMark_place (show isGap '.' = false by decide), atGap_append, beginsPlain_append]

theorem tracks_of_map {result result' : Outcome Lexer} (same : result' = result.map frame.around)
    (ok : result' = .ok outer) :
    ∃ inner, result = .ok inner ∧ frame.Tracks inner outer := by
  obtain ⟨inner, inside, rfl⟩ := Outcome.map_eq_ok_iff.1 (same ▸ ok)
  exact ⟨inner, inside, tracks_around inner⟩

/-- What a document has at a place of its part is read alike in the part. -/
theorem readAt_around {c : Char} {rest : List Char} (here : lexer.cursor.rest = c :: rest)
    (ok : (frame.around lexer).readAt c (rest ++ frame.trail) = .ok outer) :
    ∃ inner, lexer.readAt c rest = .ok inner ∧ frame.Tracks inner outer := by
  have more : lexer.cursor.rest ≠ [] := by simp [here]
  have fits := Lexer.actionAt_fits lexer.inFlow here
  rw [Lexer.readAt_eq, inFlow_around] at ok
  rw [Lexer.readAt_eq]
  have place : (frame.around lexer).cursor = frame.place lexer.cursor := rfl
  rw [place, actionAt_place] at ok
  generalize Lexer.actionAt lexer.inFlow lexer.cursor c rest = action at ok fits
  cases action with
  | documentMark token => exact tracks_of_map (readDocumentMark_around fits token) ok
  | opening bracket => exact tracks_of_map (readOpening_around more bracket) ok
  | closing bracket => exact tracks_of_map (readClosing_around more bracket) ok
  | comma => exact tracks_of_map (readMark_around more _ _) ok
  | blockMark => exact tracks_of_map (readBlockMark_around more _ _ _) ok
  | colon => exact tracks_of_map (readColon_around more) ok
  | name token => exact tracks_of_map (readName_around more token) ok
  | quoted quote =>
    obtain ⟨inner, inside, rfl⟩ := readQuotedScalar_around fits more ok
    exact ⟨inner, inside, tracks_around inner⟩
  | plain => exact readPlainScalar_around ok
  | nothing => cases ok

end Alike

section Advance

/-- The next place where something stands is the same, unless there is none in the part. -/
theorem toToken_place {cursor other : Cursor} (follows : frame.Follows cursor other) :
    frame.Follows cursor.toToken.1 other.toToken.1 ∧
      (cursor.toToken.1.rest ≠ [] → other.toToken.2 = cursor.toToken.2) := by
  have within := blankRun_le false cursor.rest
  by_cases ends : cursor.rest = []
  · have stays : cursor.toToken.1 = cursor := by simp [Cursor.toToken, ends, blankRun, Cursor.forward]
    rw [stays]
    exact ⟨follows.further ends (Cursor.reaches_toToken other), fun more => absurd ends more⟩
  obtain rfl := follows.same ends
  by_cases whole : (blankRun false cursor.rest).1 = cursor.rest.length
  · have atEnd : cursor.toToken.1 = cursor.forward cursor.rest.length := congrArg (cursor.forward ·) whole
    have noRest : (cursor.forward cursor.rest.length).rest = [] := by rw [Cursor.rest_forward, List.drop_length]
    have further : cursor.rest.length ≤ (blankRun false (cursor.rest ++ frame.trail)).1 :=
      length_le_blankRun_append whole frame.trail
    rw [atEnd]
    refine ⟨Follows.further (follows_place _) noRest ?_, fun more => absurd noRest more⟩
    rw [place_forward (Nat.le_refl _)]
    refine ⟨(blankRun false (cursor.rest ++ frame.trail)).1 - cursor.rest.length, ?_⟩
    rw [← Cursor.forward_add, Nat.add_sub_cancel' further]
    rfl
  · have same : blankRun false (frame.place cursor).rest = blankRun false cursor.rest :=
      blankRun_append_of_lt (Nat.lt_of_le_of_ne within whole) frame.trail
    have there : (frame.place cursor).toToken = (frame.place cursor.toToken.1, cursor.toToken.2) := by
      rw [Cursor.toToken, same, Cursor.toToken, place_forward within]
    rw [there]
    exact ⟨follows_place _, fun _ => rfl⟩

theorem Tracks.arrive (tracks : frame.Tracks inner outer) : frame.Tracks inner.arrive outer.arrive := by
  obtain ⟨follows, fresh⟩ := toToken_place tracks.cursor
  refine ⟨follows, ?_, fun more => ?_⟩
  · rw [tracks.others]
    rfl
  · have before : inner.cursor.rest ≠ [] := fun ends =>
      more (List.suffix_nil.1 (ends ▸ (Cursor.reaches_toToken inner.cursor).suffix))
    have keys := tracks.keys before
    have inFlow : outer.inFlow = inner.inFlow := by rw [tracks.eq before, inFlow_around]
    simp only [Lexer.arrive, keys, fresh more, inFlow]

theorem approach_around (arrived : outer.arrive = frame.around inner.arrive) :
    outer.approach = inner.approach.map frame.around := by
  rw [Lexer.approach_eq, Lexer.approach_eq, arrived, dropStale_around]
  cases inner.arrive.dropStale with
  | error fault => rfl
  | ok dropped => exact congrArg Except.ok (closeBlocks_around dropped _)

/-- A step at a place of a part of a document that is not its end is a step there in the document. -/
theorem advance_place (tracks : frame.Tracks inner outer) {after : Lexer} {goesOn : Bool}
    (more : inner.arrive.cursor.rest ≠ []) (ok : outer.advance = .ok (after, goesOn)) :
    goesOn = true ∧ ∃ next, inner.advance = .ok (next, true) ∧ frame.Tracks next after := by
  rw [Lexer.advance_eq, approach_around (tracks.arrive.eq more)] at ok
  obtain ⟨_, approach, ok⟩ := Outcome.bind_eq_ok_iff.1 ok
  obtain ⟨lexer, inside, rfl⟩ := Outcome.map_eq_ok_iff.1 approach
  obtain ⟨cursor, -⟩ := Lexer.approach_leads inside
  obtain ⟨c, rest, here⟩ := List.exists_cons_of_ne_nil (cursor ▸ more)
  have there : (frame.around lexer).cursor.rest = c :: (rest ++ frame.trail) := rest_place_of_cons here
  simp only [there] at ok
  obtain ⟨_, read, same⟩ := Outcome.map_eq_ok_iff.1 ok
  cases same
  obtain ⟨next, readInside, tracks⟩ := readAt_around here read
  refine ⟨rfl, next, ?_, tracks⟩
  rw [Lexer.advance_eq, inside]
  simp only [bind, Except.bind, here, readInside, Except.map]

/-- What is too far back in a part of a document is too far back in the document. -/
theorem isStale_of_follows {cursor other : Cursor} (follows : frame.Follows cursor other) {candidate : Candidate}
    (behind : candidate.line ≤ cursor.line) (stale : Lexer.Candidate.isStale cursor candidate = true) :
    Lexer.Candidate.isStale other (frame.moved candidate) = true := by
  have line : cursor.line + frame.lines ≤ other.line := follows.reaches.line_le
  have offset : cursor.offset + frame.characters ≤ other.offset := follows.reaches.offset_le
  simp only [Lexer.Candidate.isStale, Bool.or_eq_true, bne_iff_ne, ne_eq, decide_eq_true_iff] at stale ⊢
  simp only [moved]
  omega

theorem Tracks.tokens_closeBlocks (tracks : frame.Tracks inner outer) :
    (outer.closeBlocks none).tokens = (inner.closeBlocks none).tokens := by
  have inFlow : outer.inFlow = inner.inFlow := by
    rw [tracks.others]
    exact inFlow_around inner
  have tokens : outer.tokens = inner.tokens := by rw [tracks.others]; rfl
  have columns : outer.columns = inner.columns := by rw [tracks.others]; rfl
  rw [Lexer.tokens_closeBlocks_none, Lexer.tokens_closeBlocks_none, inFlow, tokens, columns]

/-- If nothing is missing in a document, nothing is in its part. -/
theorem Tracks.ends (tracks : frame.Tracks inner outer) (behind : inner.Behind) (complete : outer.Ends) :
    inner.Ends where
  innermost candidate held := by
    have there : outer.candidate? = some (frame.moved candidate) := by
      rw [tracks.others]
      simp [Frame.around, held]
    exact complete.innermost (frame.moved candidate) there
  others candidate? among := by
    cases candidate? with
    | none => rfl
    | some candidate =>
      have there : some (frame.moved candidate) ∈ outer.outer := by
        rw [tracks.others]
        exact List.mem_map.2 ⟨_, among, rfl⟩
      have unmissed := complete.others _ there
      rw [← Bool.not_eq_true] at unmissed ⊢
      intro misses
      obtain ⟨required, stale⟩ := Bool.and_eq_true_iff.1 misses
      have far := isStale_of_follows tracks.cursor (behind candidate (.inr among)) stale
      exact unmissed (Bool.and_eq_true_iff.2 ⟨required, far⟩)

/-- Where a part of a document ends, the document ends as well, and what is open is closed alike. -/
theorem advance_end (tracks : frame.Tracks inner outer) {after : Lexer} {goesOn : Bool} (behind : inner.Behind)
    (ends : inner.arrive.cursor.rest = []) (ok : outer.advance = .ok (after, goesOn)) :
    goesOn = false ∧ ∃ next, inner.advance = .ok (next, false) ∧ next.tokens = after.tokens := by
  have arrived := tracks.arrive
  have outerEnds : outer.arrive.cursor.rest = [] := Lexer.rest_of_atGap (atGap_of_gaps (arrived.cursor.gaps ends)) ok
  obtain ⟨rfl, complete, tokens⟩ := Lexer.ends_of_advance outerEnds ok
  obtain ⟨next, inside, tokensInside⟩ := Lexer.advance_of_ends ends (arrived.ends behind.arrive complete)
  exact ⟨rfl, next, inside, tokensInside.trans (arrived.tokens_closeBlocks.symm.trans tokens.symm)⟩

end Advance

section Run

/-- A document that can be read to its end has the tokens of its part. -/
theorem run_place {fuel fuel' : Nat} (tracks : frame.Tracks inner outer) (behind : inner.Behind)
    (enough : inner.cursor.rest.length < fuel) (enough' : outer.cursor.rest.length < fuel')
    (legible : ∀ fault, Token.unreadable fault ∉ outer.run fuel') : inner.run fuel = outer.run fuel' := by
  induction fuel generalizing fuel' inner outer with
  | zero => exact absurd enough (Nat.not_lt_zero _)
  | succ fuel ih =>
    obtain ⟨fuel', rfl⟩ : ∃ less, fuel' = less + 1 := Nat.exists_eq_succ_of_ne_zero (by omega)
    rw [Lexer.run] at legible ⊢
    rw [Lexer.run]
    cases step : outer.advance with
    | error fault =>
      rw [step] at legible
      exact absurd (List.mem_append_right _ List.mem_cons_self) (legible fault)
    | ok result =>
      obtain ⟨after, goesOn⟩ := result
      by_cases ends : inner.arrive.cursor.rest = []
      · obtain ⟨rfl, next, inside, tokens⟩ := advance_end tracks behind ends step
        simp [inside, tokens]
      · obtain ⟨rfl, next, inside, tracks⟩ := advance_place tracks ends step
        obtain ⟨leads, less⟩ := Lexer.advance_goes inside
        obtain ⟨-, less'⟩ := Lexer.advance_goes step
        simp only [step] at legible
        simp only [inside, if_true]
        exact ih tracks (leads.behind behind) (by omega) (by omega) legible

end Run

end Frame

end Stencil.Yaml
