import Mathlib.Data.List.TakeWhile
import Stencil.Proofs.Strides

/-! Steps of the reader of tokens.

A step goes on to the next place where something stands, drops candidates for keys that lie too far back, closes the
blocks that end there, and reads what stands there. What it reads is decided by the characters ahead alone, and each
step but the last goes forward.
-/

set_option autoImplicit false

namespace Stencil.Yaml

theorem Cursor.length_of_atMark {cursor : Cursor} {mark : Char} (atMark : cursor.atMark mark = true) :
    3 ≤ cursor.rest.length := by
  unfold Cursor.atMark at atMark
  split at atMark
  · rename_i rest
    simp [rest]
  · simp at atMark

theorem Cursor.length_of_atDocumentMark {cursor : Cursor} (mark : cursor.atDocumentMark = true) :
    3 ≤ cursor.rest.length := by
  rcases Bool.or_eq_true_iff.1 mark with dashes | dots
  · exact length_of_atMark dashes
  · exact length_of_atMark dots

theorem blankRun_le (inComment : Bool) (s : List Char) : (blankRun inComment s).1 ≤ s.length := by
  induction s generalizing inComment with
  | nil => exact Nat.le_refl _
  | cons c rest ih =>
    rw [blankRun]
    split
    · exact Nat.succ_le_succ (ih false)
    · split
      · exact Nat.succ_le_succ (ih _)
      · exact Nat.zero_le _

/-- What follows a blank run that ends before the end of a text does not count. -/
theorem blankRun_append_of_lt {inComment : Bool} {s : List Char} (ends : (blankRun inComment s).1 < s.length)
    (more : List Char) : blankRun inComment (s ++ more) = blankRun inComment s := by
  induction s generalizing inComment with
  | nil => cases ends
  | cons c rest ih =>
    rw [List.cons_append, blankRun, blankRun]
    rw [blankRun] at ends
    split at ends
    · rename_i isBreak
      rw [if_pos isBreak, if_pos isBreak, ih (Nat.lt_of_succ_lt_succ ends)]
    · rename_i noBreak
      rw [if_neg noBreak, if_neg noBreak]
      split at ends
      · rename_i blank
        rw [if_pos blank, if_pos blank, ih (Nat.lt_of_succ_lt_succ ends)]
      · rename_i solid
        rw [if_neg solid, if_neg solid]

theorem length_le_blankRun_append {inComment : Bool} {s : List Char} (whole : (blankRun inComment s).1 = s.length)
    (more : List Char) : s.length ≤ (blankRun inComment (s ++ more)).1 := by
  induction s generalizing inComment with
  | nil => exact Nat.zero_le _
  | cons c rest ih =>
    rw [blankRun] at whole
    rw [List.cons_append, blankRun]
    split at whole
    · rename_i isBreak
      rw [if_pos isBreak]
      exact Nat.succ_le_succ (ih (Nat.succ.inj whole))
    · rename_i noBreak
      rw [if_neg noBreak]
      split at whole
      · rename_i blank
        rw [if_pos blank]
        exact Nat.succ_le_succ (ih (Nat.succ.inj whole))
      · cases whole

theorem atGap_of_gaps {s : List Char} (gaps : ∀ c ∈ s, isGap c = true) : atGap s = true := by
  cases s with
  | nil => rfl
  | cons c rest => exact gaps c List.mem_cons_self

namespace Lexer

variable {before after lexer next : Lexer}

/-- A candidate for a key, of the innermost brackets or of others. -/
def Holds (lexer : Lexer) (candidate : Candidate) : Prop :=
  lexer.candidate? = some candidate ∨ some candidate ∈ lexer.outer

/-- No candidate for a key stands on a later line than the reader. -/
def Behind (lexer : Lexer) : Prop :=
  ∀ candidate, lexer.Holds candidate → candidate.line ≤ lexer.cursor.line

/-- The reader has gone on, and candidates have been dropped or noted on the way. -/
structure Leads (before after : Lexer) : Prop where
  reaches : before.cursor.Reaches after.cursor
  candidates : ∀ candidate, after.Holds candidate → before.Holds candidate ∨ candidate.line ≤ after.cursor.line

theorem Leads.trans (first : before.Leads lexer) (second : lexer.Leads after) : before.Leads after := by
  refine ⟨first.reaches.trans second.reaches, fun candidate holds => ?_⟩
  rcases second.candidates candidate holds with old | new
  · exact (first.candidates candidate old).imp_right (Nat.le_trans · second.reaches.line_le)
  · exact .inr new

theorem Leads.behind (leads : before.Leads after) (behind : before.Behind) : after.Behind := by
  intro candidate holds
  rcases leads.candidates candidate holds with old | new
  · exact Nat.le_trans (behind candidate old) leads.reaches.line_le
  · exact new

theorem dropCandidate_eq_ok_iff : lexer.dropCandidate = .ok next ↔
    (∀ candidate, lexer.candidate? = some candidate → candidate.required = false) ∧
      { lexer with candidate? := none } = next := by
  unfold dropCandidate
  cases lexer.candidate? with
  | none => simp
  | some candidate => cases required : candidate.required <;> simp [required]

/-- Noting a candidate leaves all but the innermost candidate as it was. -/
theorem noteCandidate_ok (ok : lexer.noteCandidate = .ok next) :
    ∃ candidate?, next = { lexer with candidate? } ∧
      ∀ candidate, candidate? = some candidate →
        lexer.candidate? = some candidate ∨ candidate.line = lexer.cursor.line := by
  unfold noteCandidate at ok
  split at ok
  · obtain ⟨dropped, drop, ok⟩ := Outcome.bind_eq_ok_iff.1 ok
    obtain ⟨-, rfl⟩ := dropCandidate_eq_ok_iff.1 drop
    cases ok
    exact ⟨_, rfl, fun candidate same => .inr (by cases same; rfl)⟩
  · cases ok
    exact ⟨_, rfl, fun candidate same => .inl same⟩

theorem exists_closeBlocks_eq (lexer : Lexer) (column? : Option Nat) :
    ∃ tokens columns, lexer.closeBlocks column? = { lexer with tokens, columns } := by
  unfold closeBlocks
  split
  · exact ⟨_, _, rfl⟩
  · exact ⟨_, _, rfl⟩

@[simp] theorem candidate?_closeBlocks (lexer : Lexer) (column? : Option Nat) :
    (lexer.closeBlocks column?).candidate? = lexer.candidate? := by
  obtain ⟨tokens, columns, closed⟩ := exists_closeBlocks_eq lexer column?
  rw [closed]

@[simp] theorem cursor_closeBlocks (lexer : Lexer) (column? : Option Nat) :
    (lexer.closeBlocks column?).cursor = lexer.cursor := by
  obtain ⟨tokens, columns, closed⟩ := exists_closeBlocks_eq lexer column?
  rw [closed]

theorem tokens_closeBlocks_none (lexer : Lexer) : (lexer.closeBlocks none).tokens =
    if lexer.inFlow then lexer.tokens else lexer.tokens ++ lexer.columns.map fun _ => Token.blockEnd := by
  have all : lexer.columns.takeWhile (fun _ => true) = lexer.columns :=
    List.takeWhile_eq_self_iff.2 fun _ _ => rfl
  unfold closeBlocks
  split
  · rfl
  · exact congrArg (fun columns : List Nat => lexer.tokens ++ columns.map fun _ => Token.blockEnd) all

/-- It does not count whether blocks are closed in one go or some of them before the others. -/
theorem tokens_closeBlocks_twice (lexer : Lexer) (column? : Option Nat) :
    ((lexer.closeBlocks column?).closeBlocks none).tokens = (lexer.closeBlocks none).tokens := by
  rw [tokens_closeBlocks_none, tokens_closeBlocks_none]
  cases flow : lexer.inFlow with
  | true => simp [closeBlocks, flow]
  | false =>
    have still : (lexer.closeBlocks column?).inFlow = false := by
      obtain ⟨tokens, columns, closed⟩ := exists_closeBlocks_eq lexer column?
      rw [closed]
      exact flow
    have parts := List.takeWhile_append_dropWhile (p := fun block => column?.all (· < block)) (l := lexer.columns)
    rw [still, if_neg Bool.false_ne_true, if_neg Bool.false_ne_true, closeBlocks, flow, if_neg Bool.false_ne_true]
    apply Array.toList_inj.1
    conv_rhs => rw [← parts]
    simp only [Array.toList_appendList, List.append_assoc, List.map_append]

theorem exists_openBlock_eq (lexer : Lexer) (column number : Nat) (token : Token) :
    ∃ tokens columns, lexer.openBlock column number token = { lexer with tokens, columns } := by
  unfold openBlock
  split
  · exact ⟨_, _, rfl⟩
  · exact ⟨_, _, rfl⟩

theorem exists_makeKey_eq (lexer : Lexer) (candidate : Candidate) :
    ∃ tokens columns, lexer.makeKey candidate =
      { lexer with candidate? := none, tokens, columns, keysAllowed := false } := by
  unfold makeKey
  dsimp only
  split
  · exact ⟨_, _, rfl⟩
  · obtain ⟨tokens, columns, opened⟩ := exists_openBlock_eq _ candidate.column candidate.number .blockMapping
    exact ⟨tokens, columns, opened⟩

/-- The first column in which a plain scalar may go on. -/
def leastColumn (lexer : Lexer) : Nat :=
  (lexer.columns.head?.map (· + 1)).getD 0

def putPlain (lexer : Lexer) (part : PlainPart) : Lexer :=
  { (lexer.allowKeys part.fresh).emit (.scalar true part.text) with cursor := part.place }

theorem readPlainScalar_eq (lexer : Lexer) : lexer.readPlainScalar =
    lexer.noteCandidate.map fun noted => noted.putPlain (readPlain noted.inFlow noted.leastColumn noted.cursor) := by
  unfold readPlainScalar
  cases lexer.noteCandidate <;> rfl

/-- The reader at the next place where something stands. -/
def arrive (lexer : Lexer) : Lexer :=
  { lexer with
    cursor := lexer.cursor.toToken.1
    keysAllowed := lexer.keysAllowed || (lexer.cursor.toToken.2 && !lexer.inFlow) }

theorem approach_eq (lexer : Lexer) :
    lexer.approach = lexer.arrive.dropStale.map fun next => next.closeBlocks (some next.cursor.column) := by
  have unfolded : lexer.approach = lexer.arrive.dropStale >>= fun next =>
      return next.closeBlocks (some next.cursor.column) := rfl
  rw [unfolded]
  cases lexer.arrive.dropStale <;> rfl

theorem advance_eq (lexer : Lexer) : lexer.advance = lexer.approach >>= fun next =>
    match next.cursor.rest with
    | [] => (next.closeBlocks none).dropCandidate.map (·, false)
    | c :: rest => (next.readAt c rest).map (·, true) := by
  unfold advance
  cases lexer.approach with
  | error fault => rfl
  | ok next =>
    simp only [bind, Except.bind]
    cases next.cursor.rest with
    | nil => cases (next.closeBlocks none).dropCandidate <;> rfl
    | cons c rest => cases next.readAt c rest <;> rfl

theorem dropStale_eq_ok_iff : lexer.dropStale = .ok next ↔
    missesKey lexer.cursor lexer.candidate? = false ∧
      (∀ candidate? ∈ lexer.outer, missesKey lexer.cursor candidate? = false) ∧
      { lexer with
        candidate? := recent? lexer.cursor lexer.candidate?
        outer := lexer.outer.map (recent? lexer.cursor) } = next := by
  have others : (∀ candidate? ∈ lexer.outer, missesKey lexer.cursor candidate? = false) ↔
      lexer.outer.any (missesKey lexer.cursor) = false := by simp
  rw [others, dropStale]
  cases missesKey lexer.cursor lexer.candidate? <;> cases lexer.outer.any (missesKey lexer.cursor) <;> simp

theorem approach_ok (ok : lexer.approach = .ok next) : ∃ stale, lexer.arrive.dropStale = .ok stale ∧
    next = stale.closeBlocks (some stale.cursor.column) := by
  rw [approach_eq] at ok
  obtain ⟨stale, drop, same⟩ := Outcome.map_eq_ok_iff.1 ok
  exact ⟨stale, drop, same.symm⟩

/-- What is approached is what comes next, with the candidates that are still recent. -/
theorem approach_leads (ok : lexer.approach = .ok next) : next.cursor = lexer.arrive.cursor ∧ lexer.Leads next := by
  obtain ⟨stale, drop, rfl⟩ := approach_ok ok
  obtain ⟨-, -, rfl⟩ := dropStale_eq_ok_iff.1 drop
  obtain ⟨tokens, columns, closed⟩ := exists_closeBlocks_eq { lexer.arrive with
    candidate? := recent? lexer.arrive.cursor lexer.arrive.candidate?
    outer := lexer.arrive.outer.map (recent? lexer.arrive.cursor) } (some lexer.arrive.cursor.column)
  rw [closed]
  refine ⟨rfl, Cursor.reaches_toToken lexer.cursor, ?_⟩
  rintro candidate (inner | among)
  · exact .inl (.inl (Option.filter_eq_some_iff.1 inner).1)
  · obtain ⟨old, among, kept⟩ := List.mem_map.1 among
    exact .inl (.inr ((Option.filter_eq_some_iff.1 kept).1 ▸ among))

/-- Nothing is missing where the text ends: no key that has to be there. -/
structure Ends (lexer : Lexer) : Prop where
  innermost : ∀ candidate, lexer.candidate? = some candidate → candidate.required = false
  others : ∀ candidate? ∈ lexer.outer, missesKey lexer.cursor candidate? = false

/-- Dropping stale candidates does not change which blocks are open. -/
theorem tokens_of_dropStale (ok : lexer.dropStale = .ok next) :
    (next.closeBlocks none).tokens = (lexer.closeBlocks none).tokens := by
  obtain ⟨-, -, rfl⟩ := dropStale_eq_ok_iff.1 ok
  simp only [tokens_closeBlocks_none, inFlow, List.isEmpty_map]
  rfl

theorem ends_of_advance {goesOn : Bool} (ends : lexer.arrive.cursor.rest = [])
    (ok : lexer.advance = .ok (next, goesOn)) :
    goesOn = false ∧ lexer.arrive.Ends ∧ next.tokens = (lexer.arrive.closeBlocks none).tokens := by
  rw [advance_eq] at ok
  obtain ⟨approached, approach, ok⟩ := Outcome.bind_eq_ok_iff.1 ok
  obtain ⟨cursor, -⟩ := approach_leads approach
  simp only [show approached.cursor.rest = [] from cursor ▸ ends] at ok
  obtain ⟨last, drop, same⟩ := Outcome.map_eq_ok_iff.1 ok
  obtain ⟨stale, dropped, rfl⟩ := approach_ok approach
  obtain ⟨innermost, rfl⟩ := dropCandidate_eq_ok_iff.1 drop
  have tokens := (tokens_closeBlocks_twice stale (some stale.cursor.column)).trans (tokens_of_dropStale dropped)
  cases same
  obtain ⟨first, others, isStale⟩ := dropStale_eq_ok_iff.1 dropped
  refine ⟨rfl, ⟨fun candidate held => ?_, others⟩, tokens⟩
  -- A candidate that has to be there is too far back, or it is left over.
  by_contra required
  rw [Bool.not_eq_false] at required
  have recent : Candidate.isStale lexer.arrive.cursor candidate = false := by
    simpa [missesKey, held, required] using first
  have left : stale.candidate? = some candidate := by
    rw [← isStale]
    simp [recent?, held, recent]
  rw [innermost candidate (by simpa using left)] at required
  cases required

theorem advance_of_ends (ends : lexer.arrive.cursor.rest = []) (complete : lexer.arrive.Ends) :
    ∃ next, lexer.advance = .ok (next, false) ∧ next.tokens = (lexer.arrive.closeBlocks none).tokens := by
  have first : missesKey lexer.arrive.cursor lexer.arrive.candidate? = false := by
    cases held : lexer.arrive.candidate? with
    | none => rfl
    | some candidate => simp [missesKey, complete.innermost candidate held]
  obtain ⟨stale, dropped⟩ : ∃ stale, lexer.arrive.dropStale = .ok stale :=
    ⟨_, dropStale_eq_ok_iff.2 ⟨first, complete.others, rfl⟩⟩
  have tokens := (tokens_closeBlocks_twice stale (some stale.cursor.column)).trans (tokens_of_dropStale dropped)
  have cursor : stale.cursor.rest = [] := by
    obtain ⟨-, -, rfl⟩ := dropStale_eq_ok_iff.1 dropped
    exact ends
  have optional : ∀ candidate,
      ((stale.closeBlocks (some stale.cursor.column)).closeBlocks none).candidate? = some candidate →
      candidate.required = false := by
    intro candidate held
    obtain ⟨-, -, rfl⟩ := dropStale_eq_ok_iff.1 dropped
    rw [candidate?_closeBlocks, candidate?_closeBlocks] at held
    exact complete.innermost candidate (Option.filter_eq_some_iff.1 held).1
  obtain ⟨final, last, same⟩ : ∃ final,
      ((stale.closeBlocks (some stale.cursor.column)).closeBlocks none).dropCandidate = .ok final ∧
        final.tokens = ((stale.closeBlocks (some stale.cursor.column)).closeBlocks none).tokens :=
    ⟨_, dropCandidate_eq_ok_iff.2 ⟨optional, rfl⟩, rfl⟩
  refine ⟨final, ?_, same.trans tokens⟩
  rw [advance_eq, approach_eq, dropped]
  simp only [Except.map, bind, Except.bind, cursor_closeBlocks, cursor, last]

section Actions

variable {c : Char} {rest : List Char}

/-- What there is to read at a place. -/
inductive Action where
  | documentMark (token : Token)
  | opening (bracket : Bracket)
  | closing (bracket : Bracket)
  | comma
  | blockMark (block token : Token) (keysAfter : Bool)
  | colon
  | name (token : List Char → Token)
  | quoted (quote : Char)
  | plain
  | nothing

def Action.run (lexer : Lexer) : Action → Outcome Lexer
  | .documentMark token => lexer.readDocumentMark token
  | .opening bracket => lexer.readOpening bracket
  | .closing bracket => lexer.readClosing bracket
  | .comma => lexer.readMark .comma true
  | .blockMark block token keysAfter => lexer.readBlockMark block token keysAfter
  | .colon => lexer.readColon
  | .name token => lexer.readName token
  | .quoted quote => lexer.readQuotedScalar quote
  | .plain => lexer.readPlainScalar
  | .nothing => .error .yaml

def actionAt (inFlow : Bool) (cursor : Cursor) (c : Char) (rest : List Char) : Action :=
  if cursor.atMark '-' then .documentMark .documentStart
  else if cursor.atMark '.' then .documentMark .documentEnd
  else if c = '[' then .opening .square
  else if c = '{' then .opening .curly
  else if c = ']' then .closing .square
  else if c = '}' then .closing .curly
  else if c = ',' then .comma
  else if c = '-' ∧ atGap rest then .blockMark .blockSequence .item true
  else if c = '?' ∧ (inFlow || atGap rest) then .blockMark .blockMapping .key (!inFlow)
  else if c = ':' ∧ (inFlow || atGap rest) then .colon
  else if c = '*' then .name .aliased
  else if c = '&' then .name .anchor
  else if c = '\'' ∨ c = '"' then .quoted c
  else if beginsPlain inFlow (c :: rest) then .plain
  else .nothing

theorem readAt_eq (lexer : Lexer) (c : Char) (rest : List Char) :
    lexer.readAt c rest = (actionAt lexer.inFlow lexer.cursor c rest).run lexer := by
  unfold readAt actionAt
  simp only [apply_ite (Action.run lexer)]
  rfl

/-- What an action needs: a mark of a document, a quote or the first character of a plain scalar. -/
def Action.Fits (inFlow : Bool) (cursor : Cursor) : Action → Prop
  | .documentMark _ => cursor.atDocumentMark = true
  | .quoted quote => isGap quote = false
  | .plain => beginsPlain inFlow cursor.rest = true
  | _ => True

theorem actionAt_fits (inFlow : Bool) {cursor : Cursor} (here : cursor.rest = c :: rest) :
    (actionAt inFlow cursor c rest).Fits inFlow cursor := by
  unfold actionAt
  refine iteInduction (fun mark => by simp [Action.Fits, Cursor.atDocumentMark, mark]) fun _ => ?_
  refine iteInduction (fun mark => by simp [Action.Fits, Cursor.atDocumentMark, mark]) fun _ => ?_
  iterate 10 refine iteInduction (fun _ => trivial) fun _ => ?_
  refine iteInduction (fun quote => by rcases quote with rfl | rfl <;> rfl) fun _ => ?_
  exact iteInduction (fun begins => by rwa [Action.Fits, here]) fun _ => trivial

end Actions

section Gaps

/-- A gap that is neither a space nor a break is nothing that can be read. -/
theorem readAt_of_gap {c : Char} {rest : List Char} (here : lexer.cursor.rest = c :: rest) (gap : isGap c = true) :
    lexer.readAt c rest = .error .yaml := by
  have other {mark : Char} (solid : isGap mark = false) : c ≠ mark := by
    rintro rfl
    simp [gap] at solid
  have noMark {mark : Char} (solid : isGap mark = false) : lexer.cursor.atMark mark = false := by
    have unlike : (c == mark) = false := beq_eq_false_iff_ne.2 (other solid)
    unfold Cursor.atMark
    rw [here]
    match rest with
    | [] => simp
    | [_] => simp
    | _ :: _ :: _ => simp [unlike]
  have noPlain : beginsPlain lexer.inFlow (c :: rest) = false := by simp [beginsPlain, gap]
  have nothing : actionAt lexer.inFlow lexer.cursor c rest = .nothing := by
    simp only [actionAt, noMark (show isGap '-' = false from rfl), noMark (show isGap '.' = false from rfl),
      other (show isGap '[' = false from rfl), other (show isGap '{' = false from rfl),
      other (show isGap ']' = false from rfl), other (show isGap '}' = false from rfl),
      other (show isGap ',' = false from rfl), other (show isGap '-' = false from rfl),
      other (show isGap '?' = false from rfl), other (show isGap ':' = false from rfl),
      other (show isGap '*' = false from rfl), other (show isGap '&' = false from rfl),
      other (show isGap '\'' = false from rfl), other (show isGap '"' = false from rfl), noPlain, false_and, or_self,
      Bool.false_eq_true, if_false]
  rw [readAt_eq, nothing]
  rfl

/-- Where a gap is ahead that is neither a space nor a break, nothing is read but the end. -/
theorem rest_of_atGap {goesOn : Bool} (gap : atGap lexer.arrive.cursor.rest = true)
    (ok : lexer.advance = .ok (next, goesOn)) : lexer.arrive.cursor.rest = [] := by
  rw [advance_eq] at ok
  obtain ⟨approached, approach, ok⟩ := Outcome.bind_eq_ok_iff.1 ok
  obtain ⟨cursor, -⟩ := approach_leads approach
  rw [← cursor] at gap ⊢
  cases here : approached.cursor.rest with
  | nil => rfl
  | cons c rest =>
    rw [here] at gap
    simp only [here, readAt_of_gap here gap] at ok
    cases ok

theorem Behind.arrive (behind : lexer.Behind) : lexer.arrive.Behind :=
  fun candidate holds => Nat.le_trans (behind candidate holds) (Cursor.reaches_toToken lexer.cursor).line_le

end Gaps

section Forward

variable {c : Char} {rest : List Char}

/-- The reader has gone on by a character at least. -/
def Goes (before after : Lexer) : Prop :=
  before.cursor.next.Reaches after.cursor ∧
    ∀ candidate, after.Holds candidate → before.Holds candidate ∨ candidate.line = before.cursor.line

theorem readDocumentMark_goes {token : Token} (ok : lexer.readDocumentMark token = .ok next) : lexer.Goes next := by
  obtain ⟨dropped, drop, same⟩ := Outcome.bind_eq_ok_iff.1 ok
  obtain ⟨tokens, columns, closed⟩ := exists_closeBlocks_eq lexer none
  obtain ⟨-, rfl⟩ := dropCandidate_eq_ok_iff.1 drop
  cases same
  rw [closed]
  refine ⟨⟨2, rfl⟩, ?_⟩
  rintro candidate (none | among)
  · cases none
  · exact .inl (.inr among)

theorem readMark_goes {token : Token} {keysAfter : Bool} (ok : lexer.readMark token keysAfter = .ok next) :
    lexer.Goes next := by
  obtain ⟨dropped, drop, same⟩ := Outcome.bind_eq_ok_iff.1 ok
  obtain ⟨-, rfl⟩ := dropCandidate_eq_ok_iff.1 drop
  cases same
  refine ⟨⟨0, rfl⟩, ?_⟩
  rintro candidate (none | among)
  · cases none
  · exact .inl (.inr among)

theorem readBlockMark_goes {block token : Token} {keysAfter : Bool}
    (ok : lexer.readBlockMark block token keysAfter = .ok next) : lexer.Goes next := by
  unfold readBlockMark at ok
  split at ok
  · exact readMark_goes ok
  · split at ok
    · obtain ⟨tokens, columns, opened⟩ := exists_openBlock_eq lexer lexer.cursor.column lexer.tokens.size block
      rw [opened] at ok
      have goes := readMark_goes ok
      exact goes
    · cases ok

theorem readOpening_goes {bracket : Bracket} (ok : lexer.readOpening bracket = .ok next) : lexer.Goes next := by
  obtain ⟨noted, note, same⟩ := Outcome.bind_eq_ok_iff.1 ok
  obtain ⟨candidate?, rfl, held⟩ := noteCandidate_ok note
  cases same
  refine ⟨⟨0, rfl⟩, ?_⟩
  rintro candidate (none | among)
  · cases none
  · rcases List.mem_cons.1 among with inner | outer
    · exact (held candidate inner.symm).imp_left .inl
    · exact .inl (.inr outer)

theorem readClosing_goes {bracket : Bracket} (ok : lexer.readClosing bracket = .ok next) : lexer.Goes next := by
  obtain ⟨dropped, drop, ok⟩ := Outcome.bind_eq_ok_iff.1 ok
  obtain ⟨-, rfl⟩ := dropCandidate_eq_ok_iff.1 drop
  dsimp only at ok
  split at ok
  · cases ok
  · rename_i inner outer here
    cases ok
    refine ⟨⟨0, rfl⟩, ?_⟩
    rintro candidate (first | among)
    · exact .inl (.inr (here ▸ List.mem_cons.2 (.inl first.symm)))
    · exact .inl (.inr (here ▸ List.mem_cons_of_mem _ among))

theorem readColon_goes (ok : lexer.readColon = .ok next) : lexer.Goes next := by
  unfold readColon at ok
  split at ok
  · rename_i candidate here
    obtain ⟨tokens, columns, made⟩ := exists_makeKey_eq lexer candidate
    cases ok
    rw [made]
    refine ⟨⟨0, rfl⟩, ?_⟩
    rintro candidate (none | among)
    · cases none
    · exact .inl (.inr among)
  · exact readBlockMark_goes ok

theorem readName_goes {token : List Char → Token} (ok : lexer.readName token = .ok next) : lexer.Goes next := by
  obtain ⟨noted, note, ok⟩ := Outcome.bind_eq_ok_iff.1 ok
  obtain ⟨candidate?, rfl, held⟩ := noteCandidate_ok note
  dsimp only at ok
  split at ok
  · cases ok
  · cases ok
    refine ⟨Cursor.reaches_span _ _, ?_⟩
    rintro candidate (inner | among)
    · exact (held candidate inner).imp_left .inl
    · exact .inl (.inr among)

theorem readQuotedScalar_goes {quote : Char} (ok : lexer.readQuotedScalar quote = .ok next) : lexer.Goes next := by
  obtain ⟨noted, note, ok⟩ := Outcome.bind_eq_ok_iff.1 ok
  obtain ⟨⟨text, place⟩, read, same⟩ := Outcome.bind_eq_ok_iff.1 ok
  obtain ⟨candidate?, rfl, held⟩ := noteCandidate_ok note
  cases same
  refine ⟨quotedText_reaches read, ?_⟩
  rintro candidate (inner | among)
  · exact (held candidate inner).imp_left .inl
  · exact .inl (.inr among)

theorem plainWord_of_beginsPlain {inFlow : Bool} {s : List Char} (begins : beginsPlain inFlow s = true) :
    s.head? ≠ some '#' ∧ plainWord inFlow s ≠ [] := by
  cases s with
  | nil => cases begins
  | cons c rest =>
    have parts : isGap c = false ∧ (reserved.contains c = false ∨
        atGap rest = false ∧ (c = '-' ∨ inFlow = false ∧ (c = '?' ∨ c = ':'))) := by
      rw [beginsPlain] at begins
      cases solid : isGap c <;> cases free : reserved.contains c <;> simp_all
    obtain ⟨solid, free | ⟨more, rfl | ⟨rfl, rfl | rfl⟩⟩⟩ := parts
    · have other {mark : Char} (isReserved : reserved.contains mark = true) : (c == mark) = false := by
        rw [beq_eq_false_iff_ne]
        rintro rfl
        rw [free] at isReserved
        cases isReserved
      have noFlowMark : isFlowMark c = false := by
        simp only [isFlowMark, Bool.or_eq_false_iff]
        exact ⟨⟨⟨⟨⟨other rfl, other rfl⟩, other rfl⟩, other rfl⟩, other rfl⟩, other rfl⟩
      have noComment : c ≠ '#' := beq_eq_false_iff_ne.1 (other rfl)
      have noColon : (c == ':') = false := other rfl
      simp [plainWord, solid, noColon, noFlowMark, noComment]
    · have noFlowMark : isFlowMark '-' = false := rfl
      simp [plainWord, solid, noFlowMark]
    · simp [plainWord, solid]
    · have goesOn : colonEnds false rest = false := by
        cases rest with
        | nil => cases more
        | cons next rest => simpa [colonEnds, atGap] using more
      simp [plainWord, solid, goesOn]

/-- A plain scalar begins with a word. -/
theorem wordAt_of_beginsPlain {inFlow : Bool} {s : List Char} (begins : beginsPlain inFlow s = true) :
    wordAt inFlow s ≠ [] := by
  obtain ⟨noComment, word⟩ := plainWord_of_beginsPlain begins
  simpa [wordAt, noComment] using word

theorem readPlain_next_reaches {inFlow : Bool} {least : Nat} {cursor : Cursor} (word : wordAt inFlow cursor.rest ≠ []) :
    cursor.next.Reaches (readPlain inFlow least cursor).place := by
  obtain ⟨first, more, isWord⟩ := List.exists_cons_of_ne_nil word
  have beyond : cursor.next.Reaches
      (plainGap cursor.rest.length (cursor.forward (wordAt inFlow cursor.rest).length)).place := by
    rw [isWord, List.length_cons, Cursor.forward]
    exact (Cursor.reaches_forward _ _).trans (plainGap_reaches _ _)
  rw [readPlain, readWords_succ]
  simp only [List.isEmpty_iff, word, if_false]
  split
  · exact beyond
  · exact beyond.trans (readWords_reaches _ _ _ _ _)

theorem readPlainScalar_goes (word : wordAt lexer.inFlow lexer.cursor.rest ≠ [])
    (ok : lexer.readPlainScalar = .ok next) :
    lexer.Goes next := by
  rw [readPlainScalar_eq] at ok
  obtain ⟨noted, note, same⟩ := Outcome.map_eq_ok_iff.1 ok
  obtain ⟨candidate?, rfl, held⟩ := noteCandidate_ok note
  cases same
  refine ⟨readPlain_next_reaches word, ?_⟩
  rintro candidate (inner | among)
  · exact (held candidate inner).imp_left .inl
  · exact .inl (.inr among)

/-- Whatever is read at a place, the reader goes on. -/
theorem readAt_goes (here : lexer.cursor.rest = c :: rest) (ok : lexer.readAt c rest = .ok next) : lexer.Goes next := by
  rw [readAt_eq] at ok
  have fits := actionAt_fits lexer.inFlow here
  generalize actionAt lexer.inFlow lexer.cursor c rest = action at ok fits
  cases action with
  | documentMark => exact readDocumentMark_goes ok
  | opening => exact readOpening_goes ok
  | closing => exact readClosing_goes ok
  | comma => exact readMark_goes ok
  | blockMark => exact readBlockMark_goes ok
  | colon => exact readColon_goes ok
  | name => exact readName_goes ok
  | quoted => exact readQuotedScalar_goes ok
  | plain => exact readPlainScalar_goes (wordAt_of_beginsPlain fits) ok
  | nothing => cases ok

/-- As long as there is more to read, the reader goes on. -/
theorem advance_goes (ok : lexer.advance = .ok (next, true)) :
    lexer.Leads next ∧ next.cursor.rest.length < lexer.cursor.rest.length := by
  rw [advance_eq] at ok
  obtain ⟨approached, approach, ok⟩ := Outcome.bind_eq_ok_iff.1 ok
  obtain ⟨-, leads⟩ := approach_leads approach
  split at ok
  · obtain ⟨_, -, same⟩ := Outcome.map_eq_ok_iff.1 ok
    cases same
  · rename_i c rest here
    obtain ⟨after, read, same⟩ := Outcome.map_eq_ok_iff.1 ok
    cases same
    obtain ⟨reaches, candidates⟩ := readAt_goes here read
    have less := Cursor.length_rest_next (show approached.cursor.rest ≠ [] by simp [here])
    have shorter := leads.reaches.length_le
    have shorter' := reaches.length_le
    have onward := (Cursor.reaches_next _).trans reaches
    refine ⟨leads.trans ⟨onward, fun candidate holds => ?_⟩, by omega⟩
    refine (candidates candidate holds).imp_right fun line => ?_
    rw [line]
    exact onward.line_le

end Forward

end Lexer

end Stencil.Yaml
