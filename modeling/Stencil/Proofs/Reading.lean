import Mathlib.Data.List.Forall2
import Mathlib.Data.List.TakeWhile
import Stencil.Proofs.Digits
import Stencil.Proofs.Grammar

/-! Reading an address finds its derivation.

What is read from the front of a text is a form of the grammar, and each form is read as its pieces.
So reading refuses the texts without a derivation, and has the steps that the pieces of any other
stand for. Only a numeral that denotes no number keeps it from an answer.
-/

set_option autoImplicit false

namespace Stencil

open Text Number

namespace Number

/-- Digit signs are read as a number unless they denote none. -/
theorem exists_readNat_iff {s : List Char} (signs : allDigitSigns s = true) :
    (∃ n, readNat s = .ok n) ↔ ¬ Unreadable s := by
  simp only [readNat_eq_ok_iff, Unreadable, signs, true_and, not_or, Nat.not_lt]
  constructor
  · rintro ⟨n, -, short, values, digits, -⟩
    refine ⟨?_, short⟩
    rintro ⟨c, among, none⟩
    simpa [none] using digits.valued c among
  · rintro ⟨valued, short⟩
    have filled : s ≠ [] := by
      rintro rfl
      simp [allDigitSigns] at signs
    obtain ⟨values, digits⟩ := exists_digits_of_valued fun c among =>
      Option.isSome_iff_ne_none.2 fun none => valued ⟨c, among, none⟩
    exact ⟨_, filled, short, values, digits, rfl⟩

end Number

namespace Address

section Forms

/-- What is read as the body of a bracket is one. -/
theorem exists_bracket_of_bracketBody? {text body rest : List Char} (found : bracketBody? text = some (body, rest)) :
    ∃ bracket : Bracket, bracket.body = body ∧ text = body ++ ']' :: rest := by
  cases text with
  | nil => simp [bracketBody?] at found
  | cons c text =>
    simp only [bracketBody?] at found
    split at found
    · rename_i isMark
      split at found
      · rename_i key after cut
        simp only [Option.some.injEq, Prod.mk.injEq] at found
        obtain ⟨rfl, rfl⟩ := found
        obtain ⟨source, free⟩ := cutAtChar?_source cut
        exact ⟨.quoted ⟨c, isMark⟩ key free, rfl, by simp [source]⟩
      · simp at found
    · rename_i unmarked
      obtain ⟨source, free⟩ := cutAtChar?_source found
      refine ⟨.bare body free ?_, rfl, source⟩
      intro d first
      -- The body is not empty here, so it begins with the character that the text begins with.
      cases body with
      | nil => simp at first
      | cons e body =>
        obtain rfl : e = d := by simpa using first
        obtain rfl : c = e := (List.cons.inj source).1
        simpa using unmarked

/-- Brackets, and segments with a point in front of each: what follows the first piece of an address. -/
structure Tail where
  brackets : List Bracket
  segments : List Segment

def Tail.written (tail : Tail) : List Char :=
  tail.brackets.flatMap Bracket.written ++ tail.segments.flatMap fun segment => '.' :: segment.written

def Tail.pieces (tail : Tail) : List Piece :=
  tail.brackets.map .bracket ++ tail.segments.flatMap Segment.pieces

/-- A tail behind its first piece. -/
def Tail.behind (tail : Tail) (piece : Piece) : Derivation :=
  ⟨⟨piece, tail.brackets⟩, tail.segments⟩

def Tail.push (tail : Tail) (bracket : Bracket) : Tail :=
  { tail with brackets := bracket :: tail.brackets }

-- An address behind a point is a tail without brackets.
def Derivation.behindPoint (derivation : Derivation) : Tail :=
  ⟨[], derivation.first :: derivation.others⟩

theorem Tail.behind_written (tail : Tail) (piece : Piece) :
    (tail.behind piece).written = piece.written ++ tail.written := by
  simp [behind, Derivation.written, Segment.written, written]

theorem Tail.behind_pieces (tail : Tail) (piece : Piece) : (tail.behind piece).pieces = [piece] ++ tail.pieces := by
  simp [behind, Derivation.pieces, Segment.pieces, pieces]

theorem Tail.push_written (tail : Tail) (bracket : Bracket) :
    (tail.push bracket).written = bracket.written ++ tail.written := by
  simp [push, written]

theorem Tail.push_pieces (tail : Tail) (bracket : Bracket) :
    (tail.push bracket).pieces = [.bracket bracket] ++ tail.pieces := by
  simp [push, pieces]

theorem Derivation.behindPoint_written (derivation : Derivation) :
    derivation.behindPoint.written = ['.'] ++ derivation.written := by
  simp [behindPoint, Tail.written, written]

theorem Derivation.behindPoint_pieces (derivation : Derivation) :
    derivation.behindPoint.pieces = [] ++ derivation.pieces := by
  simp [behindPoint, Tail.pieces, pieces]

end Forms

section Meaning

theorem unquoted?_eq_some_iff {body key : List Char} :
    unquoted? body = some key ↔ ∃ mark : Mark, body = mark.val :: (key ++ [mark.val]) := by
  cases body with
  | nil => simp [unquoted?]
  | cons c rest =>
    simp only [unquoted?, Option.ite_none_right_eq_some, Bool.and_eq_true, beq_iff_eq, Option.some.injEq,
      List.cons.injEq]
    constructor
    · rintro ⟨⟨isMark, last⟩, rfl⟩
      exact ⟨⟨c, isMark⟩, rfl, (List.dropLast_append_getLast? c last).symm⟩
    · rintro ⟨mark, rfl, rfl⟩
      simp [mark.property]

theorem not_allDigitSigns_of_mark (mark : Mark) (rest : List Char) : allDigitSigns (mark.val :: rest) = false := by
  obtain ⟨c, isMark⟩ := mark
  simp only [isQuote, Bool.or_eq_true, beq_iff_eq] at isMark
  have double : isDigitSign '"' = false := by decide +kernel
  have single : isDigitSign '\'' = false := by decide +kernel
  rcases isMark with rfl | rfl
  · simp [allDigitSigns, double]
  · simp [allDigitSigns, single]

theorem isBlank_mark (mark : Mark) : isBlank mark.val = false := by
  obtain ⟨c, isMark⟩ := mark
  simp only [isQuote, Bool.or_eq_true, beq_iff_eq] at isMark
  rcases isMark with rfl | rfl <;> rfl

theorem trim_marked (mark : Mark) (key : List Char) :
    trim (mark.val :: (key ++ [mark.val])) = mark.val :: (key ++ [mark.val]) := by
  simp [trim, stripOf, dropLeading, dropTrailing, isBlank_mark]

theorem bracketStep_of_marked {body key : List Char} {mark : Mark}
    (marked : trim body = mark.val :: (key ++ [mark.val])) : bracketStep body = .ok (.name (String.ofList key)) := by
  rw [bracketStep, unquoted?_eq_some_iff.2 ⟨mark, marked⟩]

theorem bracketStep_of_unmarked {body : List Char}
    (bare : ∀ (mark : Mark) (key : List Char), trim body ≠ mark.val :: (key ++ [mark.val])) :
    bracketStep body = if allDigitSigns (trim body) then (readNat (trim body)).map .index
      else .ok (.name (String.ofList (trim body))) := by
  have taken : unquoted? (trim body) = none := by
    rw [Option.eq_none_iff_forall_ne_some]
    intro key found
    obtain ⟨mark, marked⟩ := unquoted?_eq_some_iff.1 found
    exact bare mark key marked
  rw [bracketStep, taken]

-- Digit signs alone have no marks around them.
theorem unmarked_of_signs {s : List Char} (signs : allDigitSigns s = true) (mark : Mark) (key : List Char) :
    s ≠ mark.val :: (key ++ [mark.val]) := by
  rintro rfl
  simp [not_allDigitSigns_of_mark] at signs

/-- The step that a piece is read as. -/
def Piece.read : Piece → Except NumeralFault Step
  | .name word => .ok (.name (String.ofList (trim word.chars)))
  | .bracket inner => bracketStep inner.body

theorem Piece.Means.read {piece : Piece} {step : Step} (means : piece.Means step) : piece.read = .ok step := by
  cases means with
  | name => rfl
  | quoted => exact bracketStep_of_marked (trim_marked _ _)
  | unquoted marked => exact bracketStep_of_marked marked
  | number signs value =>
    rw [Piece.read, Bracket.body, bracketStep_of_unmarked (unmarked_of_signs signs), signs, value]
    rfl
  | key bare noSigns =>
    rw [Piece.read, Bracket.body, bracketStep_of_unmarked bare, noSigns]
    rfl

/-- A piece is a numeral that denotes no number, or it stands for a step. -/
theorem Piece.illegible_or_means (piece : Piece) :
    (piece.Illegible ∧ ∃ fault, piece.read = .error fault) ∨ ¬ piece.Illegible ∧ ∃ step, piece.Means step := by
  cases piece with
  | name word => exact .inr ⟨id, _, .name⟩
  | bracket inner =>
    cases inner with
    | quoted mark key free => exact .inr ⟨id, _, .quoted⟩
    | bare body free unmarked =>
      change (Unreadable (trim body) ∧ ∃ fault, bracketStep body = .error fault) ∨ ¬ Unreadable (trim body) ∧ _
      cases signs : allDigitSigns (trim body) with
      | false =>
        have legible : ¬ Unreadable (trim body) := fun unreadable => by simp [unreadable.1] at signs
        by_cases marked : ∃ (mark : Mark) (key : List Char), trim body = mark.val :: (key ++ [mark.val])
        · obtain ⟨mark, key, marked⟩ := marked
          exact .inr ⟨legible, _, .unquoted marked⟩
        · exact .inr ⟨legible, _, .key (fun mark key same => marked ⟨mark, key, same⟩) signs⟩
      | true =>
        cases value : readNat (trim body) with
        | ok n => exact .inr ⟨(exists_readNat_iff signs).1 ⟨n, value⟩, _, .number signs value⟩
        | error fault =>
          have unreadable : Unreadable (trim body) := by
            by_contra legible
            obtain ⟨n, reads⟩ := (exists_readNat_iff signs).2 legible
            simp [value] at reads
          refine .inl ⟨unreadable, fault, ?_⟩
          rw [bracketStep_of_unmarked (unmarked_of_signs signs), signs, value]
          rfl

end Meaning

section Reading

/-- What pieces are read as, with what is read behind them. -/
def readFront : List Piece → Except NumeralFault (Option (List Step)) → Except NumeralFault (Option (List Step))
  | [], behind => behind
  | piece :: others, behind => do
    let step ← piece.read
    let steps? ← readFront others behind
    return steps?.map (step :: ·)

theorem readFront_append (pieces others : List Piece) (behind : Except NumeralFault (Option (List Step))) :
    readFront (pieces ++ others) behind = readFront pieces (readFront others behind) := by
  induction pieces with
  | nil => rfl
  | cons piece rest ih => rw [List.cons_append, readFront, ih, readFront]

theorem readFront_of_means {pieces : List Piece} {steps : List Step} (means : List.Forall₂ Piece.Means pieces steps)
    (behind : Except NumeralFault (Option (List Step))) :
    readFront pieces behind = behind.map (Option.map (steps ++ ·)) := by
  induction means with
  | nil =>
    cases behind with
    | error fault => rfl
    | ok steps? => cases steps? <;> rfl
  | cons one _ ih =>
    rw [readFront, one.read, ih]
    cases behind with
    | error fault => rfl
    | ok steps? => cases steps? <;> rfl

/-- A numeral that denotes no number is a fault, whatever is read behind it. -/
theorem readFront_of_illegible {pieces : List Piece} (illegible : ∃ piece ∈ pieces, piece.Illegible) :
    ∃ fault, ∀ behind, readFront pieces behind = .error fault := by
  induction pieces with
  | nil => simp at illegible
  | cons piece others ih =>
    rcases piece.illegible_or_means with ⟨-, fault, fails⟩ | ⟨legible, step, means⟩
    · refine ⟨fault, fun behind => ?_⟩
      rw [readFront, fails]
      rfl
    · obtain ⟨other, among, illegible⟩ := illegible
      have later : other ∈ others := (List.mem_cons.1 among).resolve_left fun same => legible (same ▸ illegible)
      obtain ⟨fault, fails⟩ := ih ⟨other, later, illegible⟩
      refine ⟨fault, fun behind => ?_⟩
      rw [readFront, means.read, fails]
      rfl

theorem readSteps_bracket (expectsName : Bool) (bracket : Bracket) (rest : List Char) :
    readSteps expectsName (bracket.written ++ rest) = readFront [.bracket bracket] (readSteps false rest) := by
  have found := bracketBody?_body bracket rest
  rw [Bracket.written, List.cons_append, List.append_assoc, List.singleton_append, readSteps]
  simp only [if_true]
  split
  · simp_all
  · rename_i body tail here
    rw [found] at here
    cases here
    rfl

theorem readSteps_name (word : Name) {rest : List Char} (ends : EndsName rest) :
    readSteps true (word.chars ++ rest) = readFront [.name word] (readSteps false rest) := by
  have whole := word.takeWhile_append ends
  obtain ⟨c, more, chars, isName⟩ := word.head
  have name : c :: (more ++ rest).takeWhile isNameChar = word.chars := by
    simpa [chars, isName] using whole
  have behind : (more ++ rest).dropWhile isNameChar = rest := by
    have split := List.takeWhile_append_dropWhile (p := isNameChar) (l := word.chars ++ rest)
    rw [whole, List.append_cancel_left_eq] at split
    simpa [chars, isName] using split
  have plain : c ≠ '[' ∧ c ≠ '.' ∧ c ≠ ']' := by
    simp only [isNameChar, Bool.and_eq_true, bne_iff_ne, ne_eq] at isName
    exact ⟨isName.1.2, isName.1.1, isName.2⟩
  rw [chars, List.cons_append, readSteps]
  simp only [plain, if_false, Bool.not_true, Bool.or_false, decide_false, Bool.false_eq_true, name, behind]
  rfl

theorem readSteps_point {rest : List Char} (filled : rest ≠ []) :
    readSteps false ('.' :: rest) = readSteps true rest := by
  rw [readSteps]
  simp [filled]

theorem readSteps_brackets (brackets : List Bracket) (rest : List Char) :
    readSteps false (brackets.flatMap Bracket.written ++ rest) =
      readFront (brackets.map .bracket) (readSteps false rest) := by
  induction brackets with
  | nil => rfl
  | cons bracket others ih =>
    rw [List.flatMap_cons, List.append_assoc, readSteps_bracket, ih]
    exact (readFront_append [.bracket bracket] (others.map .bracket) _).symm

theorem Piece.written_ne_nil (piece : Piece) : piece.written ≠ [] := by
  cases piece with
  | name word => exact word.filled
  | bracket inner => simp [Piece.written, Bracket.written]

theorem Segment.written_ne_nil (segment : Segment) : segment.written ≠ [] := by
  simp [Segment.written, segment.first.written_ne_nil]

/-- A segment is read as its pieces. A name alone has to end before the text behind it. -/
theorem readSteps_segment (segment : Segment) (rest : List Char)
    (ends : ∀ word, segment = ⟨.name word, []⟩ → EndsName rest) :
    readSteps true (segment.written ++ rest) = readFront segment.pieces (readSteps false rest) := by
  obtain ⟨first, brackets⟩ := segment
  have front : readSteps true (first.written ++ (brackets.flatMap Bracket.written ++ rest)) =
      readFront [first] (readSteps false (brackets.flatMap Bracket.written ++ rest)) := by
    cases first with
    | bracket inner => exact readSteps_bracket true inner _
    | name word =>
      apply readSteps_name
      cases brackets with
      | nil => simpa using ends word rfl
      | cons bracket others => exact endsName_brackets _ (.inr (List.cons_ne_nil _ _))
  rw [Segment.written, List.append_assoc, front, readSteps_brackets]
  exact (readFront_append [first] (brackets.map .bracket) _).symm

/-- An address is read as its pieces. Where one of them denotes no number, the text behind the address
does not count. -/
theorem readSteps_derivation (derivation : Derivation) {rest : List Char}
    (ends : EndsName rest ∨ ∃ piece ∈ derivation.pieces, piece.Illegible) :
    readSteps true (derivation.written ++ rest) = readFront derivation.pieces (readSteps false rest) := by
  obtain ⟨first, others⟩ := derivation
  induction others generalizing first with
  | nil =>
    have last := readSteps_segment first rest fun word alone => by
      subst alone
      refine ends.resolve_right ?_
      rintro ⟨piece, among, illegible⟩
      cases List.mem_singleton.1 among
      exact illegible
    simpa [Derivation.written, Derivation.pieces] using last
  | cons second others ih =>
    have front := readSteps_segment first ('.' :: ((Derivation.mk second others).written ++ rest))
      fun _ _ => endsName_point _
    have filled : (Derivation.mk second others).written ++ rest ≠ [] := by
      simp [Derivation.written, second.written_ne_nil]
    have written : (Derivation.mk first (second :: others)).written ++ rest =
        first.written ++ '.' :: ((Derivation.mk second others).written ++ rest) := by
      simp [Derivation.written]
    have pieces : (Derivation.mk first (second :: others)).pieces =
        first.pieces ++ (Derivation.mk second others).pieces := by
      simp [Derivation.pieces]
    rw [pieces] at ends ⊢
    rw [written, front, readSteps_point filled, readFront_append]
    by_cases stops : ∃ piece ∈ first.pieces, piece.Illegible
    · obtain ⟨fault, fails⟩ := readFront_of_illegible stops
      rw [fails, fails]
    · rw [ih]
      refine ends.imp_right ?_
      rintro ⟨piece, among, illegible⟩
      have late := (List.mem_append.1 among).resolve_left fun early => stops ⟨piece, early, illegible⟩
      exact ⟨piece, late, illegible⟩

/-- What reading a text comes to, in terms of the forms that it may have: all of it has a form whose
pieces stand for the steps, or the front of it has one with a numeral that denotes no number. -/
inductive Accounted {ι : Type} (written : ι → List Char) (pieces : ι → List Piece) (text : List Char) :
    Except NumeralFault (Option (List Step)) → Prop where
  | refused : Accounted written pieces text (.ok none)
  | whole (form : ι) {steps : List Step} :
      text = written form → List.Forall₂ Piece.Means (pieces form) steps →
      Accounted written pieces text (.ok (some steps))
  | misread (form : ι) (rest : List Char) {fault : NumeralFault} :
      text = written form ++ rest → (∃ piece ∈ pieces form, piece.Illegible) →
      Accounted written pieces text (.error fault)

/-- Pieces that stand for steps may be put in front of a form. -/
theorem Accounted.extend {ι ι' : Type} {written : ι → List Char} {pieces : ι → List Piece}
    {written' : ι' → List Char} {pieces' : ι' → List Piece} {text : List Char}
    {result : Except NumeralFault (Option (List Step))} (accounted : Accounted written pieces text result)
    (extension : ι → ι') {front : List Char} {before : List Piece} {steps : List Step}
    (isWritten : ∀ form, written' (extension form) = front ++ written form)
    (hasPieces : ∀ form, pieces' (extension form) = before ++ pieces form)
    (means : List.Forall₂ Piece.Means before steps) :
    Accounted written' pieces' (front ++ text) (result.map (Option.map (steps ++ ·))) := by
  cases accounted with
  | refused => exact .refused
  | whole form same all =>
    refine .whole (extension form) (by rw [same, isWritten]) ?_
    rw [hasPieces]
    exact List.rel_append means all
  | misread form rest same illegible =>
    refine .misread (extension form) rest (by rw [same, isWritten, List.append_assoc]) ?_
    obtain ⟨piece, among, illegible⟩ := illegible
    exact ⟨piece, hasPieces form ▸ List.mem_append_right _ among, illegible⟩

theorem readSteps_accounted (expectsName : Bool) (text : List Char) :
    (expectsName = false → Accounted Tail.written Tail.pieces text (readSteps expectsName text)) ∧
    (expectsName = true → text ≠ [] →
      Accounted Derivation.written Derivation.pieces text (readSteps expectsName text)) := by
  fun_induction readSteps expectsName text with
  | case1 expectsName =>
    refine ⟨fun _ => ?_, fun _ filled => absurd rfl filled⟩
    exact .whole ⟨[], []⟩ rfl .nil
  | case2 expectsName rest unread => exact ⟨fun _ => .refused, fun _ _ => .refused⟩
  | case3 expectsName rest body tail found ih =>
    obtain ⟨bracket, rfl, source⟩ := exists_bracket_of_bracketBody? found
    have written : '[' :: rest = bracket.written ++ tail := by simp [Bracket.written, source]
    rw [written]
    rcases (Piece.bracket bracket).illegible_or_means with ⟨illegible, fault, fails⟩ | ⟨-, step, means⟩
    · -- The bracket alone is the form in front.
      rw [show bracketStep bracket.body = _ from fails]
      refine ⟨fun _ => ?_, fun _ _ => ?_⟩
      · exact .misread (⟨[bracket], []⟩ : Tail) tail (by simp [Tail.written]) ⟨_, List.mem_cons_self, illegible⟩
      · exact .misread (⟨⟨.bracket bracket, []⟩, []⟩ : Derivation) tail
          (by simp [Derivation.written, Segment.written, Piece.written]) ⟨_, List.mem_cons_self, illegible⟩
    · rw [show bracketStep bracket.body = _ from means.read]
      refine ⟨fun _ => ?_, fun _ _ => ?_⟩
      · exact (ih.1 rfl).extend (·.push bracket) (fun tail => tail.push_written bracket)
          (fun tail => tail.push_pieces bracket) (.cons means .nil)
      · exact (ih.1 rfl).extend (·.behind (.bracket bracket)) (fun tail => tail.behind_written _)
          (fun tail => tail.behind_pieces _) (.cons means .nil)
  | case4 expectsName rest misplaced => exact ⟨fun _ => .refused, fun _ _ => .refused⟩
  | case5 expectsName rest placed _ ih =>
    simp only [Bool.or_eq_true, List.isEmpty_iff, not_or, Bool.not_eq_true] at placed
    obtain ⟨rfl, filled⟩ := placed
    refine ⟨fun _ => ?_, fun expects => absurd expects Bool.false_ne_true⟩
    have accounted := (ih.2 rfl filled).extend Derivation.behindPoint Derivation.behindPoint_written
      Derivation.behindPoint_pieces .nil
    rwa [← readFront_of_means .nil] at accounted
  | case6 expectsName c rest _ _ misplaced => exact ⟨fun _ => .refused, fun _ _ => .refused⟩
  | case7 expectsName c rest notOpening notPoint placed name ih =>
    simp only [Bool.or_eq_true, decide_eq_true_eq, Bool.not_eq_true', not_or, Bool.not_eq_false] at placed
    obtain ⟨notClosing, rfl⟩ := placed
    refine ⟨fun expects => absurd expects.symm Bool.false_ne_true, fun _ _ => ?_⟩
    have plain : ∀ d ∈ name, isNameChar d = true := by
      intro d among
      rcases List.mem_cons.1 among with here | among
      · simp [here, isNameChar, notOpening, notPoint, notClosing]
      · exact List.all_eq_true.1 List.all_takeWhile d among
    have source : c :: rest = name ++ rest.dropWhile isNameChar := by
      simp [name, List.takeWhile_append_dropWhile]
    rw [source]
    exact (ih.1 rfl).extend (·.behind (.name ⟨name, List.cons_ne_nil _ _, plain⟩))
      (fun tail => tail.behind_written _) (fun tail => tail.behind_pieces _) (.cons .name .nil)

end Reading

/-- No part of a text that is an address holds a numeral that denotes no number. -/
def Legible (text : List Char) : Prop :=
  ∀ (derivation : Derivation) (rest : List Char), text = derivation.written ++ rest →
    ∀ piece ∈ derivation.pieces, ¬ piece.Illegible

theorem legible_iff {text : List Char} : Legible text ↔ ∃ steps?, readSteps true text = .ok steps? := by
  constructor
  · intro legible
    by_cases filled : text = []
    · exact ⟨some [], by rw [filled, readSteps]⟩
    · have accounted := (readSteps_accounted true text).2 rfl filled
      cases read : readSteps true text with
      | ok steps? => exact ⟨steps?, rfl⟩
      | error fault =>
        rw [read] at accounted
        cases accounted with
        | misread derivation rest source illegible =>
          obtain ⟨piece, among, illegible⟩ := illegible
          exact absurd illegible (legible derivation rest source piece among)
  · rintro ⟨steps?, read⟩ derivation rest rfl piece among illegible
    obtain ⟨fault, fails⟩ := readFront_of_illegible ⟨piece, among, illegible⟩
    rw [readSteps_derivation derivation (.inr ⟨piece, among, illegible⟩), fails] at read
    cases read

theorem exists_means {pieces : List Piece} (legible : ∀ piece ∈ pieces, ¬ piece.Illegible) :
    ∃ steps, List.Forall₂ Piece.Means pieces steps := by
  induction pieces with
  | nil => exact ⟨[], .nil⟩
  | cons piece others ih =>
    obtain ⟨first, later⟩ := List.forall_mem_cons.1 legible
    obtain ⟨steps, means⟩ := ih later
    obtain ⟨-, step, one⟩ := piece.illegible_or_means.resolve_left fun here => first here.1
    exact ⟨step :: steps, .cons one means⟩

theorem parse_of_refused {address : String} (read : readSteps true address.toList = .ok none) :
    parse address = .ok none := by
  rw [parse, read]
  rfl

theorem parse_of_written {address : String} {derivation : Derivation} {steps : List Step}
    (written : derivation.written = address.toList) (means : List.Forall₂ Piece.Means derivation.pieces steps) :
    parse address = .ok (some steps) := by
  have read := readSteps_derivation derivation (.inl endsName_nil)
  rw [readFront_of_means means, List.append_nil, written, readSteps] at read
  rw [Derivation.pieces, Segment.pieces, List.cons_append] at means
  cases means
  rw [parse, read]
  simp [Except.map, bind, Except.bind, pure, Except.pure]

/-- Where no numeral in a bracket denotes no number, reading an address refuses the texts that have no
derivation, and only those; from any other it has the steps that the pieces of its derivation stand
for. No text has two derivations. -/
theorem parse_follows_grammar {address : String} (legible : Legible address.toList) :
    (parse address = .ok none ↔ ∀ derivation : Derivation, derivation.written ≠ address.toList) ∧
    (∀ derivation : Derivation, derivation.written = address.toList →
      ∃ steps, parse address = .ok (some steps) ∧ List.Forall₂ Piece.Means derivation.pieces steps) ∧
    ∀ one other : Derivation, one.written = address.toList → other.written = address.toList → one = other := by
  have derived (derivation : Derivation) (written : derivation.written = address.toList) :
      ∃ steps, parse address = .ok (some steps) ∧ List.Forall₂ Piece.Means derivation.pieces steps := by
    obtain ⟨steps, means⟩ := exists_means (legible derivation [] (by simp [written]))
    exact ⟨steps, parse_of_written written means, means⟩
  refine ⟨⟨?_, ?_⟩, derived, fun one other first second => Derivation.written_injective (first.trans second.symm)⟩
  · intro refused derivation written
    obtain ⟨steps, parsed, -⟩ := derived derivation written
    simp [refused] at parsed
  · intro underived
    obtain ⟨steps?, read⟩ := legible_iff.1 legible
    by_cases filled : address.toList = []
    · rw [parse, filled, readSteps]
      rfl
    · have accounted := (readSteps_accounted true address.toList).2 rfl filled
      rw [read] at accounted
      cases accounted with
      | refused => exact parse_of_refused read
      | whole derivation written _ => exact absurd written.symm (underived derivation)

/-- The derivation of an address with a name, a key and an index in brackets, and a name behind a point. -/
def keyedAddress : Derivation where
  first := ⟨.name ⟨"Record".toList, by decide, List.all_eq_true.1 rfl⟩,
    [.quoted ⟨'"', rfl⟩ "a.b".toList (by decide), .bare " 7 ".toList (by decide) (by rintro _ ⟨⟩; rfl)]⟩
  others := [⟨.name ⟨"x".toList, by decide, List.all_eq_true.1 rfl⟩, []⟩]

theorem parse_follows_grammar_keyed :
    Legible "Record[\"a.b\"][ 7 ].x".toList ∧ keyedAddress.written = "Record[\"a.b\"][ 7 ].x".toList ∧
      List.Forall₂ Piece.Means keyedAddress.pieces [.name "Record", .name "a.b", .index 7, .name "x"] ∧
      ∀ other : Derivation, other.written = "Record[\"a.b\"][ 7 ].x".toList → other = keyedAddress := by
  have read : readSteps true "Record[\"a.b\"][ 7 ].x".toList =
      .ok (some [.name "Record", .name "a.b", .index 7, .name "x"]) := by
    decide +kernel
  have parses : parse "Record[\"a.b\"][ 7 ].x" = .ok (some [.name "Record", .name "a.b", .index 7, .name "x"]) := by
    rw [parse, read]
    rfl
  have legible : Legible "Record[\"a.b\"][ 7 ].x".toList := legible_iff.2 ⟨_, read⟩
  have written : keyedAddress.written = "Record[\"a.b\"][ 7 ].x".toList := by rfl
  obtain ⟨-, derived, unique⟩ := parse_follows_grammar legible
  obtain ⟨steps, parsed, means⟩ := derived keyedAddress written
  obtain rfl : _ = steps := Option.some.inj (Except.ok.inj (parses.symm.trans parsed))
  exact ⟨legible, written, means, fun other same => unique other keyedAddress same written⟩

end Address

end Stencil
