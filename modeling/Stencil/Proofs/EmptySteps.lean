import Stencil.Proofs.Composition

/-! Steps with an empty name.

An address that lacks a name, at its front, at its end or between two points, is refused. A name or a bare
bracket with nothing but blanks in it is not: the blanks are taken away when the text has been accepted, so it
is read as the empty name, as a key is that is two marks with nothing between them.
-/

set_option autoImplicit false

namespace Stencil

open Text Number

namespace Text

theorem trim_eq_nil_iff {s : List Char} : trim s = [] ↔ ∀ c ∈ s, isBlank c = true := by
  constructor
  · intro nothing c among
    by_contra solid
    have kept : c ∈ s.dropWhile isBlank := by
      have split := List.takeWhile_append_dropWhile (p := isBlank) (l := s)
      rw [← split] at among
      exact (List.mem_append.1 among).resolve_left fun front => solid (List.mem_takeWhile_imp front)
    have dropped : ∀ d ∈ (s.dropWhile isBlank).reverse, isBlank d = true := by
      rw [← List.dropWhile_eq_nil_iff]
      simpa [trim, stripOf, dropTrailing, dropLeading] using nothing
    exact solid (dropped c (List.mem_reverse.2 kept))
  · intro blank
    simp [trim, stripOf, dropTrailing, dropLeading, List.dropWhile_eq_nil_iff.2 blank]

end Text

namespace Address

/-- Nothing but blanks where a name should be, or inside a bare bracket. -/
inductive Piece.Blank : Piece → Prop where
  | name {word : Name} : (∀ c ∈ word.chars, isBlank c = true) → Blank (.name word)
  | bracket {body : List Char} {free : ']' ∉ body} {unmarked : ∀ c ∈ body.head?, isQuote c = false} :
      (∀ c ∈ body, isBlank c = true) → Blank (.bracket (.bare body free unmarked))

/-- Two marks with nothing between them. Blanks may stand around them in the bracket. -/
inductive Piece.EmptyKey : Piece → Prop where
  | quoted {mark : Mark} {free : mark.val ∉ []} : EmptyKey (.bracket (.quoted mark [] free))
  | padded {body : List Char} {free : ']' ∉ body} {unmarked : ∀ c ∈ body.head?, isQuote c = false} {mark : Mark} :
      trim body = [mark.val, mark.val] → EmptyKey (.bracket (.bare body free unmarked))

theorem ofList_eq_empty_iff {s : List Char} : Step.name (String.ofList s) = .name "" ↔ s = [] := by
  rw [Step.name.injEq, ← String.toList_inj, String.toList_ofList, String.toList_empty]

section Pieces

variable {body : List Char} {free : ']' ∉ body} {unmarked : ∀ c ∈ body.head?, isQuote c = false}

theorem blank_bare_iff : Piece.Blank (.bracket (.bare body free unmarked)) ↔ trim body = [] := by
  rw [trim_eq_nil_iff]
  constructor
  · intro blank
    cases blank with
    | bracket blank => exact blank
  · exact .bracket

theorem emptyKey_bare_iff :
    Piece.EmptyKey (.bracket (.bare body free unmarked)) ↔ ∃ mark : Mark, trim body = [mark.val, mark.val] := by
  constructor
  · intro marks
    cases marks with
    | padded marks => exact ⟨_, marks⟩
  · rintro ⟨mark, marks⟩
    exact .padded marks

/-- The pieces that stand for the empty name. -/
theorem Piece.Means.eq_empty_iff {piece : Piece} {step : Step} (means : piece.Means step) :
    step = .name "" ↔ piece.Blank ∨ piece.EmptyKey := by
  cases means with
  | @name word =>
    rw [ofList_eq_empty_iff, trim_eq_nil_iff]
    constructor
    · exact fun blank => .inl (.name blank)
    · rintro (blank | marks)
      · cases blank with
        | name blank => exact blank
      · cases marks
  | @quoted mark key free =>
    rw [ofList_eq_empty_iff]
    constructor
    · rintro rfl
      exact .inr .quoted
    · rintro (blank | marks)
      · cases blank
      · cases marks
        rfl
  | @unquoted _ _ _ mark key marked =>
    rw [ofList_eq_empty_iff, blank_bare_iff, emptyKey_bare_iff, marked]
    constructor
    · rintro rfl
      exact .inr ⟨mark, rfl⟩
    · rintro (none | ⟨other, same⟩)
      · cases none
      · have length := congrArg List.length same
        simpa using length
  | number signs _ =>
    refine iff_of_false (fun same => nomatch same) ?_
    rw [blank_bare_iff, emptyKey_bare_iff]
    rintro (none | ⟨mark, marked⟩)
    · simp [none, allDigitSigns] at signs
    · exact unmarked_of_signs signs mark [] marked
  | key bare _ =>
    rw [ofList_eq_empty_iff, blank_bare_iff, emptyKey_bare_iff]
    refine (or_iff_left ?_).symm
    rintro ⟨mark, marked⟩
    exact bare mark [] marked

end Pieces

section Reading

variable {address : String}

theorem exists_derivation_of_parse {steps : List Step} (parses : parse address = .ok (some steps)) :
    ∃ derivation : Derivation, derivation.written = address.toList ∧
      List.Forall₂ Piece.Means derivation.pieces steps := by
  have accounted := (readSteps_accounted true address.toList).2 rfl (filled_of_parse parses)
  rw [(parse_eq_some_iff.1 parses).1] at accounted
  cases accounted with
  | whole derivation written means => exact ⟨derivation, written.symm, means⟩

theorem mem_steps_of_means {pieces : List Piece} {steps : List Step} (means : List.Forall₂ Piece.Means pieces steps)
    {piece : Piece} (among : piece ∈ pieces) : ∃ step ∈ steps, piece.Means step := by
  induction means with
  | nil => cases among
  | cons first _ ih =>
    rcases List.mem_cons.1 among with rfl | later
    · exact ⟨_, List.mem_cons_self, first⟩
    · obtain ⟨step, found, stands⟩ := ih later
      exact ⟨step, List.mem_cons_of_mem _ found, stands⟩

/-- A text lacks a name: all of it, at its front, at its end, or between two points. -/
inductive LacksName : List Char → Prop where
  | nothing : LacksName []
  | front (rest : List Char) : LacksName ('.' :: rest)
  | last (derivation : Derivation) :
      (∀ piece ∈ derivation.pieces, ¬ piece.Illegible) → LacksName (derivation.written ++ ['.'])
  | between (derivation : Derivation) (rest : List Char) :
      (∀ piece ∈ derivation.pieces, ¬ piece.Illegible) → LacksName (derivation.written ++ '.' :: '.' :: rest)

theorem readSteps_front (rest : List Char) : readSteps true ('.' :: rest) = .ok none := by
  rw [readSteps]
  simp

/-- What is refused behind an address is refused with it. -/
theorem readSteps_refused {derivation : Derivation} (legible : ∀ piece ∈ derivation.pieces, ¬ piece.Illegible)
    {rest : List Char} (ends : EndsName rest) (refused : readSteps false rest = .ok none) :
    readSteps true (derivation.written ++ rest) = .ok none := by
  obtain ⟨steps, means⟩ := exists_means legible
  rw [readSteps_derivation derivation (.inl ends), readFront_of_means means, refused]
  rfl

theorem parse_of_lacksName (lacks : LacksName address.toList) : parse address = .ok none := by
  generalize text : address.toList = chars at lacks
  cases lacks with
  | nothing =>
    rw [parse, text, readSteps]
    rfl
  | front rest => exact parse_of_refused (by rw [text, readSteps_front])
  | last derivation legible =>
    refine parse_of_refused ?_
    rw [text]
    refine readSteps_refused legible (endsName_point _) ?_
    rw [readSteps]
    simp
  | between derivation rest legible =>
    refine parse_of_refused ?_
    rw [text]
    refine readSteps_refused legible (endsName_point _) ?_
    rw [readSteps_point (List.cons_ne_nil _ _), readSteps_front]

end Reading

/-- An address is refused if it lacks a name, but not for a name or a bare bracket that is blank. The steps
with an empty name are exactly those of its blank pieces and of its keys between marks that are empty. -/
theorem empty_steps_spelled (address : String) :
    (LacksName address.toList → parse address = .ok none) ∧
    (∀ derivation : Derivation, derivation.written = address.toList →
      (∀ piece ∈ derivation.pieces, ¬ piece.Illegible) → (∃ piece ∈ derivation.pieces, piece.Blank) →
      ∃ steps, parse address = .ok (some steps) ∧ .name "" ∈ steps) ∧
    ∀ steps, parse address = .ok (some steps) → ∃ derivation : Derivation, derivation.written = address.toList ∧
      List.Forall₂ (fun piece step => step = .name "" ↔ piece.Blank ∨ piece.EmptyKey) derivation.pieces steps := by
  refine ⟨parse_of_lacksName, ?_, ?_⟩
  · rintro derivation written legible ⟨piece, among, blank⟩
    obtain ⟨steps, means⟩ := exists_means legible
    obtain ⟨step, found, stands⟩ := mem_steps_of_means means among
    obtain rfl := stands.eq_empty_iff.2 (.inl blank)
    exact ⟨steps, parse_of_written written means, found⟩
  · intro steps parses
    obtain ⟨derivation, written, means⟩ := exists_derivation_of_parse parses
    exact ⟨derivation, written, means.imp fun _ _ stands => stands.eq_empty_iff⟩

example : parse "a. .b[]" = .ok (some [.name "a", .name "", .name "b", .name ""]) := by
  decide +kernel

end Address

end Stencil
