import Mathlib.Data.List.Basic
import Stencil.Address.Syntax

/-! The grammar of addresses.

A derivation says how a text is an address: it holds the segments, each with the name or the bracket
that it begins with and the brackets behind that. A name and a bracket stand for one step each, but
for a bare bracket with a numeral that denotes no number. A text has at most one derivation.
-/

set_option autoImplicit false

namespace Stencil

open Text Number

namespace Text

theorem cutAtChar?_append {separator : Char} {before : List Char} (free : separator ∉ before) (rest : List Char) :
    cutAtChar? separator (before ++ separator :: rest) = some (before, rest) := by
  induction before with
  | nil => simp [cutAtChar?]
  | cons c before ih =>
    have other : separator ≠ c := fun same => free (same ▸ List.mem_cons_self)
    have free : separator ∉ before := fun among => free (List.mem_cons_of_mem c among)
    simp [cutAtChar?, Ne.symm other, ih free]

theorem cutAtChar?_source {separator : Char} {text before rest : List Char}
    (cut : cutAtChar? separator text = some (before, rest)) :
    text = before ++ separator :: rest ∧ separator ∉ before := by
  induction text generalizing before with
  | nil => simp [cutAtChar?] at cut
  | cons c text ih =>
    simp only [cutAtChar?] at cut
    split at cut
    · rename_i here
      simp only [Option.some.injEq, Prod.mk.injEq] at cut
      obtain ⟨rfl, rfl⟩ := cut
      simp [here]
    · rename_i other
      simp only [Option.map_eq_some_iff, Prod.mk.injEq, Prod.exists] at cut
      obtain ⟨front, tail, cut, rfl, rfl⟩ := cut
      obtain ⟨source, free⟩ := ih cut
      exact ⟨by rw [source, List.cons_append], List.not_mem_cons_of_ne_of_not_mem (Ne.symm other) free⟩

end Text

namespace Number

/-- A text of digit signs that denotes no number: one of its signs has no place value, or there are
too many. -/
def Unreadable (s : List Char) : Prop :=
  allDigitSigns s = true ∧ ((∃ c ∈ s, digitValue? c = none) ∨ digitLimit < s.length)

end Number

namespace Address

/-- A quotation mark. -/
abbrev Mark := { c : Char // isQuote c = true }

/-- A name in an address. -/
structure Name where
  chars : List Char
  filled : chars ≠ []
  plain : ∀ c ∈ chars, isNameChar c = true

/-- A bracket: a key between two marks of one kind, or a bare body. -/
inductive Bracket where
  | quoted (mark : Mark) (key : List Char) (free : mark.val ∉ key)
  | bare (body : List Char) (free : ']' ∉ body) (unmarked : ∀ c ∈ body.head?, isQuote c = false)

def Bracket.body : Bracket → List Char
  | .quoted mark key _ => mark.val :: (key ++ [mark.val])
  | .bare body _ _ => body

def Bracket.written (bracket : Bracket) : List Char :=
  '[' :: (bracket.body ++ [']'])

/-- What stands for a step. -/
inductive Piece where
  | name (word : Name)
  | bracket (inner : Bracket)

def Piece.written : Piece → List Char
  | .name word => word.chars
  | .bracket inner => inner.written

/-- A segment: a name or a bracket, and brackets behind it. -/
structure Segment where
  first : Piece
  brackets : List Bracket

/-- How a text is an address: its segments, with points between them. -/
structure Derivation where
  first : Segment
  others : List Segment

def Segment.written (segment : Segment) : List Char :=
  segment.first.written ++ segment.brackets.flatMap Bracket.written

def Segment.pieces (segment : Segment) : List Piece :=
  segment.first :: segment.brackets.map .bracket

def Derivation.written (derivation : Derivation) : List Char :=
  derivation.first.written ++ derivation.others.flatMap fun segment => '.' :: segment.written

def Derivation.pieces (derivation : Derivation) : List Piece :=
  derivation.first.pieces ++ derivation.others.flatMap Segment.pieces

/-- A numeral in a bare bracket that denotes no number. -/
def Piece.Illegible : Piece → Prop
  | .bracket (.bare body _ _) => Unreadable (trim body)
  | _ => False

/-- The step that a piece stands for. In a bare bracket, marks right inside the blanks are taken away,
and digit signs alone are a number. -/
inductive Piece.Means : Piece → Step → Prop where
  | name {word : Name} : Means (.name word) (.name (String.ofList (trim word.chars)))
  | quoted {mark : Mark} {key : List Char} {free : mark.val ∉ key} :
      Means (.bracket (.quoted mark key free)) (.name (String.ofList key))
  | unquoted {body : List Char} {free : ']' ∉ body} {unmarked : ∀ c ∈ body.head?, isQuote c = false} {mark : Mark}
      {key : List Char} :
      trim body = mark.val :: (key ++ [mark.val]) →
      Means (.bracket (.bare body free unmarked)) (.name (String.ofList key))
  | number {body : List Char} {free : ']' ∉ body} {unmarked : ∀ c ∈ body.head?, isQuote c = false} {n : Nat} :
      allDigitSigns (trim body) = true → readNat (trim body) = .ok n →
      Means (.bracket (.bare body free unmarked)) (.index n)
  | key {body : List Char} {free : ']' ∉ body} {unmarked : ∀ c ∈ body.head?, isQuote c = false} :
      (∀ (mark : Mark) (key : List Char), trim body ≠ mark.val :: (key ++ [mark.val])) →
      allDigitSigns (trim body) = false →
      Means (.bracket (.bare body free unmarked)) (.name (String.ofList (trim body)))

theorem Bracket.body_injective {one other : Bracket} (same : one.body = other.body) : one = other := by
  cases one with
  | quoted mark key free =>
    cases other with
    | quoted mark' key' free' =>
      obtain ⟨marks, keys⟩ := List.cons.inj same
      obtain rfl := Subtype.ext marks
      obtain rfl := List.append_cancel_right keys
      rfl
    | bare body free' unmarked =>
      have marked := unmarked mark.val (by rw [Bracket.body, Bracket.body] at same; simp [← same])
      simp [mark.property] at marked
  | bare body free unmarked =>
    cases other with
    | quoted mark key free' =>
      have marked := unmarked mark.val (by rw [Bracket.body, Bracket.body] at same; simp [same])
      simp [mark.property] at marked
    | bare body' free' unmarked' =>
      obtain rfl : body = body' := same
      rfl

/-- A bracket's body is read up to its end, whatever follows. -/
theorem bracketBody?_body (bracket : Bracket) (rest : List Char) :
    bracketBody? (bracket.body ++ ']' :: rest) = some (bracket.body, rest) := by
  cases bracket with
  | quoted mark key free =>
    have cut := cutAtChar?_append free (']' :: rest)
    simp [Bracket.body, bracketBody?, mark.property, cut]
  | bare body free unmarked =>
    have cut := cutAtChar?_append free rest
    cases body with
    | nil => simpa [Bracket.body, bracketBody?, isQuote] using cut
    | cons c body =>
      have plain : isQuote c = false := unmarked c rfl
      simpa [Bracket.body, bracketBody?, plain] using cut

/-- The text after a name cannot carry the name on. -/
def EndsName (rest : List Char) : Prop :=
  ∀ c ∈ rest.head?, isNameChar c = false

theorem endsName_nil : EndsName [] := by
  simp [EndsName]

theorem endsName_point (rest : List Char) : EndsName ('.' :: rest) := by
  simp [EndsName, isNameChar]

theorem endsName_brackets (brackets : List Bracket) {rest : List Char}
    (ends : EndsName rest ∨ brackets ≠ []) : EndsName (brackets.flatMap Bracket.written ++ rest) := by
  cases brackets with
  | nil => simpa using ends
  | cons bracket others => simp [EndsName, Bracket.written, isNameChar]

theorem endsName_segments (segments : List Segment) :
    EndsName (segments.flatMap fun segment => '.' :: segment.written) := by
  cases segments with
  | nil => exact endsName_nil
  | cons segment others => exact endsName_point _

theorem Name.takeWhile_append (word : Name) {rest : List Char} (ends : EndsName rest) :
    (word.chars ++ rest).takeWhile isNameChar = word.chars := by
  rw [List.takeWhile_append_of_pos word.plain]
  cases rest with
  | nil => simp
  | cons c rest => simp [ends c rfl]

theorem Name.head (word : Name) : ∃ c rest, word.chars = c :: rest ∧ isNameChar c = true := by
  cases chars : word.chars with
  | nil => exact absurd chars word.filled
  | cons c rest => exact ⟨c, rest, rfl, word.plain c (by simp [chars])⟩

theorem Bracket.written_append_inj {one other : Bracket} {rest rest' : List Char}
    (same : one.written ++ rest = other.written ++ rest') : one = other ∧ rest = rest' := by
  have inside : one.body ++ ']' :: rest = other.body ++ ']' :: rest' := by
    simpa [Bracket.written] using same
  have read := bracketBody?_body one rest
  rw [inside, bracketBody?_body other rest'] at read
  simp only [Option.some.injEq, Prod.mk.injEq] at read
  exact ⟨Bracket.body_injective read.1.symm, read.2.symm⟩

theorem Piece.written_append_inj {one other : Piece} {rest rest' : List Char} (ends : EndsName rest)
    (ends' : EndsName rest') (same : one.written ++ rest = other.written ++ rest') : one = other ∧ rest = rest' := by
  cases one with
  | name word =>
    cases other with
    | name word' =>
      have chars := word.takeWhile_append ends
      rw [Piece.written, Piece.written] at same
      rw [same, word'.takeWhile_append ends'] at chars
      cases word
      cases word'
      obtain rfl := chars
      exact ⟨rfl, List.append_cancel_left same⟩
    | bracket bracket =>
      obtain ⟨c, others, chars, isName⟩ := word.head
      obtain ⟨rfl, -⟩ : c = '[' ∧ _ := by simpa [Piece.written, chars, Bracket.written] using same
      simp [isNameChar] at isName
  | bracket bracket =>
    cases other with
    | name word =>
      obtain ⟨c, others, chars, isName⟩ := word.head
      obtain ⟨rfl, -⟩ : '[' = c ∧ _ := by simpa [Piece.written, chars, Bracket.written] using same
      simp [isNameChar] at isName
    | bracket bracket' =>
      obtain ⟨rfl, rests⟩ := Bracket.written_append_inj same
      exact ⟨rfl, rests⟩

theorem brackets_append_inj {one other : List Bracket} {rest rest' : List Char} (ends : '[' ∉ rest.head?)
    (ends' : '[' ∉ rest'.head?)
    (same : one.flatMap Bracket.written ++ rest = other.flatMap Bracket.written ++ rest') :
    one = other ∧ rest = rest' := by
  induction one generalizing other with
  | nil =>
    cases other with
    | nil => exact ⟨rfl, same⟩
    | cons bracket others =>
      obtain rfl : rest = _ := same
      simp [Bracket.written] at ends
  | cons bracket others ih =>
    cases other with
    | nil =>
      obtain rfl : rest' = _ := same.symm
      simp [Bracket.written] at ends'
    | cons bracket' others' =>
      simp only [List.flatMap_cons, List.append_assoc] at same
      obtain ⟨rfl, behind⟩ := Bracket.written_append_inj same
      obtain ⟨rfl, rests⟩ := ih behind
      exact ⟨rfl, rests⟩

theorem not_bracket_segments (segments : List Segment) :
    '[' ∉ (segments.flatMap fun segment => '.' :: segment.written).head? := by
  cases segments <;> simp

theorem segments_written_inj {one other : List Segment}
    (same : (one.flatMap fun segment => '.' :: segment.written) =
      other.flatMap fun segment => '.' :: segment.written) : one = other := by
  induction one generalizing other with
  | nil => cases other <;> simp_all
  | cons segment others ih =>
    cases other with
    | nil => simp at same
    | cons segment' others' =>
      simp only [List.flatMap_cons, List.cons_append, List.cons.injEq, true_and, Segment.written,
        List.append_assoc] at same
      obtain ⟨firsts, same⟩ := Piece.written_append_inj (endsName_brackets _ (.inl (endsName_segments _)))
        (endsName_brackets _ (.inl (endsName_segments _))) same
      obtain ⟨brackets, behind⟩ := brackets_append_inj (not_bracket_segments _) (not_bracket_segments _) same
      cases segment
      cases segment'
      obtain rfl := firsts
      obtain rfl := brackets
      rw [ih behind]

theorem Derivation.written_injective {one other : Derivation} (same : one.written = other.written) : one = other := by
  -- An address with a point in front is a row of segments with points in front of them.
  have rows : ((one.first :: one.others).flatMap fun segment => '.' :: segment.written) =
      (other.first :: other.others).flatMap fun segment => '.' :: segment.written := by
    simpa [Derivation.written] using same
  obtain ⟨firsts, others⟩ := List.cons.inj (segments_written_inj rows)
  cases one
  cases other
  simp_all

end Address

end Stencil
