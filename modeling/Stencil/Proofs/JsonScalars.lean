import Mathlib.Data.List.Basic
import Stencil.Json.Reader
import Stencil.Json.Writer
import Stencil.Proofs.Digits

/-! JSON text of a value that has no parts, and how it is read back.

A text in quotes is read back character by character, each from its escaped form. An integer is read back
from its decimal digits, where nothing after them continues the number.
-/

set_option autoImplicit false

namespace Stencil.Json

open Number (decimalDigits isAsciiDigit asciiValue)

/-! ## Escaped characters -/

theorem hexValue?_hexDigit : ∀ n < 16, hexValue? (Text.hexDigit n) = some n := by decide

-- A fifth character has to follow the four digits.
theorem fourHex?_hexDigits {n : Nat} (small : n < 65536) (next : Char) (rest : List Char) :
    fourHex? (Text.hexDigits 4 n ++ next :: rest) = some (n, next :: rest) := by
  have digit (k : Nat) : hexValue? (Text.hexDigit (k % 16)) = some (k % 16) :=
    hexValue?_hexDigit (k % 16) (Nat.mod_lt k (by decide))
  simp only [Text.hexDigits, List.nil_append, List.cons_append, fourHex?, digit, Option.bind_eq_bind,
    Option.bind_some, Option.pure_def, Option.some.injEq, Prod.mk.injEq, and_true]
  omega

theorem unitChar_of_control {c : Char} (control : c.toNat < 32) :
    isHighUnit c.toNat = false ∧ unitChar c.toNat = c := by
  have high : isHighUnit c.toNat = false := by
    simp only [isHighUnit, Bool.and_eq_false_iff, decide_eq_false_iff_not]
    omega
  have low : isLowUnit c.toNat = false := by
    simp only [isLowUnit, Bool.and_eq_false_iff, decide_eq_false_iff_not]
    omega
  exact ⟨high, by simp [unitChar, high, low]⟩

/-- A character is read from its escaped form. -/
theorem readText_escapedChar {opening fuel : Nat} {tail text rest : List Char} (c : Char)
    (later : readText opening fuel tail = .ok (text, rest)) (more : tail ≠ []) :
    readText opening (fuel + 1) (escapedChar c ++ tail) = .ok (c :: text, rest) := by
  fun_cases escapedChar c with
  | case8 _ _ _ _ _ _ _ control =>
    obtain ⟨next, others, rfl⟩ := List.exists_cons_of_ne_nil more
    obtain ⟨high, alone⟩ := unitChar_of_control control
    have small : c.toNat < 65536 := by omega
    simp [readText, fourHex?_hexDigits small, high, alone, later]
  | case9 quote slash _ _ _ _ _ printable => simp [readText, quote, slash, printable, later]
  | case1 same | case2 _ same | case3 _ _ same | case4 _ _ _ same | case5 _ _ _ _ same | case6 _ _ _ _ _ same
  | case7 _ _ _ _ _ _ same =>
    subst same
    simp [readText, letterEscape?, later]

theorem escapedChar_ne_nil (c : Char) : escapedChar c ≠ [] := by
  fun_cases escapedChar c <;> simp

theorem printable_hexDigits (width n : Nat) : ∀ c ∈ Text.hexDigits width n, 32 ≤ c.toNat := by
  have digit : ∀ d < 16, 32 ≤ (Text.hexDigit d).toNat := by decide
  induction width generalizing n with
  | zero => simp [Text.hexDigits]
  | succ width ih =>
    have last := digit (n % 16) (Nat.mod_lt n (by decide))
    exact List.forall_mem_append.2 ⟨ih (n / 16), List.forall_mem_singleton.2 last⟩

theorem printable_escapedChar (c : Char) : ∀ d ∈ escapedChar c, 32 ≤ d.toNat := by
  fun_cases escapedChar c with
  | case8 _ _ _ _ _ _ _ control =>
    exact List.forall_mem_cons.2 ⟨by decide, List.forall_mem_cons.2 ⟨by decide, printable_hexDigits 4 c.toNat⟩⟩
  | case9 _ _ _ _ _ _ _ printable => simpa using printable
  | case1 | case2 | case3 | case4 | case5 | case6 | case7 => simp

/-! ## Texts in quotes -/

theorem readText_escaped {opening fuel : Nat} (text rest : List Char) (enough : text.length < fuel) :
    readText opening fuel (text.flatMap escapedChar ++ '"' :: rest) = .ok (text, rest) := by
  induction text generalizing fuel with
  | nil =>
    obtain ⟨fuel, rfl⟩ := Nat.exists_eq_add_of_lt enough
    simp [readText]
  | cons c text ih =>
    cases fuel with
    | zero => simp at enough
    | succ fuel =>
      rw [List.flatMap_cons, List.append_assoc]
      exact readText_escapedChar c (ih (by simpa using enough)) (by simp)

theorem length_le_escaped (text : List Char) : text.length ≤ (text.flatMap escapedChar).length := by
  induction text with
  | nil => simp
  | cons c text ih =>
    have some : 0 < (escapedChar c).length := List.length_pos_of_ne_nil (escapedChar_ne_nil c)
    simp only [List.flatMap_cons, List.length_append, List.length_cons]
    omega

theorem toList_writeText_append (s : String) (tail : List Char) :
    (writeText s).toList ++ tail = '"' :: (s.toList.flatMap escapedChar ++ '"' :: tail) := by
  simp [writeText]

theorem readText_quoted (opening : Nat) (s : String) (tail : List Char) :
    readText opening ((s.toList.flatMap escapedChar ++ '"' :: tail).length + 1)
      (s.toList.flatMap escapedChar ++ '"' :: tail) = .ok (s.toList, tail) := by
  have long := length_le_escaped s.toList
  exact readText_escaped s.toList tail (by simp only [List.length_append]; omega)

theorem printable_writeText (s : String) : ∀ c ∈ (writeText s).toList, 32 ≤ c.toNat := by
  have inside : ∀ c ∈ s.toList.flatMap escapedChar, 32 ≤ c.toNat := by
    intro c among
    obtain ⟨d, -, escaped⟩ := List.mem_flatMap.1 among
    exact printable_escapedChar d c escaped
  rw [writeText, String.toList_ofList]
  exact List.forall_mem_append.2 ⟨List.forall_mem_cons.2 ⟨by decide, inside⟩, List.forall_mem_singleton.2 (by decide)⟩

/-! ## What a text stands for -/

/-- Where a value ends: at the end of the text, or at what follows an item or a member. -/
inductive Ends : List Char → Prop where
  | nothing : Ends []
  | comma (rest : List Char) : Ends (',' :: rest)
  | bracket (rest : List Char) : Ends (']' :: rest)
  | brace (rest : List Char) : Ends ('\x7d' :: rest)

-- What no value begins with: a space, a bracket that closes, a byte order mark.
def outer : List Char := [' ', '\t', '\n', '\r', ']', '\x7d', '\ufeff']

/-- A text that stands for a value: it has no control characters and is read back as that value, whatever
comes after its end. -/
structure Reads (value : Value) (text : List Char) : Prop where
  printable : ∀ c ∈ text, 32 ≤ c.toNat
  starts : ∃ first rest, text = first :: rest ∧ first ∉ outer
  back : ∀ {fuel : Nat} {rest : List Char}, text.length ≤ fuel → Ends rest →
    readValue fuel (text ++ rest) = .ok (value, rest)

theorem Reads.ofScalar {value : Value} {first : Char} {others : List Char}
    (printable : ∀ c ∈ first :: others, 32 ≤ c.toNat) (inner : first ∉ outer)
    (scalar : first ≠ '"' ∧ first ≠ '\x7b' ∧ first ≠ '[')
    (back : ∀ rest, Ends rest → readScalar (first :: others ++ rest) = .ok (value, rest)) :
    Reads value (first :: others) where
  printable := printable
  starts := ⟨first, others, rfl, inner⟩
  back := by
    intro fuel rest enough ends
    cases fuel with
    | zero => simp at enough
    | succ fuel =>
      rw [← back rest ends, List.cons_append, readValue]
      · simp
      · exact fun _ same => scalar.1 (List.cons.inj same).1
      · exact fun _ same => scalar.2.1 (List.cons.inj same).1
      · exact fun _ same => scalar.2.2 (List.cons.inj same).1

theorem reads_null : Reads .null ['n', 'u', 'l', 'l'] :=
  .ofScalar (by simp) (by decide) (by decide) fun _ _ => rfl

theorem reads_true : Reads (.bool true) ['t', 'r', 'u', 'e'] :=
  .ofScalar (by simp) (by decide) (by decide) fun _ _ => rfl

theorem reads_false : Reads (.bool false) ['f', 'a', 'l', 's', 'e'] :=
  .ofScalar (by simp) (by decide) (by decide) fun _ _ => rfl

theorem reads_text (s : String) : Reads (.text s) (writeText s).toList where
  printable := printable_writeText s
  starts := ⟨'"', s.toList.flatMap escapedChar ++ ['"'], by simp [writeText], by decide⟩
  back := by
    intro fuel rest enough ends
    cases fuel with
    | zero => simp [writeText] at enough
    | succ fuel =>
      rw [toList_writeText_append, readValue, readText_quoted]
      simp

/-! ## Integers -/

-- What ends a value does not continue a number.
theorem Ends.no_more {rest : List Char} (ends : Ends rest) :
    rest.takeWhile isAsciiDigit = [] ∧ rest.dropWhile isAsciiDigit = rest ∧ fraction rest = ([], rest) ∧
      exponent? rest = none := by
  cases ends <;> exact ⟨rfl, rfl, rfl, rfl⟩

/-- No word, no quote, no bracket and no space begins with a digit. -/
theorem digit_begins {first : Char} (digit : isAsciiDigit first = true) :
    first ∉ outer ∧ (first ≠ '"' ∧ first ≠ '\x7b' ∧ first ≠ '[') ∧ first ≠ '-' ∧
      ∀ rest, readScalar (first :: rest) = readNumber (first :: rest) ∧
        readScalar ('-' :: first :: rest) = readNumber ('-' :: first :: rest) := by
  have other (d : Char) (odd : isAsciiDigit d = false) : first ≠ d := by
    rintro rfl
    rw [digit] at odd
    cases odd
  have odd : ∀ d ∈ outer, isAsciiDigit d = false := by simp [outer, isAsciiDigit]
  refine ⟨fun among => other first (odd first among) rfl, ⟨other '"' rfl, other '\x7b' rfl, other '[' rfl⟩,
    other '-' rfl, fun rest => ⟨?_, ?_⟩⟩
  · simp [readScalar, words, afterWord?, (other 'n' rfl).symm, (other 't' rfl).symm, (other 'f' rfl).symm,
      (other 'N' rfl).symm, (other 'I' rfl).symm, (other '-' rfl).symm]
  · simp [readScalar, words, afterWord?, (other 'I' rfl).symm]

theorem readNumber_digits {n : Nat} {rest : List Char} (short : n < Number.tenTo Number.digitLimit)
    (ends : Ends rest) :
    readNumber (decimalDigits n ++ rest) = .ok (.int n, rest) ∧
      readNumber ('-' :: decimalDigits n ++ rest) = .ok (.int (-n), rest) := by
  obtain ⟨stop, left, noFraction, noExponent⟩ := ends.no_more
  have few : (decimalDigits n).length ≤ Number.digitLimit := Number.length_decimalDigits_le (by decide) short
  have value : asciiValue (decimalDigits n) = n := Number.asciiValue_decimalDigits n
  have digits := Number.all_isAsciiDigit_decimalDigits n
  have taken : (decimalDigits n ++ rest).takeWhile isAsciiDigit = decimalDigits n := by
    rw [List.takeWhile_append_of_pos digits, stop, List.append_nil]
  have kept : (decimalDigits n ++ rest).dropWhile isAsciiDigit = rest := by
    rw [List.dropWhile_append_of_pos digits, left]
  -- A number is read no further than a zero in front, and only zero is written with one.
  by_cases zero : n = 0
  · have sign : decimalDigits 0 = ['0'] := by rw [decimalDigits]; rfl
    subst zero
    rw [sign] at value ⊢
    constructor <;> simp [readNumber, noFraction, noExponent, value, Number.digitLimit]
  · obtain ⟨first, others, cut⟩ := List.exists_cons_of_ne_nil (Number.decimalDigits_ne_nil n)
    have nonzero : first ≠ '0' := by
      have := Number.head?_decimalDigits_ne_zero zero
      simpa [cut] using this
    have unsigned : first ≠ '-' := (digit_begins (digits first (by simp [cut]))).2.2.1
    simp only [cut, List.cons_append, List.length_cons] at *
    constructor
    · simp [readNumber, nonzero, unsigned, taken, kept, noFraction, noExponent, value]
      omega
    · simp [readNumber, nonzero, taken, kept, noFraction, noExponent, value]
      omega

theorem printable_of_isAsciiDigit {c : Char} (digit : isAsciiDigit c = true) : 32 ≤ c.toNat := by
  simp only [isAsciiDigit, Bool.and_eq_true, decide_eq_true_eq] at digit
  have low : 48 ≤ c.toNat := digit.1
  omega

theorem reads_int {n : Int} (short : n.natAbs < Number.tenTo Number.digitLimit) :
    Reads (.int n) (Number.intText n).toList := by
  obtain ⟨first, others, cut⟩ := List.exists_cons_of_ne_nil (Number.decimalDigits_ne_nil n.natAbs)
  have digits := Number.all_isAsciiDigit_decimalDigits n.natAbs
  obtain ⟨inner, scalar, -, number⟩ := digit_begins (digits first (by simp [cut]))
  have printable : ∀ c ∈ first :: others, 32 ≤ c.toNat := by
    rw [← cut]
    exact fun c among => printable_of_isAsciiDigit (digits c among)
  cases n with
  | ofNat n =>
    have whole : (Number.intText (.ofNat n)).toList = first :: others := by
      rw [Number.intText, Number.natText, String.toList_ofList]
      exact cut
    rw [whole]
    refine .ofScalar printable inner scalar fun rest ends => ?_
    rw [List.cons_append, (number _).1, ← List.cons_append, ← cut]
    exact (readNumber_digits short ends).1
  | negSucc n =>
    have whole : (Number.intText (.negSucc n)).toList = '-' :: first :: others := by
      rw [Number.intText, String.toList_ofList]
      exact congrArg ('-' :: ·) cut
    rw [whole]
    refine .ofScalar (List.forall_mem_cons.2 ⟨by decide, printable⟩) (by decide) (by decide) fun rest ends => ?_
    rw [List.cons_append, List.cons_append, (number _).2, ← List.cons_append, ← cut]
    exact (readNumber_digits short ends).2

end Stencil.Json
