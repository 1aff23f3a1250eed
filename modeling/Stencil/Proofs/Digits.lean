import Mathlib.Data.List.Basic
import Mathlib.Data.List.Forall2
import Mathlib.Data.List.Induction
import Mathlib.Data.List.TakeWhile
import Stencil.Number.Reading

/-! Decimal digits and the number that they denote.

The digits of a number are read back as that number, by place value and as ASCII digits, and a numeral
without a superfluous zero in front is the digits of the number that it is read as. There are no more of
them than a power of ten above the number has zeros.
-/

set_option autoImplicit false

namespace Stencil.Number

open Stencil.Text

theorem ofPlaceValues_concat (base : Nat) (values : List Nat) (last : Nat) :
    ofPlaceValues base (values ++ [last]) = base * ofPlaceValues base values + last := by
  simp [ofPlaceValues]

theorem digitChar_mod (n : Nat) : digitChar (n % 10) = digitChar n := by
  rw [digitChar, digitChar, Nat.mod_mod]

theorem forall_digitChar {p : Char → Nat → Prop} (all : ∀ d < 10, p (digitChar d) d) (n : Nat) :
    p (digitChar n) (n % 10) := by
  rw [← digitChar_mod]
  exact all (n % 10) (Nat.mod_lt n (by decide))

theorem isAsciiDigit_digitChar (n : Nat) : isAsciiDigit (digitChar n) = true :=
  forall_digitChar (p := fun c _ => isAsciiDigit c = true) (by decide) n

theorem toNat_digitChar (n : Nat) : (digitChar n).toNat - 48 = n % 10 :=
  forall_digitChar (p := fun c d => c.toNat - 48 = d) (by decide) n

theorem digitChar_ne_zero {n : Nat} (positive : n % 10 ≠ 0) : digitChar n ≠ '0' :=
  forall_digitChar (p := fun c d => d ≠ 0 → c ≠ '0') (by decide) n positive

theorem all_isAsciiDigit_decimalDigits (n : Nat) : ∀ c ∈ decimalDigits n, isAsciiDigit c = true := by
  fun_induction decimalDigits n with
  | case1 n small =>
    intro c among
    rw [List.mem_singleton.1 among]
    exact isAsciiDigit_digitChar n
  | case2 n large ih =>
    intro c among
    rcases List.mem_append.1 among with front | last
    · exact ih c front
    · rw [List.mem_singleton.1 last]
      exact isAsciiDigit_digitChar (n % 10)

theorem asciiValue_decimalDigits (n : Nat) : asciiValue (decimalDigits n) = n := by
  simp only [asciiValue]
  fun_induction decimalDigits n with
  | case1 n small => simp [ofPlaceValues, toNat_digitChar, Nat.mod_eq_of_lt small]
  | case2 n large ih =>
    rw [List.map_append, List.map_singleton, ofPlaceValues_concat, ih, toNat_digitChar]
    omega

theorem length_decimalDigits_le {n limit : Nat} (positive : limit ≠ 0) (below : n < tenTo limit) :
    (decimalDigits n).length ≤ limit := by
  induction limit generalizing n with
  | zero => exact absurd rfl positive
  | succ limit ih =>
    rw [decimalDigits]
    split
    · simp
    · rename_i large
      have shorter : n / 10 < tenTo limit := by
        have whole : tenTo (limit + 1) = tenTo limit * 10 := rfl
        omega
      have more : limit ≠ 0 := by
        rintro rfl
        have unit : tenTo 0 = 1 := rfl
        omega
      have := ih more shorter
      simp only [List.length_append, List.length_singleton]
      omega

-- Only zero is written with a zero in front.
theorem head?_decimalDigits_ne_zero {n : Nat} (positive : n ≠ 0) : (decimalDigits n).head? ≠ some '0' := by
  fun_induction decimalDigits n with
  | case1 n small =>
    have := digitChar_ne_zero (n := n) (by omega)
    simpa using this
  | case2 n large ih =>
    obtain ⟨first, rest, digits⟩ := List.exists_cons_of_ne_nil (decimalDigits_ne_nil (n / 10))
    have front := ih (by omega)
    simpa [digits] using front

theorem digitValue?_of_isAsciiDigit {c : Char} (digit : isAsciiDigit c = true) :
    digitValue? c = some (c.toNat - 48) := by
  simp only [isAsciiDigit, Bool.and_eq_true, decide_eq_true_eq] at digit
  have low : 48 ≤ c.toNat := digit.1
  have high : c.toNat ≤ 57 := digit.2
  have first : (48 ≤ c.toNat && c.toNat < 48 + 10) = true := by
    simp only [Bool.and_eq_true, decide_eq_true_eq]
    omega
  have found : digitZeros.find? (fun start => start ≤ c.toNat && c.toNat < start + 10) = some 48 :=
    List.find?_cons_of_pos first
  rw [digitValue?, found, Option.map_some]

/-- The signs of a text are decimal digits with these place values. -/
def Digits (s : List Char) (values : List Nat) : Prop :=
  List.Forall₂ (fun c value => digitValue? c = some value) s values

theorem mapM_digitValue?_eq_some_iff {s : List Char} {values : List Nat} :
    s.mapM digitValue? = some values ↔ Digits s values := by
  unfold Digits
  induction s generalizing values with
  | nil => simp [eq_comm]
  | cons c rest ih =>
    simp only [List.mapM_cons, Option.bind_eq_bind, Option.bind_eq_some_iff, ih, List.forall₂_cons_left_iff,
      Option.pure_def, Option.some.injEq]
    constructor
    · rintro ⟨value, first, others, later, rfl⟩
      exact ⟨value, others, first, later, rfl⟩
    · rintro ⟨value, others, first, later, rfl⟩
      exact ⟨value, first, others, later, rfl⟩

theorem Digits.valued {s : List Char} {values : List Nat} (digits : Digits s values) :
    ∀ c ∈ s, (digitValue? c).isSome = true := by
  induction digits with
  | nil => simp
  | cons first _ ih => exact List.forall_mem_cons.2 ⟨by simp [first], ih⟩

theorem exists_digits_of_valued {s : List Char} (valued : ∀ c ∈ s, (digitValue? c).isSome = true) :
    ∃ values, Digits s values := by
  refine ⟨s.map fun c => (digitValue? c).getD 0, ?_⟩
  rw [Digits, List.forall₂_map_right_iff, List.forall₂_same]
  intro c among
  obtain ⟨value, found⟩ := Option.isSome_iff_exists.1 (valued c among)
  simp [found]

theorem Digits.allDigitSigns {s : List Char} {values : List Nat} (digits : Digits s values) (filled : s ≠ []) :
    Text.allDigitSigns s = true := by
  have signs : s.all isDigitSign = true := by
    rw [List.all_eq_true]
    intro c among
    simp [isDigitSign, digits.valued c among]
  simp [Text.allDigitSigns, signs, filled]

/-- Decimal digits are read by place value, if there are some and no more than the limit, and nothing else is. -/
theorem readNat_eq_ok_iff {s : List Char} {n : Nat} :
    readNat s = .ok n ↔ s ≠ [] ∧ s.length ≤ digitLimit ∧ ∃ values, Digits s values ∧ n = ofPlaceValues 10 values := by
  simp only [readNat, ← mapM_digitValue?_eq_some_iff]
  cases read : s.mapM digitValue? with
  | none =>
    simp only [reduceCtorEq, false_and, exists_false, and_false, iff_false]
    split <;> simp
  | some values =>
    have digits := mapM_digitValue?_eq_some_iff.1 read
    have leading : (s.takeWhile fun c => (digitValue? c).isSome) = s := List.takeWhile_eq_self_iff.2 digits.valued
    simp only [leading, Option.some.injEq, exists_eq_left']
    by_cases short : s.length ≤ digitLimit
    · rw [if_neg (Nat.not_lt.2 short)]
      cases digits with
      | nil => simp
      | cons first others => simpa [eq_comm] using fun _ => short
    · rw [if_pos (Nat.not_le.1 short)]
      simp [short]

theorem digits_of_ascii {digits : List Char} (ascii : ∀ c ∈ digits, isAsciiDigit c = true) :
    Digits digits (digits.map fun c => c.toNat - 48) := by
  rw [Digits, List.forall₂_map_right_iff, List.forall₂_same]
  exact fun c among => digitValue?_of_isAsciiDigit (ascii c among)

/-- ASCII digits within the limit are read by place value. -/
theorem readNat_of_ascii {digits : List Char} (filled : digits ≠ []) (ascii : ∀ c ∈ digits, isAsciiDigit c = true)
    (short : digits.length ≤ digitLimit) : readNat digits = .ok (asciiValue digits) :=
  readNat_eq_ok_iff.2 ⟨filled, short, _, digits_of_ascii ascii, rfl⟩

theorem allDigitSigns_decimalDigits (n : Nat) : allDigitSigns (decimalDigits n) = true :=
  (digits_of_ascii (all_isAsciiDigit_decimalDigits n)).allDigitSigns (decimalDigits_ne_nil n)

/-- A number below the digit limit is read back from its digits. -/
theorem readNat_decimalDigits {n : Nat} (below : n < tenTo digitLimit) : readNat (decimalDigits n) = .ok n := by
  have short : (decimalDigits n).length ≤ digitLimit := length_decimalDigits_le (by decide) below
  rw [readNat_of_ascii (decimalDigits_ne_nil n) (all_isAsciiDigit_decimalDigits n) short, asciiValue_decimalDigits]

/-- A numeral as it is written: ASCII digits, without a superfluous zero in front. -/
structure Numeral (digits : List Char) : Prop where
  filled : digits ≠ []
  ascii : ∀ c ∈ digits, isAsciiDigit c = true
  leading : digits.head? = some '0' → digits = ['0']

theorem Numeral.front {digits : List Char} {last : Char} (numeral : Numeral (digits ++ [last]))
    (filled : digits ≠ []) : Numeral digits ∧ digits.head? ≠ some '0' := by
  have solid : digits.head? ≠ some '0' := by
    intro zero
    have single := numeral.leading (by rw [List.head?_append_of_ne_nil _ filled, zero])
    simp [List.append_eq_singleton_iff, filled] at single
  exact ⟨⟨filled, fun c among => numeral.ascii c (List.mem_append_left _ among), fun zero => absurd zero solid⟩, solid⟩

theorem digitChar_of_isAsciiDigit {c : Char} (digit : isAsciiDigit c = true) (tens : Nat) :
    digitChar (10 * tens + (c.toNat - 48)) = c := by
  simp only [isAsciiDigit, Bool.and_eq_true, decide_eq_true_eq] at digit
  have low : 48 ≤ c.toNat := digit.1
  have high : c.toNat ≤ 57 := digit.2
  have code : 48 + (10 * tens + (c.toNat - 48)) % 10 = c.toNat := by omega
  rw [digitChar, code, Char.ofNat_toNat]

/-- A numeral is the digits of the number that it denotes. -/
theorem Numeral.decimalDigits_asciiValue {digits : List Char} (numeral : Numeral digits) :
    decimalDigits (asciiValue digits) = digits := by
  induction digits using List.reverseRecOn with
  | nil => exact absurd rfl numeral.filled
  | append_singleton front last ih =>
    have digit : isAsciiDigit last = true := numeral.ascii last (by simp)
    have value : asciiValue (front ++ [last]) = 10 * asciiValue front + (last.toNat - 48) := by
      simp only [asciiValue, List.map_append, List.map_singleton, ofPlaceValues_concat]
    have below : last.toNat - 48 < 10 := digitValue?_lt (digitValue?_of_isAsciiDigit digit)
    rw [decimalDigits, value, digitChar_mod, digitChar_of_isAsciiDigit digit]
    by_cases single : front = []
    · subst single
      rw [if_pos (by simpa [asciiValue, ofPlaceValues] using below), List.nil_append]
    · obtain ⟨shorter, solid⟩ := numeral.front single
      have positive : asciiValue front ≠ 0 := by
        intro zero
        have digits := ih shorter
        rw [zero, decimalDigits] at digits
        exact solid (by rw [← digits]; rfl)
      have tens : (10 * asciiValue front + (last.toNat - 48)) / 10 = asciiValue front := by omega
      rw [if_neg (by omega), tens, ih shorter]

end Stencil.Number
