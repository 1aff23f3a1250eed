import Mathlib.Data.List.DropRight
import Mathlib.Data.Nat.Digits.Defs
import Stencil.Proofs.Composition
import Stencil.Proofs.LoadFaults

/-! What values written as plain text are read as.

An integer is read from a text, and from no other, that denotes it between blanks: decimal digits of any
script, no more than the limit, perhaps behind a minus sign. A text that is read as a text is kept but for the
blanks around it, and so is what is kept of it.
-/

set_option autoImplicit false

namespace Stencil

open Text Number

namespace Text

/-- What trimming leaves neither begins nor ends with a blank. -/
theorem solid_trim {s : List Char} (filled : trim s ≠ []) : Solid (trim s) := by
  obtain ⟨dropped, split⟩ : trim s <+: s.dropWhile isBlank := List.rdropWhile_prefix isBlank _
  refine ⟨filled, fun c first => ?_, fun c last => ?_⟩
  · have front := List.head?_dropWhile_not isBlank s
    rw [← split, List.head?_append_of_ne_nil _ filled, Option.mem_def.1 first] at front
    exact front
  · have back := List.head?_dropWhile_not isBlank (s.dropWhile isBlank).reverse
    have ending : ((s.dropWhile isBlank).reverse.dropWhile isBlank).head? = some c := by
      rw [← List.getLast?_reverse]
      exact last
    rw [ending] at back
    exact back

theorem trim_trim (s : List Char) : trim (trim s) = trim s := by
  by_cases filled : trim s = []
  · rw [filled, trim_nil]
  · exact (solid_trim filled).trim

end Text

namespace Number

-- A minus sign has no place value.
theorem Digits.withoutSign {s : List Char} {values : List Nat} (digits : Digits s values) :
    Settings.withoutSign s = s := by
  cases digits with
  | nil => rfl
  | @cons c _ rest _ first _ =>
    have unsigned : c ≠ '-' := by
      rintro rfl
      have none : digitValue? '-' = none := by decide +kernel
      simp [none] at first
    simp [Settings.withoutSign, unsigned]

theorem ofPlaceValues_eq_ofDigits (values : List Nat) : ofPlaceValues 10 values = Nat.ofDigits 10 values.reverse := by
  rw [ofPlaceValues, Nat.ofDigits_eq_foldr, List.foldr_reverse]
  simp [Nat.add_comm]

/-- A text denotes an integer: it is made of decimal digits, perhaps behind a minus sign, and their place values make
up the size of the integer. -/
inductive Denotes : List Char → Int → Prop where
  | plain {s : List Char} {values : List Nat} : s ≠ [] → Digits s values →
      Denotes s (Nat.ofDigits 10 values.reverse : Nat)
  | minus {s : List Char} {values : List Nat} : s ≠ [] → Digits s values →
      Denotes ('-' :: s) (-(Nat.ofDigits 10 values.reverse : Nat))

theorem Denotes.allDigitSigns {s : List Char} {n : Int} (denotes : Denotes s n) :
    Text.allDigitSigns (Settings.withoutSign s) = true := by
  cases denotes with
  | plain filled digits => rw [digits.withoutSign, digits.allDigitSigns filled]
  | minus filled digits => exact digits.allDigitSigns filled

theorem readInt_of_unsigned {s : List Char} (unsigned : Settings.withoutSign s = s) :
    readInt s = (readNat s).map Int.ofNat := by
  unfold readInt
  split
  · simp [Settings.withoutSign] at unsigned
  · rfl

/-- An integer is read from the texts that denote it with no more digits than the limit. -/
theorem readInt_eq_ok_iff {s : List Char} {n : Int} :
    readInt s = .ok n ↔ Denotes s n ∧ (Settings.withoutSign s).length ≤ digitLimit := by
  constructor
  · intro reads
    unfold readInt at reads
    split at reads
    · rename_i digits
      cases size : readNat digits with
      | error fault => cases fault <;> simp [size] at reads
      | ok m =>
        obtain ⟨filled, short, values, are, rfl⟩ := readNat_eq_ok_iff.1 size
        simp only [size, Except.ok.injEq, ofPlaceValues_eq_ofDigits] at reads
        exact reads ▸ ⟨.minus filled are, short⟩
    · cases size : readNat s with
      | error fault => simp [size, Except.map] at reads
      | ok m =>
        obtain ⟨filled, short, values, are, rfl⟩ := readNat_eq_ok_iff.1 size
        simp only [size, Except.map, Except.ok.injEq, ofPlaceValues_eq_ofDigits] at reads
        exact reads ▸ ⟨.plain filled are, are.withoutSign.symm ▸ short⟩
  · rintro ⟨denotes, short⟩
    cases denotes with
    | plain filled are =>
      rw [are.withoutSign] at short
      rw [readInt_of_unsigned are.withoutSign, readNat_eq_ok_iff.2 ⟨filled, short, _, are, rfl⟩,
        ofPlaceValues_eq_ofDigits]
      rfl
    | minus filled are =>
      have size := readNat_eq_ok_iff.2 ⟨filled, short, _, are, rfl⟩
      simp [readInt, size, ofPlaceValues_eq_ofDigits]

/-- The decimal digits of a number have place values that make it up. -/
theorem exists_digits (n : Nat) :
    ∃ values, Digits (decimalDigits n) values ∧ Nat.ofDigits 10 values.reverse = n := by
  refine ⟨_, digits_of_ascii (all_isAsciiDigit_decimalDigits n), ?_⟩
  rw [← ofPlaceValues_eq_ofDigits]
  exact asciiValue_decimalDigits n

/-- The decimal text of an integer denotes it. -/
theorem denotes_intText (n : Int) : Denotes (intText n).toList n := by
  cases n with
  | ofNat n =>
    obtain ⟨values, digits, size⟩ := exists_digits n
    have denotes := Denotes.plain (decimalDigits_ne_nil n) digits
    rw [size] at denotes
    simpa [intText, natText] using denotes
  | negSucc n =>
    obtain ⟨values, digits, size⟩ := exists_digits (n + 1)
    have denotes := Denotes.minus (decimalDigits_ne_nil (n + 1)) digits
    rw [size] at denotes
    simpa [intText, Int.negSucc_eq] using denotes

theorem withoutSign_intText (n : Int) : Settings.withoutSign (intText n).toList = decimalDigits n.natAbs := by
  cases n with
  | ofNat n =>
    obtain ⟨values, digits, -⟩ := exists_digits n
    simpa [intText, natText] using digits.withoutSign
  | negSucc n => simp [intText, Settings.withoutSign]

theorem solid_intText (n : Int) : Solid (intText n).toList := by
  cases n with
  | ofNat n => simpa [intText, natText] using solid_decimalDigits n
  | negSucc n =>
    have minus : Solid ['-'] := solid_of_forall (by simp) (by simp [isBlank])
    simpa [intText] using minus.append (solid_decimalDigits (n + 1))

end Number

namespace Settings

/-- An integer is read from a text that denotes it between blanks with no more digits than the limit, and from no
other. -/
theorem readScalar_eq_int_iff {text : String} {n : Int} :
    readScalar text = .ok (.int n) ↔
      Denotes (trim text.toList) n ∧ (withoutSign (trim text.toList)).length ≤ digitLimit := by
  rw [← readInt_eq_ok_iff]
  constructor
  · intro reads
    rcases readScalar_cases reads with ⟨_, other⟩ | ⟨m, same, reads⟩ | ⟨_, other⟩ | other
    · cases other
    · exact Value.int.inj same ▸ reads
    · cases other
    · cases other
  · intro reads
    rw [readScalar_of_signs (readInt_eq_ok_iff.1 reads).1.allDigitSigns, reads]
    rfl

theorem eq_trimmed_of_readScalar {text s : String} (reads : readScalar text = .ok (.text s)) : s = trimmed text := by
  rcases readScalar_cases reads with ⟨_, other⟩ | ⟨_, other, -⟩ | ⟨_, other⟩ | same
  · cases other
  · cases other
  · cases other
  · exact Value.text.inj same

theorem readScalar_trimmed (text : String) : readScalar (trimmed text) = readScalar text := by
  simp only [readScalar, trimmed, String.toList_ofList, trim_trim]

/-- The decimal text of an integer of no more digits than the limit is read as the integer, with any blanks around it. A
text that is read as an integer is a text of decimal digits between blanks, perhaps behind a minus sign, that denotes
it. A text that is read as a text is read as what is left of it without the blanks around it, and so is that. -/
theorem integers_are_read_and_texts_stay :
    (∀ (n : Int) (front back : String), (decimalDigits n.natAbs).length ≤ digitLimit →
        (∀ c ∈ front.toList, isBlank c = true) → (∀ c ∈ back.toList, isBlank c = true) →
        readScalar (front ++ intText n ++ back) = .ok (.int n)) ∧
      (∀ (text : String) (n : Int), readScalar text = .ok (.int n) → Denotes (trim text.toList) n) ∧
      ∀ text s : String, readScalar text = .ok (.text s) → s = trimmed text ∧ readScalar s = .ok (.text s) := by
  refine ⟨fun n front back short ahead behind => ?_, fun text n reads => (readScalar_eq_int_iff.1 reads).1,
    fun text s reads => ?_⟩
  · have inner : trim (front ++ intText n ++ back).toList = (intText n).toList := by
      rw [String.toList_append, String.toList_append]
      exact (solid_intText n).trim_between ahead behind
    rw [readScalar_eq_int_iff, inner, withoutSign_intText]
    exact ⟨denotes_intText n, short⟩
  · have kept := eq_trimmed_of_readScalar reads
    refine ⟨kept, ?_⟩
    rw [kept, readScalar_trimmed, ← kept, reads]

/-- An integer between blanks, digits of two scripts behind a sign, and a text that is not quite an integer. -/
theorem integers_are_read_and_texts_stay_signed :
    readScalar " \t-120\n" = .ok (.int (-120)) ∧
      (readScalar " -٣４ " = .ok (.int (-34)) ∧ Denotes "-٣４".toList (-34)) ∧
      readScalar " - 34 " = .ok (.text "- 34") ∧ readScalar "- 34" = .ok (.text "- 34") := by
  obtain ⟨read, denoted, stay⟩ := integers_are_read_and_texts_stay
  have short : (decimalDigits (-120 : Int).natAbs).length ≤ digitLimit := by decide +kernel
  have written : intText (-120) = "-120" := by decide +kernel
  have arabic : readScalar " -٣４ " = .ok (.int (-34)) := rfl
  have apart : readScalar " - 34 " = .ok (.text "- 34") := rfl
  have blanks := read (-120) " \t" "\n" short (by simp [isBlank]) (by simp [isBlank])
  rw [written] at blanks
  exact ⟨blanks, ⟨arabic, denoted _ _ arabic⟩, apart, (stay _ _ apart).2⟩

end Settings

end Stencil
