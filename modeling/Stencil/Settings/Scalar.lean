import Stencil.Number.Reading
import Stencil.Value.Basic

/-! Values written as plain text, in variables and in files of variables. -/

set_option autoImplicit false

namespace Stencil.Settings

open Number (NumeralFault)

def withoutSign : List Char → List Char
  | '-' :: rest => rest
  | text => text

/-- The value that a text writes: a truth value, an integer, a floating-point number if it has a
point, or else the text itself without the blanks around it. -/
def readScalar (s : String) : Except NumeralFault Value :=
  let inner := Text.trim s.toList
  let small := Text.lowercase inner
  if small = "true".toList then .ok (.bool true)
  else if small = "false".toList then .ok (.bool false)
  else if Text.allDigitSigns (withoutSign inner) then (Number.readInt inner).map .int
  else
    match if inner.contains '.' then Number.readDouble? inner else none with
    | some d => .ok (.float d)
    | none => .ok (.text (String.ofList inner))

/-- What a text can be read as: a truth value, an integer, a floating-point number, or the text without the blanks
around it. -/
theorem readScalar_cases {text : String} {value : Value} (reads : readScalar text = .ok value) :
    (∃ b, value = .bool b) ∨ (∃ n, value = .int n ∧ Number.readInt (Text.trim text.toList) = .ok n) ∨
      (∃ d, value = .float d) ∨ value = .text (Text.trimmed text) := by
  unfold readScalar at reads
  rw [Text.trimmed]
  generalize Text.trim text.toList = inner at reads ⊢
  simp only at reads
  split at reads
  · exact .inl ⟨_, (Except.ok.inj reads).symm⟩
  split at reads
  · exact .inl ⟨_, (Except.ok.inj reads).symm⟩
  split at reads
  · cases read : Number.readInt inner with
    | error fault => simp [read, Except.map] at reads
    | ok n => exact .inr (.inl ⟨n, by simpa [read, Except.map, eq_comm] using reads, rfl⟩)
  split at reads
  · exact .inr (.inr (.inl ⟨_, (Except.ok.inj reads).symm⟩))
  · exact .inr (.inr (.inr (Except.ok.inj reads).symm))

end Stencil.Settings
