/-! Sets of characters written as tables of code point ranges. -/

set_option autoImplicit false

namespace Stencil.Text

/-- A set of code points: each pair holds the first and the last code point of a run. -/
abbrev CharRanges := List (Nat × Nat)

def CharRanges.has (ranges : CharRanges) (c : Char) : Bool :=
  ranges.any fun range => range.1 ≤ c.toNat && c.toNat ≤ range.2

@[simp] theorem CharRanges.has_nil (c : Char) : CharRanges.has [] c = false := rfl

theorem CharRanges.has_iff (ranges : CharRanges) (c : Char) :
    ranges.has c = true ↔ ∃ range ∈ ranges, range.1 ≤ c.toNat ∧ c.toNat ≤ range.2 := by
  simp [CharRanges.has]

end Stencil.Text
