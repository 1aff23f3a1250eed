import Stencil.Value.Display

/-! Which values have a quoted form.

A value is quoted unless an integer in it has more digits than can be written, wherever in the value
the integer stands.
-/

set_option autoImplicit false

namespace Stencil

open Number (NumeralFault)

mutual
/-- An integer past the digit limit is somewhere in a value. -/
def Value.Long : Value → Prop
  | .int n => Number.tenTo Number.digitLimit ≤ n.natAbs
  | .list items => Value.LongItem items
  | .tuple items => Value.LongItem items
  | .dict entries => Value.LongEntry entries
  | .record _ fields => Value.LongField fields
  | _ => False
def Value.LongItem : List Value → Prop
  | [] => False
  | item :: items => item.Long ∨ Value.LongItem items
def Value.LongEntry : List (Value × Value) → Prop
  | [] => False
  | (key, value) :: entries => key.Long ∨ value.Long ∨ Value.LongEntry entries
def Value.LongField : List (String × Value) → Prop
  | [] => False
  | (_, value) :: fields => value.Long ∨ Value.LongField fields
end

/-- A conversion to text fails under a condition, and only under it. -/
inductive FailsIf {α : Type} (long : Prop) (result : Except NumeralFault α) : Prop where
  | failed (holds : long) (fails : result = .error .tooLongToWrite)
  | done {a : α} (fits : ¬ long) (written : result = .ok a)

namespace FailsIf

variable {α β : Type} {long longer : Prop} {result : Except NumeralFault α}

theorem pure (a : α) : FailsIf False (.ok a) := .done id rfl

theorem congr (same : long ↔ longer) (fails : FailsIf long result) : FailsIf longer result := by
  rwa [← propext same]

theorem bind {next : α → Except NumeralFault β} (first : FailsIf long result)
    (later : ∀ a, FailsIf longer (next a)) : FailsIf (long ∨ longer) (result >>= next) := by
  cases first with
  | failed holds fails => exact .failed (.inl holds) (by rw [fails]; rfl)
  | @done a fits written =>
    cases later a with
    | failed holds fails => exact .failed (.inr holds) (by rw [written]; exact fails)
    | done fits' written' => exact .done (not_or.2 ⟨fits, fits'⟩) (by rw [written]; exact written')

theorem map {f : α → β} (first : FailsIf long result) : FailsIf long (result >>= fun a => .ok (f a)) :=
  congr (or_iff_left id) (first.bind fun a => .pure (f a))

end FailsIf

mutual
theorem Value.failsIf_quoted : ∀ value : Value, FailsIf value.Long value.quoted
  | .null => .done (by simp [Value.Long]) (by rw [Value.quoted])
  | .bool b => .done (by simp [Value.Long]) (by rw [Value.quoted])
  | .int n => by
    rw [Value.quoted, Value.Long, Number.writeInt]
    by_cases long : Number.tenTo Number.digitLimit ≤ n.natAbs
    · exact .failed long (if_pos long)
    · exact .done long (if_neg long)
  | .float d => .done (by simp [Value.Long]) (by rw [Value.quoted])
  | .text s => .done (by simp [Value.Long]) (by rw [Value.quoted])
  | .list items => by
    rw [Value.quoted, Value.Long]
    exact (Value.failsIf_quotedItems items).map
  | .tuple [] => by
    rw [Value.quoted, Value.Long]
    · exact (Value.failsIf_quotedItems []).map
    · simp
  | .tuple [item] => by
    rw [Value.quoted, Value.Long, Value.LongItem, Value.LongItem]
    exact .congr (or_false _).symm.to_iff (Value.failsIf_quoted item).map
  | .tuple (first :: second :: items) => by
    rw [Value.quoted, Value.Long]
    · exact (Value.failsIf_quotedItems (first :: second :: items)).map
    · simp
  | .dict entries => by
    rw [Value.quoted, Value.Long]
    exact (Value.failsIf_quotedEntries entries).map
  | .undefined => .done (by simp [Value.Long]) (by rw [Value.quoted])
  | .record kind fields => by
    rw [Value.quoted, Value.Long]
    exact (Value.failsIf_quotedFields kind fields).map
  | .object o => .done (by simp [Value.Long]) (by rw [Value.quoted])
theorem Value.failsIf_quotedItems : ∀ items : List Value,
    FailsIf (Value.LongItem items) (Value.quotedItems items)
  | [] => .done (by simp [Value.LongItem]) (by rw [Value.quotedItems])
  | item :: items => by
    rw [Value.quotedItems, Value.LongItem]
    exact (Value.failsIf_quoted item).bind fun _ => (Value.failsIf_quotedItems items).map
theorem Value.failsIf_quotedEntries : ∀ entries : List (Value × Value),
    FailsIf (Value.LongEntry entries) (Value.quotedEntries entries)
  | [] => .done (by simp [Value.LongEntry]) (by rw [Value.quotedEntries])
  | (key, value) :: entries => by
    rw [Value.quotedEntries, Value.LongEntry]
    exact (Value.failsIf_quoted key).bind fun _ => (Value.failsIf_quoted value).bind fun _ =>
      (Value.failsIf_quotedEntries entries).map
theorem Value.failsIf_quotedFields (kind : RecordKind) : ∀ fields : List (String × Value),
    FailsIf (Value.LongField fields) (Value.quotedFields kind fields)
  | [] => .done (by simp [Value.LongField]) (by rw [Value.quotedFields])
  | (name, value) :: fields => by
    rw [Value.quotedFields, Value.LongField]
    exact (Value.failsIf_quoted value).bind fun _ => (Value.failsIf_quotedFields kind fields).map
end

end Stencil
