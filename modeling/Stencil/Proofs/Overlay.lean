import Stencil.Proofs.SameKey
import Stencil.Settings.Overlay

/-! Looking up along paths what was put at paths.

A value that is put at a path is found there. It hides what stood behind the path, turns what stands
before it into dictionaries, and leaves all other paths as they were.
-/

set_option autoImplicit false

namespace Stencil

-- A key equals at most one text.
theorem Value.text_unique {key : Value} {s t : String} (one : key.sameKey (.text s) = true)
    (other : key.sameKey (.text t) = true) : s = t := by
  cases key with
  | text name =>
    rw [Value.sameKey_text, beq_iff_eq] at one other
    exact one.symm.trans other
  | object o =>
    cases o <;> simp_all [Value.sameKey, Value.numberKey?]
  | _ => simp [Value.sameKey, Value.numberKey?] at one

/-- No key denotes both. -/
def Value.Apart (key other : Value) : Prop :=
  ∀ held : Value, held.sameKey key = true → held.sameKey other = false

theorem Value.apart_text {name other : String} (different : name ≠ other) : (Value.text name).Apart (.text other) := by
  intro held same
  rw [Bool.eq_false_iff]
  exact fun too => different (Value.text_unique same too)

theorem Value.apart_int (name : String) (n : Int) : (Value.text name).Apart (.int n) := by
  intro held same
  cases held with
  | text other => simp [sameKey, numberKey?]
  | object o => cases o <;> simp [sameKey, numberKey?]
  | _ => simp [sameKey, numberKey?] at same

namespace Entries

@[simp] theorem get?_nil (name : String) : get? [] name = none := rfl

theorem get?_set_self (entries : Entries) (name : String) (value : Value) :
    get? (set entries name value) name = some value := by
  rw [get?, set, find?_put, Value.sameKey_text, beq_self_eq_true, if_pos rfl]

theorem find?_set_of_apart {name : String} {key : Value} (apart : (Value.text name).Apart key) (entries : Entries)
    (value : Value) : find? (set entries name value) key = find? entries key := by
  have different : (Value.text name).sameKey key = false := apart (.text name) (by simp [Value.sameKey_text])
  rw [set, find?_put, different, if_neg Bool.false_ne_true]

theorem get?_set_of_ne {name other : String} (different : name ≠ other) (entries : Entries) (value : Value) :
    get? (set entries name value) other = get? entries other :=
  find?_set_of_apart (Value.apart_text different) entries value

theorem set_set (entries : Entries) (name : String) (first second : Value) :
    set (set entries name first) name second = set entries name second := by
  unfold set
  induction entries with
  | nil => simp [put, Value.sameKey_text]
  | cons entry rest ih =>
    obtain ⟨key, held⟩ := entry
    by_cases same : key.sameKey (.text name) = true
    · simp [put, same]
    · simp [put, same, ih]

end Entries

namespace Settings

/-- One of two paths leads to or through the end of the other. -/
def Comparable (path other : List String) : Prop :=
  path <+: other ∨ other <+: path

instance (path other : List String) : Decidable (Comparable path other) :=
  inferInstanceAs (Decidable (_ ∨ _))

theorem Comparable.symm {path other : List String} (comparable : Comparable path other) : Comparable other path :=
  Or.symm comparable

@[simp] theorem comparable_cons (name : String) (path other : List String) :
    Comparable (name :: path) (name :: other) ↔ Comparable path other := by
  simp [Comparable, List.prefix_cons_iff]

theorem comparable_nil (path : List String) : Comparable path [] :=
  .inr List.nil_prefix

@[simp] theorem nestedEntries_set_self (entries nested : Entries) (name : String) :
    nestedEntries (Entries.set entries name (.dict nested)) name = nested := by
  simp [nestedEntries, Entries.get?_set_self]

theorem nestedEntries_set_of_ne {name other : String} (different : name ≠ other) (entries : Entries)
    (value : Value) : nestedEntries (Entries.set entries name value) other = nestedEntries entries other := by
  simp only [nestedEntries, Entries.get?_set_of_ne different]

@[simp] theorem valueAt?_no_entries (path : List String) : valueAt? [] path = none := by
  match path with
  | [] => rfl
  | [_] => rfl
  | _ :: _ :: _ => rfl

theorem valueAt?_cons (entries : Entries) (name : String) {rest : List String} (more : rest ≠ []) :
    valueAt? entries (name :: rest) = valueAt? (nestedEntries entries name) rest := by
  cases rest with
  | nil => exact absurd rfl more
  | cons next tail =>
    simp only [valueAt?, nestedEntries]
    split <;> simp_all

theorem setAt_cons (entries : Entries) (value : Value) (name : String) {rest : List String} (more : rest ≠ []) :
    setAt entries value (name :: rest) =
      Entries.set entries name (.dict (setAt (nestedEntries entries name) value rest)) := by
  cases rest with
  | nil => exact absurd rfl more
  | cons next tail => rfl

theorem valueAt?_set_of_ne {name other : String} (different : name ≠ other) (entries : Entries) (value : Value)
    (rest : List String) :
    valueAt? (Entries.set entries name value) (other :: rest) = valueAt? entries (other :: rest) := by
  by_cases more : rest = []
  · simp [more, valueAt?, Entries.get?_set_of_ne different]
  · simp only [valueAt?_cons _ _ more, nestedEntries_set_of_ne different]

/-- What was put at a path is found there. -/
theorem valueAt?_setAt_self (entries : Entries) (value : Value) {path : List String} (filled : path ≠ []) :
    valueAt? (setAt entries value path) path = some value := by
  induction path generalizing entries with
  | nil => exact absurd rfl filled
  | cons name rest ih =>
    by_cases more : rest = []
    · simp [more, setAt, valueAt?, Entries.get?_set_self]
    · rw [setAt_cons _ _ _ more, valueAt?_cons _ _ more, nestedEntries_set_self]
      exact ih _ more

/-- What is put behind a path makes its value a dictionary. -/
theorem valueAt?_setAt_of_prefix (entries : Entries) (value : Value) {path other : List String} (filled : other ≠ [])
    (before : other <+: path) (different : other ≠ path) :
    ∃ nested, valueAt? (setAt entries value path) other = some (.dict nested) := by
  induction path generalizing entries other with
  | nil => exact absurd (List.prefix_nil.1 before) filled
  | cons name rest ih =>
    cases other with
    | nil => exact absurd rfl filled
    | cons name' rest' =>
      obtain ⟨rfl, inner⟩ := List.cons_prefix_cons.1 before
      have more : rest ≠ [] := by
        rintro rfl
        exact different (by rw [List.prefix_nil.1 inner])
      rw [setAt_cons _ _ _ more]
      by_cases last : rest' = []
      · refine ⟨setAt (nestedEntries entries name') value rest, ?_⟩
        simp [last, valueAt?, Entries.get?_set_self]
      · rw [valueAt?_cons _ _ last, nestedEntries_set_self]
        exact ih _ last inner fun same => different (by rw [same])

/-- A value that is no dictionary has nothing behind it. -/
theorem valueAt?_setAt_of_extension (entries : Entries) {value : Value} (plain : ∀ nested, value ≠ .dict nested)
    {path other : List String} (filled : path ≠ []) (behind : path <+: other) (different : other ≠ path) :
    valueAt? (setAt entries value path) other = none := by
  induction path generalizing entries other with
  | nil => exact absurd rfl filled
  | cons name rest ih =>
    cases other with
    | nil => exact absurd (List.prefix_nil.1 behind) filled
    | cons name' rest' =>
      obtain ⟨rfl, inner⟩ := List.cons_prefix_cons.1 behind
      have more' : rest' ≠ [] := by
        rintro rfl
        exact different (by rw [List.prefix_nil.1 inner])
      rw [valueAt?_cons _ _ more']
      by_cases more : rest = []
      · have nothing : nestedEntries (setAt entries value [name]) name = [] := by
          cases value <;> simp_all [setAt, nestedEntries, Entries.get?_set_self]
        rw [more, nothing, valueAt?_no_entries]
      · rw [setAt_cons _ _ _ more, nestedEntries_set_self]
        exact ih _ more inner fun same => different (by rw [same])

/-- What is put at a path changes nothing at paths that it neither leads to nor through. -/
theorem valueAt?_setAt_of_not_comparable (entries : Entries) (value : Value) {path other : List String}
    (apart : ¬ Comparable path other) : valueAt? (setAt entries value path) other = valueAt? entries other := by
  induction path generalizing entries other with
  | nil => exact absurd (comparable_nil other).symm apart
  | cons name rest ih =>
    cases other with
    | nil => exact absurd (comparable_nil _) apart
    | cons name' rest' =>
      by_cases same : name = name'
      · subst same
        rw [comparable_cons] at apart
        have more : rest ≠ [] := fun none => apart (none ▸ (comparable_nil rest').symm)
        have more' : rest' ≠ [] := fun none => apart (none ▸ comparable_nil rest)
        rw [setAt_cons _ _ _ more, valueAt?_cons _ _ more', valueAt?_cons _ _ more', nestedEntries_set_self]
        exact ih _ apart
      · by_cases more : rest = []
        · simp only [more, setAt, valueAt?_set_of_ne same]
        · rw [setAt_cons _ _ _ more, valueAt?_set_of_ne same]

/-- A dictionary laid over an entry is laid over the dictionary that stands there, if there is one. -/
theorem overlay_dict_entry (base upper : Entries) (name : String) (whole : overlay [] upper = upper) :
    overlay base [(.text name, .dict upper)] =
      Entries.set base name (.dict (overlay (nestedEntries base name) upper)) := by
  simp only [overlay, overValue, nestedEntries, Entries.get?, Entries.set]
  cases Entries.find? base (.text name) with
  | none => simp [whole]
  | some held => cases held <;> simp [whole]

end Settings

end Stencil
