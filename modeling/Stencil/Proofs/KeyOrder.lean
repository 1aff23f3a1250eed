import Stencil.Proofs.Overlay

/-! Dictionaries that are the same but for the order of their keys.

Putting a value at a path keeps them so, and at two paths that do not touch each other values may be put in
either order: only keys that are new change places.
-/

set_option autoImplicit false

namespace Stencil

namespace Entries

/-- The same entries but for their order, in the dictionaries inside them as well. Only entries under
different texts change places. -/
inductive Reordered : Entries → Entries → Prop where
  | nil : Reordered [] []
  | keep (entry : Value × Value) {rest others : Entries} :
      Reordered rest others → Reordered (entry :: rest) (entry :: others)
  | inside (key : Value) {nested others : Entries} (rest : Entries) :
      Reordered nested others → Reordered ((key, .dict nested) :: rest) ((key, .dict others) :: rest)
  | swap {name other : String} (different : name ≠ other) (value held : Value) (rest : Entries) :
      Reordered ((.text name, value) :: (.text other, held) :: rest)
        ((.text other, held) :: (.text name, value) :: rest)
  | trans {first second third : Entries} :
      Reordered first second → Reordered second third → Reordered first third

theorem Reordered.refl : ∀ entries : Entries, Reordered entries entries
  | [] => .nil
  | entry :: rest => .keep entry (refl rest)

@[simp] theorem set_nil (name : String) (value : Value) : set [] name value = [(.text name, value)] := rfl

theorem set_cons (key held : Value) (rest : Entries) (name : String) (value : Value) :
    set ((key, held) :: rest) name value =
      if key.sameKey (.text name) then (key, value) :: rest else (key, held) :: set rest name value := rfl

theorem Reordered.set {entries others : Entries} (reordered : Reordered entries others) (name : String)
    (value : Value) : Reordered (set entries name value) (set others name value) := by
  induction reordered with
  | nil => exact .refl _
  | keep entry reordered ih =>
    obtain ⟨key, held⟩ := entry
    rw [set_cons, set_cons]
    split
    · exact .keep _ reordered
    · exact .keep _ ih
  | inside key rest reordered _ =>
    rw [set_cons, set_cons]
    split
    · exact .refl _
    · exact .inside key _ reordered
  | @swap one other different first second rest =>
    simp only [set_cons, Value.sameKey_text, beq_iff_eq]
    by_cases here : one = name
    · have there : other ≠ name := fun same => different (here.trans same.symm)
      simp only [here, there, if_true, if_false]
      exact .swap (fun same => there same.symm) value second rest
    · by_cases there : other = name
      · simp only [here, there, if_true, if_false]
        exact .swap here first value rest
      · simp only [here, there, if_false]
        exact .swap different first second _
  | trans _ _ first second => exact .trans first second

/-- A dictionary under a name may be reordered inside. -/
theorem Reordered.set_dict {nested others : Entries} (reordered : Reordered nested others) (entries : Entries)
    (name : String) :
    Reordered (Entries.set entries name (.dict nested)) (Entries.set entries name (.dict others)) := by
  induction entries with
  | nil => exact .inside _ [] reordered
  | cons entry rest ih =>
    obtain ⟨key, held⟩ := entry
    rw [set_cons, set_cons]
    split
    · exact .inside key rest reordered
    · exact .keep _ ih

/-- Values that are put under different names may be put in either order. -/
theorem reordered_set_set {name other : String} (different : name ≠ other) (entries : Entries)
    (value held : Value) :
    Reordered (set (set entries name value) other held) (set (set entries other held) name value) := by
  induction entries with
  | nil =>
    have apart : ((Value.text other).sameKey (.text name)) = false := by simpa [Value.sameKey_text] using different.symm
    have apart' : ((Value.text name).sameKey (.text other)) = false := by simpa [Value.sameKey_text] using different
    simp only [set_nil, set_cons, apart, apart', Bool.false_eq_true, if_false]
    exact .swap different value held []
  | cons entry rest ih =>
    obtain ⟨key, old⟩ := entry
    by_cases here : key.sameKey (.text name) = true
    · have there : key.sameKey (.text other) = false := Value.apart_text different key here
      simp only [set_cons, here, there, if_true, Bool.false_eq_true, if_false]
      exact .refl _
    · by_cases there : key.sameKey (.text other) = true
      · simp only [set_cons, here, there, if_true, Bool.false_eq_true, if_false]
        exact .refl _
      · simp only [set_cons, here, there, Bool.false_eq_true, if_false]
        exact .keep _ ih

end Entries

namespace Settings

open Entries (Reordered)

theorem nestedEntries_cons (key held : Value) (rest : Entries) (name : String) :
    nestedEntries ((key, held) :: rest) name =
      if key.sameKey (.text name) then held.entriesOrNone else nestedEntries rest name := by
  simp only [nestedEntries, Entries.get?, Entries.find?_cons]
  cases key.sameKey (.text name) with
  | true => cases held <;> rfl
  | false => rfl

theorem reordered_nestedEntries {entries others : Entries} (reordered : Reordered entries others) (name : String) :
    Reordered (nestedEntries entries name) (nestedEntries others name) := by
  induction reordered with
  | nil => exact .refl _
  | keep entry _ ih =>
    rw [nestedEntries_cons, nestedEntries_cons]
    split
    · exact .refl _
    · exact ih
  | inside key rest reordered _ =>
    rw [nestedEntries_cons, nestedEntries_cons]
    split
    · exact reordered
    · exact .refl _
  | @swap one other different first second rest =>
    simp only [nestedEntries_cons, Value.sameKey_text, beq_iff_eq]
    by_cases here : one = name
    · have there : other ≠ name := fun same => different (here.trans same.symm)
      simp only [here, there, if_true, if_false]
      exact .refl _
    · simp only [here, if_false]
      exact .refl _
  | trans _ _ first second => exact .trans first second

/-- What is put under the first name of a path: the value, or what stands there with the value put into it. -/
def placed (nested : Entries) (value : Value) : List String → Value
  | [] => value
  | rest => .dict (setAt nested value rest)

theorem setAt_eq_set (entries : Entries) (value : Value) (name : String) (rest : List String) :
    setAt entries value (name :: rest) = Entries.set entries name (placed (nestedEntries entries name) value rest) := by
  cases rest <;> rfl

/-- Putting a value at a path does not depend on the order of keys. -/
theorem reordered_setAt {entries others : Entries} (reordered : Reordered entries others) (value : Value)
    (path : List String) : Reordered (setAt entries value path) (setAt others value path) := by
  induction path generalizing entries others with
  | nil => exact reordered
  | cons name rest ih =>
    by_cases more : rest = []
    · subst more
      exact reordered.set name value
    · rw [setAt_cons _ _ _ more, setAt_cons _ _ _ more]
      exact .trans ((ih (reordered_nestedEntries reordered name)).set_dict entries name) (reordered.set name _)

/-- At paths that do not touch each other values may be put in either order. -/
theorem reordered_setAt_setAt {path other : List String} (apart : ¬ Comparable path other) (entries : Entries)
    (value held : Value) :
    Reordered (setAt (setAt entries value path) held other) (setAt (setAt entries held other) value path) := by
  induction path generalizing entries other with
  | nil => exact absurd (comparable_nil other).symm apart
  | cons name rest ih =>
    cases other with
    | nil => exact absurd (comparable_nil _) apart
    | cons name' rest' =>
      by_cases same : name = name'
      · subst same
        rw [comparable_cons] at apart
        have more : rest ≠ [] := fun none => apart (none ▸ (comparable_nil rest').symm)
        have more' : rest' ≠ [] := fun none => apart (none ▸ comparable_nil rest)
        simp only [setAt_cons _ _ _ more, setAt_cons _ _ _ more', nestedEntries_set_self, Entries.set_set]
        exact (ih apart (nestedEntries entries name)).set_dict entries name
      · simp only [setAt_eq_set, nestedEntries_set_of_ne same, nestedEntries_set_of_ne (Ne.symm same)]
        exact Entries.reordered_set_set same entries _ _

end Settings

end Stencil
