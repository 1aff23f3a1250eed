import Mathlib.Logic.Basic
import Stencil.Value.Basic

/-! When keys are the same.

Where keys are the same as anything, being the same is an equivalence: a key takes over what the keys that are
the same as it are the same as. A number that is none, and whatever cannot be a key, is not even the same as itself.
So what is found under a key after one was put is told by whether the two are the same.
-/

set_option autoImplicit false

namespace Stencil

/-- Whether two numbers are there and compare equal. -/
def sameNumbers : Option NumberKey → Option NumberKey → Bool
  | some x, some y => x == y
  | _, _ => false

/-- A number is the same as the numbers that compare equal, and as nothing else. -/
theorem Value.sameKey_of_number {a : Value} {x : NumberKey} (number : a.numberKey? = some x) (b : Value) :
    a.sameKey b = (b.numberKey? == some x) := by
  have unfolded : a.sameKey b = sameNumbers a.numberKey? b.numberKey? := by
    cases a with
    | bool _ => cases b <;> rfl
    | int _ => cases b <;> rfl
    | float _ => cases b <;> rfl
    | _ => cases number
  rw [unfolded, number]
  cases b.numberKey? <;> simp [sameNumbers, BEq.comm]

-- An error code is the same as whatever its text is the same as.
theorem Value.sameKey_code (code : ErrorCode) (b : Value) :
    (Value.object (.code code)).sameKey b = (Value.text code.text).sameKey b := by
  cases b with
  | object o =>
    cases o with
    | code other => cases code <;> cases other <;> decide
    | _ => simp [sameKey, numberKey?]
  | _ => simp [sameKey, numberKey?]

theorem Moment.same_self (m : Moment) : m.same m = true := by
  unfold same
  cases m.offset? <;> simp

/-- Moments that are the same are the same as the same moments. -/
theorem Moment.same_congr {m n : Moment} (same : m.same n = true) (other : Moment) : m.same other = n.same other := by
  unfold Moment.same at *
  cases here : m.offset? <;> cases there : n.offset? <;> cases place : other.offset?
  case some.some.none =>
    have apart : m ≠ other := fun eq => by simp [eq, place] at here
    have apart' : n ≠ other := fun eq => by simp [eq, place] at there
    simp [apart, apart']
  all_goals simp_all

mutual
/-- Keys that are the same are the same as the same keys. -/
theorem Value.sameKey_congr {a b : Value} (same : a.sameKey b = true) (c : Value) : a.sameKey c = b.sameKey c := by
  rw [sameKey.eq_def] at same
  -- One case for each way in which keys can be the same; numbers are the last.
  split at same
  · rfl
  · rfl
  · rw [beq_iff_eq.1 same]
  · rw [sameKey_code, beq_iff_eq.1 same]
  · rw [sameKey_code, beq_iff_eq.1 same]
  · cases c with
    | object o =>
      cases o with
      | moment other => simpa only [sameKey] using Moment.same_congr same other
      | _ => simp [sameKey]
    | _ => simp [sameKey, numberKey?]
  · rw [beq_iff_eq.1 same]
  · rename_i items others
    cases c with
    | tuple further => simpa only [sameKey] using sameKeys_congr same further
    | object o => cases o <;> simp [sameKey, numberKey?]
    | _ => simp [sameKey, numberKey?]
  · split at same
    · rename_i here there
      rw [sameKey_of_number here, sameKey_of_number there, beq_iff_eq.1 same]
    · cases same
termination_by sizeOf a
theorem Value.sameKeys_congr {items others : List Value} (same : sameKeys items others = true) (further : List Value) :
    sameKeys items further = sameKeys others further := by
  match items, others, further with
  | [], [], _ => rfl
  | a :: as, b :: bs, [] => rfl
  | a :: as, b :: bs, c :: cs =>
    simp only [sameKeys, Bool.and_eq_true] at same ⊢
    rw [sameKey_congr same.1 c, sameKeys_congr same.2 cs]
termination_by sizeOf items
end

mutual
/-- A key that is the same as any key is the same as itself. -/
theorem Value.sameKey_self {a b : Value} (same : a.sameKey b = true) : a.sameKey a = true := by
  rw [sameKey.eq_def] at same
  split at same
  · rfl
  · rfl
  · simp [sameKey]
  · simp [sameKey]
  · simp [sameKey]
  · simpa only [sameKey] using Moment.same_self _
  · rename_i o p _
    cases o <;> simp [sameKey, Moment.same_self]
  · simpa only [sameKey] using sameKeys_self same
  · split at same
    · rename_i here there
      rw [sameKey_of_number here, here]
      simp
    · cases same
termination_by sizeOf a
theorem Value.sameKeys_self {items others : List Value} (same : sameKeys items others = true) :
    sameKeys items items = true := by
  match items, others with
  | [], [] => rfl
  | a :: as, b :: bs =>
    simp only [sameKeys, Bool.and_eq_true] at same ⊢
    exact ⟨sameKey_self same.1, sameKeys_self same.2⟩
termination_by sizeOf items
end

theorem Value.sameKey_symm {a b : Value} (same : a.sameKey b = true) : b.sameKey a = true :=
  sameKey_congr same a ▸ sameKey_self same

namespace Entries

variable {key other : Value}

theorem find?_cons (entry : Value × Value) (entries : Entries) (key : Value) :
    find? (entry :: entries) key = if entry.1.sameKey key then some entry.2 else find? entries key := by
  simp only [find?, List.find?_cons]
  cases entry.1.sameKey key <;> rfl

theorem find?_congr (same : key.sameKey other = true) (entries : Entries) :
    find? entries key = find? entries other := by
  unfold find?
  congr 1
  refine congrArg (List.find? · entries) (funext fun entry => ?_)
  rw [Bool.eq_iff_iff]
  constructor
  · exact fun found => (Value.sameKey_congr found other).trans same
  · exact fun found => (Value.sameKey_congr found key).trans (Value.sameKey_symm same)

/-- What is put under a key is found under all that are the same as it, and nothing else is found otherwise. -/
theorem find?_put (key value other : Value) (entries : Entries) :
    find? (put key value entries) other = if key.sameKey other then some value else find? entries other := by
  induction entries with
  | nil => simp [put, find?_cons]
  | cons entry rest ih =>
    obtain ⟨held, old⟩ := entry
    rw [put]
    split
    · rename_i here
      rw [find?_cons, find?_cons, Value.sameKey_congr here other]
      split <;> rfl
    · rename_i there
      rw [find?_cons, find?_cons, ih]
      by_cases first : held.sameKey other = true
      · have apart : ¬ key.sameKey other = true := fun second =>
          there (by rw [Value.sameKey_congr first key, Value.sameKey_symm second])
        simp [first, apart]
      · simp [first]

end Entries

end Stencil
