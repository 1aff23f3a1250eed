import Mathlib.Data.List.Nodup
import Stencil.Proofs.Overlay

/-! Dictionaries whose keys are texts, each of them once.

Every entry of such a dictionary is found under its key, and putting its entries together one after
the other gives the dictionary again.
-/

set_option autoImplicit false

namespace Stencil.Entries

/-- The keys are texts, and no two of them are the same. -/
structure TextKeyed (entries : Entries) : Prop where
  texts : ∀ key ∈ entries.keys, ∃ name, key = .text name
  distinct : entries.keys.Nodup

theorem textKeyed_nil : TextKeyed [] where
  texts := by simp [keys]
  distinct := List.nodup_nil

theorem textKeyed_cons {key : Value} {value : Value} {rest : Entries} :
    TextKeyed ((key, value) :: rest) ↔ (∃ name, key = .text name) ∧ key ∉ rest.keys ∧ TextKeyed rest := by
  constructor
  · rintro ⟨texts, distinct⟩
    obtain ⟨first, others⟩ := List.forall_mem_cons.1 texts
    obtain ⟨new, distinct⟩ := List.nodup_cons.1 distinct
    exact ⟨first, new, others, distinct⟩
  · rintro ⟨first, new, others, distinct⟩
    exact ⟨List.forall_mem_cons.2 ⟨first, others⟩, List.nodup_cons.2 ⟨new, distinct⟩⟩

/-- What stands under a text is found under it. -/
theorem TextKeyed.get?_of_mem {entries : Entries} (keyed : TextKeyed entries) {name : String} {value : Value}
    (among : (Value.text name, value) ∈ entries) : get? entries name = some value := by
  unfold get?
  induction entries with
  | nil => simp at among
  | cons entry rest ih =>
    obtain ⟨key, held⟩ := entry
    obtain ⟨⟨other, rfl⟩, new, keyed⟩ := textKeyed_cons.1 keyed
    rw [find?_cons]
    rcases List.mem_cons.1 among with here | later
    · cases here
      simp [Value.sameKey_text]
    · have different : other ≠ name := by
        rintro rfl
        exact new (List.mem_map.2 ⟨_, later, rfl⟩)
      simpa [Value.sameKey_text, different] using ih keyed later

theorem TextKeyed.mem_of_get? {entries : Entries} (keyed : TextKeyed entries) {name : String} {value : Value}
    (found : get? entries name = some value) : (Value.text name, value) ∈ entries := by
  obtain ⟨⟨key, held⟩, first, rfl⟩ := Option.map_eq_some_iff.1 found
  have same := List.find?_some first
  have among := List.mem_of_find?_eq_some first
  obtain ⟨other, rfl⟩ := keyed.texts key (List.mem_map.2 ⟨_, among, rfl⟩)
  rw [Value.sameKey_text, beq_iff_eq] at same
  exact same ▸ among

theorem put_of_absent {entries : Entries} {name : String} (keyed : TextKeyed entries)
    (absent : Value.text name ∉ entries.keys) (value : Value) :
    put (.text name) value entries = entries ++ [(.text name, value)] := by
  induction entries with
  | nil => rfl
  | cons entry rest ih =>
    obtain ⟨key, held⟩ := entry
    obtain ⟨⟨other, rfl⟩, -, keyed⟩ := textKeyed_cons.1 keyed
    simp only [keys, List.map_cons, List.mem_cons, Value.text.injEq, not_or] at absent
    have different : other ≠ name := Ne.symm absent.1
    simp [put, Value.sameKey_text, different, ih keyed absent.2]

theorem keys_append (entries others : Entries) : keys (entries ++ others) = entries.keys ++ others.keys :=
  List.map_append

theorem TextKeyed.front {entries others : Entries} (keyed : TextKeyed (entries ++ others)) : TextKeyed entries := by
  obtain ⟨texts, distinct⟩ := keyed
  rw [keys_append] at texts distinct
  exact ⟨fun key among => texts key (List.mem_append_left _ among), (List.nodup_append.1 distinct).1⟩

-- A key is new to the entries before it.
theorem TextKeyed.absent_front {entries rest : Entries} {key value : Value}
    (keyed : TextKeyed (entries ++ (key, value) :: rest)) : key ∉ entries.keys := by
  have distinct := keyed.distinct
  rw [keys_append] at distinct
  exact fun early => (List.nodup_append.1 distinct).2.2 key early key List.mem_cons_self rfl

theorem TextKeyed.update_append {entries others : Entries} (keyed : TextKeyed (entries ++ others)) :
    update entries others = entries ++ others := by
  unfold update
  induction others generalizing entries with
  | nil => simp
  | cons entry rest ih =>
    obtain ⟨key, value⟩ := entry
    obtain ⟨name, rfl⟩ := keyed.texts key (by simp [keys])
    have whole : entries ++ (Value.text name, value) :: rest = (entries ++ [(.text name, value)]) ++ rest := by simp
    rw [List.foldl_cons, put_of_absent keyed.front keyed.absent_front, whole]
    exact ih (whole ▸ keyed)

theorem update_cons (entries : Entries) (name : String) (value : Value) (rest : Entries) :
    update entries ((.text name, value) :: rest) = update (set entries name value) rest := rfl

/-- What is put over a dictionary does not hide what it has under other keys. -/
theorem TextKeyed.find?_update_of_apart {others : Entries} (keyed : TextKeyed others) {key : Value}
    (apart : ∀ name, .text name ∈ others.keys → (Value.text name).Apart key) (entries : Entries) :
    find? (update entries others) key = find? entries key := by
  induction others generalizing entries with
  | nil => rfl
  | cons entry rest ih =>
    obtain ⟨other, value⟩ := entry
    obtain ⟨⟨name, rfl⟩, -, keyed⟩ := textKeyed_cons.1 keyed
    rw [update_cons, ih keyed fun name later => apart name (List.mem_cons_of_mem _ later)]
    exact find?_set_of_apart (apart name List.mem_cons_self) entries value

/-- What is put over a dictionary is found in it. -/
theorem TextKeyed.get?_update_of_mem {others : Entries} (keyed : TextKeyed others) {name : String} {value : Value}
    (among : (Value.text name, value) ∈ others) (entries : Entries) :
    get? (update entries others) name = some value := by
  induction others generalizing entries with
  | nil => simp at among
  | cons entry rest ih =>
    obtain ⟨other, held⟩ := entry
    obtain ⟨⟨first, rfl⟩, new, keyedRest⟩ := textKeyed_cons.1 keyed
    rw [update_cons]
    rcases List.mem_cons.1 among with here | later
    · cases here
      have apart (later : String) (found : Value.text later ∈ keys rest) : (Value.text later).Apart (.text name) :=
        Value.apart_text fun same => new (same ▸ found)
      rw [get?, keyedRest.find?_update_of_apart apart]
      exact get?_set_self entries name value
    · exact ih keyedRest later _

-- Entries with different texts as keys are a dictionary as they stand.
theorem TextKeyed.ofPairs {entries : Entries} (keyed : TextKeyed entries) : ofPairs entries = entries :=
  @TextKeyed.update_append [] entries keyed

end Stencil.Entries
