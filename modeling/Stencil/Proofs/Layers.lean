import Stencil.Proofs.Overrides

/-! Laying one dictionary over another, along rows of keys.

At every row of keys the upper dictionary counts as far as it says something: a value that is no dictionary
replaces what the lower one has there and behind, a dictionary is laid over the dictionary that stands there, and
where the upper dictionary says nothing the lower one shows. Keys keep their places, and new ones follow in order.
-/

set_option autoImplicit false

namespace Stencil

namespace Value

/-- A property of a dictionary and of all dictionaries that rows of keys lead to in it. -/
def Everywhere (p : Entries → Prop) (value : Value) : Prop :=
  ∀ path entries, value.along? path = some (.dict entries) → p entries

theorem along?_plain {value : Value} (plain : ∀ nested, value ≠ .dict nested) {path : List Value} (more : path ≠ []) :
    value.along? path = none := by
  obtain ⟨key, keys, rfl⟩ := List.exists_cons_of_ne_nil more
  cases value with
  | dict nested => exact absurd rfl (plain nested)
  | _ => rfl

theorem along?_append (value : Value) (front rest : List Value) :
    value.along? (front ++ rest) = (value.along? front).bind (·.along? rest) := by
  induction front generalizing value with
  | nil => rfl
  | cons key keys ih =>
    cases value with
    | dict entries =>
      simp only [List.cons_append, along?]
      cases Entries.find? entries key with
      | none => rfl
      | some held => exact ih held
    | _ => rfl

theorem Everywhere.here {p : Entries → Prop} {entries : Entries} (all : (Value.dict entries).Everywhere p) :
    p entries :=
  all [] entries rfl

theorem Everywhere.inside {p : Entries → Prop} {entries : Entries} {key value : Value}
    (all : (Value.dict entries).Everywhere p) (found : Entries.find? entries key = some value) :
    value.Everywhere p := by
  intro path nested leads
  exact all (key :: path) nested (by simpa [along?, found] using leads)

theorem everywhere_plain {p : Entries → Prop} {value : Value} (plain : ∀ nested, value ≠ .dict nested) :
    value.Everywhere p := by
  intro path entries leads
  cases path with
  | nil => exact absurd (Option.some.inj leads) (plain entries)
  | cons key keys => simp [along?_plain plain] at leads

theorem everywhere_dict {p : Entries → Prop} {entries : Entries} (here : p entries)
    (inside : ∀ entry ∈ entries, entry.2.Everywhere p) : (Value.dict entries).Everywhere p := by
  intro path nested leads
  cases path with
  | nil =>
    cases leads
    exact here
  | cons key keys =>
    obtain ⟨value, found, leads⟩ := Option.bind_eq_some_iff.1 leads
    obtain ⟨entry, first, rfl⟩ := Option.map_eq_some_iff.1 found
    exact inside entry (List.mem_of_find?_eq_some first) keys nested leads

end Value

namespace Entries

/-- No two keys of a dictionary are the same. -/
def Apart (entries : Entries) : Prop :=
  entries.keys.Pairwise fun one other => one.sameKey other = false

/-- Every key of a dictionary is the same as itself. -/
def Reflexive (entries : Entries) : Prop :=
  ∀ key ∈ entries.keys, key.sameKey key = true

instance (entries : Entries) : Decidable entries.Apart :=
  inferInstanceAs (Decidable (List.Pairwise _ _))

instance (entries : Entries) : Decidable entries.Reflexive :=
  inferInstanceAs (Decidable (∀ key ∈ _, _))

section Keys

variable {entries : Entries} {key other : Value}

theorem find?_eq_none_iff : find? entries key = none ↔ ∀ held ∈ entries.keys, held.sameKey key = false := by
  simp [find?, keys]

theorem Apart.find?_of_mem {value : Value} (apart : Apart entries) (reflexive : Reflexive entries)
    (among : (key, value) ∈ entries) : find? entries key = some value := by
  induction entries with
  | nil => cases among
  | cons entry rest ih =>
    obtain ⟨first, others⟩ := List.pairwise_cons.1 apart
    rw [find?_cons]
    rcases List.mem_cons.1 among with here | later
    · cases here
      rw [if_pos (reflexive key List.mem_cons_self)]
    · rw [first key (List.mem_map.2 ⟨_, later, rfl⟩)]
      exact ih others (fun held within => reflexive held (List.mem_cons_of_mem _ within)) later

-- A key that is found is the same as the first key of some entries, so it is not found behind that.
theorem Apart.find?_rest {entry : Value × Value} {rest : Entries} (apart : Apart (entry :: rest))
    (same : entry.1.sameKey key = true) : find? rest key = none := by
  rw [find?_eq_none_iff]
  intro held within
  have different := (List.pairwise_cons.1 apart).1 held within
  rw [Bool.eq_false_iff] at different ⊢
  exact fun found => different (by rw [Value.sameKey_congr same held, Value.sameKey_symm found])

theorem put_of_find? {value : Value} (found : find? entries key = some value) : put key value entries = entries := by
  induction entries with
  | nil => cases found
  | cons entry rest ih =>
    obtain ⟨held, old⟩ := entry
    rw [find?_cons] at found
    rw [put]
    split at found
    · rename_i here
      cases found
      rw [if_pos here]
    · rename_i there
      rw [if_neg there, ih found]

theorem put_of_find?_none (absent : find? entries key = none) (value : Value) :
    put key value entries = entries ++ [(key, value)] := by
  induction entries with
  | nil => rfl
  | cons entry rest ih =>
    obtain ⟨held, old⟩ := entry
    rw [find?_cons] at absent
    split at absent
    · cases absent
    · rename_i there
      rw [put, if_neg there, ih absent, List.cons_append]

theorem keys_put (key value : Value) (entries : Entries) :
    (put key value entries).keys = if (find? entries key).isSome then entries.keys else entries.keys ++ [key] := by
  induction entries with
  | nil => rfl
  | cons entry rest ih =>
    obtain ⟨held, old⟩ := entry
    rw [put, find?_cons]
    by_cases here : held.sameKey key = true
    · simp [here, keys]
    · simp only [keys] at ih
      simp only [here, Bool.false_eq_true, if_false, keys, List.map_cons, ih]
      split <;> rfl

end Keys

end Entries

namespace Settings

open Entries (find? put)

section Values

theorem overValue_plain {value : Value} (plain : ∀ nested, value ≠ .dict nested) (base? : Option Value) :
    overValue base? value = value := by
  cases value with
  | dict nested => exact absurd rfl (plain nested)
  | _ => simp [overValue]

@[simp] theorem overValue_dict_dict (base upper : Entries) :
    overValue (some (.dict base)) (.dict upper) = .dict (overlay base upper) := by
  simp [overValue]

theorem overValue_of_no_dict {base? : Option Value} (none : ∀ nested, base? ≠ some (.dict nested)) (value : Value) :
    overValue base? value = value := by
  cases value with
  | dict upper =>
    cases base? with
    | none => simp [overValue]
    | some held => cases held <;> simp_all [overValue]
  | _ => simp [overValue]

end Values

variable {base upper : Entries}

/-- What is found under a key is what the upper dictionary has there, laid over what the lower one has. -/
theorem find?_overlay (apart : upper.Apart) (base : Entries) (key : Value) :
    find? (overlay base upper) key =
      match find? upper key with
      | none => find? base key
      | some value => some (overValue (find? base key) value) := by
  induction upper generalizing base with
  | nil => simp
  | cons entry rest ih =>
    obtain ⟨first, value⟩ := entry
    rw [overlay, ih (List.pairwise_cons.1 apart).2, Entries.find?_put, Entries.find?_cons]
    by_cases same : first.sameKey key = true
    · simp only [apart.find?_rest same, same, if_true, Entries.find?_congr same base]
    · simp only [same, Bool.false_eq_true, if_false]

/-- Keys keep their places, and those that only the upper dictionary has follow in its order. -/
theorem keys_overlay (apart : upper.Apart) (base : Entries) :
    (overlay base upper).keys = base.keys ++ upper.keys.filter fun key => (find? base key).isNone := by
  induction upper generalizing base with
  | nil => simp [Entries.keys]
  | cons entry rest ih =>
    obtain ⟨first, value⟩ := entry
    obtain ⟨different, others⟩ := List.pairwise_cons.1 apart
    have unchanged : ∀ key ∈ Entries.keys rest,
        find? (put first (overValue (find? base first) value) base) key = find? base key := by
      intro key within
      rw [Entries.find?_put, different key within]
      rfl
    have filtered : (Entries.keys rest).filter (fun key =>
          (find? (put first (overValue (find? base first) value) base) key).isNone) =
        (Entries.keys rest).filter fun key => (find? base key).isNone :=
      List.filter_congr fun key within => by rw [unchanged key within]
    rw [overlay, ih others, filtered, Entries.keys_put]
    cases held : find? base first with
    | none => simp [Entries.keys, held]
    | some old => simp [Entries.keys, held]

section Rows

variable {path : List Value}

theorem along?_found {value : Value} (apart : (Value.dict upper).Everywhere Entries.Apart)
    (said : (Value.dict upper).along? path = some value) :
    (Value.dict (overlay base upper)).along? path = some (overValue ((Value.dict base).along? path) value) := by
  induction path generalizing base upper with
  | nil =>
    cases said
    simp [Value.along?]
  | cons key keys ih =>
    obtain ⟨held, found, leads⟩ := Option.bind_eq_some_iff.1 said
    simp only [Value.along?, find?_overlay apart.here base key, found, Option.bind_some]
    by_cases dict : ∃ nested, held = .dict nested
    · obtain ⟨nested, rfl⟩ := dict
      by_cases both : ∃ lower, find? base key = some (.dict lower)
      · obtain ⟨lower, there⟩ := both
        rw [there, overValue_dict_dict]
        exact ih (apart.inside found) leads
      · have alone : ∀ lower, find? base key ≠ some (.dict lower) := fun lower there => both ⟨lower, there⟩
        rw [overValue_of_no_dict alone, leads, overValue_of_no_dict]
        -- What stands in the way below has no dictionary behind it.
        intro lower there
        obtain ⟨low, below, lowLeads⟩ := Option.bind_eq_some_iff.1 there
        cases keys with
        | nil => exact alone lower (below.trans lowLeads)
        | cons _ _ =>
          rw [Value.along?_plain (fun nested dict => alone nested (dict ▸ below)) (by simp)] at lowLeads
          cases lowLeads
    · have plain : ∀ nested, held ≠ .dict nested := fun nested eq => dict ⟨nested, eq⟩
      cases keys with
      | nil =>
        cases leads
        simp [Value.along?, overValue_plain plain]
      | cons _ _ =>
        rw [Value.along?_plain plain (by simp)] at leads
        cases leads

/-- A row of keys on which the upper dictionary says nothing, not even by a value that stands in the way. -/
def Silent (upper : Entries) (path : List Value) : Prop :=
  (Value.dict upper).along? path = none ∧
    ∀ front value, front <+: path → front ≠ path → (Value.dict upper).along? front = some value →
      ∃ nested, value = .dict nested

theorem Silent.inside {key : Value} {keys : List Value} {nested : Entries} (silent : Silent upper (key :: keys))
    (found : find? upper key = some (.dict nested)) : Silent nested keys := by
  obtain ⟨nothing, fronts⟩ := silent
  refine ⟨by simpa [Value.along?, found] using nothing, fun front value before proper leads => ?_⟩
  refine fronts (key :: front) value (List.cons_prefix_cons.2 ⟨rfl, before⟩) (by simpa using proper) ?_
  simpa [Value.along?, found] using leads

theorem along?_silent (apart : (Value.dict upper).Everywhere Entries.Apart) (silent : Silent upper path) :
    (Value.dict (overlay base upper)).along? path = (Value.dict base).along? path := by
  induction path generalizing base upper with
  | nil => cases silent.1
  | cons key keys ih =>
    simp only [Value.along?, find?_overlay apart.here base key]
    cases found : find? upper key with
    | none => rfl
    | some held =>
      have more : keys ≠ [] := by
        rintro rfl
        simp [Silent, Value.along?, found] at silent
      obtain ⟨nested, rfl⟩ : ∃ nested, held = .dict nested :=
        silent.2 [key] held (by simp) (by simpa using more.symm) (by simp [Value.along?, found])
      by_cases both : ∃ lower, find? base key = some (.dict lower)
      · obtain ⟨lower, there⟩ := both
        simp only [there, overValue_dict_dict, Option.bind_some]
        exact ih (apart.inside found) (silent.inside found)
      · have alone : ∀ lower, find? base key ≠ some (.dict lower) := fun lower there => both ⟨lower, there⟩
        simp only [overValue_of_no_dict alone, Option.bind_some, (silent.inside found).1]
        rw [eq_comm, Option.bind_eq_none_iff]
        exact fun low below => Value.along?_plain (fun nested dict => alone nested (dict ▸ below)) more

theorem along?_hidden {front : List Value} {value : Value} (apart : (Value.dict upper).Everywhere Entries.Apart)
    (before : front <+: path) (proper : front ≠ path) (said : (Value.dict upper).along? front = some value)
    (plain : ∀ nested, value ≠ .dict nested) : (Value.dict (overlay base upper)).along? path = none := by
  obtain ⟨rest, rfl⟩ := before
  have more : rest ≠ [] := by simpa using proper
  rw [Value.along?_append, along?_found apart said, overValue_plain plain, Option.bind_some,
    Value.along?_plain plain more]

end Rows

section Twice

theorem overlay_fresh (apart : upper.Apart) (fresh : ∀ key ∈ upper.keys, find? base key = none) :
    overlay base upper = base ++ upper := by
  induction upper generalizing base with
  | nil => simp
  | cons entry rest ih =>
    obtain ⟨first, value⟩ := entry
    obtain ⟨different, others⟩ := List.pairwise_cons.1 apart
    obtain ⟨absent, later⟩ := List.forall_mem_cons.1 fresh
    rw [overlay, absent, overValue_of_no_dict (by simp), ih others, Entries.put_of_find?_none absent]
    · simp
    · intro key within
      rw [Entries.find?_put, different key within]
      exact later key within

theorem overlay_nothing_below (apart : upper.Apart) : overlay [] upper = upper :=
  overlay_fresh apart fun _ _ => rfl

/-- A dictionary that holds all that is laid over it stays as it is. -/
theorem overlay_of_held (held : ∀ entry ∈ upper, ∃ value, find? base entry.1 = some value ∧
    overValue (some value) entry.2 = value) : overlay base upper = base := by
  induction upper with
  | nil => simp
  | cons entry rest ih =>
    obtain ⟨first, value⟩ := entry
    obtain ⟨⟨old, found, same⟩, later⟩ := List.forall_mem_cons.1 held
    rw [overlay, found, same, Entries.put_of_find? found]
    exact ih later

/-- What was laid over a dictionary changes nothing when it is laid over it again. -/
theorem overlay_overlay (base upper : Entries) (apart : (Value.dict upper).Everywhere Entries.Apart)
    (reflexive : (Value.dict upper).Everywhere Entries.Reflexive) :
    overlay (overlay base upper) upper = overlay base upper := by
  refine overlay_of_held fun entry within => ?_
  obtain ⟨key, value⟩ := entry
  have found : find? upper key = some value := apart.here.find?_of_mem reflexive.here within
  refine ⟨overValue (find? base key) value, by rw [find?_overlay apart.here, found], ?_⟩
  cases value with
  | dict nested =>
    have again (lower : Entries) : overlay (overlay lower nested) nested = overlay lower nested :=
      overlay_overlay lower nested (apart.inside found) (reflexive.inside found)
    by_cases both : ∃ lower, find? base key = some (.dict lower)
    · obtain ⟨lower, there⟩ := both
      rw [there, overValue_dict_dict, overValue_dict_dict, again]
    · have self : overlay nested nested = nested := by
        simpa only [overlay_nothing_below (apart.inside found).here] using again []
      rw [overValue_of_no_dict fun lower there => both ⟨lower, there⟩, overValue_dict_dict, self]
  | _ => rw [overValue_plain (by simp), overValue_plain (by simp)]
termination_by sizeOf upper
decreasing_by
  have smaller := List.sizeOf_lt_of_mem within
  simp +arith only [Prod.mk.sizeOf_spec, Value.dict.sizeOf_spec] at smaller ⊢
  omega

end Twice

/-- Of two dictionaries that are laid over each other the upper one counts as far as it says something. A value that is
no dictionary stands where it stands there, with nothing behind it, and so does a dictionary over which the lower one
has none. Two dictionaries in the same place are laid over each other: the keys of the lower one keep their places, and
the new ones of the upper one follow in their order. Where the upper one is silent, the lower one shows.

So an empty dictionary changes nothing above or below. Where every key is the same as itself, a dictionary changes
nothing above itself, nor above a dictionary that it was laid over before. (A key that equals nothing is found again
only as one and the same object, and which object it is a value does not tell.) -/
theorem upper_counts_along_rows (base : Entries) (apart : (Value.dict upper).Everywhere Entries.Apart) :
    (∀ path value, (∀ nested, value ≠ .dict nested) → (Value.dict upper).along? path = some value →
        (Value.dict (overlay base upper)).along? path = some value) ∧
      (∀ path nested, (Value.dict upper).along? path = some (.dict nested) →
        (∀ lower, (Value.dict base).along? path ≠ some (.dict lower)) →
        (Value.dict (overlay base upper)).along? path = some (.dict nested)) ∧
      (∀ path (nested lower : Entries), (Value.dict upper).along? path = some (.dict nested) →
        (Value.dict base).along? path = some (.dict lower) →
        ∃ both : Entries, (Value.dict (overlay base upper)).along? path = some (.dict both) ∧
          both.keys = lower.keys ++ nested.keys.filter fun key => (find? lower key).isNone) ∧
      (∀ path, Silent upper path →
        (Value.dict (overlay base upper)).along? path = (Value.dict base).along? path) ∧
      (∀ path front value, front <+: path → front ≠ path → (Value.dict upper).along? front = some value →
        (∀ nested, value ≠ .dict nested) → (Value.dict (overlay base upper)).along? path = none) ∧
      overlay base [] = base ∧ overlay [] upper = upper ∧
      ((Value.dict upper).Everywhere Entries.Reflexive →
        overlay upper upper = upper ∧ overlay (overlay base upper) upper = overlay base upper) := by
  refine ⟨?_, ?_, ?_, ?_, ?_, overlay_nil base, overlay_nothing_below apart.here, ?_⟩
  · intro path value plain said
    rw [along?_found apart said, overValue_plain plain]
  · intro path nested said alone
    rw [along?_found apart said, overValue_of_no_dict alone]
  · intro path nested lower said below
    refine ⟨overlay lower nested, ?_, keys_overlay (apart path nested said) lower⟩
    rw [along?_found apart said, below, overValue_dict_dict]
  · exact fun path silent => along?_silent apart silent
  · exact fun path front value before proper said plain => along?_hidden apart before proper said plain
  · intro reflexive
    have again := overlay_overlay [] upper apart reflexive
    rw [overlay_nothing_below apart.here] at again
    exact ⟨again, overlay_overlay base upper apart reflexive⟩

def lowerLayer : Entries :=
  [(.text "app", .dict [(.text "product", .text "old"), (.int 1, .text "one")]),
    (.text "log", .dict [(.text "level", .text "INFO")])]

/-- A text where the lower layer has a dictionary, and a truth value that is the same key as its number. -/
def upperLayer : Entries :=
  [(.text "log", .text "off"), (.text "app", .dict [(.text "env", .text "test"), (.bool true, .text "true")])]

/-- The text hides the dictionary, and the truth value takes the place of the number, which stays the key. -/
theorem upper_counts_along_rows_mixed : (Value.dict upperLayer).Everywhere Entries.Apart ∧
    (Value.dict upperLayer).Everywhere Entries.Reflexive ∧
    (Value.dict (overlay lowerLayer upperLayer)).along? [.text "log"] = some (.text "off") ∧
    (Value.dict (overlay lowerLayer upperLayer)).along? [.text "log", .text "level"] = none ∧
    (Value.dict (overlay lowerLayer upperLayer)).along? [.text "app", .text "product"] = some (.text "old") ∧
    (∃ both : Entries, (Value.dict (overlay lowerLayer upperLayer)).along? [.text "app"] = some (.dict both) ∧
      both.keys = [.text "product", .int 1, .text "env"]) ∧
    overlay (overlay lowerLayer upperLayer) upperLayer = overlay lowerLayer upperLayer := by
  have inner {p : Entries → Prop} (here : p [(.text "env", .text "test"), (.bool true, .text "true")]) :
      ∀ entry ∈ upperLayer, entry.2.Everywhere p := by
    intro entry among
    simp only [upperLayer, List.mem_cons, List.not_mem_nil, or_false] at among
    rcases among with rfl | rfl
    · exact Value.everywhere_plain (by simp)
    · refine Value.everywhere_dict here fun entry among => Value.everywhere_plain ?_
      simp only [List.mem_cons, List.not_mem_nil, or_false] at among
      rcases among with rfl | rfl <;> simp
  have apart : (Value.dict upperLayer).Everywhere Entries.Apart :=
    Value.everywhere_dict (by decide) (inner (by decide))
  have reflexive : (Value.dict upperLayer).Everywhere Entries.Reflexive :=
    Value.everywhere_dict (by decide) (inner (by decide))
  obtain ⟨plain, -, both, silent, hidden, -, -, twice⟩ := upper_counts_along_rows lowerLayer apart
  have shows : Silent upperLayer [.text "app", .text "product"] := by
    refine ⟨by decide +kernel, fun front value before proper leads => ?_⟩
    rcases List.prefix_cons_iff.1 before with rfl | ⟨rest, rfl, behind⟩
    · exact ⟨_, (Option.some.inj leads).symm⟩
    · rcases List.prefix_cons_iff.1 behind with rfl | ⟨last, rfl, beyond⟩
      · exact ⟨_, (Option.some.inj leads).symm⟩
      · obtain rfl := List.prefix_nil.1 beyond
        exact absurd rfl proper
  refine ⟨apart, reflexive, plain _ _ (by simp) rfl, hidden _ [.text "log"] _ (by simp) (by simp) rfl (by simp), ?_, ?_,
    (twice reflexive).2⟩
  · exact silent _ shows
  · obtain ⟨merged, leads, keys⟩ := both [.text "app"] _ _ rfl rfl
    exact ⟨merged, leads, keys⟩

end Settings

end Stencil
