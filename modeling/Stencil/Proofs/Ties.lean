import Stencil.Proofs.Overlay
import Stencil.Settings.Variables

/-! What is put into dictionaries that stand at several places.

A value is put at all places to which a row leads, and nothing is changed at rows that leave all of these. Where no
dictionary is tied there is one place, and the value is put at the path alone.
-/

set_option autoImplicit false

namespace Stencil

/-- Two links do not lead to the same. -/
inductive Link.Apart : Link → Link → Prop where
  | key {key other : Value} : key.sameKey other = false → Apart (.key key) (.key other)
  | item {index other : Nat} : index ≠ other → Apart (.item index) (.item other)

/-- A row leaves another one at some link. -/
inductive Row.Leaves : Row → Row → Prop where
  | here {link other : Link} {row rest : Row} : link.Apart other → Leaves (link :: row) (other :: rest)
  | later {link : Link} {row rest : Row} : Leaves row rest → Leaves (link :: row) (link :: rest)

namespace Value

theorem at?_entriesOrNone (held : Value) (key : Value) (row : Row) :
    held.at? (.key key :: row) = (Entries.find? held.entriesOrNone key).bind (·.at? row) := by
  cases held <;> rfl

theorem at?_null_cons (link : Link) (row : Row) : Value.null.at? (link :: row) = none := by
  cases link <;> rfl

/-- What is put at a place changes nothing at rows that leave its own. -/
theorem at?_putAt_of_leaves {row other : Row} (leaves : row.Leaves other) (value held : Value) :
    (putAt value row held).at? other = held.at? other := by
  induction leaves generalizing held with
  | @here link other row rest apart =>
    cases apart with
    | key different =>
      rw [at?_entriesOrNone held]
      simp only [putAt, at?, Entries.find?_put, different, Bool.false_eq_true, if_false]
    | item different => cases held <;> simp [putAt, at?, different]
  | @later link row rest leaves ih =>
    have below (held? : Option Value) :
        (held?.map (putAt value row)).bind (·.at? rest) = held?.bind (·.at? rest) := by
      cases held? <;> simp [ih]
    cases link with
    | key key =>
      rw [at?_entriesOrNone held]
      simp only [putAt, at?, Entries.find?_put]
      split
      · rw [Option.bind_some, ih]
        cases Entries.find? held.entriesOrNone key with
        | some inner => rfl
        | none =>
          obtain ⟨_, _, rfl⟩ : ∃ link more, rest = link :: more := by cases leaves <;> exact ⟨_, _, rfl⟩
          exact at?_null_cons _ _
      · rfl
    | item index =>
      cases held with
      | list items => simp only [putAt, at?, List.getElem?_modify_eq, Option.map_eq_map, below]
      | tuple items => simp only [putAt, at?, List.getElem?_modify_eq, Option.map_eq_map, below]
      | _ => rfl

theorem exists_putAt_dict (value : Value) {row : Row} (more : row ≠ []) (entries : Entries) :
    ∃ changed, putAt value row (.dict entries) = .dict changed := by
  obtain ⟨link, rest, rfl⟩ := List.exists_cons_of_ne_nil more
  cases link <;> exact ⟨_, rfl⟩

theorem putAt_names (value : Value) {path : List String} (filled : path ≠ []) (held : Value) :
    putAt value (Row.ofNames path) held = .dict (Settings.setAt held.entriesOrNone value path) := by
  induction path generalizing held with
  | nil => exact absurd rfl filled
  | cons name rest ih =>
    by_cases more : rest = []
    · subst more
      rfl
    · have nested : ((Entries.find? held.entriesOrNone (.text name)).getD .null).entriesOrNone =
          Settings.nestedEntries held.entriesOrNone name := by
        unfold Settings.nestedEntries Entries.get?
        cases Entries.find? held.entriesOrNone (.text name) with
        | none => rfl
        | some inner => cases inner <;> rfl
      have inner := ih more ((Entries.find? held.entriesOrNone (.text name)).getD .null)
      rw [nested, Row.ofNames] at inner
      rw [Settings.setAt_cons _ _ _ more, Row.ofNames, List.map_cons, putAt, inner]
      rfl

end Value

section Places

variable {tied : Tied} {row other : Row}

theorem foldl_putAt_of_leaves {places : List Row} (leave : ∀ place ∈ places, place.Leaves other) (value : Value)
    (entries : Entries) : ∃ changed,
      places.foldl (fun found place => Value.putAt value place found) (.dict entries) = .dict changed ∧
        (Value.dict changed).at? other = (Value.dict entries).at? other := by
  induction places generalizing entries with
  | nil => exact ⟨entries, rfl, rfl⟩
  | cons place rest ih =>
    obtain ⟨first, later⟩ := List.forall_mem_cons.1 leave
    have more : place ≠ [] := by rintro rfl; cases first
    obtain ⟨mid, put⟩ := Value.exists_putAt_dict value more entries
    obtain ⟨changed, puts, same⟩ := ih later mid
    refine ⟨changed, by rw [List.foldl_cons, put, puts], ?_⟩
    rw [same, ← put, Value.at?_putAt_of_leaves first]

/-- What is put along a row changes nothing at rows that leave all places to which it leads. -/
theorem Tied.at?_put_of_leaves (leave : ∀ place ∈ row.places tied.ties, place.Leaves other) (value : Value) :
    (Value.dict (tied.put row value).entries).at? other = (Value.dict tied.entries).at? other := by
  obtain ⟨changed, puts, same⟩ := foldl_putAt_of_leaves leave value tied.entries
  simpa only [Tied.put, puts, Value.entriesOrNone] using same

/-- Every dictionary that is tied was tied before, at these places at least. -/
def NoMoreTied (ties before : List Tie) : Prop :=
  ∀ tie ∈ ties, ∃ whole ∈ before, tie ⊆ whole

theorem noMoreTied_self (ties : List Tie) : NoMoreTied ties ties :=
  fun tie among => ⟨tie, among, List.Subset.refl tie⟩

theorem Tied.noMoreTied_put {before : List Tie} (tied' : NoMoreTied tied.ties before) (row : Row) (value : Value) :
    NoMoreTied (tied.put row value).ties before := by
  intro tie among
  obtain ⟨held, within, rfl⟩ := List.mem_map.1 among
  obtain ⟨whole, among', sub⟩ := tied' held within
  exact ⟨whole, among', fun place kept => sub (List.mem_filter.1 kept).1⟩

theorem Tie.places_subset {tie whole : Tie} (sub : tie ⊆ whole) (row : Row) : tie.places row ⊆ whole.places row := by
  intro place among
  obtain ⟨via, within, leads⟩ := List.mem_flatMap.1 among
  refine List.mem_flatMap.2 ⟨via, sub within, ?_⟩
  split at leads
  · exact List.map_subset _ sub leads
  · cases leads

theorem Row.places_subset {ties before : List Tie} (tied' : NoMoreTied ties before) (row : Row) :
    row.places ties ⊆ row.places before := by
  intro place among
  rcases List.mem_cons.1 among with rfl | among
  · exact List.mem_cons_self
  · obtain ⟨tie, within, leads⟩ := List.mem_flatMap.1 among
    obtain ⟨whole, among', sub⟩ := tied' tie within
    exact List.mem_cons_of_mem _ (List.mem_flatMap.2 ⟨whole, among', Tie.places_subset sub row leads⟩)

end Places

namespace Settings

/-- No inner dictionary stands at two places, of the result or of the configuration that was given. -/
structure Applied.Untied (applied : Applied) : Prop where
  result : applied.resultTies = []
  given : applied.givenTies = []

namespace Applied

variable {applied : Applied} {path : List String}

/-- In the result a value is put as in any configuration with ties. -/
theorem put_result (applied : Applied) (filled : path ≠ []) (value : Value) :
    let put := Tied.put ⟨applied.result, applied.resultTies⟩ (Row.ofNames path) value
    (applied.put path value).result = put.entries ∧ (applied.put path value).resultTies = put.ties := by
  cases path with
  | nil => exact absurd rfl filled
  | cons name rest =>
    cases rest with
    | nil => exact ⟨rfl, rfl⟩
    | cons next tail =>
      simp only [Applied.put]
      split
      · exact ⟨rfl, rfl⟩
      · exact ⟨rfl, rfl⟩

theorem untied_start (given : Entries) : (Applied.start given).Untied := ⟨rfl, rfl⟩

theorem put_names (entries : Entries) (filled : path ≠ []) (value : Value) :
    Tied.put ⟨entries, []⟩ (Row.ofNames path) value = ⟨setAt entries value path, []⟩ := by
  rw [Tied.put_untied, Value.putAt_names value filled]
  rfl

theorem putResult_untied (untied : applied.Untied) (filled : path ≠ []) (value : Value) :
    applied.putResult path value = { applied with result := setAt applied.result value path } := by
  rw [putResult, untied.result, put_names _ filled]

theorem putGiven_untied (untied : applied.Untied) (filled : path ≠ []) (value : Value) :
    applied.putGiven path value = { applied with given := setAt applied.given value path } := by
  rw [putGiven, untied.given, put_names _ filled]

/-- Where no dictionary is tied, a value is put at its path alone, in the result and perhaps in the given
configuration. -/
theorem Untied.put_eq (untied : applied.Untied) (name : String) (rest : List String) (value : Value) :
    applied.put (name :: rest) value = { applied with
      result := setAt applied.result value (name :: rest)
      given := if rest ≠ [] ∧ name ∈ applied.common then setAt applied.given value (name :: rest) else applied.given
      common := if rest = [] then applied.common.filter (· != name) else applied.common } := by
  have filled : name :: rest ≠ [] := List.cons_ne_nil _ _
  cases rest with
  | nil => simp [put, putResult_untied untied filled]
  | cons next tail =>
    have put' : (applied.putResult (name :: next :: tail) value).Untied := by
      rw [putResult_untied untied filled]
      exact ⟨untied.result, untied.given⟩
    by_cases common : name ∈ applied.common
    · have contains : applied.common.contains name = true := List.contains_iff_mem.2 common
      simp only [put, contains, if_true]
      rw [putGiven_untied put' filled, putResult_untied untied filled]
      simp [common]
    · simp [put, common, putResult_untied untied filled]

theorem Untied.put (untied : applied.Untied) (path : List String) (value : Value) :
    (applied.put path value).Untied := by
  cases path with
  | nil => exact untied
  | cons name rest =>
    rw [untied.put_eq]
    exact ⟨untied.result, untied.given⟩

theorem result_put (untied : applied.Untied) (path : List String) (value : Value) :
    (applied.put path value).result = setAt applied.result value path := by
  cases path with
  | nil => rfl
  | cons name rest => rw [untied.put_eq]

end Applied

end Settings

end Stencil
