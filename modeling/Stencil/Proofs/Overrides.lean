import Mathlib.Data.List.Perm.Basic
import Stencil.Proofs.KeyOrder
import Stencil.Proofs.LoadFaults
import Stencil.Proofs.Precedence
import Stencil.Proofs.VariableNames

/-! What variables put into a configuration.

A variable puts its value at the path that it names. Nothing else is changed: not what stands at other rows of
keys, of whatever kind they are, and nothing by a variable that names no path. Where no two variables touch each
other, their order does not count but for the order of keys.
-/

set_option autoImplicit false

namespace Stencil

/-- What stands at a row of keys. -/
def Value.along? : Value → List Value → Option Value
  | value, [] => some value
  | .dict entries, key :: keys => (Entries.find? entries key).bind (·.along? keys)
  | _, _ :: _ => none

namespace Settings

section Rows

/-- A row of keys leaves a path at some place: it goes on under a key that is another one than the name there. -/
inductive Leaves : List String → List Value → Prop where
  | here {name : String} {key : Value} {path : List String} {keys : List Value} :
      (Value.text name).Apart key → Leaves (name :: path) (key :: keys)
  | later {name : String} {path : List String} {keys : List Value} :
      Leaves path keys → Leaves (name :: path) (.text name :: keys)

theorem Leaves.ne_nil {path : List String} {keys : List Value} (leaves : Leaves path keys) :
    path ≠ [] ∧ keys ≠ [] := by
  cases leaves <;> simp

theorem along?_cons_text (entries : Entries) (name : String) {keys : List Value} (more : keys ≠ []) :
    (Value.dict entries).along? (.text name :: keys) = (Value.dict (nestedEntries entries name)).along? keys := by
  obtain ⟨key, rest, rfl⟩ := List.exists_cons_of_ne_nil more
  simp only [Value.along?, nestedEntries, Entries.get?]
  cases Entries.find? entries (.text name) with
  | none => rfl
  | some held => cases held <;> rfl

/-- What is put at a path changes nothing at rows of keys that leave it. -/
theorem along?_setAt_of_leaves (entries : Entries) (value : Value) {path : List String} {keys : List Value}
    (leaves : Leaves path keys) :
    (Value.dict (setAt entries value path)).along? keys = (Value.dict entries).along? keys := by
  induction leaves generalizing entries with
  | @here name key path keys apart =>
    rw [setAt_eq_set]
    simp only [Value.along?, Entries.find?_set_of_apart apart]
  | @later name path keys leaves ih =>
    obtain ⟨more, more'⟩ := leaves.ne_nil
    rw [setAt_cons _ _ _ more, along?_cons_text _ _ more', along?_cons_text _ _ more', nestedEntries_set_self]
    exact ih (nestedEntries entries name)

theorem along?_putAll_of_leaves {settings : List Setting} {keys : List Value}
    (leave : ∀ setting ∈ settings, Leaves setting.1 keys) (entries : Entries) :
    (Value.dict (putAll entries settings)).along? keys = (Value.dict entries).along? keys := by
  induction settings generalizing entries with
  | nil => rfl
  | cons setting rest ih =>
    obtain ⟨first, later⟩ := List.forall_mem_cons.1 leave
    exact (ih later _).trans (along?_setAt_of_leaves entries _ first)

end Rows

section Order

theorem reordered_putAll {entries others : Entries} (reordered : Entries.Reordered entries others)
    (settings : List Setting) : Entries.Reordered (putAll entries settings) (putAll others settings) := by
  induction settings generalizing entries others with
  | nil => exact reordered
  | cons setting rest ih => exact ih (reordered_setAt reordered _ _)

/-- Settings that do not touch each other may be put in in any order. -/
theorem reordered_putAll_of_perm {settings others : List Setting} (perm : settings.Perm others)
    (apart : settings.Pairwise fun one other => ¬ Comparable one.1 other.1) (entries : Entries) :
    Entries.Reordered (putAll entries settings) (putAll entries others) := by
  induction perm generalizing entries with
  | nil => exact .refl _
  | cons setting _ ih => exact ih (List.pairwise_cons.1 apart).2 _
  | swap first second rest =>
    have free := (List.pairwise_cons.1 apart).1 first List.mem_cons_self
    exact reordered_putAll (reordered_setAt_setAt free entries _ _) rest
  | trans perm _ ih ih' =>
    have symm {one other : Setting} (free : ¬ Comparable one.1 other.1) : ¬ Comparable other.1 one.1 :=
      fun touch => free touch.symm
    exact .trans (ih apart entries) (ih' ((perm.pairwise_iff symm).1 apart) entries)

end Order

section Variables

variable {env : Variables}

/-- What holds of all settings that variables make, in terms of the variables. -/
theorem forall_settingsOf_iff {p : Setting → Prop} : (∀ setting ∈ settingsOf env, p setting) ↔
    ∀ entry ∈ env, ∀ path, Names entry.1 path → p (path, entry.2) := by
  simp only [settingsOf, List.mem_filterMap, Option.map_eq_some_iff, pathOf?_eq_some_iff]
  constructor
  · intro all entry among path names
    exact all _ ⟨entry, among, path, names, rfl⟩
  · rintro all _ ⟨entry, among, path, names, rfl⟩
    exact all entry among path names

/-- Variables are applied if those that name paths can be read. -/
theorem exists_applyVariables_of_written
    (written : ∀ setting ∈ settingsOf env, ∃ value, readScalar setting.2 = .ok value) (applied : Applied) :
    ∃ after, applyVariables applied env = .ok after := by
  rw [exists_applyVariables_iff]
  intro entry among isSome
  obtain ⟨path, names⟩ := Option.isSome_iff_exists.1 isSome
  rw [← exists_readScalar_iff]
  exact forall_settingsOf_iff.1 written entry among path (pathOf?_eq_some_iff.1 names)

theorem applyVariables_of_written {applied : Applied} (untied : applied.Untied)
    (written : ∀ setting ∈ settingsOf env, ∃ value, readScalar setting.2 = .ok value) :
    ∃ after, applyVariables applied env = .ok after ∧ after.result = putAll applied.result (settingsOf env) ∧
      ∀ setting ∈ settingsOf env, readScalar setting.2 = .ok (scalarOf setting.2) := by
  obtain ⟨after, ok⟩ := exists_applyVariables_of_written written applied
  obtain ⟨result, values⟩ := result_applyVariables untied ok
  exact ⟨after, ok, result, values⟩

-- A variable that names no path is passed over.
theorem applyVariables_unnamed {name : String} (unnamed : pathOf? name = none) (text : String) (before later : Variables)
    (applied : Applied) :
    applyVariables applied (before ++ (name, text) :: later) = applyVariables applied (before ++ later) := by
  induction before generalizing applied with
  | nil => simp only [List.nil_append, applyVariables, unnamed]
  | cons entry before ih =>
    obtain ⟨other, text'⟩ := entry
    simp only [List.cons_append, applyVariables]
    cases pathOf? other with
    | none => exact ih applied
    | some path =>
      cases readScalar text' with
      | error fault => rfl
      | ok value => exact ih _

/-- Variables change nothing at a row that leaves all places to which the paths of their settings lead. -/
theorem at?_applyVariables_of_leaves {applied after : Applied} {ties : List Tie} {row : Row}
    (tied : NoMoreTied applied.resultTies ties)
    (leave : ∀ setting ∈ settingsOf env, ∀ place ∈ (Row.ofNames setting.1).places ties, place.Leaves row)
    (ok : applyVariables applied env = .ok after) :
    (Value.dict after.result).at? row = (Value.dict applied.result).at? row := by
  induction env generalizing applied with
  | nil =>
    cases ok
    rfl
  | cons entry rest ih =>
    obtain ⟨name, text⟩ := entry
    obtain ⟨unnamed, later⟩ | ⟨path, names, -, later⟩ := applyVariables_cons ok
    · have same : settingsOf ((name, text) :: rest) = settingsOf rest := by simp [settingsOf, unnamed]
      rw [same] at leave
      exact ih tied leave later
    · rw [settingsOf_cons names, List.forall_mem_cons] at leave
      obtain ⟨first, others⟩ := leave
      obtain ⟨result, resultTies⟩ := applied.put_result (pathOf?_ne_nil names) (scalarOf text)
      have tied' : NoMoreTied (applied.put path (scalarOf text)).resultTies ties := by
        rw [resultTies]
        exact Tied.noMoreTied_put tied _ _
      rw [ih tied' others later, result]
      exact Tied.at?_put_of_leaves (fun place leads => first place (Row.places_subset tied _ leads)) _

theorem putAll_append (entries : Entries) (first second : List Setting) :
    putAll entries (first ++ second) = putAll (putAll entries first) second :=
  List.foldl_append

/-- A path holds what the last setting that touches it puts there. -/
theorem valueAt?_putAll_of_last (entries : Entries) (before : List Setting) {setting : Setting} {later : List Setting}
    (filled : setting.1 ≠ []) (free : ∀ other ∈ later, ¬ Comparable other.1 setting.1) :
    valueAt? (putAll entries (before ++ setting :: later)) setting.1 = some (scalarOf setting.2) := by
  have untouched : later.filter (fun other => Comparable other.1 setting.1) = [] := by
    rw [List.filter_eq_nil_iff]
    simpa using free
  rw [putAll_append, putAll, List.foldl_cons, ← putAll, valueAt?_putAll_untouched _ untouched]
  exact valueAt?_setAt_self _ _ filled

theorem pairwise_settingsOf
    (apart : env.Pairwise fun one other => ∀ path path', Names one.1 path → Names other.1 path' → ¬ Comparable path path') :
    (settingsOf env).Pairwise fun one other => ¬ Comparable one.1 other.1 := by
  rw [settingsOf, List.pairwise_filterMap]
  refine apart.imp fun free setting made other made' => ?_
  obtain ⟨path, names, rfl⟩ := Option.map_eq_some_iff.1 made
  obtain ⟨path', names', rfl⟩ := Option.map_eq_some_iff.1 made'
  exact free path path' (pathOf?_eq_some_iff.1 names) (pathOf?_eq_some_iff.1 names')

end Variables

/-- Variables set exactly the paths that they name, if no inner dictionary of the configuration stands at two places.
Where every variable that names a path can be read, its path holds its value unless a later variable touches the path,
and what no variable touches stays as it is, behind keys of every kind. Variables that name no path have no effect.
Where no two variables touch each other, the result is the same in every order of the variables, but for the order of
keys. In a configuration with dictionaries that stand at several places, variables may change what stands at all the
places to which their paths lead, and nothing else. -/
theorem overrides_set_their_paths (cfg : Entries) {env : Variables}
    (written : ∀ entry ∈ env, ∀ path, Names entry.1 path → ∃ value, readScalar entry.2 = .ok value) :
    ∃ after, applyVariables (.start cfg) env = .ok after ∧
      (∀ before name text later path, env = before ++ (name, text) :: later → Names name path →
        (∀ entry ∈ later, ∀ other, Names entry.1 other → ¬ Comparable other path) →
        ∃ value, readScalar text = .ok value ∧ valueAt? after.result path = some value) ∧
      (∀ path, (∀ entry ∈ env, ∀ other, Names entry.1 other → ¬ Comparable other path) →
        valueAt? after.result path = valueAt? cfg path) ∧
      (∀ keys, (∀ entry ∈ env, ∀ path, Names entry.1 path → Leaves path keys) →
        (Value.dict after.result).along? keys = (Value.dict cfg).along? keys) ∧
      (∀ before entry later, env = before ++ entry :: later → (∀ path, ¬ Names entry.1 path) →
        applyVariables (.start cfg) (before ++ later) = .ok after) ∧
      ((env.Pairwise fun one other => ∀ path path', Names one.1 path → Names other.1 path' → ¬ Comparable path path') →
        ∀ others : Variables, others.Perm env → ∃ after', applyVariables (.start cfg) others = .ok after' ∧
          Entries.Reordered after.result after'.result) ∧
      ∀ ties, ∃ after', applyVariables (.startTied ⟨cfg, ties⟩) env = .ok after' ∧
        ∀ row : Row, (∀ entry ∈ env, ∀ path, Names entry.1 path →
            ∀ place ∈ (Row.ofNames path).places ties, place.Leaves row) →
          (Value.dict after'.result).at? row = (Value.dict cfg).at? row := by
  have settings : ∀ setting ∈ settingsOf env, ∃ value, readScalar setting.2 = .ok value :=
    forall_settingsOf_iff.2 written
  obtain ⟨after, ok, result, values⟩ := applyVariables_of_written (Applied.untied_start cfg) settings
  refine ⟨after, ok, ?_, ?_, ?_, ?_, ?_, ?_⟩
  · rintro before name text later path rfl names free
    rw [settingsOf_append, settingsOf_cons (pathOf?_eq_some_iff.2 names)] at result values
    refine ⟨scalarOf text, values (path, text) (by simp), ?_⟩
    rw [result]
    exact valueAt?_putAll_of_last cfg _ (pathOf?_ne_nil (pathOf?_eq_some_iff.2 names)) (forall_settingsOf_iff.2 free)
  · intro path free
    have apart : ∀ setting ∈ settingsOf env, ¬ Comparable setting.1 path := forall_settingsOf_iff.2 free
    rw [result]
    exact valueAt?_putAll_untouched cfg (List.filter_eq_nil_iff.2 (by simpa using apart))
  · intro keys leave
    rw [result]
    exact along?_putAll_of_leaves (forall_settingsOf_iff.2 leave) cfg
  · rintro before ⟨name, text⟩ later rfl unnamed
    have none : pathOf? name = none :=
      Option.eq_none_iff_forall_ne_some.2 fun path names => unnamed path (pathOf?_eq_some_iff.1 names)
    rw [← applyVariables_unnamed none text, ok]
  · intro apart others perm
    have same : (settingsOf others).Perm (settingsOf env) := perm.filterMap _
    obtain ⟨after', ok', result', -⟩ := applyVariables_of_written (Applied.untied_start cfg) fun setting among =>
      settings setting (same.mem_iff.1 among)
    refine ⟨after', ok', ?_⟩
    rw [result, result']
    exact reordered_putAll_of_perm same.symm (pairwise_settingsOf apart) cfg
  · intro ties
    obtain ⟨after', ok'⟩ := exists_applyVariables_of_written settings (.startTied ⟨cfg, ties⟩)
    exact ⟨after', ok', fun row leave =>
      at?_applyVariables_of_leaves (noMoreTied_self ties) (forall_settingsOf_iff.2 leave) ok'⟩

def oneSection : Entries :=
  [(.text "app", .dict [(.text "product", .text "old")]), (.int 1, .text "kept")]

/-- Two variables that name paths, and one between them that names none. -/
def twoOfThree : Variables :=
  [("PICT__APP__PRODUCT", "new"), ("HOME", "/root"), ("PICT__HOST__APP_DATA__Max", "3")]

/-- A section that is there and one that is not are set, and an entry under a number is left alone. -/
theorem overrides_set_their_paths_two_of_three :
    (∀ entry ∈ twoOfThree, ∀ path, Names entry.1 path → ∃ value, readScalar entry.2 = .ok value) ∧
      ∃ after, applyVariables (.start oneSection) twoOfThree = .ok after ∧
        valueAt? after.result ["app", "product"] = some (.text "new") ∧
        valueAt? after.result ["host", "app_data", "Max"] = some (.int 3) ∧
        (Value.dict after.result).along? [.int 1] = some (.text "kept") ∧
        ∃ after', applyVariables (.start oneSection) twoOfThree.reverse = .ok after' ∧
          Entries.Reordered after.result after'.result := by
  have product : pathOf? "PICT__APP__PRODUCT" = some ["app", "product"] := by decide +kernel
  have home : pathOf? "HOME" = none := by decide +kernel
  have data : pathOf? "PICT__HOST__APP_DATA__Max" = some ["host", "app_data", "Max"] := by decide +kernel
  have new : readScalar "new" = .ok (.text "new") := rfl
  have three : readScalar "3" = .ok (.int 3) := rfl
  have written : ∀ entry ∈ twoOfThree, ∀ path, Names entry.1 path → ∃ value, readScalar entry.2 = .ok value := by
    simp [twoOfThree, ← pathOf?_eq_some_iff, product, home, data, new, three]
  refine ⟨written, ?_⟩
  obtain ⟨after, ok, last, -, rows, -, orders, -⟩ := overrides_set_their_paths oneSection written
  obtain ⟨value, reads, setsProduct⟩ := last [] _ _ [_, _] _ rfl (pathOf?_eq_some_iff.1 product) (by
    simp [← pathOf?_eq_some_iff, home, data, Comparable])
  obtain ⟨max, reads', setsData⟩ := last [_, _] _ _ [] _ rfl (pathOf?_eq_some_iff.1 data) (by simp)
  obtain rfl := Except.ok.inj (new.symm.trans reads)
  obtain rfl := Except.ok.inj (three.symm.trans reads')
  have leave (name : String) (path : List String) : Leaves (name :: path) [.int 1] :=
    .here (Value.apart_int name 1)
  have kept := rows [.int 1] (by simp [twoOfThree, ← pathOf?_eq_some_iff, product, home, data, leave])
  have apart : twoOfThree.Pairwise fun one other =>
      ∀ path path', Names one.1 path → Names other.1 path' → ¬ Comparable path path' := by
    simp [twoOfThree, ← pathOf?_eq_some_iff, product, home, data, Comparable]
  exact ⟨after, ok, setsProduct, setsData, kept, orders apart _ (List.reverse_perm _)⟩

/-- A dictionary of the shared data that is their bundle as well. -/
def twoPlaces : Tied where
  entries := [(.text "host", .dict [
    (.text "app_data", .dict [(.text "A", .int 1)]), (.text "bundle", .dict [(.text "A", .int 1)])])]
  ties := [[Row.ofNames ["host", "app_data"], Row.ofNames ["host", "bundle"]]]

-- What a variable puts into a dictionary that stands at two places is found at both.
example : valueAt? ((Applied.startTied twoPlaces).put ["host", "app_data", "A"] (.int 2)).result
    ["host", "bundle", "A"] = some (.int 2) := by cbv

end Settings

end Stencil
