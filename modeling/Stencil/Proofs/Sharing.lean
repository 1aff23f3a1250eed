import Stencil.Proofs.Overrides

/-! What variables change in the configuration that they are applied to.

The result is a copy of the configuration, but only at the top: its sections are those of the configuration that was
given. A setting that goes on into such a section reaches the given configuration as well, until a setting at the
section itself puts something else in its place in the result.
-/

set_option autoImplicit false

namespace Stencil

theorem Value.sameKey_text_iff {key : Value} {name : String} : key.sameKey (.text name) = true ↔
    key = .text name ∨ ∃ code, key = .object (.code code) ∧ code.text = name := by
  cases key with
  | text other => simp [sameKey]
  | object o => cases o <;> simp [sameKey, numberKey?]
  | _ => simp [sameKey, numberKey?]

theorem Entries.set_of_get? {entries : Entries} {name : String} {value : Value}
    (held : get? entries name = some value) : set entries name value = entries := by
  induction entries with
  | nil => cases held
  | cons entry rest ih =>
    obtain ⟨key, other⟩ := entry
    rw [get?, find?_cons] at held
    rw [set_cons]
    split at held
    · rename_i here
      obtain rfl : other = value := Option.some.inj held
      rw [if_pos here]
    · rename_i different
      rw [if_neg different, ih held]

namespace Settings

section Unchanged

theorem get?_of_nestedEntries_ne_nil {entries : Entries} {name : String} (filled : nestedEntries entries name ≠ []) :
    Entries.get? entries name = some (.dict (nestedEntries entries name)) := by
  unfold nestedEntries at *
  split
  · assumption
  · simp_all

/-- To put at a path what it holds changes nothing. -/
theorem setAt_of_valueAt? {entries : Entries} {path : List String} {value : Value}
    (held : valueAt? entries path = some value) : setAt entries value path = entries := by
  induction path generalizing entries with
  | nil => cases held
  | cons name rest ih =>
    by_cases more : rest = []
    · subst more
      exact Entries.set_of_get? held
    · rw [valueAt?_cons _ _ more] at held
      have found : Entries.get? entries name = some (.dict (nestedEntries entries name)) :=
        get?_of_nestedEntries_ne_nil fun none => by simp [none] at held
      rw [setAt_cons _ _ _ more, ih held, Entries.set_of_get? found]

theorem putAll_of_valueAt? {entries : Entries} {settings : List Setting}
    (held : ∀ setting ∈ settings, valueAt? entries setting.1 = some (scalarOf setting.2)) :
    putAll entries settings = entries := by
  induction settings with
  | nil => rfl
  | cons setting rest ih =>
    obtain ⟨first, later⟩ := List.forall_mem_cons.1 held
    rw [putAll, List.foldl_cons, setAt_of_valueAt? first]
    exact ih later

/-- Settings that do not touch each other change nothing exactly if each of them puts in what is there. -/
theorem putAll_eq_self_iff {entries : Entries} {settings : List Setting} (filled : ∀ setting ∈ settings, setting.1 ≠ [])
    (apart : settings.Pairwise fun one other => ¬ Comparable one.1 other.1) :
    putAll entries settings = entries ↔
      ∀ setting ∈ settings, valueAt? entries setting.1 = some (scalarOf setting.2) := by
  refine ⟨fun same setting among => ?_, putAll_of_valueAt?⟩
  obtain ⟨first, later, rfl⟩ := List.append_of_mem among
  have free : ∀ other ∈ later, ¬ Comparable other.1 setting.1 := fun other behind touch =>
    (List.pairwise_cons.1 (List.pairwise_append.1 apart).2.1).1 other behind touch.symm
  have last := valueAt?_putAll_of_last entries first (filled setting among) free
  rwa [same] at last

end Unchanged

/-- A configuration holds a dictionary under a name. -/
def HasSection (cfg : Entries) (name : String) : Prop :=
  ∃ key nested, (key, .dict nested) ∈ cfg ∧ key.sameKey (.text name) = true

theorem mem_sectionNames_iff {cfg : Entries} {name : String} : name ∈ sectionNames cfg ↔ HasSection cfg name := by
  simp only [sectionNames, HasSection, List.mem_filterMap, Value.sameKey_text_iff]
  constructor
  · rintro ⟨entry, among, named⟩
    split at named
    · exact ⟨_, _, among, .inl (congrArg Value.text (Option.some.inj named))⟩
    · exact ⟨_, _, among, .inr ⟨_, rfl, Option.some.inj named⟩⟩
    · cases named
  · rintro ⟨key, nested, among, rfl | ⟨code, rfl, rfl⟩⟩
    · exact ⟨_, among, rfl⟩
    · exact ⟨_, among, rfl⟩

instance (cfg : Entries) (name : String) : Decidable (HasSection cfg name) :=
  decidable_of_iff _ mem_sectionNames_iff

section Reaching

variable {cfg : Entries} {before : List Setting}

/-- A path goes on into a section of a configuration, and no setting before it is at the section itself. -/
def Reaches (cfg : Entries) (before : List Setting) (path : List String) : Prop :=
  2 ≤ path.length ∧ ∃ name ∈ path.head?, HasSection cfg name ∧ [name] ∉ before.map (·.1)

instance (cfg : Entries) (before : List Setting) (path : List String) : Decidable (Reaches cfg before path) :=
  inferInstanceAs (Decidable (_ ∧ _))

/-- The settings that reach a configuration, in order, when others were put in before. -/
def reaching (cfg : Entries) (before : List Setting) : List Setting → List Setting
  | [] => []
  | setting :: later =>
    if Reaches cfg before setting.1 then setting :: reaching cfg (before ++ [setting]) later
    else reaching cfg (before ++ [setting]) later

theorem reaching_sublist (cfg : Entries) (before settings : List Setting) :
    (reaching cfg before settings).Sublist settings := by
  induction settings generalizing before with
  | nil => exact .slnil
  | cons setting later ih =>
    rw [reaching]
    split
    · exact (ih _).cons_cons setting
    · exact (ih _).cons setting

/-- The sections of a configuration are common with the result unless a setting was at the section itself. -/
def Applied.SharesBut (applied : Applied) (cfg : Entries) (before : List Setting) : Prop :=
  ∀ name, name ∈ applied.common ↔ HasSection cfg name ∧ [name] ∉ before.map (·.1)

theorem sharesBut_start (cfg : Entries) : (Applied.start cfg).SharesBut cfg [] := by
  simp [Applied.SharesBut, Applied.start, Applied.startTied, mem_sectionNames_iff]

theorem Applied.SharesBut.put {applied : Applied} (untied : applied.Untied) (shares : applied.SharesBut cfg before)
    (path : List String) (text : String) (value : Value) :
    (applied.put path value).SharesBut cfg (before ++ [(path, text)]) := by
  intro name
  have common : name ∈ (applied.put path value).common ↔ name ∈ applied.common ∧ path ≠ [name] := by
    match path with
    | [] => simp [Applied.put]
    | [other] => simp [untied.put_eq, @eq_comm _ name]
    | _ :: _ :: _ => simp [untied.put_eq]
  rw [common, shares name, List.map_append, List.mem_append, not_or, and_assoc]
  simp [eq_comm]

/-- A setting is put into the given configuration if it reaches it. -/
theorem given_put {applied : Applied} (untied : applied.Untied) (shares : applied.SharesBut cfg before)
    (path : List String) (value : Value) :
    (applied.put path value).given =
      if Reaches cfg before path then setAt applied.given value path else applied.given := by
  match path with
  | [] => simp [Applied.put, Reaches]
  | [_] => simp [untied.put_eq, Reaches]
  | name :: next :: rest =>
    have reaches : Reaches cfg before (name :: next :: rest) ↔ name ∈ applied.common := by
      rw [shares name]
      simp [Reaches]
    simp [reaches, untied.put_eq]

/-- Applying variables puts the settings that reach it into the given configuration. -/
theorem given_applyVariables {applied after : Applied} {env : Variables} (untied : applied.Untied)
    (shares : applied.SharesBut cfg before) (ok : applyVariables applied env = .ok after) :
    after.given = putAll applied.given (reaching cfg before (settingsOf env)) := by
  induction env generalizing applied before with
  | nil =>
    cases ok
    rfl
  | cons entry rest ih =>
    obtain ⟨name, text⟩ := entry
    obtain ⟨unnamed, later⟩ | ⟨path, names, -, later⟩ := applyVariables_cons ok
    · simpa [settingsOf, unnamed] using ih untied shares later
    · rw [ih (untied.put path _) (shares.put untied path text _) later, given_put untied shares,
        settingsOf_cons names, reaching]
      split <;> rfl

/-- What variables change in the configuration that they are applied to, if no inner dictionary of it stands at two
places: the paths of those that go on into its sections, and nothing behind any other row of keys. Where the variables
that reach it do not touch each other, it is unchanged exactly if each of them puts in what is there already. -/
theorem given_changes_where_reached {env : Variables} {after : Applied} (ok : applyVariables (.start cfg) env = .ok after) :
    (∀ keys, (∀ setting ∈ reaching cfg [] (settingsOf env), Leaves setting.1 keys) →
        (Value.dict after.given).along? keys = (Value.dict cfg).along? keys) ∧
      (∀ first setting later, reaching cfg [] (settingsOf env) = first ++ setting :: later →
        (∀ other ∈ later, ¬ Comparable other.1 setting.1) →
        ∃ value, readScalar setting.2 = .ok value ∧ valueAt? after.given setting.1 = some value) ∧
      ((reaching cfg [] (settingsOf env)).Pairwise (fun one other => ¬ Comparable one.1 other.1) →
        (after.given = cfg ↔ ∀ setting ∈ reaching cfg [] (settingsOf env),
          ∃ value, readScalar setting.2 = .ok value ∧ valueAt? cfg setting.1 = some value)) := by
  have given : after.given = putAll cfg (reaching cfg [] (settingsOf env)) :=
    given_applyVariables (Applied.untied_start cfg) (sharesBut_start cfg) ok
  have among {setting : Setting} (reaches : setting ∈ reaching cfg [] (settingsOf env)) : setting ∈ settingsOf env :=
    (reaching_sublist cfg [] _).subset reaches
  have values {setting : Setting} (reaches : setting ∈ reaching cfg [] (settingsOf env)) :
      readScalar setting.2 = .ok (scalarOf setting.2) :=
    (result_applyVariables (Applied.untied_start cfg) ok).2 setting (among reaches)
  rw [given]
  refine ⟨fun keys leave => along?_putAll_of_leaves leave cfg, ?_, fun apart => ?_⟩
  · intro first setting later split free
    have reaches : setting ∈ reaching cfg [] (settingsOf env) := by simp [split]
    refine ⟨scalarOf setting.2, values reaches, ?_⟩
    rw [split]
    exact valueAt?_putAll_of_last cfg first (ne_nil_of_mem_settingsOf (among reaches)) free
  · rw [putAll_eq_self_iff (fun setting reaches => ne_nil_of_mem_settingsOf (among reaches)) apart]
    refine forall₂_congr fun setting reaches => ?_
    simp [values reaches]

def oldProduct : Entries :=
  [(.text "app", .dict [(.text "product", .text "old")])]

/-- The section of a configuration is not left as it was. -/
theorem given_changes_where_reached_product : ∃ after,
    applyVariables (.start oldProduct) [("PICT__APP__PRODUCT", "new")] = .ok after ∧
      valueAt? after.given ["app", "product"] = some (.text "new") ∧ after.given ≠ oldProduct := by
  have settings : settingsOf [("PICT__APP__PRODUCT", "new")] = [(["app", "product"], "new")] := by decide +kernel
  have new : readScalar "new" = .ok (.text "new") := rfl
  obtain ⟨after, ok, -⟩ :=
    @applyVariables_of_written [("PICT__APP__PRODUCT", "new")] _ (Applied.untied_start oldProduct)
      (by simp [settings, new])
  have reached : reaching oldProduct [] (settingsOf [("PICT__APP__PRODUCT", "new")]) = [(["app", "product"], "new")] := by
    rw [settings]
    decide +kernel
  obtain ⟨-, changes, same⟩ := given_changes_where_reached ok
  obtain ⟨value, reads, found⟩ := changes [] _ [] reached (by simp)
  obtain rfl := Except.ok.inj (new.symm.trans reads)
  refine ⟨after, ok, found, fun unchanged => ?_⟩
  rw [reached] at same
  obtain ⟨value, reads, held⟩ := (same (by simp)).1 unchanged _ (List.mem_singleton_self _)
  obtain rfl := Except.ok.inj (new.symm.trans reads)
  simp [oldProduct, valueAt?, Entries.get?, Entries.find?_cons, Value.sameKey_text] at held

end Reaching

end Settings

end Stencil
