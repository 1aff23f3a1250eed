import Stencil.Proofs.Layers
import Stencil.Settings.Model

/-! Which data fit the settings, and what becomes of them.

The settings are a tree of models, and at its leaves stand texts, truth values, a list of texts and shared data. Data
fit if what they have at the places of the tree fits, and no model has a key of its own. The settings that come of them
are the data laid over the default: nothing else is changed than the form of truth values and of the list, and settings
that are dumped fit as they are.
-/

set_option autoImplicit false

namespace Stencil

section Accepted

/-- The words for a truth value, in small letters. -/
def wordsFor : Bool → List String
  | true => ["1", "on", "t", "true", "y", "yes"]
  | false => ["0", "off", "f", "false", "n", "no"]

/-- A value stands for a truth value: it is one, or a number or a word for one. -/
inductive Truth : Value → Bool → Prop where
  | self (b : Bool) : Truth (.bool b) b
  | whole (b : Bool) : Truth (.int b.toNat) b
  | float {d : Number.Double} {b : Bool} : d.toInt? = some b.toNat → Truth (.float d) b
  | word {s : String} {b : Bool} : s.map Char.toLower ∈ wordsFor b → Truth (.text s) b

/-- A value lists texts, as a list or as a tuple. -/
inductive Listing : Value → List String → Prop where
  | list (items : List String) : Listing (.list (items.map .text)) items
  | tuple (items : List String) : Listing (.tuple (items.map .text)) items

/-- Every key is one of some names. -/
def Entries.Known (names : List String) (entries : Entries) : Prop :=
  ∀ key ∈ entries.keys, ∃ name ∈ names, key = .text name

/-- Every key is a text. -/
def Entries.Named (entries : Entries) : Prop :=
  ∀ key ∈ entries.keys, ∃ name, key = .text name

end Accepted

namespace Checked

variable {α β γ : Type}

theorem both_eq_ok_iff {combine : α → β → γ} {first : Checked α} {second : Checked β} {c : γ} :
    both combine first second = .ok c ↔ ∃ a b, first = .ok a ∧ second = .ok b ∧ combine a b = c := by
  cases first <;> cases second <;> simp [both]

theorem under_eq_ok_iff {place : Place} {checked : Checked α} {a : α} :
    under place checked = .ok a ↔ checked = .ok a := by
  cases checked <;> simp [under, Except.mapError]

theorem toReport_eq_ok_iff {title : String} {checked : Checked α} {a : α} :
    toReport title checked = .ok a ↔ checked = .ok a := by
  cases checked <;> simp [toReport, Except.mapError]

end Checked

namespace Check

variable {α : Type}

theorem text_eq_ok_iff {value : Value} {s : String} : text value = .ok s ↔ value = .text s := by
  cases value <;> simp [text, Checked.refuse]

theorem boolWord?_eq_some_iff {s : String} {b : Bool} : boolWord? s = some b ↔ s.map Char.toLower ∈ wordsFor b := by
  have apart : ∀ word ∈ wordsFor true, word ∉ wordsFor false := by decide
  change (if (wordsFor true).contains (s.map Char.toLower) then some true
    else if (wordsFor false).contains (s.map Char.toLower) then some false else none) = some b ↔ _
  simp only [List.contains_iff_mem]
  split
  · cases b <;> simp_all
  · split <;> cases b <;> simp_all

/-- What is accepted as a truth value is what stands for one. -/
theorem bool_eq_ok_iff {value : Value} {b : Bool} : bool value = .ok b ↔ Truth value b := by
  constructor
  · intro ok
    unfold bool at ok
    split at ok
    · cases ok
      exact .self _
    · split at ok
      · subst_vars
        cases ok
        exact .whole false
      split at ok
      · subst_vars
        cases ok
        exact .whole true
      · split at ok <;> cases ok
    · split at ok
      · cases ok
        exact .float ‹_›
      · cases ok
        exact .float ‹_›
      · cases ok
    · split at ok
      · rename_i found
        cases ok
        exact .word (boolWord?_eq_some_iff.1 found)
      · cases ok
    · cases ok
  · intro truth
    cases truth with
    | self => rfl
    | whole => cases b <;> rfl
    | float eq => cases b <;> simp [bool, eq]
    | word among => simp [bool, boolWord?_eq_some_iff.2 among]

theorem each_text_eq_ok_iff {items : List Value} {index : Nat} {texts : List String} :
    Checked.each text index items = .ok texts ↔ items = texts.map .text := by
  induction items generalizing index texts with
  | nil => cases texts <;> simp [Checked.each]
  | cons item rest ih =>
    simp only [Checked.each, Checked.both_eq_ok_iff, Checked.under_eq_ok_iff, text_eq_ok_iff, ih]
    cases texts <;> simp

theorem texts_eq_ok_iff {value : Value} {items : List String} : texts value = .ok items ↔ Listing value items := by
  constructor
  · intro ok
    unfold texts at ok
    split at ok
    · rw [each_text_eq_ok_iff.1 ok]
      exact .list items
    · rw [each_text_eq_ok_iff.1 ok]
      exact .tuple items
    · cases ok
  · rintro (_ | _) <;> exact each_text_eq_ok_iff.2 rfl

theorem keyProblems_eq_nil_iff {entries : Entries} : keyProblems entries = [] ↔ entries.Named := by
  simp only [keyProblems, List.filterMap_eq_nil_iff, Entries.Named, Entries.keys, List.forall_mem_map]
  refine forall₂_congr fun entry _ => ?_
  split
  · simp_all
  · rename_i key other
    simpa using fun name => other name

theorem textKeyed_eq_ok_iff {value : Value} {entries : Entries} :
    textKeyed value = .ok entries ↔ value = .dict entries ∧ entries.Named := by
  rw [← keyProblems_eq_nil_iff]
  cases value with
  | dict held =>
    simp only [textKeyed, Value.dict.injEq]
    split
    · rename_i none
      simpa using fun same => same ▸ none
    · rename_i some
      simp only [reduceCtorEq, false_iff, not_and]
      rintro rfl
      exact some
  | _ => simp [textKeyed, Checked.refuse]

theorem unknownFields_eq_nil_iff {names : List String} {entries : Entries} :
    unknownFields names entries = [] ↔ entries.Known names := by
  simp only [unknownFields, List.filterMap_eq_nil_iff, Entries.Known, Entries.keys, List.forall_mem_map]
  refine forall₂_congr fun entry _ => ?_
  split
  · simp_all
  · rename_i key other
    simpa using fun name _ => other name

theorem model_eq_ok_iff {names : List String} {check : Entries → Checked α} {value : Value} {a : α} :
    model names check value = .ok a ↔
      ∃ entries : Entries, value = .dict entries ∧ entries.Known names ∧ check entries = .ok a := by
  cases value with
  | dict entries =>
    simp only [model, Checked.both_eq_ok_iff, Value.dict.injEq, exists_eq_left', ← unknownFields_eq_nil_iff]
    cases unknownFields names entries <;> simp
  | _ => simp [model, Checked.refuse]

/-- A field is what is given for it, if that is accepted, or else its default. -/
theorem field_eq_ok_iff {entries : Entries} {name : String} {default : α} {check : Value → Checked α} {a : α} :
    field entries name default check = .ok a ↔
      (∀ value, Entries.get? entries name = some value → check value = .ok a) ∧
        (Entries.get? entries name = none → default = a) := by
  unfold field
  cases Entries.get? entries name <;> simp [Checked.under_eq_ok_iff]

end Check

namespace Settings

open Entries (find? get? put)

section Places

/-- What is expected at a place: a model with some fields, a text, a truth value, texts or data with names. -/
inductive Kind where
  | model (fields : List String)
  | text
  | truth
  | texts
  | shared

/-- A value is of a kind. A model has no other keys than its fields, but need not have them all. -/
def Kind.Accepts : Kind → Value → Prop
  | .model fields, value => ∃ entries : Entries, value = .dict entries ∧ entries.Known fields
  | .text, value => ∃ s, value = .text s
  | .truth, value => ∃ b, Truth value b
  | .texts, value => ∃ items, Listing value items
  | .shared, value => ∃ entries : Entries, value = .dict entries ∧ entries.Named

/-- The places of the settings, and what is expected there. -/
def declared : List (List String × Kind) := [
  ([], .model ["app", "host", "templates", "logging"]),
  (["app"], .model ["product", "env", "paths"]),
  (["app", "product"], .text),
  (["app", "env"], .text),
  (["app", "paths"], .model ["repo_root", "configs_dir"]),
  (["app", "paths", "repo_root"], .text),
  (["app", "paths", "configs_dir"], .text),
  (["host"], .model ["app_data", "bundle"]),
  (["host", "app_data"], .shared),
  (["host", "bundle"], .shared),
  (["templates"], .model ["providers"]),
  (["templates", "providers"], .texts),
  (["logging"], .model ["level", "console", "json_lines"]),
  (["logging", "level"], .text),
  (["logging", "console"], .truth),
  (["logging", "json_lines"], .truth)]

/-- Whatever a value has at some places is what is expected there. -/
def Fits (places : List (List String × Kind)) (value : Value) : Prop :=
  ∀ place ∈ places, ∀ held, value.along? (place.1.map .text) = some held → place.2.Accepts held

/-- A check accepts the values that fit at some places. -/
def Decides {α : Type} (check : Value → Checked α) (places : List (List String × Kind)) : Prop :=
  ∀ value, (∃ a, check value = .ok a) ↔ Fits places value

/-- The part of a check that is about some fields accepts the entries that fit at some places. -/
def DecidesFields {α : Type} (check : Entries → Checked α) (places : List (List String × Kind)) : Prop :=
  ∀ entries, (∃ a, check entries = .ok a) ↔ Fits places (.dict entries)

def below (name : String) (places : List (List String × Kind)) : List (List String × Kind) :=
  places.map fun (path, kind) => (name :: path, kind)

variable {α β γ : Type} {places others : List (List String × Kind)}

theorem fits_here_iff (kind : Kind) (value : Value) : Fits [([], kind)] value ↔ kind.Accepts value := by
  simp [Fits, Value.along?]

theorem fits_below_iff (name : String) (places : List (List String × Kind)) (entries : Entries) :
    Fits (below name places) (.dict entries) ↔ ∀ value, get? entries name = some value → Fits places value := by
  simp only [Fits, below, List.forall_mem_map, List.map_cons, Value.along?, Option.bind_eq_some_iff, get?]
  constructor
  · exact fun all value found place among held leads => all place among held ⟨value, found, leads⟩
  · rintro all place among held ⟨value, found, leads⟩
    exact all value found place among held leads

theorem fits_append_iff (value : Value) : Fits (places ++ others) value ↔ Fits places value ∧ Fits others value :=
  List.forall_mem_append

theorem decides_text : Decides Check.text [([], .text)] :=
  fun value => by simp only [fits_here_iff, Check.text_eq_ok_iff, Kind.Accepts]

theorem decides_bool : Decides Check.bool [([], .truth)] :=
  fun value => by simp only [fits_here_iff, Check.bool_eq_ok_iff, Kind.Accepts]

theorem decides_texts : Decides Check.texts [([], .texts)] :=
  fun value => by simp only [fits_here_iff, Check.texts_eq_ok_iff, Kind.Accepts]

theorem decides_textKeyed : Decides Check.textKeyed [([], .shared)] :=
  fun value => by simp only [fits_here_iff, Check.textKeyed_eq_ok_iff, Kind.Accepts]

theorem Decides.field {check : Value → Checked α} (decides : Decides check places) (name : String) (default : α) :
    DecidesFields (fun entries => Check.field entries name default check) (below name places) := by
  intro entries
  simp only [fits_below_iff, Check.field_eq_ok_iff]
  cases found : get? entries name with
  | none => simp
  | some value => simpa using decides value

theorem DecidesFields.both {first : Entries → Checked α} {second : Entries → Checked β}
    (decides : DecidesFields first places) (decides' : DecidesFields second others) (combine : α → β → γ) :
    DecidesFields (fun entries => .both combine (first entries) (second entries)) (places ++ others) := by
  intro entries
  rw [fits_append_iff, ← decides entries, ← decides' entries]
  simp only [Checked.both_eq_ok_iff]
  constructor
  · rintro ⟨_, a, b, okay, okay', -⟩
    exact ⟨⟨a, okay⟩, ⟨b, okay'⟩⟩
  · rintro ⟨⟨a, okay⟩, ⟨b, okay'⟩⟩
    exact ⟨_, a, b, okay, okay', rfl⟩

theorem DecidesFields.model {check : Entries → Checked α} (decides : DecidesFields check places)
    (fields : List String) : Decides (Check.model fields check) (([], .model fields) :: places) := by
  intro value
  rw [← List.singleton_append, fits_append_iff, fits_here_iff]
  simp only [Check.model_eq_ok_iff, Kind.Accepts]
  constructor
  · rintro ⟨a, entries, rfl, known, okay⟩
    exact ⟨⟨entries, rfl, known⟩, (decides entries).1 ⟨a, okay⟩⟩
  · rintro ⟨⟨entries, rfl, known⟩, fits⟩
    obtain ⟨a, okay⟩ := (decides entries).2 fits
    exact ⟨a, entries, rfl, known, okay⟩

/-- The settings are made of data that fit at the declared places. -/
theorem decides_checkSettings : Decides checkSettings declared := by
  have paths : Decides checkPaths _ :=
    ((decides_text.field "repo_root" _).both (decides_text.field "configs_dir" _) _).model _
  have app : Decides checkApp _ :=
    (((decides_text.field "product" _).both (decides_text.field "env" _) _).both (paths.field "paths" _) _).model _
  have host : Decides checkShared _ :=
    ((decides_textKeyed.field "app_data" _).both (decides_textKeyed.field "bundle" _) _).model _
  have templates : Decides checkProviders _ := (decides_texts.field "providers" _).model _
  have logging : Decides checkLogging _ :=
    ((decides_text.field "level" _).both
      ((decides_bool.field "console" _).both (decides_bool.field "json_lines" _) _) _).model _
  exact (((app.field "app" _).both (host.field "host" _) _).both
    ((templates.field "templates" _).both (logging.field "logging" _) _) _).model _

end Places

section Forms

/-- Entries under names. -/
def named (fields : List (String × Value)) : Entries :=
  fields.map fun (name, value) => (.text name, value)

/-- What a value becomes if something, or nothing, is laid over it. -/
def layered (base : Value) : Option Value → Value
  | none => base
  | some value => overValue (some base) value

theorem named_cons (name : String) (value : Value) (rest : List (String × Value)) :
    named ((name, value) :: rest) = (.text name, value) :: named rest := rfl

-- Changing what fields hold leaves their names.
theorem map_names (fields : List (String × Value)) (change : String × Value → Value) :
    (fields.map fun field => (field.1, change field)).map (·.1) = fields.map (·.1) := by
  simp

theorem put_named {fields : List (String × Value)} {name : String} (distinct : (fields.map (·.1)).Nodup)
    (among : name ∈ fields.map (·.1)) (value : Value) :
    put (.text name) (overValue (find? (named fields) (.text name)) value) (named fields) =
      named (fields.map fun field =>
        (field.1, if field.1 = name then overValue (some field.2) value else field.2)) := by
  induction fields with
  | nil => cases among
  | cons field rest ih =>
    obtain ⟨first, held⟩ := field
    obtain ⟨fresh, distinct⟩ := List.nodup_cons.1 distinct
    simp only [List.map_cons, named_cons, put, Entries.find?_cons, Value.sameKey_text, beq_iff_eq]
    by_cases here : first = name
    · subst here
      have others : rest.map (fun field =>
          (field.1, if field.1 = first then overValue (some field.2) value else field.2)) = rest := by
        refine (List.map_congr_left fun field among => ?_).trans (List.map_id rest)
        have different : field.1 ≠ first := fun same => fresh (List.mem_map.2 ⟨field, among, same⟩)
        simp [different]
      simp only [if_true, others]
    · have later := ih distinct ((List.mem_cons.1 among).resolve_left (Ne.symm here))
      simp only [here, if_false, later]

/-- What is laid over fields goes field by field. -/
theorem overlay_named {fields : List (String × Value)} {upper : Entries} (distinct : (fields.map (·.1)).Nodup)
    (known : upper.Known (fields.map (·.1))) (apart : upper.Apart) :
    overlay (named fields) upper = named (fields.map fun field => (field.1, layered field.2 (get? upper field.1))) := by
  induction upper generalizing fields with
  | nil => simp [layered]
  | cons entry rest ih =>
    obtain ⟨key, value⟩ := entry
    obtain ⟨⟨name, among, rfl⟩, others⟩ := List.forall_mem_cons.1 known
    have once : get? rest name = none := apart.find?_rest (by simp [Value.sameKey_text])
    rw [overlay, put_named distinct among,
      ih (map_names fields _ ▸ distinct) (map_names fields _ ▸ others) (List.pairwise_cons.1 apart).2, List.map_map]
    refine congrArg named (List.map_congr_left fun field _ => Prod.ext rfl ?_)
    simp only [Function.comp_apply, get?, Entries.find?_cons, Value.sameKey_text, beq_iff_eq]
    by_cases same : field.1 = name
    · simp only [get?] at once
      simp only [same, once, if_true, layered]
    · simp only [same, Ne.symm same, if_false]

/-- What a check accepts, laid over a base, is a form of what the check makes of it. -/
def Renders {α : Type} (check : Value → Checked α) (base : Value) (form : α → Value → Prop) : Prop :=
  ∀ value a, value.Everywhere Entries.Apart → check value = .ok a → form a (overValue (some base) value)

variable {α : Type}

theorem Renders.field {check : Value → Checked α} {base : Value} {form : α → Value → Prop} {entries : Entries}
    {name : String} {default a : α} (renders : Renders check base form) (start : form default base)
    (apart : (Value.dict entries).Everywhere Entries.Apart) (ok : Check.field entries name default check = .ok a) :
    form a (layered base (get? entries name)) := by
  obtain ⟨given, absent⟩ := Check.field_eq_ok_iff.1 ok
  cases found : get? entries name with
  | none => exact absent found ▸ start
  | some value => exact renders value a (apart.inside found) (given value found)

theorem renders_text (base : String) : Renders Check.text (.text base) fun s value => value = .text s := by
  rintro value s - ok
  obtain rfl := Check.text_eq_ok_iff.1 ok
  exact overValue_plain (by simp) _

theorem renders_bool (base : Bool) : Renders Check.bool (.bool base) fun b value => Truth value b := by
  rintro value b - ok
  have truth := Check.bool_eq_ok_iff.1 ok
  rwa [overValue_plain (by cases truth <;> simp)]

theorem renders_texts (base : List Value) :
    Renders Check.texts (.list base) fun items value => Listing value items := by
  rintro value items - ok
  have listing := Check.texts_eq_ok_iff.1 ok
  rwa [overValue_plain (by cases listing <;> simp)]

theorem renders_textKeyed : Renders Check.textKeyed (.dict []) fun entries value => value = .dict entries := by
  rintro value entries apart ok
  obtain ⟨rfl, -⟩ := Check.textKeyed_eq_ok_iff.1 ok
  rw [overValue_dict_dict, overlay_nothing_below apart.here]

theorem Renders.model {check : Entries → Checked α} {form : α → Value → Prop} {names : List String}
    (fields : List (String × Value)) (fieldNames : fields.map (·.1) = names) (distinct : names.Nodup)
    (renders : ∀ entries a, (Value.dict entries).Everywhere Entries.Apart → check entries = .ok a →
      form a (dictOf (fields.map fun field => (field.1, layered field.2 (get? entries field.1))))) :
    Renders (Check.model names check) (dictOf fields) form := by
  subst fieldNames
  intro value a apart ok
  obtain ⟨entries, rfl, known, ok⟩ := Check.model_eq_ok_iff.1 ok
  have laid : overValue (some (dictOf fields)) (.dict entries) = .dict (overlay (named fields) entries) :=
    overValue_dict_dict _ _
  rw [laid, overlay_named distinct known apart.here]
  exact renders entries a apart ok

def Paths.dumped (paths : Paths) : Value :=
  dictOf [("repo_root", .text paths.repoRoot), ("configs_dir", .text paths.configsDir)]

def App.dumped (app : App) : Value :=
  dictOf [("product", .text app.product), ("env", .text app.env), ("paths", app.paths.dumped)]

def Shared.dumped (shared : Shared) : Value :=
  dictOf [("app_data", .dict shared.appData), ("bundle", .dict shared.bundle)]

/-- The dump of settings, but with any values for the providers and the truth values. -/
def dumpWith (s : Settings) (providers console jsonLines : Value) : Value :=
  dictOf [("app", s.app.dumped), ("host", s.host.dumped), ("templates", dictOf [("providers", providers)]),
    ("logging", dictOf [("level", .text s.logging.level), ("console", console), ("json_lines", jsonLines)])]

theorem renders_paths : Renders checkPaths default.app.paths.dumped fun paths value => value = paths.dumped := by
  refine Renders.model [("repo_root", .text default.app.paths.repoRoot),
    ("configs_dir", .text default.app.paths.configsDir)] rfl (by decide) fun entries paths apart ok => ?_
  obtain ⟨root, configs, okRoot, okConfigs, rfl⟩ := Checked.both_eq_ok_iff.1 ok
  simp only [List.map_cons, List.map_nil, (renders_text _).field rfl apart okRoot,
    (renders_text _).field rfl apart okConfigs]
  rfl

theorem renders_app : Renders checkApp default.app.dumped fun app value => value = app.dumped := by
  refine Renders.model [("product", .text default.app.product), ("env", .text default.app.env),
    ("paths", default.app.paths.dumped)] rfl (by decide) fun entries app apart ok => ?_
  obtain ⟨_, paths, okNames, okPaths, rfl⟩ := Checked.both_eq_ok_iff.1 ok
  obtain ⟨product, env, okProduct, okEnv, rfl⟩ := Checked.both_eq_ok_iff.1 okNames
  simp only [List.map_cons, List.map_nil, (renders_text _).field rfl apart okProduct,
    (renders_text _).field rfl apart okEnv, renders_paths.field rfl apart okPaths]
  rfl

theorem renders_shared : Renders checkShared default.host.dumped fun shared value => value = shared.dumped := by
  refine Renders.model [("app_data", .dict []), ("bundle", .dict [])] rfl (by decide) fun entries shared apart ok => ?_
  obtain ⟨appData, bundle, okAppData, okBundle, rfl⟩ := Checked.both_eq_ok_iff.1 ok
  simp only [List.map_cons, List.map_nil, renders_textKeyed.field rfl apart okAppData,
    renders_textKeyed.field rfl apart okBundle]
  rfl

theorem renders_providers : Renders checkProviders (dictOf [("providers", .list [])]) fun items value =>
    ∃ providers, Listing providers items ∧ value = dictOf [("providers", providers)] := by
  refine Renders.model [("providers", .list [])] rfl (by decide) fun entries items apart ok => ?_
  exact ⟨_, (renders_texts []).field (.list []) apart ok, rfl⟩

theorem renders_logging : Renders checkLogging
    (dictOf [("level", .text "INFO"), ("console", .bool true), ("json_lines", .bool true)]) fun logging value =>
      ∃ console jsonLines, Truth console logging.console ∧ Truth jsonLines logging.jsonLines ∧
        value = dictOf [("level", .text logging.level), ("console", console), ("json_lines", jsonLines)] := by
  refine Renders.model [("level", .text default.logging.level), ("console", .bool true), ("json_lines", .bool true)]
    rfl (by decide) fun entries logging apart ok => ?_
  obtain ⟨level, _, okLevel, okForms, rfl⟩ := Checked.both_eq_ok_iff.1 ok
  obtain ⟨console, jsonLines, okConsole, okJsonLines, rfl⟩ := Checked.both_eq_ok_iff.1 okForms
  refine ⟨_, _, (renders_bool true).field (.self true) apart okConsole,
    (renders_bool true).field (.self true) apart okJsonLines, ?_⟩
  simp only [List.map_cons, List.map_nil, (renders_text _).field rfl apart okLevel]

/-- Settings are what they were made of, laid over the default. -/
theorem renders_settings : Renders checkSettings (dump default) fun s value =>
    ∃ providers console jsonLines, Listing providers s.providers ∧ Truth console s.logging.console ∧
      Truth jsonLines s.logging.jsonLines ∧ value = dumpWith s providers console jsonLines := by
  refine Renders.model [("app", default.app.dumped), ("host", default.host.dumped),
      ("templates", dictOf [("providers", .list [])]),
      ("logging", dictOf [("level", .text "INFO"), ("console", .bool true), ("json_lines", .bool true)])]
    rfl (by decide) fun entries s apart ok => ?_
  obtain ⟨_, _, okFirst, okSecond, rfl⟩ := Checked.both_eq_ok_iff.1 ok
  obtain ⟨app, host, okApp, okHost, rfl⟩ := Checked.both_eq_ok_iff.1 okFirst
  obtain ⟨items, logging, okProviders, okLogging, rfl⟩ := Checked.both_eq_ok_iff.1 okSecond
  obtain ⟨providers, listing, providersLaid⟩ := renders_providers.field ⟨_, .list [], rfl⟩ apart okProviders
  obtain ⟨console, jsonLines, isConsole, isJsonLines, loggingLaid⟩ :=
    renders_logging.field ⟨_, _, .self true, .self true, rfl⟩ apart okLogging
  refine ⟨providers, console, jsonLines, listing, isConsole, isJsonLines, ?_⟩
  have appLaid := renders_app.field rfl apart okApp
  have hostLaid := renders_shared.field rfl apart okHost
  simp only [List.map_cons, List.map_nil, appLaid, hostLaid, providersLaid, loggingLaid]
  rfl

end Forms

section Stable

variable {s : Settings} {data : Entries}

theorem ofValue_eq_ok_iff {value : Value} : ofValue value = .ok s ↔ checkSettings value = .ok s :=
  Checked.toReport_eq_ok_iff

theorem named_of_field {entries shared : Entries} {name : String}
    (ok : Check.field entries name [] Check.textKeyed = .ok shared) : shared.Named := by
  obtain ⟨given, absent⟩ := Check.field_eq_ok_iff.1 ok
  cases found : get? entries name with
  | none =>
    obtain rfl := absent found
    simp [Entries.Named, Entries.keys]
  | some value => exact (Check.textKeyed_eq_ok_iff.1 (given value found)).2

theorem named_of_checkShared {value : Value} {shared : Shared} (ok : checkShared value = .ok shared) :
    shared.appData.Named ∧ shared.bundle.Named := by
  obtain ⟨entries, rfl, -, ok⟩ := Check.model_eq_ok_iff.1 ok
  obtain ⟨appData, bundle, okAppData, okBundle, rfl⟩ := Checked.both_eq_ok_iff.1 ok
  exact ⟨named_of_field okAppData, named_of_field okBundle⟩

/-- The data that the host of settings shares have names, whatever the settings were made of. -/
theorem named_of_checkSettings {value : Value} (ok : checkSettings value = .ok s) :
    s.host.appData.Named ∧ s.host.bundle.Named := by
  obtain ⟨entries, rfl, -, ok⟩ := Check.model_eq_ok_iff.1 ok
  obtain ⟨_, _, okFirst, -, rfl⟩ := Checked.both_eq_ok_iff.1 ok
  obtain ⟨app, host, -, okHost, rfl⟩ := Checked.both_eq_ok_iff.1 okFirst
  obtain ⟨given, absent⟩ := Check.field_eq_ok_iff.1 okHost
  cases found : get? entries "host" with
  | none =>
    obtain rfl := absent found
    simp [Entries.Named, Entries.keys, default]
  | some value => exact named_of_checkShared (given value found)

theorem checkApp_dumped (app : App) : checkApp app.dumped = .ok app := rfl

theorem checkShared_dumped {shared : Shared} (appData : shared.appData.Named) (bundle : shared.bundle.Named) :
    checkShared shared.dumped = .ok shared := by
  have okAppData := Check.textKeyed_eq_ok_iff.2 ⟨rfl, appData⟩
  have okBundle := Check.textKeyed_eq_ok_iff.2 ⟨rfl, bundle⟩
  refine Check.model_eq_ok_iff.2
    ⟨_, rfl, Check.unknownFields_eq_nil_iff.1 rfl, Checked.both_eq_ok_iff.2 ⟨_, _, ?_, ?_, rfl⟩⟩
  · exact Checked.under_eq_ok_iff.2 okAppData
  · exact Checked.under_eq_ok_iff.2 okBundle

theorem checkProviders_dumped (items : List String) :
    checkProviders (dictOf [("providers", .list (items.map .text))]) = .ok items := by
  refine Check.model_eq_ok_iff.2 ⟨_, rfl, Check.unknownFields_eq_nil_iff.1 rfl, ?_⟩
  exact Checked.under_eq_ok_iff.2 (Check.texts_eq_ok_iff.2 (.list items))

theorem checkLogging_dumped (logging : Log.ConsoleSettings) :
    checkLogging (dictOf [("level", .text logging.level), ("console", .bool logging.console),
      ("json_lines", .bool logging.jsonLines)]) = .ok logging := rfl

/-- Settings that are dumped fit, and come out as they were. -/
theorem checkSettings_dump (appData : s.host.appData.Named) (bundle : s.host.bundle.Named) :
    checkSettings (dump s) = .ok s := by
  refine Check.model_eq_ok_iff.2 ⟨_, rfl, Check.unknownFields_eq_nil_iff.1 rfl, Checked.both_eq_ok_iff.2
    ⟨(s.app, s.host), (s.providers, s.logging), Checked.both_eq_ok_iff.2 ⟨_, _, ?_, ?_, rfl⟩,
      Checked.both_eq_ok_iff.2 ⟨_, _, ?_, ?_, rfl⟩, rfl⟩⟩
  · exact Checked.under_eq_ok_iff.2 (checkApp_dumped s.app)
  · exact Checked.under_eq_ok_iff.2 (checkShared_dumped appData bundle)
  · exact Checked.under_eq_ok_iff.2 (checkProviders_dumped s.providers)
  · exact Checked.under_eq_ok_iff.2 (checkLogging_dumped s.logging)

/-- Data fit the settings unless a key of a model is no field of it, or a field that is there is of another kind than
its own. The settings that come of them are the data laid over the default, with truth values for the words and numbers
that stand for them and a list for a tuple. These settings, dumped, fit again and come out the same. -/
theorem fitting_data_are_laid_over_the_default (apart : (Value.dict data).Everywhere Entries.Apart) :
    ((∃ report, ofValue (.dict data) = .error report) ↔
        ∃ place ∈ declared, ∃ held, (Value.dict data).along? (place.1.map .text) = some held ∧ ¬ place.2.Accepts held) ∧
      ∀ s, ofValue (.dict data) = .ok s →
        (∃ merged providers console jsonLines, merged = overlay (dump default).entriesOrNone data ∧
          valueAt? merged ["templates", "providers"] = some providers ∧ Listing providers s.providers ∧
          valueAt? merged ["logging", "console"] = some console ∧ Truth console s.logging.console ∧
          valueAt? merged ["logging", "json_lines"] = some jsonLines ∧ Truth jsonLines s.logging.jsonLines ∧
          dump s = .dict (setAt (setAt (setAt merged (.list (s.providers.map .text)) ["templates", "providers"])
            (.bool s.logging.console) ["logging", "console"]) (.bool s.logging.jsonLines) ["logging", "json_lines"])) ∧
        ofValue (dump s) = .ok s := by
  refine ⟨?_, fun s ok => ⟨?_, ?_⟩⟩
  · have decides := (decides_checkSettings (.dict data)).not
    simp only [Fits, not_forall, exists_prop] at decides
    rw [← decides, ofValue]
    cases checkSettings (.dict data) <;> simp [Checked.toReport, Except.mapError]
  · obtain ⟨providers, console, jsonLines, listing, isConsole, isJsonLines, laid⟩ :=
      renders_settings _ s apart (ofValue_eq_ok_iff.1 ok)
    have merged : overlay (dump default).entriesOrNone data = (dumpWith s providers console jsonLines).entriesOrNone :=
      congrArg Value.entriesOrNone laid
    refine ⟨_, providers, console, jsonLines, merged.symm, ?_, listing, ?_, isConsole, ?_, isJsonLines, ?_⟩ <;> rfl
  · obtain ⟨appData, bundle⟩ := named_of_checkSettings (ofValue_eq_ok_iff.1 ok)
    exact ofValue_eq_ok_iff.2 (checkSettings_dump appData bundle)

/-- Data with a number for a truth value, a tuple for a list, and most of the fields left out. -/
def partialData : Entries :=
  [(.text "logging", dictOf [("console", .int 0)]),
    (.text "templates", dictOf [("providers", .tuple [.text "a:B"])]),
    (.text "app", dictOf [("paths", dictOf [("repo_root", .text "/srv")])])]

/-- The settings that the partial data make. -/
def partialSettings : Settings :=
  ⟨⟨"Pict", "local", ⟨"/srv", "configs"⟩⟩, ⟨[], []⟩, ["a:B"], ⟨"INFO", false, true⟩⟩

theorem fitting_data_are_laid_over_the_default_partial : (Value.dict partialData).Everywhere Entries.Apart ∧
    (¬ ∃ report, ofValue (.dict partialData) = .error report) ∧ ofValue (.dict partialData) = .ok partialSettings ∧
    (∃ console, valueAt? (overlay (dump default).entriesOrNone partialData) ["logging", "console"] = some console ∧
      Truth console false) ∧
    ofValue (dump partialSettings) = .ok partialSettings := by
  have plain {key : Value} {s : Value} (plain : ∀ nested, s ≠ .dict nested) :
      (Value.dict [(key, s)]).Everywhere Entries.Apart :=
    Value.everywhere_dict (List.pairwise_singleton _ _) fun entry among =>
      List.mem_singleton.1 among ▸ Value.everywhere_plain plain
  have apart : (Value.dict partialData).Everywhere Entries.Apart := by
    refine Value.everywhere_dict (by decide) fun entry among => ?_
    simp only [partialData, List.mem_cons, List.not_mem_nil, or_false] at among
    rcases among with rfl | rfl | rfl
    · exact plain (by simp)
    · exact plain (by simp)
    · exact Value.everywhere_dict (List.pairwise_singleton _ _) fun entry among =>
        List.mem_singleton.1 among ▸ plain (by simp)
  have ok : ofValue (.dict partialData) = .ok partialSettings := rfl
  obtain ⟨-, laid⟩ := fitting_data_are_laid_over_the_default apart
  obtain ⟨⟨_, -, console, -, rfl, -, -, found, truth, -⟩, again⟩ := laid partialSettings ok
  exact ⟨apart, by simp [ok], ok, ⟨console, found, truth⟩, again⟩

end Stable

end Settings

end Stencil
