import Stencil.Proofs.Ties
import Stencil.Settings.Load

/-! Which source a setting comes from.

A variable counts for the path that it names, however its name is spelled. Variables of the
environment come first and those of the file of variables after them, so at a path that both name
in different spellings the file has the last word.
-/

set_option autoImplicit false

namespace Stencil.Settings

-- A path with the text that a variable puts there.
abbrev Setting := List String × String

/-- The settings that variables make, in order; a variable that names no path makes none. -/
def settingsOf (given : Variables) : List Setting :=
  given.filterMap fun (name, text) => (pathOf? name).map fun path => (path, text)

/-- The settings at, before and behind a path. -/
def touching (path : List String) (given : Variables) : List Setting :=
  (settingsOf given).filter fun setting => Comparable setting.1 path

/-- The value that a text writes; a text that writes none counts as nothing. -/
def scalarOf (text : String) : Value :=
  (readScalar text).toOption.getD .null

def putAll (entries : Entries) (settings : List Setting) : Entries :=
  settings.foldl (fun found setting => setAt found (scalarOf setting.2) setting.1) entries

theorem settingsOf_append (first second : Variables) :
    settingsOf (first ++ second) = settingsOf first ++ settingsOf second :=
  List.filterMap_append

theorem settingsOf_cons {name : String} {path : List String} (names : pathOf? name = some path) (text : String)
    (later : Variables) : settingsOf ((name, text) :: later) = (path, text) :: settingsOf later := by
  simp [settingsOf, names]

theorem touching_append (path : List String) (first second : Variables) :
    touching path (first ++ second) = touching path first ++ touching path second := by
  simp [touching, settingsOf_append]

theorem extendFirst_ne_nil (c : Char) (pieces : List (List Char)) : Text.extendFirst c pieces ≠ [] := by
  cases pieces <;> simp [Text.extendFirst]

theorem splitOnPair_ne_nil (a b : Char) (text : List Char) : Text.splitOnPair a b text ≠ [] := by
  match text with
  | [] => simp [Text.splitOnPair]
  | [c] => simp [Text.splitOnPair]
  | c :: d :: rest =>
    simp only [Text.splitOnPair]
    split
    · simp
    · exact extendFirst_ne_nil _ _

theorem normalPath_ne_nil {path : List (List Char)} (filled : path ≠ []) : normalPath path ≠ [] := by
  match path with
  | [] => exact absurd rfl filled
  | [_] => simp [normalPath]
  | _ :: _ :: _ => simp [normalPath]

-- A variable that names a path names one that leads somewhere.
theorem pathOf?_ne_nil {name : String} {path : List String} (names : pathOf? name = some path) : path ≠ [] := by
  simp only [pathOf?, Option.bind_eq_some_iff] at names
  obtain ⟨rest, -, named⟩ := names
  split at named
  · simp at named
  · rw [← Option.some.inj named]
    exact normalPath_ne_nil (splitOnPair_ne_nil _ _ _)

theorem ne_nil_of_mem_settingsOf {given : Variables} {setting : Setting}
    (member : setting ∈ settingsOf given) : setting.1 ≠ [] := by
  obtain ⟨⟨name, text⟩, -, made⟩ := List.mem_filterMap.1 member
  obtain ⟨path, names, rfl⟩ := Option.map_eq_some_iff.1 made
  exact pathOf?_ne_nil names

theorem readScalar_ne_dict {text : String} {value : Value} (written : readScalar text = .ok value)
    (nested : Entries) : value ≠ .dict nested := by
  rcases readScalar_cases written with ⟨_, rfl⟩ | ⟨_, rfl, -⟩ | ⟨_, rfl⟩ | rfl
  all_goals rintro ⟨⟩

theorem scalarOf_of_readScalar {text : String} {value : Value} (written : readScalar text = .ok value) :
    scalarOf text = value := by
  simp [scalarOf, written, Except.toOption]

theorem scalarOf_ne_dict (text : String) (nested : Entries) : scalarOf text ≠ .dict nested := by
  cases written : readScalar text with
  | error fault => simp [scalarOf, written, Except.toOption]
  | ok value => exact scalarOf_of_readScalar written ▸ readScalar_ne_dict written nested

-- The first of some variables names no path, or else its value is read and put in.
theorem applyVariables_cons {applied after : Applied} {name text : String} {rest : Variables}
    (ok : applyVariables applied ((name, text) :: rest) = .ok after) :
    (pathOf? name = none ∧ applyVariables applied rest = .ok after) ∨
      ∃ path, pathOf? name = some path ∧ readScalar text = .ok (scalarOf text) ∧
        applyVariables (applied.put path (scalarOf text)) rest = .ok after := by
  simp only [applyVariables] at ok
  cases names : pathOf? name with
  | none =>
    rw [names] at ok
    exact .inl ⟨rfl, ok⟩
  | some path =>
    rw [names] at ok
    cases written : readScalar text with
    | error fault => simp [written, bind, Except.bind] at ok
    | ok value =>
      rw [scalarOf_of_readScalar written]
      exact .inr ⟨path, rfl, rfl, by simpa [written, bind, Except.bind] using ok⟩

/-- Applying variables puts their settings into the configuration; every one of their texts writes a value. -/
theorem result_applyVariables {applied after : Applied} {given : Variables} (untied : applied.Untied)
    (ok : applyVariables applied given = .ok after) :
    after.result = putAll applied.result (settingsOf given) ∧
      ∀ setting ∈ settingsOf given, readScalar setting.2 = .ok (scalarOf setting.2) := by
  induction given generalizing applied with
  | nil =>
    cases ok
    exact ⟨rfl, by simp [settingsOf]⟩
  | cons entry rest ih =>
    obtain ⟨name, text⟩ := entry
    obtain ⟨unnamed, later⟩ | ⟨path, names, written, later⟩ := applyVariables_cons ok
    · simpa [settingsOf, unnamed] using ih untied later
    · obtain ⟨result, writes⟩ := ih (untied.put path _) later
      rw [settingsOf_cons names, List.forall_mem_cons]
      rw [Applied.result_put untied] at result
      exact ⟨result, written, writes⟩

-- Settings that do not touch a path leave it as it was.
theorem valueAt?_putAll_untouched {settings : List Setting} {path : List String} (entries : Entries)
    (untouched : settings.filter (fun setting => Comparable setting.1 path) = []) :
    valueAt? (putAll entries settings) path = valueAt? entries path := by
  induction settings generalizing entries with
  | nil => rfl
  | cons setting rest ih =>
    rw [List.filter_eq_nil_iff] at untouched
    have apart : ¬ Comparable setting.1 path := by simpa using untouched setting List.mem_cons_self
    have others : rest.filter (fun setting => Comparable setting.1 path) = [] := by
      rw [List.filter_eq_nil_iff]
      exact fun other member => untouched other (List.mem_cons_of_mem _ member)
    exact (ih _ others).trans (valueAt?_setAt_of_not_comparable _ _ apart)

/-- Of the settings that touch a path, the last one decides what is there. -/
theorem valueAt?_putAll_last {settings : List Setting} {path : List String} (entries : Entries) {last : Setting}
    (decides : (settings.filter fun setting => Comparable setting.1 path).getLast? = some last) :
    ∃ before, valueAt? (putAll entries settings) path = valueAt? (setAt before (scalarOf last.2) last.1) path := by
  induction settings generalizing entries with
  | nil => simp at decides
  | cons setting rest ih =>
    -- Later settings that touch the path undo this one; if there are none it is the last itself.
    by_cases others : rest.filter (fun setting => Comparable setting.1 path) = []
    · have same : setting = last := by
        rw [List.filter_cons, others] at decides
        split at decides <;> simp_all
      subst same
      exact ⟨entries, valueAt?_putAll_untouched _ others⟩
    · apply ih
      rw [List.filter_cons] at decides
      split at decides
      · rwa [List.getLast?_cons_of_ne_nil others] at decides
      · exact decides

/-- A path holds the value of a text exactly if the last setting that touches it is at the path itself and
writes the same value. -/
theorem valueAt?_putAll_iff {settings : List Setting} {path : List String} (entries : Entries) {last : Setting}
    (filled : path ≠ []) (leads : last.1 ≠ [])
    (decides : (settings.filter fun setting => Comparable setting.1 path).getLast? = some last) (text : String) :
    valueAt? (putAll entries settings) path = some (scalarOf text) ↔
      last.1 = path ∧ scalarOf last.2 = scalarOf text := by
  -- A setting behind the path leaves a dictionary there, one before it leaves nothing; a text writes neither.
  obtain ⟨before, found⟩ := valueAt?_putAll_last entries decides
  have comparable : Comparable last.1 path := by
    simpa using (List.mem_filter.1 (List.mem_of_getLast? decides)).2
  rw [found]
  by_cases here : last.1 = path
  · rw [here, valueAt?_setAt_self _ _ filled]
    simp
  · rcases comparable with before | behind
    · rw [valueAt?_setAt_of_extension _ (scalarOf_ne_dict _) leads before (Ne.symm here)]
      simp [here]
    · obtain ⟨nested, holds⟩ := valueAt?_setAt_of_prefix _ (scalarOf last.2) filled behind (Ne.symm here)
      rw [holds]
      simp [here, Ne.symm (scalarOf_ne_dict text nested)]

/-- A path that the first source does not touch is touched by all variables of the second alike. -/
theorem touching_newVariables {path : List String} {first : Variables} (untouched : touching path first = [])
    (second : Variables) : touching path (newVariables first second) = touching path second := by
  induction second with
  | nil => rfl
  | cons entry rest ih =>
    obtain ⟨name, text⟩ := entry
    by_cases known : first.any (·.1 == name) = true
    · -- A name that the first source sets names no path that touches this one.
      have quiet : touching path [(name, text)] = [] := by
        obtain ⟨⟨same, held⟩, member, isName⟩ := List.any_eq_true.1 known
        obtain rfl : same = name := by simpa using isName
        simp only [touching, settingsOf, List.filterMap_cons, List.filterMap_nil]
        cases names : pathOf? same with
        | none => rfl
        | some found =>
          have apart := List.filter_eq_nil_iff.1 untouched (found, held)
            (List.mem_filterMap.2 ⟨(same, held), member, by simp [names]⟩)
          simpa using apart
      have dropped : newVariables first ((name, text) :: rest) = newVariables first rest := by
        simp [newVariables, known]
      rw [dropped, ih, ← List.singleton_append, touching_append path [(name, text)] rest, quiet, List.nil_append]
    · have kept : newVariables first ((name, text) :: rest) = [(name, text)] ++ newVariables first rest := by
        simp [newVariables, known]
      rw [kept, touching_append, ih, ← touching_append, List.singleton_append]

theorem overlay_plain_entry (base : Entries) (name : String) {value : Value} (plain : ∀ nested, value ≠ .dict nested)
    (rest : Entries) : overlay base ((.text name, value) :: rest) = overlay (Entries.set base name value) rest := by
  cases value <;> simp_all [overlay, overValue, Entries.set]

/-- Where the configuration was read from is put at two paths of its own. -/
theorem overlay_whereabouts (sources : Sources) (root : Location) (entries : Entries) :
    overlay entries (sources.whereabouts root) =
      setAt (setAt entries (.text root.path) ["app", "paths", "repo_root"]) (.text sources.configsName)
        ["app", "paths", "configs_dir"] := by
  have inner (base : Entries) :
      overlay base [(.text "repo_root", .text root.path), (.text "configs_dir", .text sources.configsName)] =
        Entries.set (Entries.set base "repo_root" (.text root.path)) "configs_dir" (.text sources.configsName) := by
    rw [overlay_plain_entry _ _ (by simp), overlay_plain_entry _ _ (by simp), overlay_nil]
  have paths (base : Entries) := overlay_dict_entry base [(.text "repo_root", .text root.path),
    (.text "configs_dir", .text sources.configsName)] "paths" (by rw [inner]; rfl)
  have app := overlay_dict_entry entries [(.text "paths", .dict [(.text "repo_root", .text root.path),
    (.text "configs_dir", .text sources.configsName)])] "app" (by rw [paths, inner]; rfl)
  simp only [Sources.whereabouts, dictOf, List.map_cons, List.map_nil]
  rw [app, paths, inner]
  simp [setAt, Entries.set_set]

theorem get?_overlay_section (base entries : Entries) (name other : String) (fresh : Entries.get? base name = none) :
    Entries.get? (overlay base [(.text name, .dict entries)]) other =
      if name = other then some (.dict entries) else Entries.get? base other := by
  have put : overlay base [(.text name, .dict entries)] = Entries.set base name (.dict entries) := by
    have absent : Entries.find? base (.text name) = none := fresh
    simp [overlay, overValue, absent, Entries.set]
  rw [put]
  split
  · rename_i same
    rw [same, Entries.get?_set_self]
  · rename_i different
    exact Entries.get?_set_of_ne different _ _

/-- No dictionary stands at two places of a section file. -/
def Sources.Untied (sources : Sources) : Prop :=
  ∀ root, sources.root = .ok root → ∀ name ∈ sections, ∀ held,
    sources.sectionEntries root name = .ok held → held.ties = []

-- Every section stands under its name, and nothing else was read.
theorem get?_readSections {sources : Sources} {root : Location} {names : List String} {base yaml : Tied}
    (distinct : names.Nodup) (fresh : ∀ name ∈ names, Entries.get? base.entries name = none)
    (read : sources.readSections root names base = .ok yaml) :
    (∀ name ∈ names, ∃ held, sources.sectionEntries root name = .ok held ∧
      Entries.get? yaml.entries name = some (.dict held.entries)) ∧
    ∀ name ∉ names, Entries.get? yaml.entries name = Entries.get? base.entries name := by
  induction names generalizing base with
  | nil =>
    cases read
    exact ⟨by simp, fun _ _ => rfl⟩
  | cons name rest ih =>
    obtain ⟨new, distinct⟩ := List.nodup_cons.1 distinct
    cases here : sources.sectionEntries root name with
    | error fault => simp [Sources.readSections, here, bind, Except.bind] at read
    | ok held =>
      have unread := fresh name List.mem_cons_self
      have later : ∀ other ∈ rest,
          Entries.get? (overlay base.entries [(.text name, .dict held.entries)]) other = none := by
        intro other member
        have different : name ≠ other := fun same => new (same ▸ member)
        rw [get?_overlay_section _ _ _ _ unread, if_neg different]
        exact fresh other (List.mem_cons_of_mem _ member)
      simp only [Sources.readSections, here, bind, Except.bind] at read
      obtain ⟨found, others⟩ := ih distinct later read
      constructor
      · intro other member
        rcases List.mem_cons.1 member with rfl | member
        · refine ⟨held, here, ?_⟩
          rw [others _ new, get?_overlay_section _ _ _ _ unread, if_pos rfl]
        · exact found other member
      · intro other absent
        have different : name ≠ other := fun same => absent (same ▸ List.mem_cons_self)
        rw [others other fun member => absent (List.mem_cons_of_mem _ member),
          get?_overlay_section _ _ _ _ unread, if_neg different]

theorem ties_readSections {sources : Sources} {root : Location} {names : List String} {base yaml : Tied}
    (untied : ∀ name ∈ names, ∀ held, sources.sectionEntries root name = .ok held → held.ties = [])
    (read : sources.readSections root names base = .ok yaml) : yaml.ties = base.ties := by
  induction names generalizing base with
  | nil =>
    cases read
    rfl
  | cons name rest ih =>
    obtain ⟨first, later⟩ := List.forall_mem_cons.1 untied
    cases here : sources.sectionEntries root name with
    | error fault => simp [Sources.readSections, here, bind, Except.bind] at read
    | ok held =>
      simp only [Sources.readSections, here, bind, Except.bind] at read
      rw [ih later read, first held here, List.append_nil]

def whereaboutsPaths : List (List String) :=
  [["app", "paths", "repo_root"], ["app", "paths", "configs_dir"]]

/-- What the section files and the file of variables of some sources hold: the entries of every
section under its name and nothing else, and the variables in order. -/
structure Sources.Hold (sources : Sources) (yaml : Entries) (fromFile : Variables) : Prop where
  section_entries : ∀ name ∈ sections, ∃ root held, sources.root = .ok root ∧
    sources.sectionEntries root name = .ok held ∧ Entries.get? yaml name = some (.dict held.entries)
  nothing_else : ∀ name ∉ sections, Entries.get? yaml name = none
  file : ∃ root, sources.root = .ok root ∧ sources.fileVariables root = .ok fromFile

/-- Away from its whereabouts, a loaded configuration is what the section files hold with the
settings of all variables put into it, first those of the environment. -/
theorem valueAt?_of_load {sources : Sources} {settings : Settings} {merged : Entries} (untied : sources.Untied)
    (loaded : load sources = .ok (settings, merged)) :
    ∃ yaml fromFile, sources.Hold yaml fromFile ∧
      (∀ setting ∈ settingsOf (joinVariables sources.exported fromFile),
        readScalar setting.2 = .ok (scalarOf setting.2)) ∧
      ∀ path, (∀ place ∈ whereaboutsPaths, ¬ Comparable path place) →
        valueAt? merged path = valueAt? (putAll yaml (settingsOf (joinVariables sources.exported fromFile))) path := by
  simp only [load, Sources.merged, bind, Except.bind] at loaded
  cases hroot : sources.root with
  | error fault => simp [hroot] at loaded
  | ok root =>
  cases hyaml : sources.readSections root sections ⟨[], []⟩ with
  | error fault => simp [hroot, hyaml] at loaded
  | ok yaml =>
  cases hfile : sources.fileVariables root with
  | error fault => simp [hroot, hyaml, hfile] at loaded
  | ok fromFile =>
  cases happlied : applyVariables (.startTied yaml) (joinVariables sources.exported fromFile) with
  | error fault => simp [hroot, hyaml, hfile, happlied] at loaded
  | ok applied =>
    have ties : yaml.ties = [] := ties_readSections (untied root hroot) hyaml
    obtain ⟨result, values⟩ := result_applyVariables ⟨ties, ties⟩ happlied
    obtain ⟨found, others⟩ := get?_readSections (by decide) (by simp) hyaml
    have isMerged : merged = overlay applied.result (sources.whereabouts root) := by
      simp only [hroot, hyaml, hfile, happlied, Outcome.ofNumeral_ok, pure, Except.pure] at loaded
      split at loaded
      · exact ((Prod.mk.inj (Except.ok.inj loaded)).2).symm
      · cases loaded
    refine ⟨yaml.entries, fromFile, ⟨?_, fun name absent => others name absent, root, hroot, hfile⟩, values, ?_⟩
    · intro name member
      obtain ⟨held, read, stands⟩ := found name member
      exact ⟨root, held, hroot, read, stands⟩
    · intro path apart
      have first := apart ["app", "paths", "repo_root"] (by simp [whereaboutsPaths])
      have second := apart ["app", "paths", "configs_dir"] (by simp [whereaboutsPaths])
      rw [isMerged, overlay_whereabouts, valueAt?_setAt_of_not_comparable _ _ fun c => second c.symm,
        valueAt?_setAt_of_not_comparable _ _ fun c => first c.symm, result]
      rfl

/-- Where a setting comes from, if no dictionary stands at two places of a section file. A value that the
environment alone puts at a path is found there exactly if no variable of the file that the environment
leaves unset touches the path, or the last that does is at the path itself and writes the same value. A value
that only the file puts there is found there, and where no variable touches a path the section files count. -/
theorem load_precedence {sources : Sources} {settings : Settings} {merged : Entries} (untied : sources.Untied)
    (loaded : load sources = .ok (settings, merged)) :
    ∃ yaml fromFile, sources.Hold yaml fromFile ∧
      ∀ path, (∀ place ∈ whereaboutsPaths, ¬ Comparable path place) →
        (∀ text, touching path sources.exported = [(path, text)] → ∃ value, readScalar text = .ok value ∧
          (valueAt? merged path = some value ↔
            ∀ last, (touching path (newVariables sources.exported fromFile)).getLast? = some last →
              last.1 = path ∧ readScalar last.2 = .ok value)) ∧
        (∀ text, touching path sources.exported = [] → touching path fromFile = [(path, text)] →
          ∃ value, readScalar text = .ok value ∧ valueAt? merged path = some value) ∧
        (touching path sources.exported = [] → touching path fromFile = [] →
          valueAt? merged path = valueAt? yaml path) := by
  obtain ⟨yaml, fromFile, hold, values, same⟩ := valueAt?_of_load untied loaded
  refine ⟨yaml, fromFile, hold, fun path apart => ?_⟩
  have filled : path ≠ [] := fun none =>
    apart _ List.mem_cons_self (none ▸ (comparable_nil ["app", "paths", "repo_root"]).symm)
  have join : touching path (joinVariables sources.exported fromFile) =
      touching path sources.exported ++ touching path (newVariables sources.exported fromFile) := touching_append _ _ _
  have among {setting : Setting} (member : setting ∈ touching path (joinVariables sources.exported fromFile)) :
      setting ∈ settingsOf (joinVariables sources.exported fromFile) :=
    (List.mem_filter.1 member).1
  rw [same path apart]
  refine ⟨?_, ?_, ?_⟩
  · intro text only
    have first : (path, text) ∈ touching path (joinVariables sources.exported fromFile) := by simp [join, only]
    refine ⟨scalarOf text, values (path, text) (among first), ?_⟩
    cases decides : (touching path (newVariables sources.exported fromFile)).getLast? with
    | none =>
      -- Nothing of the file touches the path, so the environment has the last word.
      have whole : (touching path (joinVariables sources.exported fromFile)).getLast? = some (path, text) := by
        simp [join, only, List.getLast?_eq_none_iff.1 decides]
      rw [valueAt?_putAll_iff yaml filled filled whole]
      simp
    | some last =>
      -- The file comes after the environment: its last setting decides.
      have whole : (touching path (joinVariables sources.exported fromFile)).getLast? = some last := by
        simp [join, decides]
      have member := among (List.mem_of_getLast? whole)
      rw [valueAt?_putAll_iff yaml filled (ne_nil_of_mem_settingsOf member) whole]
      have writes : readScalar last.2 = .ok (scalarOf text) ↔ scalarOf last.2 = scalarOf text := by
        rw [values last member, Except.ok.injEq]
      constructor
      · rintro ⟨here, value⟩ other found
        obtain rfl := Option.some.inj found
        exact ⟨here, writes.2 value⟩
      · intro all
        obtain ⟨here, value⟩ := all last rfl
        exact ⟨here, writes.1 value⟩
  · intro text untouched only
    have whole : touching path (joinVariables sources.exported fromFile) = [(path, text)] := by
      rw [join, untouched, touching_newVariables untouched, only, List.nil_append]
    refine ⟨scalarOf text, values (path, text) (among (by simp [whole])), ?_⟩
    have last : (touching path (joinVariables sources.exported fromFile)).getLast? = some (path, text) := by simp [whole]
    exact (valueAt?_putAll_iff yaml filled filled last text).2 ⟨rfl, rfl⟩
  · intro untouched empty
    apply valueAt?_putAll_untouched
    change touching path (joinVariables sources.exported fromFile) = []
    rw [join, untouched, touching_newVariables untouched, empty, List.nil_append]

/-- A variable of the environment and one of the file that name one path in two spellings. -/
def twoSpellings : Sources where
  reader := Yaml.read
  files := ⟨[(["work", ".env"], "PICT__app__product=blue\n".toList)], [["work"]]⟩
  environment := [("PICT__APP__PRODUCT", "red")]
  workingDirectory := ["work"]
  repoRoot := ""
  configsDir := ""
  variablesFile := ""

/-- The file has the last word where it spells a name differently. -/
theorem load_precedence_two_spellings : twoSpellings.Untied ∧ ∃ settings merged,
    load twoSpellings = .ok (settings, merged) ∧
    touching ["app", "product"] twoSpellings.exported = [(["app", "product"], "red")] ∧
    readScalar "red" = .ok (.text "red") ∧ valueAt? merged ["app", "product"] ≠ some (.text "red") := by
  have place {root : Location} (isRoot : twoSpellings.root = .ok root) : root = ["work"] := by
    have work : twoSpellings.root.toOption = some ["work"] := by decide +kernel
    simpa [isRoot, Except.toOption] using work
  have untied : twoSpellings.Untied := by
    intro root isRoot name among held read
    obtain rfl := place isRoot
    have none : ∀ name ∈ sections, (twoSpellings.sectionEntries ["work"] name).toOption.all (·.ties.isEmpty) = true := by
      decide +kernel
    simpa [read, Except.toOption] using none name among
  have loads : (load twoSpellings).toOption.isSome = true := by decide +kernel
  have only : touching ["app", "product"] twoSpellings.exported = [(["app", "product"], "red")] := by decide +kernel
  have red : readScalar "red" = .ok (.text "red") := rfl
  have blue : readScalar "blue" = .ok (.text "blue") := rfl
  cases loaded : load twoSpellings with
  | error fault => simp [loaded, Except.toOption] at loads
  | ok result =>
    obtain ⟨settings, merged⟩ := result
    refine ⟨untied, settings, merged, rfl, only, red, ?_⟩
    obtain ⟨yaml, fromFile, hold, precedence⟩ := load_precedence untied loaded
    obtain ⟨root, isRoot, reads⟩ := hold.file
    obtain rfl := place isRoot
    have file : (twoSpellings.fileVariables ["work"]).toOption = some [("PICT__app__product", "blue")] := by
      decide +kernel
    obtain rfl : fromFile = [("PICT__app__product", "blue")] := by simpa [reads, Except.toOption] using file
    have last : (touching ["app", "product"]
        (newVariables twoSpellings.exported [("PICT__app__product", "blue")])).getLast? =
          some (["app", "product"], "blue") := by decide +kernel
    obtain ⟨value, writes, counts⟩ := (precedence ["app", "product"] (by decide +kernel)).1 "red" only
    obtain rfl := Except.ok.inj (red.symm.trans writes)
    intro found
    have same := (counts.1 found _ last).2
    rw [blue] at same
    simp at same

end Stencil.Settings
