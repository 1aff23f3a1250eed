import Stencil.Proofs.Reading
import Stencil.Settings.Load

/-! What keeps settings from being loaded.

Where the sources can be read, laying them over each other never fails, and putting in a variable fails
only on a text of digit signs that denotes no number. Apart from that, settings are loaded, or the
configuration is invalid and the fault says so.
-/

set_option autoImplicit false

namespace Stencil

open Text Number

namespace Text

def digitRanges : CharRanges :=
  digitZeros.map (fun first => (first, first + 9)) ++ digitSigns

theorem has_digitRanges {c : Char} (sign : isDigitSign c = true) : digitRanges.has c = true := by
  rw [CharRanges.has_iff]
  simp only [isDigitSign, digitValue?, Option.isSome_map, Bool.or_eq_true, List.find?_isSome, Bool.and_eq_true,
    decide_eq_true_eq, CharRanges.has_iff] at sign
  rcases sign with ⟨first, isZero, low, high⟩ | ⟨range, isRange, within⟩
  · exact ⟨_, List.mem_append_left _ (List.mem_map.2 ⟨first, isZero, rfl⟩), low, Nat.lt_succ_iff.1 high⟩
  · exact ⟨range, List.mem_append_right _ isRange, within⟩

theorem capitalRuns_apart : ∀ range ∈ digitRanges, ∀ run ∈ capitalRuns, run.2.1 < range.1 ∨ range.2 < run.1 := by
  decide +kernel

/-- A digit sign is no capital. -/
theorem smallLetter_of_isDigitSign {c : Char} (sign : isDigitSign c = true) : smallLetter c = c := by
  obtain ⟨range, isRange, low, high⟩ := (CharRanges.has_iff _ _).1 (has_digitRanges sign)
  unfold smallLetter
  split
  · rename_i found
    have apart := capitalRuns_apart range isRange _ (List.mem_of_find?_eq_some found)
    have inRun := List.find?_some found
    simp only [Bool.and_eq_true, decide_eq_true_eq] at inRun apart
    omega
  · rfl

theorem head?_lowercase {c : Char} (small : smallLetter c = c) (notSigma : c ≠ 'Σ') (notDotted : c ≠ 'İ')
    (rest : List Char) : (lowercase (c :: rest)).head? = some c := by
  simp [lowercase, lowercaseAfter, notSigma, notDotted, small]

end Text

namespace Settings

/-- A text whose digit signs, perhaps behind a minus sign, denote no number. -/
def Misread (text : String) : Prop :=
  Unreadable (withoutSign (trim text.toList))

theorem exists_readInt_iff {s : List Char} (signs : allDigitSigns (withoutSign s) = true) :
    (∃ n, readInt s = .ok n) ↔ ¬ Unreadable (withoutSign s) := by
  rw [← exists_readNat_iff signs]
  unfold readInt
  split
  · rename_i digits
    have behind : withoutSign ('-' :: digits) = digits := rfl
    rw [behind]
    cases readNat digits with
    | ok n => simp
    | error fault => cases fault <;> simp
  · have whole : withoutSign s = s := by simp [withoutSign]
    rw [whole]
    cases readNat s <;> simp [Except.map]

/-- Digit signs with or without a sign in front are no word. -/
theorem head?_lowercase_of_signs {s : List Char} (signs : allDigitSigns (withoutSign s) = true) :
    (lowercase s).head? ≠ some 't' ∧ (lowercase s).head? ≠ some 'f' := by
  have letters : isDigitSign 't' = false ∧ isDigitSign 'f' = false := by decide +kernel
  have capitals : isDigitSign 'Σ' = false ∧ isDigitSign 'İ' = false := by decide +kernel
  cases s with
  | nil => simp [lowercase_nil]
  | cons c rest =>
    by_cases minus : c = '-'
    · subst minus
      rw [head?_lowercase (by decide +kernel) (by decide) (by decide)]
      decide
    · have unsigned : withoutSign (c :: rest) = c :: rest := by
        simp [withoutSign, minus]
      rw [unsigned] at signs
      have sign : isDigitSign c = true := by
        simp only [allDigitSigns, List.isEmpty_cons, Bool.not_false, Bool.true_and, List.all_cons,
          Bool.and_eq_true] at signs
        exact signs.1
      have different {other : Char} (none : isDigitSign other = false) : c ≠ other := by
        rintro rfl
        simp [sign] at none
      rw [head?_lowercase (smallLetter_of_isDigitSign sign) (different capitals.1) (different capitals.2)]
      exact ⟨fun same => different letters.1 (Option.some.inj same),
        fun same => different letters.2 (Option.some.inj same)⟩

/-- Digit signs are read as an integer, and as nothing else. -/
theorem readScalar_of_signs {text : String} (signs : allDigitSigns (withoutSign (trim text.toList)) = true) :
    readScalar text = (readInt (trim text.toList)).map .int := by
  unfold readScalar
  generalize trim text.toList = inner at signs ⊢
  obtain ⟨notTrue, notFalse⟩ := head?_lowercase_of_signs signs
  have noTrue : lowercase inner ≠ "true".toList := fun word => notTrue (by rw [word]; rfl)
  have noFalse : lowercase inner ≠ "false".toList := fun word => notFalse (by rw [word]; rfl)
  simp only [noTrue, noFalse, if_false, signs, if_true]

/-- A text is read as a value unless its digit signs denote no number. -/
theorem exists_readScalar_iff (text : String) : (∃ value, readScalar text = .ok value) ↔ ¬ Misread text := by
  unfold Misread
  cases signs : allDigitSigns (withoutSign (trim text.toList)) with
  | true =>
    rw [readScalar_of_signs signs, ← exists_readInt_iff signs]
    cases readInt (trim text.toList) <;> simp [Except.map]
  | false =>
    have legible : ¬ Unreadable (withoutSign (trim text.toList)) := fun unreadable => by simp [unreadable.1] at signs
    refine iff_of_true ?_ legible
    simp only [readScalar, signs]
    split
    · exact ⟨_, rfl⟩
    split
    · exact ⟨_, rfl⟩
    rw [if_neg Bool.false_ne_true]
    split <;> exact ⟨_, rfl⟩

/-- Variables are put into a configuration unless one that names a path cannot be read. -/
theorem exists_applyVariables_iff (given : Variables) (applied : Applied) :
    (∃ after, applyVariables applied given = .ok after) ↔
      ∀ entry ∈ given, (pathOf? entry.1).isSome = true → ¬ Misread entry.2 := by
  induction given generalizing applied with
  | nil => simp [applyVariables]
  | cons entry rest ih =>
    obtain ⟨name, text⟩ := entry
    rw [List.forall_mem_cons, applyVariables]
    cases names : pathOf? name with
    | none => simpa [names] using ih applied
    | some path =>
      rw [← exists_readScalar_iff]
      cases reads : readScalar text with
      | error fault => simp [bind, Except.bind]
      | ok value => simpa [bind, Except.bind] using ih (applied.put path value)

theorem exists_readSections_iff (sources : Sources) (root : Location) (names : List String) (merged : Tied) :
    (∃ fromFiles, sources.readSections root names merged = .ok fromFiles) ↔
      ∀ name ∈ names, ∃ held, sources.sectionEntries root name = .ok held := by
  induction names generalizing merged with
  | nil => simp [Sources.readSections]
  | cons name rest ih =>
    rw [List.forall_mem_cons, Sources.readSections]
    cases sources.sectionEntries root name with
    | error fault => simp [bind, Except.bind]
    | ok held => simpa [bind, Except.bind] using ih _

section Sources

variable {sources : Sources} {root : Location} {text? : Option (List Char)}

/-- A text holds nothing, or a document that the reader can read. -/
def WellFormed (reader : Yaml.Reader) (text : List Char) : Prop :=
  trim (unifyNewlines text) = [] ∨ ∃ document, reader (trim (unifyNewlines text)) = .ok document

def Sources.sectionPlace (sources : Sources) (root : Location) (name : String) : Location :=
  (root.join sources.configsName).join (name ++ ".yaml")

/-- Where the file of variables is, and the path that leads there. -/
def Sources.variablesPlace (sources : Sources) (root : Location) : String × Location :=
  if sources.variablesFile.isEmpty then (Location.path (root ++ [".env"]), root ++ [".env"])
  else (spelling sources.variablesFile, sources.workingDirectory.join sources.variablesFile)

/-- The root directory is there, every section file is absent or well formed, and the file of variables is
absent or holds some text. -/
structure Sources.Open (sources : Sources) (root : Location) (text? : Option (List Char)) : Prop where
  place : sources.root = .ok root
  wellFormed : ∀ name ∈ sections, ∃ section?,
    sources.textAt? (sources.sectionPlace root name).path (sources.sectionPlace root name) = .ok section? ∧
      ∀ text ∈ section?, WellFormed sources.reader text
  file : sources.textAt? (sources.variablesPlace root).1 (sources.variablesPlace root).2 = .ok text?

/-- The variables that count, those of the environment before those of the file. -/
def Sources.counted (sources : Sources) (text? : Option (List Char)) : Variables :=
  joinVariables sources.exported ((text?.map readVariables).getD [])

/-- Every variable that names a path can be read. -/
def Sources.Legible (sources : Sources) (text? : Option (List Char)) : Prop :=
  ∀ entry ∈ sources.counted text?, (pathOf? entry.1).isSome = true → ¬ Misread entry.2

theorem WellFormed.exists_readMapping {reader : Yaml.Reader} {text : List Char} (wellFormed : WellFormed reader text) :
    ∃ held, readMapping reader text = .ok held := by
  unfold readMapping
  rcases wellFormed with empty | ⟨document, read⟩
  · exact ⟨⟨[], []⟩, by simp [empty]⟩
  · simp only [read]
    split <;> exact ⟨_, rfl⟩

theorem Sources.Open.exists_sectionEntries (isOpen : sources.Open root text?) :
    ∀ name ∈ sections, ∃ held, sources.sectionEntries root name = .ok held := by
  intro name among
  obtain ⟨section?, found, wellFormed⟩ := isOpen.wellFormed name among
  simp only [Sources.sectionPlace] at found
  simp only [Sources.sectionEntries, found, bind, Except.bind]
  cases section? with
  | none => exact ⟨⟨[], []⟩, rfl⟩
  | some text =>
    obtain ⟨held, read⟩ := (wellFormed text rfl).exists_readMapping
    exact ⟨sectionOf name held, by simp only [read]; rfl⟩

theorem Sources.Open.fileVariables (isOpen : sources.Open root text?) :
    sources.fileVariables root = .ok ((text?.map readVariables).getD []) := by
  have found := isOpen.file
  simp only [Sources.variablesPlace] at found
  simp only [Sources.fileVariables, bind, Except.bind]
  split at found
  · rename_i beside
    rw [if_pos beside, found]
    rfl
  · rename_i named
    rw [if_neg named, found]
    rfl

/-- Sources that can be read are laid over each other once their variables are put in. -/
theorem Sources.Open.merged (isOpen : sources.Open root text?) : ∃ fromFiles,
    sources.merged = (Outcome.ofNumeral (applyVariables (.startTied fromFiles) (sources.counted text?))).map
      fun applied => overlay applied.result (sources.whereabouts root) := by
  obtain ⟨fromFiles, read⟩ := (exists_readSections_iff sources root _ ⟨[], []⟩).2 isOpen.exists_sectionEntries
  refine ⟨fromFiles, ?_⟩
  simp only [Sources.merged, isOpen.place, read, isOpen.fileVariables, Sources.counted, bind, Except.bind]
  cases applyVariables (.startTied fromFiles) (joinVariables sources.exported ((text?.map readVariables).getD [])) <;> rfl

theorem Sources.Open.exists_merged (isOpen : sources.Open root text?) (legible : sources.Legible text?) :
    ∃ merged, sources.merged = .ok merged := by
  obtain ⟨fromFiles, merged⟩ := isOpen.merged
  obtain ⟨after, applied⟩ := (exists_applyVariables_iff (sources.counted text?) (.startTied fromFiles)).2 legible
  exact ⟨_, by rw [merged, applied]; rfl⟩

theorem Sources.Open.merged_misread (isOpen : sources.Open root text?) (illegible : ¬ sources.Legible text?) :
    ∃ fault, sources.merged = .error (.numeral fault) := by
  obtain ⟨fromFiles, merged⟩ := isOpen.merged
  rw [Sources.Legible, ← exists_applyVariables_iff _ (.startTied fromFiles)] at illegible
  cases applied : applyVariables (.startTied fromFiles) (sources.counted text?) with
  | ok after => exact absurd ⟨after, applied⟩ illegible
  | error fault => exact ⟨fault, by rw [merged, applied]; rfl⟩

end Sources

/-- What loading is meant to come to: settings, or a fault about a value, worded as an invalid configuration
and caused by a report of all that is wrong with it. -/
def Documented (result : Outcome (Settings × Entries)) : Prop :=
  (∃ settings merged, result = .ok (settings, merged)) ∨
    ∃ fault report, result = .error fault ∧ fault.cls = .badValue ∧ fault.cause? = some (.invalid report) ∧
      "Invalid configuration: ".toList <+: fault.message.toList

theorem documented_of_merged {sources : Sources} {merged : Entries} (made : sources.merged = .ok merged) :
    Documented (load sources) := by
  simp only [load, made, bind, Except.bind]
  cases ofValue (.dict merged) with
  | ok settings => exact .inl ⟨settings, merged, rfl⟩
  | error report =>
    have wording : (Fault.invalidConfiguration report).message = "Invalid configuration: " ++ report.heading := rfl
    refine .inr ⟨.invalidConfiguration report, report, rfl, rfl, rfl, report.heading.toList, ?_⟩
    rw [wording, String.toList_append]

theorem load_of_fault {sources : Sources} {fault : Fault} (failed : sources.merged = .error fault) :
    load sources = .error fault := by
  simp only [load, failed, bind, Except.bind]

-- A numeral that denotes no number is reported as it is, and not as an invalid configuration.
theorem not_documented_numeral (fault : NumeralFault) : ¬ Documented (.error (.numeral fault)) := by
  rintro (⟨_, _, same⟩ | ⟨_, _, same, -, cause, -⟩)
  · cases same
  · cases same
    cases cause

/-- Where the files can be read, loading comes to what it is meant to exactly if every variable that names a
path can be read. Otherwise it fails with the fault of a numeral. -/
theorem load_documented_iff {sources : Sources} {root : Location} {text? : Option (List Char)}
    (isOpen : sources.Open root text?) :
    (Documented (load sources) ↔ sources.Legible text?) ∧
      (¬ sources.Legible text? → ∃ fault, load sources = .error (.numeral fault)) := by
  have misread (illegible : ¬ sources.Legible text?) : ∃ fault, load sources = .error (.numeral fault) := by
    obtain ⟨fault, failed⟩ := isOpen.merged_misread illegible
    exact ⟨fault, load_of_fault failed⟩
  refine ⟨⟨?_, ?_⟩, misread⟩
  · intro documented
    by_contra illegible
    obtain ⟨fault, failed⟩ := misread illegible
    exact not_documented_numeral fault (failed ▸ documented)
  · intro legible
    obtain ⟨merged, made⟩ := isOpen.exists_merged legible
    exact documented_of_merged made

/-- An empty section file, and a file of variables with a digit sign that has no place value. -/
def superscript : Sources where
  reader := Yaml.read
  files := ⟨[(["work", "configs", "app.yaml"], "\n".toList), (["work", ".env"], "PICT__APP__PRODUCT = '²'\n".toList)],
    [["work"]]⟩
  environment := [("PICT__LOGGING__LEVEL", "DEBUG")]
  workingDirectory := ["work"]
  repoRoot := ""
  configsDir := ""
  variablesFile := ""

/-- Such a sign is neither read as a number nor kept as text. -/
theorem load_documented_iff_superscript :
    superscript.Open ["work"] (some "PICT__APP__PRODUCT = '²'\n".toList) ∧
      ¬ superscript.Legible (some "PICT__APP__PRODUCT = '²'\n".toList) ∧ ¬ Documented (load superscript) ∧
      ∃ fault, load superscript = .error (.numeral fault) := by
  have isOpen : superscript.Open ["work"] (some "PICT__APP__PRODUCT = '²'\n".toList) := by
    refine ⟨rfl, ?_, rfl⟩
    intro name among
    simp only [sections, List.mem_cons, List.not_mem_nil, or_false] at among
    rcases among with rfl | rfl | rfl | rfl
    · refine ⟨some "\n".toList, rfl, ?_⟩
      rintro text ⟨⟩
      exact .inl rfl
    all_goals exact ⟨none, rfl, by simp⟩
  have illegible : ¬ superscript.Legible (some "PICT__APP__PRODUCT = '²'\n".toList) := by
    intro legible
    have counted : ("PICT__APP__PRODUCT", "²") ∈ superscript.counted (some "PICT__APP__PRODUCT = '²'\n".toList) := by
      decide +kernel
    have named : (pathOf? "PICT__APP__PRODUCT").isSome = true := by decide +kernel
    have unplaced : digitValue? '²' = none := by decide +kernel
    exact legible _ counted named ⟨by decide +kernel, .inl ⟨'²', by decide +kernel, unplaced⟩⟩
  obtain ⟨documented, fails⟩ := load_documented_iff isOpen
  exact ⟨isOpen, illegible, fun meant => illegible (documented.1 meant), fails illegible⟩

end Settings

end Stencil
