import Stencil.Proofs.Loading

/-! Where the loading of a provider stops, and the code under which that is reported.

A path may not lead to anything, it may lead to something that is no provider class, and the constructor
of a provider class may fail. There is a code for each of the three. A fault of a wrong type is the
exception: it is reported as if there were no provider class, wherever it comes from.
-/

set_option autoImplicit false

namespace Stencil

variable {κ : Type}

/-- Where the loading of a path can stop. -/
inductive LoadPhase where
  | reaching
  | recognising
  | constructing

/-- The code that is meant for a phase. -/
def LoadPhase.code : LoadPhase → ErrorCode
  | .reaching => .importFailed
  | .recognising => .notAProvider
  | .constructing => .providerError

/-- The code that a phase is reported under. -/
def LoadPhase.reported (phase : LoadPhase) (fault : Fault) : ErrorCode :=
  if fault.cls = .badType then .notAProvider else phase.code

section Codes

variable {phase : LoadPhase} {fault : Fault}

theorem LoadPhase.reported_eq_importFailed :
    phase.reported fault = .importFailed ↔ phase = .reaching ∧ fault.cls ≠ .badType := by
  by_cases wrongType : fault.cls = .badType <;> cases phase <;> simp [reported, code, wrongType]

theorem LoadPhase.reported_eq_notAProvider :
    phase.reported fault = .notAProvider ↔ phase = .recognising ∨ fault.cls = .badType := by
  by_cases wrongType : fault.cls = .badType <;> cases phase <;> simp [reported, code, wrongType]

theorem LoadPhase.reported_eq_providerError :
    phase.reported fault = .providerError ↔ phase = .constructing ∧ fault.cls ≠ .badType := by
  by_cases wrongType : fault.cls = .badType <;> cases phase <;> simp [reported, code, wrongType]

end Codes

/-- A path names a module, and something in it. -/
structure Catalogue.Names (path? : Option String) (moduleName name : String) : Prop where
  parts : splitPath (Text.trim (path?.getD "").toList) = (moduleName.toList, name.toList)
  someModule : moduleName ≠ ""
  someName : name ≠ ""

/-- A path leads to something that a module exports. -/
def Catalogue.Reaches (catalogue : Catalogue κ) (path? : Option String) (target : Candidate κ) : Prop :=
  ∃ moduleName name names, Names path? moduleName name ∧ catalogue.importModule moduleName = .ok names ∧
    names.lookup name = some target

/-- The loading of a path stops in a phase, with a fault. -/
inductive Catalogue.Stops (catalogue : Catalogue κ) (path? : Option String) : LoadPhase → Fault → Prop where
  | malformed :
      (∀ moduleName name, ¬ Names path? moduleName name) →
      Stops catalogue path? .reaching (.malformedPath (shownPath path?))
  | notImported {moduleName name : String} {fault : Fault} :
      Names path? moduleName name → catalogue.importModule moduleName = .error fault →
      Stops catalogue path? .reaching fault
  | notExported {moduleName name : String} {names : List (String × Candidate κ)} :
      Names path? moduleName name → catalogue.importModule moduleName = .ok names → names.lookup name = none →
      Stops catalogue path? .reaching (.noExport moduleName name)
  | noClass {value : Value} :
      catalogue.Reaches path? (.value value) → Stops catalogue path? .recognising (.notAClass (shownPath path?))
  | notRendering {cls : ProviderClass κ} :
      catalogue.Reaches path? (.cls cls) → cls.renders = false →
      Stops catalogue path? .recognising (.notRenderable cls.name)
  | refused {cls : ProviderClass κ} {fault : Fault} :
      catalogue.Reaches path? (.cls cls) → cls.renders = true →
      (∀ host : Host κ, ((Host.construct cls .null none).play host).1 = .error fault) →
      Stops catalogue path? .constructing fault

namespace Catalogue

variable {catalogue : Catalogue κ} {path? : Option String}

section Importing

theorem exists_names_iff (path? : Option String) :
    (∃ moduleName name, Names path? moduleName name) ↔
      (splitPath (Text.trim (path?.getD "").toList)).1 ≠ [] ∧ (splitPath (Text.trim (path?.getD "").toList)).2 ≠ [] := by
  constructor
  · rintro ⟨moduleName, name, parts, someModule, someName⟩
    simp [parts, someModule, someName]
  · rintro ⟨front, back⟩
    refine ⟨String.ofList (splitPath (Text.trim (path?.getD "").toList)).1,
      String.ofList (splitPath (Text.trim (path?.getD "").toList)).2, ?_, ?_, ?_⟩ <;> simp_all

theorem importClass_of_malformed (malformed : ∀ moduleName name, ¬ Names path? moduleName name) :
    catalogue.importClass path? = .error (.malformedPath (shownPath path?)) := by
  have empty := mt (exists_names_iff path?).2 fun ⟨moduleName, name, named⟩ => malformed moduleName name named
  rw [importClass]
  split
  simp_all [or_iff_not_imp_left, bind, Except.bind, throw, throwThe, MonadExceptOf.throw]

/-- What is made of what a path leads to. -/
def admitted (path? : Option String) : Candidate κ → Outcome (ProviderClass κ)
  | .value _ => .error (.notAClass (shownPath path?))
  | .cls cls => .ok cls

theorem importClass_of_names {moduleName name : String} (named : Names path? moduleName name) :
    catalogue.importClass path? = catalogue.importModule moduleName >>= fun names =>
      (names.lookup name).elim (.error (.noExport moduleName name)) (admitted path?) := by
  obtain ⟨parts, someModule, someName⟩ := named
  have filled : (moduleName.toList.isEmpty || name.toList.isEmpty) = false := by simp [someModule, someName]
  simp only [importClass, parts, filled, String.ofList_toList]
  cases catalogue.importModule moduleName with
  | error fault => rfl
  | ok names =>
    simp only [bind, Except.bind]
    cases names.lookup name with
    | none => rfl
    | some target => cases target <;> rfl

theorem importClass_of_reaches {target : Candidate κ} (reaches : catalogue.Reaches path? target) :
    catalogue.importClass path? = admitted path? target := by
  obtain ⟨moduleName, name, names, named, imported, found⟩ := reaches
  rw [importClass_of_names named, imported]
  change (names.lookup name).elim _ _ = _
  rw [found]
  rfl

/-- A path leads to something, or loading stops before it does. -/
theorem reaches_or_stops (catalogue : Catalogue κ) (path? : Option String) :
    (∃ target, catalogue.Reaches path? target) ∨ ∃ fault, catalogue.Stops path? .reaching fault := by
  by_cases malformed : ∀ moduleName name, ¬ Names path? moduleName name
  · exact .inr ⟨_, .malformed malformed⟩
  · simp only [not_forall, not_not] at malformed
    obtain ⟨moduleName, name, named⟩ := malformed
    cases imported : catalogue.importModule moduleName with
    | error fault => exact .inr ⟨fault, .notImported named imported⟩
    | ok names =>
      cases found : names.lookup name with
      | none => exact .inr ⟨_, .notExported named imported found⟩
      | some target => exact .inl ⟨target, moduleName, name, names, named, imported, found⟩

end Importing

end Catalogue

namespace Host

/-- A constructor fails in every host alike. -/
theorem construct_fails_iff {cls : ProviderClass κ} {fault : Fault} :
    (∀ host : Host κ, ((construct cls .null none).play host).1 = .error fault) ↔ constructionFault? cls = some fault := by
  have plays (host : Host κ) :
      ((construct cls .null none).play host).1 =
        (constructionFault? cls).elim (.ok ⟨host.constructed, cls, [], serviceHashOf cls none⟩) .error := by
    obtain ⟨left, plays, -⟩ := play_construct (keptOptions_null cls) none host rfl
    rw [plays]
  constructor
  · intro fails
    have here := fails (ofSettings .default [] [] (.initial ""))
    rw [plays] at here
    cases faulty : constructionFault? cls <;> simp_all
  · intro faulty host
    rw [plays, faulty]
    rfl

end Host

namespace Catalogue

variable {catalogue : Catalogue κ} {path? : Option String}

section Verdicts

theorem importFailureCode?_eq_some {fault : Fault} {code : ErrorCode}
    (caught : Host.importFailureCode? fault = some code) : code = LoadPhase.reaching.reported fault := by
  rw [LoadPhase.reported]
  simp only [Host.importFailureCode?] at caught
  split at caught
  · rename_i expected
    have other : fault.cls ≠ .badType := by
      intro same
      rw [same] at expected
      exact absurd expected (by decide)
    rw [if_neg other]
    exact (Option.some.inj caught).symm
  · split at caught
    · rename_i wrongType
      rw [if_pos wrongType]
      exact (Option.some.inj caught).symm
    · simp at caught

theorem verdict_of_missed {fault : Fault} (missed : catalogue.importClass path? = .error fault) :
    catalogue.verdict path? = .fails ⟨path?, LoadPhase.reaching.reported fault, fault.message⟩ ∨
      catalogue.verdict path? = .escapes fault := by
  cases caught : Host.importFailureCode? fault with
  | some code =>
    obtain rfl := importFailureCode?_eq_some caught
    exact .inl (by simp only [verdict, missed, caught])
  | none => exact .inr (by simp only [verdict, missed, caught])

/-- A path at which loading stops is reported under the code of the phase, or its fault is not caught. -/
theorem verdict_of_stops {phase : LoadPhase} {fault : Fault} (stops : catalogue.Stops path? phase fault) :
    catalogue.verdict path? = .fails ⟨path?, phase.reported fault, fault.message⟩ ∨
      catalogue.verdict path? = .escapes fault := by
  cases stops with
  | malformed malformed => exact verdict_of_missed (importClass_of_malformed malformed)
  | @notImported _ _ fault named failed =>
    refine verdict_of_missed ?_
    rw [importClass_of_names named, failed]
    rfl
  | notExported named imported absent =>
    refine verdict_of_missed ?_
    rw [importClass_of_names named, imported]
    change (List.lookup _ _).elim _ _ = _
    rw [absent]
    rfl
  | noClass reaches =>
    left
    rw [verdict, importClass_of_reaches reaches]
    rfl
  | @notRendering cls reaches plain =>
    left
    rw [verdict, importClass_of_reaches reaches]
    simp [admitted, Candidate.fault?, plain, Host.registrationFailureCode, LoadPhase.reported, Fault.cls]
  | @refused cls fault reaches renders fails =>
    left
    rw [verdict, importClass_of_reaches reaches]
    have faulty := Host.construct_fails_iff.1 fails
    simp [admitted, Candidate.fault?, renders, Host.keptOptions_null, faulty, Host.registrationFailureCode,
      LoadPhase.reported, LoadPhase.code]

/-- The loading of a path that is reported has stopped somewhere. -/
theorem exists_stops_of_fails {report : LoadError} (fails : catalogue.verdict path? = .fails report) :
    ∃ phase fault, catalogue.Stops path? phase fault := by
  obtain ⟨target, reaches⟩ | ⟨fault, stops⟩ := reaches_or_stops catalogue path?
  · cases target with
    | value value => exact ⟨_, _, .noClass reaches⟩
    | cls cls =>
      cases renders : cls.renders with
      | false => exact ⟨_, _, .notRendering reaches renders⟩
      | true =>
        cases faulty : Host.constructionFault? cls with
        | some fault => exact ⟨_, _, .refused reaches renders (Host.construct_fails_iff.2 faulty)⟩
        | none => simp [verdict, importClass_of_reaches reaches, admitted, Candidate.fault?, renders,
            Host.keptOptions_null, faulty] at fails
  · exact ⟨_, _, stops⟩

end Verdicts

end Catalogue

/-- What the code of a report says: in which phase loading has stopped, but for faults of a wrong type. -/
structure LoadError.Classified (catalogue : Catalogue κ) (report : LoadError) : Prop where
  stopped : ∃ phase fault, catalogue.Stops report.path? phase fault ∧ report.message = fault.message
  reaching : report.code = .importFailed ↔
    ∃ fault, catalogue.Stops report.path? .reaching fault ∧ fault.cls ≠ .badType
  recognising : report.code = .notAProvider ↔
    ∃ phase fault, catalogue.Stops report.path? phase fault ∧ (phase = .recognising ∨ fault.cls = .badType)
  constructing : report.code = .providerError ↔
    ∃ fault, catalogue.Stops report.path? .constructing fault ∧ fault.cls ≠ .badType

namespace Host

variable {catalogue : Catalogue κ}

theorem classified_of_fails {path? : Option String} {report : LoadError}
    (fails : catalogue.verdict path? = .fails report) : report.Classified catalogue := by
  obtain rfl := path?_of_fails fails
  have told {phase : LoadPhase} {fault : Fault} (stops : catalogue.Stops report.path? phase fault) :
      report.code = phase.reported fault ∧ report.message = fault.message := by
    rcases Catalogue.verdict_of_stops stops with same | same
    · rw [fails] at same
      exact ⟨congrArg LoadError.code (Verdict.fails.inj same), congrArg LoadError.message (Verdict.fails.inj same)⟩
    · simp [fails] at same
  obtain ⟨phase, fault, stops⟩ := Catalogue.exists_stops_of_fails fails
  obtain ⟨code, message⟩ := told stops
  refine ⟨⟨phase, fault, stops, message⟩, ⟨fun isCode => ?_, ?_⟩, ⟨fun isCode => ?_, ?_⟩, ⟨fun isCode => ?_, ?_⟩⟩
  · obtain ⟨rfl, fits⟩ := LoadPhase.reported_eq_importFailed.1 (code.symm.trans isCode)
    exact ⟨fault, stops, fits⟩
  · rintro ⟨fault, stops, fits⟩
    exact (told stops).1.trans (LoadPhase.reported_eq_importFailed.2 ⟨rfl, fits⟩)
  · exact ⟨phase, fault, stops, LoadPhase.reported_eq_notAProvider.1 (code.symm.trans isCode)⟩
  · rintro ⟨phase, fault, stops, either⟩
    exact (told stops).1.trans (LoadPhase.reported_eq_notAProvider.2 either)
  · obtain ⟨rfl, fits⟩ := LoadPhase.reported_eq_providerError.1 (code.symm.trans isCode)
    exact ⟨fault, stops, fits⟩
  · rintro ⟨fault, stops, fits⟩
    exact (told stops).1.trans (LoadPhase.reported_eq_providerError.2 ⟨rfl, fits⟩)

/-- Each report of loading is about a path that was to be loaded, and its code says in which phase that
stopped: before anything was reached, at something that is no provider class, or in its constructor. Only a
fault of a wrong type is always reported as if there were no provider class. -/
theorem load_codes_tell_phases {paths : List (Option String)} {host left : Host κ} {reports : List LoadError}
    (plays : (loadProviders catalogue paths).play host = (.ok reports, left)) :
    ∀ report ∈ reports, report.path? ∈ paths ∧ report.Classified catalogue := by
  obtain ⟨_, _, same, isolated⟩ := play_loadProviders_of_caught (caught_of_play plays) host
  cases plays.symm.trans same
  intro report among
  rw [isolated.told, List.mem_filterMap] at among
  obtain ⟨path?, listed, isReport⟩ := among
  cases verdict : catalogue.verdict path? with
  | loads cls => simp [verdict, Verdict.report?] at isReport
  | escapes fault => simp [verdict, Verdict.report?] at isReport
  | fails found =>
    obtain rfl : found = report := by simpa [verdict, Verdict.report?] using isReport
    exact ⟨path?_of_fails verdict ▸ listed, classified_of_fails verdict⟩

/-- A module that exports a number, and two classes whose constructors fail. -/
def faultyModule : Catalogue Unit :=
  let refusing (fault : Fault) : Candidate Unit := .cls ⟨"Refusing", true, some "Refusing", [], some fault, ()⟩
  [("m", .holding false [("Seven", .value (.int 7)), ("Refusing", refusing (.raised .running (some "no"))),
    ("Mistyped", refusing (.raised .badType (some "no")))])]

theorem load_codes_tell_phases_faulty :
    ∃ reports left,
      (loadProviders faultyModule [some "m:Seven", some "m:Refusing", some "n:X", some "m:Mistyped"]).play
        (ofSettings .default [] [] (.initial "")) = (.ok reports, left) ∧
      reports.map (·.code) = [.notAProvider, .providerError, .importFailed, .notAProvider] ∧
      ∀ report ∈ reports, report.Classified faultyModule := by
  have plays : (loadProviders faultyModule [some "m:Seven", some "m:Refusing", some "n:X", some "m:Mistyped"]).play
      (ofSettings .default [] [] (.initial "")) = (.ok _, _) := rfl
  exact ⟨_, _, plays, rfl, fun report among => (load_codes_tell_phases plays report among).2⟩

end Host

end Stencil
