import Stencil.Host.Loading
import Stencil.Proofs.Admission

/-! Loading providers, path by path.

What comes of a path depends on the catalogue alone, not on the host and not on the other paths. A path
that fails adds a report and no service, so the services are those of the other paths. One kind of failure
is not for the loader: an import whose fault is none of those that it expects ends the loading.
-/

set_option autoImplicit false

namespace Stencil

variable {κ : Type}

/-- What comes of an import path: a class that every host admits, a report, or a fault that is not
caught. -/
inductive Verdict (κ : Type) where
  | loads (cls : ProviderClass κ)
  | fails (report : LoadError)
  | escapes (fault : Fault)

namespace Verdict

def isLoaded : Verdict κ → Bool
  | .loads _ => true
  | _ => false

def report? : Verdict κ → Option LoadError
  | .fails report => some report
  | _ => none

def escape? : Verdict κ → Option Fault
  | .escapes fault => some fault
  | _ => none

end Verdict

/-- What comes of a path, read off the catalogue. -/
def Catalogue.verdict (catalogue : Catalogue κ) (path? : Option String) : Verdict κ :=
  match catalogue.importClass path? with
  | .error fault =>
    match Host.importFailureCode? fault with
    | some code => .fails ⟨path?, code, fault.message⟩
    | none => .escapes fault
  | .ok cls =>
    match (Candidate.cls cls).fault? .null with
    | some fault => .fails ⟨path?, Host.registrationFailureCode fault, fault.message⟩
    | none => .loads cls

/-- An import that fails does so with a fault that the loader expects. -/
def Catalogue.Caught (catalogue : Catalogue κ) (path? : Option String) : Prop :=
  ∀ fault, catalogue.importClass path? = .error fault → (Host.importFailureCode? fault).isSome = true

namespace Host

variable {catalogue : Catalogue κ}

/-- The service that a class gets in a host in which some keys are used. -/
def serviceOf (cls : ProviderClass κ) (serial : Nat) (used : List String) : String × Provider κ :=
  let p : Provider κ := ⟨serial, cls, [], serviceHashOf cls none⟩
  (freeKey used (askedKey p none), p)

theorem keptOptions_null (cls : ProviderClass κ) : keptOptions cls .null = .ok [] := by
  simp only [keptOptions, Entries.gather_null, ite_self]

theorem provider?_null {cls : ProviderClass κ} {p : Provider κ} {serial : Nat}
    (constructed : (Candidate.cls cls).provider? .null none serial = some p) :
    p = ⟨serial, cls, [], serviceHashOf cls none⟩ := by
  simp only [Candidate.provider?, keptOptions_null] at constructed
  split at constructed
  · exact (Option.some.inj constructed).symm
  · simp at constructed

section Single

variable {path? : Option String}

theorem play_loadProvider_of_loads {cls : ProviderClass κ} (loads : catalogue.verdict path? = .loads cls)
    (host : Host κ) :
    ∃ left, (loadProvider catalogue path?).play host = (.ok none, left) ∧
      left.services = host.services ++ [serviceOf cls host.constructed (host.services.map (·.1))] := by
  simp only [Catalogue.verdict] at loads
  split at loads
  · split at loads <;> simp at loads
  · rename_i imported found
    split at loads
    · simp at loads
    · rename_i fits
      obtain rfl := Verdict.loads.inj loads
      obtain ⟨p, left, constructed, plays, services, -⟩ := play_addProvider_admitted fits none host
      obtain rfl := provider?_null constructed
      simp only [loadProvider, found, Act.play_recovering, Act.play_bind, plays]
      exact ⟨left, rfl, services⟩

theorem play_loadProvider_of_fails {report : LoadError} (fails : catalogue.verdict path? = .fails report)
    (host : Host κ) :
    ∃ left, (loadProvider catalogue path?).play host = (.ok (some report), left) ∧ left.services = host.services := by
  simp only [Catalogue.verdict] at fails
  split at fails
  · rename_i fault missed
    split at fails
    · rename_i code expected
      obtain rfl := Verdict.fails.inj fails
      simp only [loadProvider, missed, expected, reportFailure, Act.play_bind]
      exact ⟨_, rfl, rfl⟩
    · simp at fails
  · rename_i cls found
    split at fails
    · rename_i fault refused
      obtain rfl := Verdict.fails.inj fails
      obtain ⟨left, plays, gained⟩ := play_addProvider_refused refused none host
      have services : left.services = host.services := by rw [gained.others]
      simp only [loadProvider, found, Act.play_recovering, Act.play_bind, plays, reportFailure]
      exact ⟨_, rfl, services⟩
    · simp at fails

theorem play_loadProvider_of_escapes {fault : Fault} (escapes : catalogue.verdict path? = .escapes fault)
    (host : Host κ) : (loadProvider catalogue path?).play host = (.error fault, host) := by
  simp only [Catalogue.verdict] at escapes
  split at escapes
  · rename_i missed
    split at escapes
    · simp at escapes
    · rename_i unexpected
      obtain rfl := Verdict.escapes.inj escapes
      simp only [loadProvider, missed, unexpected, Act.play_failing]
  · split at escapes <;> simp at escapes

theorem isLoaded_iff (host : Host κ) :
    (catalogue.verdict path?).isLoaded = true ↔ ∃ cls answer left, catalogue.importClass path? = .ok cls ∧
      (addProvider (.cls cls) .null none).play host = (.ok answer, left) := by
  simp only [Catalogue.verdict]
  cases catalogue.importClass path? with
  | error fault => cases code : importFailureCode? fault <;> simp [Verdict.isLoaded, code]
  | ok cls =>
    cases refused : (Candidate.cls cls).fault? .null with
    | some fault =>
      obtain ⟨left, plays, -⟩ := play_addProvider_refused refused none host
      simp [Verdict.isLoaded, refused, plays]
    | none =>
      obtain ⟨p, left, -, plays, -⟩ := play_addProvider_admitted refused none host
      simp [Verdict.isLoaded, refused, plays]

theorem caught_iff : catalogue.Caught path? ↔ (catalogue.verdict path?).escape? = none := by
  simp only [Catalogue.Caught, Catalogue.verdict]
  cases catalogue.importClass path? with
  | error fault => cases code : importFailureCode? fault <;> simp [Verdict.escape?, code]
  | ok cls => cases refused : (Candidate.cls cls).fault? .null <;> simp [Verdict.escape?, refused]

theorem path?_of_fails {report : LoadError} (fails : catalogue.verdict path? = .fails report) :
    report.path? = path? := by
  simp only [Catalogue.verdict] at fails
  split at fails
  · split at fails
    · exact (congrArg LoadError.path? (Verdict.fails.inj fails)).symm
    · simp at fails
  · split at fails
    · exact (congrArg LoadError.path? (Verdict.fails.inj fails)).symm
    · simp at fails

end Single

/-- Services under the same keys, of providers that differ in their numbers only. -/
def SameServices (ones others : List (String × Provider κ)) : Prop :=
  List.Forall₂ (fun one other => one.1 = other.1 ∧ one.2 = { other.2 with serial := one.2.serial }) ones others

theorem serviceOf_same (cls : ProviderClass κ) (serial serial' : Nat) (used : List String) :
    (serviceOf cls serial used).1 = (serviceOf cls serial' used).1 ∧
      (serviceOf cls serial used).2 = { (serviceOf cls serial' used).2 with serial := serial } :=
  ⟨rfl, rfl⟩

theorem play_loadProviders_cons {path? : Option String} {rest : List (Option String)} {host mid : Host κ}
    {report? : Option LoadError} (plays : (loadProvider catalogue path?).play host = (.ok report?, mid)) :
    (loadProviders catalogue (path? :: rest)).play host =
      (((loadProviders catalogue rest).play mid).1.map (report?.toList ++ ·),
        ((loadProviders catalogue rest).play mid).2) := by
  simp only [loadProviders, Act.play_bind, plays]
  cases (loadProviders catalogue rest).play mid with
  | mk result left => cases result <;> rfl

/-- Loading ends at the first fault that is not caught. -/
theorem play_loadProviders_of_escapes {paths : List (Option String)} {fault : Fault}
    (escapes : paths.findSome? (fun path? => (catalogue.verdict path?).escape?) = some fault) (host : Host κ) :
    ∃ left, (loadProviders catalogue paths).play host = (.error fault, left) := by
  induction paths generalizing host with
  | nil => simp at escapes
  | cons path? rest ih =>
    rw [List.findSome?_cons] at escapes
    cases verdict : catalogue.verdict path? with
    | loads cls =>
      simp only [verdict, Verdict.escape?] at escapes
      obtain ⟨mid, plays, -⟩ := play_loadProvider_of_loads verdict host
      obtain ⟨left, plays'⟩ := ih escapes mid
      rw [play_loadProviders_cons plays, plays']
      exact ⟨left, rfl⟩
    | fails report =>
      simp only [verdict, Verdict.escape?] at escapes
      obtain ⟨mid, plays, -⟩ := play_loadProvider_of_fails verdict host
      obtain ⟨left, plays'⟩ := ih escapes mid
      rw [play_loadProviders_cons plays, plays']
      exact ⟨left, rfl⟩
    | escapes fault =>
      simp only [verdict, Verdict.escape?, Option.some.injEq] at escapes
      obtain rfl := escapes
      simp only [loadProviders, Act.play_bind, play_loadProvider_of_escapes verdict]
      exact ⟨host, rfl⟩

/-- Without such a fault, loading reports the paths that fail. In a host with the same keys, loading only the
other paths reports nothing and adds the same services. -/
theorem play_loadProviders {paths : List (Option String)}
    (caught : ∀ path? ∈ paths, (catalogue.verdict path?).escape? = none) {host twin : Host κ}
    (keys : host.services.map (·.1) = twin.services.map (·.1)) :
    ∃ left alone added addedAlone,
      (loadProviders catalogue paths).play host =
        (.ok (paths.filterMap fun path? => (catalogue.verdict path?).report?), left) ∧
      (loadProviders catalogue (paths.filter fun path? => (catalogue.verdict path?).isLoaded)).play twin =
        (.ok [], alone) ∧
      left.services = host.services ++ added ∧ alone.services = twin.services ++ addedAlone ∧
      SameServices added addedAlone := by
  -- The two hosts differ in how many providers they have counted, so only their keys are kept the same.
  induction paths generalizing host twin with
  | nil => exact ⟨host, twin, [], [], rfl, rfl, by simp, by simp, .nil⟩
  | cons path? rest ih =>
    obtain ⟨here, later⟩ := List.forall_mem_cons.1 caught
    cases verdict : catalogue.verdict path? with
    | loads cls =>
      obtain ⟨mid, plays, services⟩ := play_loadProvider_of_loads verdict host
      obtain ⟨midTwin, playsTwin, servicesTwin⟩ := play_loadProvider_of_loads verdict twin
      have keysAfter : mid.services.map (·.1) = midTwin.services.map (·.1) := by
        rw [services, servicesTwin, List.map_append, List.map_append, keys]
        rfl
      obtain ⟨left, alone, added, addedAlone, plays', playsTwin', gained, gainedTwin, same⟩ := ih later keysAfter
      refine ⟨left, alone, serviceOf cls host.constructed (host.services.map (·.1)) :: added,
        serviceOf cls twin.constructed (host.services.map (·.1)) :: addedAlone, ?_, ?_, ?_, ?_,
        .cons (serviceOf_same cls _ _ _) same⟩
      · rw [List.filterMap_cons_none (by rw [verdict]; rfl), play_loadProviders_cons plays, plays']
        rfl
      · rw [List.filter_cons_of_pos (by rw [verdict]; rfl), play_loadProviders_cons playsTwin, playsTwin']
        rfl
      · rw [gained, services, List.append_assoc, List.singleton_append]
      · rw [gainedTwin, servicesTwin, keys, List.append_assoc, List.singleton_append]
    | fails report =>
      obtain ⟨mid, plays, services⟩ := play_loadProvider_of_fails verdict host
      have keysAfter : mid.services.map (·.1) = twin.services.map (·.1) := by rw [services, keys]
      obtain ⟨left, alone, added, addedAlone, plays', playsTwin, gained, gainedTwin, same⟩ := ih later keysAfter
      refine ⟨left, alone, added, addedAlone, ?_, ?_, ?_, gainedTwin, same⟩
      · rw [List.filterMap_cons_some (by rw [verdict]; rfl), play_loadProviders_cons plays, plays']
        rfl
      · rwa [List.filter_cons_of_neg (by rw [verdict]; exact Bool.false_ne_true)]
      · rw [gained, services]
    | escapes fault => simp [verdict, Verdict.escape?] at here

/-- Loading has reported each path that fails, in order and once, and has added the services that loading
the other paths alone adds. -/
structure Isolates (catalogue : Catalogue κ) (paths : List (Option String)) (host : Host κ)
    (reports : List LoadError) (left : Host κ) : Prop where
  told : reports = paths.filterMap fun path? => (catalogue.verdict path?).report?
  failing : reports.map (·.path?) = paths.filter fun path? => !(catalogue.verdict path?).isLoaded
  services : ∃ alone added addedAlone,
    (loadProviders catalogue (paths.filter fun path? => (catalogue.verdict path?).isLoaded)).play host =
      (.ok [], alone) ∧
    left.services = host.services ++ added ∧ alone.services = host.services ++ addedAlone ∧
    SameServices added addedAlone

theorem paths_of_reports {paths : List (Option String)} (caught : ∀ path? ∈ paths, catalogue.Caught path?) :
    (paths.filterMap fun path? => (catalogue.verdict path?).report?).map (·.path?) =
      paths.filter fun path? => !(catalogue.verdict path?).isLoaded := by
  induction paths with
  | nil => rfl
  | cons path? rest ih =>
    obtain ⟨here, later⟩ := List.forall_mem_cons.1 caught
    cases verdict : catalogue.verdict path? with
    | loads cls =>
      rw [List.filterMap_cons_none (by rw [verdict]; rfl),
        List.filter_cons_of_neg (by rw [verdict]; exact Bool.false_ne_true)]
      exact ih later
    | fails report =>
      rw [List.filterMap_cons_some (by rw [verdict]; rfl), List.filter_cons_of_pos (by rw [verdict]; rfl),
        List.map_cons, path?_of_fails verdict, ih later]
    | escapes fault => simp [caught_iff, verdict, Verdict.escape?] at here

theorem play_loadProviders_of_caught {paths : List (Option String)}
    (caught : ∀ path? ∈ paths, catalogue.Caught path?) (host : Host κ) :
    ∃ reports left, (loadProviders catalogue paths).play host = (.ok reports, left) ∧
      Isolates catalogue paths host reports left := by
  obtain ⟨left, alone, added, addedAlone, plays, playsAlone, gained, gainedAlone, same⟩ :=
    play_loadProviders (fun path? among => caught_iff.1 (caught path? among)) (rfl : host.services.map (·.1) = _)
  exact ⟨_, left, plays, rfl, paths_of_reports caught, alone, added, addedAlone, playsAlone, gained, gainedAlone,
    same⟩

theorem caught_of_play {paths : List (Option String)} {host left : Host κ} {reports : List LoadError}
    (plays : (loadProviders catalogue paths).play host = (.ok reports, left)) :
    ∀ path? ∈ paths, catalogue.Caught path? := by
  intro path? among
  rw [caught_iff]
  cases escapes : paths.findSome? fun path? => (catalogue.verdict path?).escape? with
  | none => exact List.findSome?_eq_none_iff.1 escapes path? among
  | some fault =>
    obtain ⟨_, fails⟩ := play_loadProviders_of_escapes escapes host
    simp [fails] at plays

/-- A host is made from settings by loading the paths that they list. -/
theorem ofListing_eq_ok {settings : Settings} {console : Log.Console} {made : Host κ} :
    ofListing catalogue (some settings) console = .ok made ↔
      ∃ reports left,
        (loadProviders catalogue (settings.providers.map some)).play (ofSettings settings [] [] console) =
          (.ok reports, left) ∧ made = { left with loadErrors := reports } := by
  have listed : (ofSettings settings [] [] console : Host κ).settings.providers = settings.providers := rfl
  simp only [ofListing, loadListed, Act.play_bind, Act.play_reading, listed]
  cases (loadProviders catalogue (settings.providers.map some)).play (ofSettings settings [] [] console) with
  | mk result left => cases result <;> simp [eq_comm]

/-- Loading paths ends well unless an import fails in a way that the loader does not expect. Then the paths
that fail have been reported and the others have been loaded as if they had stood alone. So it is with the
paths that settings list, when a host is made from them. -/
theorem loading_isolates_failures (catalogue : Catalogue κ) (paths : List (Option String)) (host : Host κ) :
    (∀ path?, (catalogue.verdict path?).isLoaded = true ↔ ∃ cls answer left,
      catalogue.importClass path? = .ok cls ∧ (addProvider (.cls cls) .null none).play host = (.ok answer, left)) ∧
    ((∃ reports left, (loadProviders catalogue paths).play host = (.ok reports, left)) ↔
      ∀ path? ∈ paths, catalogue.Caught path?) ∧
    (∀ reports left, (loadProviders catalogue paths).play host = (.ok reports, left) →
      Isolates catalogue paths host reports left) ∧
    ∀ settings console,
      ((∃ made, ofListing catalogue (some settings) console = .ok made) ↔
        ∀ path ∈ settings.providers, catalogue.Caught (some path)) ∧
      ∀ made, ofListing catalogue (some settings) console = .ok made →
        Isolates catalogue (settings.providers.map some) (ofSettings settings [] [] console) made.loadErrors
          made := by
  have isolates {paths : List (Option String)} {host left : Host κ} {reports : List LoadError}
      (plays : (loadProviders catalogue paths).play host = (.ok reports, left)) :
      Isolates catalogue paths host reports left := by
    obtain ⟨_, _, same, isolated⟩ := play_loadProviders_of_caught (caught_of_play plays) host
    cases plays.symm.trans same
    exact isolated
  refine ⟨fun path? => isLoaded_iff host, ⟨fun ⟨_, _, plays⟩ => caught_of_play plays, fun caught => ?_⟩,
    fun _ _ plays => isolates plays, fun settings console => ⟨⟨?_, fun caught => ?_⟩, ?_⟩⟩
  · obtain ⟨reports, left, plays, -⟩ := play_loadProviders_of_caught caught host
    exact ⟨reports, left, plays⟩
  · rintro ⟨made, isMade⟩ path listed
    obtain ⟨_, _, plays, -⟩ := ofListing_eq_ok.1 isMade
    exact caught_of_play plays _ (List.mem_map_of_mem listed)
  · obtain ⟨_, _, plays, -⟩ := play_loadProviders_of_caught (List.forall_mem_map.2 caught)
      (ofSettings settings [] [] console)
    exact ⟨_, ofListing_eq_ok.2 ⟨_, _, plays, rfl⟩⟩
  · intro made isMade
    obtain ⟨_, _, plays, rfl⟩ := ofListing_eq_ok.1 isMade
    exact ⟨(isolates plays).told, (isolates plays).failing, (isolates plays).services⟩

example (message? : Option String) : importFailureCode? (.raised .running message?) = none := rfl

end Host

end Stencil
