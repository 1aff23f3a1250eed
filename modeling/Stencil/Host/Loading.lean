import Stencil.Provider.Catalogue

/-! Loading providers by import paths.

A path that cannot be loaded is reported, and the other paths are loaded all the same.
-/

set_option autoImplicit false

namespace Stencil

variable {κ : Type}

namespace Host

def loaderLog : String := "pict_template.host.provider_loader"

def plainPath : Option String → String
  | some path => path
  | none => "None"

def reportFailure (verb : String) (path? : Option String) (code : ErrorCode) (fault : Fault) :
    HostAct κ (Option LoadError) := do
  note .warning loaderLog (fun _ => .unknown)
    (.ok ("Failed to " ++ verb ++ " provider " ++ plainPath path? ++ ": " ++ fault.message))
  return some ⟨path?, code, fault.message⟩

-- Imports that fail and values that are bad, of all classes.
def importFailures : List FaultClass :=
  [.importing, .missingModule, .missingAttribute, .badValue, .malformedJson, .invalidData, .serialization]

/-- The code under which a failed import is reported; other faults are not for the loader. -/
def importFailureCode? (fault : Fault) : Option ErrorCode :=
  if importFailures.contains fault.cls then some .importFailed
  else if fault.cls = .badType then some .notAProvider
  else none

def registrationFailureCode (fault : Fault) : ErrorCode :=
  if fault.cls = .badType then .notAProvider else .providerError

-- Import a provider class and register it; answer the report if that fails.
def loadProvider (catalogue : Catalogue κ) (path? : Option String) : HostAct κ (Option LoadError) :=
  match catalogue.importClass path? with
  | .error fault =>
    match importFailureCode? fault with
    | some code => reportFailure "import" path? code fault
    | none => Act.failing fault
  | .ok cls =>
    Act.recovering (addProvider (.cls cls) .null none >>= fun _ => pure none)
      fun fault => reportFailure "register" path? (registrationFailureCode fault) fault

def loadProviders (catalogue : Catalogue κ) : List (Option String) → HostAct κ (List LoadError)
  | [] => pure []
  | path? :: rest => do
    let report? ← loadProvider catalogue path?
    let reports ← loadProviders catalogue rest
    return report?.toList ++ reports

def loadListed (catalogue : Catalogue κ) : HostAct κ Unit := do
  let paths ← Act.reading (·.settings.providers)
  let reports ← loadProviders catalogue (paths.map some)
  Act.changing fun host => { host with loadErrors := reports }

/-- A host with the providers that its settings list; there is no list without settings. -/
def ofListing (catalogue : Catalogue κ) (settings? : Option Settings) (console : Log.Console) : Outcome (Host κ) :=
  match settings? with
  | none => .error (.noAttribute Value.null.kindName "templates")
  | some settings =>
    match (loadListed catalogue).play (ofSettings settings [] [] console) with
    | (.ok _, host) => .ok host
    | (.error fault, _) => .error fault

end Host

end Stencil
