import Stencil.Gather
import Stencil.Log.Console
import Stencil.Pattern.Table
import Stencil.Provider.Basic
import Stencil.Rendering.Exchange
import Stencil.Rendering.Future
import Stencil.Settings.Model

/-! The host: shared data, the pattern table and the providers that serve in it. -/

set_option autoImplicit false

namespace Stencil

open Rendering

variable {κ : Type}

inductive Listener where
  | journal (label : Nat) (fault? : Option Fault)
  | fulfil (future : Nat)
  | fulfilOnce (future : Nat)
  | log

/-- The scope and the state of a rendering, which all its render calls have in common. -/
structure Sticky where
  scope : Value
  state : Value

/-- A delivery that a handler has put aside: a fault, or else the content that rendering gives by then. -/
structure Deferred (κ : Type) where
  recipient : Recipient (Handler κ) Listener
  handler : Handler κ
  hash : List Char
  arguments : Arguments
  fault? : Option Fault

structure Hearing where
  label : Nat
  delivery : Delivery Fault Value

structure RenderCall where
  serviceHash? : Option String
  hash : String
  record : Value
  context : Value
  scope : Value
  state : Value

-- What is kept for renderings under way and for those who watch them.
structure Desk (κ : Type) where
  stickies : List Sticky
  deferred : List (Deferred κ)
  calls : List RenderCall

structure Audience where
  futures : List (Future Fault Value)
  heard : List Hearing

structure LoadError where
  path? : Option String
  code : ErrorCode
  message : String

/-- A host. -/
structure Host (κ : Type) where
  settings : Settings
  appData : Entries
  bundle : Entries
  table : Pattern.Table (Handler κ)
  services : List (String × Provider κ)
  constructed : Nat
  loadErrors : List LoadError
  console : Log.Console
  desk : Desk κ

abbrev HostAct (κ α : Type) := Act (Host κ) Fault α

/-- A host with its audience. Providers reach the host only. -/
structure House (κ : Type) where
  host : Host κ
  audience : Audience

abbrev HouseAct (κ α : Type) := Act (House κ) Fault α

abbrev Stage (κ : Type) := Floor (House κ) (Handler κ) Listener Arguments

abbrev StageAct (κ α : Type) := Act (Stage κ) Fault α

namespace Host

/-- A host without providers. Further data are put into the data that the settings share. -/
def ofSettings (settings : Settings) (appData bundle : Entries) (console : Log.Console) : Host κ where
  settings
  appData := Entries.update settings.host.appData appData
  bundle := Entries.update settings.host.bundle bundle
  table := .empty
  services := []
  constructed := 0
  loadErrors := []
  console
  desk := ⟨[], [], []⟩

/-- A host with the settings that are given, or else with the default ones, and with further data
gathered from values. -/
def create (settings? : Option Settings) (appData bundle : Value) (console : Log.Console) : Outcome (Host κ) := do
  let appData ← Entries.gather appData
  let bundle ← Entries.gather bundle
  return ofSettings (settings?.getD .default) appData bundle console

def logName : String := "pict"

def logContext (host : Host κ) : Log.Context :=
  { Log.Context.unknown with product := .text host.settings.app.product }

def service? (host : Host κ) (key : String) : Option (Provider κ) :=
  host.services.lookup key

def served? (host : Host κ) (serial : Nat) : Option (String × Provider κ) :=
  host.services.find? (·.2.serial == serial)

def atDesk (change : Desk κ → Desk κ) : HostAct κ Unit :=
  .changing fun host => { host with desk := change host.desk }

def note (level : Log.Level) (logger : String) (context : Host κ → Log.Context) (message : Outcome String) :
    HostAct κ Unit :=
  .changing fun host => { host with console := host.console.log level logger (context host) message }

def openSticky (scope state : Value) : HostAct κ Nat := do
  let number ← Act.reading (·.desk.stickies.length)
  atDesk fun desk => { desk with stickies := desk.stickies ++ [⟨scope, state⟩] }
  return number

def sticky (host : Host κ) (number : Nat) : Sticky :=
  (host.desk.stickies[number]?).getD ⟨.null, .null⟩

def resultOf (delivery : Delivery Fault Value) : Outcome Value :=
  match delivery.error? with
  | some fault => .error fault
  | none => .ok delivery.content

def contentOrEmpty : Value → Value
  | .null => .text ""
  | content => content

end Host

namespace House

def ofHost (host : Host κ) : House κ :=
  ⟨host, ⟨[], []⟩⟩

def inHost {α : Type} (act : HostAct κ α) : HouseAct κ α :=
  act.within (·.host) fun host house => { house with host }

def atAudience (change : Audience → Audience) : HouseAct κ Unit :=
  .changing fun house => { house with audience := change house.audience }

def openFuture : HouseAct κ Nat := do
  let number ← Act.reading (·.audience.futures.length)
  atAudience fun audience => { audience with futures := audience.futures ++ [.pending] }
  return number

def future (house : House κ) (number : Nat) : Future Fault Value :=
  (house.audience.futures[number]?).getD .pending

-- Complete a future; one that is done takes no other result.
def completeFuture (number : Nat) (result : Outcome Value) : HouseAct κ Unit := do
  match ← Act.reading fun house => (house.future number).complete? result with
  | some done => atAudience fun audience => { audience with futures := audience.futures.set number done }
  | none => Act.failing .alreadyDone

def hear (listener : Listener) (delivery : Delivery Fault Value) : HouseAct κ Unit :=
  match listener with
  | .journal label fault? => do
    atAudience fun audience => { audience with heard := audience.heard ++ [⟨label, delivery⟩] }
    match fault? with
    | some fault => Act.failing fault
    | none => pure ()
  | .fulfil future => completeFuture future (Host.resultOf delivery)
  | .fulfilOnce future => do
    if ← Act.reading fun house => (house.future future).isDone then pure ()
    else completeFuture future ((Host.resultOf delivery).map Host.contentOrEmpty)
  | .log =>
    inHost (Host.note .info Host.logName Host.logContext (Outcome.ofNumeral delivery.content.shown))

end House

def Stage.ofHost (host : Host κ) : Stage κ :=
  ⟨.ofHost host, []⟩

def Stage.host (stage : Stage κ) : Host κ :=
  stage.world.host

def Stage.inHost {α : Type} (act : HostAct κ α) : StageAct κ α :=
  onWorld (House.inHost act)

end Stencil
