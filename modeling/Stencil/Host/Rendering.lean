import Stencil.Host.Members
import Stencil.Rendering.Direct

/-! Rendering templates in a host: at once, with a callback, or with a future.

What handlers do is given by a behaviour. All three ways of rendering split a template into the
same segments and write contents as text in the same way.
-/

set_option autoImplicit false

namespace Stencil

open Rendering

variable {κ : Type}

/-- What handlers do when they are asked for the content of a text. -/
structure Behaviour (κ : Type) where
  render : Handler κ → List Char → Arguments → HostAct κ Value
  moves : Handler κ → List Char → Arguments → Recipient (Handler κ) Listener →
    List (Move (Host κ) (Handler κ) Fault Value Listener)

def answering (content : HostAct κ Value) (recipient : Recipient (Handler κ) Listener) :
    List (Move (Host κ) (Handler κ) Fault Value Listener) :=
  [⟨do return some (recipient, ⟨none, ← content⟩)⟩]

def Behaviour.ofRender (render : Handler κ → List Char → Arguments → HostAct κ Value) : Behaviour κ where
  render
  moves handler hash arguments := answering (render handler hash arguments)

namespace Host

def writeContent (host : Host κ) (content : Value) : Outcome String :=
  match host.settle content with
  | .null => .ok ""
  | settled => Outcome.ofNumeral settled.shown

def spanContext (pattern : Pattern (Handler κ)) (hash : List Char) : Log.Context where
  product := .null
  provider := Log.known pattern.handler.ownerName?
  serviceHash := Log.known pattern.handler.serviceHash?
  templateHash := .text (String.ofList hash)

-- What the callback of a pass is called with: a text and no error, or an error and no text.
def outcomeDelivery : Outcome String → Delivery Fault Value
  | .ok text => ⟨none, .text text⟩
  | .error fault => ⟨some fault, .null⟩

def blame (pattern : Pattern (Handler κ)) (hash : List Char) (fault : Fault) : Fault :=
  fault.reported .providerError
    [(.text "template_hash", .text (String.ofList hash)), (.text "start", .text (String.ofList pattern.opening.val))]

def renderingLog : String := "pict_template.host.meta_template"

def noteRepetition (pattern : Pattern (Handler κ)) (hash : List Char) : HostAct κ Unit :=
  note .warning renderingLog (fun _ => spanContext pattern hash)
    (.ok ("Provider delivered more than one result for " ++ Text.quotedString (String.ofList hash)))

def noteFault (pattern : Pattern (Handler κ)) (hash : List Char) (fault : Fault) : HostAct κ Unit :=
  note .warning renderingLog (fun _ => spanContext pattern hash)
    (.ok ("Provider raised while rendering " ++ Text.quotedString (String.ofList hash) ++ ": " ++ fault.message))

/-- Passes in the host. -/
def surroundings (behaviour : Behaviour κ) :
    Surroundings (House κ) (Handler κ) Fault Value Listener Arguments where
  write house := house.host.writeContent
  moves handler hash arguments recipient :=
    (behaviour.moves handler hash arguments recipient).map
      (Move.within (·.host) fun host house => { house with host })
  hear := House.hear
  report := outcomeDelivery
  blame := blame
  noteRepetition pattern hash := House.inHost (noteRepetition pattern hash)
  noteFault pattern hash fault := House.inHost (noteFault pattern hash fault)

def keepCall (serviceHash? : Option String) (hash : String) (arguments : Arguments) : HostAct κ Unit :=
  .changing fun host =>
    let sticky := host.sticky arguments.sticky
    let call := RenderCall.mk serviceHash? hash arguments.record arguments.context sticky.scope sticky.state
    { host with desk := { host.desk with calls := host.desk.calls ++ [call] } }

def segments (host : Host κ) (text : String) : List (Pattern.Segment (Handler κ)) :=
  host.table.segments text.toList

def renderTemplate (behaviour : Behaviour κ) (template : Value) (arguments : Arguments) : HostAct κ String := do
  let text ← Act.answering fun host => host.writeContent template
  let segments ← Act.reading (·.segments text)
  renderSegments writeContent (fun pattern hash => behaviour.render pattern.handler hash arguments) segments

def renderTemplateWith (behaviour : Behaviour κ) (template : Value) (listener : Listener) (arguments : Arguments) :
    StageAct κ Unit := do
  let text ← Act.answering fun stage => stage.host.writeContent template
  let segments ← Act.reading (·.host.segments text)
  begin (surroundings behaviour) segments listener arguments

def renderTemplateFuture (behaviour : Behaviour κ) (template : Value) (arguments : Arguments) : StageAct κ Nat := do
  let future ← onWorld House.openFuture
  renderTemplateWith behaviour template (.fulfil future) arguments
  return future

def askHandler (behaviour : Behaviour κ) (handler : Handler κ) (hash : List Char) (listener : Listener)
    (arguments : Arguments) : StageAct κ Unit :=
  ask (surroundings behaviour) handler hash arguments listener

/-- Ask a handler for the content of a text, with a future for it. A fault that is raised before the
future is done completes it. -/
def askForFuture (behaviour : Behaviour κ) (handler : Handler κ) (hash : List Char) (arguments : Arguments) :
    StageAct κ Nat := do
  let future ← onWorld House.openFuture
  Act.recovering (askHandler behaviour handler hash (.fulfilOnce future) arguments) fun fault => do
    if ← Act.reading fun stage => (stage.world.future future).isDone then Act.failing fault
    else onWorld (House.completeFuture future (.error fault))
  return future

def takeDeferred : HostAct κ (Option (Deferred κ)) := do
  let first? ← Act.reading (·.desk.deferred.head?)
  atDesk fun desk => { desk with deferred := desk.deferred.tail }
  return first?

/-- Hand in a delivery that was put aside. -/
def handInDeferred (behaviour : Behaviour κ) (deferred : Deferred κ) : StageAct κ Unit := do
  let delivery ← match deferred.fault? with
    | some fault => pure ⟨some fault, .null⟩
    | none => do
      let content ← Stage.inHost (behaviour.render deferred.handler deferred.hash deferred.arguments)
      pure ⟨none, content⟩
  deliver (surroundings behaviour) deferred.recipient delivery

-- Hand in deliveries that were put aside, in order and at most so many; answer how many there
-- were.
def flush (behaviour : Behaviour κ) : Nat → StageAct κ Nat
  | 0 => pure 0
  | limit + 1 => do
    match ← Stage.inHost takeDeferred with
    | none => return 0
    | some deferred => do
      handInDeferred behaviour deferred
      let more ← flush behaviour limit
      return more + 1

def flushBound (stage : Stage κ) : Nat :=
  stage.host.desk.deferred.length + stage.remaining

end Host

end Stencil
