import Stencil.Host.Loading
import Stencil.Host.Rendering
import Stencil.Host.Resolution

/-! Scripted providers: conducts that are given as data.

A script says how to render and how to answer, for all texts between the delimiters and for single
ones. What a script leaves open is done as the base class does it: the content is the empty text,
and a handler that is asked renders at once.
-/

set_option autoImplicit false

namespace Stencil

open Rendering

inductive Form where
  | written (lead tail : String)
  -- Its text between two texts, if it counts as true; else nothing between them.
  | writtenIfTrue (lead tail : String)
  | raw
  | nested

inductive RenderAction where
  | affix (lead tail : String)
  | constant (value : Value)
  | fail (fault : Fault)
  | count
  | register (opening closing answer : Value)
  | enclose (lead tail : String)
  | lookUp (root : Value) (form : Form)

inductive ReplyAction where
  | answer (action : RenderAction)
  | later
  | faultLater (fault : Fault)
  -- Make the given deliveries, then perhaps raise a fault; an empty list never answers.
  | deliver (deliveries : List (Delivery Fault Value)) (fault? : Option Fault)

/-- Ways to render and to answer; either may be left open. -/
structure Actions where
  render? : Option RenderAction
  reply? : Option ReplyAction

structure Script where
  general : Actions
  special : List (String × Actions)
  traced : Bool

namespace Script

def ofRender (action : RenderAction) : Script := ⟨⟨some action, none⟩, [], false⟩

def base : Script := ⟨⟨none, none⟩, [], false⟩

def renderAction? (script : Script) (hash : String) : Option RenderAction :=
  ((script.special.lookup hash).bind (·.render?)).or script.general.render?

def replyAction? (script : Script) (hash : String) : Option ReplyAction :=
  ((script.special.lookup hash).bind (·.reply?)).or script.general.reply?

def countUp : Value → Outcome Value
  | .int n => .ok (.int (n + 1))
  | .bool b => .ok (.int (if b then 2 else 1))
  | .float d => .ok (.float (d.add (.ofInt 1)))
  | other => .error (.misfit (
    if other.isSequence then "can only concatenate " ++ other.kindName ++ " (not \"int\") to " ++ other.kindName
    else "unsupported operand type(s) for +: " ++ Text.quotedString other.kindName ++ " and 'int'"))

/-- Count up in a scope and note a text in a state, if that is a list. -/
def counted (hash : String) (sticky : Sticky) : Outcome (Value × Sticky) :=
  match sticky.scope with
  | .dict entries => do
    let count ← countUp ((Entries.get? entries "count").getD (.int 0))
    let state := match sticky.state with
      | .list items => .list (items ++ [.text hash])
      | other => other
    return (count, ⟨.dict (Entries.set entries "count" count), state⟩)
  | .record kind fields =>
    match fields.lookup "get" with
    | some value => .error (.misfit (Text.quotedString value.kindName ++ " object is not callable"))
    | none => .error (.noAttribute kind.className "get")
  | other => .error (.noAttribute other.kindName "get")

def countCall (hash : String) (arguments : Arguments) : HostAct Script Value := do
  let (count, sticky) ← Act.ofFun fun host => (counted hash (host.sticky arguments.sticky), host)
  Host.atDesk fun desk => { desk with stickies := desk.stickies.set arguments.sticky sticky }
  let text ← Act.ofResult (Outcome.ofNumeral count.shown)
  return .text text

def between (lead tail text : String) : Value :=
  .text (lead ++ text ++ tail)

/-- Put a looked up value into form; `behaviour` renders nested templates. -/
def form (behaviour : Behaviour Script) (arguments : Arguments) (value : Value) : Form → HostAct Script Value
  | .written lead tail => do
    let text ← Act.answering fun host => Outcome.ofNumeral (host.settle value).shown
    return between lead tail text
  | .writtenIfTrue lead tail => do
    let settled ← Act.reading (·.settle value)
    let text ← if settled.truthy then Act.ofResult (Outcome.ofNumeral settled.shown) else pure ""
    return between lead tail text
  | .raw => return value
  | .nested => do
    let text ← Host.renderTemplate behaviour value arguments
    return .text text

/-- Render a text in one way; `behaviour` renders nested templates. -/
def act (behaviour : Behaviour Script) (owner? : Option (Provider Script)) (hash : String) (arguments : Arguments) :
    RenderAction → HostAct Script Value
  | .affix lead tail => return between lead tail hash
  | .constant value => return value
  | .fail fault => Act.failing fault
  | .count => countCall hash arguments
  | .register opening closing answer => do
    match owner? with
    | some p => Host.addPattern p opening closing
    | none => pure ()
    return answer
  | .enclose lead tail => do
    let text ← Host.renderTemplate behaviour (.text hash) arguments
    return between lead tail text
  | .lookUp root shape => do
    let value ← Host.lookUpInCall (.text hash) arguments.record arguments.context root
    form behaviour arguments value shape

def render (behaviour : Behaviour Script) (handler : Handler Script) (hash : List Char) (arguments : Arguments) :
    HostAct Script Value := do
  let text := String.ofList hash
  match handler.conduct.renderAction? text with
  | none => return .text ""
  | some action => do
    if handler.conduct.traced then Host.keepCall handler.serviceHash? text arguments
    act behaviour handler.owner? text arguments action

def silently (change : HostAct Script Unit) : Move (Host Script) (Handler Script) Fault Value Listener :=
  ⟨do change; return none⟩

def putAside (deferred : Deferred Script) : HostAct Script Unit :=
  Host.atDesk fun desk => { desk with deferred := desk.deferred ++ [deferred] }

/-- The moves that the script of a handler says; `behaviour` renders nested templates. -/
def moves (behaviour : Behaviour Script) (handler : Handler Script) (hash : List Char) (arguments : Arguments)
    (recipient : Recipient (Handler Script) Listener) :
    List (Move (Host Script) (Handler Script) Fault Value Listener) :=
  match handler.conduct.replyAction? (String.ofList hash) with
  | none => answering (render behaviour handler hash arguments) recipient
  | some (.answer action) => answering (act behaviour handler.owner? (String.ofList hash) arguments action) recipient
  | some .later => [silently (putAside ⟨recipient, handler, hash, arguments, none⟩)]
  | some (.faultLater fault) => [silently (putAside ⟨recipient, handler, hash, arguments, some fault⟩)]
  | some (.deliver deliveries fault?) =>
    deliveries.map (fun delivery => ⟨pure (some (recipient, delivery))⟩) ++
      fault?.toList.map fun fault => silently (Act.failing fault)

def depthLimit : Nat := 2000

def behaviourWithin : Nat → Behaviour Script
  | 0 => .ofRender fun _ _ _ => Act.failing .tooDeep
  | depth + 1 => ⟨render (behaviourWithin depth), moves (behaviourWithin depth)⟩

def behaviour : Behaviour Script :=
  behaviourWithin depthLimit

end Script

def ProviderClass.derived (name templateHash : String) (pairs : List (Value × Value)) (script : Script) :
    ProviderClass Script where
  name
  renders := true
  templateHash? := some templateHash
  pairs
  refusal? := none
  conduct := script

def ProviderClass.plain (name : String) : ProviderClass Script where
  name
  renders := false
  templateHash? := none
  pairs := []
  refusal? := none
  conduct := Script.base

def defaultTemplateHash : String := "Default"

def ProviderClass.base : ProviderClass Script :=
  .derived "PictTemplateExpression" defaultTemplateHash [] Script.base

end Stencil
