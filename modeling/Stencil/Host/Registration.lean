import Stencil.Check
import Stencil.Host.Members

/-! Registration of delimiter pairs and of providers.

A provider registers its delimiter pairs while it is constructed. It serves under the first free
key: the asked one, or that one with a number from 2 on behind it.
-/

set_option autoImplicit false

namespace Stencil

variable {κ : Type}

def Check.delimiter (value : Value) : Checked Delimiter :=
  match value.asText? with
  | some s => if filled : s.toList ≠ [] then .ok ⟨s.toList, filled⟩ else .refuse .refusedValue
  | none => .refuse .notText

def Check.callable : Value → Checked Unit
  | .object (.method _) => .ok ()
  | _ => .refuse .notCallable

structure PatternData where
  opening : Delimiter
  closing : Delimiter
  owner : Value

def PatternData.modelName : String := "PatternDef"

def PatternData.fieldNames : List String :=
  ["start", "end", "render", "render_async", "owner"]

def PatternData.check : Value → Checked PatternData :=
  Check.model fieldNames fun entries =>
    .both (fun (opening, closing) (_, owner) => ⟨opening, closing, owner⟩)
      (.both Prod.mk (Check.required entries "start" Check.delimiter) (Check.required entries "end" Check.delimiter))
      (.both Prod.mk
        (.both (fun _ _ => ()) (Check.required entries "render" Check.callable)
          (Check.required entries "render_async" Check.callable))
        (Check.field entries "owner" .null .ok))

-- The pattern with the given parts, or all that is wrong with them.
def PatternData.ofValue (data : Value) : Except Report PatternData :=
  (check data).toReport modelName

/-- Change a field of a pattern. Only names with an underscore in front are free, and none of the
parts has such a name. -/
def PatternData.change (data : PatternData) (field : String) : Except Report PatternData :=
  if isPrivate field then .ok data else .error ⟨modelName, [⟨[.name field], .frozen⟩]⟩

def methodValue (name : String) : Value :=
  .object (.method name)

def invalidPattern (opening closing : Value) (report : Report) : Outcome Fault := do
  let shownOpening ← Outcome.ofNumeral opening.quoted
  let shownClosing ← Outcome.ofNumeral closing.quoted
  return .render
    ⟨.invalidPattern, "Invalid delimiter pair " ++ shownOpening ++ "..." ++ shownClosing,
      [(.text "start", opening), (.text "end", closing)]⟩
    (some (.invalid report))

namespace Host

def tableLog : String := "pict_template.host.meta_template"

-- What records in the log of the pattern table say about a handler.
def ownerContext (handler : Handler κ) : Log.Context :=
  { Log.Context.unknown with provider := Log.known handler.ownerName? }

/-- What the log says about a delimiter pair, with the delimiters shown as they were given. -/
def pairMessage (event : String) (opening closing : Value) : Outcome String :=
  Outcome.ofNumeral do return event ++ (← opening.shown) ++ "..." ++ (← closing.shown)

def insertPattern (opening closing : Value) (pattern : Pattern (Handler κ)) : HostAct κ Unit := do
  if ← Act.reading fun host => (host.table.handler? pattern.opening.val pattern.closing.val).isSome then
    note .debug tableLog (fun _ => .unknown) (pairMessage "Replacing handlers for pattern " opening closing)
  Act.changing fun host => { host with table := host.table.insert pattern }
  note .debug tableLog (fun _ => ownerContext pattern.handler) (pairMessage "Registered pattern " opening closing)

def registerPattern (opening closing render renderAsync : Value) (handler : Handler κ) :
    HostAct κ (Pattern (Handler κ)) := do
  match PatternData.ofValue (Settings.dictOf
      [("start", opening), ("end", closing), ("render", render), ("render_async", renderAsync)]) with
  | .ok data => do
    let pattern : Pattern (Handler κ) := ⟨data.opening, data.closing, handler⟩
    insertPattern opening closing pattern
    return pattern
  | .error report => do
    let fault ← Act.ofResult (invalidPattern opening closing report)
    Act.failing fault

def addPattern (p : Provider κ) (opening closing : Value) : HostAct κ Unit := do
  let _ ← registerPattern opening closing (methodValue "render") (methodValue "render_async") p.handler
  if p.isDerived then
    note .debug p.logName (fun _ => p.logContext) (pairMessage "Added pattern " opening closing)

def addPatterns (p : Provider κ) : List (Value × Value) → HostAct κ Unit
  | [] => pure ()
  | (opening, closing) :: rest => do
    addPattern p opening closing
    addPatterns p rest

def serviceHashOf (cls : ProviderClass κ) (asked? : Option String) : Option String :=
  cls.templateHash?.map fun templateHash =>
    match asked? with
    | some asked => if asked.isEmpty then templateHash else asked
    | none => templateHash

def newProvider (cls : ProviderClass κ) (options : Value) (asked? : Option String) : HostAct κ (Provider κ) := do
  let kept ← if cls.templateHash?.isSome then Act.ofResult (Entries.gather options) else pure []
  let serial ← Act.reading (·.constructed)
  Act.changing fun host => { host with constructed := serial + 1 }
  return ⟨serial, cls, kept, serviceHashOf cls asked?⟩

def construct (cls : ProviderClass κ) (options : Value) (asked? : Option String) : HostAct κ (Provider κ) := do
  let p ← newProvider cls options asked?
  addPatterns p cls.pairs
  match cls.refusal? with
  | some fault => Act.failing fault
  | none => return p

/-- The key that a provider asks for: the asked name, or the name under which it serves, or the name of its class. -/
def askedKey (p : Provider κ) (asked? : Option String) : String :=
  (([asked?, p.serviceHash?].filterMap id).find? fun name => !name.isEmpty).getD p.cls.name

def numberedKey (key : String) (n : Nat) : String :=
  key ++ "-" ++ Number.natText n

/-- The asked key, or the first numbered key that is free. One of as many numbered keys as there are
services and one more is free. -/
def freeKey (used : List String) (key : String) : String :=
  if used.contains key then
    (((List.range (used.length + 1)).map fun i => numberedKey key (i + 2)).find? fun k => !used.contains k).getD key
  else key

end Host

inductive Candidate (κ : Type) where
  | cls (cls : ProviderClass κ)
  | value (v : Value)

namespace Host

/-- Construct a provider and let it serve in the host, under a key of its own. -/
def addProvider (candidate : Candidate κ) (options : Value) (asked? : Option String) :
    HostAct κ (String × Provider κ) := do
  match candidate with
  | .value v => do
    let shown ← Act.ofResult (Outcome.ofNumeral v.quoted)
    Act.failing (.classExpected shown)
  | .cls cls =>
    if cls.renders then do
      let p ← construct cls options asked?
      let key ← Act.reading fun host => freeKey (host.services.map (·.1)) (askedKey p asked?)
      Act.changing fun host => { host with services := host.services ++ [(key, p)] }
      note .info logName logContext (.ok ("Added template provider " ++ cls.name ++ " as " ++ key))
      return (key, p)
    else Act.failing (.notRenderable cls.name)

end Host

end Stencil
