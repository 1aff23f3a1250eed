import Stencil.Json.Writer
import Stencil.Log.Level
import Stencil.Log.Percent

/-! Log records and the lines that they are printed as.

A record has a message and, where they are known, the product, the provider, the service and the
template that it is about. It is printed as one line of JSON, or as plain text behind the time.
-/

set_option autoImplicit false

namespace Stencil.Log

structure Context where
  product : Value
  provider : Value
  serviceHash : Value
  templateHash : Value
  deriving Repr

def Context.unknown : Context := ⟨.null, .null, .null, .null⟩

def Context.fields (context : Context) : List (String × Value) :=
  [("product", context.product), ("provider", context.provider), ("service_hash", context.serviceHash),
    ("template_hash", context.templateHash)]

/-- A log record. The names of its level and its logger are texts, unless they are said otherwise. -/
structure Record where
  level : Value
  logger : Value
  message : String
  context : Context
  fault? : Option String
  deriving Repr

def known (text? : Option String) : Value :=
  match text? with
  | some text => .text text
  | none => .null

def isKnown : Value → Bool
  | .null => false
  | _ => true

def Record.entries (record : Record) : Entries :=
  [(.text "level", record.level), (.text "logger", record.logger), (.text "msg", .text record.message)] ++
    (record.context.fields.filter fun field => isKnown field.2).map (fun (name, value) => (.text name, value)) ++
    (record.fault?.map fun text => (Value.text "exc_info", Value.text text)).toList

def Record.jsonLine (record : Record) : Outcome String :=
  Json.write (.dict record.entries)

-- A line with the text of a fault, which begins on a line of its own.
def withFault (line : String) : Option String → String
  | none => line
  | some text => (if line.endsWith "\n" then line else line ++ "\n") ++ text

def Record.plainLine (time : String) (record : Record) : Outcome String := do
  let level ← Outcome.ofNumeral record.level.shown
  let logger ← Outcome.ofNumeral record.logger.shown
  return withFault (time ++ " " ++ level ++ " " ++ logger ++ ": " ++ record.message) record.fault?

/-- What is left of a record where nothing is configured. -/
def Record.bareLine (record : Record) : String :=
  withFault record.message record.fault?

def faultLine (fault : Fault) : String :=
  if fault.message.isEmpty then fault.cls.label else fault.cls.label ++ ": " ++ fault.message

-- The message of a value that is logged with arguments; without arguments places stay as they
-- are.
def messageOf (message : Value) (arguments : List Value) : Outcome String := do
  let text ← Outcome.ofNumeral message.shown
  if arguments.isEmpty then return text else fill text (.ofArguments arguments)

/-- The message of a value that is logged with one value for all its places; where that counts as
false, places stay as they are. -/
def messageFrom (message source : Value) : Outcome String := do
  let text ← Outcome.ofNumeral message.shown
  if source.truthy then fill text (.ofValue source) else return text

end Stencil.Log
