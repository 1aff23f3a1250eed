import Stencil.Address.Lookup
import Stencil.Host.Basic
import Stencil.Value.Member

/-! Looking into a host: the public members of the host, its parts and its providers. -/

set_option autoImplicit false

namespace Stencil

variable {κ : Type}

def hostMethods : List String :=
  ["from_settings", "add_template", "parse_template", "parse_template_future"]

def patternTableMethods : List String :=
  ["add_pattern_both", "patterns", "has_pattern", "segments", "parse_string", "parse_string_async"]

def resolverMethods : List String :=
  ["get_value_by_hash"]

def renderMethods : List String :=
  ["render", "render_async"]

def derivedMethods : List String :=
  ["render_future", "add_pattern", "build_root_data_object", "resolve_state_from_address"]

def loggingMethods : List String :=
  ["critical", "debug", "error", "exception", "getEffectiveLevel", "hasHandlers", "info", "isEnabledFor",
    "log", "setLevel", "warn", "warning"]

def logMethods : List String :=
  "process" :: loggingMethods

def loggerMethods : List String :=
  ["addFilter", "addHandler", "callHandlers", "fatal", "filter", "findCaller", "getChild", "handle",
    "makeRecord", "removeFilter", "removeHandler"] ++ loggingMethods

def memberIn (fields : List (String × Value)) (methods : List String) (name : String) : Option Value :=
  (fields.lookup name).or (methodIn methods name)

-- The report of a provider that could not be loaded, as a record.
def LoadError.view (report : LoadError) : Value :=
  .record .loadError [
    ("path", Log.known report.path?),
    ("code", .object (.code report.code)),
    ("message", .text report.message)]

namespace Host

def held (holding : Holding) : Value :=
  .object (.holding holding)

def entriesOf (host : Host κ) : Holding → Entries
  | .appData => host.appData
  | .bundle => host.bundle
  | .services => host.services.map fun (key, p) => (.text key, .object (.provider p.serial))

def entries? (host : Host κ) : Object → Option Entries
  | .holding holding => some (host.entriesOf holding)
  | _ => none

/-- A value as it is at this time: a dictionary of the host becomes what it holds. -/
def settle (host : Host κ) : Value → Value
  | .object (.holding holding) => .dict (host.entriesOf holding)
  | value => value

def fields (host : Host κ) : List (String × Value) :=
  [("settings", host.settings.view), ("app_data", held .appData), ("bundle", held .bundle),
    ("meta_template", .object .patternTable), ("manifest", .object .resolver), ("services", held .services),
    ("load_errors", .list (host.loadErrors.map LoadError.view)), ("log", .object (.log none))]

end Host

def derivedServiceType : String := "PictTemplate"

def Provider.fields (p : Provider κ) : List (String × Value) :=
  match p.cls.templateHash? with
  | none => []
  | some templateHash =>
    [("template_hash", .text templateHash), ("service_type", .text derivedServiceType), ("fable", .object .host),
      ("pict", .object .host), ("options", .dict p.options), ("uuid", .text p.uuid),
      ("service_hash", Log.known p.serviceHash?), ("log", .object (.log (some p.serial)))]

def Provider.methods (p : Provider κ) : List String :=
  if p.isDerived then renderMethods ++ derivedMethods else renderMethods

def Provider.logContext (p : Provider κ) : Log.Context :=
  { Log.Context.unknown with provider := .text p.cls.name, serviceHash := Log.known p.serviceHash? }

def logFields (logger : String) (context : Log.Context) : List (String × Value) :=
  [("logger", .object (.logger logger)), ("extra", Settings.dictOf context.fields), ("name", .text logger),
    ("manager", .object .loggerManager)]

def loggerManagerMethods : List String :=
  ["getLogger", "setLogRecordFactory", "setLoggerClass"]

def loggerManagerFields : List (String × Value) :=
  [("root", .object (.logger rootLogger)), ("disable", .int 0), ("emittedNoHandlerWarning", .bool false),
    ("loggerClass", .null), ("logRecordFactory", .null)]

-- Whether a logger stands above another: its name is the front of the other's, up to a point.
def isAbove (upper lower : String) : Bool :=
  (upper.toList ++ ['.']).isPrefixOf lower.toList

namespace Host

def loggers (host : Host κ) : List String :=
  logName :: (host.services.filter (·.2.isDerived)).map (·.2.logName)

/-- The name of the nearest logger above a logger; empty if there is none but the root. -/
def nearestAbove (host : Host κ) (name : String) : String :=
  (host.loggers.filter fun upper => isAbove upper name).foldl
    (fun found upper => if found.length < upper.length then upper else found) ""

def parentLogger (host : Host κ) (name : String) : Value :=
  if name = rootLogger then .null
  else
    let above := host.nearestAbove name
    .object (.logger (if above.isEmpty then rootLogger else above))

/-- The level that a logger says for itself; only the root says one. -/
def ownLevel (host : Host κ) (name : String) : Log.Level :=
  if name = rootLogger then host.console.threshold else .unset

/-- The handlers of a logger; only the root has any, one for each printer. -/
def ownHandlers (host : Host κ) (name : String) : List Value :=
  if name = rootLogger then host.console.printers.map fun _ => .object (.other "StreamHandler") else []

def loggerFields (host : Host κ) (name : String) : List (String × Value) :=
  [("name", .text name), ("level", .int (host.ownLevel name).number), ("propagate", .bool true),
    ("disabled", .bool false), ("handlers", .list (host.ownHandlers name)), ("filters", .list []),
    ("manager", .object .loggerManager), ("root", .object (.logger rootLogger)), ("parent", host.parentLogger name)]

end Host

def Host.attributes (host : Host κ) : Object → String → Option Value
  | .host, name => memberIn host.fields hostMethods name
  | .patternTable, name => methodIn patternTableMethods name
  | .resolver, name => methodIn resolverMethods name
  | .provider serial, name => (host.served? serial).bind fun (_, p) => memberIn p.fields p.methods name
  | .log none, name => memberIn (logFields Host.logName host.logContext) logMethods name
  | .log (some serial), name =>
    (host.served? serial).bind fun (_, p) => memberIn (logFields p.logName p.logContext) logMethods name
  | .logger logger, name => memberIn (host.loggerFields logger) loggerMethods name
  | .loggerManager, name => memberIn loggerManagerFields loggerManagerMethods name
  | .other "set", name => methodIn setMethods name
  | _, _ => none

def Host.access (host : Host κ) : Address.Access where
  entries? := host.entries?
  member? := host.attributes

/-- The class name of a value, with the class of a provider that lives in the host. -/
def Host.classNameOf (host : Host κ) : Value → String
  | .object (.provider serial) =>
    match host.served? serial with
    | some (_, p) => p.cls.name
    | none => (Object.provider serial).className
  | value => value.kindName

end Stencil
