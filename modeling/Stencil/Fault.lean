import Stencil.Report

/-! Everything that can go wrong, by its cause.

Each fault has a class, a wording and a shown form; all three are part of what the host reports.
Faults that provider code and module bodies raise carry the class and the text that they were
raised with. A fault about a value carries the shown form of the value: what has no wording, as a
missing key that cannot be written, is none of these faults.
-/

set_option autoImplicit false

namespace Stencil

open Number (NumeralFault)

inductive FaultClass where
  | badValue
  | badType
  | missingKey
  | running
  | lookup
  | badIndex
  | missingAttribute
  | zeroDivision
  | importing
  | operating
  | readingDirectory
  | missingModule
  | malformedJson
  | malformedYaml
  | invalidData
  | rendering
  | recursion
  | overflow
  | state
  | serialization
  deriving DecidableEq, Repr

def FaultClass.label : FaultClass → String
  | .badValue => "ValueError"
  | .badType => "TypeError"
  | .missingKey => "KeyError"
  | .running => "RuntimeError"
  | .lookup => "LookupError"
  | .badIndex => "IndexError"
  | .missingAttribute => "AttributeError"
  | .zeroDivision => "ZeroDivisionError"
  | .importing => "ImportError"
  | .operating => "OSError"
  | .readingDirectory => "IsADirectoryError"
  | .missingModule => "ModuleNotFoundError"
  | .malformedJson => "JSONDecodeError"
  | .malformedYaml => "YAMLError"
  | .invalidData => "ValidationError"
  | .rendering => "TemplateRenderError"
  | .recursion => "RecursionError"
  | .overflow => "OverflowError"
  | .state => "InvalidStateError"
  | .serialization => "PydanticSerializationError"

def FaultClass.raisable : List FaultClass :=
  [.badValue, .badType, .missingKey, .running, .lookup, .badIndex, .missingAttribute, .zeroDivision,
    .importing, .operating]

def FaultClass.ofLabel? (label : String) : Option FaultClass :=
  FaultClass.raisable.find? (·.label == label)

/-- A render failure as data. -/
structure RenderError where
  code : ErrorCode
  message : String
  details : Entries
  deriving Repr

inductive Fault where
  -- Raised by provider code or a module body, perhaps without a text.
  | raised (cls : FaultClass) (message : Option String)
  | numeral (fault : NumeralFault)
  | invalid (report : Report)
  | invalidConfiguration (report : Report)
  | render (error : RenderError) (cause : Option Fault)
  | classExpected (shown : String)
  | notRenderable (className : String)
  | malformedPath (shown : String)
  | relativeModule (name : String)
  | noModule (name : String)
  | notAPackage (name parent : String)
  | noExport (moduleName name : String)
  | notAClass (shown : String)
  | unknownCode (text : String)
  | unknownLevel (text : String)
  | json (message : String)
  | yaml
  | isDirectory (path : String)
  -- A path with a name that no file can have, or with too many names.
  | nameTooLong (path : String)
  | noHome
  | nullInPath
  | moment (fault : MomentFault)
  | noKey (shown : String)
  | noAttribute (className name : String)
  -- A value used where its type does not fit, with the wording.
  | misfit (message : String)
  | tooDeep
  | alreadyDone
  | noPlainForm (className : String)
  | nestedTooDeep
  deriving Repr, Inhabited

namespace Fault

def cls : Fault → FaultClass
  | .raised cls _ => cls
  | .numeral _ => .badValue
  | .invalid _ => .invalidData
  | .invalidConfiguration _ => .badValue
  | .render _ _ => .rendering
  | .classExpected _ => .badType
  | .notRenderable _ => .badType
  | .malformedPath _ => .badValue
  | .relativeModule _ => .badType
  | .noModule _ => .missingModule
  | .notAPackage _ _ => .missingModule
  | .noExport _ _ => .missingAttribute
  | .notAClass _ => .badType
  | .unknownCode _ => .badValue
  | .unknownLevel _ => .badValue
  | .json _ => .malformedJson
  | .yaml => .malformedYaml
  | .isDirectory _ => .readingDirectory
  | .nameTooLong _ => .operating
  | .noHome => .running
  | .nullInPath => .badValue
  | .moment _ => .badValue
  | .noKey _ => .missingKey
  | .noAttribute _ _ => .missingAttribute
  | .misfit _ => .badType
  | .tooDeep => .recursion
  | .alreadyDone => .state
  | .noPlainForm _ => .serialization
  | .nestedTooDeep => .badValue

/-- The wording of a fault; a missing key is shown quoted. -/
def message : Fault → String
  | .raised .missingKey (some message) => Text.quotedString message
  | .raised _ message => message.getD ""
  | .numeral fault => fault.message
  | .invalid report => report.heading
  | .invalidConfiguration report => "Invalid configuration: " ++ report.heading
  | .render error _ => error.message
  | .classExpected shown => "add_template expects a provider class, got " ++ shown
  | .notRenderable className => className ++ " does not implement render/render_async"
  | .malformedPath shown => "Provider path must look like 'package.module:ClassName': " ++ shown
  | .relativeModule name =>
    "the 'package' argument is required to perform a relative import for " ++ Text.quotedString name
  | .noModule name => "No module named " ++ Text.quotedString name
  | .notAPackage name parent =>
    "No module named " ++ Text.quotedString name ++ "; " ++ Text.quotedString parent ++ " is not a package"
  | .noExport moduleName name =>
    "Module " ++ Text.quotedString moduleName ++ " has no provider " ++ Text.quotedString name
  | .notAClass shown => "Provider " ++ shown ++ " is not a class"
  | .unknownCode text => Text.quotedString text ++ " is not a valid RenderErrorCode"
  | .unknownLevel text => "Unknown level: " ++ Text.quotedString text
  | .json message => message
  | .yaml => ""
  | .isDirectory path => "[Errno 21] Is a directory: " ++ Text.quotedString path
  | .nameTooLong path => "[Errno 36] File name too long: " ++ Text.quotedString path
  | .noHome => "Could not determine home directory."
  | .nullInPath => "embedded null byte"
  | .moment fault => fault.message
  | .noKey shown => shown
  | .noAttribute className name =>
    Text.quotedString className ++ " object has no attribute " ++ Text.quotedString name
  | .misfit message => message
  | .tooDeep => "maximum recursion depth exceeded"
  | .alreadyDone => "FINISHED"
  | .noPlainForm className => "Unable to serialize unknown type: <class " ++ Text.quotedString className ++ ">"
  | .nestedTooDeep => "Circular reference detected (depth exceeded)"

/-- A fault as it is shown inside other reports: its class and what it was raised with. -/
def shown : Fault → String
  | .raised cls (some message) => cls.label ++ "(" ++ Text.quotedString message ++ ")"
  | .raised cls none => cls.label ++ "()"
  | .noKey shown => "KeyError(" ++ shown ++ ")"
  | fault => fault.cls.label ++ "(" ++ Text.quotedString fault.message ++ ")"

def cause? : Fault → Option Fault
  | .render _ cause => cause
  | .invalidConfiguration report => some (.invalid report)
  | _ => none

/-- The text under which a fault is reported: its wording, or its class where the wording is empty. -/
def summary (fault : Fault) : String :=
  if fault.message.isEmpty then fault.cls.label else fault.message

/-- A render failure that reports another fault, with the shown fault and further details. -/
def reported (fault : Fault) (code : ErrorCode) (details : Entries) : Fault :=
  .render ⟨code, fault.summary, Entries.update [(.text "exc", .text fault.shown)] details⟩ (some fault)

end Fault

abbrev Outcome (α : Type) := Except Fault α

def Outcome.ofNumeral {α : Type} (result : Except NumeralFault α) : Outcome α :=
  result.mapError .numeral

@[simp] theorem Outcome.ofNumeral_ok {α : Type} (a : α) : Outcome.ofNumeral (.ok a) = .ok a := rfl

@[simp] theorem Outcome.ofNumeral_error {α : Type} (fault : NumeralFault) :
    (Outcome.ofNumeral (.error fault) : Outcome α) = .error (.numeral fault) := rfl

/-- The nearest floating-point number to an integer, which may be too large for one. -/
def Outcome.ofWhole (n : Int) : Outcome Number.Double :=
  match Number.Double.ofInt n with
  | .infinite _ => .error (.raised .overflow (some "int too large to convert to float"))
  | d => .ok d

end Stencil
