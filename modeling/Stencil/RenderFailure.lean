import Stencil.Check
import Stencil.Gather
import Stencil.Json.Plain

/-! Render failures as data: which data describe one, and how a fault is reported as one. -/

set_option autoImplicit false

namespace Stencil

namespace RenderError

def modelName : String := "RenderError"

def check : Value → Checked RenderError :=
  Check.model ["code", "message", "details"] fun entries =>
    .both (fun code (message, details) => ⟨code, message, details⟩)
      (Check.required entries "code" Check.errorCode)
      (.both Prod.mk
        (Check.required entries "message" Check.textOrCode)
        (Check.field entries "details" [] Check.textKeyed))

def ofValue (data : Value) : Except Report RenderError :=
  (check data).toReport modelName

def dump (error : RenderError) : Outcome Value := do
  let details ← Json.plainEntries error.details
  return .dict [
    (.text "code", .text error.code.text),
    (.text "message", .text error.message),
    (.text "details", .dict details)]

end RenderError

/-- Report a fault as a render failure with further details, whose keys have to be texts. -/
def Fault.reportedWith (fault : Fault) (code : ErrorCode) (details : Value) : Outcome Fault := do
  let entries ← Entries.gather details
  match ((Check.textKeyed (.dict entries)).under (.name "details")).toReport RenderError.modelName with
  | .ok _ => return fault.reported code entries
  | .error report => throw (.invalid report)

end Stencil
