import Stencil.Host.Members

/-! Looking up addresses in a rendering: what is found under the host's own names, in the record
and the context of the call, and in a root that the caller adds. -/

set_option autoImplicit false

namespace Stencil

variable {κ : Type}

namespace Host

-- The list that templates see as the context: the caller's list, or else the host alone.
def contextItems : Value → List Value
  | .list items => items
  | .tuple items => items
  | _ => [.object .host]

def hostNames (record context : Value) : Entries :=
  [(.text "Pict", .object .host), (.text "Fable", .object .host), (.text "AppData", held .appData),
    (.text "Bundle", held .bundle), (.text "Context", .list (contextItems context)), (.text "Record", record)]

/-- The root that addresses start from: the entries of the caller's root, if that is a dictionary, with the
host's names put over them. -/
def callRoot (host : Host κ) (record context root : Value) : Entries :=
  Entries.update (host.settle root).entriesOrNone (hostNames record context)

def resolverLog : String := "pict_template.host.address"

def resolutionNote? : Address.Resolution → Option String
  | .malformed address => some ("Malformed address: " ++ address)
  | .unresolved address step => some ("Address did not resolve: " ++ address ++ " (at " ++ step.shown ++ ")")
  | _ => none

def lookUp (root address : Value) : HostAct κ Value := do
  let resolution ← Act.ofFun fun host => (Outcome.ofNumeral (Address.look host.access root address), host)
  match resolutionNote? resolution with
  | some message => note .debug resolverLog (fun _ => .unknown) (.ok message)
  | none => pure ()
  return resolution.value

def lookUpInCall (address record context root : Value) : HostAct κ Value := do
  let entries ← Act.reading fun host => host.callRoot record context root
  lookUp (.dict entries) address

end Host

end Stencil
