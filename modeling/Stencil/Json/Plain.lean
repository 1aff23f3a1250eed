import Stencil.Fault
import Stencil.Value.Kind

/-! Plain data: values with nothing in them but what JSON text can hold.

A tuple becomes a list, a number without a numeral becomes `null`, and every key becomes a text.
Values that only a host knows have no plain form, and data that nest too deep are refused.
-/

set_option autoImplicit false

namespace Stencil.Json

def nestingLimit : Nat := 255

-- The full name of the class of a value that has no plain form.
def fullClassName : Value → String
  | .undefined => "pict_template.contracts.template_schema._Undefined"
  | .object .host => "pict_template.host.environment.Pict"
  | value => value.kindName

mutual
/-- A key as text; the parts of a tuple stand in one text with commas between them. -/
def plainKey : Value → Outcome String
  | .null => .ok "None"
  | .bool b => .ok (if b then "true" else "false")
  | .int n => Outcome.ofNumeral (Number.writeInt n)
  | .float .nan => .ok "None"
  | .float (.infinite _) => .ok "None"
  | .float d => .ok d.text
  | .text s => .ok s
  | .object (.code c) => .ok c.text
  | .tuple items => do return ",".intercalate (← plainKeys items)
  | key => .error (.noPlainForm (fullClassName key))
def plainKeys : List Value → Outcome (List String)
  | [] => .ok []
  | key :: keys => do return (← plainKey key) :: (← plainKeys keys)
end

def plainScalar : Value → Outcome Value
  | .float .nan => .ok .null
  | .float (.infinite _) => .ok .null
  | .object (.code c) => .ok (.text c.text)
  | .object o => .error (.noPlainForm (fullClassName (.object o)))
  | .record kind fields => .error (.noPlainForm (fullClassName (.record kind fields)))
  | .undefined => .error (.noPlainForm (fullClassName .undefined))
  | value => .ok value

mutual
def plainWithin : (levels : Nat) → Value → Outcome Value
  | 0, _ => .error .nestedTooDeep
  | levels + 1, .list items => (plainItems levels items).map .list
  | levels + 1, .tuple items => (plainItems levels items).map .list
  | levels + 1, .dict entries => (plainPairs levels entries).map fun pairs => .dict (Entries.ofPairs pairs)
  | _ + 1, value => plainScalar value
def plainItems (levels : Nat) : List Value → Outcome (List Value)
  | [] => .ok []
  | item :: items => do return (← plainWithin levels item) :: (← plainItems levels items)
def plainPairs (levels : Nat) : List (Value × Value) → Outcome (List (Value × Value))
  | [] => .ok []
  | (key, value) :: entries => do
    let name ← plainKey key
    let content ← plainWithin levels value
    return (.text name, content) :: (← plainPairs levels entries)
end

/-- The entries of a dictionary as plain data; later values replace earlier ones under the same key. -/
def plainEntries (entries : Entries) : Outcome Entries :=
  (plainPairs nestingLimit entries).map Entries.ofPairs

end Stencil.Json
