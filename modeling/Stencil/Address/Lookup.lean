import Stencil.Address.Syntax
import Stencil.Value.Member

/-! Looking up an address in a value.

A step into a dictionary is a key, a step into a sequence is a position, and a step into anything
else is the name of a public member. What is not there is `undefined`, and so is everything inside
it. Only a digit sign without a place value, or a numeral past the digit limit, is a fault.
-/

set_option autoImplicit false

namespace Stencil.Address

open Number (NumeralFault)

def Step.key : Step → Value
  | .name s => .text s
  | .index n => .int n

-- The position that a step means in a sequence; a name made of digit signs is read as a number.
def Step.position? : Step → Except NumeralFault (Option Nat)
  | .index n => .ok (some n)
  | .name s => if Text.allDigitSigns s.toList then (Number.readNat s.toList).map some else .ok none

def Step.inEntries (step : Step) (entries : Entries) : Value :=
  match Entries.find? entries step.key, step with
  | some value, _ => value
  | none, .index n => (Entries.get? entries (Number.natText n)).getD .undefined
  | none, .name _ => .undefined

/-- How objects are looked into: a dictionary that a host holds by its keys, and any other object by
the names of its members. -/
structure Access where
  entries? : Object → Option Entries
  member? : Object → String → Option Value

def Step.member (access : Access) (step : Step) (value : Value) : Value :=
  match step with
  | .index _ => .undefined
  | .name s =>
    if s.isEmpty || isPrivate s then .undefined
    else (value.member? access.member? s).getD .undefined

def Step.from (access : Access) (step : Step) : Value → Except NumeralFault Value
  | .dict entries => .ok (step.inEntries entries)
  | .list items | .tuple items => do
    match ← step.position? with
    | some n => return items[n]?.getD .undefined
    | none => return .undefined
  | .null => .ok .undefined
  | .undefined => .ok .undefined
  | .object o =>
    match access.entries? o with
    | some entries => .ok (step.inEntries entries)
    | none => .ok (step.member access (.object o))
  | value => .ok (step.member access value)

inductive Resolution where
  | blank
  | malformed (address : String)
  | unresolved (address : String) (step : Step)
  | found (value : Value)

def Resolution.value : Resolution → Value
  | .found value => value
  | _ => .undefined

/-- Take steps until one leads nowhere. -/
def follow (access : Access) (address : String) :
    List Step → Value → Except NumeralFault Resolution
  | [], value => .ok (.found value)
  | step :: steps, value => do
    let next ← step.from access value
    if next.isUndefined then return .unresolved address step else follow access address steps next

def look (access : Access) (root address : Value) : Except NumeralFault Resolution :=
  match address with
  | .text s =>
    let inner := Text.trimmed s
    if inner.isEmpty then .ok .blank
    else do
      match ← parse inner with
      | none => return .malformed s
      | some steps => follow access s steps root
  | _ => .ok .blank

def resolve (access : Access) (root address : Value) : Except NumeralFault Value :=
  (look access root address).map Resolution.value

end Stencil.Address
