import Stencil.Fault
import Stencil.Value.Kind

/-! Entries gathered from a value: those of a dictionary, or pairs that stand in sequence.

A value that counts as false gives no entries. A pair may be any two parts in sequence, the two
characters of a text among them.
-/

set_option autoImplicit false

namespace Stencil

def Value.parts? : Value → Option (List Value)
  | .list items => some items
  | .tuple items => some items
  | .text s => some (s.toList.map fun c => .text (String.ofList [c]))
  | .dict entries => some (Entries.keys entries)
  | _ => none

mutual
-- The first part of a value that keeps it from being a key, if there is one.
def Value.unfitAsKey? : Value → Option Value
  | .tuple items => Value.firstUnfitAsKey? items
  | .list items => some (.list items)
  | .dict entries => some (.dict entries)
  | .record kind fields => some (.record kind fields)
  | _ => none
def Value.firstUnfitAsKey? : List Value → Option Value
  | [] => none
  | item :: items => (Value.unfitAsKey? item).or (Value.firstUnfitAsKey? items)
end

/-- A value as a key; lists, dictionaries and records are none, and neither is a tuple that holds one. -/
def Value.asKey (value : Value) : Outcome Value :=
  match value.unfitAsKey? with
  | some part => .error (.misfit ("unhashable type: " ++ Text.quotedString part.kindName))
  | none => .ok value

namespace Entries

def gatherPair (place : Nat) (value : Value) : Outcome (Value × Value) :=
  match value.parts? with
  | none =>
    .error (.misfit ("cannot convert dictionary update sequence element #" ++ Number.natText place ++ " to a sequence"))
  | some [key, content] => key.asKey.map (·, content)
  | some parts =>
    .error (.raised .badValue (some
      ("dictionary update sequence element #" ++ Number.natText place ++ " has length " ++
        Number.natText parts.length ++ "; 2 is required")))

def gatherPairs (place : Nat) : List Value → Outcome (List (Value × Value))
  | [] => .ok []
  | value :: rest => do
    let pair ← gatherPair place value
    let pairs ← gatherPairs (place + 1) rest
    return pair :: pairs

/-- The fault of a value that nothing can be gathered from. A record with a field `keys` is asked for its
keys, and no field can answer. -/
def notGathered : Value → Fault
  | .record kind fields =>
    match fields.lookup "keys" with
    | some listing => .misfit (Text.quotedString listing.kindName ++ " object is not callable")
    | none => .misfit (Text.quotedString (Value.record kind fields).kindName ++ " object is not iterable")
  | other => .misfit (Text.quotedString other.kindName ++ " object is not iterable")

def gather (value : Value) : Outcome Entries :=
  if value.truthy then
    match value with
    | .dict entries => .ok entries
    | other =>
      match other.parts? with
      | some parts => (gatherPairs 0 parts).map ofPairs
      | none => .error (notGathered other)
  else .ok []

@[simp] theorem gather_dict (entries : Entries) : gather (.dict entries) = .ok entries := by
  cases entries <;> simp [gather, Value.truthy]

@[simp] theorem gather_null : gather .null = .ok [] := rfl

end Entries

end Stencil
