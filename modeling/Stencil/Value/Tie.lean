import Stencil.Value.Basic

/-! Dictionaries that stand at more than one place.

A value is a tree, but a dictionary that was made once may be held at several places of it. What is put into such a
dictionary is then found at all of these places. A tie lists the places of one dictionary.
-/

set_option autoImplicit false

namespace Stencil

/-- A link leads from a value to one that it holds: under a key, or as an item of a list or tuple. -/
inductive Link where
  | key (key : Value)
  | item (index : Nat)
  deriving Repr

-- Links from a value down to a place in it.
abbrev Row := List Link

abbrev Tie := List Row

def Link.same : Link → Link → Bool
  | .key one, .key other => one.sameKey other
  | .item one, .item other => one == other
  | _, _ => false

namespace Row

def ofNames (path : List String) : Row :=
  path.map fun name => .key (.text name)

/-- The links of a row behind a place that it leads through. -/
def behind? : (place row : Row) → Option Row
  | [], row => some row
  | link :: place, other :: row => if link.same other then behind? place row else none
  | _ :: _, [] => none

end Row

/-- The places to which a row leads if it goes on from any place of a tied dictionary; there are none if it leads
through no such dictionary. -/
def Tie.places (tie : Tie) (row : Row) : List Row :=
  tie.flatMap fun place =>
    match place.behind? row with
    | some (link :: rest) => tie.map (· ++ link :: rest)
    | _ => []

/-- All places at which one comes out along a row. -/
def Row.places (ties : List Tie) (row : Row) : List Row :=
  row :: ties.flatMap (·.places row)

namespace Value

def at? : Value → Row → Option Value
  | value, [] => some value
  | .dict entries, .key key :: row => (Entries.find? entries key).bind (·.at? row)
  | .list items, .item index :: row => items[index]?.bind (·.at? row)
  | .tuple items, .item index :: row => items[index]?.bind (·.at? row)
  | _, _ :: _ => none

def holdsDictAt (value : Value) (row : Row) : Bool :=
  match value.at? row with
  | some (.dict _) => true
  | _ => false

-- Put a value at a place; what stands above a key and is no dictionary is replaced by one.
def putAt (value : Value) : Row → Value → Value
  | [], _ => value
  | .key key :: row, held =>
    let entries := held.entriesOrNone
    .dict (Entries.put key (putAt value row ((Entries.find? entries key).getD .null)) entries)
  | .item index :: row, .list items => .list (items.modify index (putAt value row))
  | .item index :: row, .tuple items => .tuple (items.modify index (putAt value row))
  | .item _ :: _, held => held

end Value

/-- A configuration, with ties for the dictionaries that stand at several of its places. -/
structure Tied where
  entries : Entries
  ties : List Tie
  deriving Repr

/-- Put a value at all places to which a row leads. A place that holds no dictionary any more is tied no longer. -/
def Tied.put (tied : Tied) (row : Row) (value : Value) : Tied :=
  let changed := (row.places tied.ties).foldl (fun found place => Value.putAt value place found) (.dict tied.entries)
  ⟨changed.entriesOrNone, tied.ties.map (·.filter changed.holdsDictAt)⟩

theorem Tied.put_untied (entries : Entries) (row : Row) (value : Value) :
    Tied.put ⟨entries, []⟩ row value = ⟨(Value.putAt value row (.dict entries)).entriesOrNone, []⟩ := rfl

end Stencil
