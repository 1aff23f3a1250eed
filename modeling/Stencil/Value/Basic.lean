import Stencil.Number.Double
import Stencil.Value.Moment

/-! Values that templates are rendered from: records, contexts, settings, shared data.

A dictionary keeps its entries in the order in which their keys were first put in. Keys are
compared by what they denote: a truth value, an integer and a floating-point number that denote
the same number are the same key.
-/

set_option autoImplicit false

namespace Stencil

inductive ErrorCode where
  | providerError
  | invalidPattern
  | notAProvider
  | importFailed
  deriving DecidableEq, Repr

def ErrorCode.text : ErrorCode → String
  | .providerError => "provider_error"
  | .invalidPattern => "invalid_pattern"
  | .notAProvider => "not_a_provider"
  | .importFailed => "import_failed"

def ErrorCode.name : ErrorCode → String
  | .providerError => "PROVIDER_ERROR"
  | .invalidPattern => "INVALID_PATTERN"
  | .notAProvider => "NOT_A_PROVIDER"
  | .importFailed => "IMPORT_FAILED"

def ErrorCode.all : List ErrorCode :=
  [.providerError, .invalidPattern, .notAProvider, .importFailed]

def ErrorCode.ofText? (s : String) : Option ErrorCode :=
  ErrorCode.all.find? (·.text == s)

theorem ErrorCode.ofText?_text (code : ErrorCode) : ErrorCode.ofText? code.text = some code := by
  cases code <;> decide

inductive Holding where
  | appData
  | bundle
  | services
  deriving DecidableEq, Repr

/-- Things that live in a host and are referred to, not copied, by the values that reach them. -/
inductive Object where
  | host
  -- A dictionary of the host, which holds what the host has put into it by the time it is
  -- seen.
  | holding (holding : Holding)
  | patternTable
  | resolver
  | provider (serial : Nat)
  -- The log of the host, or of the provider with the given serial number.
  | log (owner : Option Nat)
  | logger (name : String)
  | loggerManager
  | code (code : ErrorCode)
  | day (day : Day)
  | moment (moment : Moment)
  | method (name : String)
  | other (className : String)
  deriving DecidableEq, Repr

def rootLogger : String := "root"

inductive RecordKind where
  | namespace
  | section (name : String)
  | loadError
  deriving DecidableEq, Repr

inductive Value where
  | null
  | bool (b : Bool)
  | int (n : Int)
  | float (d : Number.Double)
  | text (s : String)
  | list (items : List Value)
  | tuple (items : List Value)
  | dict (entries : List (Value × Value))
  | undefined
  | record (kind : RecordKind) (fields : List (String × Value))
  | object (o : Object)
  deriving Repr, Inhabited

abbrev Entries := List (Value × Value)

/-- A number as it is compared: an integer where it equals one. -/
inductive NumberKey where
  | whole (n : Int)
  | fraction (d : Number.Double)
  deriving DecidableEq, Repr

def Value.numberKey? : Value → Option NumberKey
  | .bool b => some (.whole (if b then 1 else 0))
  | .int n => some (.whole n)
  | .float .nan => none
  | .float d => some (match d.toInt? with | some n => .whole n | none => .fraction d)
  | _ => none

mutual
def Value.sameKey : Value → Value → Bool
  | .null, .null => true
  | .undefined, .undefined => true
  | .text s, .text t => s == t
  | .text s, .object (.code c) => s == c.text
  | .object (.code c), .text s => c.text == s
  | .object (.moment m), .object (.moment n) => m.same n
  | .object o, .object p => o == p
  | .tuple items, .tuple others => Value.sameKeys items others
  | a, b => match a.numberKey?, b.numberKey? with
    | some x, some y => x == y
    | _, _ => false
def Value.sameKeys : List Value → List Value → Bool
  | [], [] => true
  | a :: as, b :: bs => Value.sameKey a b && Value.sameKeys as bs
  | _, _ => false
end

namespace Entries

def find? (entries : Entries) (key : Value) : Option Value :=
  (List.find? (fun entry => entry.1.sameKey key) entries).map (·.2)

def get? (entries : Entries) (name : String) : Option Value :=
  find? entries (.text name)

/-- Put a value under a key: in the place of an entry with that key, which keeps its key, or else at the end. -/
def put (key value : Value) : Entries → Entries
  | [] => [(key, value)]
  | (k, v) :: rest => if k.sameKey key then (k, value) :: rest else (k, v) :: put key value rest

def set (entries : Entries) (name : String) (value : Value) : Entries :=
  put (.text name) value entries

def update (entries others : Entries) : Entries :=
  others.foldl (fun found entry => put entry.1 entry.2 found) entries

/-- The dictionary of a list of pairs, later pairs replacing the values of earlier ones. -/
def ofPairs (pairs : List (Value × Value)) : Entries :=
  update [] pairs

def keys (entries : Entries) : List Value :=
  entries.map (·.1)

@[simp] theorem find?_nil (key : Value) : find? [] key = none := rfl

@[simp] theorem update_nil (entries : Entries) : update entries [] = entries := rfl

end Entries

def Value.truthy : Value → Bool
  | .null => false
  | .bool b => b
  | .int n => n != 0
  | .float d => !d.isZero
  | .text s => !s.isEmpty
  | .list items => !items.isEmpty
  | .tuple items => !items.isEmpty
  | .dict entries => !entries.isEmpty
  | .undefined => false
  | .record _ _ => true
  | .object _ => true

def Value.isUndefined : Value → Bool
  | .undefined => true
  | _ => false

/-- Names with an underscore in front are private. -/
def isPrivate (name : String) : Bool :=
  name.toList.head? == some '_'

/-- The entries of a dictionary; any other value has none. -/
def Value.entriesOrNone : Value → Entries
  | .dict entries => entries
  | _ => []

theorem Value.sameKey_text (s t : String) : (Value.text s).sameKey (.text t) = (s == t) := by
  simp [Value.sameKey]

end Stencil
