import Stencil.Value.Tie
import Stencil.Yaml.Composed
import Stencil.Yaml.Scalar

/-! The value of a document.

Sequences and mappings are filled in stages: those that the root holds first, then those that these
hold, and so on. Of several faults the one of the earliest stage counts, and within a stage the one
that comes first. A mapping may take over the pairs of others, which its own pairs overrule. The
dictionary of a mapping is made once, also where aliases put it at several places.
-/

set_option autoImplicit false

namespace Stencil.Yaml

abbrev Staged (α : Type) := Except (Nat × Fault) α

namespace Staged

variable {α β γ : Type}

def inStage (stage : Nat) (result : Outcome α) : Staged α :=
  result.mapError fun fault => (stage, fault)

/-- Two results together, or the fault of the earlier stage; of two faults of one stage the first. -/
def both (combine : α → β → γ) : Staged α → Staged β → Staged γ
  | .ok a, .ok b => .ok (combine a b)
  | .error found, .ok _ => .error found
  | .ok _, .error found => .error found
  | .error found, .error other => .error (if other.1 < found.1 then other else found)

end Staged

/-- A document: its value, and the dictionaries that stand at several places of it. -/
structure Document where
  value : Value
  ties : List Tie
  deriving Repr

/-- What reads a document from a text. -/
abbrev Reader := List Char → Outcome Document

/-- A value together with the places of the dictionaries in it, each under the number of its mapping. -/
structure Placed where
  value : Value
  dicts : List (Nat × Row)

namespace Placed

def ofScalar (value : Value) : Placed := ⟨value, []⟩

def below (link : Link) (placed : Placed) : List (Nat × Row) :=
  placed.dicts.map fun (number, row) => (number, link :: row)

def ofItems (items : List Placed) : Placed where
  value := .list (items.map (·.value))
  dicts := items.zipIdx.flatMap fun (item, index) => item.below (.item index)

def ofEntries (number : Nat) (entries : List (Value × Placed)) : Placed where
  value := .dict (entries.map fun (key, held) => (key, held.value))
  dicts := (number, []) :: entries.flatMap fun (key, held) => held.below (.key key)

def ties (placed : Placed) : List Tie :=
  let numbers := (placed.dicts.map (·.1)).eraseDups
  let places := numbers.map fun number => (placed.dicts.filter (·.1 == number)).map (·.2)
  places.filter fun tie => 1 < tie.length

end Placed

def Composed.isMerge : Composed → Bool
  | .plain text => text == ['<', '<']
  | _ => false

def isSameKey : Value → Value → Bool
  | .float .nan, .float .nan => true
  | a, b => a.sameKey b

/-- Put a value under a key: in the place of the entry with that key, or else at the end. -/
def putEntry (entries : List (Value × Placed)) (entry : Value × Placed) : List (Value × Placed) :=
  if entries.any fun other => isSameKey other.1 entry.1 then
    entries.map fun other => if isSameKey other.1 entry.1 then (other.1, entry.2) else other
  else entries ++ [entry]

mutual
def checkMerges : List (Composed × Composed) → Outcome Unit
  | [] => .ok ()
  | (key, node) :: pairs => do
    if key.isMerge then checkMerged node
    checkMerges pairs
def checkMerged : Composed → Outcome Unit
  | .mapping _ pairs => checkMerges pairs
  | .sequence items => checkAllMerged items
  | _ => .error .yaml
def checkAllMerged : List Composed → Outcome Unit
  | [] => .ok ()
  | .mapping _ pairs :: nodes => do
    checkMerges pairs
    checkAllMerged nodes
  | _ => .error .yaml
end

-- The value of a scalar that is a key; an equals sign alone is text there.
def keyScalar (text : List Char) : Outcome Value :=
  if text = ['='] then .ok (.text "=") else plainValue text

mutual
/-- The value of a node that is made in a stage; what a sequence or mapping holds is made in the next. -/
def Composed.made (stage : Nat) : Composed → Staged Placed
  | .plain text => (Staged.inStage stage (plainValue text)).map .ofScalar
  | .quoted text => .ok (.ofScalar (.text (String.ofList text)))
  | .sequence items => (itemsMade (stage + 1) items).map .ofItems
  | .mapping number pairs =>
    Staged.both (fun _ entries => .ofEntries number (entries.foldl putEntry []))
      (.inStage (stage + 1) (checkMerges pairs)) (entriesMade (stage + 1) pairs)
def itemsMade (stage : Nat) : List Composed → Staged (List Placed)
  | [] => .ok []
  | node :: nodes => Staged.both (· :: ·) (node.made stage) (itemsMade stage nodes)
def entriesMade (stage : Nat) (pairs : List (Composed × Composed)) : Staged (List (Value × Placed)) :=
  Staged.both (· ++ ·) (takenOver stage pairs) (ownEntries stage pairs)
def takenOver (stage : Nat) : List (Composed × Composed) → Staged (List (Value × Placed))
  | [] => .ok []
  | (key, node) :: pairs =>
    if key.isMerge then Staged.both (· ++ ·) (merged stage node) (takenOver stage pairs)
    else takenOver stage pairs
def merged (stage : Nat) : Composed → Staged (List (Value × Placed))
  | .mapping _ pairs => entriesMade stage pairs
  | .sequence items => allMerged stage items
  | _ => .ok []
def allMerged (stage : Nat) : List Composed → Staged (List (Value × Placed))
  | [] => .ok []
  | node :: nodes => Staged.both (· ++ ·) (allMerged stage nodes) (merged stage node)
def ownEntries (stage : Nat) : List (Composed × Composed) → Staged (List (Value × Placed))
  | [] => .ok []
  | (key, node) :: pairs =>
    if key.isMerge then ownEntries stage pairs
    else
      let name := match key with
        | .plain text => Staged.inStage stage (keyScalar text)
        | .quoted text => .ok (.text (String.ofList text))
        | .sequence _ => .error (stage, .yaml)
        | .mapping _ _ => .error (stage, .yaml)
      let entry := Staged.both Prod.mk name (node.made stage)
      Staged.both (· :: ·) entry (ownEntries stage pairs)
end

def Node.document (root : Node) : Outcome Document := do
  let (composed, _) ← root.composed .none
  let placed ← (composed.made 0).mapError (·.2)
  return ⟨placed.value, placed.ties⟩

def isAllowed (c : Char) : Bool :=
  let n := c.toNat
  n == 9 || n == 10 || n == 13 || (32 ≤ n && n ≤ 126) || n == 0x85 || (0xA0 ≤ n && n ≤ 0xFFFD) || 0x10000 ≤ n

/-- Read a document that is written without tags, directives and block scalars; where there are any it is refused. -/
def read : Reader := fun s =>
  if s.all isAllowed then readRoot (tokens s) >>= Node.document else .error .yaml

end Stencil.Yaml
