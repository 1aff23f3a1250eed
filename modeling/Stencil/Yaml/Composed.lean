import Stencil.Yaml.Node

/-! Documents with every alias replaced by the node that it stands for.

Mappings are numbered, so that the copies of one mapping can be told from mappings that are written alike. A node that
holds an alias for itself is refused.
-/

set_option autoImplicit false

namespace Stencil.Yaml

inductive Composed where
  | plain (text : List Char)
  | quoted (text : List Char)
  | sequence (items : List Composed)
  | mapping (number : Nat) (pairs : List (Composed × Composed))
  deriving Repr

/-- What has been composed of a document so far: how many mappings, and the nodes that were anchored. A node is not there
as long as what it holds is being composed. -/
structure Anchors where
  count : Nat
  nodes : List (List Char × Option Composed)

namespace Anchors

def none : Anchors := ⟨0, []⟩

def found? (anchors : Anchors) (name : List Char) : Option (Option Composed) :=
  anchors.nodes.lookup name

def set (anchors : Anchors) (name : List Char) (node? : Option Composed) : Anchors :=
  { anchors with nodes := (name, node?) :: anchors.nodes }

end Anchors

mutual
def Node.composed (anchors : Anchors) : Node → Outcome (Composed × Anchors)
  | .plain text => .ok (.plain text, anchors)
  | .quoted text => .ok (.quoted text, anchors)
  | .sequence items => do
    let (items, anchors) ← allComposed anchors items
    return (.sequence items, anchors)
  | .mapping pairs => do
    let (pairs, later) ← pairsComposed { anchors with count := anchors.count + 1 } pairs
    return (.mapping anchors.count pairs, later)
  | .anchored name node =>
    match anchors.found? name with
    | some _ => .error .yaml
    | none => do
      let (node, later) ← node.composed (anchors.set name none)
      return (node, later.set name (some node))
  | .aliased name =>
    match anchors.found? name with
    | some (some node) => .ok (node, anchors)
    | _ => .error .yaml
def allComposed (anchors : Anchors) : List Node → Outcome (List Composed × Anchors)
  | [] => .ok ([], anchors)
  | node :: nodes => do
    let (node, anchors) ← node.composed anchors
    let (nodes, anchors) ← allComposed anchors nodes
    return (node :: nodes, anchors)
def pairsComposed (anchors : Anchors) : List (Node × Node) → Outcome (List (Composed × Composed) × Anchors)
  | [] => .ok ([], anchors)
  | (key, value) :: pairs => do
    let (key, anchors) ← key.composed anchors
    let (value, anchors) ← value.composed anchors
    let (pairs, anchors) ← pairsComposed anchors pairs
    return ((key, value) :: pairs, anchors)
end

end Stencil.Yaml
