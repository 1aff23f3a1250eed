import Stencil.Yaml.Token

/-! Nodes: the tree that the tokens of a document stand for. -/

set_option autoImplicit false

namespace Stencil.Yaml

/-- A node as it is written. A plain scalar may stand for a number or a truth value; a quoted one is text. An alias
stands for the node that is anchored under its name. -/
inductive Node where
  | plain (text : List Char)
  | quoted (text : List Char)
  | sequence (items : List Node)
  | mapping (pairs : List (Node × Node))
  | anchored (name : List Char) (node : Node)
  | aliased (name : List Char)
  deriving Repr

/-- A node that is not there; it means that there is no value. -/
def Node.absent : Node := .plain []

/-- What was read from the front of a row of tokens, and the tokens behind it. -/
structure Front (α : Type) (bound : Nat) where
  found : α
  rest : List Token
  rest_le : rest.length ≤ bound

namespace Front

variable {α β : Type} {bound : Nat}

def map (f : α → β) (front : Front α bound) : Front β bound :=
  ⟨f front.found, front.rest, front.rest_le⟩

def widen {wider : Nat} (front : Front α bound) (le : bound ≤ wider) : Front α wider :=
  ⟨front.found, front.rest, Nat.le_trans front.rest_le le⟩

end Front

def misplaced : List Token → Fault
  | .unreadable fault :: _ => fault
  | _ => .yaml

/-- Where a node stands: inside brackets, in a block, or in a block whose own column the items of a
sequence may stand in. -/
inductive Setting where
  | flow
  | block
  | openBlock
  deriving DecidableEq, Repr

def Setting.begins (setting : Setting) : Token → Bool
  | .anchor _ => true
  | .aliased _ => true
  | .scalar _ _ => true
  | .opening _ => true
  | .blockSequence => setting != .flow
  | .blockMapping => setting != .flow
  | .item => setting == .openBlock
  | _ => false

-- Behind an anchor stands the node itself, and neither another anchor nor an alias.
def startsWithName : List Token → Bool
  | .anchor _ :: _ => true
  | .aliased _ :: _ => true
  | _ => false

def flowItem : Node × Option Node → Node
  | (key, some value) => .mapping [(key, value)]
  | (item, none) => item

def flowPair : Node × Option Node → Node × Node
  | (key, value?) => (key, value?.getD .absent)

def Bracket.node (entries : List (Node × Option Node)) : Bracket → Node
  | .square => .sequence (entries.map flowItem)
  | .curly => .mapping (entries.map flowPair)

mutual
def readNode (setting : Setting) (tokens : List Token) : Outcome (Front Node tokens.length) :=
  match tokens with
  | .anchor name :: rest =>
    if startsWithName rest then .ok ⟨.anchored name .absent, rest, by simp⟩
    else do
      let front ← readNode setting rest
      return (front.map (.anchored name)).widen (by simp)
  | .aliased name :: rest => .ok ⟨.aliased name, rest, by simp⟩
  | .scalar isPlain text :: rest =>
    .ok ⟨if isPlain then .plain text else .quoted text, rest, by simp⟩
  | .opening bracket :: rest => do
    let front ← readEntries bracket rest
    return (front.map fun entries => bracket.node entries).widen (by simp)
  | .blockSequence :: rest =>
    if setting = .flow then .ok ⟨.absent, .blockSequence :: rest, Nat.le_refl _⟩
    else do
      let front ← readItems rest
      return (front.map .sequence).widen (by simp)
  | .blockMapping :: rest =>
    if setting = .flow then .ok ⟨.absent, .blockMapping :: rest, Nat.le_refl _⟩
    else do
      let front ← readPairs rest
      return (front.map .mapping).widen (by simp)
  | .item :: rest =>
    if setting = .openBlock then do
      let front ← readLooseItems (.item :: rest)
      return front.map .sequence
    else .ok ⟨.absent, .item :: rest, Nat.le_refl _⟩
  | rest => .ok ⟨.absent, rest, Nat.le_refl _⟩
termination_by (tokens.length, 1)
-- The items of a block sequence up to the end of its block.
def readItems (tokens : List Token) : Outcome (Front (List Node) tokens.length) :=
  match tokens with
  | .item :: rest => do
    let item ← readNode .block rest
    let more ← readItems item.rest
    return (more.map (item.found :: ·)).widen (by have := item.rest_le; simp; omega)
  | .blockEnd :: rest => .ok ⟨[], rest, by simp⟩
  | other => .error (misplaced other)
termination_by (tokens.length, 0)
decreasing_by
  · simp_wf; omega
  · have := item.rest_le
    simp_wf; omega
-- The items of a sequence that stands in the column of the mapping around it.
def readLooseItems (tokens : List Token) : Outcome (Front (List Node) tokens.length) :=
  match tokens with
  | .item :: rest => do
    let item ← readNode .block rest
    let more ← readLooseItems item.rest
    return (more.map (item.found :: ·)).widen (by have := item.rest_le; simp; omega)
  | rest => .ok ⟨[], rest, Nat.le_refl _⟩
termination_by (tokens.length, 0)
decreasing_by
  · simp_wf; omega
  · have := item.rest_le
    simp_wf; omega
def readPairs (tokens : List Token) : Outcome (Front (List (Node × Node)) tokens.length) :=
  match tokens with
  | .key :: rest => do
    let key ← readNode .openBlock rest
    let value ← readValue .openBlock key.rest
    let more ← readPairs value.rest
    return (more.map ((key.found, value.found.getD .absent) :: ·)).widen
      (by have := key.rest_le; have := value.rest_le; simp; omega)
  | .blockEnd :: rest => .ok ⟨[], rest, by simp⟩
  | other => .error (misplaced other)
termination_by (tokens.length, 0)
decreasing_by
  · simp_wf; omega
  · have := key.rest_le
    simp_wf; omega
  · have := key.rest_le
    have := value.rest_le
    simp_wf; omega
def readValue (setting : Setting) (tokens : List Token) : Outcome (Front (Option Node) tokens.length) :=
  match tokens with
  | .value :: rest => do
    let front ← readNode setting rest
    return (front.map some).widen (by simp)
  | rest => .ok ⟨none, rest, Nat.le_refl _⟩
termination_by (tokens.length, 0)
/-- What stands inside brackets up to the closing one: nodes and pairs, with commas between them. -/
def readEntries (bracket : Bracket) (tokens : List Token) :
    Outcome (Front (List (Node × Option Node)) tokens.length) :=
  match tokens with
  | .closing closing :: rest =>
    if closing = bracket then .ok ⟨[], rest, by simp⟩ else .error .yaml
  | tokens => do
    let entry ← readEntry tokens
    match _next : entry.rest with
    | .comma :: rest => do
      let more ← readEntries bracket rest
      return (more.map (entry.found :: ·)).widen
        (by have := entry.rest_le; simp only [_next, List.length_cons] at this; omega)
    | .closing closing :: rest =>
      if closing = bracket then
        .ok ⟨[entry.found], rest, by have := entry.rest_le; simp only [_next, List.length_cons] at this; omega⟩
      else .error .yaml
    | other => .error (misplaced other)
termination_by (tokens.length, 3)
decreasing_by
  · exact Prod.Lex.right _ (by omega)
  · have := entry.rest_le
    simp only [_next, List.length_cons] at this
    exact Prod.Lex.left _ _ (by omega)
def readEntry (tokens : List Token) : Outcome (Front (Node × Option Node) tokens.length) :=
  match tokens with
  | .key :: rest => do
    let key ← readNode .flow rest
    let value ← readValue .flow key.rest
    return ⟨(key.found, some (value.found.getD .absent)), value.rest,
      by have := key.rest_le; have := value.rest_le; simp; omega⟩
  | token :: rest =>
    if Setting.flow.begins token then do
      let front ← readNode .flow (token :: rest)
      return front.map fun node => (node, none)
    else .error (misplaced (token :: rest))
  | [] => .error .yaml
termination_by (tokens.length, 2)
decreasing_by
  · simp_wf; omega
  · have := key.rest_le
    simp_wf; omega
  · exact Prod.Lex.right _ (by omega)
end

def dropEnds : List Token → List Token
  | .documentEnd :: rest => dropEnds rest
  | rest => rest

def isVoid : List Token → Bool
  | [] => true
  | .documentStart :: _ => true
  | .documentEnd :: _ => true
  | _ => false

def readContent (tokens : List Token) : Outcome (Node × List Token) :=
  if tokens.head?.any Setting.block.begins then
    (readNode .block tokens).map fun front => (front.found, front.rest)
  else .error (misplaced tokens)

/-- The root of the only document that tokens hold; without any tokens there is no document. -/
def readRoot (tokens : List Token) : Outcome Node := do
  let (root, rest) ← match tokens with
    | [] => pure (Node.absent, [])
    | .documentStart :: rest => if isVoid rest then pure (Node.absent, rest) else readContent rest
    | rest => readContent rest
  match dropEnds rest with
  | [] => return root
  | other => throw (misplaced other)

end Stencil.Yaml
