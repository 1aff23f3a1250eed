import Stencil.Proofs.Strides
import Stencil.Yaml.Node

/-! Tokens of documents that hold a node.

A place that cannot be read is a token of its own. No node is made of it, and none of the tokens of a document is left
over, so a document that holds a node can be read to its end.
-/

set_option autoImplicit false

namespace Stencil.Yaml

/-- No token stands for a place that cannot be read. -/
def Legible (tokens : List Token) : Prop :=
  ∀ fault, Token.unreadable fault ∉ tokens

theorem legible_cons_iff {token : Token} {rest : List Token} :
    Legible (token :: rest) ↔ (∀ fault, token ≠ .unreadable fault) ∧ Legible rest := by
  simp only [Legible, List.mem_cons, not_or]
  exact ⟨fun all => ⟨fun fault => (all fault).1 ∘ Eq.symm, fun fault => (all fault).2⟩,
    fun both fault => ⟨both.1 fault ∘ Eq.symm, both.2 fault⟩⟩

theorem legible_nil : Legible [] := fun _ => List.not_mem_nil

mutual
theorem readNode_legible {setting : Setting} {tokens : List Token} {front : Front Node tokens.length}
    (ok : readNode setting tokens = .ok front) (rest : Legible front.rest) : Legible tokens := by
  match tokens with
  | [] => exact legible_nil
  | token :: behind =>
    cases token with
    | anchor name =>
      rw [readNode] at ok
      split at ok
      · cases ok
        exact legible_cons_iff.2 ⟨nofun, rest⟩
      · obtain ⟨inner, read, same⟩ := Outcome.bind_eq_ok_iff.1 ok
        cases same
        exact legible_cons_iff.2 ⟨nofun, readNode_legible read rest⟩
    | aliased name =>
      rw [readNode] at ok
      cases ok
      exact legible_cons_iff.2 ⟨nofun, rest⟩
    | scalar isPlain text =>
      rw [readNode] at ok
      cases ok
      exact legible_cons_iff.2 ⟨nofun, rest⟩
    | opening bracket =>
      rw [readNode] at ok
      obtain ⟨inner, read, same⟩ := Outcome.bind_eq_ok_iff.1 ok
      cases same
      exact legible_cons_iff.2 ⟨nofun, readEntries_legible read rest⟩
    | blockSequence =>
      rw [readNode] at ok
      split at ok
      · cases ok
        exact rest
      · obtain ⟨inner, read, same⟩ := Outcome.bind_eq_ok_iff.1 ok
        cases same
        exact legible_cons_iff.2 ⟨nofun, readItems_legible read rest⟩
    | blockMapping =>
      rw [readNode] at ok
      split at ok
      · cases ok
        exact rest
      · obtain ⟨inner, read, same⟩ := Outcome.bind_eq_ok_iff.1 ok
        cases same
        exact legible_cons_iff.2 ⟨nofun, readPairs_legible read rest⟩
    | item =>
      rw [readNode] at ok
      split at ok
      · obtain ⟨inner, read, same⟩ := Outcome.bind_eq_ok_iff.1 ok
        cases same
        exact readLooseItems_legible read rest
      · cases ok
        exact rest
    | _ =>
      rw [readNode] at ok
      · cases ok
        exact rest
      all_goals exact nofun
termination_by (tokens.length, 1)
theorem readItems_legible {tokens : List Token} {front : Front (List Node) tokens.length}
    (ok : readItems tokens = .ok front) (rest : Legible front.rest) : Legible tokens := by
  match tokens with
  | [] =>
    rw [readItems] at ok
    · cases ok
    all_goals exact nofun
  | token :: behind =>
    cases token with
    | item =>
      rw [readItems] at ok
      obtain ⟨item, read, ok⟩ := Outcome.bind_eq_ok_iff.1 ok
      obtain ⟨more, readMore, same⟩ := Outcome.bind_eq_ok_iff.1 ok
      cases same
      have := item.rest_le
      exact legible_cons_iff.2 ⟨nofun, readNode_legible read (readItems_legible readMore rest)⟩
    | blockEnd =>
      rw [readItems] at ok
      cases ok
      exact legible_cons_iff.2 ⟨nofun, rest⟩
    | _ =>
      rw [readItems] at ok
      · cases ok
      all_goals exact nofun
termination_by (tokens.length, 0)
theorem readLooseItems_legible {tokens : List Token} {front : Front (List Node) tokens.length}
    (ok : readLooseItems tokens = .ok front) (rest : Legible front.rest) : Legible tokens := by
  match tokens with
  | [] => exact legible_nil
  | token :: behind =>
    cases token with
    | item =>
      rw [readLooseItems] at ok
      obtain ⟨item, read, ok⟩ := Outcome.bind_eq_ok_iff.1 ok
      obtain ⟨more, readMore, same⟩ := Outcome.bind_eq_ok_iff.1 ok
      cases same
      have := item.rest_le
      exact legible_cons_iff.2 ⟨nofun, readNode_legible read (readLooseItems_legible readMore rest)⟩
    | _ =>
      rw [readLooseItems] at ok
      · cases ok
        exact rest
      all_goals exact nofun
termination_by (tokens.length, 0)
theorem readPairs_legible {tokens : List Token} {front : Front (List (Node × Node)) tokens.length}
    (ok : readPairs tokens = .ok front) (rest : Legible front.rest) : Legible tokens := by
  match tokens with
  | [] =>
    rw [readPairs] at ok
    · cases ok
    all_goals exact nofun
  | token :: behind =>
    cases token with
    | key =>
      rw [readPairs] at ok
      obtain ⟨key, read, ok⟩ := Outcome.bind_eq_ok_iff.1 ok
      obtain ⟨value, readHeld, ok⟩ := Outcome.bind_eq_ok_iff.1 ok
      obtain ⟨more, readMore, same⟩ := Outcome.bind_eq_ok_iff.1 ok
      cases same
      have := key.rest_le
      have := value.rest_le
      exact legible_cons_iff.2 ⟨nofun,
        readNode_legible read (readValue_legible readHeld (readPairs_legible readMore rest))⟩
    | blockEnd =>
      rw [readPairs] at ok
      cases ok
      exact legible_cons_iff.2 ⟨nofun, rest⟩
    | _ =>
      rw [readPairs] at ok
      · cases ok
      all_goals exact nofun
termination_by (tokens.length, 0)
theorem readValue_legible {setting : Setting} {tokens : List Token} {front : Front (Option Node) tokens.length}
    (ok : readValue setting tokens = .ok front) (rest : Legible front.rest) : Legible tokens := by
  match tokens with
  | [] => exact legible_nil
  | token :: behind =>
    cases token with
    | value =>
      rw [readValue] at ok
      obtain ⟨inner, read, same⟩ := Outcome.bind_eq_ok_iff.1 ok
      cases same
      exact legible_cons_iff.2 ⟨nofun, readNode_legible read rest⟩
    | _ =>
      rw [readValue] at ok
      · cases ok
        exact rest
      all_goals exact nofun
termination_by (tokens.length, 0)
theorem readEntries_legible {bracket : Bracket} {tokens : List Token}
    {front : Front (List (Node × Option Node)) tokens.length}
    (ok : readEntries bracket tokens = .ok front) (rest : Legible front.rest) : Legible tokens := by
  by_cases closes : ∃ closing behind, tokens = .closing closing :: behind
  · obtain ⟨closing, behind, rfl⟩ := closes
    rw [readEntries] at ok
    split at ok
    · cases ok
      exact legible_cons_iff.2 ⟨nofun, rest⟩
    · cases ok
  · rw [readEntries] at ok
    · obtain ⟨entry, read, ok⟩ := Outcome.bind_eq_ok_iff.1 ok
      refine readEntry_legible read ?_
      split at ok
      · rename_i behind next
        obtain ⟨more, readMore, same⟩ := Outcome.bind_eq_ok_iff.1 ok
        cases same
        have less : behind.length < tokens.length := by
          have le := entry.rest_le
          rw [next, List.length_cons] at le
          exact le
        rw [next]
        exact legible_cons_iff.2 ⟨nofun, readEntries_legible readMore rest⟩
      · rename_i closing behind next
        split at ok
        · cases ok
          rw [next]
          exact legible_cons_iff.2 ⟨nofun, rest⟩
        · cases ok
      · cases ok
    · exact fun closing behind same => closes ⟨closing, behind, same⟩
termination_by (tokens.length, 3)
theorem readEntry_legible {tokens : List Token} {front : Front (Node × Option Node) tokens.length}
    (ok : readEntry tokens = .ok front) (rest : Legible front.rest) : Legible tokens := by
  match tokens with
  | [] => exact legible_nil
  | token :: behind =>
    cases token with
    | key =>
      rw [readEntry] at ok
      obtain ⟨key, read, ok⟩ := Outcome.bind_eq_ok_iff.1 ok
      obtain ⟨value, readHeld, same⟩ := Outcome.bind_eq_ok_iff.1 ok
      cases same
      have := key.rest_le
      exact legible_cons_iff.2 ⟨nofun, readNode_legible read (readValue_legible readHeld rest)⟩
    | _ =>
      rw [readEntry] at ok
      · split at ok
        · obtain ⟨inner, read, same⟩ := Outcome.bind_eq_ok_iff.1 ok
          cases same
          exact readNode_legible read rest
        · cases ok
      all_goals exact nofun
termination_by (tokens.length, 2)
end

theorem legible_of_dropEnds {tokens : List Token} (all : dropEnds tokens = []) : Legible tokens := by
  induction tokens with
  | nil => exact legible_nil
  | cons token rest ih =>
    cases token with
    | documentEnd => exact legible_cons_iff.2 ⟨nofun, ih all⟩
    | _ => cases all

theorem readContent_legible {tokens rest : List Token} {node : Node} (ok : readContent tokens = .ok (node, rest))
    (legible : Legible rest) : Legible tokens := by
  unfold readContent at ok
  split at ok
  · obtain ⟨front, read, same⟩ := Outcome.map_eq_ok_iff.1 ok
    cases same
    exact readNode_legible read legible
  · cases ok

/-- The root of a document, and the tokens behind it. -/
def readDocument : List Token → Outcome (Node × List Token)
  | [] => .ok (Node.absent, [])
  | .documentStart :: rest => if isVoid rest then .ok (Node.absent, rest) else readContent rest
  | rest => readContent rest

theorem readRoot_eq (tokens : List Token) : readRoot tokens = readDocument tokens >>= fun document =>
    match dropEnds document.2 with
    | [] => .ok document.1
    | other => .error (misplaced other) := by
  unfold readRoot readDocument
  cases tokens with
  | nil => rfl
  | cons token rest =>
    cases token with
    | documentStart =>
      dsimp only
      cases isVoid rest with
      | true => rfl
      | false => rfl
    | _ => rfl

theorem readDocument_legible {tokens rest : List Token} {node : Node} (ok : readDocument tokens = .ok (node, rest))
    (legible : Legible rest) : Legible tokens := by
  unfold readDocument at ok
  split at ok
  · exact legible_nil
  · refine legible_cons_iff.2 ⟨nofun, ?_⟩
    split at ok
    · cases ok
      exact legible
    · exact readContent_legible ok legible
  · exact readContent_legible ok legible

/-- A document that holds a root can be read to its end. -/
theorem readRoot_legible {tokens : List Token} {root : Node} (ok : readRoot tokens = .ok root) : Legible tokens := by
  rw [readRoot_eq] at ok
  obtain ⟨⟨node, rest⟩, read, ok⟩ := Outcome.bind_eq_ok_iff.1 ok
  refine readDocument_legible read ?_
  dsimp only at ok
  split at ok
  · exact legible_of_dropEnds ‹_›
  · cases ok

end Stencil.Yaml
