import Stencil.Proofs.Digits
import Stencil.Proofs.Keyed
import Stencil.Proofs.Lookup

/-! Every node of a data tree is found at each of its addresses.

A branch leads from a node to one right below it, and a path is a row of branches. A branch has several
forms in an address, which may be mixed freely along a path: a key may be a name or stand in a bracket
between marks, and the position of an item may be a name or stand in a bracket.
-/

set_option autoImplicit false

namespace Stencil

open Text Number

namespace Text

/-- A text that neither begins nor ends with a blank. -/
structure Solid (s : List Char) : Prop where
  filled : s ≠ []
  front : ∀ c ∈ s.head?, isBlank c = false
  back : ∀ c ∈ s.getLast?, isBlank c = false

theorem Solid.trim {s : List Char} (solid : Solid s) : trim s = s := by
  obtain ⟨filled, front, back⟩ := solid
  have ahead : s.dropWhile isBlank = s := by
    cases s with
    | nil => rfl
    | cons c rest => simp [front c rfl]
  have behind : s.reverse.dropWhile isBlank = s.reverse := by
    rw [← List.head?_reverse] at back
    cases reversed : s.reverse with
    | nil => rfl
    | cons c rest => simp [back c (by simp [reversed])]
  simp [Text.trim, stripOf, dropLeading, dropTrailing, ahead, behind]

/-- A text that is not blank at either end is what is left of it between blanks. -/
theorem Solid.trim_between {front s back : List Char} (solid : Solid s) (ahead : ∀ c ∈ front, isBlank c = true)
    (behind : ∀ c ∈ back, isBlank c = true) : Text.trim (front ++ s ++ back) = s := by
  have filled : s.dropWhile isBlank ≠ [] := by
    obtain ⟨c, rest, rfl⟩ := List.exists_cons_of_ne_nil solid.filled
    simp [solid.front c rfl]
  have inner : ((s.dropWhile isBlank).reverse.dropWhile isBlank).reverse = s := solid.trim
  simp only [Text.trim, stripOf, dropLeading, dropTrailing, List.append_assoc, List.dropWhile_append_of_pos ahead]
  rw [List.dropWhile_append, if_neg (by simpa using filled), List.reverse_append,
    List.dropWhile_append_of_pos (fun c among => behind c (List.mem_reverse.1 among)), inner]

theorem Solid.append {s t : List Char} (first : Solid s) (second : Solid t) : Solid (s ++ t) where
  filled := List.append_ne_nil_of_left_ne_nil first.filled t
  front := by
    obtain ⟨c, rest, rfl⟩ := List.exists_cons_of_ne_nil first.filled
    simpa using first.front
  back := by
    rw [List.getLast?_append_of_ne_nil _ second.filled]
    exact second.back

theorem solid_of_forall {s : List Char} (filled : s ≠ []) (unblank : ∀ c ∈ s, isBlank c = false) : Solid s where
  filled
  front c first := unblank c (List.mem_of_head? first)
  back c last := unblank c (List.mem_of_getLast? last)

theorem solid_point : Solid ['.'] := by
  refine solid_of_forall (List.cons_ne_nil _ _) fun c among => ?_
  rw [List.mem_singleton.1 among]
  rfl

theorem isBlank_of_isAsciiDigit {c : Char} (digit : isAsciiDigit c = true) : isBlank c = false := by
  simp only [isAsciiDigit, Bool.and_eq_true, decide_eq_true_eq] at digit
  have low : 48 ≤ c.toNat := digit.1
  have high : c.toNat ≤ 57 := digit.2
  simp only [isBlank, Bool.or_eq_false_iff, Bool.and_eq_false_iff, decide_eq_false_iff_not, beq_eq_false_iff_ne]
  omega

theorem solid_decimalDigits (n : Nat) : Solid (decimalDigits n) :=
  solid_of_forall (decimalDigits_ne_nil n)
    fun c among => isBlank_of_isAsciiDigit (all_isAsciiDigit_decimalDigits n c among)

end Text

namespace Address

/-- Data made of dictionaries with text keys, sequences and scalars. A sequence has no more items than
positions that can be written. -/
inductive Tree : Value → Prop where
  | null : Tree .null
  | bool (b : Bool) : Tree (.bool b)
  | int (n : Int) : Tree (.int n)
  | float (d : Double) : Tree (.float d)
  | text (s : String) : Tree (.text s)
  | list {items : List Value} : items.length ≤ tenTo digitLimit → (∀ item ∈ items, Tree item) → Tree (.list items)
  | tuple {items : List Value} : items.length ≤ tenTo digitLimit → (∀ item ∈ items, Tree item) → Tree (.tuple items)
  | dict {entries : Entries} : Entries.TextKeyed entries → (∀ entry ∈ entries, Tree entry.2) → Tree (.dict entries)

/-- What leads from a node to a node right below it. -/
inductive Branch where
  | key (name : String)
  | item (position : Nat)

inductive Branch.Leads : Branch → Value → Value → Prop where
  | key {entries : Entries} {name : String} {node : Value} :
      (.text name, node) ∈ entries → Leads (.key name) (.dict entries) node
  | listItem {items : List Value} {position : Nat} {node : Value} :
      items[position]? = some node → Leads (.item position) (.list items) node
  | tupleItem {items : List Value} {position : Nat} {node : Value} :
      items[position]? = some node → Leads (.item position) (.tuple items) node

/-- A path leads from a root to a node. -/
inductive Leads : List Branch → Value → Value → Prop where
  | here {node : Value} : Leads [] node node
  | through {branch : Branch} {path : List Branch} {root next node : Value} :
      branch.Leads root next → Leads path next node → Leads (branch :: path) root node

/-- A key that may be written as a name. -/
structure Plain (name : List Char) : Prop where
  solid : Solid name
  unbroken : ∀ c ∈ name, isNameChar c = true

-- A name stands behind a point, but for the front of an address.
def behindPoint (first : Bool) (name : List Char) : List Char :=
  if first then name else '.' :: name

/-- The forms of a branch in an address. -/
inductive Branch.Spelled (first : Bool) : Branch → List Char → Prop where
  | name {name : String} : Plain name.toList → Spelled first (.key name) (behindPoint first name.toList)
  | quoted {name : String} (mark : Mark) : mark.val ∉ name.toList →
      Spelled first (.key name) ('[' :: mark.val :: (name.toList ++ [mark.val, ']']))
  | index (position : Nat) : Spelled first (.item position) ('[' :: (decimalDigits position ++ [']']))
  | numeral (position : Nat) : Spelled first (.item position) (behindPoint first (decimalDigits position))

/-- The addresses of a path, each branch in any of its forms. -/
inductive Spelled : Bool → List Branch → List Char → Prop where
  | done {first : Bool} : Spelled first [] []
  | next {first : Bool} {branch : Branch} {path : List Branch} {text rest : List Char} :
      branch.Spelled first text → Spelled false path rest → Spelled first (branch :: path) (text ++ rest)

/-- The step that a branch is read as. -/
inductive Branch.Taken : Branch → Step → Prop where
  | key {name : String} : Taken (.key name) (.name name)
  | index {position : Nat} : Taken (.item position) (.index position)
  | numeral {position : Nat} : Taken (.item position) (.name (natText position))

section Reading

theorem Plain.name {name : List Char} (plain : Plain name) : ∃ word : Name, word.chars = name :=
  ⟨⟨name, plain.solid.filled, plain.unbroken⟩, rfl⟩

theorem plain_decimalDigits (n : Nat) : Plain (decimalDigits n) where
  solid := solid_decimalDigits n
  unbroken c among := by
    have digit := all_isAsciiDigit_decimalDigits n c among
    have all : ∀ other, isNameChar other = false → isAsciiDigit other = false := by
      intro other separates
      have among : other = '.' ∨ other = '[' ∨ other = ']' := by
        simpa [isNameChar, or_assoc, imp_iff_not_or] using separates
      rcases among with rfl | rfl | rfl <;> rfl
    by_contra separates
    simp [all c (by simpa using separates)] at digit

theorem Spelled.endsName {path : List Branch} {text : List Char} (spelled : Spelled false path text) :
    EndsName text := by
  cases spelled with
  | done => exact endsName_nil
  | next branch rest =>
    cases branch with
    | name _ => exact endsName_point _
    | quoted mark _ => simp [EndsName, isNameChar]
    | index _ => simp [EndsName, isNameChar]
    | numeral _ => exact endsName_point _

/-- A name in its place is read as itself. -/
theorem readSteps_plain {first : Bool} {name rest : List Char} {steps : List Step} (plain : Plain name)
    (ends : EndsName rest) (behind : readSteps false rest = .ok (some steps)) :
    readSteps first (behindPoint first name ++ rest) = .ok (some (.name (String.ofList name) :: steps)) := by
  obtain ⟨word, rfl⟩ := plain.name
  have read : readSteps true (word.chars ++ rest) = .ok (some (.name (String.ofList word.chars) :: steps)) := by
    rw [readSteps_name word ends, behind, readFront_of_means (.cons .name .nil), plain.solid.trim]
    rfl
  cases first with
  | true => exact read
  | false =>
    have filled : word.chars ++ rest ≠ [] := List.append_ne_nil_of_left_ne_nil word.filled rest
    exact (readSteps_point filled).trans read

theorem readSteps_of_bracket (first : Bool) {bracket : Bracket} {step : Step} {rest : List Char} {steps : List Step}
    (means : Piece.Means (.bracket bracket) step) (behind : readSteps false rest = .ok (some steps)) :
    readSteps first (bracket.written ++ rest) = .ok (some (step :: steps)) := by
  rw [readSteps_bracket, behind, readFront_of_means (.cons means .nil)]
  rfl

theorem unmarked_decimalDigits (n : Nat) : ∀ c ∈ (decimalDigits n).head?, isQuote c = false := by
  intro c first
  have digit := all_isAsciiDigit_decimalDigits n c (List.mem_of_head? first)
  by_contra isMark
  have among : c = '"' ∨ c = '\'' := by simpa [isQuote, or_iff_not_imp_left] using isMark
  rcases among with rfl | rfl <;> cases digit

theorem free_decimalDigits (n : Nat) : ']' ∉ decimalDigits n := by
  intro among
  cases all_isAsciiDigit_decimalDigits n ']' among

/-- An address of a path is read as a row of steps, one for each branch. -/
theorem Spelled.exists_steps {first : Bool} {path : List Branch} {text : List Char} (spelled : Spelled first path text)
    (within : ∀ position, .item position ∈ path → position < tenTo digitLimit) :
    ∃ steps, readSteps first text = .ok (some steps) ∧ List.Forall₂ Branch.Taken path steps := by
  induction spelled with
  | done => exact ⟨[], by rw [readSteps], .nil⟩
  | @next first branch path text rest branchSpelled restSpelled ih =>
    obtain ⟨steps, behind, taken⟩ := ih fun position among => within position (List.mem_cons_of_mem _ among)
    have ends := restSpelled.endsName
    cases branchSpelled with
    | @name name plain =>
      refine ⟨.name name :: steps, ?_, .cons .key taken⟩
      simpa using readSteps_plain plain ends behind
    | @quoted name mark free =>
      refine ⟨.name name :: steps, ?_, .cons .key taken⟩
      have means : Piece.Means (.bracket (.quoted mark name.toList free)) (.name (String.ofList name.toList)) := .quoted
      have read := readSteps_of_bracket first means behind
      simpa [Bracket.written, Bracket.body] using read
    | index position =>
      refine ⟨.index position :: steps, ?_, .cons .index taken⟩
      have value := readNat_decimalDigits (within position List.mem_cons_self)
      have trimmed := (solid_decimalDigits position).trim
      have means : Piece.Means
          (.bracket (.bare (decimalDigits position) (free_decimalDigits position) (unmarked_decimalDigits position)))
          (.index position) :=
        .number (by rw [trimmed, allDigitSigns_decimalDigits]) (by rw [trimmed, value])
      have read := readSteps_of_bracket first means behind
      simpa [Bracket.written, Bracket.body] using read
    | numeral position =>
      refine ⟨.name (natText position) :: steps, ?_, .cons .numeral taken⟩
      exact readSteps_plain (plain_decimalDigits position) ends behind

theorem Branch.Spelled.solid {first : Bool} {branch : Branch} {text : List Char} (spelled : branch.Spelled first text) :
    Solid text := by
  have behind {name : List Char} (solid : Solid name) : Solid (behindPoint first name) := by
    cases first with
    | true => exact solid
    | false => exact solid_point.append solid
  have bracket (inner : List Char) : Solid ('[' :: (inner ++ [']'])) := by
    refine ⟨List.cons_ne_nil _ _, ?_, ?_⟩
    · rintro c ⟨⟩
      rfl
    · rw [← List.cons_append, List.getLast?_concat]
      rintro c ⟨⟩
      rfl
  cases spelled with
  | name plain => exact behind plain.solid
  | @quoted name mark _ => simpa using bracket (mark.val :: (name.toList ++ [mark.val]))
  | index position => exact bracket _
  | numeral position => exact behind (solid_decimalDigits position)

theorem Spelled.solid {first : Bool} {path : List Branch} {text : List Char} (spelled : Spelled first path text)
    (nonempty : path ≠ []) : Solid text := by
  induction spelled with
  | done => exact absurd rfl nonempty
  | @next first branch path text rest branchSpelled restSpelled ih =>
    by_cases last : path = []
    · subst last
      cases restSpelled
      simpa using branchSpelled.solid
    · exact branchSpelled.solid.append (ih last)

end Reading

section Looking

variable {access : Access}

theorem Tree.child {branch : Branch} {root node : Value} (tree : Tree root) (leads : branch.Leads root node) :
    Tree node := by
  cases leads with
  | key among =>
    cases tree with
    | dict _ nodes => exact nodes _ among
  | listItem found =>
    cases tree with
    | list _ nodes => exact nodes _ (List.mem_of_getElem? found)
  | tupleItem found =>
    cases tree with
    | tuple _ nodes => exact nodes _ (List.mem_of_getElem? found)

theorem Tree.node {path : List Branch} {root node : Value} (tree : Tree root) (leads : Leads path root node) :
    Tree node := by
  induction leads with
  | here => exact tree
  | through leads _ ih => exact ih (tree.child leads)

theorem Tree.isUndefined {node : Value} (tree : Tree node) : node.isUndefined = false := by
  cases tree <;> rfl

theorem Tree.position_lt {position : Nat} {root node : Value} (tree : Tree root)
    (leads : (Branch.item position).Leads root node) : position < tenTo digitLimit := by
  cases leads with
  | listItem found =>
    cases tree with
    | list few _ => exact Nat.lt_of_lt_of_le (List.getElem?_eq_some_iff.1 found).1 few
  | tupleItem found =>
    cases tree with
    | tuple few _ => exact Nat.lt_of_lt_of_le (List.getElem?_eq_some_iff.1 found).1 few

theorem Tree.positions_lt {path : List Branch} {root node : Value} (tree : Tree root) (leads : Leads path root node) :
    ∀ position, .item position ∈ path → position < tenTo digitLimit := by
  induction leads with
  | here => simp
  | through leads _ ih =>
    intro position among
    rcases List.mem_cons.1 among with rfl | later
    · exact tree.position_lt leads
    · exact ih (tree.child leads) position later

theorem Branch.Taken.position? {position : Nat} {step : Step} (taken : (Branch.item position).Taken step)
    (below : position < tenTo digitLimit) : step.position? = .ok (some position) := by
  cases taken with
  | index => rfl
  | numeral =>
    simp [Step.position?, natText, allDigitSigns_decimalDigits, readNat_decimalDigits below, Except.map]

/-- The step that a branch is read as leads where the branch leads. -/
theorem Branch.Taken.from {branch : Branch} {step : Step} {root node : Value} (taken : branch.Taken step)
    (tree : Tree root) (leads : branch.Leads root node) : step.from access root = .ok node := by
  cases leads with
  | @key entries name node among =>
    cases taken
    cases tree with
    | dict keyed _ =>
      have found : Entries.find? entries (.text name) = some node := keyed.get?_of_mem among
      simp [Step.from, Step.inEntries, Step.key, found]
  | listItem found =>
    have read := taken.position? (tree.position_lt (.listItem found))
    simp [Step.from, read, found, bind, Except.bind, pure, Except.pure]
  | tupleItem found =>
    have read := taken.position? (tree.position_lt (.tupleItem found))
    simp [Step.from, read, found, bind, Except.bind, pure, Except.pure]

theorem Leads.trail {path : List Branch} {steps : List Step} {root node : Value} (leads : Leads path root node)
    (taken : List.Forall₂ Branch.Taken path steps) (tree : Tree root) : trail access steps root = .ok node := by
  induction leads generalizing steps with
  | here =>
    cases taken
    rfl
  | through leads _ ih =>
    cases taken with
    | cons first others =>
      rw [trail_cons, first.from tree leads]
      exact ih others (tree.child leads)

end Looking

/-- In a data tree, an address of a path leads to the node that the path leads to, in whichever forms the
branches are written. A node that holds null is found, not missed. -/
theorem resolve_spelled (access : Access) {root node : Value} {path : List Branch} {address : List Char}
    (tree : Tree root) (leads : Leads path root node) (nonempty : path ≠ []) (spelled : Spelled true path address) :
    resolve access root (.text (String.ofList address)) = .ok node ∧ node.isUndefined = false := by
  obtain ⟨steps, read, taken⟩ := spelled.exists_steps (tree.positions_lt leads)
  have outer : trimmed (String.ofList address) = String.ofList address := by
    rw [trimmed, String.toList_ofList, (spelled.solid nonempty).trim]
  have parsed : parse (String.ofList address) = .ok (some steps) := by
    rw [parse, String.toList_ofList, read]
    cases taken with
    | nil => exact absurd rfl nonempty
    | cons _ _ => rfl
  refine ⟨?_, ?_⟩
  · rw [resolve_text, outer, parsed]
    exact leads.trail taken tree
  · exact (tree.node leads).isUndefined

/-- Sequences and dictionaries in each other, with a key that is no name and one that is a numeral. -/
def shelf : Value :=
  .dict [(.text "a.b", .list [.int 3, .dict [(.text "7", .tuple [.text "x", .null])]])]

def shelfPath : List Branch :=
  [.key "a.b", .item 1, .key "7", .item 1]

theorem resolve_spelled_null :
    Tree shelf ∧ Leads shelfPath shelf .null ∧ shelfPath ≠ [] ∧ Spelled true shelfPath "[\"a.b\"].1.7[1]".toList ∧
      resolve ⟨fun _ => none, fun _ _ => none⟩ shelf (.text "[\"a.b\"].1.7[1]") = .ok .null := by
  have one : decimalDigits 1 = ['1'] := by
    rw [decimalDigits]
    rfl
  have few : 2 ≤ tenTo digitLimit := by decide +kernel
  have single (name : String) (value : Value) : Entries.TextKeyed [(.text name, value)] :=
    Entries.textKeyed_cons.2 ⟨⟨name, rfl⟩, List.not_mem_nil, Entries.textKeyed_nil⟩
  have tree : Tree shelf := by
    have pair : Tree (.tuple [.text "x", .null]) := .tuple few (by simp [Tree.text, Tree.null])
    have inner : Tree (.dict [(.text "7", .tuple [.text "x", .null])]) := .dict (single _ _) (by simpa using pair)
    have items : Tree (.list [.int 3, .dict [(.text "7", .tuple [.text "x", .null])]]) :=
      .list few (by simp [Tree.int, inner])
    exact .dict (single _ _) (by simpa using items)
  have leads : Leads shelfPath shelf .null :=
    .through (.key List.mem_cons_self) <| .through (.listItem rfl) <| .through (.key List.mem_cons_self) <|
      .through (.tupleItem rfl) .here
  have plain : Plain "7".toList :=
    ⟨⟨List.cons_ne_nil _ _, by rintro c ⟨⟩; rfl, by rintro c ⟨⟩; rfl⟩, List.all_eq_true.1 rfl⟩
  have spelled : Spelled true shelfPath "[\"a.b\"].1.7[1]".toList := by
    have bracketed := @Branch.Spelled.index false 1
    have named := @Branch.Spelled.numeral false 1
    rw [one] at bracketed named
    have last : Spelled false [.item 1] "[1]".toList := .next bracketed .done
    have third : Spelled false [.key "7", .item 1] ".7[1]".toList := .next (.name plain) last
    have second : Spelled false [.item 1, .key "7", .item 1] ".1.7[1]".toList := .next named third
    exact .next (.quoted ⟨'"', rfl⟩ (by decide)) second
  have nonempty : shelfPath ≠ [] := List.cons_ne_nil _ _
  exact ⟨tree, leads, nonempty, spelled, (resolve_spelled _ tree leads nonempty spelled).1⟩

end Address

end Stencil
