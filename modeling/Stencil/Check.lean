import Stencil.Report

/-! Checking data against a model.

A check either accepts a datum or lists every problem that it finds, in the order of the model's
fields; fields that the model does not know come last.
-/

set_option autoImplicit false

namespace Stencil

-- A checked datum, or all that is wrong with it.
abbrev Checked (α : Type) := Except (List Problem) α

namespace Checked

variable {α β γ : Type}

def both (combine : α → β → γ) : Checked α → Checked β → Checked γ
  | .ok a, .ok b => .ok (combine a b)
  | .error ps, .ok _ => .error ps
  | .ok _, .error qs => .error qs
  | .error ps, .error qs => .error (ps ++ qs)

def under (place : Place) (checked : Checked α) : Checked α :=
  checked.mapError (·.map (Problem.under place))

def refuse (kind : ProblemKind) : Checked α :=
  .error [⟨[], kind⟩]

def each (check : Value → Checked α) : (index : Nat) → List Value → Checked (List α)
  | _, [] => .ok []
  | index, value :: values =>
    both (· :: ·) ((check value).under (.index index)) (each check (index + 1) values)

def toReport (title : String) (checked : Checked α) : Except Report α :=
  checked.mapError fun problems => ⟨title, problems⟩

end Checked

/-- The text that a value is. An error code is a text as well, and counts as what it stands for. -/
def Value.asText? : Value → Option String
  | .text s => some s
  | .object (.code c) => some c.text
  | _ => none

namespace Check

variable {α : Type}

-- Settings are read strictly: they hold plain texts only.
def text : Value → Checked String
  | .text s => .ok s
  | _ => .refuse .notText

def textOrCode (value : Value) : Checked String :=
  match value.asText? with
  | some s => .ok s
  | none => .refuse .notText

/-- Texts that count as true or false, in any letter case. -/
def boolWord? (s : String) : Option Bool :=
  let word := s.map Char.toLower
  if ["1", "on", "t", "true", "y", "yes"].contains word then some true
  else if ["0", "off", "f", "false", "n", "no"].contains word then some false
  else none

/-- A truth value, or a number or text that stands for one. -/
def bool : Value → Checked Bool
  | .bool b => .ok b
  | .int n =>
    if n = 0 then .ok false
    else if n = 1 then .ok true
    else if isIndex n then .refuse .notBoolText
    else .refuse .notBool
  | .float d =>
    match d.toInt? with
    | some 0 => .ok false
    | some 1 => .ok true
    | _ => .refuse .notBool
  | .text s =>
    match boolWord? s with
    | some b => .ok b
    | none => .refuse .notBoolText
  | _ => .refuse .notBool

def texts : Value → Checked (List String)
  | .list items | .tuple items => .each text 0 items
  | _ => .refuse .notList

def keyProblems (entries : Entries) : List Problem :=
  entries.filterMap fun (key, _) => match key with
    | .text _ => none
    | key => some ⟨[Place.ofKey key, .name "[key]"], .notText⟩

def textKeyed : Value → Checked Entries
  | .dict entries =>
    match keyProblems entries with
    | [] => .ok entries
    | problems => .error problems
  | _ => .refuse .notDict

def errorCode : Value → Checked ErrorCode
  | .object (.code code) => .ok code
  | .text s =>
    match ErrorCode.ofText? s with
    | some code => .ok code
    | none => .refuse .notInEnum
  | _ => .refuse .notInEnum

def field (entries : Entries) (name : String) (default : α) (check : Value → Checked α) : Checked α :=
  match Entries.get? entries name with
  | some value => (check value).under (.name name)
  | none => .ok default

def required (entries : Entries) (name : String) (check : Value → Checked α) : Checked α :=
  match Entries.get? entries name with
  | some value => (check value).under (.name name)
  | none => .error [⟨[.name name], .missing⟩]

/-- The problems of keys that are no fields of the model. -/
def unknownFields (fields : List String) (entries : Entries) : List Problem :=
  entries.filterMap fun (key, _) => match key with
    | .text name => if fields.contains name then none else some ⟨[.name name], .unknownField⟩
    | key => some ⟨[Place.ofKey key], .keyNotText⟩

def model (fields : List String) (check : Entries → Checked α) : Value → Checked α
  | .dict entries =>
    Checked.both (fun a (_ : Unit) => a) (check entries) <|
      match unknownFields fields entries with
      | [] => .ok ()
      | problems => .error problems
  | _ => .refuse .notModel

end Check

end Stencil
