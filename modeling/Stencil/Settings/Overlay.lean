import Stencil.Value.Basic

/-! Laying one dictionary over another.

Where both hold a dictionary under a key, the two are laid over each other in turn; everywhere else
the upper dictionary counts.
-/

set_option autoImplicit false

namespace Stencil.Settings

mutual
def overValue (base? : Option Value) : Value → Value
  | .dict upper =>
    match base? with
    | some (.dict base) => .dict (overlay base upper)
    | _ => .dict upper
  | upper => upper
/-- Lay the entries of a dictionary over another, one after the other. -/
def overlay (base : Entries) : List (Value × Value) → Entries
  | [] => base
  | (key, upper) :: rest =>
    overlay (Entries.put key (overValue (Entries.find? base key) upper) base) rest
end

def nestedEntries (entries : Entries) (name : String) : Entries :=
  match Entries.get? entries name with
  | some (.dict nested) => nested
  | _ => []

def valueAt? (entries : Entries) : List String → Option Value
  | [] => none
  | [name] => Entries.get? entries name
  | name :: rest =>
    match Entries.get? entries name with
    | some (.dict nested) => valueAt? nested rest
    | _ => none

-- Put a value at a path of names; whatever stands in the way and is no dictionary is replaced
-- by one.
def setAt (entries : Entries) (value : Value) : List String → Entries
  | [] => entries
  | [name] => Entries.set entries name value
  | name :: rest => Entries.set entries name (.dict (setAt (nestedEntries entries name) value rest))

@[simp] theorem overlay_nil (base : Entries) : overlay base [] = base := by simp [overlay]

end Stencil.Settings
