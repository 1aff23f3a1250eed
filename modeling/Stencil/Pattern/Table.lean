/-! The pattern table: which delimiter pairs are registered, and what handles the text between them.

Closing delimiters are kept under their opening delimiter, both in the order of first registration.
Registering a pair again replaces its handler in place.
-/

set_option autoImplicit false

namespace Stencil

abbrev Delimiter := { s : List Char // s ≠ [] }

/-- A delimiter pair and what handles the text between the two. -/
structure Pattern (η : Type) where
  opening : Delimiter
  closing : Delimiter
  handler : η

namespace Pattern

variable {η : Type}

-- The closing delimiters of one opening delimiter, with their handlers.
structure Group (η : Type) where
  opening : Delimiter
  closers : List (Delimiter × η)

def Group.patterns (group : Group η) : List (Pattern η) :=
  group.closers.map fun (closing, handler) => ⟨group.opening, closing, handler⟩

def putCloser (closing : Delimiter) (handler : η) : List (Delimiter × η) → List (Delimiter × η)
  | [] => [(closing, handler)]
  | (c, h) :: rest =>
    if c = closing then (c, handler) :: rest else (c, h) :: putCloser closing handler rest

structure Table (η : Type) where
  groups : List (Group η)

namespace Table

def empty : Table η := ⟨[]⟩

def group? (table : Table η) (opening : List Char) : Option (Group η) :=
  table.groups.find? (·.opening.val == opening)

def handler? (table : Table η) (opening closing : List Char) : Option η :=
  (table.group? opening).bind fun group =>
    (group.closers.find? (·.1.val == closing)).map (·.2)

def opens (table : Table η) (opening : List Char) : Bool :=
  (table.group? opening).any fun group => !group.closers.isEmpty

def insertGroup (p : Pattern η) : List (Group η) → List (Group η)
  | [] => [⟨p.opening, [(p.closing, p.handler)]⟩]
  | group :: rest =>
    if group.opening = p.opening then
      { group with closers := putCloser p.closing p.handler group.closers } :: rest
    else group :: insertGroup p rest

/-- Register a pattern, in the place of an earlier one with the same delimiters if there is one. -/
def insert (table : Table η) (p : Pattern η) : Table η :=
  ⟨insertGroup p table.groups⟩

def patterns (table : Table η) : List (Pattern η) :=
  table.groups.flatMap Group.patterns

@[simp] theorem patterns_empty : (empty : Table η).patterns = [] := rfl

@[simp] theorem handler?_empty (opening closing : List Char) :
    (empty : Table η).handler? opening closing = none := rfl

end Table

end Pattern

end Stencil
