import Stencil.Host.Registration
import Stencil.Text.Blank
import Stencil.Text.Split

/-! Import paths: how a provider class is found by its name.

A path names a module and something in it. Modules are found one below the other, along the points
in the name.
-/

set_option autoImplicit false

namespace Stencil

variable {κ : Type}

inductive Module (κ : Type) where
  -- A module with the names that it exports; a package may hold other modules.
  | holding (isPackage : Bool) (names : List (String × Candidate κ))
  | raising (fault : Fault)

abbrev Catalogue (κ : Type) := List (String × Module κ)

namespace Catalogue

def pointParts : List Char → List (List Char)
  | [] => [[]]
  | c :: rest => if c = '.' then [] :: pointParts rest else Text.extendFirst c (pointParts rest)

/-- Import the module with a name, then the modules below it that the parts lead to; the last one counts. -/
def importBelow (catalogue : Catalogue κ) (name : String) : List String → Outcome (List (String × Candidate κ))
  | [] =>
    match catalogue.lookup name with
    | none => .error (.noModule name)
    | some (.raising fault) => .error fault
    | some (.holding _ names) => .ok names
  | part :: rest =>
    match catalogue.lookup name with
    | none => .error (.noModule name)
    | some (.raising fault) => .error fault
    | some (.holding isPackage _) =>
      let next := name ++ "." ++ part
      if isPackage then importBelow catalogue next rest else .error (.notAPackage next name)

def importModule (catalogue : Catalogue κ) (name : String) : Outcome (List (String × Candidate κ)) :=
  match (pointParts name.toList).map String.ofList with
  | [] => .error (.noModule name)
  | first :: below => if first.isEmpty then .error (.relativeModule name) else importBelow catalogue first below

def cutAtLastPoint (s : List Char) : List Char × List Char :=
  match Text.cutAtChar? '.' s.reverse with
  | some (after, before) => (before.reverse, after.reverse)
  | none => ([], s)

/-- The module and the name that a path consists of; a colon between the two counts before a point. -/
def splitPath (path : List Char) : List Char × List Char :=
  (Text.cutAtChar? ':' path).getD (cutAtLastPoint path)

def shownPath : Option String → String
  | some path => Text.quotedString path
  | none => "None"

def importClass (catalogue : Catalogue κ) (path? : Option String) : Outcome (ProviderClass κ) := do
  let (moduleName, name) := splitPath (Text.trim (path?.getD "").toList)
  if moduleName.isEmpty || name.isEmpty then throw (.malformedPath (shownPath path?))
  let moduleName := String.ofList moduleName
  let name := String.ofList name
  let names ← catalogue.importModule moduleName
  match names.lookup name with
  | none => throw (.noExport moduleName name)
  | some (.value _) => throw (.notAClass (shownPath path?))
  | some (.cls cls) => return cls

end Catalogue

end Stencil
