import Stencil.Value.Kind

/-! Reports of data that does not fit a model: every problem with the place where it was found. -/

set_option autoImplicit false

namespace Stencil

inductive Place where
  | name (s : String)
  | index (n : Int)
  deriving DecidableEq, Repr

inductive ProblemKind where
  | missing
  | unknownField
  | notText
  | notBool
  | notBoolText
  | notList
  | notDict
  | notModel
  | notCallable
  | notInEnum
  | refusedValue
  | frozen
  | keyNotText
  deriving DecidableEq, Repr

def ProblemKind.label : ProblemKind → String
  | .missing => "missing"
  | .unknownField => "extra_forbidden"
  | .notText => "string_type"
  | .notBool => "bool_type"
  | .notBoolText => "bool_parsing"
  | .notList => "list_type"
  | .notDict => "dict_type"
  | .notModel => "model_type"
  | .notCallable => "callable_type"
  | .notInEnum => "enum"
  | .refusedValue => "value_error"
  | .frozen => "frozen_instance"
  | .keyNotText => "invalid_key"

structure Problem where
  place : List Place
  kind : ProblemKind
  deriving DecidableEq, Repr

/-- All problems of one datum, under the name of the model that it should fit. -/
structure Report where
  title : String
  problems : List Problem
  deriving DecidableEq, Repr

def Problem.under (place : Place) (p : Problem) : Problem :=
  { p with place := place :: p.place }

def isIndex (n : Int) : Bool :=
  -9223372036854775808 ≤ n && n ≤ 9223372036854775807

/-- A key as a name: its quoted form, or its kind where that form would be too long. -/
def keyName (key : Value) : String :=
  match key.quoted with
  | .ok shown => shown
  | .error _ => "<unprintable " ++ key.kindName ++ " object>"

-- The place of a dictionary key: integers of ordinary size and truth values count as indexes.
def Place.ofKey : Value → Place
  | .text s => .name s
  | .int n => if isIndex n then .index n else .name (keyName (.int n))
  | .bool b => .index (if b then 1 else 0)
  | key => .name (keyName key)

def Report.heading (r : Report) : String :=
  Number.natText r.problems.length ++ " validation error" ++ (if r.problems.length = 1 then "" else "s") ++
    " for " ++ r.title

end Stencil
