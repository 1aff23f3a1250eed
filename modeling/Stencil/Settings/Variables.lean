import Stencil.Settings.Overlay
import Stencil.Settings.Scalar
import Stencil.Text.LetterCase
import Stencil.Text.Lines
import Stencil.Value.Tie

/-! Settings from variables.

A variable whose name begins with the mark of the program names a path: the rest of its name, cut at
double underscores. Its value is put at that path. Names are lowercased, except for the names
below the shared data of the host, which templates can see.
-/

set_option autoImplicit false

namespace Stencil.Settings

open Number (NumeralFault)

abbrev Variables := List (String × String)

def mark : List Char := "PICT__".toList

-- Lowercase the names of a path, except from the third on where the first is `host`.
def normalPath : List (List Char) → List String
  | head :: field :: rest =>
    let small := Text.lowercase head
    let others := if small = "host".toList then rest else rest.map Text.lowercase
    (small :: Text.lowercase field :: others).map String.ofList
  | path => path.map fun name => String.ofList (Text.lowercase name)

def pathOf? (name : String) : Option (List String) :=
  (Text.after? mark name.toList).bind fun rest =>
    let path := Text.splitOnPair '_' '_' rest
    if path.any List.isEmpty then none else some (normalPath path)

/-- A configuration while variables are applied to it. The sections of the result are those of the
configuration that was given, until a variable replaces one: what changes in a common section changes in both. -/
structure Applied where
  result : Entries
  given : Entries
  common : List String
  resultTies : List Tie
  givenTies : List Tie
  deriving Repr

def sectionNames (entries : Entries) : List String :=
  entries.filterMap fun entry => match entry with
    | (.text name, .dict _) => some name
    | (.object (.code code), .dict _) => some code.text
    | _ => none

def Applied.startTied (given : Tied) : Applied :=
  ⟨given.entries, given.entries, sectionNames given.entries, given.ties, given.ties⟩

-- A configuration none of whose inner dictionaries stands at two places.
def Applied.start (given : Entries) : Applied :=
  .startTied ⟨given, []⟩

def Applied.putResult (applied : Applied) (path : List String) (value : Value) : Applied :=
  let put := Tied.put ⟨applied.result, applied.resultTies⟩ (Row.ofNames path) value
  { applied with result := put.entries, resultTies := put.ties }

def Applied.putGiven (applied : Applied) (path : List String) (value : Value) : Applied :=
  let put := Tied.put ⟨applied.given, applied.givenTies⟩ (Row.ofNames path) value
  { applied with given := put.entries, givenTies := put.ties }

def Applied.put (applied : Applied) (path : List String) (value : Value) : Applied :=
  match path with
  | [] => applied
  | [name] =>
    { applied.putResult [name] value with common := applied.common.filter (· != name) }
  | name :: rest =>
    let put := applied.putResult (name :: rest) value
    if applied.common.contains name then put.putGiven (name :: rest) value else put

def applyVariables (applied : Applied) : Variables → Except NumeralFault Applied
  | [] => .ok applied
  | (name, text) :: rest =>
    match pathOf? name with
    | none => applyVariables applied rest
    | some path => do
      let value ← readScalar text
      applyVariables (applied.put path value) rest

def withoutQuotes (quote : Char) (s : List Char) : List Char :=
  Text.stripOf (· == quote) s

/-- The variable that a line of a file sets: a name, an equals sign and a text that may be quoted. -/
def lineVariable? (line : List Char) : Option (String × String) :=
  let s := Text.trim line
  if s.head? == some '#' then none
  else
    (Text.cutAtChar? '=' s).bind fun (name, value) =>
      let name := Text.trim name
      let value := withoutQuotes '\'' (withoutQuotes '"' (Text.trim value))
      if name.isEmpty then none else some (String.ofList name, String.ofList value)

def setVariable (name text : String) : Variables → Variables
  | [] => [(name, text)]
  | (n, t) :: rest => if n = name then (n, text) :: rest else (n, t) :: setVariable name text rest

def readVariables (text : List Char) : Variables :=
  (Text.lines (Text.unifyNewlines text)).foldl
    (fun found line => match lineVariable? line with
      | some (name, value) => setVariable name value found
      | none => found) []

def newVariables (first second : Variables) : Variables :=
  second.filter fun candidate => !first.any (·.1 == candidate.1)

/-- Variables of two sources; the first source counts where both set a variable. -/
def joinVariables (first second : Variables) : Variables :=
  first ++ newVariables first second

def uniqueVariables (given : Variables) : Variables :=
  given.foldl (fun found (name, text) => setVariable name text found) []

end Stencil.Settings
