import Stencil.Command.Run

/-! The command line of the program. -/

set_option autoImplicit false

namespace Stencil.Command

/-- The variables of the environment, from their listing with a null character behind each. -/
def listedVariables (listing : String) : Settings.Variables :=
  (listing.splitOn "\x00").filterMap fun entry =>
    match entry.splitOn "=" with
    | name :: part :: parts => some (name, "=".intercalate (part :: parts))
    | _ => none

def settingsFiles (sources : Settings.Sources) : List Settings.Location :=
  match sources.root with
  | .ok root =>
    (root ++ [".env"]) ::
      Settings.sections.map fun name => (root.join sources.configsName).join (name ++ ".yaml")
  | .error _ => []

def ownCatalogue : Catalogue Script :=
  [("stencil", .holding false [("Base", .cls .base), ("Mustache", .cls mustacheClass)])]

def invocationOf (words : List String) (environment : Settings.Variables) (directory clock : String) : Invocation where
  program := "stencil"
  words
  files := ⟨[], []⟩
  environment
  workingDirectory := Settings.pathNames directory
  defaultRoot := directory
  catalogue := ownCatalogue
  clock

def neededFiles (invocation : Invocation) : List Settings.Location :=
  match Options.read invocation.words with
  | .ok options => settingsFiles (invocation.sources options)
  | .error _ => []

end Stencil.Command

section

open Stencil Stencil.Command

-- Read the file at a location, if it can be read.
def readLocation (location : Settings.Location) : IO (Option (Settings.Location × List Char)) := do
  try
    let text ← IO.FS.readFile location.path
    return some (location.normal, text.toList)
  catch _ => return none

/-- The variables of the environment; none where they are not listed. -/
def readEnvironment : IO Settings.Variables := do
  try
    return listedVariables (← IO.FS.readFile "/proc/self/environ")
  catch _ => return []

def main (words : List String) : IO UInt32 := do
  let environment ← readEnvironment
  let directory := (← IO.currentDir).toString
  let started ← IO.monoMsNow
  let invocation := invocationOf words environment directory (toString started)
  let files ← (neededFiles invocation).filterMapM readLocation
  let tree := Settings.FileTree.mk files (files.map fun file => file.1.dropLast)
  let (ending, printed) := run { invocation with files := tree }
  for line in printed.lines do
    IO.println line
  for notice in printed.notices do
    IO.eprintln notice.text
  match ending with
  | .done => return 0
  | .exit status => return status.toUInt32
  | .fault fault =>
    IO.eprintln (Log.faultLine fault)
    return 1

end
