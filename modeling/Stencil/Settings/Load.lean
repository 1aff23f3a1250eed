import Stencil.Settings.Files
import Stencil.Settings.Model
import Stencil.Settings.Variables
import Stencil.Yaml.Document

/-! Loading the settings.

Settings come from a file for each section, from a file of variables and from the variables of the
environment; the later source counts. What is read is checked as a whole.
-/

set_option autoImplicit false

namespace Stencil.Settings

def sections : List String := ["app", "host", "templates", "logging"]

/-- The entries of a document that is a mapping, and the dictionaries in it that are tied; any other document has none. -/
def mappingOf (document : Yaml.Document) : Tied :=
  match document.value with
  | .dict entries => ⟨entries, document.ties⟩
  | _ => ⟨[], []⟩

def readMapping (reader : Yaml.Reader) (text : List Char) : Outcome Tied :=
  let inner := Text.trim (Text.unifyNewlines text)
  if inner.isEmpty then .ok ⟨[], []⟩
  else (reader inner).map mappingOf

/-- The entries of a section: those of the file, or those under its own name if it holds nothing else. The places of tied
dictionaries are those in a configuration that holds the section under its name. -/
def sectionOf (name : String) (held : Tied) : Tied :=
  match held.entries, Entries.get? held.entries name with
  | [_], some (.dict nested) => ⟨nested, held.ties⟩
  | _, _ => ⟨held.entries, held.ties.map (·.map (.key (.text name) :: ·))⟩

structure Sources where
  -- How the text of a section file is read.
  reader : Yaml.Reader
  files : FileTree
  environment : Variables
  workingDirectory : Location
  repoRoot : String
  configsDir : String
  variablesFile : String

-- The root directory. A path may begin with the name of a home directory.
def Sources.root (sources : Sources) : Outcome Location := do
  let path := sources.repoRoot
  let names ← match isAbsolute path, pathNames path with
    | false, first :: rest =>
      if first.toList.head? == some '~' then
        match homes.lookup first with
        | some home => pure (home ++ rest)
        | none => throw .noHome
      else pure (sources.workingDirectory.join path)
    | _, _ => pure (sources.workingDirectory.join path)
  if path.toList.contains '\x00' then throw .nullInPath
  return Location.normal names

def Sources.configsName (sources : Sources) : String :=
  if sources.configsDir.isEmpty then "configs" else sources.configsDir

def Sources.textAt? (sources : Sources) (spelled : String) (location : Location) : Outcome (Option (List Char)) :=
  match sources.files.find spelled location with
  | .file text => .ok (some text)
  | .nothing => .ok none
  | .directory => .error (.isDirectory spelled)
  | .tooLong => .error (.nameTooLong spelled)

def Sources.sectionEntries (sources : Sources) (root : Location) (name : String) : Outcome Tied := do
  let location := (root.join sources.configsName).join (name ++ ".yaml")
  match ← sources.textAt? location.path location with
  | none => return ⟨[], []⟩
  | some text => (readMapping sources.reader text).map (sectionOf name)

def Sources.readSections (sources : Sources) (root : Location) : List String → Tied → Outcome Tied
  | [], merged => .ok merged
  | name :: rest, merged => do
    let held ← sources.sectionEntries root name
    sources.readSections root rest
      ⟨overlay merged.entries [(.text name, .dict held.entries)], merged.ties ++ held.ties⟩

def Sources.fileVariables (sources : Sources) (root : Location) : Outcome Variables := do
  let path := sources.variablesFile
  let beside := root ++ [".env"]
  let text? ← if path.isEmpty then sources.textAt? beside.path beside
    else sources.textAt? (spelling path) (sources.workingDirectory.join path)
  return (text?.map readVariables).getD []

def Sources.exported (sources : Sources) : Variables :=
  uniqueVariables sources.environment

def Sources.whereabouts (sources : Sources) (root : Location) : Entries :=
  [(.text "app", dictOf [("paths", dictOf [
    ("repo_root", .text root.path), ("configs_dir", .text sources.configsName)])])]

def Sources.merged (sources : Sources) : Outcome Entries := do
  let root ← sources.root
  let fromFiles ← sources.readSections root sections ⟨[], []⟩
  let fromFile ← sources.fileVariables root
  let named := joinVariables sources.exported fromFile
  let applied ← Outcome.ofNumeral (applyVariables (.startTied fromFiles) named)
  return overlay applied.result (sources.whereabouts root)

/-- Load the settings, together with the configuration that they were made from. -/
def load (sources : Sources) : Outcome (Settings × Entries) := do
  let merged ← sources.merged
  match ofValue (.dict merged) with
  | .ok settings => return (settings, merged)
  | .error report => throw (.invalidConfiguration report)

end Stencil.Settings
