import Stencil.Command.Options
import Stencil.Json.Reader
import Stencil.Provider.Script
import Stencil.Settings.Load

/-! The program: it loads the settings, lets the listed providers and one of its own serve in a
host, and logs three rendered texts, the first rendered at once and the others with a callback. -/

set_option autoImplicit false

namespace Stencil.Command

open Rendering

/-- The program's own provider class; an address that leads nowhere leaves its brackets empty. -/
def mustacheClass : ProviderClass Script :=
  .derived "HarnessTemplate" "HarnessMustache" [(.text "\x7b\x7b", .text "\x7d\x7d")]
    (.ofRender (.lookUp .null (.writtenIfTrue "mustache[" "]")))

structure Invocation where
  program : String
  words : List String
  files : Settings.FileTree
  environment : Settings.Variables
  workingDirectory : Settings.Location
  defaultRoot : String
  catalogue : Catalogue Script
  clock : String

def Invocation.sources (invocation : Invocation) (options : Options) : Settings.Sources where
  reader := Yaml.read
  files := invocation.files
  environment := invocation.environment
  workingDirectory := invocation.workingDirectory
  repoRoot := options.repoRoot?.getD invocation.defaultRoot
  configsDir := ""
  variablesFile := ""

-- The host that the settings describe, and a console that is configured as they say.
def Invocation.host (invocation : Invocation) (options : Options) : Outcome (Host Script) := do
  let (settings, _) ← Settings.load (invocation.sources options)
  let console ← (Log.Console.initial invocation.clock).configure settings.logging
  return .ofSettings settings [] [] console

def recordTemplate : String :=
  "The new style is a \x7b\x7bRecord.test\x7d\x7d"

def contextTemplate : String :=
  recordTemplate ++ " with context like \x7b\x7bContext[0].base\x7d\x7d"

def testRecord (s : String) : Value :=
  Settings.dictOf [("test", .text s)]

def givenRecord (options : Options) : Outcome Value :=
  match options.record? with
  | some s => if s.isEmpty then .ok (testRecord "test") else Json.read s
  | none => .ok (testRecord "test")

def logText (text : String) : StageAct Script Unit :=
  Stage.inHost (Host.note .info Host.logName Host.logContext (.ok text))

def plainArguments (record context : Value) : StageAct Script Arguments := do
  let sticky ← Stage.inHost (Host.openSticky .null .null)
  return ⟨record, context, sticky⟩

def perform (invocation : Invocation) (options : Options) : StageAct Script Unit := do
  Stage.inHost (Host.loadListed invocation.catalogue)
  let _ ← Stage.inHost (Host.addProvider (.cls mustacheClass) .null none)
  let record ← Act.ofResult (givenRecord options)
  let first ← plainArguments record .null
  let text ← Stage.inHost (Host.renderTemplate Script.behaviour (.text recordTemplate) first)
  logText text
  let second ← plainArguments (testRecord "asynctest") .null
  Host.renderTemplateWith Script.behaviour (.text recordTemplate) .log second
  let context := Value.list [Settings.dictOf [("base", .text "foundational")]]
  let third ← plainArguments (testRecord "asynctest") context
  Host.renderTemplateWith Script.behaviour (.text contextTemplate) .log third

/-- How the program ends: when it is done, with a status that its words ask for, or with a fault. -/
inductive Ending where
  | done
  | exit (status : Nat)
  | fault (fault : Fault)
  deriving Repr

/-- Run the program: how it ends, and what it has printed. -/
def run (invocation : Invocation) : Ending × Log.Printed :=
  match Options.read invocation.words with
  | .error .help => (.exit 0, ⟨helpLines invocation.program, []⟩)
  | .error .misuse => (.exit 2, .nothing)
  | .ok options =>
    match invocation.host options with
    | .error fault => (.fault fault, .nothing)
    | .ok host =>
      match (perform invocation options).play (.ofHost host) with
      | (.ok _, stage) => (.done, stage.host.console.printed)
      | (.error fault, stage) => (.fault fault, stage.host.console.printed)

end Stencil.Command
