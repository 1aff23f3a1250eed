import Stencil.Log.Record

/-! The console: where log records are printed, and which of them.

All loggers pass their records on to one console. Configuring the console again replaces its level
and its printing, so that no record is printed twice. A warning that finds no printer is noted on the
error output all the same, and so is a record that no line can be put together for.
-/

set_option autoImplicit false

namespace Stencil.Log

inductive Form where
  | jsonLines
  | plainText
  deriving DecidableEq, Repr

/-- How the console prints: records of what level, and in which form. -/
structure Printer where
  level : Level
  form : Form
  deriving DecidableEq, Repr

/-- What the error output says about a record. -/
inductive Notice where
  -- No printer is there to take the record.
  | bare (line : String)
  -- A printer cannot put a line together. Where that comes from is told as well, and left out here.
  | trouble (fault : Fault)
  deriving Repr

def Notice.text : Notice → String
  | .bare line => line
  | .trouble fault => "--- Logging error ---\n" ++ faultLine fault

/-- What has been printed: lines, and on the error output notices. -/
structure Printed where
  lines : List String
  notices : List Notice
  deriving Repr

namespace Printed

def nothing : Printed := ⟨[], []⟩

def append (first second : Printed) : Printed :=
  ⟨first.lines ++ second.lines, first.notices ++ second.notices⟩

instance : Append Printed := ⟨append⟩

@[simp] theorem lines_append (first second : Printed) : (first ++ second).lines = first.lines ++ second.lines := rfl

@[simp] theorem notices_append (first second : Printed) :
    (first ++ second).notices = first.notices ++ second.notices := rfl

end Printed

-- A console and what it has printed.
structure Console where
  threshold : Level
  printers : List Printer
  clock : String
  printed : Printed
  deriving Repr

def Console.initial (clock : String) : Console := ⟨.warning, [], clock, .nothing⟩

structure ConsoleSettings where
  level : String
  console : Bool
  jsonLines : Bool
  deriving DecidableEq, Repr

def ConsoleSettings.form (settings : ConsoleSettings) : Form :=
  if settings.jsonLines then .jsonLines else .plainText

/-- Configure a console; the printers that it had are taken away. A name that stands for no level leaves the console
as it is. -/
def Console.configure (console : Console) (settings : ConsoleSettings) : Outcome Console :=
  match Named.ofConfigured settings.level with
  | .layout text => .error (.unknownLevel text)
  | .layoutTable shown => .error (.misfit ("Level not an integer or a valid string: " ++ shown))
  | .level level =>
    let cleared := { console with threshold := level, printers := [] }
    if settings.console then .ok { cleared with printers := cleared.printers ++ [⟨level, settings.form⟩] }
    else .ok cleared

def Console.admits (console : Console) (level : Level) : Bool :=
  0 < level.number && console.threshold.number ≤ level.number

def Printer.line (printer : Printer) (clock : String) (record : Record) : Outcome String :=
  match printer.form with
  | .jsonLines => record.jsonLine
  | .plainText => record.plainLine clock

/-- What is printed of a line that was to be put together. -/
def Printed.ofLine : Outcome String → Printed
  | .ok line => ⟨[line], []⟩
  | .error fault => ⟨[], [.trouble fault]⟩

/-- What is printed of a record where there is no printer. -/
def Printed.ofUnprinted (level : Level) (record : Outcome Record) : Printed :=
  if Level.warning.number ≤ level.number then
    match record with
    | .ok record => ⟨[], [.bare record.bareLine]⟩
    | .error fault => ⟨[], [.trouble fault]⟩
  else .nothing

/-- What the printers make of a record: those that take its level print one line each. -/
def Console.print (console : Console) (level : Level) (record : Outcome Record) : Printed :=
  if console.printers.isEmpty then .ofUnprinted level record
  else (console.printers.filter (·.level.number ≤ level.number)).foldr
    (fun printer rest => .ofLine (record >>= printer.line console.clock) ++ rest) .nothing

def loggerName (name : String) : String :=
  if name.isEmpty then rootLogger else name

/-- Log a message, perhaps with the text of a fault. Where the level has no name there is no record at all. -/
def Console.log (console : Console) (level : Level) (logger : String) (context : Context)
    (message : Outcome String) (fault? : Option String := none) : Console :=
  if console.admits level then
    match level.name with
    | .ok name =>
      let record := message.map fun text => ⟨.text name, .text (loggerName logger), text, context, fault?⟩
      { console with printed := console.printed ++ console.print level record }
    | .error _ => console
  else console

/-- Logging changes only what the console has printed. -/
theorem Console.log_eq (console : Console) (level : Level) (logger : String) (context : Context)
    (message : Outcome String) (fault? : Option String) :
    ∃ printed, console.log level logger context message fault? = { console with printed } := by
  unfold Console.log
  split
  · split <;> exact ⟨_, rfl⟩
  · exact ⟨_, rfl⟩

end Stencil.Log
