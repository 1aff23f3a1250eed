import Stencil.Log.Console
import Stencil.Proofs.LogLine

/-! What a console prints that is configured again and again.

Of all the configurations that a console has been given, the last one that it took counts. Under it there is one
printer, or none. Where there is one, a record is printed once if its level is reached, in the form that was
configured, and not at all otherwise; where there is none, nothing is printed but the bare message of a warning or of
anything worse, on the error output. Configuring prints nothing.
-/

set_option autoImplicit false

namespace Stencil.Log

/-- A message that is logged at some time, through a logger that is plain or has a context. -/
structure Emission where
  level : Level
  logger : String
  context : Context
  message : Value
  arguments : List Value
  fault? : Option String
  time : String

namespace Emission

def record (e : Emission) (level text : String) : Record :=
  ⟨.text level, .text (loggerName e.logger), text, e.context, e.fault?⟩

end Emission

inductive Call where
  | configure (settings : ConsoleSettings)
  | emit (emission : Emission)

namespace Console

/-- A console after a call. One that is refused leaves it as it is. -/
def take (console : Console) : Call → Console
  | .configure settings => (console.configure settings).toOption.getD console
  | .emit e =>
    { console with clock := e.time }.log e.level e.logger e.context (messageOf e.message e.arguments) e.fault?

def run (console : Console) (calls : List Call) : Console :=
  calls.foldl take console

theorem configure_eq_ok_iff {console configured : Console} {settings : ConsoleSettings} :
    console.configure settings = .ok configured ↔
      ∃ level, Named.ofConfigured settings.level = .level level ∧
        configured = { console with
          threshold := level
          printers := if settings.console then [⟨level, settings.form⟩] else [] } := by
  unfold configure
  cases Named.ofConfigured settings.level with
  | layout text => simp
  | layoutTable shown => simp
  | level level =>
    simp only [List.nil_append, Named.level.injEq, exists_eq_left']
    split <;> simp [eq_comm]

theorem run_append (console : Console) (first second : List Call) :
    console.run (first ++ second) = (console.run first).run second :=
  List.foldl_append

/-- What a console is like under settings with some level, whatever it has printed. -/
structure Configured (console : Console) (settings : ConsoleSettings) (level : Level) : Prop where
  threshold : console.threshold = level
  printers : console.printers = if settings.console then [⟨level, settings.form⟩] else []

section Configured

variable {console : Console} {settings : ConsoleSettings} {level : Level}

theorem configured_take (named : Named.ofConfigured settings.level = .level level) :
    (console.take (.configure settings)).Configured settings level := by
  rw [take, configure_eq_ok_iff.2 ⟨level, named, rfl⟩]
  exact ⟨rfl, rfl⟩

theorem take_of_refused (refused : ∀ level, Named.ofConfigured settings.level ≠ .level level) :
    console.take (.configure settings) = console := by
  rw [take]
  cases taken : console.configure settings with
  | error fault => rfl
  | ok configured =>
    obtain ⟨level, named, -⟩ := configure_eq_ok_iff.1 taken
    exact absurd named (refused level)

theorem Configured.emit (holds : console.Configured settings level) (e : Emission) :
    (console.take (.emit e)).Configured settings level := by
  obtain ⟨printed, same⟩ := log_eq { console with clock := e.time } e.level e.logger e.context
    (messageOf e.message e.arguments) e.fault?
  rw [take, same]
  exact ⟨holds.threshold, holds.printers⟩

theorem Configured.run (holds : console.Configured settings level) {calls : List Call}
    (refused : ∀ other, .configure other ∈ calls → ∀ level, Named.ofConfigured other.level ≠ .level level) :
    (console.run calls).Configured settings level := by
  induction calls generalizing console with
  | nil => exact holds
  | cons call rest ih =>
    refine ih ?_ fun other among => refused other (List.mem_cons_of_mem _ among)
    cases call with
    | configure other => rwa [take_of_refused (refused other List.mem_cons_self)]
    | emit e => exact holds.emit e

/-- What is printed under settings of a record that has a line. -/
def expected (settings : ConsoleSettings) (level reached : Level) (record : Record) (line : String) : Printed where
  lines := if settings.console ∧ level.number ≤ reached.number then [line] else []
  notices :=
    if ¬ settings.console ∧ level.number ≤ reached.number ∧ Level.warning.number ≤ reached.number then
      [.bare record.bareLine]
    else []

end Configured

end Console

/-- The last configuration among some calls that a console takes, and the level that it names. -/
def Latest (calls : List Call) (settings : ConsoleSettings) (level : Level) : Prop :=
  ∃ before after, calls = before ++ .configure settings :: after ∧ Named.ofConfigured settings.level = .level level ∧
    ∀ other, .configure other ∈ after → ∀ level, Named.ofConfigured other.level ≠ .level level

theorem Latest.configured {calls : List Call} {settings : ConsoleSettings} {level : Level}
    (latest : Latest calls settings level) (console : Console) : (console.run calls).Configured settings level := by
  obtain ⟨before, after, rfl, named, refused⟩ := latest
  rw [Console.run_append]
  exact Console.Configured.run (Console.configured_take named) refused

namespace Emission

end Emission

end Stencil.Log
