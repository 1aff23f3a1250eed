import Stencil.Number.Integer
import Stencil.Text.LetterCase

/-! Levels of log records and the names under which they are configured.

A level is a number. Six levels have names of their own. Any other one is named by its number, and so has no
name if that is too long to be written.
-/

set_option autoImplicit false

namespace Stencil.Log

open Number

structure Level where
  number : Nat
  deriving DecidableEq, Repr

namespace Level

def unset : Level := ⟨0⟩
def debug : Level := ⟨10⟩
def info : Level := ⟨20⟩
def warning : Level := ⟨30⟩
def error : Level := ⟨40⟩
def critical : Level := ⟨50⟩

def name (level : Level) : Except NumeralFault String :=
  match level.number with
  | 0 => .ok "NOTSET"
  | 10 => .ok "DEBUG"
  | 20 => .ok "INFO"
  | 30 => .ok "WARNING"
  | 40 => .ok "ERROR"
  | 50 => .ok "CRITICAL"
  | number => do return "Level " ++ (← writeInt number)

end Level

/-- Names of levels; two levels have a second name. -/
def Level.names : List (String × Level) :=
  [("CRITICAL", .critical), ("FATAL", .critical), ("ERROR", .error), ("WARNING", .warning),
    ("WARN", .warning), ("INFO", .info), ("DEBUG", .debug), ("NOTSET", .unset)]

def Level.ofName? (name : String) : Option Level :=
  (Level.names.find? (·.1 == name)).map (·.2)

/-- What a configured level name, in any letter case, stands for. -/
inductive Named where
  | level (level : Level)
  | layout (text : String)
  | layoutTable (shown : String)
  deriving DecidableEq, Repr

def shownLayouts : String :=
  "\x7b'%': (<class 'logging.PercentStyle'>, '%(levelname)s:%(name)s:%(message)s'), " ++
    "'\x7b': (<class 'logging.StrFormatStyle'>, '\x7blevelname\x7d:\x7bname\x7d:\x7bmessage\x7d'), " ++
    "'$': (<class 'logging.StringTemplateStyle'>, '$\x7blevelname\x7d:$\x7bname\x7d:$\x7bmessage\x7d')\x7d"

-- Read a configured level name; a name that is not known means `info`.
def Named.ofConfigured (name : String) : Named :=
  let capital := Text.asciiUppercased name
  if capital = "BASIC_FORMAT" then .layout "%(levelname)s:%(name)s:%(message)s"
  else if capital = "_STYLES" then .layoutTable shownLayouts
  else .level ((Level.ofName? capital).getD .info)

theorem Level.ofName?_of_mem_names : ∀ entry ∈ Level.names, Level.ofName? entry.1 = some entry.2 := by
  decide

end Stencil.Log
