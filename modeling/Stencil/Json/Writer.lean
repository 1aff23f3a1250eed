import Stencil.Fault
import Stencil.Value.Kind

/-! Values as JSON text.

Items are separated by a comma and a space, keys from values by a colon and a space. Characters
beyond ASCII stand for themselves; quotes, backslashes and control characters are escaped. A key
that is no text is written as text, and a value without a JSON form by its own text.
-/

set_option autoImplicit false

namespace Stencil.Json

open Number (NumeralFault)

def escapedChar (c : Char) : List Char :=
  if c = '"' then ['\\', '"']
  else if c = '\\' then ['\\', '\\']
  else if c = '\n' then ['\\', 'n']
  else if c = '\r' then ['\\', 'r']
  else if c = '\t' then ['\\', 't']
  else if c = '\x08' then ['\\', 'b']
  else if c = '\x0c' then ['\\', 'f']
  else if c.toNat < 32 then '\\' :: 'u' :: Text.hexDigits 4 c.toNat
  else [c]

def writeText (s : String) : String :=
  String.ofList ('"' :: s.toList.flatMap escapedChar ++ ['"'])

/-- A floating-point number; the three that have no numeral are written as words. -/
def writeDouble (d : Number.Double) : String :=
  match d with
  | .nan => "NaN"
  | .infinite negative => if negative then "-Infinity" else "Infinity"
  | finite => finite.text

def keyText : Value → Outcome String
  | .text s => .ok s
  | .object (.code c) => .ok c.text
  | .null => .ok "null"
  | .bool b => .ok (if b then "true" else "false")
  | .int n => Outcome.ofNumeral (Number.writeInt n)
  | .float d => .ok (writeDouble d)
  | key => .error (.misfit ("keys must be str, int, float, bool or None, not " ++ key.kindName))

mutual
def write : Value → Outcome String
  | .null => .ok "null"
  | .bool b => .ok (if b then "true" else "false")
  | .int n => Outcome.ofNumeral (Number.writeInt n)
  | .float d => .ok (writeDouble d)
  | .text s => .ok (writeText s)
  | .object (.code c) => .ok (writeText c.text)
  | .list items => do return "[" ++ ", ".intercalate (← writeItems items) ++ "]"
  | .tuple items => do return "[" ++ ", ".intercalate (← writeItems items) ++ "]"
  | .dict entries => do return "\x7b" ++ ", ".intercalate (← writeEntries entries) ++ "\x7d"
  | value => do return writeText (← Outcome.ofNumeral value.shown)
-- The items of a list, each as JSON text.
def writeItems : List Value → Outcome (List String)
  | [] => .ok []
  | item :: items => do return (← write item) :: (← writeItems items)
/-- The entries of a dictionary, each as a JSON string, a colon and JSON text. -/
def writeEntries : List (Value × Value) → Outcome (List String)
  | [] => .ok []
  | (key, value) :: entries => do
    let member := writeText (← keyText key) ++ ": " ++ (← write value)
    return member :: (← writeEntries entries)
end

@[simp] theorem write_text (s : String) : write (.text s) = .ok (writeText s) := by simp [write]

end Stencil.Json
