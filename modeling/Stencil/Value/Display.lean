import Stencil.Number.Shortest
import Stencil.Text.Quoted
import Stencil.Value.Basic

/-! Values as text.

A text stands for itself; inside a container it is quoted. An integer past the digit limit has no
text, and neither has a container that holds one.
-/

set_option autoImplicit false

namespace Stencil

open Number (NumeralFault)

def RecordKind.className : RecordKind → String
  | .namespace => "types.SimpleNamespace"
  | .section name => name
  | .loadError => "ProviderLoadError"

def RecordKind.label : RecordKind → String
  | .namespace => "namespace"
  | kind => kind.className

/-- An object inside a container; only error codes, days and moments have a text of their own. -/
def Object.quoted : Object → String
  | .code c => "<RenderErrorCode." ++ c.name ++ ": " ++ Text.quotedString c.text ++ ">"
  | .host => "<host>"
  | .holding _ => "<dictionary of the host>"
  | .patternTable => "<pattern table>"
  | .resolver => "<resolver>"
  | .provider _ => "<provider>"
  | .log _ => "<log>"
  | .logger name => "<logger " ++ name ++ ">"
  | .loggerManager => "<logger manager>"
  | .day d => d.quoted
  | .moment m => m.quoted
  | .method name => "<method " ++ name ++ ">"
  | .other className => "<" ++ className ++ ">"

def RecordKind.shows : RecordKind → String → Bool
  | .namespace, name => !name.isEmpty
  | _, _ => true

mutual
def Value.quoted : Value → Except NumeralFault String
  | .null => .ok "None"
  | .bool b => .ok (if b then "True" else "False")
  | .int n => Number.writeInt n
  | .float d => .ok d.text
  | .text s => .ok (Text.quotedString s)
  | .list items => do return "[" ++ ", ".intercalate (← Value.quotedItems items) ++ "]"
  | .tuple [item] => do return "(" ++ (← item.quoted) ++ ",)"
  | .tuple items => do return "(" ++ ", ".intercalate (← Value.quotedItems items) ++ ")"
  | .dict entries => do return "\x7b" ++ ", ".intercalate (← Value.quotedEntries entries) ++ "\x7d"
  | .undefined => .ok "undefined"
  | .record kind fields => do
    return kind.label ++ "(" ++ ", ".intercalate (← Value.quotedFields kind fields) ++ ")"
  | .object o => .ok o.quoted
def Value.quotedItems : List Value → Except NumeralFault (List String)
  | [] => .ok []
  | item :: items => do return (← item.quoted) :: (← Value.quotedItems items)
-- The entries of a dictionary, each as a key, a colon and a value.
def Value.quotedEntries : List (Value × Value) → Except NumeralFault (List String)
  | [] => .ok []
  | (key, value) :: entries => do
    let shown := (← key.quoted) ++ ": " ++ (← value.quoted)
    return shown :: (← Value.quotedEntries entries)
def Value.quotedFields (kind : RecordKind) : List (String × Value) → Except NumeralFault (List String)
  | [] => .ok []
  | (name, value) :: fields => do
    let shown := name ++ "=" ++ (← value.quoted)
    let others ← Value.quotedFields kind fields
    return if kind.shows name then shown :: others else others
end

def Value.shown : Value → Except NumeralFault String
  | .text s => .ok s
  | .object (.code c) => .ok ("RenderErrorCode." ++ c.name)
  | .object (.day d) => .ok d.text
  | .object (.moment m) => .ok m.text
  | .record (.section _) fields => do
    return " ".intercalate (← Value.quotedFields (.section "") fields)
  | value => value.quoted

@[simp] theorem Value.shown_text (s : String) : (Value.text s).shown = .ok s := rfl

@[simp] theorem Value.shown_undefined : Value.undefined.shown = .ok "undefined" := rfl

end Stencil
