import Stencil.Fault
import Stencil.Json.Reader
import Stencil.Yaml.Cursor

/-! Scalars in quotes.

A doubled single quote stands for one. In double quotes a backslash begins an escape, and before a
line break it takes the break away. Line breaks are folded, and so are the blanks around them.
-/

set_option autoImplicit false

namespace Stencil.Yaml

/-- The breaks of blank lines before the next text of a quoted scalar. A mark of a document is not allowed there. -/
def blankLines : (fuel : Nat) → Cursor → Outcome (List Char × Cursor)
  | 0, _ => .error .yaml
  | fuel + 1, cursor =>
    if cursor.atDocumentMark then .error .yaml
    else
      let (_, after) := cursor.span fun c => c == ' ' || c == '\t'
      match after.rest with
      | c :: _ =>
        if isBreak c then
          (blankLines fuel after.next).map fun (breaks, place) => (keptBreak c :: breaks, place)
        else .ok ([], after)
      | [] => .ok ([], after)

def escapes : List (Char × Char) :=
  [('0', '\x00'), ('a', '\x07'), ('b', '\x08'), ('t', '\t'), ('\t', '\t'), ('n', '\n'), ('v', '\x0b'),
    ('f', '\x0c'), ('r', '\r'), ('e', '\x1b'), (' ', ' '), ('"', '"'), ('\\', '\\'), ('/', '/'),
    ('N', '\u0085'), ('_', '\u00a0'), ('L', '\u2028'), ('P', '\u2029')]

def hexWidth? (c : Char) : Option Nat :=
  if c = 'x' then some 2 else if c = 'u' then some 4 else if c = 'U' then some 8 else none

-- The character with a code; not every number is one.
def charOfCode (code : Nat) : Outcome Char :=
  if 0x7FFFFFFF < code then .error (.raised .overflow (some "Python int too large to convert to C int"))
  else if 0x10FFFF < code then .error (.raised .badValue (some "chr() arg not in range(0x110000)"))
  else .ok (Char.ofNat code)

def hexChar (width : Nat) (s : List Char) : Outcome Char :=
  match if s.length < width then none else (s.take width).mapM Json.hexValue? with
  | some values => charOfCode (Number.ofPlaceValues 16 values)
  | none => .error .yaml

/-- What an escape stands for, and the place behind it; the cursor stands behind the backslash. -/
def readEscape (fuel : Nat) (cursor : Cursor) : Outcome (List Char × Cursor) :=
  match cursor.rest with
  | [] => .error .yaml
  | c :: rest =>
    match escapes.lookup c, hexWidth? c with
    | some written, _ => .ok ([written], cursor.next)
    | none, some width => (hexChar width rest).map fun written => ([written], cursor.forward (1 + width))
    | none, none => if isBreak c then blankLines fuel cursor.next else .error .yaml

def quotedGap (fuel : Nat) (cursor : Cursor) : Outcome (List Char × Cursor) :=
  let (blanks, after) := cursor.span fun c => c == ' ' || c == '\t'
  match after.rest with
  | [] => .error .yaml
  | c :: _ =>
    if isBreak c then (blankLines fuel after.next).map fun (breaks, place) => (folded c breaks, place)
    else .ok (blanks, after)

def quotedText (quote : Char) : (fuel : Nat) → Cursor → Outcome (List Char × Cursor)
  | 0, _ => .error .yaml
  | fuel + 1, cursor =>
    match cursor.rest with
    | [] => .error .yaml
    | c :: rest =>
      if c = quote then
        if quote = '\'' ∧ rest.head? = some '\'' then
          (quotedText quote fuel (cursor.forward 2)).map fun (text, place) => ('\'' :: text, place)
        else .ok ([], cursor.next)
      else do
        let (part, after) ←
          if c = '\\' ∧ quote = '"' then readEscape fuel cursor.next
          else if isGap c then quotedGap fuel cursor
          else pure ([c], cursor.next)
        let (text, place) ← quotedText quote fuel after
        return (part ++ text, place)

def readQuoted (quote : Char) (cursor : Cursor) : Outcome (List Char × Cursor) :=
  quotedText quote (cursor.rest.length + 1) cursor.next

end Stencil.Yaml
