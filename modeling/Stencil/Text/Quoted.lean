import Stencil.Text.Printable

/-! Quoted text: the form in which a text appears inside messages and inside printed lists.

The quote is an apostrophe unless the text holds apostrophes and no double quotes. A backslash and
the quote in use get a backslash; line feed, carriage return and tab have letters of their own;
every other character that is not printable is written by its code point, in the shortest of
two, four and eight hexadecimal digits.
-/

set_option autoImplicit false

namespace Stencil.Text

def hexDigit (n : Nat) : Char :=
  if n < 10 then Char.ofNat (48 + n) else Char.ofNat (87 + n)

def hexDigits : (width : Nat) → Nat → List Char
  | 0, _ => []
  | width + 1, n => hexDigits width (n / 16) ++ [hexDigit (n % 16)]

/-- A code point as a backslash, a letter that tells the width, and hexadecimal digits. -/
def codePointEscape (c : Char) : List Char :=
  let n := c.toNat
  if n < 0x100 then '\\' :: 'x' :: hexDigits 2 n
  else if n < 0x10000 then '\\' :: 'u' :: hexDigits 4 n
  else '\\' :: 'U' :: hexDigits 8 n

def quotedChar (quote c : Char) : List Char :=
  if c = '\\' ∨ c = quote then ['\\', c]
  else if c = '\n' then ['\\', 'n']
  else if c = '\r' then ['\\', 'r']
  else if c = '\t' then ['\\', 't']
  else if isPrintable c then [c]
  else codePointEscape c

-- The quote that needs the fewer escapes, an apostrophe where it makes no difference.
def quoteFor (s : List Char) : Char :=
  if s.contains '\'' && !s.contains '"' then '"' else '\''

def quoted (s : List Char) : List Char :=
  let quote := quoteFor s
  quote :: s.flatMap (quotedChar quote) ++ [quote]

def quotedString (s : String) : String :=
  String.ofList (quoted s.toList)

end Stencil.Text
