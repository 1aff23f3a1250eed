import Stencil.Text.Split

/-! Lines of a text.

A file is read with every line ending written as a line feed. Text that is read line by line may
also end a line with one of the other separators: vertical tab, form feed, the information
separators U+001C to U+001E, next line, line separator and paragraph separator.
-/

set_option autoImplicit false

namespace Stencil.Text

def unifyNewlines : List Char → List Char
  | [] => []
  | '\r' :: '\n' :: rest => '\n' :: unifyNewlines rest
  | c :: rest => (if c = '\r' then '\n' else c) :: unifyNewlines rest

def endsLine (c : Char) : Bool :=
  c == '\n' || c == '\r' || c == '\x0b' || c == '\x0c' || c == '\x1c' || c == '\x1d' || c == '\x1e' ||
    c == '\u0085' || c == '\u2028' || c == '\u2029'

/-- The lines of a text, without their endings; a text that ends with a line ending has no empty line after it. -/
def lines : List Char → List (List Char)
  | [] => []
  | '\r' :: '\n' :: rest => [] :: lines rest
  | c :: rest => if endsLine c then [] :: lines rest else extendFirst c (lines rest)

end Stencil.Text
