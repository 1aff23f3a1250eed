/-! Blank characters and the texts left when the blanks at both ends are taken away.

A blank is a character with the Unicode property White_Space, or one of the four
information separators U+001C to U+001F.
-/

set_option autoImplicit false

namespace Stencil.Text

/-- Blank characters: spaces, line and paragraph separators, and the ASCII controls that separate text. -/
def isBlank (c : Char) : Bool :=
  let n := c.toNat
  (9 ≤ n && n ≤ 13) || (28 ≤ n && n ≤ 32) || n == 0x85 || n == 0xA0 || n == 0x1680 ||
    (0x2000 ≤ n && n ≤ 0x200A) || n == 0x2028 || n == 0x2029 || n == 0x202F || n == 0x205F || n == 0x3000

def dropLeading (inClass : Char → Bool) (s : List Char) : List Char :=
  s.dropWhile inClass

def dropTrailing (inClass : Char → Bool) (s : List Char) : List Char :=
  (s.reverse.dropWhile inClass).reverse

def stripOf (inClass : Char → Bool) (s : List Char) : List Char :=
  dropTrailing inClass (dropLeading inClass s)

def trim (s : List Char) : List Char :=
  stripOf isBlank s

def trimmed (s : String) : String :=
  String.ofList (trim s.toList)

theorem trim_nil : trim [] = [] := rfl

end Stencil.Text
