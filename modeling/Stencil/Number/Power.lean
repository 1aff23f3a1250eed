/-! Powers of the two bases that numbers are written in. -/

set_option autoImplicit false

namespace Stencil.Number

/-- A power of two. -/
def twoTo (n : Nat) : Nat :=
  Nat.pow 2 n

def tenTo (n : Nat) : Nat :=
  Nat.pow 10 n

end Stencil.Number
