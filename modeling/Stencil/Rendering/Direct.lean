import Stencil.Pattern.Segment
import Stencil.Rendering.Act

/-! Rendering a template in one go: literal text as it stands, spans through their handlers. -/

set_option autoImplicit false

namespace Stencil.Rendering

open Pattern (Segment)

variable {σ η ε ν : Type}

/-- Render segments from left to right. `handle` answers the content of a span and `write` its text. -/
def renderSegments (write : σ → ν → Except ε String) (handle : Pattern η → List Char → Act σ ε ν) :
    List (Segment η) → Act σ ε String
  | [] => pure ""
  | .literal text :: rest => do
    let tail ← renderSegments write handle rest
    return String.ofList text ++ tail
  | .span pattern hash :: rest => do
    let content ← handle pattern hash
    let text ← Act.answering fun world => write world content
    let tail ← renderSegments write handle rest
    return text ++ tail

end Stencil.Rendering
