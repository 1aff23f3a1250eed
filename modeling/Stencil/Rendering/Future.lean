/-! Futures: results that are not there yet, and stay as they are once they are there. -/

set_option autoImplicit false

namespace Stencil.Rendering

variable {ε ν : Type}

inductive Future (ε ν : Type) where
  | pending
  | resolved (value : ν)
  | failed (fault : ε)
  deriving Repr, Inhabited

namespace Future

def isDone : Future ε ν → Bool
  | .pending => false
  | _ => true

def ofResult : Except ε ν → Future ε ν
  | .ok value => .resolved value
  | .error fault => .failed fault

/-- Give a future its result; a future that has one already takes no other. -/
def complete? (future : Future ε ν) (result : Except ε ν) : Option (Future ε ν) :=
  match future with
  | .pending => some (ofResult result)
  | _ => none

theorem complete?_eq_none_iff (future : Future ε ν) (result : Except ε ν) :
    future.complete? result = none ↔ future.isDone = true := by
  cases future <;> simp [complete?, isDone]

end Future

end Stencil.Rendering
