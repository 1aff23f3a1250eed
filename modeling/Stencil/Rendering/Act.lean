/-! Acts: computations that read and change a world and may fail.

What an act has changed stays changed when it fails.
-/

set_option autoImplicit false

namespace Stencil

/-- A computation over a world `σ` that answers an `α` or fails with an `ε`. -/
abbrev Act (σ ε α : Type) := ExceptT ε (StateM σ) α

namespace Act

variable {σ τ ε α β : Type}

-- The result of an act and the world that it leaves.
def play (act : Act σ ε α) (world : σ) : Except ε α × σ :=
  (ExceptT.run act).run world

def ofFun (f : σ → Except ε α × σ) : Act σ ε α :=
  ExceptT.mk (fun world => f world)

def reading (read : σ → α) : Act σ ε α :=
  ofFun fun world => (.ok (read world), world)

def changing (change : σ → σ) : Act σ ε Unit :=
  ofFun fun world => (.ok (), change world)

def ofResult (result : Except ε α) : Act σ ε α :=
  ofFun fun world => (result, world)

def answering (work : σ → Except ε α) : Act σ ε α :=
  ofFun fun world => (work world, world)

def failing (fault : ε) : Act σ ε α :=
  ofResult (.error fault)

/-- Handle a failure in the world that the failed act has left. -/
def recovering (act : Act σ ε α) (handle : ε → Act σ ε α) : Act σ ε α :=
  ofFun fun world =>
    match act.play world with
    | (.error fault, left) => (handle fault).play left
    | done => done

def within (get : τ → σ) (set : σ → τ → τ) (act : Act σ ε α) : Act τ ε α :=
  ofFun fun world =>
    let (result, part) := act.play (get world)
    (result, set part world)

@[simp] theorem play_ofFun (f : σ → Except ε α × σ) (world : σ) : (ofFun f).play world = f world := rfl

@[simp] theorem play_pure (a : α) (world : σ) : (pure a : Act σ ε α).play world = (.ok a, world) := rfl

@[simp] theorem play_reading (read : σ → α) (world : σ) :
    (reading read : Act σ ε α).play world = (.ok (read world), world) := rfl

@[simp] theorem play_changing (change : σ → σ) (world : σ) :
    (changing change : Act σ ε Unit).play world = (.ok (), change world) := rfl

@[simp] theorem play_ofResult (result : Except ε α) (world : σ) :
    (ofResult result : Act σ ε α).play world = (result, world) := rfl

@[simp] theorem play_answering (work : σ → Except ε α) (world : σ) :
    (answering work : Act σ ε α).play world = (work world, world) := rfl

@[simp] theorem play_failing (fault : ε) (world : σ) :
    (failing fault : Act σ ε α).play world = (.error fault, world) := rfl

theorem play_recovering (act : Act σ ε α) (handle : ε → Act σ ε α) (world : σ) :
    (recovering act handle).play world =
      match act.play world with
      | (.error fault, left) => (handle fault).play left
      | done => done := rfl

theorem play_within (get : τ → σ) (set : σ → τ → τ) (act : Act σ ε α) (world : τ) :
    (within get set act).play world = ((act.play (get world)).1, set (act.play (get world)).2 world) := rfl

theorem play_bind (act : Act σ ε α) (next : α → Act σ ε β) (world : σ) :
    (act >>= next).play world =
      match act.play world with
      | (.ok a, left) => (next a).play left
      | (.error fault, left) => (.error fault, left) := by
  simp only [play, bind, ExceptT.bind, ExceptT.run, ExceptT.mk, StateT.run, StateT.bind]
  cases act world with
  | mk result left => cases result <;> rfl

end Act

end Stencil
