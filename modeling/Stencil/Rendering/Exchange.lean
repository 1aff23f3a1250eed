import Stencil.Rendering.Act
import Stencil.Rendering.Pass

/-! Rendering by exchange: passes ask handlers, handlers answer when they like.

A handler that is asked for the content of a span is told where to hand it, and makes a list of
moves. A move may change the world, may hand in a delivery, for this span or for any other that was
asked for before, and may fail, which stops the moves. A fault that a handler raises before its span
is answered fails the pass; one that it raises later goes to whoever made it move.
-/

set_option autoImplicit false

namespace Stencil.Rendering

open Pattern (Segment)

variable {σ η ε ν κ α : Type}

structure Ticket (η : Type) where
  pass : Nat
  span : Nat
  pattern : Pattern η
  hash : List Char

inductive Recipient (η κ : Type) where
  | span (ticket : Ticket η)
  | listener (callback : κ)

-- One move of a handler: an act that answers the delivery to be handed in, if there is one.
structure Move (σ η ε ν κ : Type) where
  act : Act σ ε (Option (Recipient η κ × Delivery ε ν))

def Move.within {τ : Type} (get : τ → σ) (set : σ → τ → τ) (move : Move σ η ε ν κ) : Move τ η ε ν κ :=
  ⟨move.act.within get set⟩

/-- A pass with the callback that it was started with and the arguments of its render calls. -/
structure Running (η κ α : Type) where
  pass : Pass η
  callback : κ
  arguments : α

/-- A world with the passes that were started in it, in order. -/
structure Floor (σ η κ α : Type) where
  world : σ
  passes : List (Running η κ α)

def Floor.remaining (floor : Floor σ η κ α) : Nat :=
  floor.passes.foldr (fun running others => running.pass.remaining + others) 0

/-- What passes need from their surroundings. -/
structure Surroundings (σ η ε ν κ α : Type) where
  write : σ → ν → Except ε String
  moves : η → List Char → α → Recipient η κ → List (Move σ η ε ν κ)
  hear : κ → Delivery ε ν → Act σ ε Unit
  report : Except ε String → Delivery ε ν
  blame : Pattern η → List Char → ε → ε
  noteRepetition : Pattern η → List Char → Act σ ε Unit
  noteFault : Pattern η → List Char → ε → Act σ ε Unit

def onWorld {β : Type} (act : Act σ ε β) : Act (Floor σ η κ α) ε β :=
  act.within (·.world) (fun world floor => { floor with world })

def passAt? (number : Nat) : Act (Floor σ η κ α) ε (Option (Running η κ α)) :=
  Act.reading (·.passes[number]?)

def setPass (number : Nat) (pass : Pass η) : Act (Floor σ η κ α) ε Unit :=
  Act.changing fun floor =>
    { floor with passes := floor.passes.modify number fun running => { running with pass } }

def makeMoves (deliver : Recipient η κ → Delivery ε ν → Act (Floor σ η κ α) ε Unit) :
    List (Move σ η ε ν κ) → Act (Floor σ η κ α) ε Unit
  | [] => pure ()
  | move :: rest => do
    match ← onWorld move.act with
    | some (recipient, delivery) => deliver recipient delivery
    | none => pure ()
    makeMoves deliver rest

def conclude (around : Surroundings σ η ε ν κ α) (number : Nat) (outcome : Except ε String) :
    Act (Floor σ η κ α) ε Unit := do
  match ← passAt? number with
  | none => pure ()
  | some running => onWorld (around.hear running.callback (around.report outcome))

/-- Hand in a delivery; `follow` does what a pass wants done next. -/
def handIn (around : Surroundings σ η ε ν κ α) (follow : Nat → Turn η ε → Act (Floor σ η κ α) ε Unit) :
    Recipient η κ → Delivery ε ν → Act (Floor σ η κ α) ε Unit
  | .listener callback, delivery => onWorld (around.hear callback delivery)
  | .span ticket, delivery => do
    match ← passAt? ticket.pass with
    | none => pure ()
    | some running => do
      let write ← Act.reading fun floor => around.write floor.world
      let (pass, receipt) := running.pass.receive write ticket.span delivery
      setPass ticket.pass pass
      match receipt with
      | .repeated => onWorld (around.noteRepetition ticket.pattern ticket.hash)
      | .unwritable fault => Act.failing fault
      | .turn turn => follow ticket.pass turn

def reproach (around : Surroundings σ η ε ν κ α) (ticket : Ticket η) (fault : ε) :
    Act (Floor σ η κ α) ε Unit := do
  match ← passAt? ticket.pass with
  | none => Act.failing fault
  | some running =>
    match running.pass.fail ticket.span (around.blame ticket.pattern ticket.hash fault) with
    | (pass, some (.settle outcome)) => do
      onWorld (around.noteFault ticket.pattern ticket.hash fault)
      setPass ticket.pass pass
      conclude around ticket.pass outcome
    | _ => Act.failing fault

/-- Do what a pass wants done next. The first argument bounds how deep asking may nest; every span
that is asked for leaves its pass with fewer segments, so the segments that are left are a bound. -/
def follow (around : Surroundings σ η ε ν κ α) : Nat → Nat → Turn η ε → Act (Floor σ η κ α) ε Unit
  | _, number, .settle outcome => conclude around number outcome
  | 0, _, .ask _ _ _ => pure ()
  | left + 1, number, .ask span pattern hash => do
    match ← passAt? number with
    | none => pure ()
    | some running =>
      let ticket := Ticket.mk number span pattern hash
      Act.recovering
        (makeMoves (handIn around (follow around left))
          (around.moves pattern.handler hash running.arguments (.span ticket)))
        (reproach around ticket)

def begin (around : Surroundings σ η ε ν κ α) (segments : List (Segment η)) (callback : κ) (arguments : α) :
    Act (Floor σ η κ α) ε Unit := do
  let bound ← Act.reading (·.remaining)
  let number ← Act.reading (·.passes.length)
  let (pass, turn) := Pass.start segments
  Act.changing fun floor => { floor with passes := floor.passes ++ [⟨pass, callback, arguments⟩] }
  follow around (segments.length + bound) number turn

def deliver (around : Surroundings σ η ε ν κ α) (recipient : Recipient η κ) (delivery : Delivery ε ν) :
    Act (Floor σ η κ α) ε Unit := do
  let bound ← Act.reading (·.remaining)
  handIn around (follow around bound) recipient delivery

-- Ask a handler for the content of a text, to be handed to a callback.
def ask (around : Surroundings σ η ε ν κ α) (handler : η) (hash : List Char) (arguments : α) (callback : κ) :
    Act (Floor σ η κ α) ε Unit := do
  let bound ← Act.reading (·.remaining)
  makeMoves (handIn around (follow around bound)) (around.moves handler hash arguments (.listener callback))

end Stencil.Rendering
