import Stencil.Pattern.Segment

/-! One asynchronous rendering of a template, as a machine.

A pass writes literal text on its own and asks, one after the other, for the content of its spans.
It waits for the first answer to the span it has asked for; an answer to an earlier span is a
repetition and changes nothing. A pass is settled when it has handed its outcome to its callback:
the whole text after the last span, or the first failure.
-/

set_option autoImplicit false

namespace Stencil.Rendering

open Pattern (Segment)

variable {η ε ν : Type}

structure Delivery (ε ν : Type) where
  error? : Option ε
  content : ν

/-- How far an asynchronous rendering has come. -/
inductive Pass (η : Type) where
  -- The span with this number has been asked for; the segments after it are still to be
  -- rendered.
  | awaiting (written : String) (span : Nat) (rest : List (Segment η))
  | stalled
  | settled

inductive Turn (η ε : Type) where
  | ask (span : Nat) (pattern : Pattern η) (hash : List Char)
  | settle (outcome : Except ε String)

inductive Receipt (η ε : Type) where
  | repeated
  | unwritable (fault : ε)
  | turn (turn : Turn η ε)

namespace Pass

def advance (written : String) (span : Nat) : List (Segment η) → Pass η × Turn η ε
  | [] => (.settled, .settle (.ok written))
  | .literal text :: rest => advance (written ++ String.ofList text) span rest
  | .span pattern hash :: rest => (.awaiting written span rest, .ask span pattern hash)

def start (segments : List (Segment η)) : Pass η × Turn η ε :=
  advance "" 0 segments

def receive (write : ν → Except ε String) (pass : Pass η) (span : Nat) (delivery : Delivery ε ν) :
    Pass η × Receipt η ε :=
  match pass with
  | .awaiting written asked rest =>
    if asked = span then
      match delivery.error? with
      | some fault => (.settled, .turn (.settle (.error fault)))
      | none =>
        match write delivery.content with
        | .error fault => (.stalled, .unwritable fault)
        | .ok text =>
          let (next, turn) := advance (written ++ text) (span + 1) rest
          (next, .turn turn)
    else (pass, .repeated)
  | pass => (pass, .repeated)

/-- Take a failure that the handler of a span raised instead of answering. A handler that has
answered before may not blame its span any more: then there is no turn. -/
def fail (pass : Pass η) (span : Nat) (fault : ε) : Pass η × Option (Turn η ε) :=
  match pass with
  | .awaiting _ asked _ =>
    if asked = span then (.settled, some (.settle (.error fault))) else (pass, none)
  | pass => (pass, none)

def remaining : Pass η → Nat
  | .awaiting _ _ rest => rest.length
  | _ => 0

@[simp] theorem receive_settled (write : ν → Except ε String) (span : Nat) (delivery : Delivery ε ν) :
    (settled : Pass η).receive write span delivery = (.settled, .repeated) := rfl

@[simp] theorem receive_stalled (write : ν → Except ε String) (span : Nat) (delivery : Delivery ε ν) :
    (stalled : Pass η).receive write span delivery = (.stalled, .repeated) := rfl

end Pass

end Stencil.Rendering
