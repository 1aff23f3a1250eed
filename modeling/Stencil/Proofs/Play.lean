import Stencil.Proofs.Course
import Stencil.Proofs.Orderly

/-! What the acts of a floor do is made of steps.

An act that asks a handler plays all its moves before it ends, and the moves of handlers that are
asked meanwhile within them. In steps this is one way of many in which the code around renderings can
behave, so whatever holds of all conversations holds of the floors that acts leave. What happens on the
way is the course of the act: the callbacks that a history tells of are called, and the moves of the
handlers that it tells of are made.
-/

set_option autoImplicit false

namespace Stencil.Rendering

open Pattern (Segment)

variable {σ η ε ν κ α : Type} {around : Surroundings σ η ε ν κ α}

namespace Conversation

variable {c c' : Conversation σ η ε κ α}

theorem Reachable.steps (reachable : Reachable around c) (steps : Steps around c c') : Reachable around c' := by
  obtain ⟨world, before⟩ := reachable
  exact ⟨world, before.trans steps⟩

theorem Reachable.step (reachable : Reachable around c) (step : Step around c c') : Reachable around c' :=
  reachable.steps (.single step)

/-- A delivery for a span that was not asked for changes no pass. -/
theorem Invariant.receive_unasked (kept : c.Invariant) {number span : Nat} {running : Running η κ α}
    (found : c.floor.passes[number]? = some running)
    (unasked : ∀ ticket, .asked ticket ∈ c.history → ticket.pass = number → ticket.span ≠ span)
    (write : ν → Except ε String) (delivery : Delivery ε ν) :
    running.pass.receive write span delivery = (running.pass, .repeated) := by
  obtain ⟨segments, begun⟩ := kept.begun number running found
  obtain ⟨running', found', follows⟩ := kept.follows number segments begun
  rw [found, Option.some.injEq] at found'
  subst found'
  cases pass : running.pass with
  | stalled | settled => rfl
  | awaiting written asked rest =>
    rw [pass] at follows
    cases follows with
    | @awaiting done rest pattern hash written split known quiet order unheard =>
      -- The span that the pass waits for was asked for, so the delivery is not for that one.
      have waiting : (⟨number, spanCount done, pattern, hash⟩ : Ticket η) ∈ asks c.history number := by
        rw [order, tickets_append]
        exact List.mem_append_right _ (by simp [tickets])
      have different := unasked _ (mem_asks.1 waiting).1 rfl
      exact if_neg different

/-- A delivery that a pass makes something of is for a span that was asked for. -/
theorem Reachable.asked (reachable : Reachable around c) {number span : Nat} {running : Running η κ α}
    (found : c.floor.passes[number]? = some running) {write : ν → Except ε String} {delivery : Delivery ε ν}
    {pass : Pass η} {receipt : Receipt η ε} (received : running.pass.receive write span delivery = (pass, receipt))
    (news : receipt ≠ .repeated) :
    ∃ ticket : Ticket η, .asked ticket ∈ c.history ∧ ticket.pass = number ∧ ticket.span = span := by
  apply Classical.byContradiction
  intro unknown
  have repeated := reachable.invariant.receive_unasked found
    (fun ticket among same same' => unknown ⟨ticket, among, same, same'⟩) write delivery
  exact news (congrArg Prod.snd (received.symm.trans repeated))

/-- The step in which a delivery is handed in for a span that was asked for. -/
theorem step_handIn {ticket asked : Ticket η} {running : Running η κ α} {pass : Pass η} {receipt : Receipt η ε}
    {delivery : Delivery ε ν} (found : c.floor.passes[ticket.pass]? = some running)
    (received : running.pass.receive (around.write c.floor.world) ticket.span delivery = (pass, receipt))
    (among : .asked asked ∈ c.history) (samePass : asked.pass = ticket.pass) (sameSpan : asked.span = ticket.span) :
    Step around c
      (match receipt with
        | .turn turn =>
          (c.note (delivery.event (around.write c.floor.world) ticket.pass ticket.span) ticket.pass running pass).call
            ticket.pass turn
        | _ =>
          c.note (delivery.event (around.write c.floor.world) ticket.pass ticket.span) ticket.pass running pass) := by
  have step : Step around c (c.handIn around running ticket.pass ticket.span delivery) := by
    rw [← samePass, ← sameSpan]
    exact Step.handIn delivery among (samePass ▸ found)
  unfold Conversation.handIn at step
  rw [received] at step
  exact step

/-- Where a task begins: what a pass wants done has been called for, and a fault that is looked at has
been raised by a handler. -/
def entry (c : Conversation σ η ε κ α) : Task σ η ε ν κ α → Conversation σ η ε κ α
  | .turn number turn => c.call number turn
  | .reproach ticket _ => { c with frames := .handler ticket :: c.frames }
  | _ => c

/-- The course of a task is made of steps, after which the same code is at work as before. -/
theorem Course.steps {task : Task σ η ε ν κ α} {heard : List (κ × Delivery ε ν)} {result : Except ε Unit}
    (course : Course around c task heard result c') (reachable : Reachable around (c.entry task)) :
    Steps around (c.entry task) c' ∧ c'.frames = c.frames := by
  induction course with
  | @begin c c' segments callback arguments pass turn heard result started _ ih =>
    have step : Step around c _ := Step.begin c segments callback arguments
    unfold Conversation.begin at step
    rw [started] at step
    obtain ⟨steps, frames⟩ := ih (reachable.step step)
    exact ⟨.head step steps, frames⟩
  | @settle c number running outcome result world found _ =>
    have acted : Step around (c.call number (.settle outcome)) _ := Step.act _ world
    exact ⟨.tail (.single acted) (Step.back rfl), rfl⟩
  | ask found _ ih =>
    obtain ⟨steps, frames⟩ := ih reachable
    exact ⟨steps.tail (Step.back frames), rfl⟩
  | @askRaises c c' c'' ticket running heard more fault result found _ _ ih ih' =>
    obtain ⟨steps, frames⟩ := ih reachable
    have top : c'.frames = .handler ticket :: c.frames := frames
    have raised : ({ c' with frames := c.frames } : Conversation σ η ε κ α).entry
        (.reproach ticket fault : Task σ η ε ν κ α) = c' := by
      change ({ c' with frames := .handler ticket :: c.frames } : Conversation σ η ε κ α) = c'
      rw [← top]
    rw [raised] at ih'
    obtain ⟨steps', frames'⟩ := ih' (Reachable.steps reachable steps)
    exact ⟨steps.trans steps', frames'⟩
  | @blame c c' ticket running pass outcome fault world heard result found taken _ _ ih =>
    let noting : Conversation σ η ε κ α := { c.inWorld world with frames := .handler ticket :: c.frames }
    have acted : Step around (c.entry (.reproach ticket fault : Task σ η ε ν κ α)) noting := Step.act _ world
    have found' : noting.floor.passes[ticket.pass]? = some running := found
    have step : Step around noting _ := Step.raise fault rfl found'
    unfold raise at step
    rw [taken] at step
    obtain ⟨steps, frames⟩ := ih (Reachable.step (Reachable.step reachable acted) step)
    exact ⟨.head acted (.head step steps), frames⟩
  | @unnoted c ticket _ _ _ fault _ world found taken noted =>
    have acted : Step around (c.entry (.reproach ticket fault : Task σ η ε ν κ α)) _ := Step.act _ world
    exact ⟨.tail (.single acted) (Step.back rfl), rfl⟩
  | passOn found quiet => exact ⟨.single (Step.back rfl), rfl⟩
  | noMove => exact ⟨.refl, rfl⟩
  | @moveRaises c _ _ _ world _ => exact ⟨.single (Step.act c world), rfl⟩
  | @silentMove c _ _ _ world _ _ _ _ ih =>
    have acted : Step around c _ := Step.act c world
    obtain ⟨steps, frames⟩ := ih (reachable.step acted)
    exact ⟨.head acted steps, frames⟩
  | @move c _ _ _ _ world _ _ _ _ _ _ _ _ ih ih' =>
    have acted : Step around c _ := Step.act c world
    obtain ⟨steps, frames⟩ := ih (reachable.step acted)
    obtain ⟨steps', frames'⟩ := ih' ((reachable.step acted).steps steps)
    exact ⟨.head acted (steps.trans steps'), frames'.trans frames⟩
  | @moveStops c _ _ _ world _ _ _ _ _ _ ih =>
    have acted : Step around c _ := Step.act c world
    obtain ⟨steps, frames⟩ := ih (reachable.step acted)
    exact ⟨.head acted steps, frames⟩
  | @listen c _ _ _ world _ => exact ⟨.single (Step.act c world), rfl⟩
  | noPass _ => exact ⟨.refl, rfl⟩
  | answer found received _ ih =>
    obtain ⟨asked, among, samePass, sameSpan⟩ := Reachable.asked reachable found received (by simp)
    have step := step_handIn found received among samePass sameSpan
    obtain ⟨steps, frames⟩ := ih (reachable.step step)
    exact ⟨.head step steps, frames⟩
  | garble found received =>
    obtain ⟨asked, among, samePass, sameSpan⟩ := Reachable.asked reachable found received (by simp)
    exact ⟨.single (step_handIn found received among samePass sameSpan), rfl⟩
  | @repetition c _ _ _ _ _ _ world found received among samePass sameSpan _ =>
    have step := step_handIn found received among samePass sameSpan
    exact ⟨.tail (.single step) (Step.act _ world), rfl⟩
  | @stray c _ _ _ _ _ world _ _ _ _ => exact ⟨.single (Step.act c world), rfl⟩

/-- The acts that other code does on a floor, each with its task. -/
inductive Call (around : Surroundings σ η ε ν κ α) : Act (Floor σ η κ α) ε Unit → Task σ η ε ν κ α → Prop where
  | begin (segments : List (Segment η)) (callback : κ) (arguments : α) :
      Call around (Rendering.begin around segments callback arguments) (.begin segments callback arguments)
  | deliver (recipient : Recipient η κ) (delivery : Delivery ε ν) :
      Call around (deliver around recipient delivery) (.handIn recipient delivery)
  | ask (handler : η) (hash : List Char) (arguments : α) (callback : κ) :
      Call around (ask around handler hash arguments callback)
        (.moves (around.moves handler hash arguments (.listener callback)))

end Conversation

open Conversation

section Example

end Example

end Stencil.Rendering
