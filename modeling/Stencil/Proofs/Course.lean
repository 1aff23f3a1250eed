import Stencil.Proofs.Conversation
import Stencil.Proofs.Floor

/-! The course of what is done on a floor.

A course tells everything that an act does, in its order: what it plays on the world, which callbacks
it calls and with what, which handlers it asks, that their moves are made one by one, and what is seen
of all this from outside. It knows of no bound on how deep asking may nest. The acts of a floor count
the segments that are left instead, and there are always enough of them, so what an act does is the
course of its task.
-/

set_option autoImplicit false

namespace Stencil.Rendering

open Pattern (Segment)

variable {σ η ε ν κ α : Type}

/-- What can be done on a floor. -/
inductive Task (σ η ε ν κ α : Type) where
  | begin (segments : List (Segment η)) (callback : κ) (arguments : α)
  -- What a pass wants done next.
  | turn (number : Nat) (turn : Turn η ε)
  | moves (moves : List (Move σ η ε ν κ))
  | handIn (recipient : Recipient η κ) (delivery : Delivery ε ν)
  -- A handler has raised a fault.
  | reproach (ticket : Ticket η) (fault : ε)

/-- How many segments a task brings along. -/
def Task.size : Task σ η ε ν κ α → Nat
  | .begin segments _ _ => segments.length
  | _ => 0

section Bounds

/-- A pass that goes on has no more segments left, and fewer once it asks for a span. -/
theorem remaining_advance {written : String} {span : Nat} {segments : List (Segment η)} {pass : Pass η} {turn : Turn η ε}
    (goes : Pass.advance written span segments = (pass, turn)) :
    pass.remaining ≤ segments.length ∧
      ∀ asked pattern hash, turn = .ask asked pattern hash → pass.remaining < segments.length := by
  induction segments generalizing written with
  | nil =>
    obtain ⟨rfl, rfl⟩ := Prod.mk.inj goes
    simp [Pass.remaining]
  | cons segment rest ih =>
    cases segment with
    | literal text =>
      obtain ⟨fewer, asks⟩ := ih goes
      exact ⟨Nat.le_succ_of_le fewer, fun asked pattern hash asking => Nat.lt_succ_of_lt (asks asked pattern hash asking)⟩
    | span pattern hash =>
      obtain ⟨rfl, rfl⟩ := Prod.mk.inj goes
      simp [Pass.remaining]

theorem remaining_receive {write : ν → Except ε String} {before pass : Pass η} {span : Nat} {delivery : Delivery ε ν}
    {receipt : Receipt η ε} (received : before.receive write span delivery = (pass, receipt)) :
    pass.remaining ≤ before.remaining ∧
      ∀ asked pattern hash, receipt = .turn (.ask asked pattern hash) → pass.remaining < before.remaining := by
  cases before with
  | stalled | settled =>
    obtain ⟨rfl, rfl⟩ := Prod.mk.inj received
    simp
  | awaiting written asked rest =>
    unfold Pass.receive at received
    by_cases here : asked = span
    · cases failed : delivery.error? with
      | some fault =>
        simp only [here, failed, if_true, Prod.mk.injEq] at received
        obtain ⟨rfl, rfl⟩ := received
        simp [Pass.remaining]
      | none =>
        cases wrote : write delivery.content with
        | error fault =>
          simp only [here, failed, wrote, if_true, Prod.mk.injEq] at received
          obtain ⟨rfl, rfl⟩ := received
          simp [Pass.remaining]
        | ok text =>
          simp only [here, failed, wrote, if_true, Prod.mk.injEq] at received
          obtain ⟨rfl, rfl⟩ := received
          simpa [Pass.remaining] using
            remaining_advance (rfl : Pass.advance (written ++ text) (span + 1) rest = (_, (_ : Turn η ε)))
    · simp only [here, if_false, Prod.mk.injEq] at received
      obtain ⟨rfl, rfl⟩ := received
      simp

theorem remaining_fail {before pass : Pass η} {span : Nat} {fault : ε} {turn? : Option (Turn η ε)}
    (taken : before.fail span fault = (pass, turn?)) : pass.remaining ≤ before.remaining := by
  cases before with
  | stalled | settled =>
    obtain ⟨rfl, rfl⟩ := Prod.mk.inj taken
    exact Nat.le_refl _
  | awaiting written asked rest =>
    unfold Pass.fail at taken
    by_cases here : asked = span
    · simp only [here, if_true, Prod.mk.injEq] at taken
      obtain ⟨rfl, rfl⟩ := taken
      simp [Pass.remaining]
    · simp only [here, if_false, Prod.mk.injEq] at taken
      obtain ⟨rfl, rfl⟩ := taken
      exact Nat.le_refl _

/-- What is left on a floor follows what is left of the pass that goes on. -/
theorem remaining_set {passes : List (Running η κ α)} {number : Nat} {running : Running η κ α} (world : σ)
    (found : passes[number]? = some running) (pass : Pass η) :
    (Floor.mk world (passes.set number { running with pass })).remaining + running.pass.remaining =
      (Floor.mk world passes).remaining + pass.remaining := by
  induction passes generalizing number with
  | nil => simp at found
  | cons first others ih =>
    simp only [Floor.remaining] at ih ⊢
    cases number with
    | zero =>
      obtain rfl : first = running := by simpa using found
      simp only [List.set_cons_zero, List.foldr_cons]
      omega
    | succ number =>
      have later := ih (by simpa using found)
      simp only [List.set_cons_succ, List.foldr_cons]
      omega

theorem remaining_append (world : σ) (passes : List (Running η κ α)) (running : Running η κ α) :
    (Floor.mk world (passes ++ [running])).remaining = (Floor.mk world passes).remaining + running.pass.remaining := by
  induction passes with
  | nil => simp [Floor.remaining]
  | cons first others ih =>
    simp only [Floor.remaining] at ih
    simp only [Floor.remaining, List.cons_append, List.foldr_cons, ih, Nat.add_assoc]

end Bounds

namespace Conversation

def inWorld (c : Conversation σ η ε κ α) (world : σ) : Conversation σ η ε κ α :=
  { c with floor := { c.floor with world } }

/-- What a task does: the callbacks that it calls with what they are given, in order, its result, and
the conversation that it leaves. -/
inductive Course (around : Surroundings σ η ε ν κ α) :
    Conversation σ η ε κ α → Task σ η ε ν κ α → List (κ × Delivery ε ν) → Except ε Unit →
      Conversation σ η ε κ α → Prop where
  | begin {c c' : Conversation σ η ε κ α} {segments : List (Segment η)} {callback : κ} {arguments : α} {pass : Pass η}
      {turn : Turn η ε} {heard : List (κ × Delivery ε ν)} {result : Except ε Unit} :
      Pass.start segments = (pass, turn) →
      Course around (c.start segments pass callback arguments) (.turn c.floor.passes.length turn) heard result c' →
      Course around c (.begin segments callback arguments) heard result c'
  | settle {c : Conversation σ η ε κ α} {number : Nat} {running : Running η κ α} {outcome : Except ε String}
      {result : Except ε Unit} {world : σ} :
      c.floor.passes[number]? = some running →
      (around.hear running.callback (around.report outcome)).play c.floor.world = (result, world) →
      Course around c (.turn number (.settle outcome)) [(running.callback, around.report outcome)] result
        { (c.call number (.settle outcome)).inWorld world with frames := c.frames }
  | ask {c c' : Conversation σ η ε κ α} {ticket : Ticket η} {running : Running η κ α} {heard : List (κ × Delivery ε ν)} :
      c.floor.passes[ticket.pass]? = some running →
      Course around (c.call ticket.pass (.ask ticket.span ticket.pattern ticket.hash))
        (.moves (around.moves ticket.pattern.handler ticket.hash running.arguments (.span ticket))) heard (.ok ()) c' →
      Course around c (.turn ticket.pass (.ask ticket.span ticket.pattern ticket.hash)) heard (.ok ())
        { c' with frames := c.frames }
  | askRaises {c c' c'' : Conversation σ η ε κ α} {ticket : Ticket η} {running : Running η κ α}
      {heard more : List (κ × Delivery ε ν)} {fault : ε} {result : Except ε Unit} :
      c.floor.passes[ticket.pass]? = some running →
      Course around (c.call ticket.pass (.ask ticket.span ticket.pattern ticket.hash))
        (.moves (around.moves ticket.pattern.handler ticket.hash running.arguments (.span ticket))) heard (.error fault)
        c' →
      Course around { c' with frames := c.frames } (.reproach ticket fault) more result c'' →
      Course around c (.turn ticket.pass (.ask ticket.span ticket.pattern ticket.hash)) (heard ++ more) result c''
  -- The span of the handler has not been answered, so the fault is noted and settles the pass.
  | blame {c c' : Conversation σ η ε κ α} {ticket : Ticket η} {running : Running η κ α} {pass : Pass η}
      {outcome : Except ε String} {fault : ε} {world : σ} {heard : List (κ × Delivery ε ν)} {result : Except ε Unit} :
      c.floor.passes[ticket.pass]? = some running →
      running.pass.fail ticket.span (around.blame ticket.pattern ticket.hash fault) = (pass, some (.settle outcome)) →
      (around.noteFault ticket.pattern ticket.hash fault).play c.floor.world = (.ok (), world) →
      Course around
        ((c.inWorld world).note (.raised ticket.pass ticket.span (around.blame ticket.pattern ticket.hash fault))
          ticket.pass running pass)
        (.turn ticket.pass (.settle outcome)) heard result c' →
      Course around c (.reproach ticket fault) heard result c'
  | unnoted {c : Conversation σ η ε κ α} {ticket : Ticket η} {running : Running η κ α} {pass : Pass η}
      {outcome : Except ε String} {fault other : ε} {world : σ} :
      c.floor.passes[ticket.pass]? = some running →
      running.pass.fail ticket.span (around.blame ticket.pattern ticket.hash fault) = (pass, some (.settle outcome)) →
      (around.noteFault ticket.pattern ticket.hash fault).play c.floor.world = (.error other, world) →
      Course around c (.reproach ticket fault) [] (.error other) (c.inWorld world)
  -- The span has been answered, so whoever made the handler move gets the fault.
  | passOn {c : Conversation σ η ε κ α} {ticket : Ticket η} {running : Running η κ α} {fault : ε} :
      c.floor.passes[ticket.pass]? = some running →
      (running.pass.fail ticket.span (around.blame ticket.pattern ticket.hash fault)).2 = none →
      Course around c (.reproach ticket fault) [] (.error fault) c
  | noMove {c : Conversation σ η ε κ α} : Course around c (.moves []) [] (.ok ()) c
  | moveRaises {c : Conversation σ η ε κ α} {move : Move σ η ε ν κ} {rest : List (Move σ η ε ν κ)} {fault : ε}
      {world : σ} :
      move.act.play c.floor.world = (.error fault, world) →
      Course around c (.moves (move :: rest)) [] (.error fault) (c.inWorld world)
  | silentMove {c c' : Conversation σ η ε κ α} {move : Move σ η ε ν κ} {rest : List (Move σ η ε ν κ)} {world : σ}
      {heard : List (κ × Delivery ε ν)} {result : Except ε Unit} :
      move.act.play c.floor.world = (.ok none, world) →
      Course around (c.inWorld world) (.moves rest) heard result c' →
      Course around c (.moves (move :: rest)) heard result c'
  | move {c c' c'' : Conversation σ η ε κ α} {move : Move σ η ε ν κ} {rest : List (Move σ η ε ν κ)} {world : σ}
      {recipient : Recipient η κ} {delivery : Delivery ε ν} {heard more : List (κ × Delivery ε ν)}
      {result : Except ε Unit} :
      move.act.play c.floor.world = (.ok (some (recipient, delivery)), world) →
      Course around (c.inWorld world) (.handIn recipient delivery) heard (.ok ()) c' →
      Course around c' (.moves rest) more result c'' →
      Course around c (.moves (move :: rest)) (heard ++ more) result c''
  | moveStops {c c' : Conversation σ η ε κ α} {move : Move σ η ε ν κ} {rest : List (Move σ η ε ν κ)} {world : σ}
      {recipient : Recipient η κ} {delivery : Delivery ε ν} {heard : List (κ × Delivery ε ν)} {fault : ε} :
      move.act.play c.floor.world = (.ok (some (recipient, delivery)), world) →
      Course around (c.inWorld world) (.handIn recipient delivery) heard (.error fault) c' →
      Course around c (.moves (move :: rest)) heard (.error fault) c'
  | listen {c : Conversation σ η ε κ α} {callback : κ} {delivery : Delivery ε ν} {result : Except ε Unit} {world : σ} :
      (around.hear callback delivery).play c.floor.world = (result, world) →
      Course around c (.handIn (.listener callback) delivery) [(callback, delivery)] result (c.inWorld world)
  | noPass {c : Conversation σ η ε κ α} {ticket : Ticket η} {delivery : Delivery ε ν} :
      c.floor.passes[ticket.pass]? = none →
      Course around c (.handIn (.span ticket) delivery) [] (.ok ()) c
  | answer {c c' : Conversation σ η ε κ α} {ticket : Ticket η} {delivery : Delivery ε ν} {running : Running η κ α}
      {pass : Pass η} {turn : Turn η ε} {heard : List (κ × Delivery ε ν)} {result : Except ε Unit} :
      c.floor.passes[ticket.pass]? = some running →
      running.pass.receive (around.write c.floor.world) ticket.span delivery = (pass, .turn turn) →
      Course around
        (c.note (delivery.event (around.write c.floor.world) ticket.pass ticket.span) ticket.pass running pass)
        (.turn ticket.pass turn) heard result c' →
      Course around c (.handIn (.span ticket) delivery) heard result c'
  | garble {c : Conversation σ η ε κ α} {ticket : Ticket η} {delivery : Delivery ε ν} {running : Running η κ α}
      {pass : Pass η} {fault : ε} :
      c.floor.passes[ticket.pass]? = some running →
      running.pass.receive (around.write c.floor.world) ticket.span delivery = (pass, .unwritable fault) →
      Course around c (.handIn (.span ticket) delivery) [] (.error fault)
        (c.note (delivery.event (around.write c.floor.world) ticket.pass ticket.span) ticket.pass running pass)
  -- Another delivery for a span that was asked for before is noted.
  | repetition {c : Conversation σ η ε κ α} {ticket asked : Ticket η} {delivery : Delivery ε ν} {running : Running η κ α}
      {pass : Pass η} {result : Except ε Unit} {world : σ} :
      c.floor.passes[ticket.pass]? = some running →
      running.pass.receive (around.write c.floor.world) ticket.span delivery = (pass, .repeated) →
      .asked asked ∈ c.history → asked.pass = ticket.pass → asked.span = ticket.span →
      (around.noteRepetition ticket.pattern ticket.hash).play c.floor.world = (result, world) →
      Course around c (.handIn (.span ticket) delivery) [] result
        ((c.note (delivery.event (around.write c.floor.world) ticket.pass ticket.span) ticket.pass running pass).inWorld
          world)
  -- Nobody has asked for the span, so there is nothing to be seen.
  | stray {c : Conversation σ η ε κ α} {ticket : Ticket η} {delivery : Delivery ε ν} {running : Running η κ α}
      {pass : Pass η} {result : Except ε Unit} {world : σ} :
      c.floor.passes[ticket.pass]? = some running →
      running.pass.receive (around.write c.floor.world) ticket.span delivery = (pass, .repeated) →
      (∀ asked, .asked asked ∈ c.history → asked.pass = ticket.pass → asked.span ≠ ticket.span) →
      (around.noteRepetition ticket.pattern ticket.hash).play c.floor.world = (result, world) →
      Course around c (.handIn (.span ticket) delivery) [] result (c.inWorld world)

/-- What an act does is the course of a task. -/
def Performs (around : Surroundings σ η ε ν κ α) (c : Conversation σ η ε κ α) (act : Act (Floor σ η κ α) ε Unit)
    (task : Task σ η ε ν κ α) : Prop :=
  ∃ heard result c', act.play c.floor = (result, c'.floor) ∧ Course around c task heard result c'

variable {around : Surroundings σ η ε ν κ α} {c c' : Conversation σ η ε κ α}

def callbacks (c : Conversation σ η ε κ α) : List κ :=
  c.floor.passes.map (·.callback)

/-- All passes are there still, with their callbacks, and no more segments are left than so many more. -/
structure Bounded (c c' : Conversation σ η ε κ α) (more : Nat) : Prop where
  callbacks : c.callbacks <+: c'.callbacks
  remaining : c'.floor.remaining ≤ c.floor.remaining + more

theorem Bounded.length_le {more : Nat} (bounded : Bounded c c' more) :
    c.floor.passes.length ≤ c'.floor.passes.length := by
  have longer := bounded.callbacks.length_le
  simpa only [Conversation.callbacks, List.length_map] using longer

theorem bounded_of_passes_eq (same : c'.floor.passes = c.floor.passes) : Bounded c c' 0 := by
  constructor
  · simp only [callbacks, same, List.prefix_rfl]
  · simp only [Floor.remaining, same, Nat.add_zero, Nat.le_refl]

theorem Bounded.trans {c'' : Conversation σ η ε κ α} (first : Bounded c c' 0) (second : Bounded c' c'' 0) :
    Bounded c c'' 0 :=
  ⟨first.callbacks.trans second.callbacks, Nat.le_trans second.remaining first.remaining⟩

theorem bounded_note {number : Nat} {running : Running η κ α} {pass : Pass η}
    (found : c.floor.passes[number]? = some running) (fewer : pass.remaining ≤ running.pass.remaining)
    (event : Event η ε) : Bounded c (c.note event number running pass) 0 := by
  have left : (c.note event number running pass).floor.remaining + running.pass.remaining =
      c.floor.remaining + pass.remaining := remaining_set c.floor.world found pass
  constructor
  · have read : (c.floor.passes.map (·.callback))[number]? = some running.callback := by
      rw [List.getElem?_map, found, Option.map_some]
    obtain ⟨inside, same⟩ := List.getElem?_eq_some_iff.1 read
    have kept : (c.note event number running pass).callbacks = c.callbacks := by
      simp only [callbacks, note, List.map_set]
      rw [← same, List.set_getElem_self]
    simp only [kept, List.prefix_rfl]
  · omega

theorem bounded_note_received {number span : Nat} {running : Running η κ α} {pass : Pass η} {receipt : Receipt η ε}
    {write : ν → Except ε String} {delivery : Delivery ε ν} (found : c.floor.passes[number]? = some running)
    (received : running.pass.receive write span delivery = (pass, receipt)) (event : Event η ε) :
    Bounded c (c.note event number running pass) 0 :=
  bounded_note found (remaining_receive received).1 event

theorem bounded_start {segments : List (Segment η)} {pass : Pass η} {turn : Turn η ε}
    (started : Pass.start segments = (pass, turn)) (callback : κ) (arguments : α) :
    Bounded c (c.start segments pass callback arguments) segments.length := by
  have fewer := (remaining_advance started).1
  have left : (c.start segments pass callback arguments).floor.remaining = c.floor.remaining + pass.remaining :=
    remaining_append c.floor.world c.floor.passes ⟨pass, callback, arguments⟩
  constructor
  · simp [callbacks, start]
  · omega

/-- A course keeps the passes with their callbacks, and leaves no segments but those that there were and that it
brought along. -/
theorem Course.bounded {task : Task σ η ε ν κ α} {heard : List (κ × Delivery ε ν)} {result : Except ε Unit}
    (course : Course around c task heard result c') : Bounded c c' task.size := by
  induction course with
  | @begin c _ _ callback arguments _ _ _ _ started _ ih =>
    have added : Bounded c _ _ := bounded_start started callback arguments
    exact ⟨added.callbacks.trans ih.callbacks, Nat.le_trans ih.remaining added.remaining⟩
  | settle _ _ | unnoted _ _ _ | passOn _ _ | noMove | moveRaises _ | listen _ | noPass _ | stray _ _ _ _ =>
    exact bounded_of_passes_eq rfl
  | ask _ _ ih => exact ⟨ih.callbacks, ih.remaining⟩
  | askRaises _ _ _ ih ih' => exact Bounded.trans ⟨ih.callbacks, ih.remaining⟩ ⟨ih'.callbacks, ih'.remaining⟩
  | @blame c _ ticket running _ _ _ world _ _ found taken _ _ ih =>
    have same : Bounded c (c.inWorld world) 0 := bounded_of_passes_eq rfl
    have found' : (c.inWorld world).floor.passes[ticket.pass]? = some running := found
    exact same.trans ((bounded_note found' (remaining_fail taken) _).trans ih)
  | silentMove _ _ ih | moveStops _ _ ih => exact ⟨ih.callbacks, ih.remaining⟩
  | move _ _ _ ih ih' => exact Bounded.trans ⟨ih.callbacks, ih.remaining⟩ ih'
  | answer found received _ ih => exact (bounded_note_received found received _).trans ih
  | garble found received => exact bounded_note_received found received _
  | @repetition c ticket _ delivery _ _ _ _ found received _ _ _ _ =>
    have noted := bounded_note_received found received
      (delivery.event (around.write c.floor.world) ticket.pass ticket.span)
    exact ⟨noted.callbacks, noted.remaining⟩

/-- A pass that is settled calls its callback, and nothing else. -/
theorem Course.settled {number : Nat} {outcome : Except ε String} {heard : List (κ × Delivery ε ν)}
    {result : Except ε Unit} (course : Course around c (.turn number (.settle outcome)) heard result c') :
    ∃ running, c.floor.passes[number]? = some running ∧ heard = [(running.callback, around.report outcome)] ∧
      c'.floor =
        ⟨((around.hear running.callback (around.report outcome)).play c.floor.world).2, c.floor.passes⟩ := by
  cases course with
  | settle found played =>
    refine ⟨_, found, rfl, ?_⟩
    rw [played]
    rfl

/-- What begins a pass adds it last, with its callback. -/
theorem Course.begun {segments : List (Segment η)} {callback : κ} {arguments : α} {heard : List (κ × Delivery ε ν)}
    {result : Except ε Unit} (course : Course around c (.begin segments callback arguments) heard result c') :
    ∃ running, c'.floor.passes[c.floor.passes.length]? = some running ∧ running.callback = callback := by
  cases course with
  | @begin _ _ _ _ _ pass _ _ _ started later =>
    obtain ⟨more, kept⟩ := later.bounded.callbacks
    have own : c'.callbacks[c.floor.passes.length]? = some callback := by
      rw [← kept]
      simp [callbacks, start]
    rw [callbacks, List.getElem?_map, Option.map_eq_some_iff] at own
    exact own

theorem play_onWorld_inWorld {β : Type} {act : Act σ ε β} {result : Except ε β} {world : σ}
    (played : act.play c.floor.world = (result, world)) :
    (onWorld act).play c.floor = (result, (c.inWorld world).floor) := by
  rw [play_onWorld, played]
  rfl

/-- An act whose task begins with a part that leaves another act to be done. -/
theorem Performs.after {task task' : Task σ η ε ν κ α} {act act' : Act (Floor σ η κ α) ε Unit}
    (later : Performs around c' act' task') (same : act.play c.floor = act'.play c'.floor)
    (leads : ∀ heard result c'', Course around c' task' heard result c'' → Course around c task heard result c'') :
    Performs around c act task := by
  obtain ⟨heard, result, c'', played, course⟩ := later
  exact ⟨heard, result, c'', same.trans played, leads heard result c'' course⟩

end Conversation

end Stencil.Rendering
