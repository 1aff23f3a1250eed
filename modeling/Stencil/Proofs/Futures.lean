import Stencil.Proofs.Course
import Stencil.Proofs.Ledger

/-! Futures are completed once, with the first result that is offered.

What the acts of a host do to its futures is made of the steps of ledgers, as long as handlers hand in to
the recipients that they are given and to no other callback of a future. Handlers may answer as often and
as late as they like, and raise faults in between. The results that are offered on the way are those with
which the callbacks of futures are called in the course of the act.
-/

set_option autoImplicit false

namespace Stencil

open Rendering
open Host (surroundings)
open Pattern (Segment)

variable {κ : Type}

namespace Ledger

/-- The recipients that code may know of: spans, the callbacks of handlers that were asked, and callbacks
that are about no future. -/
def Knows (l : Ledger κ) : Recipient (Handler κ) Listener → Prop
  | .span _ => True
  | .listener (.fulfil _) => False
  | .listener (.fulfilOnce future) => future ∈ l.asked
  | .listener _ => True

/-- Handlers hand in to the recipients that they are given, or to such as are known already. -/
def Confines (l : Ledger κ) (behaviour : Behaviour κ) : Prop :=
  ∀ handler hash arguments recipient, ∀ move ∈ behaviour.moves handler hash arguments recipient,
    ∀ host other delivery left, move.act.play host = (.ok (some (other, delivery)), left) →
      other = recipient ∨ l.Knows other

/-- The results that were offered so far, with the futures that they were offered to. -/
def results (l : Ledger κ) : List (Nat × Outcome Value) :=
  l.offers.map fun offer => (offer.future, offer.result)

-- What a callback that is called offers to a future.
def offered : Listener × Delivery Fault Value → Option (Nat × Outcome Value)
  | (.fulfil number, delivery) => some (number, Host.resultOf delivery)
  | (.fulfilOnce number, delivery) => some (number, (Host.resultOf delivery).map Host.contentOrEmpty)
  | _ => none

def withHost (l : Ledger κ) (host : Host κ) : Ledger κ :=
  { l with stage := { l.stage with world := ⟨host, l.stage.world.audience⟩ } }

/-- Steps go the course of a task, and what is offered on the way is what its callbacks are called with. -/
structure Makes (l : Ledger κ) (behaviour : Behaviour κ)
    (task : Task (House κ) (Handler κ) Fault Value Listener Arguments)
    (result : Outcome Unit) (l' : Ledger κ) : Prop where
  steps : Steps l l'
  course : ∃ heard c', Conversation.Course (surroundings behaviour) ⟨l.stage, [], []⟩ task heard result c' ∧
    c'.floor = l'.stage ∧ l'.results = l.results ++ heard.filterMap offered

/-- What a task may assume of a ledger. A pass that is settled hears of it in the same step. -/
def Ready (l : Ledger κ) : Task (House κ) (Handler κ) Fault Value Listener Arguments → Prop
  | .begin _ listener _ => listener.future? = none ∨ ∃ future, listener = .fulfil future ∧ l.Free future
  | .turn _ (.settle _) => False
  | .turn _ (.ask _ _ _) => True
  | .moves moves => ∀ move ∈ moves, ∃ own : Move (Host κ) (Handler κ) Fault Value Listener,
      move = own.within (·.host) (fun host house => { house with host }) ∧
        ∀ host other delivery left, own.act.play host = (.ok (some (other, delivery)), left) → l.Knows other
  | .handIn recipient _ => l.Knows recipient
  | .reproach _ _ => True

variable {l l' : Ledger κ} {behaviour : Behaviour κ}

theorem Steps.knows (steps : Steps l l') {recipient : Recipient (Handler κ) Listener}
    (known : l.Knows recipient) : l'.Knows recipient := by
  cases recipient with
  | span ticket => trivial
  | listener listener =>
    cases listener with
    | fulfil future => exact known
    | fulfilOnce future => exact steps.grows.2.subset known
    | journal label fault? => trivial
    | log => trivial

theorem Steps.confines (steps : Steps l l') (confined : l.Confines behaviour) :
    l'.Confines behaviour := by
  intro handler hash arguments recipient move among host other delivery left played
  exact (confined handler hash arguments recipient move among host other delivery left played).imp_right steps.knows

theorem Steps.ready_moves (steps : Steps l l') {moves : List (Move (House κ) (Handler κ) Fault Value Listener)}
    (ready : l.Ready (.moves moves)) : l'.Ready (.moves moves) := by
  intro move among
  obtain ⟨own, rfl, hands⟩ := ready move among
  exact ⟨own, rfl, fun host other delivery left played => steps.knows (hands host other delivery left played)⟩

theorem ready_moves (confined : l.Confines behaviour) {recipient : Recipient (Handler κ) Listener}
    (known : l.Knows recipient) (handler : Handler κ) (hash : List Char) (arguments : Arguments) :
    l.Ready (.moves ((surroundings behaviour).moves handler hash arguments recipient)) := by
  intro move among
  obtain ⟨own, mine, rfl⟩ := List.mem_map.1 among
  refine ⟨own, rfl, fun host other delivery left played => ?_⟩
  rcases confined handler hash arguments recipient own mine host other delivery left played with rfl | others
  · exact known
  · exact others

theorem stage_hear (l : Ledger κ) (listener : Listener) (delivery : Delivery Fault Value) :
    (l.hear listener delivery).stage = ((onWorld (House.hear listener delivery)).play l.stage).2 := by
  cases listener <;> rfl

theorem results_hear (l : Ledger κ) (listener : Listener) (delivery : Delivery Fault Value) :
    (l.hear listener delivery).results = l.results ++ [(listener, delivery)].filterMap offered := by
  cases listener <;> simp [hear, offer, results, offered]

/-- Steps lead to a stage, and what is offered on the way is what some callbacks are called with. -/
def Reaches (l : Ledger κ) (stage : Stage κ) (heard : List (Listener × Delivery Fault Value)) : Prop :=
  ∃ l', Steps l l' ∧ l'.stage = stage ∧ l'.results = l.results ++ heard.filterMap offered

theorem Reaches.after {stage : Stage κ} {first heard : List (Listener × Delivery Fault Value)}
    (later : l'.Reaches stage heard) (steps : Steps l l')
    (told : l'.results = l.results ++ first.filterMap offered) : l.Reaches stage (first ++ heard) := by
  obtain ⟨l'', more, same, told'⟩ := later
  refine ⟨l'', steps.trans more, same, ?_⟩
  rw [told', told, List.filterMap_append, List.append_assoc]

theorem Reaches.step {stage : Stage κ} {heard : List (Listener × Delivery Fault Value)}
    (later : l'.Reaches stage heard) (step : Step l l') (quiet : l'.results = l.results) : l.Reaches stage heard := by
  have told : l'.results = l.results ++ ([] : List (Listener × Delivery Fault Value)).filterMap offered := by
    rw [quiet, List.filterMap_nil, List.append_nil]
  exact later.after (.single step) told

theorem reaches_refl (l : Ledger κ) : l.Reaches l.stage [] :=
  ⟨l, .refl, rfl, (List.append_nil _).symm⟩

theorem reaches_withHost (l : Ledger κ) (host : Host κ) : l.Reaches (l.withHost host).stage [] :=
  (reaches_refl (l.withHost host)).step (.act l host l.stage.world.audience.heard) rfl

theorem reaches_hear {listener : Listener} (known : l.Knows (.listener listener)) (delivery : Delivery Fault Value) :
    l.Reaches ((onWorld (House.hear listener delivery)).play l.stage).2 [(listener, delivery)] := by
  refine ⟨l.hear listener delivery, ?_, stage_hear l listener delivery, results_hear l listener delivery⟩
  have plainly (plain : listener.future? = none) : Steps l (l.hear listener delivery) := by
    obtain ⟨host, heard, same⟩ := hear_of_no_future (l := l) plain delivery
    rw [same]
    exact .single (.act l host heard)
  cases listener with
  | fulfil future => exact known.elim
  | fulfilOnce future => exact .single (.deliver delivery known)
  | journal label fault? => exact plainly rfl
  | log => exact plainly rfl

/-- A pass is settled together with the call of its callback. -/
theorem Course.turned_settle {c c' : Conversation (House κ) (Handler κ) Fault Listener Arguments} {number : Nat}
    {running : Running (Handler κ) Listener Arguments} {pass : Pass (Handler κ)} {outcome : Outcome String}
    {heard : List (Listener × Delivery Fault Value)} {result : Outcome Unit}
    (course : Conversation.Course (surroundings behaviour) c (.turn number (.settle outcome)) heard result c')
    (found : l.stage.passes[number]? = some running) (same : (l.setPass number running pass).stage = c.floor) :
    (l.turned number running pass (some (.settle outcome))).stage = c'.floor ∧
      (l.turned number running pass (some (.settle outcome))).results = l.results ++ heard.filterMap offered := by
  obtain ⟨there, found', rfl, left⟩ := course.settled
  have set : (l.setPass number running pass).stage.passes[number]? = some { running with pass } :=
    List.getElem?_set_self (List.getElem?_eq_some_iff.1 found).1
  rw [← same, set, Option.some.injEq] at found'
  subst found'
  constructor
  · rw [left, turned, stage_hear, ← same]
    rfl
  · exact results_hear _ _ _

theorem stage_withHost {c : Conversation (House κ) (Handler κ) Fault Listener Arguments} {world : House κ}
    (same : l.stage = c.floor) (audience : world.audience = c.floor.world.audience) :
    (l.withHost world.host).stage = (c.inWorld world).floor := by
  rw [withHost, same, ← audience]
  rfl

-- What is done in the host leaves the audience alone.
theorem audience_inHost {α : Type} {act : HostAct κ α} {house world : House κ} {result : Outcome α}
    (played : (House.inHost act).play house = (result, world)) : world.audience = house.audience := by
  rw [House.inHost, Act.play_within, Prod.mk.injEq] at played
  rw [← played.2]

theorem reaches_inHost {c : Conversation (House κ) (Handler κ) Fault Listener Arguments} {α : Type}
    {act : HostAct κ α} {world : House κ} {result : Outcome α} (same : l.stage = c.floor)
    (played : (House.inHost act).play c.floor.world = (result, world)) : l.Reaches (c.inWorld world).floor [] := by
  rw [← stage_withHost same (audience_inHost played)]
  exact reaches_withHost l world.host

theorem stage_setPass {c : Conversation (House κ) (Handler κ) Fault Listener Arguments} {number : Nat}
    {running : Running (Handler κ) Listener Arguments} {pass : Pass (Handler κ)} (same : l.stage = c.floor)
    (event : Event (Handler κ) Fault) :
    (l.setPass number running pass).stage = (c.note event number running pass).floor := by
  rw [Ledger.setPass, same]
  rfl

/-- A move is made in the host, and it hands in to recipients that are known. -/
theorem Ready.move {c : Conversation (House κ) (Handler κ) Fault Listener Arguments}
    {move : Move (House κ) (Handler κ) Fault Value Listener}
    {rest : List (Move (House κ) (Handler κ) Fault Value Listener)}
    {world : House κ} {result : Outcome (Option (Recipient (Handler κ) Listener × Delivery Fault Value))}
    (ready : l.Ready (.moves (move :: rest))) (same : l.stage = c.floor)
    (played : move.act.play c.floor.world = (result, world)) :
    Step l (l.withHost world.host) ∧ (l.withHost world.host).stage = (c.inWorld world).floor ∧
      ∀ recipient delivery, result = .ok (some (recipient, delivery)) → (l.withHost world.host).Knows recipient := by
  obtain ⟨own, rfl, hands⟩ := ready move List.mem_cons_self
  have moved : (House.inHost own.act).play c.floor.world = (result, world) := played
  refine ⟨.act l world.host l.stage.world.audience.heard, stage_withHost same (audience_inHost moved), ?_⟩
  rintro recipient delivery rfl
  rw [House.inHost, Act.play_within, Prod.mk.injEq] at moved
  exact hands c.floor.world.host recipient delivery _ (Prod.ext moved.1 rfl)

theorem Ready.rest {move : Move (House κ) (Handler κ) Fault Value Listener}
    {rest : List (Move (House κ) (Handler κ) Fault Value Listener)} (ready : l.Ready (.moves (move :: rest)))
    (steps : Steps l l') : l'.Ready (.moves rest) := by
  have left : l.Ready (.moves rest) := fun other among => ready other (List.mem_cons_of_mem move among)
  exact Steps.ready_moves steps left

/-- What a pass wants done next, after a step that has made it want this. -/
theorem reaches_turn {added : Ledger κ} {c c' : Conversation (House κ) (Handler κ) Fault Listener Arguments}
    {number : Nat} {running : Running (Handler κ) Listener Arguments} {pass : Pass (Handler κ)} {turn : Turn (Handler κ) Fault}
    {heard : List (Listener × Delivery Fault Value)} {result : Outcome Unit}
    (course : Conversation.Course (surroundings behaviour) c (.turn number turn) heard result c')
    (step : Step l (added.turned number running pass (some turn))) (quiet : added.results = l.results)
    (found : added.stage.passes[number]? = some running) (same : (added.setPass number running pass).stage = c.floor)
    (confined : l.Confines behaviour)
    (follows : ∀ {l : Ledger κ}, l.stage = c.floor → l.Confines behaviour → l.Ready (.turn number turn) →
      l.Reaches c'.floor heard) : l.Reaches c'.floor heard := by
  cases turn with
  | ask span pattern hash => exact (follows same (Steps.confines (.single step) confined) trivial).step step quiet
  | settle outcome =>
    obtain ⟨stage, told⟩ := Course.turned_settle course found same
    exact ⟨_, .single step, stage, told.trans (congrArg (· ++ heard.filterMap offered) quiet)⟩

/-- Whatever course a task takes, it is made of steps. -/
theorem Course.reaches {c c' : Conversation (House κ) (Handler κ) Fault Listener Arguments}
    {task : Task (House κ) (Handler κ) Fault Value Listener Arguments} {heard : List (Listener × Delivery Fault Value)}
    {result : Outcome Unit} (course : Conversation.Course (surroundings behaviour) c task heard result c')
    (same : l.stage = c.floor) (confined : l.Confines behaviour) (ready : l.Ready task) :
    l.Reaches c'.floor heard := by
  have spans (l : Ledger κ) (ticket : Ticket (Handler κ)) : l.Knows (.span ticket) := trivial
  induction course generalizing l with
  | @begin c c' segments listener arguments pass turn heard result started later ih =>
    have step : Step l (l.begin segments listener arguments) := .begin segments arguments ready
    let running : Running (Handler κ) Listener Arguments := ⟨.stalled, listener, arguments⟩
    have added : ((l.addPass running).setPass l.stage.passes.length running pass).stage =
        (c.start segments pass listener arguments).floor := by
      simp only [Ledger.setPass, Ledger.addPass, set_concat_length, same]
      rfl
    rw [Ledger.begin, started] at step
    exact reaches_turn (same ▸ later) step rfl found_addPass added confined (same ▸ ih)
  | settle _ _ => exact ready.elim
  | @ask c c' ticket running heard found _ ih =>
    exact ih same confined (ready_moves confined (spans l ticket) _ _ _)
  | @askRaises c c' c'' ticket running heard more fault result found _ _ ih ih' =>
    obtain ⟨l', steps, stage, told⟩ := ih same confined (ready_moves confined (spans l ticket) _ _ _)
    exact (ih' stage (Steps.confines steps confined) trivial).after steps told
  | @blame c c' ticket running pass outcome fault world heard result found taken noted later ih =>
    -- The fault is noted first, and then settles the pass.
    have noting : Step l (l.withHost world.host) := .act l world.host l.stage.world.audience.heard
    have noted' : (House.inHost (Host.noteFault ticket.pattern ticket.hash fault)).play c.floor.world = (.ok (), world) :=
      noted
    have same' := stage_withHost same (audience_inHost noted')
    have found' : (l.withHost world.host).stage.passes[ticket.pass]? = some running := same' ▸ found
    exact (reaches_turn later (Step.fail found' taken) rfl found' (stage_setPass same' _)
      (Steps.confines (.single noting) confined) ih).step noting rfl
  | @unnoted c ticket _ _ _ fault other world _ _ noted =>
    have noted' : (House.inHost (Host.noteFault ticket.pattern ticket.hash fault)).play c.floor.world =
        (.error other, world) := noted
    exact reaches_inHost same noted'
  | passOn _ _ => exact same ▸ reaches_refl l
  | noMove => exact same ▸ reaches_refl l
  | moveRaises played =>
    obtain ⟨step, stage, -⟩ := Ready.move ready same played
    exact (stage ▸ reaches_refl _).step step rfl
  | silentMove played _ ih =>
    obtain ⟨step, stage, -⟩ := Ready.move ready same played
    exact (ih stage (Steps.confines (.single step) confined) (Ready.rest ready (.single step))).step step rfl
  | move played _ _ ih ih' =>
    obtain ⟨step, stage, known⟩ := Ready.move ready same played
    obtain ⟨l', steps, stage', told⟩ := ih stage (Steps.confines (.single step) confined) (known _ _ rfl)
    have all : Steps _ l' := .head step steps
    exact (ih' stage' (Steps.confines all confined) (Ready.rest ready all)).after all told
  | moveStops played _ ih =>
    obtain ⟨step, stage, known⟩ := Ready.move ready same played
    exact (ih stage (Steps.confines (.single step) confined) (known _ _ rfl)).step step rfl
  | @listen c listener delivery result world played =>
    have heard := reaches_hear ready delivery
    have left : ((onWorld (House.hear listener delivery)).play l.stage).2 = (c.inWorld world).floor := by
      have played' : (House.hear listener delivery).play c.floor.world = (result, world) := played
      rw [same, Conversation.play_onWorld_inWorld played']
    exact left ▸ heard
  | noPass _ => exact same ▸ reaches_refl l
  | @answer c c' ticket delivery running pass turn heard result found received later ih =>
    have received' : running.pass.receive l.stage.host.writeContent ticket.span delivery = (pass, .turn turn) :=
      same ▸ received
    have found' : l.stage.passes[ticket.pass]? = some running := same ▸ found
    exact reaches_turn later (Step.receive found' received') rfl found' (stage_setPass same _) confined ih
  | @garble c ticket delivery running pass fault found received =>
    have step : Step l _ := Step.receive (same ▸ found) (same ▸ received)
    have set := @stage_setPass _ _ _ ticket.pass running pass same
      (delivery.event ((surroundings behaviour).write c.floor.world) ticket.pass ticket.span)
    exact (set ▸ reaches_refl _).step step rfl
  | @repetition c ticket asked delivery running pass result world found received _ _ _ noted =>
    have step : Step l _ := Step.receive (same ▸ found) (same ▸ received)
    have noted' : (House.inHost (Host.noteRepetition ticket.pattern ticket.hash)).play c.floor.world = (result, world) :=
      noted
    exact (reaches_inHost (stage_setPass same _) noted').step step rfl
  | @stray c ticket _ _ _ result world _ _ _ noted =>
    have noted' : (House.inHost (Host.noteRepetition ticket.pattern ticket.hash)).play c.floor.world = (result, world) :=
      noted
    exact reaches_inHost same noted'

/-- How it ends to ask a handler with a future: what asking gives, what the caller gets, and the ledger that is
left, where `told` is the one in which the handler has made its moves. -/
inductive Ends (told : Ledger κ) (future : Nat) : Outcome Unit → Outcome Nat → Ledger κ → Prop where
  | returned : Ends told future (.ok ()) (.ok future) told
  -- A fault before any delivery is the result of the future, as it is;
  | raisedFirst {fault : Fault} {left : Ledger κ} : told.offersTo future = [] → Step told left →
      left.future future = .failed fault → Ends told future (.error fault) (.ok future) left
  -- a later one goes to the caller.
  | raisedLater {fault : Fault} : told.offersTo future ≠ [] → Ends told future (.error fault) (.error fault) told

theorem Makes.fills {segments : List (Segment (Handler κ))} {future : Nat} {arguments : Arguments}
    {result : Outcome Unit} (makes : l.Makes behaviour (.begin segments (.fulfil future) arguments) result l') :
    l'.Fills l.stage.passes.length future := by
  obtain ⟨heard, c', course, stage, -⟩ := makes.course
  obtain ⟨running, found, callback⟩ := course.begun
  rw [stage] at found
  exact ⟨running, found, callback⟩

end Ledger

end Stencil
