import Mathlib.Logic.Relation
import Stencil.Proofs.Agreement

/-! What becomes of futures, whatever handlers do.

A ledger is a stage with all results that were offered to its futures. A future is given away once: to
one rendering, whose callback it fills, or to one handler that is asked for a content. The first kind of
callback does not look whether its future is done. It need not, since a pass calls its callback when it
is settled, and a pass is settled once. The second kind looks, as a handler may answer more than once.
-/

set_option autoImplicit false

namespace Stencil

open Rendering
open Pattern (Segment)

variable {κ : Type}

def Rendering.Receipt.turn? {η ε : Type} : Receipt η ε → Option (Turn η ε)
  | .turn next => some next
  | _ => none

/-- A result that was offered to a future, and what came of the offer: an attempt to complete a future
that is done fails. -/
structure Offer where
  future : Nat
  result : Outcome Value
  answer : Outcome Unit

/-- A stage with the futures that handlers were asked to fill, and with all that was offered so far. -/
structure Ledger (κ : Type) where
  stage : Stage κ
  asked : List Nat
  offers : List Offer

/-- The future that a callback is about. -/
def Listener.future? : Listener → Option Nat
  | .fulfil number => some number
  | .fulfilOnce number => some number
  | _ => none

namespace Ledger

def future (l : Ledger κ) (number : Nat) : Future Fault Value :=
  l.stage.world.future number

def offersTo (l : Ledger κ) (number : Nat) : List Offer :=
  l.offers.filter (·.future == number)

-- The future that has taken the first of some offers.
def taken : List Offer → Future Fault Value
  | [] => .pending
  | offer :: _ => .ofResult offer.result

/-- Offer a result to a future; `take` is what is done with it. -/
def offer (l : Ledger κ) (number : Nat) (result : Outcome Value) (take : HouseAct κ Unit) : Ledger κ where
  stage := { l.stage with world := (take.play l.stage.world).2 }
  asked := l.asked
  offers := l.offers ++ [⟨number, result, (take.play l.stage.world).1⟩]

/-- Call a callback. -/
def hear (l : Ledger κ) (listener : Listener) (delivery : Delivery Fault Value) : Ledger κ :=
  match listener with
  | .fulfil number => l.offer number (Host.resultOf delivery) (House.hear (.fulfil number) delivery)
  | .fulfilOnce number =>
    l.offer number ((Host.resultOf delivery).map Host.contentOrEmpty) (House.hear (.fulfilOnce number) delivery)
  | listener => { l with stage := { l.stage with world := ((House.hear listener delivery).play l.stage.world).2 } }

def openFuture (l : Ledger κ) : Ledger κ :=
  { l with stage := { l.stage with world := (House.openFuture.play l.stage.world).2 } }

def addPass (l : Ledger κ) (running : Running (Handler κ) Listener Arguments) : Ledger κ :=
  { l with stage := { l.stage with passes := l.stage.passes ++ [running] } }

def setPass (l : Ledger κ) (number : Nat) (running : Running (Handler κ) Listener Arguments) (pass : Pass (Handler κ)) :
    Ledger κ :=
  { l with stage := { l.stage with passes := l.stage.passes.set number { running with pass } } }

/-- Let a pass go on from a new state; if that settles it, its callback is called. -/
def turned (l : Ledger κ) (number : Nat) (running : Running (Handler κ) Listener Arguments) (pass : Pass (Handler κ)) :
    Option (Turn (Handler κ) Fault) → Ledger κ
  | some (.settle outcome) => (l.setPass number running pass).hear running.callback (Host.outcomeDelivery outcome)
  | _ => l.setPass number running pass

/-- Add a pass, and let it go on from its start. -/
def begin (l : Ledger κ) (segments : List (Segment (Handler κ))) (listener : Listener) (arguments : Arguments) :
    Ledger κ :=
  let (pass, turn) := Pass.start segments
  let running : Running (Handler κ) Listener Arguments := ⟨.stalled, listener, arguments⟩
  (l.addPass running).turned l.stage.passes.length running pass (some turn)

/-- Hand in a delivery for a span of a pass. -/
def handIn (l : Ledger κ) (running : Running (Handler κ) Listener Arguments) (number span : Nat)
    (delivery : Delivery Fault Value) : Ledger κ :=
  let (pass, receipt) := running.pass.receive l.stage.host.writeContent span delivery
  l.turned number running pass receipt.turn?

/-- Take a failure for that of a span of a pass. -/
def raise (l : Ledger κ) (running : Running (Handler κ) Listener Arguments) (number span : Nat) (failure : Fault) :
    Ledger κ :=
  let (pass, turn?) := running.pass.fail span failure
  l.turned number running pass turn?

/-- A pass whose callback fills a future. -/
def Fills (l : Ledger κ) (number future : Nat) : Prop :=
  ∃ running, l.stage.passes[number]? = some running ∧ running.callback = .fulfil future

/-- A future that was given to nobody. -/
structure Free (l : Ledger κ) (future : Nat) : Prop where
  opened : future < l.stage.world.audience.futures.length
  unasked : future ∉ l.asked
  unfilled : ∀ number, ¬ l.Fills number future

/-- What can happen next. Nothing is assumed of the code around: it may change the host, and hand in what it
likes for any span, or to the callback of any handler that was asked. -/
inductive Step : Ledger κ → Ledger κ → Prop where
  | act (l : Ledger κ) (host : Host κ) (heard : List Hearing) :
      Step l { l with stage := { l.stage with world := ⟨host, ⟨l.stage.world.audience.futures, heard⟩⟩ } }
  | openFuture (l : Ledger κ) : Step l l.openFuture
  | ask {l : Ledger κ} {future : Nat} : l.Free future → Step l { l with asked := l.asked ++ [future] }
  | begin {l : Ledger κ} {listener : Listener} (segments : List (Segment (Handler κ))) (arguments : Arguments) :
      (listener.future? = none ∨ ∃ future, listener = .fulfil future ∧ l.Free future) →
      Step l (l.begin segments listener arguments)
  | handIn {l : Ledger κ} {number : Nat} {running : Running (Handler κ) Listener Arguments} (span : Nat)
      (delivery : Delivery Fault Value) :
      l.stage.passes[number]? = some running → Step l (l.handIn running number span delivery)
  | raise {l : Ledger κ} {number : Nat} {running : Running (Handler κ) Listener Arguments} (span : Nat) (failure : Fault) :
      l.stage.passes[number]? = some running → Step l (l.raise running number span failure)
  | deliver {l : Ledger κ} {future : Nat} (delivery : Delivery Fault Value) :
      future ∈ l.asked → Step l (l.hear (.fulfilOnce future) delivery)
  -- A handler that was asked raises a fault before its future is done.
  | escape {l : Ledger κ} {future : Nat} (fault : Fault) :
      future ∈ l.asked → l.future future = .pending →
      Step l (l.offer future (.error fault) (House.completeFuture future (.error fault)))

theorem Step.receive {l : Ledger κ} {number span : Nat} {running : Running (Handler κ) Listener Arguments}
    {delivery : Delivery Fault Value} {pass : Pass (Handler κ)} {receipt : Receipt (Handler κ) Fault}
    (found : l.stage.passes[number]? = some running)
    (received : running.pass.receive l.stage.host.writeContent span delivery = (pass, receipt)) :
    Step l (l.turned number running pass receipt.turn?) := by
  have step : Step l (l.handIn running number span delivery) := .handIn span delivery found
  simpa only [Ledger.handIn, received] using step

theorem Step.fail {l : Ledger κ} {number span : Nat} {running : Running (Handler κ) Listener Arguments}
    {failure : Fault} {pass : Pass (Handler κ)} {turn? : Option (Turn (Handler κ) Fault)}
    (found : l.stage.passes[number]? = some running) (taken : running.pass.fail span failure = (pass, turn?)) :
    Step l (l.turned number running pass turn?) := by
  have step : Step l (l.raise running number span failure) := .raise span failure found
  simpa only [Ledger.raise, taken] using step

abbrev Steps : Ledger κ → Ledger κ → Prop :=
  Relation.ReflTransGen Step

/-- What can have happened since there were neither passes nor futures. -/
def Reachable (l : Ledger κ) : Prop :=
  ∃ host heard, Steps ⟨⟨⟨host, ⟨[], heard⟩⟩, []⟩, [], []⟩ l

/-- The futures of a ledger are what the offers have made of them, and no offer came to a future that was
completed for another one. -/
structure Told (l : Ledger κ) : Prop where
  answered : ∀ offer ∈ l.offers, offer.answer = .ok ()
  first : ∀ future, l.future future = taken (l.offersTo future)

/-- Each future was given away at most once, and only who has it offers results to it. -/
structure Given (l : Ledger κ) : Prop where
  known : ∀ offer ∈ l.offers, offer.future ∈ l.asked ∨ ∃ number, l.Fills number offer.future
  asked : ∀ future ∈ l.asked, future < l.stage.world.audience.futures.length
  filled : ∀ number future, l.Fills number future →
    future < l.stage.world.audience.futures.length ∧ future ∉ l.asked
  single : ∀ number other future, l.Fills number future → l.Fills other future → number = other
  guarded : ∀ (number : Nat) running future, l.stage.passes[number]? = some running →
    running.callback ≠ .fulfilOnce future

/-- What holds of every ledger: a pass offers its outcome once, when it is settled. -/
structure Sound (l : Ledger κ) : Prop extends l.Told, l.Given where
  settled : ∀ (number : Nat) running future, l.stage.passes[number]? = some running → running.callback = .fulfil future →
    running.pass = .settled → (l.offersTo future).length = 1
  unsettled : ∀ (number : Nat) running future, l.stage.passes[number]? = some running →
    running.callback = .fulfil future → running.pass ≠ .settled → l.offersTo future = []

end Ledger

namespace House

variable {house : House κ} {number other : Nat}

/-- A house whose future has a result. -/
def fill (house : House κ) (number : Nat) (result : Outcome Value) : House κ :=
  ⟨house.host, { house.audience with futures := house.audience.futures.set number (.ofResult result) }⟩

theorem future_fill_self (inside : number < house.audience.futures.length) (result : Outcome Value) :
    (house.fill number result).future number = .ofResult result := by
  simp [future, fill, inside]

theorem future_fill_of_ne (apart : number ≠ other) (result : Outcome Value) :
    (house.fill number result).future other = house.future other := by
  simp [future, fill, apart]

/-- What is done with a result completes the future if that is pending, and else changes nothing. -/
structure Takes (house : House κ) (number : Nat) (result : Outcome Value) (take : HouseAct κ Unit) : Prop where
  pending : house.future number = .pending → take.play house = (.ok (), house.fill number result)
  done : (house.future number).isDone = true → take.play house = (.ok (), house)

theorem Takes.play {result : Outcome Value} {take : HouseAct κ Unit} (takes : Takes house number result take) :
    (house.future number = .pending ∧ take.play house = (.ok (), house.fill number result)) ∨
      ((house.future number).isDone = true ∧ take.play house = (.ok (), house)) := by
  cases now : house.future number with
  | pending => exact .inl ⟨rfl, takes.pending now⟩
  | resolved value => exact .inr ⟨rfl, takes.done (now ▸ rfl)⟩
  | failed fault => exact .inr ⟨rfl, takes.done (now ▸ rfl)⟩

theorem Takes.length_futures {result : Outcome Value} {take : HouseAct κ Unit} (takes : Takes house number result take) :
    (take.play house).2.audience.futures.length = house.audience.futures.length := by
  rcases takes.play with ⟨-, played⟩ | ⟨-, played⟩
  · rw [played]
    exact List.length_set
  · rw [played]

theorem takes_completeFuture (pending : house.future number = .pending) (result : Outcome Value) :
    Takes house number result (completeFuture number result) where
  pending _ := play_completeFuture pending result
  done done := by
    rw [pending] at done
    cases done

-- The callback of an asked handler looks first.
theorem takes_hear_fulfilOnce (house : House κ) (number : Nat) (delivery : Delivery Fault Value) :
    Takes house number ((Host.resultOf delivery).map Host.contentOrEmpty) (hear (.fulfilOnce number) delivery) where
  pending pending := by
    simp only [hear, Act.play_bind, Act.play_reading, pending, Future.isDone]
    exact play_completeFuture pending _
  done done := by
    simp only [hear, Act.play_bind, Act.play_reading, done]
    rfl

/-- Other callbacks leave futures alone. -/
theorem play_hear_of_no_future {listener : Listener} (plain : listener.future? = none) (delivery : Delivery Fault Value)
    (house : House κ) :
    ∃ host heard, ((hear listener delivery).play house).2 = ⟨host, ⟨house.audience.futures, heard⟩⟩ := by
  cases listener with
  | journal label fault? => cases fault? <;> exact ⟨_, _, rfl⟩
  | fulfil number => cases plain
  | fulfilOnce number => cases plain
  | log => exact ⟨_, _, rfl⟩

theorem future_openFuture (house : House κ) (number : Nat) :
    (openFuture.play house).2.future number = house.future number := by
  change ((house.audience.futures ++ [.pending])[number]?).getD .pending = _
  by_cases inside : number < house.audience.futures.length
  · rw [List.getElem?_append_left inside]
    rfl
  · rw [List.getElem?_append_right (Nat.le_of_not_lt inside), future,
      List.getElem?_eq_none (Nat.le_of_not_lt inside)]
    cases number - house.audience.futures.length <;> rfl

end House

namespace Rendering

variable {η ε ν : Type}

/-- A pass is settled by its turn, or else is as settled as it was before. -/
inductive Turns (before : Pass η) : Pass η → Option (Turn η ε) → Prop where
  | settles {outcome : Except ε String} : before ≠ .settled → Turns before .settled (some (.settle outcome))
  | goesOn {pass : Pass η} {turn? : Option (Turn η ε)} : (pass = .settled ↔ before = .settled) →
      (∀ outcome, turn? ≠ some (.settle outcome)) → Turns before pass turn?

theorem turns_advance {before : Pass η} (due : before ≠ .settled) (written : String) (span : Nat)
    (segments : List (Segment η)) :
    Turns before (Pass.advance written span segments : _ × Turn η ε).1
      (some (Pass.advance written span segments : _ × Turn η ε).2) := by
  induction segments generalizing written with
  | nil => exact .settles due
  | cons segment rest ih =>
    cases segment with
    | literal text => exact ih _
    | span pattern hash => exact .goesOn (by simp [Pass.advance, due]) (by simp [Pass.advance])

theorem turns_receive (write : ν → Except ε String) (pass : Pass η) (span : Nat) (delivery : Delivery ε ν) :
    Turns pass (pass.receive write span delivery).1 (pass.receive write span delivery).2.turn? := by
  cases pass with
  | stalled | settled => exact .goesOn (by simp) (by simp [Receipt.turn?])
  | awaiting written asked rest =>
    have due : Pass.awaiting written asked rest ≠ .settled := by simp
    unfold Pass.receive
    by_cases here : asked = span
    · cases failed : delivery.error? with
      | some fault =>
        simp only [if_pos here]
        exact .settles due
      | none =>
        cases wrote : write delivery.content with
        | error fault =>
          simp only [if_pos here]
          exact .goesOn (by simp) (by simp [Receipt.turn?])
        | ok text =>
          simp only [if_pos here]
          exact turns_advance due _ _ rest
    · simp only [if_neg here]
      exact .goesOn (by simp) (by simp [Receipt.turn?])

theorem turns_fail (pass : Pass η) (span : Nat) (fault : ε) :
    Turns pass (pass.fail span fault).1 (pass.fail span fault).2 := by
  cases pass with
  | stalled | settled => exact .goesOn (by simp [Pass.fail]) (by simp [Pass.fail])
  | awaiting written asked rest =>
    unfold Pass.fail
    by_cases here : asked = span
    · simp only [if_pos here]
      exact .settles (by simp)
    · simp only [if_neg here]
      exact .goesOn (by simp) (by simp)

end Rendering

namespace Ledger

variable {l : Ledger κ}

section Offers

variable {number other : Nat} {result : Outcome Value} {take : HouseAct κ Unit}

theorem offersTo_offer_self :
    (l.offer number result take).offersTo number =
      l.offersTo number ++ [⟨number, result, (take.play l.stage.world).1⟩] := by
  simp [offersTo, offer]

theorem offersTo_offer_of_ne (apart : number ≠ other) :
    (l.offer number result take).offersTo other = l.offersTo other := by
  simp [offersTo, offer, apart]

theorem mem_offersTo {offer : Offer} : offer ∈ l.offersTo number ↔ offer ∈ l.offers ∧ offer.future = number := by
  simp [offersTo]

theorem Told.offer (told : l.Told) (inside : number < l.stage.world.audience.futures.length)
    (takes : l.stage.world.Takes number result take) : (l.offer number result take).Told := by
  constructor
  · intro offer among
    rcases List.mem_append.1 among with before | last
    · exact told.answered offer before
    · rw [List.mem_singleton.1 last]
      rcases takes.play with ⟨-, played⟩ | ⟨-, played⟩ <;> rw [played]
  · intro other
    have first := told.first other
    change (take.play l.stage.world).2.future other = _
    change l.stage.world.future other = _ at first
    by_cases same : number = other
    · subst same
      rw [offersTo_offer_self]
      rcases takes.play with ⟨pending, played⟩ | ⟨done, played⟩
      · -- A pending future has taken no offer yet, so this is the first one.
        have none : l.offersTo number = [] := by
          cases offers : l.offersTo number with
          | nil => rfl
          | cons offer rest =>
            rw [pending, offers, taken] at first
            cases result : offer.result <;> simp [result, Future.ofResult] at first
        rw [played, none]
        exact House.future_fill_self inside result
      · rw [played]
        cases offers : l.offersTo number with
        | nil =>
          rw [first, offers, taken] at done
          cases done
        | cons offer rest =>
          rw [offers] at first
          exact first
    · rw [offersTo_offer_of_ne same, ← first]
      rcases takes.play with ⟨-, played⟩ | ⟨-, played⟩
      · rw [played]
        exact House.future_fill_of_ne same result
      · rw [played]

end Offers

section Passes

variable {number : Nat} {running : Running (Handler κ) Listener Arguments} {pass : Pass (Handler κ)}

theorem passes_setPass (found : l.stage.passes[number]? = some running) {other : Nat}
    {there : Running (Handler κ) Listener Arguments}
    (read : (l.setPass number running pass).stage.passes[other]? = some there) :
    (other = number ∧ there = { running with pass }) ∨ (other ≠ number ∧ l.stage.passes[other]? = some there) := by
  have inside := (List.getElem?_eq_some_iff.1 found).1
  simp only [setPass, List.getElem?_set] at read
  by_cases same : number = other
  · subst same
    simp only [if_true, inside, Option.some.injEq] at read
    exact .inl ⟨rfl, read.symm⟩
  · rw [if_neg same] at read
    exact .inr ⟨Ne.symm same, read⟩

-- The passes of a ledger may go on; what they fill stays.
theorem fills_setPass (found : l.stage.passes[number]? = some running) {other future : Nat}
    (fills : (l.setPass number running pass).Fills other future) : l.Fills other future := by
  obtain ⟨there, read, callback⟩ := fills
  rcases passes_setPass found read with ⟨rfl, rfl⟩ | ⟨-, read⟩
  · exact ⟨running, found, callback⟩
  · exact ⟨there, read, callback⟩

theorem Fills.setPass (found : l.stage.passes[number]? = some running) {other future : Nat}
    (fills : l.Fills other future) : (l.setPass number running pass).Fills other future := by
  obtain ⟨there, read, callback⟩ := fills
  have inside := (List.getElem?_eq_some_iff.1 found).1
  by_cases same : number = other
  · subst same
    rw [found, Option.some.injEq] at read
    subst read
    exact ⟨_, List.getElem?_set_self inside, callback⟩
  · refine ⟨there, ?_, callback⟩
    simp only [Ledger.setPass, List.getElem?_set_ne same, read]

theorem Given.setPass (given : l.Given) (found : l.stage.passes[number]? = some running) :
    (l.setPass number running pass).Given where
  known offer among := (given.known offer among).imp_right fun ⟨other, fills⟩ => ⟨other, fills.setPass found⟩
  asked := given.asked
  filled other future fills := given.filled other future (fills_setPass found fills)
  single one other future fills fills' :=
    given.single one other future (fills_setPass found fills) (fills_setPass found fills')
  guarded other there future read := by
    rcases passes_setPass found read with ⟨rfl, rfl⟩ | ⟨-, read⟩
    · exact given.guarded other running future found
    · exact given.guarded other there future read

/-- A pass that goes on without being settled, or that fills no future. -/
theorem Sound.setPass (sound : l.Sound) (found : l.stage.passes[number]? = some running)
    (same : ∀ future, running.callback = .fulfil future → (pass = .settled ↔ running.pass = .settled)) :
    (l.setPass number running pass).Sound where
  toTold := ⟨sound.answered, sound.first⟩
  toGiven := sound.toGiven.setPass found
  settled other there future read callback isSettled := by
    rcases passes_setPass found read with ⟨rfl, rfl⟩ | ⟨-, read⟩
    · exact sound.settled other running future found callback ((same future callback).1 isSettled)
    · exact sound.settled other there future read callback isSettled
  unsettled other there future read callback due := by
    rcases passes_setPass found read with ⟨rfl, rfl⟩ | ⟨-, read⟩
    · exact sound.unsettled other running future found callback fun isSettled => due ((same future callback).2 isSettled)
    · exact sound.unsettled other there future read callback due

/-- What code does elsewhere. -/
theorem Sound.act (sound : l.Sound) (host : Host κ) (heard : List Hearing) :
    Sound { l with stage := { l.stage with world := ⟨host, ⟨l.stage.world.audience.futures, heard⟩⟩ } } where
  toTold := ⟨sound.answered, sound.first⟩
  toGiven := ⟨sound.known, sound.asked, sound.filled, sound.single, sound.guarded⟩
  settled := sound.settled
  unsettled := sound.unsettled

/-- A callback that is about no future is other code. -/
theorem hear_of_no_future {listener : Listener} (plain : listener.future? = none) (delivery : Delivery Fault Value) :
    ∃ host heard, l.hear listener delivery =
      { l with stage := { l.stage with world := ⟨host, ⟨l.stage.world.audience.futures, heard⟩⟩ } } := by
  obtain ⟨host, heard, left⟩ := House.play_hear_of_no_future plain delivery l.stage.world
  refine ⟨host, heard, ?_⟩
  cases listener with
  | fulfil future => cases plain
  | fulfilOnce future => cases plain
  | journal label fault? => simp only [hear, left]
  | log => simp only [hear, left]

theorem Given.offer (given : l.Given) {future : Nat} {result : Outcome Value} {take : HouseAct κ Unit}
    (mine : future ∈ l.asked ∨ ∃ number, l.Fills number future) (takes : l.stage.world.Takes future result take) :
    (l.offer future result take).Given where
  known offer among := by
    rcases List.mem_append.1 among with before | last
    · exact given.known offer before
    · rw [List.mem_singleton.1 last]
      exact mine
  asked other among := takes.length_futures ▸ given.asked other among
  filled number other fills := takes.length_futures ▸ given.filled number other fills
  single := given.single
  guarded := given.guarded

/-- An offer to a future that an asked handler fills. -/
theorem Sound.offer (sound : l.Sound) {future : Nat} {result : Outcome Value} {take : HouseAct κ Unit}
    (asked : future ∈ l.asked) (takes : l.stage.world.Takes future result take) :
    (l.offer future result take).Sound := by
  have apart {number : Nat} {running : Running (Handler κ) Listener Arguments} {other : Nat}
      (found : l.stage.passes[number]? = some running) (callback : running.callback = .fulfil other) :
      future ≠ other := by
    rintro rfl
    exact (sound.filled number future ⟨running, found, callback⟩).2 asked
  constructor
  · exact sound.toTold.offer (sound.asked future asked) takes
  · exact sound.toGiven.offer (.inl asked) takes
  · intro number running other found callback isSettled
    rw [offersTo_offer_of_ne (apart found callback)]
    exact sound.settled number running other found callback isSettled
  · intro number running other found callback due
    rw [offersTo_offer_of_ne (apart found callback)]
    exact sound.unsettled number running other found callback due

/-- A pass that is settled offers its outcome to the future that it fills, which is pending. -/
theorem Sound.settle_fulfil (sound : l.Sound) (found : l.stage.passes[number]? = some running)
    (due : running.pass ≠ .settled) {future : Nat} (callback : running.callback = .fulfil future)
    (delivery : Delivery Fault Value) :
    ((l.setPass number running .settled).offer future (Host.resultOf delivery)
      (House.hear (.fulfil future) delivery)).Sound := by
  have none := sound.unsettled number running future found callback due
  have fills : l.Fills number future := ⟨running, found, callback⟩
  have pending : l.stage.world.future future = .pending := (sound.first future).trans (congrArg taken none)
  have takes : l.stage.world.Takes future (Host.resultOf delivery) (House.hear (.fulfil future) delivery) :=
    House.takes_completeFuture pending (Host.resultOf delivery)
  have told : (l.setPass number running .settled).Told := ⟨sound.answered, sound.first⟩
  have given : (l.setPass number running .settled).Given := sound.toGiven.setPass found
  -- Another pass fills another future, to which nothing is offered now.
  have apart {other : Nat} {there : Running (Handler κ) Listener Arguments} {rival : Nat}
      (read : l.stage.passes[other]? = some there) (elsewhere : other ≠ number)
      (its : there.callback = .fulfil rival) : future ≠ rival := by
    rintro rfl
    exact elsewhere (sound.single other number future ⟨there, read, its⟩ fills)
  constructor
  · exact told.offer (sound.filled number future fills).1 takes
  · exact given.offer (.inr ⟨number, fills.setPass found⟩) takes
  · intro other there rival read its isSettled
    rcases passes_setPass found read with ⟨rfl, rfl⟩ | ⟨elsewhere, read⟩
    · obtain rfl : future = rival := Listener.fulfil.inj (callback.symm.trans its)
      rw [offersTo_offer_self, List.length_append]
      change (l.offersTo future).length + 1 = 1
      rw [none, List.length_nil]
    · rw [offersTo_offer_of_ne (apart read elsewhere its)]
      exact sound.settled other there rival read its isSettled
  · intro other there rival read its unsettled
    rcases passes_setPass found read with ⟨rfl, rfl⟩ | ⟨elsewhere, read⟩
    · exact absurd rfl unsettled
    · rw [offersTo_offer_of_ne (apart read elsewhere its)]
      exact sound.unsettled other there rival read its unsettled

theorem Sound.settle (sound : l.Sound) (found : l.stage.passes[number]? = some running)
    (due : running.pass ≠ .settled) (delivery : Delivery Fault Value) :
    ((l.setPass number running .settled).hear running.callback delivery).Sound := by
  have plainly (plain : running.callback.future? = none) :
      ((l.setPass number running .settled).hear running.callback delivery).Sound := by
    have set : (l.setPass number running .settled).Sound := by
      apply sound.setPass found
      intro future callback
      rw [callback] at plain
      cases plain
    obtain ⟨host, heard, same⟩ := @hear_of_no_future κ (l.setPass number running .settled) _ plain delivery
    rw [same]
    exact set.act host heard
  cases callback : running.callback with
  | fulfil future => exact sound.settle_fulfil found due callback delivery
  | fulfilOnce future => exact absurd callback (sound.guarded number running future found)
  | journal label fault? => exact callback ▸ plainly (callback ▸ rfl)
  | log => exact callback ▸ plainly (callback ▸ rfl)

theorem Sound.turned (sound : l.Sound) (found : l.stage.passes[number]? = some running)
    {turn? : Option (Turn (Handler κ) Fault)} (turns : Turns running.pass pass turn?) :
    (l.turned number running pass turn?).Sound := by
  cases turns with
  | @settles outcome due => exact sound.settle found due (Host.outcomeDelivery outcome)
  | goesOn same quiet =>
    have set : (l.setPass number running pass).Sound := sound.setPass found fun _ _ => same
    cases turn? with
    | none => exact set
    | some turn =>
      cases turn with
      | ask span pattern hash => exact set
      | settle outcome => exact absurd rfl (quiet outcome)

end Passes

section NewPass

variable {number : Nat} {running : Running (Handler κ) Listener Arguments}

theorem passes_addPass {there : Running (Handler κ) Listener Arguments}
    (read : (l.addPass running).stage.passes[number]? = some there) :
    l.stage.passes[number]? = some there ∨ (number = l.stage.passes.length ∧ there = running) := by
  simp only [addPass, List.getElem?_append] at read
  split at read
  · exact .inl read
  · rename_i behind
    rw [List.getElem?_singleton, Option.ite_none_right_eq_some, Option.some.injEq] at read
    exact .inr ⟨by omega, read.2.symm⟩

theorem found_addPass : (l.addPass running).stage.passes[l.stage.passes.length]? = some running :=
  List.getElem?_concat_length

theorem Fills.addPass {future : Nat} (fills : l.Fills number future) : (l.addPass running).Fills number future := by
  obtain ⟨there, read, callback⟩ := fills
  exact ⟨there, (List.getElem?_append_left (List.getElem?_eq_some_iff.1 read).1).trans read, callback⟩

theorem fills_addPass {future : Nat} (fills : (l.addPass running).Fills number future) :
    l.Fills number future ∨ (number = l.stage.passes.length ∧ running.callback = .fulfil future) := by
  obtain ⟨there, read, callback⟩ := fills
  rcases passes_addPass read with read | ⟨last, rfl⟩
  · exact .inl ⟨there, read, callback⟩
  · exact .inr ⟨last, callback⟩

/-- A new pass may have a callback that is about no future, or one that fills a future that is free. -/
theorem Given.addPass (given : l.Given)
    (free : running.callback.future? = none ∨ ∃ future, running.callback = .fulfil future ∧ l.Free future) :
    (l.addPass running).Given := by
  have freely {future : Nat} (callback : running.callback = .fulfil future) : l.Free future := by
    rcases free with plain | ⟨other, its, free⟩
    · rw [callback] at plain
      cases plain
    · obtain rfl : other = future := Listener.fulfil.inj (its.symm.trans callback)
      exact free
  constructor
  · intro offer among
    exact (given.known offer among).imp_right fun ⟨other, fills⟩ => ⟨other, fills.addPass⟩
  · exact given.asked
  · intro number future fills
    rcases fills_addPass fills with fills | ⟨-, callback⟩
    · exact given.filled number future fills
    · exact ⟨(freely callback).opened, (freely callback).unasked⟩
  · intro number other future fills fills'
    rcases fills_addPass fills with fills | ⟨rfl, callback⟩
    · rcases fills_addPass fills' with fills' | ⟨rfl, callback⟩
      · exact given.single number other future fills fills'
      · exact absurd fills ((freely callback).unfilled number)
    · rcases fills_addPass fills' with fills' | ⟨rfl, -⟩
      · exact absurd fills' ((freely callback).unfilled other)
      · rfl
  · intro number there future read callback
    rcases passes_addPass read with read | ⟨-, rfl⟩
    · exact given.guarded number there future read callback
    · rcases free with plain | ⟨other, its, -⟩
      · rw [callback] at plain
        cases plain
      · rw [callback] at its
        cases its

-- Nothing was offered to a future that was given to nobody.
theorem Given.offersTo_of_free (given : l.Given) {future : Nat} (free : l.Free future) : l.offersTo future = [] := by
  apply List.eq_nil_iff_forall_not_mem.2
  intro offer among
  obtain ⟨offered, rfl⟩ := mem_offersTo.1 among
  rcases given.known offer offered with asked | ⟨number, fills⟩
  · exact free.unasked asked
  · exact free.unfilled number fills

theorem Sound.addPass (sound : l.Sound)
    (free : running.callback.future? = none ∨ ∃ future, running.callback = .fulfil future ∧ l.Free future)
    (due : running.pass ≠ .settled) : (l.addPass running).Sound := by
  constructor
  · exact ⟨sound.answered, sound.first⟩
  · exact sound.toGiven.addPass free
  · intro number there future read callback isSettled
    rcases passes_addPass read with read | ⟨-, rfl⟩
    · exact sound.settled number there future read callback isSettled
    · exact absurd isSettled due
  · intro number there future read callback unsettled
    rcases passes_addPass read with read | ⟨-, rfl⟩
    · exact sound.unsettled number there future read callback unsettled
    · rcases free with plain | ⟨other, its, free⟩
      · rw [callback] at plain
        cases plain
      · obtain rfl : other = future := Listener.fulfil.inj (its.symm.trans callback)
        exact sound.toGiven.offersTo_of_free free

end NewPass

theorem Sound.openFuture (sound : l.Sound) : l.openFuture.Sound := by
  have longer : l.openFuture.stage.world.audience.futures.length = l.stage.world.audience.futures.length + 1 :=
    List.length_append
  constructor
  · refine ⟨sound.answered, fun future => ?_⟩
    exact (House.future_openFuture l.stage.world future).trans (sound.first future)
  · refine ⟨sound.known, ?_, ?_, sound.single, sound.guarded⟩
    · intro future among
      rw [longer]
      exact Nat.lt_succ_of_lt (sound.asked future among)
    · intro number future fills
      rw [longer]
      exact (sound.filled number future fills).imp_left Nat.lt_succ_of_lt
  · exact sound.settled
  · exact sound.unsettled

theorem Sound.ask (sound : l.Sound) {future : Nat} (free : l.Free future) :
    Sound { l with asked := l.asked ++ [future] } := by
  constructor
  · exact ⟨sound.answered, sound.first⟩
  · refine ⟨?_, ?_, ?_, sound.single, sound.guarded⟩
    · intro offer among
      exact (sound.known offer among).imp_left (List.mem_append_left [future])
    · intro other among
      rcases List.mem_append.1 among with before | last
      · exact sound.asked other before
      · rw [List.mem_singleton.1 last]
        exact free.opened
    · intro number other fills
      obtain ⟨inside, unasked⟩ := sound.filled number other fills
      refine ⟨inside, fun among => ?_⟩
      rcases List.mem_append.1 among with before | last
      · exact unasked before
      · rw [List.mem_singleton.1 last] at fills
        exact free.unfilled number fills
  · exact sound.settled
  · exact sound.unsettled

theorem Step.sound {l' : Ledger κ} (step : Step l l') (sound : l.Sound) : l'.Sound := by
  cases step with
  | act host heard => exact sound.act host heard
  | openFuture => exact sound.openFuture
  | ask free => exact sound.ask free
  | begin segments arguments free =>
    have added := @Sound.addPass _ _ ⟨.stalled, _, arguments⟩ sound free (by simp)
    exact added.turned found_addPass (turns_advance (by simp) "" 0 segments)
  | handIn span delivery found => exact sound.turned found (turns_receive _ _ span delivery)
  | raise span failure found => exact sound.turned found (turns_fail _ span failure)
  | deliver delivery asked => exact sound.offer asked (House.takes_hear_fulfilOnce _ _ delivery)
  | escape fault asked pending => exact sound.offer asked (House.takes_completeFuture pending (.error fault))

theorem Steps.sound {l' : Ledger κ} (steps : Steps l l') (sound : l.Sound) : l'.Sound := by
  induction steps with
  | refl => exact sound
  | tail _ step ih => exact step.sound ih

theorem Reachable.step (reachable : Reachable l) {l' : Ledger κ} (step : Step l l') : Reachable l' := by
  obtain ⟨host, heard, steps⟩ := reachable
  exact ⟨host, heard, steps.tail step⟩

theorem Reachable.sound (reachable : Reachable l) : l.Sound := by
  obtain ⟨host, heard, steps⟩ := reachable
  refine steps.sound ⟨⟨?_, ?_⟩, ⟨?_, ?_, ?_, ?_, ?_⟩, ?_, ?_⟩
  all_goals simp [Fills, future, House.future, offersTo, taken]

theorem grows_hear (l : Ledger κ) (listener : Listener) (delivery : Delivery Fault Value) :
    l.offers <+: (l.hear listener delivery).offers ∧ (l.hear listener delivery).asked = l.asked := by
  cases listener with
  | fulfil future => exact ⟨List.prefix_append _ _, rfl⟩
  | fulfilOnce future => exact ⟨List.prefix_append _ _, rfl⟩
  | journal label fault? => exact ⟨List.prefix_refl _, rfl⟩
  | log => exact ⟨List.prefix_refl _, rfl⟩

theorem grows_turned (l : Ledger κ) (number : Nat) (running : Running (Handler κ) Listener Arguments)
    (pass : Pass (Handler κ)) (turn? : Option (Turn (Handler κ) Fault)) :
    l.offers <+: (l.turned number running pass turn?).offers ∧ (l.turned number running pass turn?).asked = l.asked := by
  cases turn? with
  | none => exact ⟨List.prefix_refl _, rfl⟩
  | some turn =>
    cases turn with
    | ask span pattern hash => exact ⟨List.prefix_refl _, rfl⟩
    | settle outcome => exact grows_hear (l.setPass number running pass) _ _

/-- No offer is ever forgotten, and neither is who was asked. -/
theorem Step.grows {l' : Ledger κ} (step : Step l l') : l.offers <+: l'.offers ∧ l.asked <+: l'.asked := by
  have same (l' : Ledger κ) (grows : l.offers <+: l'.offers ∧ l'.asked = l.asked) :
      l.offers <+: l'.offers ∧ l.asked <+: l'.asked :=
    ⟨grows.1, grows.2 ▸ List.prefix_refl _⟩
  cases step with
  | act host heard => exact ⟨List.prefix_refl _, List.prefix_refl _⟩
  | openFuture => exact ⟨List.prefix_refl _, List.prefix_refl _⟩
  | ask free => exact ⟨List.prefix_refl _, List.prefix_append _ _⟩
  | begin segments arguments free => exact same _ (grows_turned (l.addPass ⟨.stalled, _, arguments⟩) _ _ _ _)
  | handIn span delivery found => exact same _ (grows_turned l _ _ _ _)
  | raise span failure found => exact same _ (grows_turned l _ _ _ _)
  | deliver delivery asked => exact same _ (grows_hear l _ _)
  | escape fault asked pending => exact ⟨List.prefix_append _ _, List.prefix_refl _⟩

theorem Steps.grows {l' : Ledger κ} (steps : Steps l l') : l.offers <+: l'.offers ∧ l.asked <+: l'.asked := by
  induction steps with
  | refl => exact ⟨List.prefix_refl _, List.prefix_refl _⟩
  | tail _ step ih => exact ⟨ih.1.trans step.grows.1, ih.2.trans step.grows.2⟩

theorem stage_passes_hear (l : Ledger κ) (listener : Listener) (delivery : Delivery Fault Value) :
    (l.hear listener delivery).stage.passes = l.stage.passes := by
  cases listener <;> rfl

theorem Fills.turned {other : Nat} {running : Running (Handler κ) Listener Arguments} {pass : Pass (Handler κ)}
    (found : l.stage.passes[other]? = some running) (turn? : Option (Turn (Handler κ) Fault)) {number future : Nat}
    (fills : l.Fills number future) : (l.turned other running pass turn?).Fills number future := by
  have set : (l.setPass other running pass).Fills number future := fills.setPass found
  cases turn? with
  | none => exact set
  | some turn =>
    cases turn with
    | ask span pattern hash => exact set
    | settle outcome =>
      unfold Fills
      rw [Ledger.turned, stage_passes_hear]
      exact set

/-- What a pass fills stays the same for good. -/
theorem Step.fills {l' : Ledger κ} (step : Step l l') {number future : Nat} (fills : l.Fills number future) :
    l'.Fills number future := by
  cases step with
  | act host heard => exact fills
  | openFuture => exact fills
  | ask free => exact fills
  | begin segments arguments free => exact fills.addPass.turned found_addPass _
  | handIn span delivery found => exact fills.turned found _
  | raise span failure found => exact fills.turned found _
  | deliver delivery asked => exact fills
  | escape fault asked pending => exact fills

theorem Steps.fills {l' : Ledger κ} (steps : Steps l l') {number future : Nat} (fills : l.Fills number future) :
    l'.Fills number future := by
  induction steps with
  | refl => exact fills
  | tail _ step ih => exact step.fills ih

end Ledger

end Stencil
