import Stencil.Proofs.Conversation

/-! Asynchronous rendering is sequential, whatever handlers do.

Of a pass, its state and the history tell the same: how far its template has been written, which span
it waits for, and whether its callback was called. `Follows` says how, and every step keeps it.
-/

set_option autoImplicit false

namespace Stencil.Rendering

open Pattern (Segment)

variable {σ η ε ν κ α : Type}

/-- What must hold when a span is asked for: all earlier spans gave a content first, and none failed. -/
structure AskedInTime (before : List (Event η ε)) (ticket : Ticket η) : Prop where
  contents : ∀ span < ticket.span, ∃ text, firstReply before ticket.pass span = some (.ok text)
  unfailed : ∀ span fault, firstReply before ticket.pass span ≠ some (.error fault)

/-- How the state of a pass over segments follows from the history. -/
inductive Follows (history : List (Event η ε)) (number : Nat) (segments : List (Segment η)) : Pass η → Prop where
  | awaiting {done rest : List (Segment η)} {pattern : Pattern η} {hash : List Char} {written : String} :
      segments = done ++ .span pattern hash :: rest →
      assembled (firstReply history number) 0 done = some written →
      (∀ span ≥ spanCount done, firstReply history number span = none) →
      asks history number = tickets number 0 (done ++ [.span pattern hash]) →
      outcomes history number = [] →
      Follows history number segments (.awaiting written (spanCount done) rest)
  | finished {text : String} :
      assembled (firstReply history number) 0 segments = some text →
      asks history number = tickets number 0 segments →
      outcomes history number = [.ok text] →
      Follows history number segments .settled
  | failed {done rest : List (Segment η)} {pattern : Pattern η} {hash : List Char} {written : String} {fault : ε} :
      segments = done ++ .span pattern hash :: rest →
      assembled (firstReply history number) 0 done = some written →
      firstReply history number (spanCount done) = some (.error fault) →
      (∀ span > spanCount done, firstReply history number span = none) →
      asks history number = tickets number 0 (done ++ [.span pattern hash]) →
      outcomes history number = [.error fault] →
      Follows history number segments .settled
  | stalled {span : Nat} : .garbled number span ∈ history → Follows history number segments .stalled

/-- What a pass makes of a reply to a span. -/
def Pass.take (pass : Pass η) (span : Nat) (reply : Except ε String) : Pass η × Option (Turn η ε) :=
  match pass with
  | .awaiting written asked rest =>
    if asked = span then
      match reply with
      | .error fault => (.settled, some (.settle (.error fault)))
      | .ok text =>
        let (next, turn) := Pass.advance (written ++ text) (span + 1) rest
        (next, some turn)
    else (pass, none)
  | pass => (pass, none)

theorem Pass.fail_eq_take (pass : Pass η) (span : Nat) (failure : ε) :
    pass.fail span failure = pass.take span (.error failure) := by
  cases pass <;> rfl

theorem Pass.receive_eq_take {write : ν → Except ε String} (pass : Pass η) (span : Nat) {delivery : Delivery ε ν}
    {reply : Except ε String} (legible : delivery.reply write = .ok reply) :
    pass.receive write span delivery =
      match pass.take span reply with
      | (next, some turn) => (next, .turn turn)
      | (next, none) => (next, .repeated) := by
  cases pass with
  | stalled | settled => rfl
  | awaiting written asked rest =>
    unfold Delivery.reply at legible
    unfold Pass.receive Pass.take
    by_cases here : asked = span
    · cases failed : delivery.error? with
      | some fault =>
        simp only [failed, Except.ok.injEq] at legible
        subst legible
        simp only [if_pos here]
      | none =>
        cases wrote : write delivery.content with
        | error fault => simp [failed, wrote, Except.map] at legible
        | ok text =>
          simp only [failed, wrote, Except.map, Except.ok.injEq] at legible
          subst legible
          simp only [if_pos here]
    · simp only [if_neg here]

theorem Pass.receive_of_illegible {write : ν → Except ε String} (pass : Pass η) (span : Nat) {delivery : Delivery ε ν}
    {fault : ε} (illegible : delivery.reply write = .error fault) :
    pass.receive write span delivery = (pass, .repeated) ∨
      ∃ fault, pass.receive write span delivery = (.stalled, .unwritable fault) := by
  cases pass with
  | stalled | settled => exact .inl rfl
  | awaiting written asked rest =>
    unfold Delivery.reply at illegible
    unfold Pass.receive
    by_cases here : asked = span
    · cases failed : delivery.error? with
      | some fault => simp [failed] at illegible
      | none =>
        cases wrote : write delivery.content with
        | error fault =>
          refine .inr ⟨fault, ?_⟩
          simp only [if_pos here]
        | ok text => simp [failed, wrote, Except.map] at illegible
    · exact .inl (if_neg here)

/-- An event that makes a reply to a span known, and nothing else. -/
structure Event.Replies (event : Event η ε) (number span : Nat) (reply : Except ε String) : Prop where
  replies : ∀ other, event.reply? number other = if span = other then some reply else none
  asks : event.ticket? number = none
  calls : event.outcome? number = none

theorem Event.replies_answered (number span : Nat) (reply : Except ε String) :
    (.answered number span reply : Event η ε).Replies number span reply where
  replies other := by simp [Event.reply?]
  asks := rfl
  calls := rfl

theorem Event.replies_raised (number span : Nat) (failure : ε) :
    (.raised number span failure : Event η ε).Replies number span (.error failure) where
  replies other := by simp [Event.reply?]
  asks := rfl
  calls := rfl

section Pass

variable {history : List (Event η ε)} {number : Nat} {segments : List (Segment η)}

/-- What a history says of a pass is all that counts. -/
theorem Follows.congr {pass : Pass η} (follows : Follows history number segments pass) {event : Event η ε}
    (replies : firstReply (history ++ [event]) number = firstReply history number)
    (asked : event.ticket? number = none) (called : event.outcome? number = none) :
    Follows (history ++ [event]) number segments pass := by
  have sameAsks : asks (history ++ [event]) number = asks history number := by
    rw [asks_append, asked, Option.toList_none, List.append_nil]
  have sameOutcomes : outcomes (history ++ [event]) number = outcomes history number := by
    rw [outcomes_append, called, Option.toList_none, List.append_nil]
  cases follows with
  | awaiting split written quiet order unheard =>
    exact .awaiting split (replies ▸ written) (replies ▸ quiet) (sameAsks ▸ order) (sameOutcomes ▸ unheard)
  | finished written order heard =>
    exact .finished (replies ▸ written) (sameAsks ▸ order) (sameOutcomes ▸ heard)
  | failed split written failed quiet order heard =>
    exact .failed split (replies ▸ written) (replies ▸ failed) (replies ▸ quiet) (sameAsks ▸ order)
      (sameOutcomes ▸ heard)
  | stalled garbled => exact .stalled (List.mem_append_left _ garbled)

/-- Events of other passes leave a pass alone. -/
theorem Follows.aside {pass : Pass η} (follows : Follows history number segments pass) {event : Event η ε}
    (other : event.pass ≠ number) : Follows (history ++ [event]) number segments pass := by
  apply follows.congr
  · funext span
    rw [firstReply_append]
    cases event <;> simp_all [Event.reply?, Event.pass]
  · cases event <;> simp_all [Event.ticket?, Event.pass]
  · cases event <;> simp_all [Event.outcome?, Event.pass]

theorem Follows.aside_all {pass : Pass η} (follows : Follows history number segments pass) {events : List (Event η ε)}
    (other : ∀ event ∈ events, event.pass ≠ number) : Follows (history ++ events) number segments pass := by
  induction events generalizing history with
  | nil => rwa [List.append_nil]
  | cons event rest ih =>
    rw [List.append_cons]
    exact ih (follows.aside (other event List.mem_cons_self)) fun event among => other event (List.mem_cons_of_mem _ among)

theorem firstReply_turn (turn : Turn η ε) :
    firstReply (history ++ [turn.event number]) number = firstReply history number := by
  funext span
  rw [firstReply_append]
  cases turn <;> simp [Turn.event, Event.reply?]

/-- Writing on up to the next span or the end is in order, and asks in time. -/
theorem follows_advance {done rest : List (Segment η)} {written : String} (split : segments = done ++ rest)
    (known : assembled (firstReply history number) 0 done = some written)
    (quiet : ∀ span ≥ spanCount done, firstReply history number span = none)
    (order : asks history number = tickets number 0 done) (unheard : outcomes history number = []) :
    Follows (history ++ [(Pass.advance written (spanCount done) rest : _ × Turn η ε).2.event number]) number segments
      (Pass.advance written (spanCount done) rest : _ × Turn η ε).1 ∧
    ∀ ticket, (Pass.advance written (spanCount done) rest : _ × Turn η ε).2.event number = .asked ticket →
      AskedInTime history ticket := by
  -- Literal text goes over to what is done, until a span or the end is reached and one event is noted.
  induction rest generalizing done written with
  | nil =>
    rw [List.append_nil] at split
    subst split
    constructor
    · apply Follows.finished
      · rw [firstReply_turn]
        exact known
      · rw [asks_append, order]
        simp [Pass.advance, Turn.event, Event.ticket?]
      · rw [outcomes_append, unheard]
        simp [Pass.advance, Turn.event, Event.outcome?]
    · intro ticket asked
      cases asked
  | cons segment rest ih =>
    cases segment with
    | literal text =>
      have further := @ih (done ++ [.literal text]) (written ++ String.ofList text) (by simp [split])
        (by simp [assembled_append, known, assembled]) (by simpa [spanCount] using quiet)
        (by simp [tickets_append, order, tickets])
      simpa [spanCount, Pass.advance] using further
    | span pattern hash =>
      constructor
      · apply Follows.awaiting split
        · rw [firstReply_turn]
          exact known
        · rw [firstReply_turn]
          exact quiet
        · rw [asks_append, order, tickets_append]
          simp [Pass.advance, Turn.event, Event.ticket?, tickets]
        · rw [outcomes_append, unheard]
          simp [Pass.advance, Turn.event, Event.outcome?]
      · intro ticket asked
        cases asked
        -- Spans in front gave contents, and of this span and later ones nothing was heard: none has failed.
        refine ⟨fun span early => replied_of_assembled known (Nat.zero_le _) (by simpa using early), ?_⟩
        intro span fault failed
        by_cases early : span < spanCount done
        · obtain ⟨text, replied⟩ := replied_of_assembled known (Nat.zero_le _) (by simpa using early)
          rw [replied] at failed
          cases failed
        · rw [quiet span (Nat.le_of_not_lt early)] at failed
          cases failed

/-- A pass of which nothing was seen but its start begins in order. -/
theorem follows_start (unseen : ∀ event ∈ history, event.pass = number → ∃ segments, event = .begun number segments) :
    Follows (history ++ [(Pass.start segments : _ × Turn η ε).2.event number]) number segments
      (Pass.start segments : _ × Turn η ε).1 ∧
    ∀ ticket, (Pass.start segments : _ × Turn η ε).2.event number = .asked ticket → AskedInTime history ticket := by
  -- Starts of the pass aside, the history is about others.
  have mute : ∀ event ∈ history, (∀ span, event.reply? number span = none) ∧ event.ticket? number = none ∧
      event.outcome? number = none := by
    intro event among
    by_cases own : event.pass = number
    · obtain ⟨segments, rfl⟩ := unseen event among own
      exact ⟨fun _ => rfl, rfl, rfl⟩
    · cases event <;> simp_all [Event.reply?, Event.ticket?, Event.outcome?, Event.pass]
  refine @follows_advance _ _ history number segments [] segments "" rfl rfl ?_ ?_ ?_
  · intro span _
    exact List.findSome?_eq_none_iff.2 fun event among => (mute event among).1 span
  · exact List.filterMap_eq_nil_iff.2 fun event among => (mute event among).2.1
  · exact List.filterMap_eq_nil_iff.2 fun event among => (mute event among).2.2

/-- A span that was asked for has been replied to, if the pass does not wait for it. -/
theorem Follows.replied {pass : Pass η} (follows : Follows history number segments pass) {ticket : Ticket η}
    (asked : ticket ∈ asks history number) :
    pass = .stalled ∨ (∃ written rest, pass = .awaiting written ticket.span rest) ∨
      (firstReply history number ticket.span).isSome := by
  cases follows with
  | stalled garbled => exact .inl rfl
  | @awaiting done rest pattern hash written split known quiet order unheard =>
    -- Only the last span that was asked for may lack a reply: the text written so far has all others in it.
    rw [order] at asked
    have inside := span_lt_of_mem_tickets asked
    simp only [spanCount_append, spanCount, Nat.zero_add] at inside
    by_cases here : ticket.span = spanCount done
    · exact .inr (.inl ⟨written, rest, by rw [here]⟩)
    · have before : ticket.span < 0 + spanCount done := by omega
      obtain ⟨content, replied⟩ := replied_of_assembled known (Nat.zero_le _) before
      exact .inr (.inr (by simp [replied]))
  | finished known order heard =>
    rw [order] at asked
    obtain ⟨content, replied⟩ := replied_of_assembled known (Nat.zero_le _) (span_lt_of_mem_tickets asked)
    exact .inr (.inr (by simp [replied]))
  | @failed done rest pattern hash written fault split known failed quiet order heard =>
    rw [order] at asked
    have inside := span_lt_of_mem_tickets asked
    simp only [spanCount_append, spanCount, Nat.zero_add] at inside
    by_cases here : ticket.span = spanCount done
    · exact .inr (.inr (by simp [here, failed]))
    · have before : ticket.span < 0 + spanCount done := by omega
      obtain ⟨content, replied⟩ := replied_of_assembled known (Nat.zero_le _) before
      exact .inr (.inr (by simp [replied]))

/-- A reply that the pass does not wait for changes nothing. -/
theorem Follows.repeated {pass pass' : Pass η} (follows : Follows history number segments pass) {span : Nat}
    {reply : Except ε String} {event : Event η ε} (replies : event.Replies number span reply) {ticket : Ticket η}
    (asked : ticket ∈ asks history number) (same : ticket.span = span)
    (taken : pass.take span reply = (pass', none)) : Follows (history ++ [event]) number segments pass' := by
  subst same
  rcases follows.replied asked with rfl | ⟨written, rest, rfl⟩ | answered
  · cases taken
    cases follows with
    | stalled garbled => exact .stalled (List.mem_append_left _ garbled)
  · cases reply <;> simp [Pass.take] at taken
  · have unchanged : pass' = pass := by
      cases pass with
      | awaiting written waited rest =>
        simp only [Pass.take] at taken
        split at taken
        · cases reply <;> simp at taken
        · exact (congrArg Prod.fst taken).symm
      | _ => exact (congrArg Prod.fst taken).symm
    rw [unchanged]
    refine follows.congr (firstReply_later answered ?_) replies.asks replies.calls
    intro other about
    rw [replies.replies] at about
    by_cases here : ticket.span = other
    · exact here.symm
    · exact absurd (if_neg here) about

/-- A reply that the pass waits for lets it go on in order, and ask in time. -/
theorem Follows.taken {pass pass' : Pass η} (follows : Follows history number segments pass) {span : Nat}
    {reply : Except ε String} {event : Event η ε} (replies : event.Replies number span reply) {turn : Turn η ε}
    (taken : pass.take span reply = (pass', some turn)) :
    Follows (history ++ [event] ++ [turn.event number]) number segments pass' ∧
      ∀ ticket, turn.event number = .asked ticket → AskedInTime (history ++ [event]) ticket := by
  cases follows with
  | finished | failed | stalled => cases taken
  | @awaiting done rest pattern hash written split known quiet order unheard =>
    simp only [Pass.take] at taken
    split at taken
    · rename_i here
      subst here
      -- Everything known of the pass stays true once the reply is noted; only the awaited span gains one.
      have read (other : Nat) : firstReply (history ++ [event]) number other =
          (firstReply history number other).or (if spanCount done = other then some reply else none) := by
        rw [firstReply_append, replies.replies]
      have known' : assembled (firstReply (history ++ [event]) number) 0 done = some written := by
        refine assembled_mono ?_ known
        intro other content replied
        rw [read, replied]
        rfl
      have quiet' : ∀ other > spanCount done, firstReply (history ++ [event]) number other = none := by
        intro other later
        rw [read, quiet other (Nat.le_of_lt later), if_neg (Nat.ne_of_lt later)]
        rfl
      have here' : firstReply (history ++ [event]) number (spanCount done) = some reply := by
        rw [read, quiet _ (Nat.le_refl _), if_pos rfl]
        rfl
      have order' : asks (history ++ [event]) number = tickets number 0 (done ++ [.span pattern hash]) := by
        rw [asks_append, replies.asks, Option.toList_none, List.append_nil, order]
      have unheard' : outcomes (history ++ [event]) number = [] := by
        rw [outcomes_append, replies.calls, unheard]
        rfl
      cases reply with
      | error fault =>
        cases taken
        constructor
        · apply Follows.failed split
          · rw [firstReply_turn]
            exact known'
          · rw [firstReply_turn]
            exact here'
          · rw [firstReply_turn]
            exact quiet'
          · rw [asks_append, order']
            simp [Turn.event, Event.ticket?]
          · rw [outcomes_append, unheard']
            simp [Turn.event, Event.outcome?]
        · intro ticket asked
          cases asked
      | ok text =>
        have advanced := @follows_advance _ _ (history ++ [event]) number segments (done ++ [.span pattern hash]) rest
          (written ++ text) (by simp [split]) (by simp [assembled_append, known', assembled, here'])
          (by simpa [spanCount, Nat.succ_le_iff] using quiet') order' unheard'
        simp only [Prod.mk.injEq, Option.some.injEq] at taken
        obtain ⟨rfl, rfl⟩ := taken
        simpa [spanCount] using advanced
    · cases taken

end Pass

/-- Every span of a history was asked for in time. -/
def Patient (history : List (Event η ε)) : Prop :=
  ∀ before ticket after, history = before ++ .asked ticket :: after → AskedInTime before ticket

theorem Patient.append {history : List (Event η ε)} (patient : Patient history) {event : Event η ε}
    (timely : ∀ ticket, event = .asked ticket → AskedInTime history ticket) : Patient (history ++ [event]) := by
  intro before ticket after split
  rcases List.eq_nil_or_concat after with rfl | ⟨after, last, rfl⟩
  · obtain ⟨rfl, same⟩ := List.append_inj' split rfl
    exact timely ticket (List.singleton_inj.1 same)
  · rw [List.concat_eq_append, ← List.cons_append, ← List.append_assoc] at split
    obtain ⟨rfl, -⟩ := List.append_inj' split rfl
    exact patient before ticket after rfl

namespace Conversation

/-- What holds of every conversation. -/
structure Invariant (c : Conversation σ η ε κ α) : Prop where
  follows : ∀ number segments, .begun number segments ∈ c.history →
    ∃ running, c.floor.passes[number]? = some running ∧ Follows c.history number segments running.pass
  begun : ∀ number running, c.floor.passes[number]? = some running → ∃ segments, .begun number segments ∈ c.history
  known : ∀ event ∈ c.history, event.pass < c.floor.passes.length
  framed : ∀ ticket, .handler ticket ∈ c.frames → .asked ticket ∈ c.history
  patient : Patient c.history

variable {c : Conversation σ η ε κ α}

theorem invariant_start (world : σ) : Invariant (⟨⟨world, []⟩, [], []⟩ : Conversation σ η ε κ α) where
  follows number segments begun := by cases begun
  begun number running found := by simp at found
  known event among := by cases among
  framed ticket among := by cases among
  patient before ticket after split := by simp at split

theorem Invariant.act (kept : c.Invariant) (world : σ) : Invariant { c with floor := { c.floor with world } } :=
  ⟨kept.follows, kept.begun, kept.known, kept.framed, kept.patient⟩

theorem Invariant.back (kept : c.Invariant) {frame : Frame η} {frames : List (Frame η)}
    (top : c.frames = frame :: frames) : Invariant { c with frames } :=
  ⟨kept.follows, kept.begun, kept.known, fun ticket among => kept.framed ticket (top ▸ List.mem_cons_of_mem _ among),
    kept.patient⟩

/-- One pass may go on, or start, while events of its own are noted. -/
theorem Invariant.extend (kept : c.Invariant) {c' : Conversation σ η ε κ α} {number : Nat} {running : Running η κ α}
    {events : List (Event η ε)} (here : c'.floor.passes[number]? = some running)
    (others : ∀ other, other ≠ number → c'.floor.passes[other]? = c.floor.passes[other]?)
    (history : c'.history = c.history ++ events) (own : ∀ event ∈ events, event.pass = number)
    (begun : ∃ segments, .begun number segments ∈ c'.history)
    (goesOn : ∀ segments, .begun number segments ∈ c'.history → Follows c'.history number segments running.pass)
    (framed : ∀ ticket, .handler ticket ∈ c'.frames → .asked ticket ∈ c'.history) (patient : Patient c'.history) :
    c'.Invariant where
  follows other segments started := by
    by_cases same : other = number
    · subst same
      exact ⟨running, here, goesOn segments started⟩
    · rw [history] at started ⊢
      rcases List.mem_append.1 started with before | later
      · obtain ⟨running', found, follows⟩ := kept.follows other segments before
        refine ⟨running', (others other same).trans found, follows.aside_all ?_⟩
        intro event among
        rw [own event among]
        exact Ne.symm same
      · exact absurd (own _ later) same
  begun other running' found := by
    by_cases same : other = number
    · subst same
      exact begun
    · rw [others other same] at found
      obtain ⟨segments, before⟩ := kept.begun other running' found
      exact ⟨segments, history ▸ List.mem_append_left _ before⟩
  known event among := by
    by_cases same : event.pass = number
    · rw [same]
      exact (List.getElem?_eq_some_iff.1 here).1
    · rw [history] at among
      rcases List.mem_append.1 among with before | later
      · have found := List.getElem?_eq_getElem (kept.known event before)
        rw [← others _ same] at found
        exact (List.getElem?_eq_some_iff.1 found).1
      · exact absurd (own event later) same
  framed := framed
  patient := patient

/-- A pass that was started may go on while events of its own are noted. -/
theorem Invariant.goOn (kept : c.Invariant) {c' : Conversation σ η ε κ α} {number : Nat} {running : Running η κ α}
    (found : c.floor.passes[number]? = some running) {pass : Pass η} {events : List (Event η ε)}
    (passes : c'.floor.passes = c.floor.passes.set number { running with pass })
    (history : c'.history = c.history ++ events) (own : ∀ event ∈ events, event.pass = number)
    (started : ∀ segments, .begun number segments ∉ events)
    (goesOn : ∀ segments, Follows c.history number segments running.pass → Follows c'.history number segments pass)
    (framed : ∀ ticket, .handler ticket ∈ c'.frames → .asked ticket ∈ c'.history) (patient : Patient c'.history) :
    c'.Invariant := by
  obtain ⟨segments, begun⟩ := kept.begun number running found
  have here : c'.floor.passes[number]? = some { running with pass } := by
    rw [passes, List.getElem?_set_self (List.getElem?_eq_some_iff.1 found).1]
  refine kept.extend here ?_ history own ⟨segments, history ▸ List.mem_append_left _ begun⟩ ?_ framed patient
  · intro other different
    rw [passes, List.getElem?_set_ne (Ne.symm different)]
  · intro segments' begun'
    rw [history] at begun'
    rcases List.mem_append.1 begun' with before | later
    · obtain ⟨running', found', follows⟩ := kept.follows number segments' before
      rw [found, Option.some.injEq] at found'
      subst found'
      exact goesOn segments' follows
    · exact absurd later (started segments')

theorem Turn.event_pass (number : Nat) (turn : Turn η ε) : (turn.event number).pass = number := by
  cases turn <;> rfl

theorem Turn.event_ne_begun (number : Nat) (turn : Turn η ε) (other : Nat) (segments : List (Segment η)) :
    turn.event number ≠ .begun other segments := by
  intro same
  cases turn <;> cases same

/-- A call is framed by the event of its own. -/
theorem framed_call {number : Nat} {turn : Turn η ε}
    (framed : ∀ ticket, .handler ticket ∈ c.frames → .asked ticket ∈ c.history) (ticket : Ticket η)
    (among : .handler ticket ∈ (c.call number turn).frames) : .asked ticket ∈ (c.call number turn).history := by
  rcases List.mem_cons.1 among with top | below
  · cases turn with
    | ask span pattern hash =>
      cases top
      exact List.mem_append_right _ List.mem_cons_self
    | settle outcome => cases top
  · exact List.mem_append_left _ (framed ticket below)

/-- What a reply to a span comes to, be it handed in or raised. -/
def afterReply (c : Conversation σ η ε κ α) (event : Event η ε) (number : Nat) (running : Running η κ α) :
    Pass η × Option (Turn η ε) → Conversation σ η ε κ α
  | (pass, some turn) => (c.note event number running pass).call number turn
  | (pass, none) => c.note event number running pass

theorem Invariant.afterReply (kept : c.Invariant) {ticket : Ticket η} (asked : .asked ticket ∈ c.history)
    {running : Running η κ α} (found : c.floor.passes[ticket.pass]? = some running) {event : Event η ε}
    {reply : Except ε String} (replies : event.Replies ticket.pass ticket.span reply) (own : event.pass = ticket.pass)
    (later : ∀ segments, event ≠ .begun ticket.pass segments) (silent : ∀ ticket, event ≠ .asked ticket) :
    (c.afterReply event ticket.pass running (running.pass.take ticket.span reply)).Invariant := by
  have patient : Patient (c.history ++ [event]) := kept.patient.append fun ticket same => absurd same (silent ticket)
  have framed : ∀ ticket, .handler ticket ∈ c.frames → .asked ticket ∈ c.history ++ [event] :=
    fun ticket among => List.mem_append_left _ (kept.framed ticket among)
  have asking : ticket ∈ asks c.history ticket.pass := mem_asks.2 ⟨asked, rfl⟩
  cases taken : running.pass.take ticket.span reply with
  | mk pass turn? =>
    cases turn? with
    | none =>
      -- The pass does not wait for this span: it stays, and the event is of no consequence.
      refine kept.goOn found rfl rfl ?_ ?_ ?_ framed patient
      · intro other among
        rw [List.mem_singleton.1 among, own]
      · intro segments among
        exact later segments (List.mem_singleton.1 among).symm
      · intro segments follows
        exact follows.repeated replies asking rfl taken
    | some turn =>
      -- The pass goes on, and calls at once for what it wants next: two events in one step.
      obtain ⟨segments, begun⟩ := kept.begun _ _ found
      obtain ⟨running', found', follows⟩ := kept.follows _ _ begun
      rw [found, Option.some.injEq] at found'
      subst found'
      have timely := (follows.taken replies taken).2
      have history : ((c.note event ticket.pass running pass).call ticket.pass turn).history =
          c.history ++ [event, turn.event ticket.pass] := by simp [call, note]
      apply kept.goOn found rfl history
      · intro other among
        rcases List.mem_cons.1 among with rfl | last
        · exact own
        · rw [List.mem_singleton.1 last]
          exact Turn.event_pass _ _
      · intro segments among
        rcases List.mem_cons.1 among with same | last
        · exact later segments same.symm
        · exact Turn.event_ne_begun _ _ _ _ (List.mem_singleton.1 last).symm
      · intro segments follows
        exact (follows.taken replies taken).1
      · exact framed_call framed
      · exact patient.append timely

theorem handIn_eq_afterReply (around : Surroundings σ η ε ν κ α) (running : Running η κ α) (number span : Nat)
    {delivery : Delivery ε ν} {reply : Except ε String}
    (legible : delivery.reply (around.write c.floor.world) = .ok reply) :
    c.handIn around running number span delivery =
      c.afterReply (.answered number span reply) number running (running.pass.take span reply) := by
  have event : delivery.event (around.write c.floor.world) number span = (.answered number span reply : Event η ε) := by
    simp only [Delivery.event, legible]
  unfold Conversation.handIn
  rw [event, Pass.receive_eq_take _ _ legible]
  cases running.pass.take span reply with
  | mk pass turn? => cases turn? <;> rfl

theorem raise_eq_afterReply (running : Running η κ α) (number span : Nat) (failure : ε) :
    c.raise running number span failure =
      c.afterReply (.raised number span failure) number running (running.pass.take span (.error failure)) := by
  unfold Conversation.raise
  rw [Pass.fail_eq_take]
  cases running.pass.take span (.error failure) with
  | mk pass turn? => cases turn? <;> rfl

/-- A content without a text stalls the pass that waits for it, and no other. -/
theorem Invariant.garbled (kept : c.Invariant) (around : Surroundings σ η ε ν κ α) {running : Running η κ α}
    {number : Nat} (found : c.floor.passes[number]? = some running) (span : Nat) {delivery : Delivery ε ν} {fault : ε}
    (illegible : delivery.reply (around.write c.floor.world) = .error fault) :
    (c.handIn around running number span delivery).Invariant := by
  have event : delivery.event (around.write c.floor.world) number span = (.garbled number span : Event η ε) := by
    simp only [Delivery.event, illegible]
  obtain ⟨pass, left, noted⟩ : ∃ pass, (pass = running.pass ∨ pass = .stalled) ∧
      c.handIn around running number span delivery = c.note (.garbled number span) number running pass := by
    unfold Conversation.handIn
    rw [event]
    rcases running.pass.receive_of_illegible span illegible with same | ⟨fault, stalls⟩
    · rw [same]
      exact ⟨running.pass, .inl rfl, rfl⟩
    · rw [stalls]
      exact ⟨.stalled, .inr rfl, rfl⟩
  rw [noted]
  refine kept.goOn found rfl rfl ?_ ?_ ?_ ?_ (kept.patient.append fun ticket same => by cases same)
  · intro other among
    rw [List.mem_singleton.1 among]
    rfl
  · intro segments among
    cases List.mem_singleton.1 among
  · intro segments follows
    rcases left with rfl | rfl
    · refine follows.congr ?_ rfl rfl
      funext other
      rw [firstReply_append]
      exact Option.or_none
    · exact .stalled (List.mem_append_right _ List.mem_cons_self)
  · intro ticket among
    exact List.mem_append_left _ (kept.framed ticket among)

theorem Invariant.handIn (kept : c.Invariant) (around : Surroundings σ η ε ν κ α) {ticket : Ticket η}
    (asked : .asked ticket ∈ c.history) {running : Running η κ α}
    (found : c.floor.passes[ticket.pass]? = some running) (delivery : Delivery ε ν) :
    (c.handIn around running ticket.pass ticket.span delivery).Invariant := by
  cases legible : delivery.reply (around.write c.floor.world) with
  | error fault => exact kept.garbled around found ticket.span legible
  | ok reply =>
    rw [handIn_eq_afterReply around running ticket.pass ticket.span legible]
    apply kept.afterReply asked found (Event.replies_answered _ _ _) rfl
    · intro segments same
      cases same
    · intro other same
      cases same

theorem Invariant.raise (kept : c.Invariant) {ticket : Ticket η} (asked : .asked ticket ∈ c.history)
    {running : Running η κ α} (found : c.floor.passes[ticket.pass]? = some running) (failure : ε) :
    (c.raise running ticket.pass ticket.span failure).Invariant := by
  rw [raise_eq_afterReply]
  apply kept.afterReply asked found (Event.replies_raised _ _ _) rfl
  · intro segments same
    cases same
  · intro other same
    cases same

theorem Invariant.begin (kept : c.Invariant) (segments : List (Segment η)) (callback : κ) (arguments : α) :
    (c.begin segments callback arguments).Invariant := by
  let number := c.floor.passes.length
  let history := c.history ++ [.begun number segments]
  -- The pass takes the next number, so no earlier event is about it.
  have fresh : ∀ event ∈ c.history, event.pass ≠ number := fun event among => Nat.ne_of_lt (kept.known event among)
  have unseen : ∀ event ∈ history, event.pass = number → ∃ segments, event = .begun number segments := by
    intro event among own
    rcases List.mem_append.1 among with before | last
    · exact absurd own (fresh event before)
    · exact ⟨segments, List.mem_singleton.1 last⟩
  have starts := @follows_start _ _ history number segments unseen
  unfold Conversation.begin
  cases started : (Pass.start segments : Pass η × Turn η ε) with
  | mk pass turn =>
    rw [started] at starts
    have events : history ++ [turn.event number] = c.history ++ [.begun number segments, turn.event number] := by
      simp [history]
    have begun : .begun number segments ∈ history ++ [turn.event number] :=
      List.mem_append_left _ (List.mem_append_right _ List.mem_cons_self)
    refine kept.extend (List.getElem?_concat_length) ?_ events ?_ ⟨segments, begun⟩ ?_ ?_ ?_
    · intro other different
      rcases Nat.lt_or_gt_of_ne different with inside | outside
      · exact List.getElem?_append_left inside
      · rw [List.getElem?_eq_none (Nat.le_of_lt outside), List.getElem?_eq_none]
        simpa [call, start] using Nat.succ_le_of_lt outside
    · intro event among
      rcases List.mem_cons.1 among with rfl | last
      · rfl
      · rw [List.mem_singleton.1 last, Turn.event_pass]
    · intro segments' begun'
      rcases List.mem_append.1 begun' with before | last
      · rcases List.mem_append.1 before with old | new
        · exact absurd rfl (fresh _ old)
        · cases List.mem_singleton.1 new
          exact starts.1
      · exact absurd (List.mem_singleton.1 last).symm (Turn.event_ne_begun _ _ _ _)
    · exact framed_call fun ticket among => List.mem_append_left _ (kept.framed ticket among)
    · exact Patient.append (kept.patient.append fun ticket same => by cases same) starts.2

theorem Invariant.step {around : Surroundings σ η ε ν κ α} {c' : Conversation σ η ε κ α} (kept : c.Invariant)
    (step : Step around c c') : c'.Invariant := by
  cases step with
  | act world => exact kept.act world
  | begin segments callback arguments => exact kept.begin segments callback arguments
  | handIn delivery asked found => exact kept.handIn around asked found delivery
  | back top => exact kept.back top
  | raise fault top found =>
    exact (kept.back top).raise (kept.framed _ (top ▸ List.mem_cons_self)) found _

theorem Reachable.invariant {around : Surroundings σ η ε ν κ α} (reachable : Reachable around c) : c.Invariant := by
  obtain ⟨world, steps⟩ := reachable
  induction steps with
  | refl => exact invariant_start world
  | tail _ step ih => exact ih.step step

end Conversation

end Stencil.Rendering
