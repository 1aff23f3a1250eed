import Mathlib.Logic.Relation
import Stencil.Rendering.Exchange

/-! The exchange between renderings and the code around them, one step at a time.

Between two steps some code of the surroundings is at work: a handler that was asked for a span, a
callback that was called, or whoever started it all. It may change the world, start passes, hand in
deliveries for any span that was asked for, and return; a handler may raise a fault instead. Nothing
else is assumed of it. What a pass does in between is what passes do, and the history keeps what was
seen of it from outside.
-/

set_option autoImplicit false

namespace Stencil.Rendering

open Pattern (Segment)

variable {σ η ε ν κ α : Type}

/-- What is seen of renderings from outside. -/
inductive Event (η ε : Type) where
  | begun (pass : Nat) (segments : List (Segment η))
  | asked (ticket : Ticket η)
  -- A delivery was handed in: a fault, or the text of a content.
  | answered (pass span : Nat) (reply : Except ε String)
  | garbled (pass span : Nat)
  -- A handler raised a fault; the failure is the report of it.
  | raised (pass span : Nat) (failure : ε)
  | heard (pass : Nat) (outcome : Except ε String)

/-- Code of the surroundings that was called and is still at work. -/
inductive Frame (η : Type) where
  | handler (ticket : Ticket η)
  | callback (pass : Nat)

def Turn.event (number : Nat) : Turn η ε → Event η ε
  | .ask span pattern hash => .asked ⟨number, span, pattern, hash⟩
  | .settle outcome => .heard number outcome

def Turn.frame (number : Nat) : Turn η ε → Frame η
  | .ask span pattern hash => .handler ⟨number, span, pattern, hash⟩
  | .settle _ => .callback number

/-- The reply in a delivery: a fault, or the text of its content, which may have none. -/
def Delivery.reply (write : ν → Except ε String) (delivery : Delivery ε ν) : Except ε (Except ε String) :=
  match delivery.error? with
  | some fault => .ok (.error fault)
  | none => (write delivery.content).map .ok

def Delivery.event (write : ν → Except ε String) (number span : Nat) (delivery : Delivery ε ν) : Event η ε :=
  match delivery.reply write with
  | .ok reply => .answered number span reply
  | .error _ => .garbled number span

/-- A floor with the code that is at work on it, the latest called first, and what was seen so far. -/
structure Conversation (σ η ε κ α : Type) where
  floor : Floor σ η κ α
  frames : List (Frame η)
  history : List (Event η ε)

namespace Conversation

/-- Note an event, and let a pass go on from a new state. -/
def note (c : Conversation σ η ε κ α) (event : Event η ε) (number : Nat) (running : Running η κ α) (pass : Pass η) :
    Conversation σ η ε κ α where
  floor := { c.floor with passes := c.floor.passes.set number { running with pass } }
  frames := c.frames
  history := c.history ++ [event]

def call (c : Conversation σ η ε κ α) (number : Nat) (turn : Turn η ε) : Conversation σ η ε κ α where
  floor := c.floor
  frames := turn.frame number :: c.frames
  history := c.history ++ [turn.event number]

/-- Add a pass for segments. -/
def start (c : Conversation σ η ε κ α) (segments : List (Segment η)) (pass : Pass η) (callback : κ) (arguments : α) :
    Conversation σ η ε κ α where
  floor := { c.floor with passes := c.floor.passes ++ [⟨pass, callback, arguments⟩] }
  frames := c.frames
  history := c.history ++ [.begun c.floor.passes.length segments]

def begin (c : Conversation σ η ε κ α) (segments : List (Segment η)) (callback : κ) (arguments : α) :
    Conversation σ η ε κ α :=
  let (pass, turn) := Pass.start segments
  (c.start segments pass callback arguments).call c.floor.passes.length turn

/-- Hand in a delivery for a span. -/
def handIn (around : Surroundings σ η ε ν κ α) (c : Conversation σ η ε κ α) (running : Running η κ α)
    (number span : Nat) (delivery : Delivery ε ν) : Conversation σ η ε κ α :=
  let (pass, receipt) := running.pass.receive (around.write c.floor.world) span delivery
  let noted := c.note (delivery.event (around.write c.floor.world) number span) number running pass
  match receipt with
  | .turn turn => noted.call number turn
  | _ => noted

def raise (c : Conversation σ η ε κ α) (running : Running η κ α) (number span : Nat) (failure : ε) :
    Conversation σ η ε κ α :=
  let (pass, turn?) := running.pass.fail span failure
  let noted := c.note (.raised number span failure) number running pass
  match turn? with
  | some turn => noted.call number turn
  | none => noted

/-- What can happen next. -/
inductive Step (around : Surroundings σ η ε ν κ α) : Conversation σ η ε κ α → Conversation σ η ε κ α → Prop where
  | act (c : Conversation σ η ε κ α) (world : σ) : Step around c { c with floor := { c.floor with world } }
  | begin (c : Conversation σ η ε κ α) (segments : List (Segment η)) (callback : κ) (arguments : α) :
      Step around c (c.begin segments callback arguments)
  | handIn {c : Conversation σ η ε κ α} {ticket : Ticket η} {running : Running η κ α} (delivery : Delivery ε ν) :
      .asked ticket ∈ c.history → c.floor.passes[ticket.pass]? = some running →
      Step around c (c.handIn around running ticket.pass ticket.span delivery)
  | back {c : Conversation σ η ε κ α} {frame : Frame η} {frames : List (Frame η)} :
      c.frames = frame :: frames → Step around c { c with frames }
  | raise {c : Conversation σ η ε κ α} {ticket : Ticket η} {frames : List (Frame η)} {running : Running η κ α}
      (fault : ε) :
      c.frames = .handler ticket :: frames → c.floor.passes[ticket.pass]? = some running →
      Step around c (raise { c with frames } running ticket.pass ticket.span
        (around.blame ticket.pattern ticket.hash fault))

abbrev Steps (around : Surroundings σ η ε ν κ α) : Conversation σ η ε κ α → Conversation σ η ε κ α → Prop :=
  Relation.ReflTransGen (Step around)

/-- What can have happened since no pass was started and no code was at work. -/
def Reachable (around : Surroundings σ η ε ν κ α) (c : Conversation σ η ε κ α) : Prop :=
  ∃ world, Steps around ⟨⟨world, []⟩, [], []⟩ c

end Conversation

/-! Readings of a history. -/

namespace Event

def pass : Event η ε → Nat
  | .begun number _ => number
  | .asked ticket => ticket.pass
  | .answered number _ _ => number
  | .garbled number _ => number
  | .raised number _ _ => number
  | .heard number _ => number

/-- What a handler has made known of a span: a delivery, or the failure that it raised. -/
def reply? (number span : Nat) : Event η ε → Option (Except ε String)
  | .answered n s reply => if n = number ∧ s = span then some reply else none
  | .raised n s failure => if n = number ∧ s = span then some (.error failure) else none
  | _ => none

def ticket? (number : Nat) : Event η ε → Option (Ticket η)
  | .asked ticket => if ticket.pass = number then some ticket else none
  | _ => none

def outcome? (number : Nat) : Event η ε → Option (Except ε String)
  | .heard n outcome => if n = number then some outcome else none
  | _ => none

end Event

-- What a handler has made known first of a span.
def firstReply (history : List (Event η ε)) (number span : Nat) : Option (Except ε String) :=
  history.findSome? (Event.reply? number span)

def asks (history : List (Event η ε)) (number : Nat) : List (Ticket η) :=
  history.filterMap (Event.ticket? number)

/-- What the callback of a pass was called with, in order. -/
def outcomes (history : List (Event η ε)) (number : Nat) : List (Except ε String) :=
  history.filterMap (Event.outcome? number)

def spanCount : List (Segment η) → Nat
  | [] => 0
  | .literal _ :: rest => spanCount rest
  | .span _ _ :: rest => spanCount rest + 1

def tickets (number : Nat) : Nat → List (Segment η) → List (Ticket η)
  | _, [] => []
  | first, .literal _ :: rest => tickets number first rest
  | first, .span pattern hash :: rest => ⟨number, first, pattern, hash⟩ :: tickets number (first + 1) rest

-- The text of segments whose spans, numbered from a number on, have the given contents.
def assembled (reply : Nat → Option (Except ε String)) : Nat → List (Segment η) → Option String
  | _, [] => some ""
  | first, .literal text :: rest => (assembled reply first rest).map (String.ofList text ++ ·)
  | first, .span _ _ :: rest =>
    match reply first with
    | some (.ok text) => (assembled reply (first + 1) rest).map (text ++ ·)
    | _ => none

section Histories

variable {history : List (Event η ε)} {number span : Nat}

theorem firstReply_append (event : Event η ε) :
    firstReply (history ++ [event]) number span = (firstReply history number span).or (event.reply? number span) := by
  simp only [firstReply, List.findSome?_append, List.findSome?_cons, List.findSome?_nil]
  cases event.reply? number span <;> rfl

theorem asks_append (event : Event η ε) :
    asks (history ++ [event]) number = asks history number ++ (event.ticket? number).toList := by
  simp only [asks, List.filterMap_append, List.filterMap_cons, List.filterMap_nil]
  cases event.ticket? number <;> rfl

theorem outcomes_append (event : Event η ε) :
    outcomes (history ++ [event]) number = outcomes history number ++ (event.outcome? number).toList := by
  simp only [outcomes, List.filterMap_append, List.filterMap_cons, List.filterMap_nil]
  cases event.outcome? number <;> rfl

theorem mem_asks {ticket : Ticket η} : ticket ∈ asks history number ↔ .asked ticket ∈ history ∧ ticket.pass = number := by
  simp only [asks, List.mem_filterMap]
  constructor
  · rintro ⟨event, among, reads⟩
    cases event with
    | asked asked =>
      simp only [Event.ticket?, Option.ite_none_right_eq_some, Option.some.injEq] at reads
      obtain ⟨same, rfl⟩ := reads
      exact ⟨among, same⟩
    | _ => simp [Event.ticket?] at reads
  · rintro ⟨among, rfl⟩
    exact ⟨_, among, by simp [Event.ticket?]⟩

/-- A reply that comes later than the first one of its span is not the first of any span. -/
theorem firstReply_later {event : Event η ε} (answered : (firstReply history number span).isSome)
    (about : ∀ other, event.reply? number other ≠ none → other = span) :
    firstReply (history ++ [event]) number = firstReply history number := by
  funext other
  rw [firstReply_append]
  by_cases same : other = span
  · rw [same]
    exact Option.or_of_isSome answered
  · by_cases silent : event.reply? number other = none
    · rw [silent, Option.or_none]
    · exact absurd (about other silent) same

end Histories

section Segments

variable {number : Nat}

@[simp] theorem spanCount_append (before after : List (Segment η)) :
    spanCount (before ++ after) = spanCount before + spanCount after := by
  induction before with
  | nil => simp [spanCount]
  | cons segment rest ih =>
    cases segment with
    | literal text => simp [spanCount, ih]
    | span pattern hash =>
      simp only [List.cons_append, spanCount, ih]
      omega

theorem tickets_append (first : Nat) (before after : List (Segment η)) :
    tickets number first (before ++ after) =
      tickets number first before ++ tickets number (first + spanCount before) after := by
  induction before generalizing first with
  | nil => rfl
  | cons segment rest ih =>
    cases segment with
    | literal text => exact ih first
    | span pattern hash =>
      simp only [List.cons_append, tickets, ih, spanCount]
      rw [Nat.add_right_comm, Nat.add_assoc]

theorem span_lt_of_mem_tickets {first : Nat} {segments : List (Segment η)} {ticket : Ticket η}
    (among : ticket ∈ tickets number first segments) : ticket.span < first + spanCount segments := by
  induction segments generalizing first with
  | nil => simp [tickets] at among
  | cons segment rest ih =>
    cases segment with
    | literal text => exact ih among
    | span pattern hash =>
      simp only [tickets, List.mem_cons] at among
      simp only [spanCount]
      rcases among with rfl | later
      · simp only
        omega
      · have := ih later
        omega

variable {reply reply' : Nat → Option (Except ε String)}

theorem assembled_append (first : Nat) (before after : List (Segment η)) :
    assembled reply first (before ++ after) =
      (assembled reply first before).bind fun text =>
        (assembled reply (first + spanCount before) after).map (text ++ ·) := by
  induction before generalizing first with
  | nil => simp [assembled, spanCount]
  | cons segment rest ih =>
    cases segment with
    | literal text =>
      simp only [List.cons_append, assembled, ih, spanCount]
      cases assembled reply first rest <;> simp [Option.map_map, Function.comp_def, String.append_assoc]
    | span pattern hash =>
      simp only [List.cons_append, assembled, spanCount]
      cases reply first with
      | none => rfl
      | some content =>
        cases content with
        | error fault => rfl
        | ok text =>
          simp only [ih, Nat.add_assoc, Nat.add_comm 1]
          cases assembled reply (first + 1) rest <;>
            simp [Option.map_map, Function.comp_def, String.append_assoc]

theorem assembled_mono (grows : ∀ span content, reply span = some content → reply' span = some content)
    {first : Nat} {segments : List (Segment η)} {text : String} (known : assembled reply first segments = some text) :
    assembled reply' first segments = some text := by
  induction segments generalizing first text with
  | nil => exact known
  | cons segment rest ih =>
    cases segment with
    | literal lead =>
      simp only [assembled, Option.map_eq_some_iff] at known ⊢
      obtain ⟨tail, later, rfl⟩ := known
      exact ⟨tail, ih later, rfl⟩
    | span pattern hash =>
      simp only [assembled] at known ⊢
      split at known
      · rename_i content replied
        rw [grows first _ replied]
        simp only [Option.map_eq_some_iff] at known ⊢
        obtain ⟨tail, later, rfl⟩ := known
        exact ⟨tail, ih later, rfl⟩
      · cases known

theorem replied_of_assembled {first : Nat} {segments : List (Segment η)} {text : String}
    (known : assembled reply first segments = some text) {span : Nat} (later : first ≤ span)
    (inside : span < first + spanCount segments) : ∃ content, reply span = some (.ok content) := by
  induction segments generalizing first text with
  | nil =>
    simp only [spanCount] at inside
    omega
  | cons segment rest ih =>
    cases segment with
    | literal lead =>
      simp only [assembled, Option.map_eq_some_iff] at known
      obtain ⟨tail, known, -⟩ := known
      exact ih known later inside
    | span pattern hash =>
      simp only [assembled] at known
      split at known
      · rename_i content replied
        simp only [Option.map_eq_some_iff] at known
        obtain ⟨tail, known, -⟩ := known
        by_cases here : span = first
        · exact ⟨content, here ▸ replied⟩
        · simp only [spanCount] at inside
          exact ih known (by omega) (by omega)
      · cases known

end Segments

end Stencil.Rendering
