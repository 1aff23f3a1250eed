import Stencil.Proofs.Floor
import Stencil.Provider.Script

/-! Rendering at once, with a callback and with a future come to the same.

Where every handler answers at once with what it renders, a pass makes the render calls of rendering
in one go, in the same order and in the same worlds. Each span is asked for while its forerunner's
handler is still at work, so a fault goes back through all of them: it settles the pass at the span
that raised it, and the handlers of earlier spans, which have answered, let it through.
-/

set_option autoImplicit false

namespace Stencil.Rendering

open Pattern (Segment)

variable {σ η ε ν κ α : Type} {around : Surroundings σ η ε ν κ α} {render : Pattern η → List Char → Act σ ε ν}

/-- The handlers of segments answer at once with what they render. -/
def Prompt (around : Surroundings σ η ε ν κ α) (render : Pattern η → List Char → Act σ ε ν) (arguments : α)
    (segments : List (Segment η)) : Prop :=
  ∀ pattern hash, .span pattern hash ∈ segments → ∀ recipient,
    around.moves pattern.handler hash arguments recipient =
      [⟨do return some (recipient, ⟨none, ← render pattern hash⟩)⟩]

theorem Prompt.tail {arguments : α} {segment : Segment η} {rest : List (Segment η)}
    (prompt : Prompt around render arguments (segment :: rest)) : Prompt around render arguments rest :=
  fun pattern hash among => prompt pattern hash (List.mem_cons_of_mem segment among)

/-- A pass is over on a floor when it waits for no span any more. -/
def Over (number : Nat) (floor : Floor σ η κ α) : Prop :=
  ∃ running, floor.passes[number]? = some running ∧ (running.pass = .stalled ∨ running.pass = .settled)

-- No fault can be blamed on a span of a pass that is over.
theorem play_reproach_of_over {ticket : Ticket η} {floor : Floor σ η κ α} (isOver : Over ticket.pass floor)
    (fault : ε) : (reproach around ticket fault).play floor = (.error fault, floor) := by
  apply play_reproach_of_passed
  intro running found outcome
  obtain ⟨own, there, spent⟩ := isOver
  obtain rfl : running = own := Option.some.inj (found.symm.trans there)
  rcases spent with stalled | settled
  · simp [stalled, Pass.fail]
  · simp [settled, Pass.fail]

section Last

-- The pass that was begun last, on a floor where no other one begins meanwhile.
variable {arguments : α} {callback : κ} {passes : List (Running η κ α)} {world mid left : σ}

theorem over_last {pass : Pass η} (spent : pass = .stalled ∨ pass = .settled) :
    Over passes.length ⟨world, passes ++ [⟨pass, callback, arguments⟩]⟩ :=
  ⟨_, List.getElem?_concat_length, spent⟩

/-- The end of the last pass: it is settled with an outcome, and its callback is called. -/
def concluded (around : Surroundings σ η ε ν κ α) (callback : κ) (arguments : α) (outcome : Except ε String) (world : σ)
    (passes : List (Running η κ α)) : Except ε Unit × Floor σ η κ α :=
  (onWorld (around.hear callback (around.report outcome))).play ⟨world, passes ++ [⟨.settled, callback, arguments⟩]⟩

theorem over_concluded (outcome : Except ε String) :
    Over passes.length (concluded around callback arguments outcome world passes).2 :=
  over_last (.inr rfl)

theorem play_conclude_last (outcome : Except ε String) :
    (conclude around passes.length outcome).play ⟨world, passes ++ [⟨.settled, callback, arguments⟩]⟩ =
      concluded around callback arguments outcome world passes :=
  play_conclude List.getElem?_concat_length outcome

section Step

variable {span fuel : Nat} {pattern : Pattern η} {hash : List Char} {written : String} {rest : List (Segment η)}
  {content : ν} {ended : Except ε Unit × Floor σ η κ α}

/-- Asking a handler that answers at once hands its content in. -/
theorem play_follow_prompt
    (moves : ∀ recipient, around.moves pattern.handler hash arguments recipient =
      [⟨do return some (recipient, ⟨none, ← render pattern hash⟩)⟩])
    (rendered : (render pattern hash).play world = (.ok content, mid)) (isOver : Over passes.length ended.2)
    (handedIn : (handIn around (follow around fuel) (.span ⟨passes.length, span, pattern, hash⟩) ⟨none, content⟩).play
      ⟨mid, passes ++ [⟨.awaiting written span rest, callback, arguments⟩]⟩ = ended) :
    (follow around (fuel + 1) passes.length (.ask span pattern hash)).play
        ⟨world, passes ++ [⟨.awaiting written span rest, callback, arguments⟩]⟩ = ended := by
  simp only [follow, Act.play_bind, play_passAt?, List.getElem?_concat_length, Act.play_recovering, moves, makeMoves,
    play_onWorld, rendered, Act.play_pure, handedIn]
  -- The pass is over by now, so a fault that comes back is not taken for the handler's own.
  cases ended with
  | mk result floor =>
    cases result with
    | ok done => rfl
    | error fault => exact play_reproach_of_over isOver fault

/-- A span whose handler answers: the pass goes on inside the handler's call, and what comes back
goes through, be it a fault or not. -/
theorem play_follow_answered {text : String} {pass : Pass η} {turn : Turn η ε}
    (moves : ∀ recipient, around.moves pattern.handler hash arguments recipient =
      [⟨do return some (recipient, ⟨none, ← render pattern hash⟩)⟩])
    (rendered : (render pattern hash).play world = (.ok content, mid)) (wrote : around.write mid content = .ok text)
    (onward : Pass.advance (written ++ text) (span + 1) rest = (pass, turn)) (isOver : Over passes.length ended.2)
    (ends : (follow around fuel passes.length turn).play ⟨mid, passes ++ [⟨pass, callback, arguments⟩]⟩ = ended) :
    (follow around (fuel + 1) passes.length (.ask span pattern hash)).play
        ⟨world, passes ++ [⟨.awaiting written span rest, callback, arguments⟩]⟩ = ended := by
  apply play_follow_prompt moves rendered isOver
  have received : (Pass.awaiting written span rest).receive (around.write mid) span ⟨none, content⟩ =
      (pass, .turn turn) := by
    simp only [Pass.receive, if_true, wrote, onward]
  refine (play_handIn_span List.getElem?_concat_length received).trans ?_
  rw [set_concat_length]
  exact ends

/-- A span whose handler answers a content without a text: the pass stalls, and the fault goes through. -/
theorem play_follow_unwritable {fault : ε}
    (moves : ∀ recipient, around.moves pattern.handler hash arguments recipient =
      [⟨do return some (recipient, ⟨none, ← render pattern hash⟩)⟩])
    (rendered : (render pattern hash).play world = (.ok content, left))
    (unwritten : around.write left content = .error fault) :
    (follow around (fuel + 1) passes.length (.ask span pattern hash)).play
        ⟨world, passes ++ [⟨.awaiting written span rest, callback, arguments⟩]⟩ =
      (.error fault, ⟨left, passes ++ [⟨.stalled, callback, arguments⟩]⟩) := by
  apply play_follow_prompt moves rendered (over_last (.inl rfl))
  have received : (Pass.awaiting written span rest).receive (around.write left) span ⟨none, content⟩ =
      (.stalled, .unwritable fault) := by
    simp only [Pass.receive, if_true, unwritten]
  refine (play_handIn_span List.getElem?_concat_length received).trans ?_
  rw [set_concat_length]
  rfl

/-- A span whose handler fails: the fault settles the pass. -/
theorem play_follow_failed {fault : ε} {noted : σ}
    (moves : ∀ recipient, around.moves pattern.handler hash arguments recipient =
      [⟨do return some (recipient, ⟨none, ← render pattern hash⟩)⟩])
    (failed : (render pattern hash).play world = (.error fault, left))
    (notes : (around.noteFault pattern hash fault).play left = (.ok (), noted)) :
    (follow around (fuel + 1) passes.length (.ask span pattern hash)).play
        ⟨world, passes ++ [⟨.awaiting written span rest, callback, arguments⟩]⟩ =
      concluded around callback arguments (.error (around.blame pattern hash fault)) noted passes := by
  simp only [follow, Act.play_bind, play_passAt?, List.getElem?_concat_length, Act.play_recovering, moves, makeMoves,
    play_onWorld, failed]
  have taken : (Pass.awaiting written span rest).fail span (around.blame pattern hash fault) =
      (.settled, some (.settle (.error (around.blame pattern hash fault)) : Turn η ε)) := if_pos rfl
  refine (play_reproach_of_settled List.getElem?_concat_length taken notes).trans ?_
  rw [set_concat_length]
  exact play_conclude_last _

end Step

/-- A pass goes through segments that can be rendered to what is behind them, and ends as it ends there. -/
theorem play_follow_through {front rest : List (Segment η)} {text : String} {ended : Except ε Unit × Floor σ η κ α}
    (prompt : Prompt around render arguments front)
    (done : (renderSegments around.write render front).play world = (.ok text, mid))
    (isOver : Over passes.length ended.2) {written : String} {span fuel : Nat}
    (enough : (front ++ rest).length ≤ fuel)
    (ends : ∀ span fuel pass turn, rest.length ≤ fuel → Pass.advance (written ++ text) span rest = (pass, turn) →
      (follow around fuel passes.length turn).play ⟨mid, passes ++ [⟨pass, callback, arguments⟩]⟩ = ended)
    {pass : Pass η} {turn : Turn η ε} (onward : Pass.advance written span (front ++ rest) = (pass, turn)) :
    (follow around fuel passes.length turn).play ⟨world, passes ++ [⟨pass, callback, arguments⟩]⟩ = ended := by
  induction front generalizing world text written span fuel pass turn with
  | nil =>
    simp only [renderSegments, Act.play_pure, Prod.mk.injEq, Except.ok.injEq] at done
    obtain ⟨rfl, rfl⟩ := done
    rw [String.append_empty] at ends
    exact ends span fuel pass turn enough onward
  | cons segment front ih =>
    -- What is rendered of the segments behind the first one, and what of the first one before.
    have behind {lead : String} {stopped : σ}
        (first : (renderSegments around.write render (segment :: front)).play world =
          (((renderSegments around.write render front).play stopped).1.map (lead ++ ·),
            ((renderSegments around.write render front).play stopped).2)) :
        ∃ more, text = lead ++ more ∧ (renderSegments around.write render front).play stopped = (.ok more, mid) := by
      rw [first, Prod.mk.injEq] at done
      cases result : ((renderSegments around.write render front).play stopped).1 with
      | error fault => simp [result, Except.map] at done
      | ok more =>
        simp only [result, Except.map, Except.ok.injEq] at done
        exact ⟨more, done.1.symm, Prod.ext result done.2⟩
    cases segment with
    | literal lead =>
      obtain ⟨more, rfl, further⟩ := behind (play_renderSegments_literal lead front world)
      rw [← String.append_assoc] at ends
      exact ih prompt.tail further (Nat.le_of_succ_le enough) ends onward
    | span pattern hash =>
      simp only [List.cons_append, Pass.advance, Prod.mk.injEq] at onward
      obtain ⟨rfl, rfl⟩ := onward
      rcases span_rendered_or_fails around.write render pattern hash world with
        ⟨content, lead, stopped, answered, wrote⟩ | ⟨fault, stopped, fails⟩
      · obtain ⟨more, rfl, further⟩ := behind (play_renderSegments_span answered wrote front)
        rw [← String.append_assoc] at ends
        cases fuel with
        | zero => simp at enough
        | succ fuel =>
          apply play_follow_answered (prompt pattern hash List.mem_cons_self) answered wrote rfl isOver
          exact ih prompt.tail further (Nat.le_of_succ_le_succ enough) ends rfl
      · rw [play_renderSegments_fails fails] at done
        cases done

/-- A new pass goes through segments that can be rendered, and ends as it ends behind them. -/
theorem play_begin_through {front rest : List (Segment η)} {text : String} {ended : Except ε Unit × Floor σ η κ α}
    (prompt : Prompt around render arguments front)
    (done : (renderSegments around.write render front).play world = (.ok text, mid))
    (isOver : Over passes.length ended.2)
    (ends : ∀ span fuel pass turn, rest.length ≤ fuel → Pass.advance text span rest = (pass, turn) →
      (follow around fuel passes.length turn).play ⟨mid, passes ++ [⟨pass, callback, arguments⟩]⟩ = ended) :
    (begin around (front ++ rest) callback arguments).play ⟨world, passes⟩ = ended := by
  rw [← @String.empty_append text] at ends
  cases onward : (Pass.advance "" 0 (front ++ rest) : Pass η × Turn η ε) with
  | mk pass turn =>
    have last := play_follow_through prompt done isOver
      (Nat.le_add_right (front ++ rest).length (Floor.remaining ⟨world, passes⟩)) ends onward
    simpa only [begin, Act.play_bind, Act.play_reading, Pass.start, onward, Act.play_changing] using last

/-- A pass over segments that can be rendered ends with their text. -/
theorem play_begin_of_done {segments : List (Segment η)} {text : String}
    (prompt : Prompt around render arguments segments)
    (done : (renderSegments around.write render segments).play world = (.ok text, left)) :
    (begin around segments callback arguments).play ⟨world, passes⟩ =
      concluded around callback arguments (.ok text) left passes := by
  rw [← List.append_nil segments]
  apply play_begin_through prompt done (over_concluded _)
  intro span fuel pass turn _ onward
  cases onward
  rw [follow]
  exact play_conclude_last (.ok text)

section Stop

variable {before after : List (Segment η)} {pattern : Pattern η} {hash : List Char} {written : String} {fault : ε}

/-- A pass over segments of which one cannot be rendered ends with the failure that is reported for it. -/
theorem play_begin_of_failed {noted : σ}
    (prompt : Prompt around render arguments (before ++ .span pattern hash :: after))
    (done : (renderSegments around.write render before).play world = (.ok written, mid))
    (failed : (render pattern hash).play mid = (.error fault, left))
    (notes : (around.noteFault pattern hash fault).play left = (.ok (), noted)) :
    (begin around (before ++ .span pattern hash :: after) callback arguments).play ⟨world, passes⟩ =
      concluded around callback arguments (.error (around.blame pattern hash fault)) noted passes := by
  apply play_begin_through (fun other body among => prompt other body (List.mem_append_left _ among)) done
    (over_concluded _)
  intro span fuel pass turn enough onward
  cases onward
  cases fuel with
  | zero => simp at enough
  | succ fuel => exact play_follow_failed (prompt pattern hash List.mem_append_cons_self) failed notes

/-- A pass over segments of which one is rendered to a content without a text stalls there. -/
theorem play_begin_of_unwritable {content : ν}
    (prompt : Prompt around render arguments (before ++ .span pattern hash :: after))
    (done : (renderSegments around.write render before).play world = (.ok written, mid))
    (answered : (render pattern hash).play mid = (.ok content, left))
    (unwritten : around.write left content = .error fault) :
    (begin around (before ++ .span pattern hash :: after) callback arguments).play ⟨world, passes⟩ =
      (.error fault, ⟨left, passes ++ [⟨.stalled, callback, arguments⟩]⟩) := by
  apply play_begin_through (fun other body among => prompt other body (List.mem_append_left _ among)) done
    (over_last (.inl rfl))
  intro span fuel pass turn enough onward
  cases onward
  cases fuel with
  | zero => simp at enough
  | succ fuel => exact play_follow_unwritable (prompt pattern hash List.mem_append_cons_self) answered unwritten

end Stop

end Last

end Stencil.Rendering

namespace Stencil

open Rendering
open Pattern (Segment)

variable {κ : Type}

namespace House

variable {α β : Type}

theorem play_inHost (act : HostAct κ α) (host : Host κ) (audience : Audience) :
    (inHost act).play ⟨host, audience⟩ = ((act.play host).1, ⟨(act.play host).2, audience⟩) := rfl

theorem inHost_pure (a : α) : inHost (pure a : HostAct κ α) = pure a := rfl

theorem inHost_answering (work : Host κ → Outcome α) :
    inHost (Act.answering work : HostAct κ α) = Act.answering fun house => work house.host := rfl

theorem inHost_bind (act : HostAct κ α) (next : α → HostAct κ β) :
    inHost (act >>= next) = inHost act >>= fun a => inHost (next a) := by
  funext house
  change (inHost (act >>= next)).play house = (inHost act >>= fun a => inHost (next a)).play house
  rw [Act.play_bind]
  simp only [inHost, Act.play_within, Act.play_bind]
  cases act.play house.host with
  | mk result left => cases result <;> rfl

theorem play_completeFuture {house : House κ} {number : Nat} (pending : house.future number = .pending)
    (result : Outcome Value) :
    (completeFuture number result).play house =
      (.ok (), ⟨house.host, { house.audience with
        futures := house.audience.futures.set number (.ofResult result) }⟩) := by
  simp only [completeFuture, Act.play_bind, Act.play_reading, pending, Future.complete?]
  rfl

/-- Rendering in one go in the host of a house is rendering in one go in the house. -/
theorem inHost_renderSegments (handle : Pattern (Handler κ) → List Char → HostAct κ Value)
    (segments : List (Segment (Handler κ))) :
    inHost (renderSegments Host.writeContent handle segments) =
      renderSegments (fun house => house.host.writeContent) (fun pattern hash => inHost (handle pattern hash))
        segments := by
  induction segments with
  | nil => rfl
  | cons segment rest ih =>
    cases segment with
    | literal text => simp only [renderSegments, inHost_bind, inHost_pure, ih]
    | span pattern hash => simp only [renderSegments, inHost_bind, inHost_pure, inHost_answering, ih]

end House

/-- The behaviour in which every render call is kept, with its arguments, before it is made. -/
def Behaviour.recording (behaviour : Behaviour κ) : Behaviour κ :=
  .ofRender fun handler hash arguments => do
    Host.keepCall handler.serviceHash? (String.ofList hash) arguments
    behaviour.render handler hash arguments

namespace Host

/-- The registered handlers answer at once with what they render, as the base class does, and what
they render has a text. -/
structure AnswersAtOnce (behaviour : Behaviour κ) (arguments : Arguments) (host : Host κ) : Prop where
  moves : ∀ pattern ∈ host.table.patterns, ∀ hash recipient,
    behaviour.moves pattern.handler hash arguments recipient =
      answering (behaviour.render pattern.handler hash arguments) recipient
  written : ∀ pattern ∈ host.table.patterns, ∀ hash before content after,
    (behaviour.render pattern.handler hash arguments).play before = (.ok content, after) →
      ∃ text, after.writeContent content = .ok text

theorem AnswersAtOnce.recording {behaviour : Behaviour κ} {arguments : Arguments} {host : Host κ}
    (plain : host.AnswersAtOnce behaviour arguments) : host.AnswersAtOnce behaviour.recording arguments where
  moves _ _ _ _ := rfl
  written pattern registered hash before content after rendered := by
    simp only [Behaviour.recording, Behaviour.ofRender, Act.play_bind, keepCall, Act.play_changing] at rendered
    exact plain.written pattern registered hash _ content after rendered

/-- The registered handlers answer at once with what they render, as the base class does. -/
def Prompt (behaviour : Behaviour κ) (arguments : Arguments) (host : Host κ) : Prop :=
  ∀ pattern ∈ host.table.patterns, ∀ hash recipient,
    behaviour.moves pattern.handler hash arguments recipient =
      answering (behaviour.render pattern.handler hash arguments) recipient

theorem Prompt.inHouse {behaviour : Behaviour κ} {arguments : Arguments} {host : Host κ}
    (prompt : host.Prompt behaviour arguments) (text : String) :
    Rendering.Prompt (surroundings behaviour)
      (fun pattern hash => House.inHost (behaviour.render pattern.handler hash arguments)) arguments
      (host.segments text) := by
  intro pattern hash among recipient
  have registered := Pattern.Table.span_registered among
  simp only [surroundings, prompt pattern registered, answering, List.map_cons, List.map_nil, Move.within]
  change [Move.mk (House.inHost _)] = _
  simp only [House.inHost_bind, House.inHost_pure]

/-- Rendering with a callback and rendering with a future end with an outcome and leave a host. -/
structure BothEnd (behaviour : Behaviour κ) (template : Value) (arguments : Arguments) (stage : Stage κ)
    (outcome : Outcome String) (left : Host κ) : Prop where
  -- A callback is called once with the outcome, in the host that is left, and then nothing
  -- happens any more; what it raises is raised.
  called : ∀ listener, (renderTemplateWith behaviour template listener arguments).play stage =
    (onWorld (House.hear listener (outcomeDelivery outcome))).play
      ⟨⟨left, stage.world.audience⟩, stage.passes ++ [⟨.settled, listener, arguments⟩]⟩
  -- A callback that keeps what it hears hears the outcome once.
  heard : ∀ label, ∃ house passes,
    (renderTemplateWith behaviour template (.journal label none) arguments).play stage = (.ok (), ⟨house, passes⟩) ∧
    house.host = left ∧ house.audience.heard = stage.world.audience.heard ++ [⟨label, outcomeDelivery outcome⟩]
  -- The future is done with the outcome when it is returned.
  future : ∃ future house passes,
    (renderTemplateFuture behaviour template arguments).play stage = (.ok future, ⟨house, passes⟩) ∧
    house.host = left ∧ house.future future = .ofResult (outcome.map Value.text)

/-- A failure that reports the fault that a span's handler has raised. -/
def ReportsSpan (failure : Fault) (pattern : Pattern (Handler κ)) (hash : List Char) (cause : Fault) : Prop :=
  ∃ error, failure = .render error (some cause) ∧ error.code = .providerError ∧
    Entries.get? error.details "template_hash" = some (.text (String.ofList hash)) ∧
    Entries.get? error.details "start" = some (.text (String.ofList pattern.opening.val))

/-- Rendering a template with a callback or with a future agrees with rendering it at once. -/
structure Agree (behaviour : Behaviour κ) (template : Value) (arguments : Arguments) (stage : Stage κ) : Prop where
  done : ∀ text left, (renderTemplate behaviour template arguments).play stage.host = (.ok text, left) →
    BothEnd behaviour template arguments stage (.ok text) left
  failed : ∀ fault left text, (renderTemplate behaviour template arguments).play stage.host = (.error fault, left) →
    stage.host.writeContent template = .ok text →
    ∃ before pattern hash after written mid failure,
      stage.host.segments text = before ++ .span pattern hash :: after ∧
      (renderSegments writeContent (fun pattern hash => behaviour.render pattern.handler hash arguments) before).play
        stage.host = (.ok written, mid) ∧
      (behaviour.render pattern.handler hash arguments).play mid = (.error fault, left) ∧
      ReportsSpan failure pattern hash fault ∧
      BothEnd behaviour template arguments stage (.error failure) ((noteFault pattern hash fault).play left).2
  unreadable : ∀ fault, stage.host.writeContent template = .error fault →
    (renderTemplate behaviour template arguments).play stage.host = (.error fault, stage.host) ∧
    (∀ listener, (renderTemplateWith behaviour template listener arguments).play stage = (.error fault, stage)) ∧
    ((renderTemplateFuture behaviour template arguments).play stage).1 = .error fault

theorem reportsSpan_blame (pattern : Pattern (Handler κ)) (hash : List Char) (fault : Fault) :
    ReportsSpan (blame pattern hash fault) pattern hash fault :=
  ⟨_, rfl, rfl, rfl, rfl⟩

theorem play_renderTemplate {behaviour : Behaviour κ} {template : Value} {arguments : Arguments} {host : Host κ}
    {text : String} (reads : host.writeContent template = .ok text) :
    (renderTemplate behaviour template arguments).play host =
      (renderSegments writeContent (fun pattern hash => behaviour.render pattern.handler hash arguments)
        (host.segments text)).play host := by
  simp only [renderTemplate, Act.play_bind, Act.play_answering, reads, Act.play_reading]

theorem play_renderTemplateWith {behaviour : Behaviour κ} {template : Value} {listener : Listener}
    {arguments : Arguments} {host : Host κ} {text : String} (reads : host.writeContent template = .ok text)
    (audience : Audience) (passes : List (Running (Handler κ) Listener Arguments)) :
    (renderTemplateWith behaviour template listener arguments).play ⟨⟨host, audience⟩, passes⟩ =
      (begin (surroundings behaviour) (host.segments text) listener arguments).play ⟨⟨host, audience⟩, passes⟩ := by
  simp only [renderTemplateWith, Act.play_bind, Act.play_answering, Stage.host, reads, Act.play_reading]

/-- It is enough to know how rendering with a callback ends. -/
theorem bothEnd_of_called {behaviour : Behaviour κ} {template : Value} {arguments : Arguments} {host left : Host κ}
    {outcome : Outcome String}
    (called : ∀ audience passes listener,
      (renderTemplateWith behaviour template listener arguments).play ⟨⟨host, audience⟩, passes⟩ =
        (onWorld (House.hear listener (outcomeDelivery outcome))).play
          ⟨⟨left, audience⟩, passes ++ [⟨.settled, listener, arguments⟩]⟩)
    (audience : Audience) (passes : List (Running (Handler κ) Listener Arguments)) :
    BothEnd behaviour template arguments ⟨⟨host, audience⟩, passes⟩ outcome left where
  called := called audience passes
  heard label := ⟨_, _, called audience passes (.journal label none), rfl, rfl⟩
  future := by
    have result : resultOf (outcomeDelivery outcome) = outcome.map Value.text := by cases outcome <;> rfl
    let opened : Audience := { audience with futures := audience.futures ++ [.pending] }
    let filled : Audience :=
      { opened with futures := opened.futures.set audience.futures.length (.ofResult (outcome.map .text)) }
    have start : (onWorld House.openFuture : StageAct κ Nat).play ⟨⟨host, audience⟩, passes⟩ =
        (.ok audience.futures.length, ⟨⟨host, opened⟩, passes⟩) := rfl
    have pending : (House.mk left opened).future audience.futures.length = .pending := by
      simp [House.future, opened]
    have ends : (renderTemplateFuture behaviour template arguments).play ⟨⟨host, audience⟩, passes⟩ =
        (.ok audience.futures.length,
          ⟨⟨left, filled⟩, passes ++ [⟨.settled, .fulfil audience.futures.length, arguments⟩]⟩) := by
      simp only [renderTemplateFuture, Act.play_bind, start, called, play_onWorld, House.hear, result,
        House.play_completeFuture pending, Act.play_pure]
      rfl
    exact ⟨_, _, _, ends, rfl, by simp [House.future, filled, opened]⟩

section Host

variable {behaviour : Behaviour κ} {arguments : Arguments} {host left : Host κ}

/-- Rendering in one go, played in the host of a house. -/
theorem play_renderSegments_house {segments : List (Segment (Handler κ))} {result : Outcome String}
    (played : (renderSegments writeContent (fun pattern hash => behaviour.render pattern.handler hash arguments)
      segments).play host = (result, left)) (audience : Audience) :
    (renderSegments (surroundings behaviour).write
      (fun pattern hash => House.inHost (behaviour.render pattern.handler hash arguments)) segments).play
        ⟨host, audience⟩ = (result, ⟨left, audience⟩) := by
  have same := House.inHost_renderSegments (fun pattern hash => behaviour.render pattern.handler hash arguments) segments
  change (renderSegments (fun house : House κ => house.host.writeContent) _ segments).play _ = _
  rw [← same, House.play_inHost, played]

variable {template : Value} {text : String}

theorem play_renderTemplateWith_of_done (prompt : host.Prompt behaviour arguments)
    (reads : host.writeContent template = .ok text) {rendered : String}
    (done : (renderSegments writeContent (fun pattern hash => behaviour.render pattern.handler hash arguments)
      (host.segments text)).play host = (.ok rendered, left))
    (audience : Audience) (passes : List (Running (Handler κ) Listener Arguments)) (listener : Listener) :
    (renderTemplateWith behaviour template listener arguments).play ⟨⟨host, audience⟩, passes⟩ =
      (onWorld (House.hear listener (outcomeDelivery (.ok rendered)))).play
        ⟨⟨left, audience⟩, passes ++ [⟨.settled, listener, arguments⟩]⟩ := by
  rw [play_renderTemplateWith reads]
  exact play_begin_of_done (prompt.inHouse text) (play_renderSegments_house done audience)

section Stop

variable {before after : List (Segment (Handler κ))} {pattern : Pattern (Handler κ)} {hash : List Char}
  {written : String} {mid : Host κ} {fault : Fault}

theorem play_renderTemplateWith_of_failed (prompt : host.Prompt behaviour arguments)
    (reads : host.writeContent template = .ok text) (split : host.segments text = before ++ .span pattern hash :: after)
    (done : (renderSegments writeContent (fun pattern hash => behaviour.render pattern.handler hash arguments)
      before).play host = (.ok written, mid))
    (failed : (behaviour.render pattern.handler hash arguments).play mid = (.error fault, left))
    (audience : Audience) (passes : List (Running (Handler κ) Listener Arguments)) (listener : Listener) :
    (renderTemplateWith behaviour template listener arguments).play ⟨⟨host, audience⟩, passes⟩ =
      (onWorld (House.hear listener (outcomeDelivery (.error (blame pattern hash fault))))).play
        ⟨⟨((noteFault pattern hash fault).play left).2, audience⟩, passes ++ [⟨.settled, listener, arguments⟩]⟩ := by
  have prompts := prompt.inHouse text
  rw [split] at prompts
  have failedThere : (House.inHost (behaviour.render pattern.handler hash arguments)).play ⟨mid, audience⟩ =
      (.error fault, ⟨left, audience⟩) := by
    rw [House.play_inHost, failed]
  rw [play_renderTemplateWith reads, split]
  exact play_begin_of_failed prompts (play_renderSegments_house done audience) failedThere rfl

theorem play_renderTemplateWith_of_unwritable (prompt : host.Prompt behaviour arguments)
    (reads : host.writeContent template = .ok text) (split : host.segments text = before ++ .span pattern hash :: after)
    (done : (renderSegments writeContent (fun pattern hash => behaviour.render pattern.handler hash arguments)
      before).play host = (.ok written, mid))
    {content : Value} (answered : (behaviour.render pattern.handler hash arguments).play mid = (.ok content, left))
    (unwritten : left.writeContent content = .error fault)
    (audience : Audience) (passes : List (Running (Handler κ) Listener Arguments)) (listener : Listener) :
    (renderTemplateWith behaviour template listener arguments).play ⟨⟨host, audience⟩, passes⟩ =
      (.error fault, ⟨⟨left, audience⟩, passes ++ [⟨.stalled, listener, arguments⟩]⟩) := by
  have prompts := prompt.inHouse text
  rw [split] at prompts
  have answeredThere : (House.inHost (behaviour.render pattern.handler hash arguments)).play ⟨mid, audience⟩ =
      (.ok content, ⟨left, audience⟩) := by
    rw [House.play_inHost, answered]
  rw [play_renderTemplateWith reads, split]
  exact play_begin_of_unwritable prompts (play_renderSegments_house done audience) answeredThere unwritten

end Stop

theorem agree (plain : host.AnswersAtOnce behaviour arguments) (audience : Audience)
    (passes : List (Running (Handler κ) Listener Arguments)) :
    Agree behaviour template arguments ⟨⟨host, audience⟩, passes⟩ where
  done rendered left ran := by
    change (renderTemplate behaviour template arguments).play host = _ at ran
    cases reads : host.writeContent template with
    | error fault => simp [renderTemplate, Act.play_bind, reads] at ran
    | ok text =>
      rw [play_renderTemplate reads] at ran
      exact bothEnd_of_called (play_renderTemplateWith_of_done plain.moves reads ran) audience passes
  failed fault left text ran reads := by
    change (renderTemplate behaviour template arguments).play host = _ at ran
    change host.writeContent template = _ at reads
    rw [play_renderTemplate reads] at ran
    obtain ⟨before, pattern, hash, after, written, mid, split, done, fails⟩ := split_of_failed ran
    cases fails with
    | handler failed =>
      exact ⟨before, pattern, hash, after, written, mid, blame pattern hash fault, split, done, failed,
        reportsSpan_blame pattern hash fault,
        bothEnd_of_called (play_renderTemplateWith_of_failed plain.moves reads split done failed) audience passes⟩
    | @content content answered unwritten =>
      -- Here every content has a text.
      have among : .span pattern hash ∈ host.segments text := split ▸ List.mem_append_cons_self
      obtain ⟨_, wrote⟩ := plain.written pattern (Pattern.Table.span_registered among) hash mid content left answered
      rw [unwritten] at wrote
      cases wrote
  unreadable fault unread := by
    change host.writeContent template = _ at unread
    refine ⟨?_, ?_, ?_⟩
    · simp only [renderTemplate, Act.play_bind, Act.play_answering, Stage.host, unread]
    · intro listener
      simp only [renderTemplateWith, Act.play_bind, Act.play_answering, Stage.host, unread]
    · have start : (onWorld House.openFuture : StageAct κ Nat).play ⟨⟨host, audience⟩, passes⟩ =
        (.ok audience.futures.length,
          ⟨⟨host, { audience with futures := audience.futures ++ [.pending] }⟩, passes⟩) := rfl
      simp only [renderTemplateFuture, renderTemplateWith, Act.play_bind, start, Act.play_answering, Stage.host, unread]

end Host

end Host

-- A script that leaves answering open answers at once.
theorem Script.moves_of_no_reply {handler : Handler Script} {hash : List Char}
    (silent : handler.conduct.replyAction? (String.ofList hash) = none) (arguments : Arguments)
    (recipient : Recipient (Handler Script) Listener) :
    Script.behaviour.moves handler hash arguments recipient =
      answering (Script.behaviour.render handler hash arguments) recipient := by
  change Script.moves (Script.behaviourWithin (Script.depthLimit - 1)) handler hash arguments recipient = _
  unfold Script.moves
  rw [silent]
  rfl

-- Counts are texts.
theorem Script.countCall_text {hash : String} {arguments : Arguments} {before after : Host Script} {content : Value}
    (counts : (Script.countCall hash arguments).play before = (.ok content, after)) :
    ∃ text, content = .text text := by
  simp only [Script.countCall, Act.play_bind, Act.play_ofFun] at counts
  split at counts
  · split at counts
    · split at counts
      · simp only [Act.play_pure, Prod.mk.injEq, Except.ok.injEq] at counts
        exact ⟨_, counts.1.symm⟩
      · simp at counts
    · simp at counts
  · simp at counts

namespace Host

/-- A host with a handler that counts its calls in the scope, and one that fails. -/
def countingHost : Host Script :=
  { Host.ofSettings .default [] [] (.initial "") with
    table := ⟨[⟨⟨['<'], by decide⟩, [(⟨['>'], by decide⟩, ⟨.ofRender .count, none⟩)]⟩,
      ⟨⟨['('], by decide⟩, [(⟨[')'], by decide⟩, ⟨.ofRender (.fail .alreadyDone), none⟩)]⟩]⟩
    desk := ⟨[⟨.dict [], .list []⟩], [], []⟩ }

theorem answersAtOnce_countingHost :
    countingHost.AnswersAtOnce Script.behaviour ⟨.null, .null, 0⟩ where
  moves pattern registered hash recipient := by
    apply Script.moves_of_no_reply
    rcases List.mem_cons.1 registered with rfl | registered
    · rfl
    · cases List.mem_singleton.1 registered
      rfl
  written pattern registered hash before content after rendered := by
    rcases List.mem_cons.1 registered with rfl | registered
    · obtain ⟨text, rfl⟩ := Script.countCall_text rendered
      exact ⟨text, rfl⟩
    · cases List.mem_singleton.1 registered
      cases rendered

end Host

end Stencil
