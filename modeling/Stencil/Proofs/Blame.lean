import Stencil.Proofs.Agreement
import Stencil.Proofs.Quotable

/-! Faults that no handler has raised.

Where handlers answer at once, a pass reaches its end while all the handlers that it has asked are
still at work, each called by the one before. What the callback raises there, and what is raised when
a content cannot be written, goes back through all of them. A handler that has answered does not take
a fault for its own, so such a fault comes out of the rendering as it is. For the callback this is
right. A content without a text, though, is a failure of its span, and nobody tells the callback.
-/

set_option autoImplicit false

namespace Stencil.Host

open Rendering
open Pattern (Segment)

variable {κ : Type}

section Outcome

variable (behaviour : Behaviour κ) (template : Value) (arguments : Arguments) (host : Host κ)

/-- Rendering comes to a span: the segments in front of it are rendered, and leave a host. -/
def Reaches (pattern : Pattern (Handler κ)) (hash : List Char) (mid : Host κ) : Prop :=
  ∃ text before after written, host.writeContent template = .ok text ∧
    host.segments text = before ++ .span pattern hash :: after ∧
    (renderSegments writeContent (fun pattern hash => behaviour.render pattern.handler hash arguments) before).play host =
      (.ok written, mid)

/-- What rendering comes to, with the host that is left: the whole text, or the failure that is reported
for the first span whose handler raises a fault. -/
inductive ComesTo : Outcome String → Host κ → Prop where
  | text {text : String} {left : Host κ} :
      (renderTemplate behaviour template arguments).play host = (.ok text, left) → ComesTo (.ok text) left
  | failure {pattern : Pattern (Handler κ)} {hash : List Char} {mid left : Host κ} {fault : Fault} :
      Reaches behaviour template arguments host pattern hash mid →
      (behaviour.render pattern.handler hash arguments).play mid = (.error fault, left) →
      ComesTo (.error (blame pattern hash fault)) ((noteFault pattern hash fault).play left).2

/-- Rendering stops at a value that has no text: the template, or the content of a span. -/
inductive LacksText : Fault → Host κ → Prop where
  | template {fault : Fault} : host.writeContent template = .error fault → LacksText fault host
  | content {pattern : Pattern (Handler κ)} {hash : List Char} {mid left : Host κ} {content : Value} {fault : Fault} :
      Reaches behaviour template arguments host pattern hash mid →
      (behaviour.render pattern.handler hash arguments).play mid = (.ok content, left) →
      left.writeContent content = .error fault → LacksText fault left

end Outcome

variable {behaviour : Behaviour κ} {template : Value} {arguments : Arguments}

theorem comesTo_or_lacksText (behaviour : Behaviour κ) (template : Value) (arguments : Arguments) (host : Host κ) :
    (∃ outcome left, host.ComesTo behaviour template arguments outcome left) ∨
      ∃ fault left, host.LacksText behaviour template arguments fault left := by
  cases reads : host.writeContent template with
  | error fault => exact .inr ⟨fault, host, .template reads⟩
  | ok text =>
    cases ran : (renderTemplate behaviour template arguments).play host with
    | mk result left =>
      cases result with
      | ok rendered => exact .inl ⟨.ok rendered, left, .text ran⟩
      | error fault =>
        rw [play_renderTemplate reads] at ran
        obtain ⟨before, pattern, hash, after, written, mid, split, done, fails⟩ := split_of_failed ran
        have reached : host.Reaches behaviour template arguments pattern hash mid :=
          ⟨text, before, after, written, reads, split, done⟩
        cases fails with
        | handler failed => exact .inl ⟨_, _, .failure reached failed⟩
        | content answered unwritten => exact .inr ⟨fault, left, .content reached answered unwritten⟩

/-- Rendering that comes to an outcome ends in the call of its callback. -/
theorem ComesTo.play_renderTemplateWith {stage : Stage κ} {outcome : Outcome String} {left : Host κ}
    (comes : stage.host.ComesTo behaviour template arguments outcome left)
    (prompt : stage.host.Prompt behaviour arguments) (listener : Listener) :
    (renderTemplateWith behaviour template listener arguments).play stage =
      (onWorld (House.hear listener (outcomeDelivery outcome))).play
        ⟨⟨left, stage.world.audience⟩, stage.passes ++ [⟨.settled, listener, arguments⟩]⟩ := by
  cases comes with
  | @text text left ran =>
    cases reads : stage.host.writeContent template with
    | error fault => simp [renderTemplate, Act.play_bind, reads] at ran
    | ok shown =>
      rw [play_renderTemplate reads] at ran
      exact play_renderTemplateWith_of_done prompt reads ran _ _ listener
  | failure reached failed =>
    obtain ⟨text, before, after, written, reads, split, done⟩ := reached
    exact play_renderTemplateWith_of_failed prompt reads split done failed _ _ listener

/-- A content without a text ends rendering, and the callback is not called. -/
theorem Reaches.play_renderTemplateWith {stage : Stage κ} {pattern : Pattern (Handler κ)} {hash : List Char}
    {mid left : Host κ} {content : Value} {fault : Fault}
    (reached : stage.host.Reaches behaviour template arguments pattern hash mid)
    (prompt : stage.host.Prompt behaviour arguments)
    (answered : (behaviour.render pattern.handler hash arguments).play mid = (.ok content, left))
    (unwritten : left.writeContent content = .error fault) (listener : Listener) :
    (renderTemplateWith behaviour template listener arguments).play stage =
      (.error fault, ⟨⟨left, stage.world.audience⟩, stage.passes ++ [⟨.stalled, listener, arguments⟩]⟩) := by
  obtain ⟨text, before, after, written, reads, split, done⟩ := reached
  exact play_renderTemplateWith_of_unwritable prompt reads split done answered unwritten _ _ listener

theorem LacksText.play_renderTemplateWith {stage : Stage κ} {fault : Fault} {left : Host κ}
    (lacks : stage.host.LacksText behaviour template arguments fault left)
    (prompt : stage.host.Prompt behaviour arguments) (listener : Listener) :
    ∃ passes, (renderTemplateWith behaviour template listener arguments).play stage =
      (.error fault, ⟨⟨left, stage.world.audience⟩, passes⟩) := by
  cases lacks with
  | template unread =>
    refine ⟨stage.passes, ?_⟩
    simp only [renderTemplateWith, Act.play_bind, Act.play_answering, unread]
    rfl
  | content reached answered unwritten =>
    exact ⟨_, reached.play_renderTemplateWith prompt answered unwritten listener⟩

/-- What a rendering with an outcome does when its callback raises a fault. -/
structure RaisesItself (behaviour : Behaviour κ) (template : Value) (arguments : Arguments) (stage : Stage κ)
    (outcome : Outcome String) (left : Host κ) : Prop where
  -- What any callback raises is raised as it is, and the callback is the last to change anything: what
  -- it leaves is left, with the pass settled.
  unchanged : ∀ listener raised house,
    (House.hear listener (outcomeDelivery outcome)).play ⟨left, stage.world.audience⟩ = (.error raised, house) →
    (renderTemplateWith behaviour template listener arguments).play stage =
      (.error raised, ⟨house, stage.passes ++ [⟨.settled, listener, arguments⟩]⟩)
  -- A callback that keeps what it hears has heard the outcome once when it raises.
  once : ∀ label raised, (renderTemplateWith behaviour template (.journal label (some raised)) arguments).play stage =
    (.error raised, ⟨⟨left, ⟨stage.world.audience.futures,
      stage.world.audience.heard ++ [⟨label, outcomeDelivery outcome⟩]⟩⟩,
      stage.passes ++ [⟨.settled, .journal label (some raised), arguments⟩]⟩)

/-- Where handlers answer at once, a fault that the callback raises is blamed on none of them. Rendering comes to
an outcome, and then it raises what the callback raises; or it stops at a value without a text, and then the
callback is never called. -/
theorem callback_fault_is_raised {stage : Stage κ} (prompt : stage.host.Prompt behaviour arguments)
    (template : Value) :
    ((∃ outcome left, stage.host.ComesTo behaviour template arguments outcome left) ∨
      ∃ fault left, stage.host.LacksText behaviour template arguments fault left) ∧
    (∀ outcome left, stage.host.ComesTo behaviour template arguments outcome left →
      RaisesItself behaviour template arguments stage outcome left) ∧
    ∀ fault left, stage.host.LacksText behaviour template arguments fault left →
      ∀ listener, ∃ passes, (renderTemplateWith behaviour template listener arguments).play stage =
        (.error fault, ⟨⟨left, stage.world.audience⟩, passes⟩) := by
  refine ⟨comesTo_or_lacksText behaviour template arguments stage.host, ?_, ?_⟩
  · intro outcome left comes
    constructor
    · intro listener raised house raises
      rw [comes.play_renderTemplateWith prompt, play_onWorld, raises]
    · intro label raised
      rw [comes.play_renderTemplateWith prompt]
      rfl
  · intro fault left lacks listener
    exact lacks.play_renderTemplateWith prompt listener

/-- A host in which rendering comes to a text in one template, and to the failure of its first span in another one. -/
theorem callback_fault_is_raised_counting :
    let callback := Listener.journal 0 (some (.misfit "late"))
    let render (template : String) :=
      (renderTemplateWith Script.behaviour (.text template) callback ⟨.null, .null, 0⟩).play (.ofHost countingHost)
    (∃ stage, render "<a>-<b>" = (.error (.misfit "late"), stage) ∧
      stage.world.audience.heard = [⟨0, none, .text "1-2"⟩]) ∧
    ∃ failure stage, render "(b)<c>" = (.error (.misfit "late"), stage) ∧
      stage.world.audience.heard = [⟨0, some failure, .null⟩] ∧
      stage.world.host.desk.stickies = countingHost.desk.stickies := by
  have prompt : (Stage.ofHost countingHost).host.Prompt Script.behaviour ⟨.null, .null, 0⟩ :=
    answersAtOnce_countingHost.moves
  constructor
  · have ran : ((renderTemplate Script.behaviour (.text "<a>-<b>") ⟨.null, .null, 0⟩).play countingHost).1.toOption =
        some "1-2" := by decide +kernel
    cases played : (renderTemplate Script.behaviour (.text "<a>-<b>") ⟨.null, .null, 0⟩).play countingHost with
    | mk result left =>
      rw [played] at ran
      cases result with
      | error fault => cases ran
      | ok text =>
        cases ran
        have raises := (callback_fault_is_raised prompt (.text "<a>-<b>")).2.1 _ left (.text played)
        exact ⟨_, raises.once 0 (.misfit "late"), rfl⟩
  · have reached : (Stage.ofHost countingHost).host.Reaches Script.behaviour (.text "(b)<c>") ⟨.null, .null, 0⟩ _ ['b']
        countingHost := ⟨"(b)<c>", [], _, "", rfl, by with_unfolding_all rfl, rfl⟩
    have raises := (callback_fault_is_raised prompt (.text "(b)<c>")).2.1 _ _ (.failure reached rfl)
    exact ⟨_, _, raises.once 0 (.misfit "late"), rfl, rfl⟩

section Unwritable

variable {stage : Stage κ} {pattern : Pattern (Handler κ)} {hash : List Char} {mid left : Host κ} {content : Value}
  {fault : Fault}

/-- A pass that has stalled takes no delivery any more. -/
theorem deliver_stalled {ticket : Ticket (Handler κ)} {running : Running (Handler κ) Listener Arguments}
    (found : stage.passes[ticket.pass]? = some running) (stalled : running.pass = .stalled)
    (delivery : Delivery Fault Value) :
    (deliver (surroundings behaviour) (.span ticket) delivery).play stage =
      (Stage.inHost (noteRepetition ticket.pattern ticket.hash)).play stage := by
  have received : running.pass.receive ((surroundings behaviour).write stage.world) ticket.span delivery =
      (running.pass, .repeated) := by
    rw [stalled, Pass.receive_stalled]
  simp only [deliver, Act.play_bind, Act.play_reading, play_handIn_repeated found received]
  rfl

/-- Where handlers answer at once and rendering comes to a span whose content has no text, every way of
rendering raises the fault of the content itself. The callback is not called, now or by a later delivery, and
a future stays as it was opened. -/
theorem content_without_text_is_raised (prompt : stage.host.Prompt behaviour arguments)
    (reached : stage.host.Reaches behaviour template arguments pattern hash mid)
    (answered : (behaviour.render pattern.handler hash arguments).play mid = (.ok content, left))
    (unwritten : left.writeContent content = .error fault) :
    let stalled (audience : Audience) (listener : Listener) : Stage κ :=
      ⟨⟨left, audience⟩, stage.passes ++ [⟨.stalled, listener, arguments⟩]⟩
    let audience := stage.world.audience
    (renderTemplate behaviour template arguments).play stage.host = (.error fault, left) ∧
    (∀ listener, (renderTemplateWith behaviour template listener arguments).play stage =
      (.error fault, stalled audience listener)) ∧
    (∀ listener (ticket : Ticket (Handler κ)) delivery, ticket.pass = stage.passes.length →
      ((deliver (surroundings behaviour) (.span ticket) delivery).play (stalled audience listener)).2.world.audience =
        audience) ∧
    (renderTemplateFuture behaviour template arguments).play stage =
      (.error fault, stalled ⟨audience.futures ++ [.pending], audience.heard⟩ (.fulfil audience.futures.length)) := by
  intro stalled audience
  refine ⟨?_, fun listener => reached.play_renderTemplateWith prompt answered unwritten listener, ?_, ?_⟩
  · obtain ⟨text, before, after, written, reads, split, done⟩ := reached
    rw [play_renderTemplate reads, split, renderSegments_append]
    have fails : SpanFails writeContent (fun pattern hash => behaviour.render pattern.handler hash arguments) pattern
        hash mid fault left := .content answered unwritten
    simp only [Act.play_bind, done, play_renderSegments_fails fails]
  · intro listener ticket delivery last
    have found : (stalled audience listener).passes[ticket.pass]? = some ⟨.stalled, listener, arguments⟩ := by
      rw [last]
      exact List.getElem?_concat_length
    rw [deliver_stalled found rfl]
    rfl
  · let opened : Stage κ := ⟨⟨stage.host, ⟨audience.futures ++ [.pending], audience.heard⟩⟩, stage.passes⟩
    have start : (onWorld House.openFuture : StageAct κ Nat).play stage = (.ok audience.futures.length, opened) := rfl
    have reached' : opened.host.Reaches behaviour template arguments pattern hash mid := reached
    have ran := reached'.play_renderTemplateWith prompt answered unwritten (.fulfil audience.futures.length)
    simp only [renderTemplateFuture, Act.play_bind, start, ran]
    rfl

end Unwritable

/-- An integer past the digit limit is such a content. -/
theorem content_without_text_is_raised_long :
    let behaviour : Behaviour Script := .ofRender fun _ _ _ => pure (.int (Number.tenTo Number.digitLimit))
    let callback := Listener.journal 0 none
    ∃ stage, (renderTemplateWith behaviour (.text "x<a>") callback ⟨.null, .null, 0⟩).play (.ofHost countingHost) =
      (.error (.numeral .tooLongToWrite), stage) ∧ stage.world.audience.heard = [] := by
  intro behaviour callback
  have prompt : (Stage.ofHost countingHost).host.Prompt behaviour ⟨.null, .null, 0⟩ := fun _ _ _ _ => rfl
  have reached : (Stage.ofHost countingHost).host.Reaches behaviour (.text "x<a>") ⟨.null, .null, 0⟩ _ ['a']
      countingHost := ⟨"x<a>", [.literal ['x']], [], "x", rfl, by with_unfolding_all rfl, rfl⟩
  have unwritten : countingHost.writeContent (.int (Number.tenTo Number.digitLimit)) =
      .error (.numeral .tooLongToWrite) := by
    have long : Value.Long (.int (Number.tenTo Number.digitLimit)) := Nat.le_of_eq (Int.natAbs_natCast _).symm
    cases Value.failsIf_quoted (.int (Number.tenTo Number.digitLimit)) with
    | failed _ fails => exact congrArg Outcome.ofNumeral fails
    | done fits _ => exact absurd long fits
  obtain ⟨-, called, -⟩ := content_without_text_is_raised prompt reached rfl unwritten
  exact ⟨_, called callback, rfl⟩

end Stencil.Host
