import Stencil.Rendering.Direct
import Stencil.Rendering.Exchange

/-! What rendering in one go comes to, and what the acts of a floor do to it. -/

set_option autoImplicit false

namespace Stencil.Rendering

open Pattern (Segment)

variable {σ η ε ν κ α : Type}

section Direct

variable {write : σ → ν → Except ε String} {handle : Pattern η → List Char → Act σ ε ν}

theorem play_renderSegments_literal (text : List Char) (rest : List (Segment η)) (world : σ) :
    (renderSegments write handle (.literal text :: rest)).play world =
      (((renderSegments write handle rest).play world).1.map (String.ofList text ++ ·),
        ((renderSegments write handle rest).play world).2) := by
  simp only [renderSegments, Act.play_bind]
  cases (renderSegments write handle rest).play world with
  | mk result left => cases result <;> rfl

theorem play_renderSegments_span {pattern : Pattern η} {hash : List Char} {world mid : σ} {content : ν} {text : String}
    (rendered : (handle pattern hash).play world = (.ok content, mid)) (written : write mid content = .ok text)
    (rest : List (Segment η)) :
    (renderSegments write handle (.span pattern hash :: rest)).play world =
      (((renderSegments write handle rest).play mid).1.map (text ++ ·),
        ((renderSegments write handle rest).play mid).2) := by
  simp only [renderSegments, Act.play_bind, rendered, Act.play_answering, written]
  cases (renderSegments write handle rest).play mid with
  | mk result left => cases result <;> rfl

/-- Segments are rendered one after the other, so they can be rendered in two parts. -/
theorem renderSegments_append (write : σ → ν → Except ε String) (handle : Pattern η → List Char → Act σ ε ν)
    (front back : List (Segment η)) :
    renderSegments write handle (front ++ back) = do
      let text ← renderSegments write handle front
      let more ← renderSegments write handle back
      return text ++ more := by
  induction front with
  | nil => simp only [List.nil_append, renderSegments, pure_bind, String.empty_append, bind_pure]
  | cons segment rest ih =>
    cases segment <;> simp only [List.cons_append, renderSegments, ih, bind_assoc, pure_bind, String.append_assoc]

/-- How a span fails in a world: its handler fails, or answers a content that has no text. -/
inductive SpanFails (write : σ → ν → Except ε String) (handle : Pattern η → List Char → Act σ ε ν)
    (pattern : Pattern η) (hash : List Char) (world : σ) (fault : ε) (left : σ) : Prop where
  | handler : (handle pattern hash).play world = (.error fault, left) →
      SpanFails write handle pattern hash world fault left
  | content {content : ν} : (handle pattern hash).play world = (.ok content, left) →
      write left content = .error fault → SpanFails write handle pattern hash world fault left

theorem play_renderSegments_fails {pattern : Pattern η} {hash : List Char} {world left : σ} {fault : ε}
    (fails : SpanFails write handle pattern hash world fault left) (rest : List (Segment η)) :
    (renderSegments write handle (.span pattern hash :: rest)).play world = (.error fault, left) := by
  cases fails with
  | handler failed => simp only [renderSegments, Act.play_bind, failed]
  | content answered unwritten => simp only [renderSegments, Act.play_bind, answered, Act.play_answering, unwritten]

/-- A span is rendered to a text, or it fails. -/
theorem span_rendered_or_fails (write : σ → ν → Except ε String) (handle : Pattern η → List Char → Act σ ε ν)
    (pattern : Pattern η) (hash : List Char) (world : σ) :
    (∃ content text mid, (handle pattern hash).play world = (.ok content, mid) ∧ write mid content = .ok text) ∨
      ∃ fault left, SpanFails write handle pattern hash world fault left := by
  cases answered : (handle pattern hash).play world with
  | mk result mid =>
    cases result with
    | error fault => exact .inr ⟨fault, mid, .handler answered⟩
    | ok content =>
      cases written : write mid content with
      | error fault => exact .inr ⟨fault, mid, .content answered written⟩
      | ok text => exact .inl ⟨content, text, mid, rfl, written⟩

/-- Rendering fails at a span, and all that is in front of that span is rendered. -/
theorem split_of_failed {segments : List (Segment η)} {world left : σ} {fault : ε}
    (failed : (renderSegments write handle segments).play world = (.error fault, left)) :
    ∃ before pattern hash after written mid, segments = before ++ .span pattern hash :: after ∧
      (renderSegments write handle before).play world = (.ok written, mid) ∧
      SpanFails write handle pattern hash mid fault left := by
  induction segments generalizing world with
  | nil => simp [renderSegments] at failed
  | cons segment rest ih =>
    -- What a first segment that is rendered leaves to the others, and what is rendered of it.
    have behind {text : String} {mid : σ}
        (first : ∀ others, (renderSegments write handle (segment :: others)).play world =
          (((renderSegments write handle others).play mid).1.map (text ++ ·),
            ((renderSegments write handle others).play mid).2)) :
        ∃ before pattern hash after written mid, segment :: rest = before ++ .span pattern hash :: after ∧
          (renderSegments write handle before).play world = (.ok written, mid) ∧
          SpanFails write handle pattern hash mid fault left := by
      have tail : (renderSegments write handle rest).play mid = (.error fault, left) := by
        rw [first rest, Prod.mk.injEq] at failed
        apply Prod.ext _ failed.2
        cases result : ((renderSegments write handle rest).play mid).1 with
        | ok text => simp [result, Except.map] at failed
        | error other => simpa [result, Except.map] using failed.1
      obtain ⟨before, pattern, hash, after, written, stopped, rfl, done, fails⟩ := ih tail
      refine ⟨segment :: before, pattern, hash, after, text ++ written, stopped, rfl, ?_, fails⟩
      rw [first before, done]
      rfl
    cases segment with
    | literal text => exact behind fun others => play_renderSegments_literal text others world
    | span pattern hash =>
      rcases span_rendered_or_fails write handle pattern hash world with
        ⟨content, text, mid, answered, written⟩ | ⟨other, stopped, fails⟩
      · exact behind fun others => play_renderSegments_span answered written others
      · rw [play_renderSegments_fails fails, Prod.mk.injEq, Except.error.injEq] at failed
        obtain ⟨rfl, rfl⟩ := failed
        exact ⟨[], pattern, hash, rest, "", world, rfl, rfl, fails⟩

end Direct

theorem play_onWorld {β : Type} (act : Act σ ε β) (world : σ) (passes : List (Running η κ α)) :
    (onWorld act).play ⟨world, passes⟩ = ((act.play world).1, ⟨(act.play world).2, passes⟩) := rfl

theorem play_passAt? (number : Nat) (floor : Floor σ η κ α) :
    (passAt? number : Act (Floor σ η κ α) ε _).play floor = (.ok floor.passes[number]?, floor) := rfl

theorem play_setPass {number : Nat} {running : Running η κ α} {world : σ} {passes : List (Running η κ α)}
    (found : passes[number]? = some running) (pass : Pass η) :
    (setPass number pass : Act (Floor σ η κ α) ε Unit).play ⟨world, passes⟩ =
      (.ok (), ⟨world, passes.set number { running with pass }⟩) := by
  have : Inhabited (Running η κ α) := ⟨running⟩
  simp [setPass, List.modify_eq_set, found]

theorem set_concat_length {β : Type} (front : List β) (before after : β) :
    (front ++ [before]).set front.length after = front ++ [after] := by
  rw [List.set_append_right _ _ (Nat.le_refl _), Nat.sub_self, List.set_cons_zero]

theorem play_conclude {around : Surroundings σ η ε ν κ α} {number : Nat} {running : Running η κ α} {world : σ}
    {passes : List (Running η κ α)} (found : passes[number]? = some running) (outcome : Except ε String) :
    (conclude around number outcome).play ⟨world, passes⟩ =
      (onWorld (around.hear running.callback (around.report outcome))).play ⟨world, passes⟩ := by
  simp only [conclude, Act.play_bind, play_passAt?, found]

section Deliveries

variable {around : Surroundings σ η ε ν κ α} {following : Nat → Turn η ε → Act (Floor σ η κ α) ε Unit}
  {floor : Floor σ η κ α} {ticket : Ticket η} {running : Running η κ α} {delivery : Delivery ε ν}

/-- What handing in a delivery still does, once the pass of its ticket has received it. -/
def afterReceipt (around : Surroundings σ η ε ν κ α) (following : Nat → Turn η ε → Act (Floor σ η κ α) ε Unit)
    (ticket : Ticket η) : Receipt η ε → Act (Floor σ η κ α) ε Unit
  | .repeated => onWorld (around.noteRepetition ticket.pattern ticket.hash)
  | .unwritable fault => Act.failing fault
  | .turn turn => following ticket.pass turn

theorem play_handIn_span (found : floor.passes[ticket.pass]? = some running) {pass : Pass η} {receipt : Receipt η ε}
    (received : running.pass.receive (around.write floor.world) ticket.span delivery = (pass, receipt)) :
    (handIn around following (.span ticket) delivery).play floor =
      (afterReceipt around following ticket receipt).play
        ⟨floor.world, floor.passes.set ticket.pass { running with pass }⟩ := by
  simp only [handIn, Act.play_bind, play_passAt?, found, Act.play_reading, received, play_setPass found]
  cases receipt <;> rfl

/-- A delivery that a pass does not wait for leaves it as it is. -/
theorem play_handIn_repeated (found : floor.passes[ticket.pass]? = some running)
    (received : running.pass.receive (around.write floor.world) ticket.span delivery = (running.pass, .repeated)) :
    (handIn around following (.span ticket) delivery).play floor =
      (onWorld (around.noteRepetition ticket.pattern ticket.hash)).play floor := by
  have unchanged : floor.passes.set ticket.pass running = floor.passes := by
    obtain ⟨inside, same⟩ := List.getElem?_eq_some_iff.1 found
    rw [← same, List.set_getElem_self]
  rw [play_handIn_span found received, unchanged, afterReceipt]

end Deliveries

section Faults

variable {around : Surroundings σ η ε ν κ α} {floor : Floor σ η κ α} {ticket : Ticket η} {fault : ε}

/-- A fault that no pass takes for the failure of the span is raised again. -/
theorem play_reproach_of_passed
    (passed : ∀ running, floor.passes[ticket.pass]? = some running → ∀ outcome,
      (running.pass.fail ticket.span (around.blame ticket.pattern ticket.hash fault)).2 ≠ some (.settle outcome)) :
    (reproach around ticket fault).play floor = (.error fault, floor) := by
  cases found : floor.passes[ticket.pass]? with
  | none => simp only [reproach, Act.play_bind, play_passAt?, found, Act.play_failing]
  | some running =>
    have quiet := passed running found
    cases taken : running.pass.fail ticket.span (around.blame ticket.pattern ticket.hash fault) with
    | mk pass turn? =>
      rw [taken] at quiet
      simp only [reproach, Act.play_bind, play_passAt?, found, taken]
      cases turn? with
      | none => rfl
      | some turn =>
        cases turn with
        | ask span pattern hash => rfl
        | settle outcome => exact absurd rfl (quiet outcome)

/-- A fault that settles a pass is noted before. -/
theorem play_reproach_of_settled {running : Running η κ α} (found : floor.passes[ticket.pass]? = some running)
    {pass : Pass η} {outcome : Except ε String}
    (taken : running.pass.fail ticket.span (around.blame ticket.pattern ticket.hash fault) =
      (pass, some (.settle outcome)))
    {noted : σ} (notes : (around.noteFault ticket.pattern ticket.hash fault).play floor.world = (.ok (), noted)) :
    (reproach around ticket fault).play floor =
      (conclude around ticket.pass outcome).play ⟨noted, floor.passes.set ticket.pass { running with pass }⟩ := by
  have marks : (onWorld (around.noteFault ticket.pattern ticket.hash fault)).play floor =
      (.ok (), ⟨noted, floor.passes⟩) := by
    rw [play_onWorld, notes]
  simp only [reproach, Act.play_bind, play_passAt?, found, taken, marks, play_setPass found]

end Faults

end Stencil.Rendering
