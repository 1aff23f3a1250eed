import Stencil.Provider.Script

/-! Acts for which it does not matter in which of several worlds they are done.

Worlds that differ in something that an act never looks at are alike for it: it gives the same result in
all of them, and leaves worlds that are alike again. Rendering does so wherever handlers do, and scripts
do so if the host reads and keeps the same for them.
-/

set_option autoImplicit false

namespace Stencil

namespace Act

variable {σ ε α β : Type} {alike : σ → σ → Prop}

/-- An act gives the same result in worlds that are alike, and leaves worlds that are alike. -/
def Respects (alike : σ → σ → Prop) (act : Act σ ε α) : Prop :=
  ∀ ⦃one other : σ⦄, alike one other →
    (act.play one).1 = (act.play other).1 ∧ alike (act.play one).2 (act.play other).2

theorem respects_pure (a : α) : Respects alike (pure a : Act σ ε α) :=
  fun _ _ same => ⟨rfl, same⟩

theorem respects_ofResult (result : Except ε α) : Respects alike (ofResult result : Act σ ε α) :=
  fun _ _ same => ⟨rfl, same⟩

theorem respects_answering {work : σ → Except ε α}
    (same : ∀ ⦃one other⦄, alike one other → work one = work other) : Respects alike (answering work) :=
  fun _ _ here => ⟨same here, here⟩

theorem respects_reading {read : σ → α} (same : ∀ ⦃one other⦄, alike one other → read one = read other) :
    Respects alike (reading read : Act σ ε α) :=
  fun _ _ here => ⟨congrArg Except.ok (same here), here⟩

theorem Respects.bind {act : Act σ ε α} {next : α → Act σ ε β} (first : Respects alike act)
    (later : ∀ a, Respects alike (next a)) : Respects alike (act >>= next) := by
  intro one other here
  obtain ⟨same, left⟩ := first here
  simp only [play_bind]
  rcases played : act.play one with ⟨result, world⟩
  rcases played' : act.play other with ⟨result', world'⟩
  simp only [played, played'] at same left
  obtain rfl := same
  cases result with
  | error fault => exact ⟨rfl, left⟩
  | ok a => exact later a left

end Act

namespace Rendering

variable {σ η ε ν : Type} {alike : σ → σ → Prop}

theorem respects_renderSegments {write : σ → ν → Except ε String} {handle : Pattern η → List Char → Act σ ε ν}
    (writes : ∀ ⦃one other⦄, alike one other → write one = write other) {segments : List (Pattern.Segment η)}
    (handles : ∀ pattern hash, .span pattern hash ∈ segments → (handle pattern hash).Respects alike) :
    (renderSegments write handle segments).Respects alike := by
  induction segments with
  | nil => exact Act.respects_pure _
  | cons segment rest ih =>
    have tail := ih fun pattern hash later => handles pattern hash (List.mem_cons_of_mem _ later)
    cases segment with
    | literal text => exact tail.bind fun _ => Act.respects_pure _
    | span pattern hash =>
      refine (handles pattern hash List.mem_cons_self).bind fun content => ?_
      refine .bind (Act.respects_answering fun one other here => ?_) fun _ => tail.bind fun _ => Act.respects_pure _
      rw [writes here]

end Rendering

variable {κ : Type} {alike : Host κ → Host κ → Prop}

namespace Host

/-- Hosts that are alike for a rendering: what it reads of them is the same, and what it changes in them
keeps them alike. -/
structure Congruent (alike : Host κ → Host κ → Prop) : Prop where
  settle : ∀ ⦃one other⦄, alike one other → one.settle = other.settle
  access : ∀ ⦃one other⦄, alike one other → one.access = other.access
  desk : ∀ ⦃one other⦄, alike one other → one.desk = other.desk
  segments : ∀ ⦃one other⦄, alike one other → one.segments = other.segments
  atDesk : ∀ change, (atDesk change).Respects alike
  note : ∀ level logger context message, (note level logger (fun _ => context) message).Respects alike
  insertPattern : ∀ opening closing pattern, (insertPattern opening closing pattern).Respects alike

theorem writeContent_of_settle {one other : Host κ} (same : one.settle = other.settle) :
    one.writeContent = other.writeContent := by
  funext content
  rw [writeContent, writeContent, same]

/-- A render call is kept at the desk, with what it finds there. -/
theorem respects_keepCall (desks : ∀ change, (atDesk change).Respects alike) (serviceHash? : Option String)
    (hash : String) (arguments : Arguments) : (keepCall serviceHash? hash arguments).Respects alike :=
  desks fun desk =>
    let sticky := (desk.stickies[arguments.sticky]?).getD ⟨.null, .null⟩
    let call := RenderCall.mk serviceHash? hash arguments.record arguments.context sticky.scope sticky.state
    { desk with calls := desk.calls ++ [call] }

namespace Congruent

theorem writeContent (congruent : Congruent alike) ⦃one other : Host κ⦄ (here : alike one other) :
    one.writeContent = other.writeContent :=
  writeContent_of_settle (congruent.settle here)

theorem addPattern (congruent : Congruent alike) (p : Provider κ) (opening closing : Value) :
    (addPattern p opening closing).Respects alike := by
  unfold Host.addPattern registerPattern
  refine .bind ?_ fun pattern => ?_
  · split
    · exact (congruent.insertPattern _ _ _).bind fun _ => Act.respects_pure _
    · exact (Act.respects_ofResult _).bind fun _ => Act.respects_ofResult _
  · split
    · exact congruent.note _ _ _ _
    · exact Act.respects_pure _

theorem lookUp (congruent : Congruent alike) (root address : Value) : (lookUp root address).Respects alike := by
  unfold Host.lookUp
  refine .bind (Act.respects_answering fun one other here => ?_) fun resolution => ?_
  · rw [congruent.access here]
  · split
    · exact (congruent.note _ _ _ _).bind fun _ => Act.respects_pure _
    · exact Act.respects_pure _

theorem lookUpInCall (congruent : Congruent alike) (address record context root : Value) :
    (lookUpInCall address record context root).Respects alike := by
  refine .bind (Act.respects_reading fun one other here => ?_) fun entries => congruent.lookUp _ address
  rw [callRoot, callRoot, congruent.settle here]

/-- Rendering does not tell hosts apart that handlers do not tell apart. -/
theorem renderTemplate (congruent : Congruent alike) {behaviour : Behaviour κ} {arguments : Arguments}
    (handles : ∀ handler hash, (behaviour.render handler hash arguments).Respects alike) (template : Value) :
    (renderTemplate behaviour template arguments).Respects alike := by
  unfold Host.renderTemplate
  refine .bind (Act.respects_answering fun one other here => ?_) fun text => ?_
  · rw [congruent.writeContent here]
  · refine .bind (Act.respects_reading fun one other here => ?_) fun segments => ?_
    · rw [congruent.segments here]
    · exact Rendering.respects_renderSegments congruent.writeContent fun pattern hash _ =>
        handles pattern.handler hash

end Congruent

end Host

namespace Script

open Host

variable {alike : Host Script → Host Script → Prop} {behaviour : Behaviour Script}

theorem respects_form (congruent : Congruent alike)
    (handles : ∀ handler hash arguments, (behaviour.render handler hash arguments).Respects alike)
    (arguments : Arguments) (value : Value) (shape : Form) : (form behaviour arguments value shape).Respects alike := by
  cases shape with
  | written lead tail =>
    refine (Act.respects_answering fun one other here => ?_).bind fun _ => Act.respects_pure _
    rw [congruent.settle here]
  | writtenIfTrue lead tail =>
    refine .bind (Act.respects_reading fun one other here => ?_) fun settled => ?_
    · rw [congruent.settle here]
    · split
      · exact (Act.respects_ofResult _).bind fun _ => Act.respects_pure _
      · exact Act.respects_pure _
  | raw => exact Act.respects_pure _
  | nested => exact (congruent.renderTemplate (handles · · arguments) value).bind fun _ => Act.respects_pure _

theorem respects_act (congruent : Congruent alike)
    (handles : ∀ handler hash arguments, (behaviour.render handler hash arguments).Respects alike)
    (owner? : Option (Provider Script)) (hash : String) (arguments : Arguments) (action : RenderAction) :
    (act behaviour owner? hash arguments action).Respects alike := by
  cases action with
  | affix lead tail => exact Act.respects_pure _
  | constant value => exact Act.respects_pure _
  | fail fault => exact Act.respects_ofResult _
  | count =>
    refine (Act.respects_answering fun one other here => ?_).bind fun _ =>
      (congruent.atDesk _).bind fun _ => (Act.respects_ofResult _).bind fun _ => Act.respects_pure _
    rw [sticky, sticky, congruent.desk here]
  | register opening closing answer =>
    cases owner? with
    | none => exact Act.respects_pure _
    | some p => exact (congruent.addPattern p opening closing).bind fun _ => Act.respects_pure _
  | enclose lead tail => exact (congruent.renderTemplate (handles · · arguments) _).bind fun _ => Act.respects_pure _
  | lookUp root shape =>
    exact (congruent.lookUpInCall _ _ _ _).bind fun value => respects_form congruent handles arguments value shape

theorem respects_behaviourWithin (congruent : Congruent alike) (depth : Nat) (handler : Handler Script)
    (hash : List Char) (arguments : Arguments) :
    ((behaviourWithin depth).render handler hash arguments).Respects alike := by
  induction depth generalizing handler hash arguments with
  | zero => exact Act.respects_ofResult _
  | succ depth ih =>
    simp only [behaviourWithin, render]
    split
    · exact Act.respects_pure _
    · have acts := respects_act congruent ih handler.owner? (String.ofList hash) arguments
      split
      · exact (respects_keepCall congruent.atDesk _ _ _).bind fun _ => acts _
      · exact acts _

/-- No script tells hosts apart that are alike for a rendering. -/
theorem respects_behaviour (congruent : Congruent alike) (handler : Handler Script) (hash : List Char)
    (arguments : Arguments) : (Script.behaviour.render handler hash arguments).Respects alike :=
  respects_behaviourWithin congruent depthLimit handler hash arguments

end Script

end Stencil
