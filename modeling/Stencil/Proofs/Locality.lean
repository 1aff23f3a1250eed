import Stencil.Proofs.Agreement
import Stencil.Proofs.History
import Stencil.Proofs.Indifference
import Stencil.Proofs.Scan

/-! Which registrations count for a template.

The segments of a template depend on the patterns whose opening delimiters occur in it, and on nothing
else: not on the order in which patterns came, and not on any other pattern. Rendering depends on no more
than that, as long as the handlers that it calls do not.
-/

set_option autoImplicit false

namespace Stencil

namespace Pattern

open Text

variable {η : Type}

namespace Table

/-- Two tables have the same patterns for a text: those whose opening delimiters occur in it. -/
def SameFor (text : List Char) (one other : Table η) : Prop :=
  ∀ p : Pattern η, p.opening.val <:+: text → (p ∈ one.patterns ↔ p ∈ other.patterns)

variable {one other : Table η} {text : List Char}

theorem SameFor.symm (same : SameFor text one other) : SameFor text other one :=
  fun p occurs => (same p occurs).symm

theorem SameFor.behind {before rest : List Char} (same : SameFor (before ++ rest) one other) :
    SameFor rest one other :=
  fun p occurs => same p (occurs.trans (List.suffix_append before rest).isInfix)

theorem OpensAt.transfer (same : SameFor text one other) {opening : List Char} (opens : one.OpensAt text opening) :
    other.OpensAt text opening := by
  obtain ⟨⟨p, registered, rfl⟩, front⟩ := opens
  exact ⟨⟨p, (same p front.isInfix).1 registered, rfl⟩, front⟩

theorem ClosesAt.transfer (same : SameFor text one other) {opening : List Char}
    (closes : one.ClosesAt text opening) : other.ClosesAt text opening := by
  obtain ⟨front, p, registered, rfl, stands⟩ := closes
  exact ⟨front, p, (same p front.isInfix).1 registered, rfl, stands⟩

theorem SpanAt.transfer (same : SameFor text one other) {hash rest : List Char} {pattern : Pattern η}
    (span : one.SpanAt text pattern hash rest) : other.SpanAt text pattern hash rest where
  registered := (same pattern span.closesAt.1.isInfix).1 span.registered
  source := span.source
  longest opening closes := span.longest opening (closes.transfer same.symm)
  first rival registered opening :=
    span.first rival ((same rival (opening ▸ span.closesAt.1.isInfix)).2 registered) opening
  longer rival registered opening :=
    span.longer rival ((same rival (opening ▸ span.closesAt.1.isInfix)).2 registered) opening

theorem Scanned.transfer {segments : List (Segment η)} (scanned : one.Scanned text segments)
    (same : SameFor text one other) : other.Scanned text segments := by
  induction scanned with
  | done => exact .done
  | span span _ ih =>
    have rest := span.source ▸ same
    rw [← List.append_assoc] at rest
    exact .span (span.transfer same) (ih rest.behind)
  | unclosed none opens longest _ ih =>
    exact .unclosed (fun rival closes => none rival (closes.transfer same.symm)) (opens.transfer same)
      (fun rival opensToo => longest rival (opensToo.transfer same.symm)) (ih same.behind)
  | plain none _ ih =>
    refine .plain (fun rival opensToo => none rival (opensToo.transfer same.symm)) (ih ?_)
    rw [← List.singleton_append] at same
    exact same.behind

theorem WellKept.segments_eq (kept : one.WellKept) (kept' : other.WellKept) (same : SameFor text one other) :
    one.segments text = other.segments text :=
  (kept'.scanned_iff text _).1 (((kept.scanned_iff text _).2 rfl).transfer same)

/-- Two tables store the same handlers, except under hidden opening delimiters. -/
structure Agree (hidden : List Char → Prop) (one other : Table η) : Prop where
  kept : one.WellKept
  kept' : other.WellKept
  handlers : ∀ opening closing, ¬ hidden opening → one.handler? opening closing = other.handler? opening closing

variable {hidden : List Char → Prop}

theorem Agree.segments (agree : Agree hidden one other) (absent : ∀ opening, hidden opening → ¬ opening <:+: text) :
    one.segments text = other.segments text := by
  apply agree.kept.segments_eq agree.kept'
  intro p occurs
  rw [agree.kept.mem_patterns_iff, agree.kept'.mem_patterns_iff,
    agree.handlers _ _ fun isHidden => absent _ isHidden occurs]

/-- Putting the same pattern into both keeps them in agreement. -/
theorem Agree.insert (agree : Agree hidden one other) (p : Pattern η) :
    Agree hidden (one.insert p) (other.insert p) where
  kept := agree.kept.insert p
  kept' := agree.kept'.insert p
  handlers opening closing shown := by
    by_cases here : p.opening.val = opening ∧ p.closing.val = closing
    · obtain ⟨rfl, rfl⟩ := here
      rw [handler?_insert_self, handler?_insert_self]
    · rw [handler?_insert_of_other here, handler?_insert_of_other here, agree.handlers opening closing shown]

/-- A pattern makes a difference under its own opening delimiter only. -/
theorem WellKept.agree_insert {table : Table η} (kept : table.WellKept) (p : Pattern η) :
    Agree (· = p.opening.val) table (table.insert p) where
  kept
  kept' := kept.insert p
  handlers opening closing other := by
    rw [handler?_insert_of_other fun here => other here.1.symm]

/-- Histories in which the last handler for each pair is the same give tables that store the same. -/
theorem agree_insertAll {history history' : List (Pattern η)}
    (same : ∀ opening closing,
      (latest? history opening closing).map (·.handler) = (latest? history' opening closing).map (·.handler)) :
    Agree (fun _ => False) (empty.insertAll history) (empty.insertAll history') where
  kept := wellKept_empty.insertAll history
  kept' := wellKept_empty.insertAll history'
  handlers opening closing _ := by
    ext handler
    have delimited (found : (empty.insertAll history).handler? opening closing = some handler ∨
        (empty.insertAll history').handler? opening closing = some handler) :
        ∃ (o c : Delimiter), o.val = opening ∧ c.val = closing := by
      rcases found with found | found
      all_goals
        obtain ⟨p, -, isOpening, isClosing, -⟩ := exists_pattern_of_handler? found
        exact ⟨p.opening, p.closing, isOpening, isClosing⟩
    constructor
    · intro stored
      obtain ⟨o, c, rfl, rfl⟩ := delimited (.inl stored)
      rwa [handler?_insertAll, ← same, ← handler?_insertAll]
    · intro stored
      obtain ⟨o, c, rfl, rfl⟩ := delimited (.inr stored)
      rwa [handler?_insertAll, same, ← handler?_insertAll]

end Table

end Pattern

variable {κ : Type}

namespace Host

/-- Two hosts are the same, but for what they store under hidden opening delimiters, the order in which
patterns came, and what was logged. -/
def Alike (hidden : List Char → Prop) (one other : Host κ) : Prop :=
  ∃ table printed, one.table.Agree hidden table ∧
    other = { one with table, console := { one.console with printed } }

variable {hidden : List Char → Prop} {one other : Host κ}

theorem Alike.agree (alike : Alike hidden one other) : one.table.Agree hidden other.table := by
  obtain ⟨table, printed, agree, rfl⟩ := alike
  exact agree

theorem Alike.settle (alike : Alike hidden one other) : one.settle = other.settle := by
  obtain ⟨table, printed, -, rfl⟩ := alike
  rfl

theorem Alike.desk (alike : Alike hidden one other) : one.desk = other.desk := by
  obtain ⟨table, printed, -, rfl⟩ := alike
  rfl

theorem respects_atDesk (change : Desk κ → Desk κ) : (atDesk change).Respects (Alike hidden) := by
  rintro one _ ⟨table, printed, agree, rfl⟩
  exact ⟨rfl, table, printed, agree, rfl⟩

theorem respects_note (level : Log.Level) (logger : String) (context : Log.Context) (message : Outcome String) :
    (note level logger (fun _ => context) message : HostAct κ Unit).Respects (Alike hidden) := by
  rintro one _ ⟨table, printed, agree, rfl⟩
  obtain ⟨first, notes⟩ := play_note level logger (fun _ => context) message one
  obtain ⟨second, notes'⟩ := play_note level logger (fun _ => context) message
    { one with table, console := { one.console with printed } }
  rw [notes, notes']
  exact ⟨rfl, table, second, agree, rfl⟩

theorem respects_insertPattern (opening closing : Value) (pattern : Pattern (Handler κ)) :
    (insertPattern opening closing pattern).Respects (Alike hidden) := by
  rintro one _ ⟨table, printed, agree, rfl⟩
  obtain ⟨first, plays⟩ := play_insertPattern opening closing pattern one
  obtain ⟨second, plays'⟩ := play_insertPattern opening closing pattern
    { one with table, console := { one.console with printed } }
  rw [plays, plays']
  exact ⟨rfl, table.insert pattern, second, agree.insert pattern, rfl⟩

/-- Hosts that store the same under every opening delimiter are alike for a rendering. -/
theorem congruent_alike : Congruent (Alike (κ := κ) fun _ => False) where
  settle _ _ alike := alike.settle
  access := by
    rintro one _ ⟨table, printed, -, rfl⟩
    rfl
  desk _ _ alike := alike.desk
  segments one other alike := by
    funext text
    exact alike.agree.segments fun _ isHidden => isHidden.elim
  atDesk := respects_atDesk
  note := respects_note
  insertPattern := respects_insertPattern

/-- A template is rendered alike in two hosts: with the same result, and with the same render calls kept. -/
structure RendersAlike (behaviour : Behaviour κ) (template : Value) (arguments : Arguments) (one other : Host κ) :
    Prop where
  result : ((renderTemplate behaviour template arguments).play one).1 =
    ((renderTemplate behaviour template arguments).play other).1
  calls : ((renderTemplate behaviour template arguments).play one).2.desk.calls =
    ((renderTemplate behaviour template arguments).play other).2.desk.calls

/-- Hosts that are alike render any template alike if no handler tells them apart. -/
theorem Alike.rendersAlike_of_blind {behaviour : Behaviour κ} {arguments : Arguments}
    (alike : Alike (fun _ => False) one other)
    (handles : ∀ handler hash, (behaviour.render handler hash arguments).Respects (Alike fun _ => False))
    (template : Value) : RendersAlike behaviour template arguments one other := by
  obtain ⟨result, left⟩ := congruent_alike.renderTemplate handles template alike
  exact ⟨result, congrArg (·.calls) left.desk⟩

/-- Hosts that are alike but for hidden opening delimiters render a template alike in which none of these occurs,
if the handlers that it calls do not tell the hosts apart. -/
theorem Alike.rendersAlike {behaviour : Behaviour κ} {arguments : Arguments} {template : String}
    (alike : Alike hidden one other) (absent : ∀ opening, hidden opening → ¬ opening <:+: template.toList)
    (handles : ∀ pattern hash, .span pattern hash ∈ one.segments template →
      (behaviour.render pattern.handler hash arguments).Respects (Alike hidden)) :
    RendersAlike behaviour (.text template) arguments one other := by
  have reads (host : Host κ) : host.writeContent (.text template) = .ok template := rfl
  have segments : one.segments template = other.segments template := alike.agree.segments absent
  have renders : (Rendering.renderSegments writeContent
      (fun pattern hash => behaviour.render pattern.handler hash arguments) (one.segments template)).Respects
        (Alike hidden) :=
    Rendering.respects_renderSegments (fun _ _ here => writeContent_of_settle here.settle) handles
  obtain ⟨result, left⟩ := renders alike
  constructor
  · rw [play_renderTemplate (reads one), play_renderTemplate (reads other), ← segments, result]
  · rw [play_renderTemplate (reads one), play_renderTemplate (reads other), ← segments, left.desk]

end Host

/-- No handler can tell in which order patterns came. -/
def Behaviour.OrderBlind (behaviour : Behaviour κ) : Prop :=
  ∀ handler hash arguments, (behaviour.render handler hash arguments).Respects (Host.Alike fun _ => False)

theorem Behaviour.OrderBlind.recording {behaviour : Behaviour κ} (blind : behaviour.OrderBlind) :
    behaviour.recording.OrderBlind := fun handler hash arguments =>
  (Host.respects_keepCall Host.respects_atDesk _ _ _).bind fun _ => blind handler hash arguments

theorem Script.orderBlind_behaviour : Script.behaviour.OrderBlind :=
  respects_behaviour Host.congruent_alike

namespace Host

/-- Where the last handler that came for each pair is the same, with the same owner, the order of the calls makes no
difference, nor do the calls that failed: templates have the same segments, and are rendered with the same text and
calls if no handler looks at the order. -/
theorem order_is_immaterial {bare : Host κ} (empty : bare.table = .empty) {calls calls' : List (Registration κ)}
    (same : ∀ opening closing,
      (Pattern.latest? (calls.filterMap Registration.pattern?) opening closing).map (·.handler) =
        (Pattern.latest? (calls'.filterMap Registration.pattern?) opening closing).map (·.handler)) :
    let one := bare.registerAll calls
    let other := bare.registerAll calls'
    (∀ template, one.segments template = other.segments template) ∧
    ∀ behaviour : Behaviour κ, behaviour.OrderBlind → ∀ template arguments,
      RendersAlike behaviour template arguments one other ∧
      RendersAlike behaviour.recording template arguments one other := by
  intro one other
  obtain ⟨printed, isOne⟩ := bare.registerAll_eq calls
  obtain ⟨printed', isOther⟩ := bare.registerAll_eq calls'
  have alike : Alike (fun _ => False) one other := by
    simp only [one, other, isOne, isOther, empty]
    exact ⟨_, printed', Pattern.Table.agree_insertAll same, rfl⟩
  have segments (template : String) : one.segments template = other.segments template :=
    alike.agree.segments fun _ isHidden => isHidden.elim
  refine ⟨segments, fun behaviour blind template arguments => ?_⟩
  exact ⟨alike.rendersAlike_of_blind (blind · · arguments) template,
    alike.rendersAlike_of_blind (blind.recording · · arguments) template⟩

theorem order_is_immaterial_reversed :
    let call (opening closing label : String) : Registration Script :=
      ⟨.text opening, .text closing, methodValue "render", methodValue "render_async",
        ⟨.ofRender (.affix label ""), none⟩⟩
    let bare := Host.ofSettings .default [] [] (.initial "")
    let one := bare.registerAll [call "<" ">" "a", call "" ">" "b", call "[" "]" "c"]
    let other := bare.registerAll [call "[" "]" "d", call "[" "]" "c", call "<" ">" "a"]
    one.segments "<x>[y]" = other.segments "<x>[y]" ∧
      RendersAlike Script.behaviour (.text "<x>[y]") ⟨.null, .null, 0⟩ one other := by
  intro call bare one other
  let pattern (opening closing : Char) (label : String) : Pattern (Handler Script) :=
    ⟨⟨[opening], by simp⟩, ⟨[closing], by simp⟩, ⟨.ofRender (.affix label ""), none⟩⟩
  have fitting : [call "<" ">" "a", call "" ">" "b", call "[" "]" "c"].filterMap Registration.pattern? =
    [pattern '<' '>' "a", pattern '[' ']' "c"] := rfl
  have fitting' : [call "[" "]" "d", call "[" "]" "c", call "<" ">" "a"].filterMap Registration.pattern? =
    [pattern '[' ']' "d", pattern '[' ']' "c", pattern '<' '>' "a"] := rfl
  have same (opening closing : Delimiter) :
      (Pattern.latest? [pattern '<' '>' "a", pattern '[' ']' "c"] opening closing).map (·.handler) =
        (Pattern.latest? [pattern '[' ']' "d", pattern '[' ']' "c", pattern '<' '>' "a"] opening closing).map
          (·.handler) := by
    by_cases angle : ⟨['<'], by simp⟩ = opening ∧ ⟨['>'], by simp⟩ = closing
    · obtain ⟨rfl, rfl⟩ := angle
      rfl
    · by_cases square : ⟨['['], by simp⟩ = opening ∧ ⟨[']'], by simp⟩ = closing
      · obtain ⟨rfl, rfl⟩ := square
        rfl
      · simp [Pattern.latest?, pattern, angle, square]
  rw [← fitting, ← fitting'] at same
  have empty : bare.table = .empty := rfl
  obtain ⟨segments, renders⟩ := order_is_immaterial empty same
  exact ⟨segments _, (renders _ Script.orderBlind_behaviour _ _).1⟩

/-- A handler that lists the patterns of its host tells in which order they came, and segments tell who owns the
patterns of their spans. -/
theorem order_and_owner_told :
    let call (opening closing : String) (owner? : Option (Provider Unit)) : Registration Unit :=
      ⟨.text opening, .text closing, methodValue "render", methodValue "render_async", ⟨(), owner?⟩⟩
    let bare : Host Unit := .ofSettings .default [] [] (.initial "")
    let listing : Behaviour Unit := .ofRender fun _ _ _ => .reading fun host =>
      .text (",".intercalate (host.table.patterns.map fun p => String.ofList p.opening.val))
    let render := renderTemplate listing (.text "<x>") ⟨.null, .null, 0⟩
    let one := bare.registerAll [call "<" ">" none, call "[" "]" none]
    let other := bare.registerAll [call "[" "]" none, call "<" ">" none]
    let owner : Provider Unit := ⟨0, ⟨"Owner", true, none, [], none, ()⟩, [], none⟩
    let owned := bare.registerAll [call "<" ">" (some owner)]
    (render.play one).1.toOption = some "<,[" ∧ (render.play other).1.toOption = some "[,<" ∧
      owned.segments "<x>" ≠ (bare.registerAll [call "<" ">" none]).segments "<x>" := by
  intro call bare listing render one other owner owned
  let isOwned : Pattern.Segment (Handler Unit) → Bool
    | .span pattern _ => pattern.handler.owner?.isSome
    | .literal _ => false
  have told : (owned.segments "<x>").map isOwned ≠ ((bare.registerAll [call "<" ">" none]).segments "<x>").map isOwned := by
    decide +kernel
  exact ⟨by decide +kernel, by decide +kernel, fun same => told (congrArg (List.map isOwned) same)⟩

/-- A call that registers a pattern makes no difference to a template in which its opening delimiter does not occur:
the template has the segments that it had, and is rendered with the same text and calls if the handlers that it
calls do the same as before. -/
theorem other_templates_undisturbed {bare : Host κ} (empty : bare.table = .empty) (calls : List (Registration κ))
    {call : Registration κ} {p : Pattern (Handler κ)} {left : Host κ}
    (registers : call.perform.play (bare.registerAll calls) = (.ok p, left)) {template : String}
    (absent : ¬ p.opening.val <:+: template.toList) :
    let host := bare.registerAll calls
    left.segments template = host.segments template ∧
    (∀ {σ : Type} (write : σ → Value → Outcome String) (handle : Pattern (Handler κ) → List Char → Act σ Fault Value),
      Rendering.renderSegments write handle (left.segments template) =
        Rendering.renderSegments write handle (host.segments template)) ∧
    ∀ (behaviour : Behaviour κ) (arguments : Arguments),
      (∀ pattern hash, .span pattern hash ∈ host.segments template →
        (behaviour.render pattern.handler hash arguments).Respects (Alike (· = p.opening.val))) →
      RendersAlike behaviour (.text template) arguments host left ∧
      RendersAlike behaviour.recording (.text template) arguments host left := by
  intro host
  have kept : host.table.WellKept := registerAll_wellKept (empty ▸ Pattern.Table.wellKept_empty) calls
  have alike : Alike (· = p.opening.val) host left := by
    rcases call.pattern?_cases with ⟨-, q, isPattern, -⟩ | ⟨-, -, report, refused⟩
    · obtain ⟨printed, plays⟩ := Registration.play_perform_of_pattern isPattern host
      obtain ⟨isResult, rfl⟩ := Prod.mk.inj (plays.symm.trans registers)
      obtain rfl := Except.ok.inj isResult
      exact ⟨_, printed, kept.agree_insert q, rfl⟩
    · obtain ⟨fault, plays, -⟩ := call.play_perform_refused refused host
      cases (Prod.mk.inj (plays.symm.trans registers)).1
  have hidden (opening : List Char) (isHidden : opening = p.opening.val) : ¬ opening <:+: template.toList :=
    isHidden ▸ absent
  have segments : left.segments template = host.segments template := (alike.agree.segments hidden).symm
  refine ⟨segments, fun write handle => by rw [segments], fun behaviour arguments handles => ?_⟩
  refine ⟨alike.rendersAlike hidden handles, alike.rendersAlike hidden fun pattern hash among => ?_⟩
  exact (respects_keepCall respects_atDesk _ _ _).bind fun _ => handles pattern hash among

theorem other_templates_undisturbed_echo :
    let call (opening closing : String) : Registration Unit :=
      ⟨.text opening, .text closing, methodValue "render", methodValue "render_async", ⟨(), none⟩⟩
    let host := (Host.ofSettings .default [] [] (.initial "")).registerAll [call "<" ">"]
    let behaviour : Behaviour Unit := .ofRender fun _ hash _ => pure (.text (String.ofList hash))
    ∃ p left, (call "[" "]").perform.play host = (.ok p, left) ∧ left.segments "a<b>" = host.segments "a<b>" ∧
      RendersAlike behaviour (.text "a<b>") ⟨.null, .null, 0⟩ host left := by
  intro call host behaviour
  have empty : (Host.ofSettings .default [] [] (.initial "") : Host Unit).table = .empty := rfl
  have registers : (call "[" "]").perform.play host =
    (.ok ⟨⟨['['], by decide⟩, ⟨[']'], by decide⟩, ⟨(), none⟩⟩, _) := rfl
  have absent : ¬ ['['] <:+: "a<b>".toList := by decide
  obtain ⟨segments, -, renders⟩ := other_templates_undisturbed empty [call "<" ">"] registers absent
  exact ⟨_, _, registers, segments, (renders behaviour _ fun _ _ _ => Act.respects_pure _).1⟩

/-- A handler that renders a text from the record as a template sees what was registered for that text. -/
theorem nested_template_disturbed :
    let call (opening closing : String) (action : RenderAction) : Registration Script :=
      ⟨.text opening, .text closing, methodValue "render", methodValue "render_async", ⟨.ofRender action, none⟩⟩
    let host := (Host.ofSettings .default [] [] (.initial "")).registerAll [call "<" ">" (.lookUp .null .nested)]
    let record := Value.dict [(.text "t", .text "[x]")]
    let render := renderTemplate Script.behaviour (.text "<Record.t>") ⟨record, .null, 0⟩
    ∃ p left, (call "[" "]" (.affix "r(" ")")).perform.play host = (.ok p, left) ∧
      ¬ p.opening.val <:+: "<Record.t>".toList ∧
      (render.play host).1.toOption = some "[x]" ∧ (render.play left).1.toOption = some "r(x)" := by
  intro call host record render
  refine ⟨⟨⟨['['], by decide⟩, ⟨[']'], by decide⟩, ⟨.ofRender (.affix "r(" ")"), none⟩⟩, _, rfl, ?_, ?_, ?_⟩
  · decide +kernel
  · decide +kernel
  · decide +kernel

end Host

end Stencil
