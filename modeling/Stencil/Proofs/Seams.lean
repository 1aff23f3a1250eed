import Stencil.Proofs.Agreement
import Stencil.Proofs.Indifference
import Stencil.Proofs.Scan

/-! Cutting a template where a span begins or ends.

What stands in front of a place between two segments was read without what stands behind it: with less
text behind it, no delimiter stands where none stood before, and those of its spans still stand there.
So the two pieces have the segments of the whole. They are rendered as the whole is, unless rendering
the first piece registers a pattern for the second one.
-/

set_option autoImplicit false

namespace Stencil

namespace Text

theorem StandsAt.append {part text : List Char} {place : Nat} (stands : StandsAt part text place)
    (more : List Char) : StandsAt part (text ++ more) place := by
  rw [StandsAt, List.drop_append]
  exact List.prefix_append_of_prefix stands

end Text

namespace Pattern

open Text

variable {η : Type}

/-- A place in the source of segments where a span begins or ends. -/
def Segment.Edge (segments : List (Segment η)) (place : Nat) : Prop :=
  ∃ before pattern hash behind, segments = before ++ .span pattern hash :: behind ∧
    (place = (before.flatMap Segment.source).length ∨
      place = ((before ++ [.span pattern hash]).flatMap Segment.source).length)

theorem Segment.Edge.exists_split {segments : List (Segment η)} {place : Nat} (edge : Segment.Edge segments place) :
    ∃ front back, segments = front ++ back ∧ place = (front.flatMap Segment.source).length := by
  obtain ⟨before, pattern, hash, behind, rfl, begins | ends⟩ := edge
  · exact ⟨before, _, rfl, begins⟩
  · exact ⟨before ++ [.span pattern hash], behind, by simp, ends⟩

/-- Where literal text was put in front of segments, what is cut off in front is nothing, or it begins with
that text. -/
theorem addLiteral_eq_append {text : List Char} {tail front back : List (Segment η)}
    (cut : addLiteral text tail = front ++ back) :
    front = [] ∨ ∃ others, tail = others ++ back ∧ front = addLiteral text others := by
  cases front with
  | nil => exact .inl rfl
  | cons first others =>
    right
    cases tail with
    | nil =>
      obtain ⟨rfl, none⟩ := List.cons.inj cut
      obtain ⟨rfl, rfl⟩ := List.append_eq_nil_iff.1 none.symm
      exact ⟨[], rfl, rfl⟩
    | cons segment rest =>
      cases segment with
      | literal more =>
        obtain ⟨rfl, rfl⟩ := List.cons.inj cut
        exact ⟨.literal more :: others, rfl, rfl⟩
      | span pattern hash =>
        obtain ⟨rfl, same⟩ := List.cons.inj cut
        refine ⟨others, same, ?_⟩
        cases others with
        | nil => rfl
        | cons next later =>
          obtain ⟨rfl, -⟩ := List.cons.inj same
          rfl

namespace Table

variable {table : Table η}

theorem OpensAt.append {text opening : List Char} (opens : table.OpensAt text opening) (more : List Char) :
    table.OpensAt (text ++ more) opening :=
  ⟨opens.1, List.prefix_append_of_prefix opens.2⟩

theorem ClosesAt.append {text opening : List Char} (closes : table.ClosesAt text opening) (more : List Char) :
    table.ClosesAt (text ++ more) opening := by
  obtain ⟨⟨rest, rfl⟩, pattern, registered, same, place, stands⟩ := closes
  refine ⟨⟨rest ++ more, by rw [List.append_assoc]⟩, pattern, registered, same, place, ?_⟩
  rw [List.append_assoc, List.drop_left]
  rw [List.drop_left] at stands
  exact stands.append more

/-- A span does not depend on the text behind it. -/
theorem SpanAt.cut {text hash rest more : List Char} {pattern : Pattern η}
    (span : table.SpanAt text pattern hash (rest ++ more)) :
    table.SpanAt (pattern.opening.val ++ (hash ++ pattern.closing.val ++ rest)) pattern hash rest where
  registered := span.registered
  source := rfl
  longest opening closes := by
    apply span.longest
    rw [span.source]
    simpa only [List.append_assoc] using closes.append more
  first other registered opening place stands := by
    apply span.first other registered opening place
    simpa only [List.append_assoc] using stands.append more
  longer other registered opening stands := by
    apply span.longer other registered opening
    simpa only [List.append_assoc] using stands.append more

theorem Scanned.source {text : List Char} {segments : List (Segment η)} (scanned : table.Scanned text segments) :
    segments.flatMap Segment.source = text := by
  induction scanned with
  | done => rfl
  | span span _ ih =>
    rw [List.flatMap_cons, ih, span.source]
    simp [Segment.source]
  | unclosed _ _ _ _ ih => rw [flatMap_source_addLiteral, ih]
  | plain _ _ ih => rw [flatMap_source_addLiteral, ih, List.singleton_append]

theorem Scanned.source_append {text : List Char} {front back : List (Segment η)}
    (scanned : table.Scanned text (front ++ back)) :
    text = front.flatMap Segment.source ++ back.flatMap Segment.source := by
  rw [← scanned.source, List.flatMap_append]

/-- Cut between two segments, a text is two texts that have the segments in front and those behind. -/
theorem Scanned.split {text : List Char} {segments front back : List (Segment η)}
    (scanned : table.Scanned text segments) (cut : segments = front ++ back) :
    table.Scanned (front.flatMap Segment.source) front ∧ table.Scanned (back.flatMap Segment.source) back := by
  -- Where nothing is cut off in front, the text behind is the whole text.
  have whole {text : List Char} {segments : List (Segment η)} (scanned : table.Scanned text segments)
      (cut : segments = [] ++ back) :
      table.Scanned [] [] ∧ table.Scanned (back.flatMap Segment.source) back := by
    obtain rfl : segments = back := cut
    exact ⟨.done, scanned.source.symm ▸ scanned⟩
  induction scanned generalizing front with
  | done =>
    obtain ⟨rfl, rfl⟩ := List.append_eq_nil_iff.1 cut.symm
    exact ⟨.done, .done⟩
  | @span text hash rest pattern segments span behind ih =>
    cases front with
    | nil => exact whole (.span span behind) cut
    | cons first others =>
      obtain ⟨rfl, rfl⟩ : _ ∧ segments = others ++ back := List.cons.inj cut
      obtain ⟨before, after⟩ := ih rfl
      rw [behind.source_append] at span
      refine ⟨?_, after⟩
      have source : List.flatMap Segment.source (.span pattern hash :: others) =
          pattern.opening.val ++ (hash ++ pattern.closing.val ++ others.flatMap Segment.source) := by
        simp [Segment.source]
      rw [source]
      exact .span span.cut before
  | @unclosed opening rest segments none opens longest behind ih =>
    rcases addLiteral_eq_append cut with rfl | ⟨others, rfl, rfl⟩
    · exact whole (.unclosed none opens longest behind) cut
    · obtain ⟨before, after⟩ := ih rfl
      rw [behind.source_append, ← List.append_assoc] at none longest
      rw [flatMap_source_addLiteral]
      exact ⟨.unclosed (fun other closes => none other (closes.append _)) ⟨opens.1, List.prefix_append _ _⟩
        (fun other opensToo => longest other (opensToo.append _)) before, after⟩
  | @plain c rest segments none behind ih =>
    rcases addLiteral_eq_append cut with rfl | ⟨others, rfl, rfl⟩
    · exact whole (.plain none behind) cut
    · obtain ⟨before, after⟩ := ih rfl
      rw [behind.source_append, ← List.cons_append] at none
      rw [flatMap_source_addLiteral]
      exact ⟨.plain (fun other opensToo => none other (opensToo.append _)) before, after⟩

/-- A text that is cut where a span begins or ends has the segments of its two pieces. -/
theorem WellKept.segments_split (kept : table.WellKept) {text : List Char} {place : Nat}
    (edge : Segment.Edge (table.segments text) place) :
    table.segments text = table.segments (text.take place) ++ table.segments (text.drop place) := by
  obtain ⟨front, back, same, rfl⟩ := edge.exists_split
  have scanned := (kept.scanned_iff text _).2 rfl
  obtain ⟨before, behind⟩ := scanned.split same
  have source : text = front.flatMap Segment.source ++ back.flatMap Segment.source :=
    (same ▸ scanned).source_append
  have first : table.segments (text.take (front.flatMap Segment.source).length) = front := by
    rw [source, List.take_left, ← (kept.scanned_iff _ _).1 before]
  have second : table.segments (text.drop (front.flatMap Segment.source).length) = back := by
    rw [source, List.drop_left, ← (kept.scanned_iff _ _).1 behind]
  rw [first, second, same]

end Table

end Pattern

namespace Rendering

open Pattern (Segment)

variable {σ η ε ν : Type}

/-- What every handler keeps true of the world is true when segments have been rendered. -/
theorem renderSegments_keeps {holds : σ → Prop} {write : σ → ν → Except ε String}
    {handle : Pattern η → List Char → Act σ ε ν}
    (keeps : ∀ pattern hash world, holds world → holds ((handle pattern hash).play world).2)
    (segments : List (Segment η)) {world : σ} (start : holds world) :
    holds ((renderSegments write handle segments).play world).2 := by
  have kept : (renderSegments write handle segments).Respects fun one other => one = other ∧ holds one := by
    apply respects_renderSegments
    · rintro one _ ⟨rfl, -⟩
      rfl
    · rintro pattern hash - one _ ⟨rfl, here⟩
      exact ⟨rfl, rfl, keeps pattern hash one here⟩
  exact (kept ⟨rfl, start⟩).2.2

end Rendering

variable {κ : Type}

namespace Host

/-- Rendering registers nothing where no handler does. -/
theorem table_renderTemplate {behaviour : Behaviour κ} {arguments : Arguments}
    (keeps : ∀ handler hash (host : Host κ),
      ((behaviour.render handler hash arguments).play host).2.table = host.table)
    (template : Value) (host : Host κ) :
    ((renderTemplate behaviour template arguments).play host).2.table = host.table := by
  cases reads : host.writeContent template with
  | error fault => simp only [renderTemplate, Act.play_bind, Act.play_answering, reads]
  | ok text =>
    rw [play_renderTemplate reads]
    have same (pattern : Pattern (Handler κ)) (hash : List Char) (world : Host κ) (here : world.table = host.table) :
        ((behaviour.render pattern.handler hash arguments).play world).2.table = host.table :=
      (keeps pattern.handler hash world).trans here
    exact Rendering.renderSegments_keeps same _ rfl

/-- Cut where a span begins or ends, a template has the segments of its two pieces. The pieces are rendered as
the whole is, as long as rendering the first one leaves the segments of the second one as they were. -/
theorem cut_at_span {bare : Host κ} (empty : bare.table = .empty) (calls : List (Registration κ)) (template : String)
    {place : Nat} (edge : Pattern.Segment.Edge ((bare.registerAll calls).segments template) place) :
    let host := bare.registerAll calls
    let first := String.ofList (template.toList.take place)
    let second := String.ofList (template.toList.drop place)
    host.segments template = host.segments first ++ host.segments second ∧
    (∀ {σ : Type} (write : σ → Value → Outcome String)
      (handle : Pattern (Handler κ) → List Char → Act σ Fault Value),
      Rendering.renderSegments write handle (host.segments template) = do
        let text ← Rendering.renderSegments write handle (host.segments first)
        let more ← Rendering.renderSegments write handle (host.segments second)
        return text ++ more) ∧
    ∀ (behaviour : Behaviour κ) (arguments : Arguments),
      (∀ text left, (renderTemplate behaviour (.text first) arguments).play host = (.ok text, left) →
        left.segments second = host.segments second) →
      (renderTemplate behaviour (.text template) arguments).play host =
        Act.play (do
          let text ← renderTemplate behaviour (.text first) arguments
          let more ← renderTemplate behaviour (.text second) arguments
          return text ++ more) host := by
  intro host first second
  have kept : host.table.WellKept := registerAll_wellKept (empty ▸ Pattern.Table.wellKept_empty) calls
  have segments : host.segments template = host.segments first ++ host.segments second := by
    simpa only [Host.segments, first, second, String.toList_ofList] using kept.segments_split edge
  refine ⟨segments, ?_, ?_⟩
  · intro σ write handle
    rw [segments, Rendering.renderSegments_append]
  · intro behaviour arguments keeps
    have reads (host : Host κ) (text : String) : host.writeContent (.text text) = .ok text := rfl
    rw [play_renderTemplate (reads host template), segments, Rendering.renderSegments_append, Act.play_bind,
      Act.play_bind, ← play_renderTemplate (reads host first)]
    cases rendered : (renderTemplate behaviour (.text first) arguments).play host with
    | mk result left =>
      cases result with
      | error fault => rfl
      | ok text =>
        simp only [Act.play_bind]
        rw [play_renderTemplate (reads left second), keeps text left rendered]

/-- A template that is cut behind a span, with handlers that answer the text between the delimiters. -/
theorem cut_at_span_behind :
    let host := (Host.ofSettings .default [] [] (.initial "")).registerAll
      [⟨.text "<", .text ">", methodValue "render", methodValue "render_async", ⟨(), none⟩⟩]
    let behaviour : Behaviour Unit := .ofRender fun _ hash _ => pure (.text (String.ofList hash))
    let arguments : Arguments := ⟨.null, .null, 0⟩
    host.segments "a<b>c" = host.segments "a<b>" ++ host.segments "c" ∧
    (renderTemplate behaviour (.text "a<b>c") arguments).play host =
      Act.play (do
        let text ← renderTemplate behaviour (.text "a<b>") arguments
        let more ← renderTemplate behaviour (.text "c") arguments
        return text ++ more) host := by
  intro host behaviour arguments
  have edge : Pattern.Segment.Edge (host.segments "a<b>c") 4 :=
    ⟨[.literal ['a']], _, ['b'], [.literal ['c']], by with_unfolding_all rfl, .inr rfl⟩
  obtain ⟨segments, -, renders⟩ := cut_at_span rfl _ "a<b>c" edge
  refine ⟨segments, renders behaviour arguments fun text left done => ?_⟩
  have keeps (handler : Handler Unit) (hash : List Char) (host : Host Unit) :
      ((behaviour.render handler hash arguments).play host).2.table = host.table := rfl
  have kept : left.table = host.table :=
    (congrArg (·.2.table) done).symm.trans (table_renderTemplate keeps (.text "a<b>") host)
  rw [Host.segments, kept]
  rfl

/-- A class whose providers register a second pair when they render. -/
def opener : ProviderClass Script :=
  .derived "Opener" "Opener" [(.text "<", .text ">")]
    (.ofRender (.register (.text "[") (.text "]") (.text "T")))

/-- Rendering the first piece can register a pattern for the second one. -/
theorem pieces_rendered_apart :
    let host := (Host.ofSettings .default [] [] (.initial "")).registerAll
      [⟨.text "<", .text ">", methodValue "render", methodValue "render_async",
        Provider.handler ⟨0, opener, [], some "Opener"⟩⟩]
    let render (template : String) := renderTemplate Script.behaviour (.text template) ⟨.null, .null, 0⟩
    Pattern.Segment.Edge (host.segments "<a>[x]") 3 ∧
    ((render "<a>[x]").play host).1.toOption = some "T[x]" ∧
    (Act.play (do
      let text ← render "<a>"
      let more ← render "[x]"
      return text ++ more) host).1.toOption = some "TT" := by
  intro host render
  refine ⟨⟨[], _, ['a'], [.literal _], by with_unfolding_all rfl, .inr rfl⟩, ?_, ?_⟩
  · decide +kernel
  · decide +kernel

end Host

end Stencil
