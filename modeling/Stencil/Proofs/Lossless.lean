import Mathlib.Data.List.Chain
import Stencil.Proofs.Agreement
import Stencil.Proofs.Table

/-! Segments keep the whole template, and rendering changes its spans only.

Put side by side, the segments of a template are the template, with its literal text in as few pieces
as there can be. Rendering answers one text for each segment: literal text as it stands, and for a
span the text of the one content that its handler was asked for. What a handler answers is not read
as a template again.
-/

set_option autoImplicit false

namespace Stencil

namespace Pattern

variable {η : Type}

def Segment.isLiteral : Segment η → Bool
  | .literal _ => true
  | .span _ _ => false

/-- Literal text is never empty, and never cut in two. -/
structure Segment.Joined (segments : List (Segment η)) : Prop where
  filled : ∀ text, .literal text ∈ segments → text ≠ []
  apart : segments.IsChain fun segment next => ¬ (segment.isLiteral = true ∧ next.isLiteral = true)

theorem Segment.joined_nil : Segment.Joined ([] : List (Segment η)) where
  filled := by simp
  apart := .nil

theorem Segment.Joined.span {segments : List (Segment η)} (joined : Segment.Joined segments) (pattern : Pattern η)
    (hash : List Char) : Segment.Joined (.span pattern hash :: segments) where
  filled text among := joined.filled text (by simpa using among)
  apart := List.isChain_cons.2 ⟨fun _ _ both => Bool.false_ne_true both.1, joined.apart⟩

theorem Segment.Joined.addLiteral {segments : List (Segment η)} (joined : Segment.Joined segments)
    {text : List Char} (filled : text ≠ []) : Segment.Joined (addLiteral text segments) := by
  obtain ⟨allFilled, apart⟩ := joined
  cases segments with
  | nil => exact ⟨by simp [Pattern.addLiteral, filled], .singleton _⟩
  | cons first rest =>
    cases first with
    | literal more =>
      -- The new text becomes part of the literal text in front.
      refine ⟨?_, ?_⟩
      · intro other among
        rcases List.mem_cons.1 among with same | later
        · cases same
          exact List.append_ne_nil_of_left_ne_nil filled _
        · exact allFilled other (List.mem_cons_of_mem _ later)
      · exact List.isChain_cons.2 (List.isChain_cons.1 apart)
    | span pattern hash =>
      refine ⟨?_, List.isChain_cons_cons.2 ⟨fun both => Bool.false_ne_true both.2, apart⟩⟩
      intro other among
      rcases List.mem_cons.1 among with same | later
      · cases same
        exact filled
      · exact allFilled other later

namespace Table

theorem opening_ne_nil_of_front {table : Table η} {text opening rest : List Char}
    (isOpen : table.front text = .unclosed opening rest) : opening ≠ [] := by
  rintro rfl
  have source := front_unclosed_source isOpen
  have shorter := front_unclosed isOpen
  simp [source] at shorter

theorem joined_segments (table : Table η) (text : List Char) : Segment.Joined (table.segments text) := by
  rw [segments_eq_scan]
  fun_induction Table.scan table text with
  | case1 => exact Segment.joined_nil
  | case2 c rest ending isSpan ih => exact ih.span _ _
  | case3 c rest opening after isOpen ih => exact ih.addLiteral (opening_ne_nil_of_front isOpen)
  | case4 c rest isPlain ih => exact ih.addLiteral (List.cons_ne_nil c [])

end Table

end Pattern

namespace Rendering

open Pattern (Segment)

variable {σ η ε ν : Type} {write : σ → ν → Except ε String} {handle : Pattern η → List Char → Act σ ε ν}

/-- The texts that segments are replaced by, from left to right: for literal text that text, and for a
span the text of the content that its handler answers to one call. -/
inductive Filled (write : σ → ν → Except ε String) (handle : Pattern η → List Char → Act σ ε ν) :
    List (Segment η) → List String → σ → σ → Prop where
  | done {world : σ} : Filled write handle [] [] world world
  | literal {text : List Char} {rest : List (Segment η)} {texts : List String} {world left : σ} :
      Filled write handle rest texts world left →
      Filled write handle (.literal text :: rest) (String.ofList text :: texts) world left
  | span {pattern : Pattern η} {hash : List Char} {rest : List (Segment η)} {content : ν} {text : String}
      {texts : List String} {world mid left : σ} :
      (handle pattern hash).play world = (.ok content, mid) → write mid content = .ok text →
      Filled write handle rest texts mid left →
      Filled write handle (.span pattern hash :: rest) (text :: texts) world left

theorem Filled.play {segments : List (Segment η)} {texts : List String} {world left : σ}
    (filled : Filled write handle segments texts world left) :
    (renderSegments write handle segments).play world = (.ok (String.join texts), left) := by
  induction filled with
  | done => rfl
  | literal _ ih =>
    rw [play_renderSegments_literal, ih, String.join_cons]
    rfl
  | span rendered written _ ih =>
    rw [play_renderSegments_span rendered written, ih, String.join_cons]
    rfl

theorem exists_filled {segments : List (Segment η)} {output : String} {world left : σ}
    (done : (renderSegments write handle segments).play world = (.ok output, left)) :
    ∃ texts, Filled write handle segments texts world left ∧ output = String.join texts := by
  induction segments generalizing world output with
  | nil =>
    simp only [renderSegments, Act.play_pure, Prod.mk.injEq, Except.ok.injEq] at done
    obtain ⟨rfl, rfl⟩ := done
    exact ⟨[], .done, rfl⟩
  | cons segment rest ih =>
    cases segment with
    | literal text =>
      rw [play_renderSegments_literal] at done
      cases tail : (renderSegments write handle rest).play world with
      | mk result stopped =>
        cases result with
        | error fault => simp [tail, Except.map] at done
        | ok behind =>
          simp only [tail, Except.map, Prod.mk.injEq, Except.ok.injEq] at done
          obtain ⟨rfl, rfl⟩ := done
          obtain ⟨texts, filled, rfl⟩ := ih tail
          exact ⟨_, .literal filled, String.join_cons.symm⟩
    | span pattern hash =>
      cases rendered : (handle pattern hash).play world with
      | mk result mid =>
        cases result with
        | error fault => simp [renderSegments, Act.play_bind, rendered] at done
        | ok content =>
          cases written : write mid content with
          | error fault => simp [renderSegments, Act.play_bind, rendered, written] at done
          | ok text =>
            rw [play_renderSegments_span rendered written] at done
            cases tail : (renderSegments write handle rest).play mid with
            | mk result stopped =>
              cases result with
              | error fault => simp [tail, Except.map] at done
              | ok behind =>
                simp only [tail, Except.map, Prod.mk.injEq, Except.ok.injEq] at done
                obtain ⟨rfl, rfl⟩ := done
                obtain ⟨texts, filled, rfl⟩ := ih tail
                exact ⟨_, .span rendered written filled, String.join_cons.symm⟩

end Rendering

namespace Host

variable {κ : Type}

/-- Whatever was registered in a host: the segments of a template are the template, in joined pieces, and
each span has the handler that is stored for its delimiters. Where rendering gives a text, it is the
texts that these segments are replaced by, side by side. -/
theorem segments_lossless (settings : Settings) (appData bundle : Entries) (console : Log.Console)
    (calls : List (Registration κ)) (template : String) :
    let host := (Host.ofSettings settings appData bundle console).registerAll calls
    (host.segments template).flatMap Pattern.Segment.source = template.toList ∧
    Pattern.Segment.Joined (host.segments template) ∧
    (∀ pattern hash, .span pattern hash ∈ host.segments template →
      host.table.handler? pattern.opening.val pattern.closing.val = some pattern.handler) ∧
    ∀ (behaviour : Behaviour κ) (arguments : Arguments) (output : String) (left : Host κ),
      (renderTemplate behaviour (.text template) arguments).play host = (.ok output, left) ↔
        ∃ texts, Rendering.Filled writeContent (fun pattern hash => behaviour.render pattern.handler hash arguments)
          (host.segments template) texts host left ∧ output = String.join texts := by
  intro host
  have kept : host.table.WellKept := registerAll_wellKept Pattern.Table.wellKept_empty calls
  refine ⟨host.table.flatMap_source_segments _, host.table.joined_segments _, ?_, ?_⟩
  · intro pattern hash among
    exact kept.handler?_eq_some (Pattern.Table.span_registered among)
  · intro behaviour arguments output left
    have reads : host.writeContent (.text template) = .ok template := rfl
    rw [play_renderTemplate reads]
    constructor
    · exact Rendering.exists_filled
    · rintro ⟨texts, filled, rfl⟩
      exact filled.play

end Host

end Stencil
