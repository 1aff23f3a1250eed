import Stencil.Address.Lookup
import Stencil.Proofs.Reading

/-! Looking up an address gives a value.

A step that does not fit the data leads to `undefined`, and so does everything behind it, an address
that is malformed and one that is no text. What is left are digit signs that denote no number: in a
bare bracket of the address, or in a name where the steps have come to a sequence.
-/

set_option autoImplicit false

namespace Stencil.Address

open Text Number

variable {access : Access}

/-- Where steps lead from a value, one after the other. -/
def trail (access : Access) (steps : List Step) (value : Value) : Except NumeralFault Value :=
  steps.foldlM (fun value step => step.from access value) value

theorem trail_cons (step : Step) (steps : List Step) (value : Value) :
    trail access (step :: steps) value = step.from access value >>= trail access steps := rfl

theorem trail_undefined (steps : List Step) : trail access steps .undefined = .ok .undefined := by
  induction steps with
  | nil => rfl
  | cons step steps ih => exact ih

theorem eq_undefined_of_isUndefined {value : Value} (nowhere : value.isUndefined = true) : value = .undefined := by
  cases value <;> simp_all [Value.isUndefined]

/-- Stopping at the first step that leads nowhere makes no difference. -/
theorem follow_value (address : String) (steps : List Step) (value : Value) :
    (follow access address steps value).map Resolution.value = trail access steps value := by
  induction steps generalizing value with
  | nil => rfl
  | cons step steps ih =>
    rw [follow, trail_cons]
    cases step.from access value with
    | error fault => rfl
    | ok next =>
      change Except.map _ (if next.isUndefined then _ else _) = trail access steps next
      split
      · rename_i nowhere
        rw [eq_undefined_of_isUndefined nowhere, trail_undefined]
        rfl
      · exact ih next

theorem exists_position?_iff (step : Step) :
    (∃ position, step.position? = .ok position) ↔ ∀ name, step = .name name → ¬ Unreadable name.toList := by
  cases step with
  | index n => simp [Step.position?]
  | name s =>
    simp only [Step.position?, Step.name.injEq, forall_eq']
    cases signs : allDigitSigns s.toList with
    | false => simp [Unreadable, signs]
    | true =>
      rw [← exists_readNat_iff signs]
      cases readNat s.toList <;> simp [Except.map]

/-- A value is a sequence, and the step into it is a name of digit signs that denote no number. -/
def Step.Stuck (step : Step) (value : Value) : Prop :=
  (∃ items, value = .list items ∨ value = .tuple items) ∧ ∃ name, step = .name name ∧ Unreadable name.toList

theorem exists_from_iff_of_sequence {value : Value} {items : List Value}
    (sequence : value = .list items ∨ value = .tuple items) (step : Step) :
    (∃ next, step.from access value = .ok next) ↔ ∃ position, step.position? = .ok position := by
  rcases sequence with rfl | rfl
  all_goals
    simp only [Step.from]
    cases step.position? with
    | error fault => simp [bind, Except.bind]
    | ok position => cases position <;> simp [bind, Except.bind, pure, Except.pure]

/-- A step leads somewhere, if only to `undefined`, unless it is stuck. -/
theorem exists_from_iff (step : Step) (value : Value) :
    (∃ next, step.from access value = .ok next) ↔ ¬ step.Stuck value := by
  by_cases sequence : ∃ items, value = .list items ∨ value = .tuple items
  · obtain ⟨items, isSequence⟩ := sequence
    rw [exists_from_iff_of_sequence isSequence, exists_position?_iff]
    constructor
    · rintro readable ⟨-, name, isName, unreadable⟩
      exact readable name isName unreadable
    · intro free name isName unreadable
      exact free ⟨⟨items, isSequence⟩, name, isName, unreadable⟩
  · refine iff_of_true ?_ fun stuck => sequence stuck.1
    cases value with
    | list items => exact absurd ⟨items, .inl rfl⟩ sequence
    | tuple items => exact absurd ⟨items, .inr rfl⟩ sequence
    | object o =>
      simp only [Step.from]
      split <;> exact ⟨_, rfl⟩
    | _ => exact ⟨_, rfl⟩

/-- The steps come to a place where the next is stuck. -/
def StuckOn (access : Access) (steps : List Step) (root : Value) : Prop :=
  ∃ before step after reached, steps = before ++ step :: after ∧
    trail access before root = .ok reached ∧ step.Stuck reached

theorem stuckOn_cons {step : Step} {steps : List Step} {value next : Value}
    (leads : step.from access value = .ok next) :
    StuckOn access (step :: steps) value ↔ StuckOn access steps next := by
  have free : ¬ step.Stuck value := (exists_from_iff step value).1 ⟨next, leads⟩
  constructor
  · rintro ⟨before, other, after, reached, split, arrives, stuck⟩
    cases before with
    | nil =>
      -- The step that was just taken is not the one that is stuck.
      cases split
      cases arrives
      exact absurd stuck free
    | cons first before =>
      cases split
      rw [trail_cons, leads] at arrives
      exact ⟨before, other, after, reached, rfl, arrives, stuck⟩
  · rintro ⟨before, other, after, reached, rfl, arrives, stuck⟩
    exact ⟨step :: before, other, after, reached, rfl, by rwa [trail_cons, leads], stuck⟩

theorem exists_trail_iff (steps : List Step) (value : Value) :
    (∃ last, trail access steps value = .ok last) ↔ ¬ StuckOn access steps value := by
  induction steps generalizing value with
  | nil => exact iff_of_true ⟨value, rfl⟩ fun ⟨before, _, _, _, split, _⟩ => by cases before <;> cases split
  | cons step steps ih =>
    rw [trail_cons]
    cases leads : step.from access value with
    | error fault =>
      refine iff_of_false (fun ⟨last, arrives⟩ => nomatch arrives) (not_not.2 ?_)
      have stuck : step.Stuck value := by
        by_contra free
        obtain ⟨next, goes⟩ := (@exists_from_iff access step value).2 free
        simp [leads] at goes
      exact ⟨[], step, steps, value, rfl, rfl, stuck⟩
    | ok next => exact (ih next).trans (not_congr (stuckOn_cons leads)).symm

/-- The value at an address is where the steps that are read from it lead. -/
theorem resolve_text (root : Value) (s : String) :
    resolve access root (.text s) = parse (trimmed s) >>= fun steps? =>
      steps?.elim (.ok .undefined) (trail access · root) := by
  simp only [resolve, look]
  split
  · rename_i empty
    rw [String.isEmpty_iff] at empty
    rw [empty, parse, String.toList_empty, readSteps]
    rfl
  · cases parse (trimmed s) with
    | error fault => rfl
    | ok steps? =>
      cases steps? with
      | none => rfl
      | some steps => exact follow_value s steps root

theorem resolve_of_parse {s : String} {steps : List Step} (parses : parse (trimmed s) = .ok (some steps))
    (root : Value) : resolve access root (.text s) = trail access steps root := by
  rw [resolve_text, parses]
  rfl

theorem legible_iff_parse {address : String} :
    Legible address.toList ↔ ∃ steps?, parse address = .ok steps? := by
  rw [legible_iff, parse]
  constructor
  · rintro ⟨steps?, read⟩
    rw [read]
    cases steps? with
    | none => exact ⟨none, rfl⟩
    | some steps => cases steps <;> exact ⟨_, rfl⟩
  · rintro ⟨steps?, parsed⟩
    cases read : readSteps true address.toList with
    | error fault => simp [read, bind, Except.bind] at parsed
    | ok steps? => exact ⟨steps?, rfl⟩

/-- Looking up an address has an answer for every value and every address but in two cases: a bare
bracket of the address holds digit signs that denote no number, or a name of such signs is the step into
a sequence. -/
theorem resolve_answers_iff (access : Access) (root address : Value) :
    (∃ value, resolve access root address = .ok value) ↔
      ∀ s, address = .text s → Legible (trimmed s).toList ∧
        ∀ steps, parse (trimmed s) = .ok (some steps) → ¬ StuckOn access steps root := by
  cases address with
  | text s =>
    simp only [Value.text.injEq, forall_eq', legible_iff_parse, resolve_text]
    cases parse (trimmed s) with
    | error fault => simp [bind, Except.bind]
    | ok steps? =>
      cases steps? with
      | none => simp [bind, Except.bind]
      | some steps => simp [bind, Except.bind, exists_trail_iff]
  | _ => exact iff_of_true ⟨_, rfl⟩ nofun

end Stencil.Address
