import Stencil.Proofs.Indifference

/-! Acts for which the number of providers does not matter.

A host counts the providers that were constructed for it, also those that were refused. The count
names new providers and serves nothing else: rendering does not look at it as long as no handler
does, and no script does.
-/

set_option autoImplicit false

namespace Stencil

variable {κ α : Type}

namespace Host

/-- An act does the same in hosts that differ only in how many providers were constructed. -/
def CountBlind (act : HostAct κ α) : Prop :=
  ∀ (host : Host κ) (count : Nat), ∃ count',
    act.play { host with constructed := count } =
      ((act.play host).1, { (act.play host).2 with constructed := count' })

theorem CountBlind.result {act : HostAct κ α} (blind : CountBlind act) (host : Host κ) (count : Nat) :
    (act.play { host with constructed := count }).1 = (act.play host).1 := by
  obtain ⟨count', same⟩ := blind host count
  rw [same]

/-- Two hosts differ only in how many providers were constructed. -/
def Recounted (one other : Host κ) : Prop :=
  ∃ count, other = { one with constructed := count }

theorem countBlind_iff {act : HostAct κ α} : CountBlind act ↔ act.Respects Recounted := by
  constructor
  · rintro blind host _ ⟨count, rfl⟩
    obtain ⟨count', same⟩ := blind host count
    exact ⟨by rw [same], count', by rw [same]⟩
  · intro respects host count
    obtain ⟨result, count', left⟩ := respects ⟨count, rfl⟩
    exact ⟨count', Prod.ext result.symm left⟩

theorem congruent_recounted : Congruent (Recounted (κ := κ)) where
  settle := by rintro one _ ⟨count, rfl⟩; rfl
  access := by rintro one _ ⟨count, rfl⟩; rfl
  desk := by rintro one _ ⟨count, rfl⟩; rfl
  segments := by rintro one _ ⟨count, rfl⟩; rfl
  atDesk change := by rintro one _ ⟨count, rfl⟩; exact ⟨rfl, count, rfl⟩
  note level logger context message := by rintro one _ ⟨count, rfl⟩; exact ⟨rfl, count, rfl⟩
  insertPattern opening closing pattern := by
    rintro one _ ⟨count, rfl⟩
    simp only [insertPattern, Act.play_bind, Act.play_reading]
    split <;> exact ⟨rfl, count, rfl⟩

/-- Rendering is blind to the count where handlers are. -/
theorem countBlind_renderTemplate {behaviour : Behaviour κ}
    (blind : ∀ handler hash arguments, CountBlind (behaviour.render handler hash arguments)) (template : Value)
    (arguments : Arguments) : CountBlind (renderTemplate behaviour template arguments) :=
  countBlind_iff.2 <| congruent_recounted.renderTemplate
    (fun handler hash => countBlind_iff.1 (blind handler hash arguments)) template

end Host

/-- No script looks at the count. -/
theorem Script.countBlind_behaviour (handler : Handler Script) (hash : List Char) (arguments : Arguments) :
    Host.CountBlind (Script.behaviour.render handler hash arguments) :=
  Host.countBlind_iff.2 (respects_behaviour Host.congruent_recounted handler hash arguments)

end Stencil
