import Mathlib.Data.List.Perm.Subperm
import Stencil.Proofs.Admission
import Stencil.Proofs.Digits

/-! The services of a host only grow.

A provider that is added serves under a key that no other one has: the name that it asks for, or that
name with the first number behind it that makes it a free one. The search for that number ends, since
there are more numbers than services and no two of them make the same key. So whatever providers are
added, and whichever of them are refused, every service keeps its key and its provider.
-/

set_option autoImplicit false

namespace Stencil

variable {κ : Type}

namespace Number

theorem natText_injective : Function.Injective natText := by
  intro m n same
  have digits : decimalDigits m = decimalDigits n := by simpa [natText] using congrArg String.toList same
  rw [← asciiValue_decimalDigits m, digits, asciiValue_decimalDigits]

end Number

namespace Host

section Keys

theorem numberedKey_injective (base : String) : Function.Injective (numberedKey base) := by
  intro m n same
  apply Number.natText_injective
  simpa [numberedKey, String.ext_iff] using same

theorem numberedKey_ne (base : String) (n : Nat) : numberedKey base n ≠ base := by
  intro same
  have lengths := congrArg String.length same
  simp only [numberedKey, String.length_append] at lengths
  have dash : "-".length = 1 := rfl
  omega

/-- The key that a base stands for where some keys are used: itself if it is free, and else itself with the
first number from 2 on behind it that makes a free key. There is one among as many numbers as keys are used. -/
inductive KeyFor (used : List String) (base : String) : String → Prop where
  | free : base ∉ used → KeyFor used base base
  | numbered {n : Nat} : base ∈ used → 2 ≤ n → n ≤ used.length + 1 → numberedKey base n ∉ used →
      (∀ m, 2 ≤ m → m < n → numberedKey base m ∈ used) → KeyFor used base (numberedKey base n)

theorem KeyFor.fresh {used : List String} {base key : String} (chosen : KeyFor used base key) : key ∉ used := by
  cases chosen with
  | free absent => exact absent
  | numbered _ _ _ absent _ => exact absent

/-- Of the numbered keys of a used base, one is free: they and the base are all different, so they cannot all
be among the used keys. -/
theorem exists_free_numberedKey {used : List String} {base : String} (taken : base ∈ used) :
    ∃ i < used.length, numberedKey base (i + 2) ∉ used := by
  apply by_contradiction
  intro none
  let tried := base :: (List.range used.length).map fun i => numberedKey base (i + 2)
  have distinct : tried.Nodup := by
    apply List.nodup_cons.2
    constructor
    · intro among
      obtain ⟨i, -, same⟩ := List.mem_map.1 among
      exact numberedKey_ne base (i + 2) same
    · apply List.nodup_range.map
      intro i j same
      exact Nat.add_right_cancel (numberedKey_injective base same)
  have inside : tried ⊆ used := by
    intro key among
    rcases List.mem_cons.1 among with rfl | numbered
    · exact taken
    · obtain ⟨i, small, rfl⟩ := List.mem_map.1 numbered
      apply by_contradiction
      intro absent
      exact none ⟨i, List.mem_range.1 small, absent⟩
  have crowded := (distinct.subperm inside).length_le
  simp only [tried, List.length_cons, List.length_map, List.length_range] at crowded
  omega

theorem keyFor_freeKey (used : List String) (base : String) : KeyFor used base (freeKey used base) := by
  unfold freeKey
  split
  · rename_i taken
    rw [List.contains_iff_mem] at taken
    rw [List.find?_map]
    cases found : (List.range (used.length + 1)).find? ((fun k => !used.contains k) ∘ fun i => numberedKey base (i + 2)) with
    | none =>
      obtain ⟨i, small, absent⟩ := exists_free_numberedKey taken
      have passed := List.find?_eq_none.1 found i (List.mem_range.2 (Nat.lt_succ_of_lt small))
      simp [absent] at passed
    | some n =>
      rw [List.find?_range_eq_some] at found
      obtain ⟨isFree, -, passed⟩ := found
      have earlier : ∀ i < n, numberedKey base (i + 2) ∈ used := by
        intro i before
        simpa using passed i before
      -- The bound is that of the first free key, which comes no later than the one that there is.
      have bound : n < used.length := by
        obtain ⟨i, small, absent⟩ := exists_free_numberedKey taken
        apply Nat.lt_of_le_of_lt _ small
        apply Nat.le_of_not_lt
        intro before
        exact absent (earlier i before)
      apply KeyFor.numbered taken (Nat.le_add_left 2 n) (by omega)
      · simpa using isFree
      · intro m low below
        obtain ⟨i, rfl⟩ : ∃ i, m = i + 2 := ⟨m - 2, by omega⟩
        exact earlier i (by omega)
  · rename_i absent
    rw [List.contains_iff_mem] at absent
    exact .free absent

/-- The name that a provider asks to serve under: the one that is asked for it, or else its service hash, or
else the name of its class. The empty name is none. -/
inductive Requests (p : Provider κ) : Option String → String → Prop where
  | asked {name : String} : name ≠ "" → Requests p (some name) name
  | hash {asked? : Option String} {name : String} : asked?.getD "" = "" → p.serviceHash? = some name → name ≠ "" →
      Requests p asked? name
  | class {asked? : Option String} : asked?.getD "" = "" → p.serviceHash?.getD "" = "" →
      Requests p asked? p.cls.name

theorem requests_askedKey (p : Provider κ) (asked? : Option String) : Requests p asked? (askedKey p asked?) := by
  unfold askedKey
  by_cases wanted : asked?.getD "" = ""
  · by_cases own : p.serviceHash?.getD "" = ""
    · have none : (([asked?, p.serviceHash?].filterMap id).find? fun name => !name.isEmpty) = none := by
        cases asked? <;> cases hash : p.serviceHash? <;> simp_all
      rw [none]
      exact .class wanted own
    · obtain ⟨name, isHash⟩ : ∃ name, p.serviceHash? = some name := by
        cases hash : p.serviceHash? <;> simp_all
      rw [isHash] at own
      have first : (([asked?, some name].filterMap id).find? fun name => !name.isEmpty) = some name := by
        cases asked? <;> simp_all
      rw [isHash, first]
      exact .hash wanted isHash own
  · cases asked? with
    | none => exact absurd rfl wanted
    | some name =>
      have first : (([some name, p.serviceHash?].filterMap id).find? fun name => !name.isEmpty) = some name := by
        cases p.serviceHash? <;> simp_all
      rw [first]
      exact .asked wanted

end Keys

end Host

/-- What a call that adds a provider is given. -/
structure Admission (κ : Type) where
  candidate : Candidate κ
  options : Value
  asked? : Option String

namespace Admission

def perform (call : Admission κ) : HostAct κ (String × Provider κ) :=
  Host.addProvider call.candidate call.options call.asked?

/-- A call adds the provider that its candidate becomes, under a free key, and no other service. -/
structure Adds (call : Admission κ) (host left : Host κ) (key : String) (p : Provider κ) : Prop where
  isNew : call.candidate.provider? call.options call.asked? host.constructed = some p
  chosen : ∃ base, Host.Requests p call.asked? base ∧ Host.KeyFor (host.services.map (·.1)) base key
  fresh : key ∉ host.services.map (·.1)
  added : left.services = host.services ++ [(key, p)]

/-- A call adds a service, or it fails and adds none. -/
theorem play_perform (call : Admission κ) (host : Host κ) :
    (∃ key p left, call.perform.play host = (.ok (key, p), left) ∧ call.Adds host left key p) ∨
      ∃ fault left, call.perform.play host = (.error fault, left) ∧ left.services = host.services := by
  cases refused : call.candidate.fault? call.options with
  | some fault =>
    obtain ⟨left, plays, gained⟩ := Host.play_addProvider_refused refused call.asked? host
    exact .inr ⟨fault, left, plays, by rw [gained.others]⟩
  | none =>
    obtain ⟨p, left, isNew, plays, added, -⟩ := Host.play_addProvider_admitted refused call.asked? host
    have chosen := Host.keyFor_freeKey (host.services.map (·.1)) (Host.askedKey p call.asked?)
    exact .inl ⟨_, p, left, plays, isNew, ⟨_, Host.requests_askedKey p call.asked?, chosen⟩, chosen.fresh, added⟩

end Admission

namespace Host

/-- The host after calls that add providers, whether they failed or not. -/
def admitAll (host : Host κ) (calls : List (Admission κ)) : Host κ :=
  calls.foldl (fun left call => (call.perform.play left).2) host

theorem admitAll_append (host : Host κ) (calls further : List (Admission κ)) :
    host.admitAll (calls ++ further) = (host.admitAll calls).admitAll further :=
  List.foldl_append

/-- Calls put further services behind those that there are. -/
theorem services_admitAll (host : Host κ) (calls : List (Admission κ)) :
    host.services <+: (host.admitAll calls).services := by
  induction calls generalizing host with
  | nil => exact List.prefix_refl _
  | cons call rest ih =>
    have later := ih (call.perform.play host).2
    apply List.IsPrefix.trans _ later
    rcases call.play_perform host with ⟨key, p, left, plays, adds⟩ | ⟨fault, left, plays, same⟩
    · rw [plays, adds.added]
      exact List.prefix_append _ _
    · have unchanged : (call.perform.play host).2.services = host.services := by rw [plays, same]
      exact unchanged ▸ List.prefix_refl _

theorem nodup_admitAll {host : Host κ} (distinct : (host.services.map (·.1)).Nodup) (calls : List (Admission κ)) :
    ((host.admitAll calls).services.map (·.1)).Nodup := by
  induction calls generalizing host with
  | nil => exact distinct
  | cons call rest ih =>
    apply @ih (call.perform.play host).2
    rcases call.play_perform host with ⟨key, p, left, plays, adds⟩ | ⟨fault, left, plays, same⟩
    · rw [plays, adds.added, List.map_append]
      apply distinct.append (List.nodup_singleton key)
      exact List.disjoint_singleton.2 adds.fresh
    · rwa [plays, same]

/-- A service is found as long as no other service is put in front of it. -/
theorem service?_of_prefix {host left : Host κ} (front : host.services <+: left.services) {key : String}
    {p : Provider κ} (serves : host.service? key = some p) : left.service? key = some p := by
  obtain ⟨further, same⟩ := front
  unfold service? at *
  rw [← same, List.lookup_append, serves, Option.some_or]

theorem service?_of_added {host left : Host κ} {key : String} {p : Provider κ} (fresh : key ∉ host.services.map (·.1))
    (added : left.services = host.services ++ [(key, p)]) : left.service? key = some p := by
  have absent : host.services.lookup key = none := by
    apply List.lookup_eq_none_iff.2
    intro service among
    apply bne_iff_ne.2
    rintro rfl
    exact fresh (List.mem_map_of_mem among)
  unfold service?
  rw [added, List.lookup_append, absent, Option.none_or, List.lookup_cons_self]

/-- Of any calls that add providers, each adds one service, under a key that was free, or it fails and adds
none. The provider is found under that key from then on. So is every provider that served before, and all
services stay in their places. -/
theorem services_are_kept (host : Host κ) (calls : List (Admission κ)) :
    (∀ before call after, calls = before ++ call :: after →
      (∃ key p left, call.perform.play (host.admitAll before) = (.ok (key, p), left) ∧
        call.Adds (host.admitAll before) left key p ∧ (host.admitAll calls).service? key = some p) ∨
      ∃ fault left, call.perform.play (host.admitAll before) = (.error fault, left) ∧
        left.services = (host.admitAll before).services) ∧
    (∀ key p, host.service? key = some p → (host.admitAll calls).service? key = some p) ∧
    host.services <+: (host.admitAll calls).services ∧
    ((host.services.map (·.1)).Nodup → ((host.admitAll calls).services.map (·.1)).Nodup) := by
  have front := services_admitAll host calls
  refine ⟨?_, fun key p serves => service?_of_prefix front serves, front, fun distinct => nodup_admitAll distinct calls⟩
  intro before call after split
  rcases call.play_perform (host.admitAll before) with ⟨key, p, left, plays, adds⟩ | failed
  · refine .inl ⟨key, p, left, plays, adds, ?_⟩
    have rest : host.admitAll calls = left.admitAll after := by
      rw [split, admitAll_append, admitAll, List.foldl_cons, plays]
      rfl
    rw [rest]
    exact service?_of_prefix (services_admitAll left after) (service?_of_added adds.fresh adds.added)
  · exact .inr failed

-- A numbered key that was asked for by name is passed over.
example : freeKey ["Default", "Default-2", "Other"] "Default" = "Default-3" := by decide +kernel

end Host

end Stencil
