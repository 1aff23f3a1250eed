import Stencil.Proofs.Table

/-! Admitting providers to a host.

Whether a class is refused, and with which fault, depends on the class and the options, not on the
host. A provider that is admitted serves under a free key. What a refused one leaves in the host are
the patterns that its constructor registered before it failed, and what was logged on the way.
-/

set_option autoImplicit false

namespace Stencil

variable {κ : Type}

namespace Host

section Gains

/-- A host has gained patterns, and nothing else of it but the log and the count of providers is
different. Without a pattern there is nothing in the log. -/
structure Gained (patterns : List (Pattern (Handler κ))) (host left : Host κ) : Prop where
  table : left.table = host.table.insertAll patterns
  others : left = { host with table := left.table, constructed := left.constructed, console := left.console }
  quiet : patterns = [] → left.console = host.console

theorem Gained.refl (host : Host κ) : Gained [] host host := ⟨rfl, rfl, fun _ => rfl⟩

theorem Gained.trans {patterns further : List (Pattern (Handler κ))} {host mid left : Host κ}
    (first : Gained patterns host mid) (second : Gained further mid left) :
    Gained (patterns ++ further) host left where
  table := by rw [second.table, first.table, Pattern.Table.insertAll_append]
  others := by
    obtain ⟨-, same, -⟩ := first
    obtain ⟨-, same', -⟩ := second
    -- Both equations have the later host on both sides, so the hosts are taken apart.
    cases host
    cases mid
    cases left
    simp_all
  quiet none := by
    obtain ⟨rfl, rfl⟩ := List.append_eq_nil_iff.1 none
    rw [second.quiet rfl, first.quiet rfl]

/-- Counting a provider is no gain. -/
theorem gained_count (host : Host κ) (count : Nat) : Gained [] host { host with constructed := count } :=
  ⟨rfl, rfl, fun _ => rfl⟩

end Gains

section Pairs

def delimiter? (value : Value) : Option Delimiter :=
  (Check.delimiter value).toOption

/-- The pattern that a pair of values is for a handler: both values are delimiters. -/
def pairPattern? (handler : Handler κ) (pair : Value × Value) : Option (Pattern (Handler κ)) := do
  return ⟨← delimiter? pair.1, ← delimiter? pair.2, handler⟩

/-- The data of a pair that a provider registers. -/
def pairData (pair : Value × Value) : Value :=
  Settings.dictOf [("start", pair.1), ("end", pair.2), ("render", methodValue "render"),
    ("render_async", methodValue "render_async")]

/-- The fault of a pair that is no pattern. -/
def pairFault? (pair : Value × Value) : Option Fault :=
  match PatternData.ofValue (pairData pair) with
  | .ok _ => none
  | .error report =>
    match invalidPattern pair.1 pair.2 report with
    | .ok fault => some fault
    | .error fault => some fault

/-- Of a pair that a provider registers, only the delimiters can be wrong. -/
theorem check_pairData (opening closing : Value) :
    PatternData.check (pairData (opening, closing)) =
      Checked.both (fun opening closing => ⟨opening, closing, .null⟩)
        ((Check.delimiter opening).under (.name "start")) ((Check.delimiter closing).under (.name "end")) := by
  rw [pairData, PatternData.check_parts]
  cases Check.delimiter opening <;> cases Check.delimiter closing <;> rfl

/-- A pair is a pattern or it has a fault. -/
theorem pair_cases (handler : Handler κ) (pair : Value × Value) :
    (∃ pattern data, pairPattern? handler pair = some pattern ∧ pairFault? pair = none ∧
      PatternData.ofValue (pairData pair) = .ok data ∧ pattern = ⟨data.opening, data.closing, handler⟩) ∨
    (∃ fault report, pairPattern? handler pair = none ∧ pairFault? pair = some fault ∧
      PatternData.ofValue (pairData pair) = .error report) := by
  obtain ⟨opening, closing⟩ := pair
  simp only [pairPattern?, pairFault?, PatternData.ofValue, check_pairData, delimiter?]
  cases Check.delimiter opening <;> cases Check.delimiter closing
  case ok.ok first last => exact .inl ⟨_, _, rfl, rfl, rfl, rfl⟩
  all_goals
    refine .inr ?_
    simp only [Checked.under, Checked.both, Checked.toReport, Except.mapError, Except.toOption]
    split <;> exact ⟨_, _, rfl, rfl, rfl⟩

theorem play_addPattern_of_pattern {p : Provider κ} {pair : Value × Value} {pattern : Pattern (Handler κ)}
    (isPattern : pairPattern? p.handler pair = some pattern) (host : Host κ) :
    ∃ left, (addPattern p pair.1 pair.2).play host = (.ok (), left) ∧ Gained [pattern] host left := by
  rcases pair_cases p.handler pair with ⟨_, data, same, -, fits, rfl⟩ | ⟨_, _, none, -⟩
  · obtain rfl := Option.some.inj (same.symm.trans isPattern)
    let call : Registration κ := ⟨pair.1, pair.2, methodValue "render", methodValue "render_async", p.handler⟩
    have registered : call.pattern? = some ⟨data.opening, data.closing, p.handler⟩ := Registration.pattern?_of_ok fits
    obtain ⟨printed, plays⟩ := Registration.play_perform_of_pattern registered host
    simp only [Registration.perform, call] at plays
    simp only [addPattern, Act.play_bind, plays]
    split <;> exact ⟨_, rfl, rfl, rfl, fun none => absurd none (List.cons_ne_nil _ _)⟩
  · simp [none] at isPattern

theorem play_addPattern_of_fault {p : Provider κ} {pair : Value × Value} {fault : Fault}
    (faulty : pairFault? pair = some fault) (host : Host κ) :
    (addPattern p pair.1 pair.2).play host = (.error fault, host) := by
  rcases pair_cases p.handler pair with ⟨_, _, -, none, -⟩ | ⟨_, report, -, -, refused⟩
  · simp [none] at faulty
  · simp only [pairFault?, refused] at faulty
    let call : Registration κ := ⟨pair.1, pair.2, methodValue "render", methodValue "render_async", p.handler⟩
    have unfit : call.checked = .error report := refused
    have plays := Registration.play_perform_of_error unfit host
    simp only [Registration.perform, call] at plays
    simp only [addPattern, Act.play_bind, plays]
    split at faulty <;> simp_all

/-- The patterns of pairs, up to the first pair that is none. -/
def leadingPatterns (handler : Handler κ) : List (Value × Value) → List (Pattern (Handler κ))
  | [] => []
  | pair :: rest =>
    match pairPattern? handler pair with
    | some pattern => pattern :: leadingPatterns handler rest
    | none => []

/-- Pairs are registered up to the first that is no pattern. -/
theorem play_addPatterns (p : Provider κ) (pairs : List (Value × Value)) (host : Host κ) :
    ∃ left, (addPatterns p pairs).play host = ((pairs.findSome? pairFault?).elim (.ok ()) .error, left) ∧
      Gained (leadingPatterns p.handler pairs) host left := by
  induction pairs generalizing host with
  | nil => exact ⟨host, rfl, .refl host⟩
  | cons pair rest ih =>
    simp only [addPatterns, Act.play_bind, leadingPatterns, List.findSome?_cons]
    rcases pair_cases p.handler pair with ⟨pattern, _, isPattern, sound, -⟩ | ⟨fault, _, none, faulty, -⟩
    · obtain ⟨mid, plays, first⟩ := play_addPattern_of_pattern isPattern host
      obtain ⟨left, plays', later⟩ := ih mid
      simp only [plays, plays', isPattern, sound]
      exact ⟨left, rfl, first.trans later⟩
    · simp only [play_addPattern_of_fault faulty, none, faulty]
      exact ⟨host, rfl, .refl host⟩

end Pairs

section Construction

/-- The options that a provider keeps; only those of a derived class are looked at. -/
def keptOptions (cls : ProviderClass κ) (options : Value) : Outcome Entries :=
  if cls.templateHash?.isSome then Entries.gather options else .ok []

theorem play_newProvider (cls : ProviderClass κ) (options : Value) (asked? : Option String) (host : Host κ) :
    (newProvider cls options asked?).play host =
      match keptOptions cls options with
      | .ok kept => (.ok ⟨host.constructed, cls, kept, serviceHashOf cls asked?⟩,
          { host with constructed := host.constructed + 1 })
      | .error fault => (.error fault, host) := by
  simp only [newProvider, keptOptions]
  split
  · simp only [Act.play_bind, Act.play_ofResult]
    cases Entries.gather options <;> rfl
  · rfl

/-- The patterns that a provider registers while it is constructed. -/
def offers (p : Provider κ) : List (Pattern (Handler κ)) :=
  leadingPatterns p.handler p.cls.pairs

/-- What keeps a constructor from its end. -/
def constructionFault? (cls : ProviderClass κ) : Option Fault :=
  (cls.pairs.findSome? pairFault?).or cls.refusal?

theorem play_construct {cls : ProviderClass κ} {options : Value} {kept : Entries}
    (keeps : keptOptions cls options = .ok kept) (asked? : Option String) (host : Host κ) {p : Provider κ}
    (isNew : p = ⟨host.constructed, cls, kept, serviceHashOf cls asked?⟩) :
    ∃ left, (construct cls options asked?).play host = ((constructionFault? cls).elim (.ok p) .error, left) ∧
      Gained (offers p) host left := by
  obtain ⟨left, plays, gained⟩ := play_addPatterns p cls.pairs { host with constructed := host.constructed + 1 }
  have own : p.cls = cls := by rw [isNew]
  refine ⟨left, ?_, ?_⟩
  · simp only [construct, Act.play_bind, play_newProvider, keeps, ← isNew, plays, constructionFault?]
    cases cls.pairs.findSome? pairFault? with
    | some fault => rfl
    | none => cases cls.refusal? <;> rfl
  · rw [offers, own]
    exact (gained_count host (host.constructed + 1)).trans gained

end Construction

end Host

namespace Candidate

/-- What a candidate is refused for. -/
def fault? (candidate : Candidate κ) (options : Value) : Option Fault :=
  match candidate with
  | .value v =>
    match Outcome.ofNumeral v.quoted with
    | .ok shown => some (.classExpected shown)
    | .error fault => some fault
  | .cls kind =>
    if kind.renders then
      match Host.keptOptions kind options with
      | .ok _ => Host.constructionFault? kind
      | .error fault => some fault
    else some (.notRenderable kind.name)

/-- The provider that a candidate becomes, as the one with a serial. A value that is no class becomes none,
and neither does a class that does not render, or one that is given options that cannot be gathered. -/
def provider? (candidate : Candidate κ) (options : Value) (asked? : Option String) (serial : Nat) :
    Option (Provider κ) :=
  match candidate with
  | .value _ => none
  | .cls kind =>
    if kind.renders then
      (Host.keptOptions kind options).toOption.map fun kept => ⟨serial, kind, kept, Host.serviceHashOf kind asked?⟩
    else none

/-- The patterns that are registered for a candidate, admitted or not. -/
def offers (candidate : Candidate κ) (options : Value) (asked? : Option String) (serial : Nat) :
    List (Pattern (Handler κ)) :=
  (candidate.provider? options asked? serial).elim [] Host.offers

end Candidate

namespace Host

variable {candidate : Candidate κ} {options : Value}

/-- A candidate with a fault is refused with it, in every host. -/
theorem play_addProvider_refused {fault : Fault} (refused : candidate.fault? options = some fault)
    (asked? : Option String) (host : Host κ) :
    ∃ left, (addProvider candidate options asked?).play host = (.error fault, left) ∧
      Gained (candidate.offers options asked? host.constructed) host left := by
  cases candidate with
  | value v =>
    refine ⟨host, ?_, .refl host⟩
    simp only [Candidate.fault?] at refused
    simp only [addProvider, Act.play_bind, Act.play_ofResult]
    split at refused <;> simp_all
  | cls cls =>
    simp only [Candidate.fault?] at refused
    simp only [addProvider, Candidate.offers, Candidate.provider?]
    split at refused
    · rename_i renders
      simp only [renders, if_true, Act.play_bind]
      split at refused
      · rename_i kept keeps
        obtain ⟨left, plays, gained⟩ := play_construct keeps asked? host rfl
        simp only [plays, refused, keeps]
        exact ⟨left, rfl, gained⟩
      · rename_i fault keeps
        obtain rfl := Option.some.inj refused
        simp only [construct, Act.play_bind, play_newProvider, keeps]
        exact ⟨host, rfl, .refl host⟩
    · rename_i plain
      obtain rfl := Option.some.inj refused
      simp only [plain]
      exact ⟨host, rfl, .refl host⟩

/-- A candidate without a fault is admitted to every host, and serves behind all that serve there. -/
theorem play_addProvider_admitted (fits : candidate.fault? options = none) (asked? : Option String) (host : Host κ) :
    ∃ p left, candidate.provider? options asked? host.constructed = some p ∧
      (addProvider candidate options asked?).play host =
        (.ok (freeKey (host.services.map (·.1)) (askedKey p asked?), p), left) ∧
      left.services = host.services ++ [(freeKey (host.services.map (·.1)) (askedKey p asked?), p)] ∧
      left.table = host.table.insertAll (offers p) := by
  cases candidate with
  | value v =>
    simp only [Candidate.fault?] at fits
    split at fits <;> simp at fits
  | cls cls =>
    simp only [Candidate.fault?] at fits
    split at fits
    · rename_i renders
      split at fits
      · rename_i kept keeps
        obtain ⟨mid, plays, gained⟩ := play_construct keeps asked? host rfl
        have services : mid.services = host.services := by rw [gained.others]
        simp only [Candidate.provider?, addProvider, renders, if_true, Act.play_bind, plays, fits, keeps]
        simp only [Except.toOption, Option.map_some, Option.elim_none, Act.play_reading, services]
        exact ⟨_, _, rfl, rfl, congrArg (· ++ [_]) services, gained.table⟩
      · simp at fits
    · simp at fits

end Host

end Stencil
