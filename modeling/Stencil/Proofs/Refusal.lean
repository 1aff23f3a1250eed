import Stencil.Proofs.Admission
import Stencil.Proofs.CountBlind

/-! What a refused provider leaves behind.

A constructor registers its delimiter pairs in the host's own table, one by one, and nothing takes
them back when it fails. So the pairs before the failure stay, in the places of earlier handlers if
there were some. Every other pair is as it was, and so are the segments of texts in which no opening
delimiter of the pairs occurs.
-/

set_option autoImplicit false

namespace Stencil

namespace Pattern

open Text

variable {η : Type}

namespace Table

theorem handler?_insertAll_of_others {patterns : List (Pattern η)} {opening closing : List Char}
    (others : ∀ p ∈ patterns, ¬ (p.opening.val = opening ∧ p.closing.val = closing)) (table : Table η) :
    (table.insertAll patterns).handler? opening closing = table.handler? opening closing := by
  induction patterns generalizing table with
  | nil => rfl
  | cons p rest ih =>
    obtain ⟨first, later⟩ := List.forall_mem_cons.1 others
    exact (ih later (table.insert p)).trans (handler?_insert_of_other first table)

/-- A pattern does not count where its opening delimiter does not stand. -/
theorem openAt_insert_of_absent {p : Pattern η} {text : List Char} (absent : ¬ p.opening.val <+: text)
    (table : Table η) : (table.insert p).openAt text = table.openAt text := by
  have none : after? p.opening.val text = none := by
    rw [Option.eq_none_iff_forall_ne_some]
    intro rest found
    exact absent ⟨rest, ((after?_eq_some_iff _ _ _).1 found).symm⟩
  obtain ⟨groups⟩ := table
  simp only [openAt, insert]
  congr 1
  induction groups with
  | nil => simp [insertGroup, none]
  | cons group rest ih =>
    by_cases same : group.opening = p.opening
    · simp [insertGroup, same, none]
    · simp only [insertGroup, same, if_false, List.filterMap_cons, ih]

theorem scan_of_span {table : Table η} {c : Char} {rest : List Char} {ending : Ending η}
    (isSpan : table.front (c :: rest) = .span ending) :
    table.scan (c :: rest) = .span ending.pattern ending.hash :: table.scan ending.rest := by
  rw [scan]
  split <;> simp_all

theorem scan_of_unclosed {table : Table η} {c : Char} {rest opening after : List Char}
    (isOpen : table.front (c :: rest) = .unclosed opening after) :
    table.scan (c :: rest) = addLiteral opening (table.scan after) := by
  rw [scan]
  split <;> simp_all

theorem scan_of_plain {table : Table η} {c : Char} {rest : List Char} (isPlain : table.front (c :: rest) = .plain) :
    table.scan (c :: rest) = addLiteral [c] (table.scan rest) := by
  rw [scan]
  split <;> simp_all

theorem scan_insert_of_absent {p : Pattern η} {text : List Char} (absent : ¬ p.opening.val <:+: text)
    (table : Table η) : (table.insert p).scan text = table.scan text := by
  have front {text : List Char} (absent : ¬ p.opening.val <:+: text) :
      (table.insert p).front text = table.front text := by
    simp only [Table.front, openAt_insert_of_absent (fun found => absent found.isInfix)]
  have later {before rest : List Char} (absent : ¬ p.opening.val <:+: before ++ rest) : ¬ p.opening.val <:+: rest :=
    fun found => absent (found.trans (List.suffix_append before rest).isInfix)
  -- What is scanned next is always the end of the text, where the delimiter does not occur either.
  fun_induction Table.scan table text with
  | case1 => rw [scan_nil]
  | case2 c rest ending isSpan ih =>
    have source := front_span_source isSpan
    rw [scan_of_span ((front absent).trans isSpan), ih (later (source ▸ absent))]
  | case3 c rest opening after isOpen ih =>
    have source := front_unclosed_source isOpen
    rw [scan_of_unclosed ((front absent).trans isOpen), ih (later (source ▸ absent))]
  | case4 c rest isPlain ih =>
    rw [scan_of_plain ((front absent).trans isPlain), ih (later (List.singleton_append ▸ absent))]

/-- Patterns make no difference to a text in which none of their opening delimiters occurs. -/
theorem segments_insertAll_of_absent {patterns : List (Pattern η)} {text : List Char}
    (absent : ∀ p ∈ patterns, ¬ p.opening.val <:+: text) (table : Table η) :
    (table.insertAll patterns).segments text = table.segments text := by
  simp only [segments_eq_scan]
  induction patterns generalizing table with
  | nil => rfl
  | cons p rest ih =>
    obtain ⟨first, later⟩ := List.forall_mem_cons.1 absent
    exact (ih later (table.insert p)).trans (scan_insert_of_absent first table)

end Table

end Pattern

variable {κ : Type}

namespace Host

/-- All that an attempt leaves in a host are the patterns that were registered in it, and records in the
log. Where there were none, templates are rendered as before. -/
structure LeavesOnly (patterns : List (Pattern (Handler κ))) (host left : Host κ) : Prop where
  services : left.services = host.services
  table : left.table = host.table.insertAll patterns
  others : left = { host with table := left.table, constructed := left.constructed, console := left.console }
  handlers : ∀ opening closing, (∀ p ∈ patterns, ¬ (p.opening.val = opening ∧ p.closing.val = closing)) →
    left.table.handler? opening closing = host.table.handler? opening closing
  segments : ∀ text, (∀ p ∈ patterns, ¬ p.opening.val <:+: text.toList) → left.segments text = host.segments text
  rendering : patterns = [] → left.table = host.table ∧
    ∀ behaviour : Behaviour κ, (∀ handler hash arguments, CountBlind (behaviour.render handler hash arguments)) →
      ∀ template arguments, ((renderTemplate behaviour template arguments).play left).1 =
        ((renderTemplate behaviour template arguments).play host).1

theorem Gained.leavesOnly {patterns : List (Pattern (Handler κ))} {host left : Host κ}
    (gained : Gained patterns host left) : LeavesOnly patterns host left where
  services := by rw [gained.others]
  table := gained.table
  others := gained.others
  handlers opening closing others := by
    rw [gained.table, Pattern.Table.handler?_insertAll_of_others others]
  segments text absent := by
    rw [segments, segments, gained.table, Pattern.Table.segments_insertAll_of_absent absent]
  rendering none := by
    have sameTable : left.table = host.table := by rw [gained.table, none, Pattern.Table.insertAll, List.foldl_nil]
    have counted : left = { host with constructed := left.constructed } := by
      rw [gained.others, sameTable, gained.quiet none]
    refine ⟨sameTable, fun behaviour blind template arguments => ?_⟩
    rw [counted]
    exact (countBlind_renderTemplate blind template arguments).result host left.constructed

/-- Where adding a provider fails, the services stay as they were. In the pattern table are, besides what
was there, the pairs that the constructor registered before it failed, and only these. -/
theorem failed_addProvider_leaves {candidate : Candidate κ} {options : Value} {asked? : Option String}
    {host left : Host κ} {fault : Fault}
    (failed : (addProvider candidate options asked?).play host = (.error fault, left)) :
    LeavesOnly (candidate.offers options asked? host.constructed) host left := by
  cases refused : candidate.fault? options with
  | none =>
    obtain ⟨p, _, -, plays, -⟩ := play_addProvider_admitted refused asked? host
    simp [plays] at failed
  | some reason =>
    obtain ⟨_, plays, gained⟩ := play_addProvider_refused refused asked? host
    obtain ⟨-, rfl⟩ := Prod.mk.inj (plays.symm.trans failed)
    exact gained.leavesOnly

/-- A class that registers one pair and fails at the next. -/
def halfway : ProviderClass Script :=
  .derived "Halfway" "Halfway" [(.text "<", .text ">"), (.text "", .text ">")] (.ofRender (.affix "r(" ")"))

/-- A class that fails at its first pair. -/
def unmarked : ProviderClass Script :=
  .derived "Unmarked" "Unmarked" [(.text "<", .text ""), (.text "<", .text ">")] (.ofRender (.affix "r(" ")"))

def bareHost : Host Script :=
  ofSettings .default [] [] (.initial "")

/-- A provider that was refused renders. -/
theorem refused_provider_renders :
    ∃ fault left, (addProvider (.cls halfway) .null none).play bareHost = (.error fault, left) ∧
      bareHost.table.patterns.length = 0 ∧ left.table.patterns.length = 1 ∧
      ((renderTemplate Script.behaviour (.text "<a>") ⟨.null, .null, 0⟩).play bareHost).1.toOption = some "<a>" ∧
      ((renderTemplate Script.behaviour (.text "<a>") ⟨.null, .null, 0⟩).play left).1.toOption = some "r(a)" := by
  refine ⟨_, _, rfl, rfl, rfl, ?_, ?_⟩
  · decide +kernel
  · decide +kernel

theorem failed_addProvider_leaves_halfway :
    (∃ fault left, (addProvider (.cls halfway) .null none).play bareHost = (.error fault, left) ∧
      left.services = [] ∧ left.table.handler? ['('] [')'] = none ∧ left.segments "(a)" = bareHost.segments "(a)") ∧
    ∃ fault left, (addProvider (.cls unmarked) .null none).play bareHost = (.error fault, left) ∧
      left.table = bareHost.table ∧
      ∀ template arguments, ((renderTemplate Script.behaviour template arguments).play left).1 =
        ((renderTemplate Script.behaviour template arguments).play bareHost).1 := by
  constructor
  · have failed : (addProvider (.cls halfway) .null none).play bareHost = (.error _, _) := rfl
    have leaves := failed_addProvider_leaves failed
    have only : ∀ p ∈ (Candidate.cls halfway).offers .null none 0, p.opening.val = ['<'] :=
      List.forall_mem_singleton.2 rfl
    refine ⟨_, _, failed, leaves.services, leaves.handlers _ _ ?_, leaves.segments _ ?_⟩
    · rintro p offered ⟨here, -⟩
      simp [only p offered] at here
    · intro p offered
      rw [only p offered]
      decide
  · have failed : (addProvider (.cls unmarked) .null none).play bareHost = (.error _, _) := rfl
    have leaves := (failed_addProvider_leaves failed).rendering rfl
    exact ⟨_, _, failed, leaves.1, leaves.2 _ Script.countBlind_behaviour⟩

end Host

end Stencil
