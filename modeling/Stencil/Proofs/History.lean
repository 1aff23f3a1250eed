import Mathlib.Data.List.Induction
import Stencil.Proofs.Quotable
import Stencil.Proofs.Table

/-! The pattern table as the history of its registrations.

What a table holds is what was registered, and in what order: one pattern for each delimiter pair, the
last one that was registered for it, in the place of the first one. A call that does not fit fails and
changes nothing.
-/

set_option autoImplicit false

namespace Stencil

namespace Pattern

variable {η : Type}

def pair (p : Pattern η) : Delimiter × Delimiter :=
  (p.opening, p.closing)

/-- The last pattern that a history has for a delimiter pair. -/
def latest? (history : List (Pattern η)) (opening closing : Delimiter) : Option (Pattern η) :=
  (history.filter fun p => p.opening = opening ∧ p.closing = closing).getLast?

/-- The closing delimiters of an opening delimiter, in the order in which they came first. -/
def closingsOf (history : List (Pattern η)) (opening : Delimiter) : List Delimiter :=
  ((history.filter fun p => p.opening = opening).map (·.closing)).eraseDups

/-- The delimiter pairs of a history: by their opening delimiters, in the order in which these came first,
and under each of them in the order in which the pairs came first. -/
def pairsOf (history : List (Pattern η)) : List (Delimiter × Delimiter) :=
  (history.map (·.opening)).eraseDups.flatMap fun opening =>
    (closingsOf history opening).map fun closing => (opening, closing)

theorem latest?_concat (history : List (Pattern η)) (p : Pattern η) (opening closing : Delimiter) :
    latest? (history ++ [p]) opening closing =
      if p.opening = opening ∧ p.closing = closing then some p else latest? history opening closing := by
  by_cases same : p.opening = opening ∧ p.closing = closing <;> simp [latest?, same]

theorem pair_of_latest? {history : List (Pattern η)} {opening closing : Delimiter} {p : Pattern η}
    (latest : latest? history opening closing = some p) : p.opening = opening ∧ p.closing = closing := by
  have among := List.mem_of_getLast? latest
  simpa using (List.mem_filter.1 among).2

theorem eraseDups_concat {α : Type} [BEq α] [LawfulBEq α] (items : List α) (item : α)
    [Decidable (item ∈ items)] :
    (items ++ [item]).eraseDups = if item ∈ items then items.eraseDups else items.eraseDups ++ [item] := by
  by_cases among : item ∈ items <;> simp [List.eraseDups_append, List.removeAll, List.eraseDups_cons, among]

namespace Table

variable (history : List (Pattern η))

theorem insertAll_concat (table : Table η) (p : Pattern η) :
    table.insertAll (history ++ [p]) = (table.insertAll history).insert p :=
  insertAll_append table history [p]

theorem handler?_insertAll (opening closing : Delimiter) :
    (empty.insertAll history).handler? opening.val closing.val =
      (latest? history opening closing).map (·.handler) := by
  induction history using List.reverseRecOn with
  | nil => rfl
  | append_singleton earlier p ih =>
    rw [insertAll_concat, latest?_concat]
    split
    · rename_i same
      rw [← same.1, ← same.2, handler?_insert_self]
      rfl
    · rename_i other
      rw [handler?_insert_of_other, ih]
      exact fun same => other ⟨Subtype.ext same.1, Subtype.ext same.2⟩

theorem openings_insertAll :
    (empty.insertAll history).groups.map (·.opening) = (history.map (·.opening)).eraseDups := by
  induction history using List.reverseRecOn with
  | nil => rfl
  | append_singleton earlier p ih =>
    rw [insertAll_concat, List.map_append, List.map_singleton, eraseDups_concat, insert, openings_insertGroup, ih]
    simp only [List.mem_eraseDups]

theorem closersOf_insertAll (opening : Delimiter) :
    ((empty.insertAll history).closersOf opening.val).map (·.1) = closingsOf history opening := by
  induction history using List.reverseRecOn with
  | nil => rfl
  | append_singleton earlier p ih =>
    rw [insertAll_concat, closersOf_insert, closingsOf, List.filter_append, List.map_append]
    by_cases same : p.opening = opening
    · rw [if_pos (congrArg _ same), keys_putCloser, ih]
      simp only [closingsOf, same, decide_true, List.filter_cons_of_pos, List.filter_nil, List.map_cons,
        List.map_nil, eraseDups_concat, List.mem_eraseDups]
    · rw [if_neg fun here => same (Subtype.ext here), ih]
      simp [closingsOf, same]

/-- In a table that keeps its delimiters once, each group has the closing delimiters of its opening delimiter. -/
theorem WellKept.closersOf_eq {table : Table η} (kept : table.WellKept) {group : Group η}
    (among : group ∈ table.groups) : table.closersOf group.opening.val = group.closers := by
  obtain ⟨found, isFound⟩ := Option.isSome_iff_exists.1
    (List.find?_isSome.2 ⟨group, among, beq_self_eq_true _⟩ :
      (table.groups.find? (·.opening.val == group.opening.val)).isSome = true)
  have same : found.opening = group.opening := Subtype.ext (by simpa using List.find?_some isFound)
  rw [closersOf, group?, isFound,
    List.inj_on_of_nodup_map kept.openings (List.mem_of_find?_eq_some isFound) among same]
  rfl

/-- The pairs of a table are the pairs of its history, in the same order. -/
theorem pairs_insertAll : (empty.insertAll history).patterns.map pair = pairsOf history := by
  have kept : (empty.insertAll history).WellKept := wellKept_empty.insertAll history
  simp only [pairsOf, ← openings_insertAll, ← closersOf_insertAll, patterns, List.map_flatMap, List.flatMap_map]
  apply List.flatMap_congr
  intro group among
  rw [kept.closersOf_eq among]
  simp [Group.patterns, pair, Function.comp_def]

theorem mem_insertAll {p : Pattern η} :
    p ∈ (empty.insertAll history).patterns ↔ latest? history p.opening p.closing = some p := by
  rw [(wellKept_empty.insertAll history).mem_patterns_iff, handler?_insertAll, Option.map_eq_some_iff]
  constructor
  · rintro ⟨q, latest, sameHandler⟩
    obtain ⟨sameOpening, sameClosing⟩ := pair_of_latest? latest
    obtain ⟨opening, closing, handler⟩ := q
    cases p
    simp_all
  · exact fun latest => ⟨p, latest, rfl⟩

theorem WellKept.pairs_nodup {table : Table η} (kept : table.WellKept) : (table.patterns.map pair).Nodup := by
  rw [patterns, List.map_flatMap, List.nodup_flatMap]
  constructor
  · intro group among
    have pairs : group.patterns.map pair = (group.closers.map (·.1)).map fun closing => (group.opening, closing) := by
      simp [Group.patterns, pair, Function.comp_def]
    rw [pairs]
    exact (kept.closings group among).map fun _ _ same => (Prod.mk.inj same).2
  · refine (List.pairwise_map.1 kept.openings).imp fun other => ?_
    rintro both among among'
    obtain ⟨p, member, rfl⟩ := List.mem_map.1 among
    obtain ⟨q, member', same⟩ := List.mem_map.1 among'
    have opening := (Prod.mk.inj same).1
    rw [Group.opening_of_mem_patterns member, Group.opening_of_mem_patterns member'] at opening
    exact other opening.symm

theorem WellKept.handler?_isSome_iff {table : Table η} (kept : table.WellKept) (opening closing : List Char) :
    (table.handler? opening closing).isSome = true ↔
      ∃ p ∈ table.patterns, p.opening.val = opening ∧ p.closing.val = closing := by
  constructor
  · intro stored
    obtain ⟨handler, stored⟩ := Option.isSome_iff_exists.1 stored
    obtain ⟨p, among, sameOpening, sameClosing, -⟩ := exists_pattern_of_handler? stored
    exact ⟨p, among, sameOpening, sameClosing⟩
  · rintro ⟨p, among, rfl, rfl⟩
    exact kept.handler?_isSome among

theorem WellKept.opens_iff {table : Table η} (kept : table.WellKept) (opening : List Char) :
    table.opens opening = true ↔ ∃ p ∈ table.patterns, p.opening.val = opening := by
  rw [opens, Option.any_eq_true]
  constructor
  · rintro ⟨group, isGroup, some⟩
    obtain ⟨⟨closing, handler⟩, closer⟩ := List.exists_mem_of_ne_nil group.closers (by simpa using some)
    exact ⟨⟨group.opening, closing, handler⟩,
      mem_patterns.2 ⟨group, List.mem_of_find?_eq_some isGroup, rfl, closer⟩, by simpa using List.find?_some isGroup⟩
  · rintro ⟨p, among, rfl⟩
    obtain ⟨handler, stored⟩ := Option.isSome_iff_exists.1 (kept.handler?_isSome among)
    obtain ⟨group, isGroup, -⟩ := Option.bind_eq_some_iff.1 stored
    exact ⟨group, isGroup, by simpa using kept.filled group (List.mem_of_find?_eq_some isGroup)⟩

/-- A table holds what a history registered: each pair once, with the last pattern that came for it, in the
order in which opening delimiters and their pairs came first. -/
structure Records (table : Table η) (history : List (Pattern η)) : Prop where
  order : table.patterns.map pair = pairsOf history
  once : (table.patterns.map pair).Nodup
  ever : ∀ opening closing,
    (opening, closing) ∈ table.patterns.map pair ↔ ∃ p ∈ history, p.opening = opening ∧ p.closing = closing
  latest : ∀ p, p ∈ table.patterns ↔ latest? history p.opening p.closing = some p
  stored : ∀ opening closing, (table.handler? opening closing).isSome = true ↔
    ∃ p ∈ table.patterns, p.opening.val = opening ∧ p.closing.val = closing
  opens : ∀ opening, table.opens opening = true ↔ ∃ p ∈ table.patterns, p.opening.val = opening
  delimiters : ∀ p ∈ table.patterns, p.opening.val ≠ [] ∧ p.closing.val ≠ []

theorem records_insertAll : (empty.insertAll history).Records history := by
  have kept : (empty.insertAll history).WellKept := wellKept_empty.insertAll history
  refine ⟨pairs_insertAll history, kept.pairs_nodup, ?_, fun p => mem_insertAll history, kept.handler?_isSome_iff,
    kept.opens_iff, fun p _ => ⟨p.opening.property, p.closing.property⟩⟩
  intro opening closing
  simp only [pairs_insertAll, pairsOf, closingsOf, List.mem_flatMap, List.mem_eraseDups, List.mem_map, List.mem_filter]
  constructor
  · rintro ⟨_, -, _, ⟨p, ⟨among, same⟩, rfl⟩, isPair⟩
    cases isPair
    exact ⟨p, among, by simpa using same, rfl⟩
  · rintro ⟨p, among, rfl, rfl⟩
    exact ⟨p.opening, ⟨p, among, rfl⟩, p.closing, ⟨p, ⟨among, by simp⟩, rfl⟩, rfl⟩

end Table

end Pattern

variable {κ : Type}

theorem Check.delimiter_eq_ok_iff {value : Value} {delimiter : Delimiter} :
    Check.delimiter value = .ok delimiter ↔ value.asText? = some (String.ofList delimiter.val) := by
  cases isText : value.asText? with
  | none => simp [Check.delimiter, isText, Checked.refuse]
  | some s =>
    simp only [Check.delimiter, isText, Option.some.injEq]
    split
    · simp only [Except.ok.injEq, Subtype.ext_iff, ← String.toList_inj, String.toList_ofList]
    · rename_i empty
      simp only [Checked.refuse, reduceCtorEq, false_iff]
      rintro rfl
      exact empty (by simpa using delimiter.property)

theorem Check.callable_eq_ok_iff {value : Value} :
    Check.callable value = .ok () ↔ ∃ name, value = .object (.method name) := by
  cases value with
  | object o => cases o <;> simp [Check.callable, Checked.refuse]
  | _ => simp [Check.callable, Checked.refuse]

namespace Registration

variable (call : Registration κ)

/-- What a call has to be given: two texts that are not empty, and two things that can be called. -/
structure Fits : Prop where
  opening : ∃ s, call.opening.asText? = some s ∧ s ≠ ""
  closing : ∃ s, call.closing.asText? = some s ∧ s ≠ ""
  render : ∃ name, call.render = .object (.method name)
  renderAsync : ∃ name, call.renderAsync = .object (.method name)

/-- What a call that does not fit is refused with. The message shows both delimiters as they were given, so
it cannot be written where an integer in them has too many digits. -/
inductive Refusal : Fault → Prop where
  | invalid {opening closing : String} {report : Report} :
      ¬ (call.opening.Long ∨ call.closing.Long) → call.opening.quoted = .ok opening →
      call.closing.quoted = .ok closing →
      call.checked = .error report →
      Refusal (.render ⟨.invalidPattern, "Invalid delimiter pair " ++ opening ++ "..." ++ closing,
        [(.text "start", call.opening), (.text "end", call.closing)]⟩ (some (.invalid report)))
  | unwritable : call.opening.Long ∨ call.closing.Long → Refusal (.numeral .tooLongToWrite)

/-- The pattern of a call has the parts that the call was given. -/
structure Registers (p : Pattern (Handler κ)) : Prop where
  opening : call.opening.asText? = some (String.ofList p.opening.val)
  closing : call.closing.asText? = some (String.ofList p.closing.val)
  handler : p.handler = call.handler

theorem fits_iff :
    call.Fits ↔ (∃ opening, Check.delimiter call.opening = .ok opening) ∧
      (∃ closing, Check.delimiter call.closing = .ok closing) ∧
      Check.callable call.render = .ok () ∧ Check.callable call.renderAsync = .ok () := by
  have filled (value : Value) : (∃ s, value.asText? = some s ∧ s ≠ "") ↔ ∃ d, Check.delimiter value = .ok d := by
    simp only [Check.delimiter_eq_ok_iff]
    constructor
    · rintro ⟨s, isText, some⟩
      exact ⟨⟨s.toList, by simpa using some⟩, by simpa using isText⟩
    · rintro ⟨d, isText⟩
      exact ⟨_, isText, fun none => d.property (by simpa using congrArg String.toList none)⟩
  simp only [← filled, Check.callable_eq_ok_iff]
  exact ⟨fun ⟨o, c, r, a⟩ => ⟨o, c, r, a⟩, fun ⟨o, c, r, a⟩ => ⟨o, c, r, a⟩⟩

/-- A call that fits has a pattern with its parts, and no other call has a pattern. -/
theorem pattern?_cases :
    (call.Fits ∧ ∃ p, call.pattern? = some p ∧ call.Registers p) ∨
      (¬ call.Fits ∧ call.pattern? = none ∧ ∃ report, call.checked = .error report) := by
  have parts := congrArg (Checked.toReport PatternData.modelName)
    (PatternData.check_parts call.opening call.closing call.render call.renderAsync)
  rw [fits_iff]
  cases opens : Check.delimiter call.opening <;> cases closes : Check.delimiter call.closing <;>
    cases renders : Check.callable call.render <;> cases answers : Check.callable call.renderAsync <;>
    rw [opens, closes, renders, answers] at parts
  case ok.ok.ok.ok opening closing _ _ =>
    exact .inl ⟨⟨⟨_, rfl⟩, ⟨_, rfl⟩, rfl, rfl⟩, ⟨opening, closing, call.handler⟩, pattern?_of_ok parts,
      Check.delimiter_eq_ok_iff.1 opens, Check.delimiter_eq_ok_iff.1 closes, rfl⟩
  all_goals exact .inr ⟨by simp, pattern?_of_error parts, _, parts⟩

/-- What is wrong with a call is reported with a fault, or else there is one in putting the message together. -/
theorem refusal_invalidPattern {report : Report} (refused : call.checked = .error report) :
    ∃ fault, (invalidPattern call.opening call.closing report = .ok fault ∨
      invalidPattern call.opening call.closing report = .error fault) ∧ call.Refusal fault := by
  simp only [invalidPattern]
  cases Value.failsIf_quoted call.opening with
  | failed long fails =>
    exact ⟨_, .inr (by rw [fails]; rfl), .unwritable (.inl long)⟩
  | @done opening short written =>
    cases Value.failsIf_quoted call.closing with
    | failed long fails =>
      exact ⟨_, .inr (by rw [written, fails]; rfl), .unwritable (.inr long)⟩
    | @done closing short' written' =>
      exact ⟨_, .inl (by rw [written, written']; rfl), .invalid (not_or.2 ⟨short, short'⟩) written written' refused⟩

theorem play_perform_refused {report : Report} (refused : call.checked = .error report) (host : Host κ) :
    ∃ fault, call.perform.play host = (.error fault, host) ∧ call.Refusal fault := by
  obtain ⟨fault, fails, refusal⟩ := call.refusal_invalidPattern refused
  refine ⟨fault, ?_, refusal⟩
  rw [play_perform_of_error refused]
  rcases fails with fails | fails <;> rw [fails]

end Registration

namespace Host

/-- After any calls, the table of a host records those of them that fit. A call fits and registers its pattern,
or it is refused and leaves the host as it was. -/
theorem table_records_calls (settings : Settings) (appData bundle : Entries) (console : Log.Console)
    (calls : List (Registration κ)) :
    let host := (Host.ofSettings settings appData bundle console).registerAll calls
    host.table.Records (calls.filterMap Registration.pattern?) ∧
    ∀ call : Registration κ,
      (call.Fits → ∃ p left, call.perform.play host = (.ok p, left) ∧ call.pattern? = some p ∧ call.Registers p) ∧
      (¬ call.Fits → call.pattern? = none ∧
        ∃ fault, call.perform.play host = (.error fault, host) ∧ call.Refusal fault) := by
  intro host
  constructor
  · have table : host.table = Pattern.Table.empty.insertAll (calls.filterMap Registration.pattern?) :=
      registerAll_table _ calls
    rw [table]
    exact Pattern.Table.records_insertAll _
  · intro call
    rcases call.pattern?_cases with ⟨fits, p, isPattern, parts⟩ | ⟨wrong, none, report, refused⟩
    · obtain ⟨printed, plays⟩ := Registration.play_perform_of_pattern isPattern host
      exact ⟨fun _ => ⟨p, _, plays, isPattern, parts⟩, fun wrong => absurd fits wrong⟩
    · exact ⟨fun fits => absurd fits wrong, fun _ => ⟨none, call.play_perform_refused refused host⟩⟩

/-- A delimiter that cannot be written is refused, though not as an invalid pattern. -/
theorem unwritable_delimiter_refused :
    let call : Registration Unit :=
      ⟨.int (Number.tenTo Number.digitLimit), .text "\x7d", methodValue "render", methodValue "render_async", ⟨(), none⟩⟩
    let host := Host.ofSettings .default [] [] (.initial "")
    ¬ call.Fits ∧ call.perform.play host = (.error (.numeral .tooLongToWrite), host) := by
  intro call host
  have wrong : ¬ call.Fits := by
    rintro ⟨⟨_, isText, -⟩, -⟩
    cases isText
  obtain ⟨-, calls⟩ := table_records_calls .default [] [] (.initial "") []
  obtain ⟨-, fault, plays, refusal⟩ := (calls call).2 wrong
  have long : call.opening.Long := Nat.le_of_eq (Int.natAbs_natCast _).symm
  cases refusal with
  | invalid short => exact absurd (.inl long) short
  | unwritable => exact ⟨wrong, plays⟩

end Host

end Stencil
