import Mathlib.Data.List.Nodup
import Stencil.Host.Registration

/-! What registrations make of the pattern table.

A table that was built by registrations keeps each opening delimiter once, each closing delimiter
once under it, and no opening delimiter without a closing one. So a delimiter pair has at most one
pattern. A registration that fails leaves the table as it was.
-/

set_option autoImplicit false

namespace Stencil

namespace Pattern

variable {η : Type}

/-- Delimiters are kept once, and only for patterns. -/
structure Table.WellKept (table : Table η) : Prop where
  openings : (table.groups.map (·.opening)).Nodup
  closings : ∀ group ∈ table.groups, (group.closers.map (·.1)).Nodup
  filled : ∀ group ∈ table.groups, group.closers ≠ []

theorem keys_putCloser (closing : Delimiter) (handler : η) (closers : List (Delimiter × η)) :
    (putCloser closing handler closers).map (·.1) =
      if closing ∈ closers.map (·.1) then closers.map (·.1) else closers.map (·.1) ++ [closing] := by
  induction closers with
  | nil => simp [putCloser]
  | cons closer rest ih =>
    obtain ⟨c, h⟩ := closer
    by_cases same : c = closing
    · simp [putCloser, same]
    · have other : closing ≠ c := Ne.symm same
      simp only [putCloser, same, if_false, List.map_cons, ih, List.mem_cons, other, false_or]
      split <;> rfl

theorem nodup_putCloser {closing : Delimiter} {handler : η} {closers : List (Delimiter × η)}
    (distinct : (closers.map (·.1)).Nodup) : ((putCloser closing handler closers).map (·.1)).Nodup := by
  rw [keys_putCloser]
  split
  · exact distinct
  · rename_i new
    simpa only [List.concat_eq_append] using distinct.concat new

theorem putCloser_ne_nil (closing : Delimiter) (handler : η) (closers : List (Delimiter × η)) :
    putCloser closing handler closers ≠ [] := by
  cases closers with
  | nil => simp [putCloser]
  | cons closer rest =>
    simp only [putCloser]
    split <;> simp

theorem find?_putCloser_of_ne {closing : Delimiter} {end? : List Char} (other : closing.val ≠ end?) (handler : η)
    (closers : List (Delimiter × η)) :
    (putCloser closing handler closers).find? (·.1.val == end?) = closers.find? (·.1.val == end?) := by
  induction closers with
  | nil => simp [putCloser, other]
  | cons closer rest ih =>
    obtain ⟨c, h⟩ := closer
    by_cases same : c = closing
    · simp [putCloser, same, other]
    · simp only [putCloser, same, if_false, List.find?_cons, ih]

theorem find?_putCloser_self (closing : Delimiter) (handler : η) (closers : List (Delimiter × η)) :
    (putCloser closing handler closers).find? (·.1.val == closing.val) = some (closing, handler) := by
  induction closers with
  | nil => simp [putCloser]
  | cons closer rest ih =>
    obtain ⟨c, h⟩ := closer
    by_cases same : c = closing
    · simp [putCloser, same]
    · have other : c.val ≠ closing.val := fun here => same (Subtype.ext here)
      simpa [putCloser, same, other] using ih

namespace Table

theorem openings_insertGroup (p : Pattern η) (groups : List (Group η)) :
    (insertGroup p groups).map (·.opening) =
      if p.opening ∈ groups.map (·.opening) then groups.map (·.opening)
      else groups.map (·.opening) ++ [p.opening] := by
  induction groups with
  | nil => simp [insertGroup]
  | cons group rest ih =>
    by_cases same : group.opening = p.opening
    · simp [insertGroup, same]
    · have other : p.opening ≠ group.opening := Ne.symm same
      simp only [insertGroup, same, if_false, List.map_cons, ih, List.mem_cons, other, false_or]
      split <;> rfl

/-- A group after an insertion is one from before, the new group of the pattern, or the group of
its opening delimiter with the pattern put into it. -/
theorem mem_insertGroup {p : Pattern η} {groups : List (Group η)} {group : Group η}
    (member : group ∈ insertGroup p groups) :
    group ∈ groups ∨ group = ⟨p.opening, [(p.closing, p.handler)]⟩ ∨
      ∃ earlier ∈ groups, group = { earlier with closers := putCloser p.closing p.handler earlier.closers } := by
  induction groups with
  | nil => exact .inr (.inl (by simpa [insertGroup] using member))
  | cons first rest ih =>
    simp only [insertGroup] at member
    split at member
    · rcases List.mem_cons.1 member with here | later
      · exact .inr (.inr ⟨first, List.mem_cons_self, here⟩)
      · exact .inl (List.mem_cons_of_mem _ later)
    · rcases List.mem_cons.1 member with here | later
      · exact .inl (here ▸ List.mem_cons_self)
      · rcases ih later with kept | new | ⟨earlier, among, changed⟩
        · exact .inl (List.mem_cons_of_mem _ kept)
        · exact .inr (.inl new)
        · exact .inr (.inr ⟨earlier, List.mem_cons_of_mem _ among, changed⟩)

theorem wellKept_empty : (empty : Table η).WellKept where
  openings := List.nodup_nil
  closings := by simp [empty]
  filled := by simp [empty]

theorem WellKept.insert {table : Table η} (kept : table.WellKept) (p : Pattern η) : (table.insert p).WellKept where
  openings := by
    simp only [Table.insert, openings_insertGroup]
    split
    · exact kept.openings
    · rename_i new
      simpa only [List.concat_eq_append] using kept.openings.concat new
  closings group member := by
    rcases mem_insertGroup member with same | rfl | ⟨earlier, among, rfl⟩
    · exact kept.closings group same
    · simp
    · exact nodup_putCloser (kept.closings earlier among)
  filled group member := by
    rcases mem_insertGroup member with same | rfl | ⟨earlier, among, rfl⟩
    · exact kept.filled group same
    · simp
    · exact putCloser_ne_nil _ _ _

theorem mem_patterns {table : Table η} {pattern : Pattern η} :
    pattern ∈ table.patterns ↔
      ∃ group ∈ table.groups, group.opening = pattern.opening ∧ (pattern.closing, pattern.handler) ∈ group.closers := by
  simp only [patterns, List.mem_flatMap, Group.patterns, List.mem_map, Prod.exists]
  constructor
  · rintro ⟨group, registered, closing, handler, closer, rfl⟩
    exact ⟨group, registered, rfl, closer⟩
  · rintro ⟨group, registered, opening, closer⟩
    exact ⟨group, registered, pattern.closing, pattern.handler, closer, by rw [opening]⟩

/-- A pattern of a group's opening delimiter belongs to that group. -/
theorem WellKept.mem_group {table : Table η} (kept : table.WellKept) {group : Group η} {pattern : Pattern η}
    (registered : group ∈ table.groups) (member : pattern ∈ table.patterns)
    (opening : pattern.opening = group.opening) : pattern ∈ group.patterns := by
  obtain ⟨other, among, same, closer⟩ := mem_patterns.1 member
  have isGroup : other = group :=
    List.inj_on_of_nodup_map kept.openings among registered (same.trans opening)
  subst isGroup
  exact List.mem_map.2 ⟨_, closer, by simp [← opening]⟩

-- A delimiter pair has at most one pattern.
theorem WellKept.unique {table : Table η} (kept : table.WellKept) {first second : Pattern η}
    (one : first ∈ table.patterns) (other : second ∈ table.patterns)
    (opening : first.opening = second.opening) (closing : first.closing = second.closing) : first = second := by
  obtain ⟨group, registered, groupOpening, closer⟩ := mem_patterns.1 one
  obtain ⟨group', registered', groupOpening', closer'⟩ := mem_patterns.1 other
  have isGroup : group' = group :=
    List.inj_on_of_nodup_map kept.openings registered' registered (by rw [groupOpening, groupOpening', opening])
  subst isGroup
  have sameCloser : (first.closing, first.handler) = (second.closing, second.handler) :=
    List.inj_on_of_nodup_map (kept.closings _ registered) closer closer' closing
  cases first
  cases second
  simp_all

theorem exists_pattern_of_handler? {table : Table η} {opening closing : List Char} {handler : η}
    (stored : table.handler? opening closing = some handler) :
    ∃ pattern ∈ table.patterns, pattern.opening.val = opening ∧ pattern.closing.val = closing ∧
      pattern.handler = handler := by
  simp only [handler?, group?, Option.bind_eq_some_iff, Option.map_eq_some_iff] at stored
  obtain ⟨group, isGroup, closer, isCloser, rfl⟩ := stored
  refine ⟨⟨group.opening, closer.1, closer.2⟩, ?_, ?_, ?_, rfl⟩
  · exact mem_patterns.2 ⟨group, List.mem_of_find?_eq_some isGroup, rfl, List.mem_of_find?_eq_some isCloser⟩
  · simpa using List.find?_some isGroup
  · simpa using List.find?_some isCloser

theorem WellKept.handler?_isSome {table : Table η} (kept : table.WellKept) {pattern : Pattern η}
    (registered : pattern ∈ table.patterns) :
    (table.handler? pattern.opening.val pattern.closing.val).isSome = true := by
  obtain ⟨group, among, opening, closer⟩ := mem_patterns.1 registered
  have isGroup : table.group? pattern.opening.val = some group := by
    obtain ⟨found, isFound⟩ := Option.isSome_iff_exists.1
      (List.find?_isSome.2 ⟨group, among, by simp [opening]⟩ :
        (table.groups.find? (·.opening.val == pattern.opening.val)).isSome = true)
    have same : found.opening = group.opening := by
      rw [opening]
      exact Subtype.ext (by simpa using List.find?_some isFound)
    rw [group?, isFound, List.inj_on_of_nodup_map kept.openings (List.mem_of_find?_eq_some isFound) among same]
  rw [handler?, isGroup, Option.bind_some, Option.isSome_map]
  exact List.find?_isSome.2 ⟨_, closer, by simp⟩

/-- A registered pattern is the one that is stored for its pair of delimiters. -/
theorem WellKept.handler?_eq_some {table : Table η} (kept : table.WellKept) {pattern : Pattern η}
    (registered : pattern ∈ table.patterns) :
    table.handler? pattern.opening.val pattern.closing.val = some pattern.handler := by
  obtain ⟨handler, stored⟩ := Option.isSome_iff_exists.1 (kept.handler?_isSome registered)
  obtain ⟨other, among, opening, closing, rfl⟩ := exists_pattern_of_handler? stored
  rw [stored, kept.unique among registered (Subtype.ext opening) (Subtype.ext closing)]

theorem WellKept.mem_patterns_iff {table : Table η} (kept : table.WellKept) {pattern : Pattern η} :
    pattern ∈ table.patterns ↔
      table.handler? pattern.opening.val pattern.closing.val = some pattern.handler := by
  refine ⟨kept.handler?_eq_some, fun stored => ?_⟩
  obtain ⟨⟨opening, closing, handler⟩, among, sameOpening, sameClosing, sameHandler⟩ :=
    exists_pattern_of_handler? stored
  obtain rfl : opening = pattern.opening := Subtype.ext sameOpening
  obtain rfl : closing = pattern.closing := Subtype.ext sameClosing
  obtain rfl : handler = pattern.handler := sameHandler
  exact among

/-- The closing delimiters that are kept under an opening delimiter, with their handlers. -/
def closersOf (table : Table η) (opening : List Char) : List (Delimiter × η) :=
  (table.group? opening).elim [] (·.closers)

theorem handler?_eq (table : Table η) (opening closing : List Char) :
    table.handler? opening closing = ((table.closersOf opening).find? (·.1.val == closing)).map (·.2) := by
  simp only [handler?, closersOf]
  cases table.group? opening <;> rfl

/-- An insertion touches the closing delimiters of its own opening delimiter. -/
theorem closersOf_insert (table : Table η) (p : Pattern η) (opening : List Char) :
    (table.insert p).closersOf opening =
      if p.opening.val = opening then putCloser p.closing p.handler (table.closersOf opening)
      else table.closersOf opening := by
  obtain ⟨groups⟩ := table
  simp only [closersOf, group?, insert]
  induction groups with
  | nil =>
    by_cases here : p.opening.val = opening
    · simp [insertGroup, here, putCloser]
    · simp [insertGroup, here]
  | cons group rest ih =>
    by_cases same : group.opening = p.opening
    · by_cases here : p.opening.val = opening <;> simp [insertGroup, same, here]
    · simp only [insertGroup, same, if_false, List.find?_cons]
      by_cases first : group.opening.val = opening
      · have elsewhere : p.opening.val ≠ opening := fun here => same (Subtype.ext (first.trans here.symm))
        simp [first, elsewhere]
      · have next : (group.opening.val == opening) = false := beq_false_of_ne first
        simpa only [next] using ih

theorem handler?_insert_self (table : Table η) (p : Pattern η) :
    (table.insert p).handler? p.opening.val p.closing.val = some p.handler := by
  rw [handler?_eq, closersOf_insert, if_pos rfl, find?_putCloser_self]
  rfl

theorem handler?_insert_of_other {p : Pattern η} {opening closing : List Char}
    (other : ¬ (p.opening.val = opening ∧ p.closing.val = closing)) (table : Table η) :
    (table.insert p).handler? opening closing = table.handler? opening closing := by
  rw [handler?_eq, handler?_eq, closersOf_insert]
  split
  · rename_i here
    rw [find?_putCloser_of_ne fun same => other ⟨here, same⟩]
  · rfl

/-- Register patterns one after the other. -/
def insertAll (table : Table η) (patterns : List (Pattern η)) : Table η :=
  patterns.foldl insert table

theorem insertAll_append (table : Table η) (patterns further : List (Pattern η)) :
    table.insertAll (patterns ++ further) = (table.insertAll patterns).insertAll further :=
  List.foldl_append

theorem WellKept.insertAll {table : Table η} (kept : table.WellKept) (patterns : List (Pattern η)) :
    (table.insertAll patterns).WellKept := by
  induction patterns generalizing table with
  | nil => exact kept
  | cons p rest ih => exact ih (kept.insert p)

end Table

end Pattern

variable {κ : Type}

namespace Host

theorem play_note (level : Log.Level) (logger : String) (context : Host κ → Log.Context) (message : Outcome String)
    (host : Host κ) :
    ∃ printed, (note level logger context message).play host =
      (.ok (), { host with console := { host.console with printed } }) := by
  obtain ⟨printed, same⟩ := host.console.log_eq level logger (context host) message none
  exact ⟨printed, by rw [note, Act.play_changing, same]⟩

/-- Besides the table, a pattern that is put in changes only what the console has printed. -/
theorem play_insertPattern (opening closing : Value) (pattern : Pattern (Handler κ)) (host : Host κ) :
    ∃ printed, (insertPattern opening closing pattern).play host =
      (.ok (), { host with
        table := host.table.insert pattern
        console := { host.console with printed } }) := by
  simp only [insertPattern, Act.play_bind, Act.play_reading]
  split
  · obtain ⟨replaced, notes⟩ := play_note .debug tableLog (fun _ => .unknown)
      (pairMessage "Replacing handlers for pattern " opening closing) host
    simp only [Act.play_bind, notes, Act.play_changing]
    exact play_note _ _ _ _ _
  · simp only [Act.play_bind, Act.play_changing]
    exact play_note _ _ _ _ _

end Host

/-- All four parts of a pattern are checked, each on its own. -/
theorem PatternData.check_parts (opening closing render renderAsync : Value) :
    PatternData.check (Settings.dictOf
        [("start", opening), ("end", closing), ("render", render), ("render_async", renderAsync)]) =
      Checked.both (fun (opening, closing) (_ : Unit) => ⟨opening, closing, .null⟩)
        (.both Prod.mk ((Check.delimiter opening).under (.name "start")) ((Check.delimiter closing).under (.name "end")))
        (.both (fun _ _ => ()) ((Check.callable render).under (.name "render"))
          ((Check.callable renderAsync).under (.name "render_async"))) := by
  have known : Check.unknownFields PatternData.fieldNames [(.text "start", opening), (.text "end", closing),
      (.text "render", render), (.text "render_async", renderAsync)] = [] := rfl
  simp only [PatternData.check, Check.model, Settings.dictOf, List.map_cons, List.map_nil, known]
  change Checked.both _ (Checked.both _
    (.both _ ((Check.delimiter opening).under (.name "start")) ((Check.delimiter closing).under (.name "end")))
    (.both _ (.both _ ((Check.callable render).under (.name "render"))
      ((Check.callable renderAsync).under (.name "render_async"))) (.ok Value.null))) (.ok ()) = _
  cases Check.delimiter opening <;> cases Check.delimiter closing <;> cases Check.callable render <;>
    cases Check.callable renderAsync <;> rfl

/-- What a call that registers a delimiter pair is given. There are no byte strings among the values. -/
structure Registration (κ : Type) where
  opening : Value
  closing : Value
  render : Value
  renderAsync : Value
  handler : Handler κ

namespace Registration

def perform (call : Registration κ) : HostAct κ (Pattern (Handler κ)) :=
  Host.registerPattern call.opening call.closing call.render call.renderAsync call.handler

-- The pattern that the call registers, if its parts fit.
def pattern? (call : Registration κ) : Option (Pattern (Handler κ)) :=
  match PatternData.ofValue (Settings.dictOf [("start", call.opening), ("end", call.closing),
      ("render", call.render), ("render_async", call.renderAsync)]) with
  | .ok data => some ⟨data.opening, data.closing, call.handler⟩
  | .error _ => none

/-- What the check of a call's parts says. -/
def checked (call : Registration κ) : Except Report PatternData :=
  PatternData.ofValue (Settings.dictOf [("start", call.opening), ("end", call.closing),
    ("render", call.render), ("render_async", call.renderAsync)])

theorem pattern?_of_ok {call : Registration κ} {data : PatternData} (fits : call.checked = .ok data) :
    call.pattern? = some ⟨data.opening, data.closing, call.handler⟩ := by
  rw [checked] at fits
  simp only [pattern?, fits]

theorem pattern?_of_error {call : Registration κ} {report : Report} (refused : call.checked = .error report) :
    call.pattern? = none := by
  rw [checked] at refused
  simp only [pattern?, refused]

/-- A call registers its pattern. -/
theorem play_perform_of_pattern {call : Registration κ} {p : Pattern (Handler κ)} (isPattern : call.pattern? = some p)
    (host : Host κ) :
    ∃ printed, call.perform.play host =
      (.ok p, { host with table := host.table.insert p, console := { host.console with printed } }) := by
  cases fits : call.checked with
  | error report => simp [pattern?_of_error fits] at isPattern
  | ok data =>
    obtain rfl := Option.some.inj ((pattern?_of_ok fits).symm.trans isPattern)
    obtain ⟨printed, plays⟩ := Host.play_insertPattern call.opening call.closing ⟨data.opening, data.closing, call.handler⟩ host
    rw [checked] at fits
    simp only [perform, Host.registerPattern, fits, Act.play_bind, plays, Act.play_pure]
    exact ⟨printed, rfl⟩

/-- A call that does not fit fails with what is reported of it, and the host is left as it was. -/
theorem play_perform_of_error {call : Registration κ} {report : Report} (refused : call.checked = .error report)
    (host : Host κ) :
    call.perform.play host =
      (match invalidPattern call.opening call.closing report with
        | .ok fault => .error fault
        | .error fault => .error fault, host) := by
  rw [checked] at refused
  simp only [perform, Host.registerPattern, refused, Act.play_bind, Act.play_ofResult]
  cases invalidPattern call.opening call.closing report <;> rfl

end Registration

/-- The host after calls that register delimiter pairs, whether they failed or not. -/
def Host.registerAll (host : Host κ) (calls : List (Registration κ)) : Host κ :=
  calls.foldl (fun left call => (call.perform.play left).2) host

/-- Calls that fit have put their patterns into the table, and nothing else is different but what was logged. -/
theorem Host.registerAll_eq (host : Host κ) (calls : List (Registration κ)) :
    ∃ printed, host.registerAll calls =
      { host with
        table := host.table.insertAll (calls.filterMap Registration.pattern?)
        console := { host.console with printed } } := by
  induction calls generalizing host with
  | nil => exact ⟨_, rfl⟩
  | cons call rest ih =>
    obtain ⟨printed, same⟩ := ih (call.perform.play host).2
    refine ⟨printed, same.trans ?_⟩
    cases fits : call.checked with
    | error report =>
      rw [Registration.play_perform_of_error fits, List.filterMap_cons_none (Registration.pattern?_of_error fits)]
    | ok data =>
      have isPattern := Registration.pattern?_of_ok fits
      obtain ⟨first, plays⟩ := Registration.play_perform_of_pattern isPattern host
      rw [plays, List.filterMap_cons_some isPattern]
      rfl

theorem Host.registerAll_table (host : Host κ) (calls : List (Registration κ)) :
    (host.registerAll calls).table = host.table.insertAll (calls.filterMap Registration.pattern?) := by
  obtain ⟨printed, same⟩ := host.registerAll_eq calls
  rw [same]

theorem Host.registerAll_wellKept {host : Host κ} (kept : host.table.WellKept) (calls : List (Registration κ)) :
    (host.registerAll calls).table.WellKept := by
  rw [Host.registerAll_table]
  exact kept.insertAll _

end Stencil
