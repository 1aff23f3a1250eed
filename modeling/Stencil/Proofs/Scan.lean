import Stencil.Pattern.Segment
import Stencil.Proofs.Table

/-! What the segments of a template are.

`Table.Scanned` says it without an algorithm: which span or which literal text stands at the front
of a text depends only on where registered delimiters stand in it. Reading a template finds exactly
these segments, and no others fit.
-/

set_option autoImplicit false

namespace Stencil

namespace Text

/-- A part stands at a place of a text. -/
def StandsAt (part text : List Char) (place : Nat) : Prop :=
  part <+: text.drop place

theorem StandsAt.of_append {part before rest : List Char} : StandsAt part (before ++ part ++ rest) before.length := by
  simp [StandsAt, List.append_assoc]

theorem StandsAt.cons {part text : List Char} {c : Char} {place : Nat} :
    StandsAt part (c :: text) (place + 1) ↔ StandsAt part text place := by
  simp [StandsAt]

theorem cutAt?_cons {part text : List Char} {c : Char} (absent : ¬ StandsAt part (c :: text) 0) :
    cutAt? part (c :: text) = (cutAt? part text).map fun (before, rest) => (c :: before, rest) := by
  have none : after? part (c :: text) = none := by
    rw [Option.eq_none_iff_forall_ne_some]
    intro rest found
    exact absent ⟨rest, ((after?_eq_some_iff _ _ _).1 found).symm⟩
  simp [cutAt?, none]

/-- A text is cut at the first place where the part stands. -/
theorem cutAt?_first {part text before rest : List Char} (found : cutAt? part text = some (before, rest)) :
    ∀ place < before.length, ¬ StandsAt part text place := by
  induction text generalizing before with
  | nil =>
    intro place early
    simp only [cutAt?] at found
    split at found <;> simp_all
  | cons c text ih =>
    intro place early
    by_cases front : StandsAt part (c :: text) 0
    · obtain ⟨after, same⟩ := front
      have here : after? part (c :: text) = some after := (after?_eq_some_iff _ _ _).2 same.symm
      simp only [cutAt?, here, Option.some.injEq, Prod.mk.injEq] at found
      simp [← found.1] at early
    · rw [cutAt?_cons front, Option.map_eq_some_iff] at found
      obtain ⟨⟨head, tail⟩, cut, same⟩ := found
      simp only [Prod.mk.injEq] at same
      obtain ⟨rfl, rfl⟩ := same
      cases place with
      | zero => exact front
      | succ place =>
        rw [StandsAt.cons]
        exact ih cut place (by simpa using early)

/-- A text is cut wherever the part stands in it. -/
theorem exists_cutAt? {part text : List Char} {place : Nat} (stands : StandsAt part text place) :
    ∃ before rest, cutAt? part text = some (before, rest) ∧ before.length ≤ place := by
  induction text generalizing place with
  | nil =>
    have empty : part = [] := by simpa [StandsAt] using stands
    exact ⟨[], [], by simp [cutAt?, empty], by simp⟩
  | cons c text ih =>
    by_cases front : StandsAt part (c :: text) 0
    · obtain ⟨after, same⟩ := front
      have here : after? part (c :: text) = some after := (after?_eq_some_iff _ _ _).2 same.symm
      exact ⟨[], after, by simp [cutAt?, here], by simp⟩
    · cases place with
      | zero => exact absurd stands front
      | succ place =>
        obtain ⟨before, rest, cut, early⟩ := ih (StandsAt.cons.1 stands)
        exact ⟨c :: before, rest, by simp [cutAt?_cons front, cut], by simpa using early⟩

end Text

namespace Pattern

open Text

variable {η : Type}

theorem Ending.better_iff (found best : Ending η) :
    found.better best = true ↔ found.hash.length < best.hash.length ∨
      found.hash.length = best.hash.length ∧ best.pattern.closing.val.length < found.pattern.closing.val.length := by
  simp [Ending.better]

/-- Nothing that was offered is better than what was chosen. -/
theorem foldl_choose_unbeaten (endings : List (Ending η)) (best? : Option (Ending η)) {chosen found : Ending η}
    (chose : endings.foldl Ending.choose best? = some chosen) (offered : found ∈ endings ∨ best? = some found) :
    ¬ found.better chosen = true := by
  induction endings generalizing best? found with
  | nil =>
    obtain rfl : chosen = found := by simp_all
    simp [Ending.better_iff]
  | cons first rest ih =>
    have later (other : Ending η) (among : other ∈ rest ∨ Ending.choose best? first = some other) :
        ¬ other.better chosen = true := ih _ chose among
    cases best? with
    | none =>
      rcases offered with member | none
      · rcases List.mem_cons.1 member with rfl | member
        · exact later _ (.inr rfl)
        · exact later _ (.inl member)
      · simp at none
    | some best =>
      -- Whichever of the two was kept beats or ties the other one.
      have first_le : ¬ first.better chosen = true := by
        by_cases wins : first.better best = true
        · exact later _ (.inr (by simp [Ending.choose, wins]))
        · have kept := later best (.inr (by simp [Ending.choose, wins]))
          rw [Ending.better_iff] at wins kept ⊢
          omega
      have best_le : ¬ best.better chosen = true := by
        by_cases wins : first.better best = true
        · rw [Ending.better_iff] at wins first_le ⊢
          omega
        · exact later _ (.inr (by simp [Ending.choose, wins]))
      rcases offered with member | same
      · rcases List.mem_cons.1 member with rfl | member
        · exact first_le
        · exact later _ (.inl member)
      · exact Option.some.inj same ▸ best_le

theorem foldl_choose_isSome (endings : List (Ending η)) (best? : Option (Ending η))
    (some : best?.isSome = true ∨ endings ≠ []) : (endings.foldl Ending.choose best?).isSome = true := by
  induction endings generalizing best? with
  | nil => simpa using some
  | cons first rest ih =>
    apply ih
    left
    cases best? with
    | none => rfl
    | some best =>
      simp only [Ending.choose]
      split <;> rfl

/-- Every place where a pattern of the group closes offers an ending that is no later. -/
theorem Group.offered {group : Group η} {pattern : Pattern η} {text : List Char} {place : Nat}
    (registered : pattern ∈ group.patterns) (stands : StandsAt pattern.closing.val text place) :
    ∃ ending ∈ group.patterns.filterMap (firstEnding? · text),
      ending.pattern = pattern ∧ ending.hash.length ≤ place := by
  obtain ⟨before, rest, cut, early⟩ := exists_cutAt? stands
  refine ⟨⟨pattern, before, rest⟩, ?_, rfl, early⟩
  exact List.mem_filterMap.2 ⟨pattern, registered, by simp [firstEnding?, cut]⟩

/-- The ending of a group comes first, and of those that come first it is the longest. -/
theorem Group.ending?_best {group : Group η} {text : List Char} {ending : Ending η}
    (found : group.ending? text = some ending) {other : Pattern η} (registered : other ∈ group.patterns)
    {place : Nat} (stands : StandsAt other.closing.val text place) :
    ending.hash.length ≤ place ∧
      (place = ending.hash.length → other.closing.val.length ≤ ending.pattern.closing.val.length) := by
  obtain ⟨offer, among, same, early⟩ := Group.offered registered stands
  have unbeaten := foldl_choose_unbeaten _ _ found (.inl among)
  rw [Ending.better_iff, same] at unbeaten
  omega

theorem Group.ending?_isSome {group : Group η} {pattern : Pattern η} {text : List Char} {place : Nat}
    (registered : pattern ∈ group.patterns) (stands : StandsAt pattern.closing.val text place) :
    (group.ending? text).isSome = true := by
  obtain ⟨offer, among, -, -⟩ := Group.offered registered stands
  exact foldl_choose_isSome _ _ (.inr (List.ne_nil_of_mem among))

namespace Table

-- A registered opening delimiter stands at the front of a text.
def OpensAt (table : Table η) (text opening : List Char) : Prop :=
  (∃ pattern ∈ table.patterns, pattern.opening.val = opening) ∧ opening <+: text

/-- A registered opening delimiter stands at the front of a text, and one of its closing delimiters
stands somewhere behind it. -/
def ClosesAt (table : Table η) (text opening : List Char) : Prop :=
  opening <+: text ∧ ∃ pattern ∈ table.patterns, pattern.opening.val = opening ∧
    ∃ place, StandsAt pattern.closing.val (text.drop opening.length) place

/-- A span stands at the front of a text: its opening delimiter is the longest that closes, and of
its closing delimiters the one that stands first ends it, the longest of those that stand first. -/
structure SpanAt (table : Table η) (text : List Char) (pattern : Pattern η) (hash rest : List Char) : Prop where
  registered : pattern ∈ table.patterns
  source : text = pattern.opening.val ++ (hash ++ pattern.closing.val ++ rest)
  longest : ∀ opening, table.ClosesAt text opening → opening.length ≤ pattern.opening.val.length
  first : ∀ other ∈ table.patterns, other.opening = pattern.opening → ∀ place,
    StandsAt other.closing.val (hash ++ pattern.closing.val ++ rest) place → hash.length ≤ place
  longer : ∀ other ∈ table.patterns, other.opening = pattern.opening →
    StandsAt other.closing.val (hash ++ pattern.closing.val ++ rest) hash.length →
      other.closing.val.length ≤ pattern.closing.val.length

/-- The segments of a text. Literal text is joined with the literal text behind it. -/
inductive Scanned (table : Table η) : List Char → List (Segment η) → Prop where
  | done : Scanned table [] []
  -- An opening delimiter that closes begins a span.
  | span {text hash rest : List Char} {pattern : Pattern η} {segments : List (Segment η)} :
      table.SpanAt text pattern hash rest → Scanned table rest segments →
      Scanned table text (.span pattern hash :: segments)
  -- Where none closes, the longest opening delimiter is literal text as a whole.
  | unclosed {opening rest : List Char} {segments : List (Segment η)} :
      (∀ other, ¬ table.ClosesAt (opening ++ rest) other) →
      table.OpensAt (opening ++ rest) opening →
      (∀ other, table.OpensAt (opening ++ rest) other → other.length ≤ opening.length) →
      Scanned table rest segments → Scanned table (opening ++ rest) (addLiteral opening segments)
  -- Where none stands, one character is literal text.
  | plain {c : Char} {rest : List Char} {segments : List (Segment η)} :
      (∀ other, ¬ table.OpensAt (c :: rest) other) →
      Scanned table rest segments → Scanned table (c :: rest) (addLiteral [c] segments)

theorem ClosesAt.opensAt {table : Table η} {text opening : List Char} (closes : table.ClosesAt text opening) :
    table.OpensAt text opening := by
  obtain ⟨front, pattern, registered, same, -⟩ := closes
  exact ⟨⟨pattern, registered, same⟩, front⟩

theorem SpanAt.closesAt {table : Table η} {text hash rest : List Char} {pattern : Pattern η}
    (span : table.SpanAt text pattern hash rest) : table.ClosesAt text pattern.opening.val := by
  refine ⟨⟨_, span.source.symm⟩, pattern, span.registered, rfl, hash.length, ?_⟩
  rw [span.source, List.drop_left]
  exact StandsAt.of_append

-- No delimiter stands in a text that is empty.
theorem OpensAt.ne_nil {table : Table η} {text opening : List Char} (opens : table.OpensAt text opening) :
    text ≠ [] := by
  rintro rfl
  obtain ⟨⟨pattern, -, rfl⟩, front⟩ := opens
  exact pattern.opening.property (List.prefix_nil.1 front)

/-- No closing delimiter of a span's opening delimiter stands in the text between its delimiters. -/
theorem SpanAt.not_infix_hash {table : Table η} {text hash rest : List Char} {pattern other : Pattern η}
    (span : table.SpanAt text pattern hash rest) (registered : other ∈ table.patterns)
    (opening : other.opening = pattern.opening) : ¬ other.closing.val <:+: hash := by
  rintro ⟨before, behind, inside⟩
  -- It would stand in front of the place where the span ends, and that place is the first.
  have stands : StandsAt other.closing.val (hash ++ pattern.closing.val ++ rest) before.length := by
    rw [← inside]
    simp [StandsAt, List.append_assoc]
  have late := span.first other registered opening _ stands
  have filled := List.length_pos_iff.2 other.closing.property
  rw [← inside, List.length_append, List.length_append] at late
  omega

theorem mem_openAt_of_opensAt {table : Table η} {text : List Char} {pattern : Pattern η}
    (registered : pattern ∈ table.patterns) (front : pattern.opening.val <+: text) :
    ∃ group, (group, text.drop pattern.opening.val.length) ∈ table.openAt text ∧
      group.opening = pattern.opening ∧ pattern ∈ group.patterns := by
  obtain ⟨group, among, opening, closer⟩ := mem_patterns.1 registered
  obtain ⟨rest, source⟩ := front
  refine ⟨group, ?_, opening, ?_⟩
  · simp only [openAt, List.mem_mergeSort, List.mem_filterMap, Option.map_eq_some_iff]
    refine ⟨group, among, rest, ?_, ?_⟩
    · rw [after?_eq_some_iff, opening, source]
    · rw [← source, List.drop_left]
  · exact List.mem_map.2 ⟨_, closer, by simp [opening]⟩

theorem openAt_longest_first (table : Table η) (text : List Char) :
    (table.openAt text).Pairwise fun a b => b.1.opening.val.length ≤ a.1.opening.val.length := by
  have sorted := @List.pairwise_mergeSort (Group η × List Char)
    (fun a b => decide (b.1.opening.val.length ≤ a.1.opening.val.length))
    (by simp only [decide_eq_true_eq]; omega) (by simp only [Bool.or_eq_true, decide_eq_true_eq]; omega)
    (table.groups.filterMap fun group => (after? group.opening.val text).map fun rest => (group, rest))
  unfold openAt
  exact sorted.imp fun le => of_decide_eq_true le

/-- An opening delimiter that closes belongs to a group that stands at the front and has an ending. -/
theorem ClosesAt.exists_ending {table : Table η} {text opening : List Char} (closes : table.ClosesAt text opening) :
    ∃ group rest, (group, rest) ∈ table.openAt text ∧ group.opening.val = opening ∧
      (group.ending? rest).isSome = true := by
  obtain ⟨front, pattern, registered, rfl, place, stands⟩ := closes
  obtain ⟨group, here, same, member⟩ := mem_openAt_of_opensAt registered front
  exact ⟨group, _, here, by rw [same], Group.ending?_isSome member stands⟩

theorem WellKept.spanAt_of_front {table : Table η} (kept : table.WellKept) {text : List Char} {ending : Ending η}
    (isSpan : table.front text = .span ending) : table.SpanAt text ending.pattern ending.hash ending.rest := by
  simp only [front] at isSpan
  split at isSpan
  case h_2 => split at isSpan <;> simp at isSpan
  rename_i chosen closes
  obtain rfl : chosen = ending := by simpa using isSpan
  obtain ⟨earlier, ⟨group, rest⟩, later, order, closing, unclosed⟩ := List.findSome?_eq_some_iff.1 closes
  have here : (group, rest) ∈ table.openAt text := by simp [order]
  obtain ⟨registered, source⟩ := mem_openAt here
  obtain ⟨member, closed⟩ := Group.ending?_source closing
  have opening : chosen.pattern.opening = group.opening := Group.opening_of_mem_patterns member
  refine ⟨?_, ?_, ?_, ?_, ?_⟩
  · exact List.mem_flatMap.2 ⟨group, registered, member⟩
  · rw [source, opening, ← closed]
  · intro other closesToo
    -- Longer groups come earlier, and each of those was tried first and does not close.
    obtain ⟨group', rest', here', rfl, some⟩ := closesToo.exists_ending
    have sorted := table.openAt_longest_first text
    rw [order] at here' sorted
    rcases List.mem_append.1 here' with before | after
    · rw [unclosed _ before] at some
      simp at some
    · rw [opening]
      rcases List.mem_cons.1 after with same | behind
      · exact (Prod.mk.inj same).1 ▸ Nat.le_refl _
      · exact (List.pairwise_cons.1 (List.pairwise_append.1 sorted).2.1).1 _ behind
  · intro other among same place stands
    rw [← closed] at stands
    exact (Group.ending?_best closing (kept.mem_group registered among (same.trans opening)) stands).1
  · intro other among same stands
    rw [← closed] at stands
    exact (Group.ending?_best closing (kept.mem_group registered among (same.trans opening)) stands).2 rfl

theorem not_closesAt_of_front {table : Table η} {text : List Char}
    (noSpan : ∀ ending, table.front text ≠ .span ending) (opening : List Char) : ¬ table.ClosesAt text opening := by
  intro closes
  obtain ⟨group, rest, here, -, some⟩ := closes.exists_ending
  simp only [front] at noSpan
  split at noSpan
  · exact noSpan _ rfl
  · rename_i none
    rw [List.findSome?_eq_none_iff.1 none _ here] at some
    simp at some

theorem opens_of_front_unclosed {table : Table η} (kept : table.WellKept) {text opening rest : List Char}
    (isOpen : table.front text = .unclosed opening rest) :
    table.OpensAt text opening ∧ ∀ other, table.OpensAt text other → other.length ≤ opening.length := by
  simp only [front] at isOpen
  split at isOpen
  · simp at isOpen
  split at isOpen
  case h_2 => simp at isOpen
  rename_i group after others order
  obtain ⟨rfl, rfl⟩ : group.opening.val = opening ∧ after = rest := by simpa using isOpen
  have here : (group, after) ∈ table.openAt text := by simp [order]
  obtain ⟨registered, source⟩ := mem_openAt here
  constructor
  · obtain ⟨⟨closing, handler⟩, member⟩ := List.exists_mem_of_ne_nil _ (kept.filled group registered)
    exact ⟨⟨⟨group.opening, closing, handler⟩, mem_patterns.2 ⟨group, registered, rfl, member⟩, rfl⟩,
      ⟨after, source.symm⟩⟩
  · rintro other ⟨⟨pattern, among, rfl⟩, front⟩
    obtain ⟨group', here', same, -⟩ := mem_openAt_of_opensAt among front
    have sorted := table.openAt_longest_first text
    rw [order] at here' sorted
    rw [← same]
    rcases List.mem_cons.1 here' with first | behind
    · exact (Prod.mk.inj first).1 ▸ Nat.le_refl _
    · exact (List.pairwise_cons.1 sorted).1 _ behind

theorem not_opensAt_of_front_plain {table : Table η} {text : List Char} (isPlain : table.front text = .plain)
    (opening : List Char) : ¬ table.OpensAt text opening := by
  rintro ⟨⟨pattern, among, rfl⟩, standing⟩
  obtain ⟨group, here, -, -⟩ := mem_openAt_of_opensAt among standing
  simp only [front] at isPlain
  split at isPlain
  · simp at isPlain
  · split at isPlain
    · simp at isPlain
    · rename_i none
      simp [none] at here

theorem WellKept.scanned_scan {table : Table η} (kept : table.WellKept) (text : List Char) :
    table.Scanned text (table.scan text) := by
  fun_induction Table.scan table text with
  | case1 => exact .done
  | case2 c rest ending isSpan ih => exact .span (kept.spanAt_of_front isSpan) ih
  | case3 c rest opening after isOpen ih =>
    obtain ⟨opens, longest⟩ := opens_of_front_unclosed kept isOpen
    have noSpan (ending : Ending η) : table.front (c :: rest) ≠ .span ending := by simp [isOpen]
    have unclosed := not_closesAt_of_front noSpan
    rw [front_unclosed_source isOpen] at opens longest unclosed ⊢
    exact .unclosed unclosed opens longest ih
  | case4 c rest isPlain ih => exact .plain (not_opensAt_of_front_plain isPlain) ih

/-- At most one span stands at the front of a text. -/
theorem WellKept.spanAt_unique {table : Table η} (kept : table.WellKept) {text hash hash' rest rest' : List Char}
    {pattern pattern' : Pattern η} (one : table.SpanAt text pattern hash rest)
    (other : table.SpanAt text pattern' hash' rest') : pattern = pattern' ∧ hash = hash' ∧ rest = rest' := by
  have sources := one.source.symm.trans other.source
  -- Opening delimiters, then texts, then closing delimiters: each is as long as its counterpart.
  have opening : pattern.opening = pattern'.opening := by
    have length := Nat.le_antisymm (other.longest _ one.closesAt) (one.longest _ other.closesAt)
    exact Subtype.ext (List.append_inj sources length).1
  rw [opening, List.append_cancel_left_eq] at sources
  have stands : StandsAt pattern.closing.val (hash' ++ pattern'.closing.val ++ rest') hash.length :=
    sources ▸ StandsAt.of_append
  have stands' : StandsAt pattern'.closing.val (hash ++ pattern.closing.val ++ rest) hash'.length :=
    sources ▸ StandsAt.of_append
  have length : hash.length = hash'.length :=
    Nat.le_antisymm (one.first _ other.registered opening.symm _ stands') (other.first _ one.registered opening _ stands)
  have closingLength : pattern.closing.val.length = pattern'.closing.val.length :=
    Nat.le_antisymm (other.longer _ one.registered opening (length ▸ stands))
      (one.longer _ other.registered opening.symm (length ▸ stands'))
  have inner := List.append_inj (by simpa only [List.append_assoc] using sources) length
  have outer := List.append_inj inner.2 closingLength
  exact ⟨kept.unique one.registered other.registered opening (Subtype.ext outer.1), inner.1, outer.2⟩

theorem WellKept.scanned_of_span {table : Table η} (kept : table.WellKept) {text hash rest : List Char}
    {pattern : Pattern η} {segments : List (Segment η)} (span : table.SpanAt text pattern hash rest)
    (scanned : table.Scanned text segments) :
    ∃ tail, table.Scanned rest tail ∧ segments = .span pattern hash :: tail := by
  have closes := span.closesAt
  cases scanned with
  | done => exact absurd rfl closes.opensAt.ne_nil
  | span found behind =>
    obtain ⟨rfl, rfl, rfl⟩ := kept.spanAt_unique span found
    exact ⟨_, behind, rfl⟩
  | unclosed none _ _ _ => exact absurd closes (none _)
  | plain none _ => exact absurd closes.opensAt (none _)

theorem scanned_of_unclosed {table : Table η} {text opening rest : List Char} {segments : List (Segment η)}
    (source : text = opening ++ rest) (unclosed : ∀ other, ¬ table.ClosesAt text other)
    (opens : table.OpensAt text opening) (longest : ∀ other, table.OpensAt text other → other.length ≤ opening.length)
    (scanned : table.Scanned text segments) :
    ∃ tail, table.Scanned rest tail ∧ segments = addLiteral opening tail := by
  cases scanned with
  | done => exact absurd rfl opens.ne_nil
  | span span _ => exact absurd span.closesAt (unclosed _)
  | unclosed _ opens' longest' behind =>
    have length := Nat.le_antisymm (longest _ opens') (longest' _ opens)
    obtain ⟨rfl, rfl⟩ := List.append_inj source length
    exact ⟨_, behind, rfl⟩
  | plain none _ => exact absurd opens (none _)

theorem scanned_of_plain {table : Table η} {c : Char} {rest : List Char} {segments : List (Segment η)}
    (plain : ∀ other, ¬ table.OpensAt (c :: rest) other) (scanned : table.Scanned (c :: rest) segments) :
    ∃ tail, table.Scanned rest tail ∧ segments = addLiteral [c] tail := by
  generalize source : c :: rest = text at plain scanned
  cases scanned with
  | done => cases source
  | span span _ => exact absurd span.closesAt.opensAt (plain _)
  | unclosed _ opens _ _ => exact absurd opens (plain _)
  | plain _ behind =>
    obtain ⟨rfl, rfl⟩ := List.cons.inj source
    exact ⟨_, behind, rfl⟩

theorem WellKept.scanned_unique {table : Table η} (kept : table.WellKept) {text : List Char}
    {one other : List (Segment η)} (first : table.Scanned text one) (second : table.Scanned text other) :
    one = other := by
  -- What stands at the front fixes the rule that the other derivation has used.
  induction first generalizing other with
  | done =>
    generalize source : ([] : List Char) = text at second
    cases second with
    | done => rfl
    | span span _ => exact absurd source.symm span.closesAt.opensAt.ne_nil
    | unclosed _ opens _ _ => exact absurd source.symm opens.ne_nil
    | plain _ _ => cases source
  | span span _ ih =>
    obtain ⟨tail, behind, rfl⟩ := kept.scanned_of_span span second
    rw [ih behind]
  | unclosed unclosed opens longest _ ih =>
    obtain ⟨tail, behind, rfl⟩ := scanned_of_unclosed rfl unclosed opens longest second
    rw [ih behind]
  | plain plain _ ih =>
    obtain ⟨tail, behind, rfl⟩ := scanned_of_plain plain second
    rw [ih behind]

/-- The segments of a template are the only ones that fit. -/
theorem WellKept.scanned_iff {table : Table η} (kept : table.WellKept) (text : List Char)
    (segments : List (Segment η)) : table.Scanned text segments ↔ segments = table.segments text := by
  rw [segments_eq_scan]
  constructor
  · intro scanned
    exact kept.scanned_unique scanned (kept.scanned_scan text)
  · rintro rfl
    exact kept.scanned_scan text

/-- No span's text holds a closing delimiter of its opening delimiter. -/
theorem Scanned.not_infix_hash {table : Table η} {text hash : List Char} {pattern other : Pattern η}
    {segments : List (Segment η)} (scanned : table.Scanned text segments) (found : .span pattern hash ∈ segments)
    (registered : other ∈ table.patterns) (opening : other.opening = pattern.opening) :
    ¬ other.closing.val <:+: hash := by
  have among (literal : List Char) (tail : List (Segment η)) (member : .span pattern hash ∈ addLiteral literal tail) :
      .span pattern hash ∈ tail := by
    cases tail with
    | nil => simp [addLiteral] at member
    | cons segment rest => cases segment <;> simpa [addLiteral] using member
  induction scanned with
  | done => cases found
  | span span _ ih =>
    rcases List.mem_cons.1 found with same | later
    · obtain ⟨rfl, rfl⟩ := Segment.span.inj same
      exact span.not_infix_hash registered opening
    · exact ih later
  | unclosed _ _ _ _ ih => exact ih (among _ _ found)
  | plain _ _ ih => exact ih (among _ _ found)

end Table

end Pattern

variable {κ : Type}

/-- Whatever was registered in a host, and whether or not all of it fitted: the segments of a
template are those that fit, and only those; no span's text holds a closing delimiter of its opening
delimiter; and a template that need not be read has the segments that reading it gives. -/
theorem Host.segments_characterised (settings : Settings) (appData bundle : Entries) (console : Log.Console)
    (calls : List (Registration κ)) (text : List Char) :
    let table := ((Host.ofSettings settings appData bundle console).registerAll calls).table
    (∀ segments, table.Scanned text segments ↔ segments = table.segments text) ∧
    (∀ pattern hash, .span pattern hash ∈ table.segments text → ∀ other ∈ table.patterns,
      other.opening = pattern.opening → ¬ other.closing.val <:+: hash) ∧
    table.segments text = table.scan text := by
  intro table
  have kept : table.WellKept := Host.registerAll_wellKept Pattern.Table.wellKept_empty calls
  refine ⟨kept.scanned_iff text, ?_, table.segments_eq_scan text⟩
  intro pattern hash found other registered opening
  exact ((kept.scanned_iff text _).2 rfl).not_infix_hash found registered opening

end Stencil
