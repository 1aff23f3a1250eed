import Stencil.Pattern.Table
import Stencil.Text.Split

/-! Segments of a template: literal text and the spans between registered delimiters.

A template is read from left to right. Where an opening delimiter stands and one of its closing
delimiters follows, there is a span: of several such opening delimiters the longest counts, and of
its closing delimiters the one that comes first, the longer of two that come first together. An
opening delimiter that is never closed is literal text.
-/

set_option autoImplicit false

namespace Stencil.Pattern

open Text

variable {η : Type}

inductive Segment (η : Type) where
  | literal (text : List Char)
  | span (pattern : Pattern η) (hash : List Char)

def Segment.source : Segment η → List Char
  | .literal text => text
  | .span pattern hash => pattern.opening.val ++ hash ++ pattern.closing.val

/-- Where a span ends: its pattern, the text between the delimiters, and the text after it. -/
structure Ending (η : Type) where
  pattern : Pattern η
  hash : List Char
  rest : List Char

/-- Of two endings, the one that comes first, or else the one with the longer closing delimiter. -/
def Ending.better (found best : Ending η) : Bool :=
  found.hash.length < best.hash.length ||
    (found.hash.length == best.hash.length &&
      best.pattern.closing.val.length < found.pattern.closing.val.length)

def firstEnding? (pattern : Pattern η) (text : List Char) : Option (Ending η) :=
  (cutAt? pattern.closing.val text).map fun (hash, rest) => ⟨pattern, hash, rest⟩

/-- Keep the better of two endings; the earlier one counts where neither is better. -/
def Ending.choose (best? : Option (Ending η)) (found : Ending η) : Option (Ending η) :=
  match best? with
  | none => some found
  | some best => if found.better best then some found else some best

-- The first place in a text where a pattern of the group closes.
def Group.ending? (group : Group η) (text : List Char) : Option (Ending η) :=
  (group.patterns.filterMap (firstEnding? · text)).foldl Ending.choose none

/-- The groups whose opening delimiter stands at the front of the text, longest first, each with the
text after the delimiter. -/
def Table.openAt (table : Table η) (text : List Char) : List (Group η × List Char) :=
  (table.groups.filterMap fun group => (after? group.opening.val text).map fun rest => (group, rest)).mergeSort
    fun a b => b.1.opening.val.length ≤ a.1.opening.val.length

inductive Front (η : Type) where
  | span (ending : Ending η)
  | unclosed (opening rest : List Char)
  | plain

def Table.front (table : Table η) (text : List Char) : Front η :=
  match (table.openAt text).findSome? fun (group, rest) => group.ending? rest with
  | some ending => .span ending
  | none =>
    match table.openAt text with
    | (group, rest) :: _ => .unclosed group.opening.val rest
    | [] => .plain

theorem mem_openAt {table : Table η} {text rest : List Char} {group : Group η}
    (here : (group, rest) ∈ table.openAt text) : group ∈ table.groups ∧ text = group.opening.val ++ rest := by
  simp only [Table.openAt, List.mem_mergeSort, List.mem_filterMap, Option.map_eq_some_iff] at here
  obtain ⟨found, registered, after, opens, same⟩ := here
  simp only [Prod.mk.injEq] at same
  obtain ⟨rfl, rfl⟩ := same
  exact ⟨registered, (after?_eq_some_iff _ _ _).1 opens⟩

theorem length_of_mem_openAt {table : Table η} {text rest : List Char} {group : Group η}
    (here : (group, rest) ∈ table.openAt text) : rest.length < text.length := by
  have opens := (mem_openAt here).2
  have := List.length_pos_iff.2 group.opening.property
  rw [opens, List.length_append]
  omega

theorem foldl_choose_mem (endings : List (Ending η)) (best? : Option (Ending η)) {chosen : Ending η}
    (chose : endings.foldl Ending.choose best? = some chosen) : best? = some chosen ∨ chosen ∈ endings := by
  induction endings generalizing best? with
  | nil => exact .inl chose
  | cons found rest ih =>
    rcases ih _ chose with kept | later
    · cases best? with
      | none => simp_all [Ending.choose]
      | some best =>
        simp only [Ending.choose] at kept
        split at kept <;> simp_all
    · exact .inr (List.mem_cons_of_mem _ later)

theorem Group.ending?_source {group : Group η} {text : List Char} {ending : Ending η}
    (found : group.ending? text = some ending) :
    ending.pattern ∈ group.patterns ∧ text = ending.hash ++ ending.pattern.closing.val ++ ending.rest := by
  rcases foldl_choose_mem _ _ found with none | offered
  · simp at none
  · simp only [List.mem_filterMap, firstEnding?, Option.map_eq_some_iff, Prod.exists] at offered
    obtain ⟨pattern, registered, hash, rest, cut, rfl⟩ := offered
    exact ⟨registered, cutAt?_join cut⟩

theorem Group.opening_of_mem_patterns {group : Group η} {pattern : Pattern η}
    (registered : pattern ∈ group.patterns) : pattern.opening = group.opening := by
  simp only [Group.patterns, List.mem_map] at registered
  obtain ⟨closer, -, rfl⟩ := registered
  rfl

/-- A text that begins with a span is the two delimiters, the text between them and the rest. -/
theorem Table.front_span_source {table : Table η} {text : List Char} {ending : Ending η}
    (isSpan : table.front text = .span ending) :
    text = ending.pattern.opening.val ++ ending.hash ++ ending.pattern.closing.val ++ ending.rest := by
  simp only [Table.front] at isSpan
  split at isSpan
  · rename_i chosen closes
    obtain ⟨⟨group, rest⟩, here, closing⟩ := List.exists_of_findSome?_eq_some closes
    simp only [Front.span.injEq] at isSpan
    subst isSpan
    obtain ⟨registered, closed⟩ := Group.ending?_source closing
    rw [(mem_openAt here).2, Group.opening_of_mem_patterns registered]
    simpa only [List.append_assoc, List.append_cancel_left_eq] using closed
  · split at isSpan <;> simp at isSpan

theorem Table.front_span_registered {table : Table η} {text : List Char} {ending : Ending η}
    (isSpan : table.front text = .span ending) : ending.pattern ∈ table.patterns := by
  simp only [Table.front] at isSpan
  split at isSpan
  · rename_i chosen closes
    obtain ⟨⟨group, rest⟩, here, closing⟩ := List.exists_of_findSome?_eq_some closes
    simp only [Front.span.injEq] at isSpan
    subst isSpan
    exact List.mem_flatMap.2 ⟨group, (mem_openAt here).1, (Group.ending?_source closing).1⟩
  · split at isSpan <;> simp at isSpan

theorem Table.front_span {table : Table η} {text : List Char} {ending : Ending η}
    (isSpan : table.front text = .span ending) : ending.rest.length < text.length := by
  simp only [Table.front] at isSpan
  split at isSpan
  · rename_i chosen closes
    obtain ⟨⟨group, rest⟩, here, closing⟩ := List.exists_of_findSome?_eq_some closes
    simp only [Front.span.injEq] at isSpan
    subst isSpan
    have opened := length_of_mem_openAt here
    have closed := (Group.ending?_source closing).2
    have : chosen.rest.length ≤ rest.length := by
      have := congrArg List.length closed
      simp only [List.length_append] at this
      omega
    omega
  · split at isSpan <;> simp at isSpan

theorem Table.front_unclosed_source {table : Table η} {text opening rest : List Char}
    (isOpen : table.front text = .unclosed opening rest) : text = opening ++ rest := by
  simp only [Table.front] at isOpen
  split at isOpen
  · simp at isOpen
  · split at isOpen
    · rename_i group after others first
      simp only [Front.unclosed.injEq] at isOpen
      obtain ⟨rfl, rfl⟩ := isOpen
      exact (mem_openAt (first ▸ List.mem_cons_self)).2
    · simp at isOpen

theorem Table.front_unclosed {table : Table η} {text opening rest : List Char}
    (isOpen : table.front text = .unclosed opening rest) : rest.length < text.length := by
  simp only [Table.front] at isOpen
  split at isOpen
  · simp at isOpen
  · split at isOpen
    · rename_i group after others first
      simp only [Front.unclosed.injEq] at isOpen
      obtain ⟨-, rfl⟩ := isOpen
      exact length_of_mem_openAt (first ▸ List.mem_cons_self)
    · simp at isOpen

/-- Put literal text in front of segments, joined with the literal text that they begin with. -/
def addLiteral (text : List Char) : List (Segment η) → List (Segment η)
  | .literal more :: segments => .literal (text ++ more) :: segments
  | segments => .literal text :: segments

def Table.scan (table : Table η) : List Char → List (Segment η)
  | [] => []
  | c :: rest =>
    match _front : table.front (c :: rest) with
    | .span ending => .span ending.pattern ending.hash :: table.scan ending.rest
    | .unclosed opening after => addLiteral opening (table.scan after)
    | .plain => addLiteral [c] (table.scan rest)
termination_by text => text.length
decreasing_by
  · exact Table.front_span _front
  · exact Table.front_unclosed _front
  · simp

/-- The segments of a template. Where nothing is registered, the template is not read: it is literal
text as a whole, if it has any. -/
def Table.segments (table : Table η) (text : List Char) : List (Segment η) :=
  if text.isEmpty || table.groups.isEmpty then
    if text.isEmpty then [] else [.literal text]
  else table.scan text

theorem flatMap_source_addLiteral (text : List Char) (segments : List (Segment η)) :
    (addLiteral text segments).flatMap Segment.source = text ++ segments.flatMap Segment.source := by
  cases segments with
  | nil => simp [addLiteral, Segment.source]
  | cons segment rest => cases segment <;> simp [addLiteral, Segment.source]

@[simp] theorem Table.scan_nil (table : Table η) : table.scan [] = [] := by
  rw [Table.scan]

theorem Table.scan_of_no_groups {table : Table η} (bare : table.groups = []) (c : Char) (rest : List Char) :
    table.scan (c :: rest) = [.literal (c :: rest)] := by
  have plain (text : List Char) : table.front text = .plain := by
    simp [Table.front, Table.openAt, bare]
  induction rest generalizing c with
  | nil => rw [Table.scan]; split <;> simp_all [addLiteral]
  | cons d rest ih => rw [Table.scan]; split <;> simp_all [addLiteral]

-- A template that is not read has the segments that reading it would give.
theorem Table.segments_eq_scan (table : Table η) (text : List Char) : table.segments text = table.scan text := by
  cases text with
  | nil => simp [Table.segments]
  | cons c rest =>
    by_cases bare : table.groups = []
    · simp [Table.segments, bare, Table.scan_of_no_groups bare]
    · simp [Table.segments, bare]

-- Nothing of a template is lost: its segments, put side by side, are the template.
theorem Table.flatMap_source_segments (table : Table η) (text : List Char) :
    (table.segments text).flatMap Segment.source = text := by
  rw [Table.segments_eq_scan]
  fun_induction Table.scan table text with
  | case1 => rfl
  | case2 c rest ending isSpan ih =>
    have source := Table.front_span_source isSpan
    simp only [List.flatMap_cons, ih, Segment.source]
    simpa using source.symm
  | case3 c rest opening after isOpen ih =>
    rw [flatMap_source_addLiteral, ih]
    exact (Table.front_unclosed_source isOpen).symm
  | case4 c rest isPlain ih => rw [flatMap_source_addLiteral, ih, List.singleton_append]

theorem mem_addLiteral {text : List Char} {segments : List (Segment η)} {pattern : Pattern η} {hash : List Char}
    (among : .span pattern hash ∈ addLiteral text segments) : .span pattern hash ∈ segments := by
  cases segments with
  | nil => simp [addLiteral] at among
  | cons segment rest => cases segment <;> simpa [addLiteral] using among

theorem Table.span_registered {table : Table η} {text : List Char} {pattern : Pattern η} {hash : List Char}
    (among : .span pattern hash ∈ table.segments text) : pattern ∈ table.patterns := by
  rw [Table.segments_eq_scan] at among
  fun_induction Table.scan table text with
  | case1 => simp at among
  | case2 c rest ending isSpan ih =>
    rcases List.mem_cons.1 among with same | later
    · cases same
      exact Table.front_span_registered isSpan
    · exact ih later
  | case3 c rest opening after isOpen ih => exact ih (mem_addLiteral among)
  | case4 c rest isPlain ih => exact ih (mem_addLiteral among)

end Stencil.Pattern
