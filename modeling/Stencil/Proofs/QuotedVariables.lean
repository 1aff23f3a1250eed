import Stencil.Proofs.History
import Stencil.Proofs.Reading
import Stencil.Proofs.EmptySteps
import Stencil.Settings.Variables

/-! Reading back a file of quoted variables.

Every line of such a file sets a variable to a text in quotes, or sets nothing. The file is read as the names in the
order in which they come first, each with its last text. A text in single quotes is read as it stands; of a text
in double quotes the single quotes at its ends are lost.
-/

set_option autoImplicit false

namespace Stencil.Settings

open Text

open Address (Mark)

/-- A name and a text in quotes, on one line. -/
structure Assignment where
  name : List Char
  text : List Char
  mark : Mark
  named : Solid name
  uncut : '=' ∉ name
  uncommented : name.head? ≠ some '#'
  nameOnLine : ∀ c ∈ name, endsLine c = false
  textOnLine : ∀ c ∈ text, endsLine c = false
  unmarked : mark.val ∉ text

namespace Assignment

def key (a : Assignment) : String :=
  String.ofList a.name

/-- The quoted text with its marks. -/
def quoted (a : Assignment) : List Char :=
  a.mark.val :: (a.text ++ [a.mark.val])

def written (a : Assignment) : List Char :=
  a.name ++ '=' :: a.quoted

/-- What is left of a text when it is read: all of it, but for single quotes at its ends if it is in double quotes. -/
def Leaves (a : Assignment) (left : List Char) : Prop :=
  (a.mark.val = '\'' ∧ left = a.text) ∨
    (a.mark.val = '"' ∧ left.head? ≠ some '\'' ∧ left.getLast? ≠ some '\'' ∧
      ∃ front back, a.text = List.replicate front '\'' ++ left ++ List.replicate back '\'')

end Assignment

inductive Line where
  | sets (assignment : Assignment)
  | blank (blanks : List Char) (areBlank : ∀ c ∈ blanks, isBlank c = true) (onLine : ∀ c ∈ blanks, endsLine c = false)
  | comment (text : List Char) (onLine : ∀ c ∈ text, endsLine c = false)

namespace Line

def written : Line → List Char
  | sets assignment => assignment.written
  | blank blanks _ _ => blanks
  | comment text _ => '#' :: text

def assignment? : Line → Option Assignment
  | sets assignment => some assignment
  | _ => none

end Line

abbrev Ending := { ending : List Char // ending = ['\r', '\n'] ∨ ∃ c, endsLine c = true ∧ ending = [c] }

/-- Lines with their endings, and a last line without one. -/
structure VariablesFile where
  ended : List (Line × Ending)
  last : Line

namespace VariablesFile

def text (file : VariablesFile) : List Char :=
  (file.ended.flatMap fun (line, ending) => line.written ++ ending.val) ++ file.last.written

def assignments (file : VariablesFile) : List Assignment :=
  (file.ended.map (·.1) ++ [file.last]).filterMap Line.assignment?

end VariablesFile

section Lines

variable {body : List Char}

theorem unifyNewlines_cons {c : Char} (plain : c ≠ '\r') (rest : List Char) :
    unifyNewlines (c :: rest) = c :: unifyNewlines rest := by
  rw [unifyNewlines, if_neg plain]
  simp [plain]

-- A carriage return takes a line feed behind it into its own line ending.
theorem unifyNewlines_return (rest : List Char) : unifyNewlines ('\r' :: rest) =
    '\n' :: unifyNewlines (if rest.head? = some '\n' then rest.tail else rest) := by
  cases rest with
  | nil => rfl
  | cons c rest =>
    by_cases feed : c = '\n'
    · subst feed
      rfl
    · rw [unifyNewlines]
      · simp [feed]
      · simp [feed]

theorem unifyNewlines_append (onLine : ∀ c ∈ body, endsLine c = false) (rest : List Char) :
    unifyNewlines (body ++ rest) = body ++ unifyNewlines rest := by
  induction body with
  | nil => rfl
  | cons c body ih =>
    obtain ⟨first, others⟩ := List.forall_mem_cons.1 onLine
    have plain : c ≠ '\r' := by
      rintro rfl
      cases first
    rw [List.cons_append, unifyNewlines_cons plain, ih others, List.cons_append]

theorem head?_trim {c : Char} (unblank : isBlank c = false) (rest : List Char) : (trim (c :: rest)).head? = some c := by
  have leading : (c :: rest).dropWhile isBlank = c :: rest := by simp [unblank]
  rw [trim, stripOf, dropLeading, dropTrailing, leading, List.reverse_cons, List.dropWhile_append]
  split <;> simp [unblank]

theorem lines_append {c : Char} (onLine : ∀ c ∈ body, endsLine c = false) (ends : endsLine c = true)
    (notReturn : c ≠ '\r') (rest : List Char) : lines (body ++ c :: rest) = body :: lines rest := by
  induction body with
  | nil => simp [lines, ends, notReturn]
  | cons d body ih =>
    obtain ⟨first, others⟩ := List.forall_mem_cons.1 onLine
    have plain : d ≠ '\r' := by
      rintro rfl
      cases first
    rw [List.cons_append, lines, if_neg (by simp [first]), ih others]
    · rfl
    · simp [plain]

theorem lines_unended (onLine : ∀ c ∈ body, endsLine c = false) : lines body = if body = [] then [] else [body] := by
  induction body with
  | nil => rfl
  | cons d body ih =>
    obtain ⟨first, others⟩ := List.forall_mem_cons.1 onLine
    have plain : d ≠ '\r' := by
      rintro rfl
      cases first
    rw [lines, if_neg (by simp [first]), ih others]
    · split <;> simp_all [extendFirst]
    · simp [plain]

/-- The variables that the lines of a text set, one after the other. -/
def settingLines (text : List Char) : Variables :=
  (lines (unifyNewlines text)).filterMap lineVariable?

theorem readVariables_eq (text : List Char) : readVariables text = uniqueVariables (settingLines text) := by
  rw [readVariables, uniqueVariables, settingLines, List.foldl_filterMap]
  congr 1
  funext found line
  cases lineVariable? line <;> rfl

theorem settingLines_line_feed (rest : List Char) : settingLines ('\n' :: rest) = settingLines rest := by
  have nothing : lineVariable? [] = none := rfl
  simp [settingLines, unifyNewlines, lines, endsLine, nothing]

/-- A line sets what it sets, whatever comes behind it. -/
theorem settingLines_ended (onLine : ∀ c ∈ body, endsLine c = false) (ending : Ending) (rest : List Char) :
    settingLines (body ++ (ending.val ++ rest)) = (lineVariable? body).toList ++ settingLines rest := by
  have plain {c : Char} (ends : endsLine c = true) (notReturn : c ≠ '\r') (rest : List Char) :
      (lines (body ++ c :: rest)).filterMap lineVariable? =
        (lineVariable? body).toList ++ (lines rest).filterMap lineVariable? := by
    rw [lines_append onLine ends notReturn, List.filterMap_cons]
    cases lineVariable? body <;> rfl
  obtain ⟨_, rfl | ⟨c, ends, rfl⟩⟩ := ending
  · rw [settingLines, unifyNewlines_append onLine, List.cons_append, unifyNewlines_return]
    exact plain rfl (by decide) _
  · rw [settingLines, unifyNewlines_append onLine, List.singleton_append]
    by_cases isReturn : c = '\r'
    · subst isReturn
      rw [unifyNewlines_return, plain rfl (by decide)]
      congr 1
      split
      · rename_i feed
        obtain ⟨more, rfl⟩ : ∃ more, rest = '\n' :: more := List.head?_eq_some_iff.1 feed
        exact (settingLines_line_feed more).symm
      · rfl
    · rw [unifyNewlines_cons isReturn]
      exact plain ends isReturn _

theorem settingLines_unended (onLine : ∀ c ∈ body, endsLine c = false) :
    settingLines body = (lineVariable? body).toList := by
  have whole := unifyNewlines_append onLine []
  have nothing : lineVariable? [] = none := rfl
  rw [List.append_nil, unifyNewlines, List.append_nil] at whole
  rw [settingLines, whole, lines_unended onLine]
  split
  · rename_i empty
    rw [empty, nothing]
    rfl
  · cases set : lineVariable? body <;> simp [set]

end Lines

section Names

theorem keys_setVariable (name text : String) (found : Variables) : (setVariable name text found).map (·.1) =
    if name ∈ found.map (·.1) then found.map (·.1) else found.map (·.1) ++ [name] := by
  induction found with
  | nil => rfl
  | cons entry rest ih =>
    obtain ⟨first, old⟩ := entry
    by_cases same : first = name
    · simp [setVariable, same]
    · have different : name ≠ first := Ne.symm same
      simp only [setVariable, same, if_false, List.map_cons, ih, List.mem_cons, different, false_or]
      split <;> rfl

theorem lookup_cons_eq (first old other : String) (rest : Variables) :
    List.lookup other ((first, old) :: rest) = if other = first then some old else rest.lookup other := by
  rw [List.lookup_cons]
  by_cases here : other = first
  · simp [here]
  · simp [beq_eq_false_iff_ne.2 here, here]

theorem lookup_setVariable (name text other : String) (found : Variables) : (setVariable name text found).lookup other =
    if other = name then some text else found.lookup other := by
  induction found with
  | nil => rw [setVariable, lookup_cons_eq]
  | cons entry rest ih =>
    obtain ⟨first, old⟩ := entry
    rw [setVariable]
    split
    · rename_i same
      rw [lookup_cons_eq, lookup_cons_eq, same]
      split <;> rfl
    · rename_i same
      rw [lookup_cons_eq, lookup_cons_eq, ih]
      by_cases here : other = first
      · subst here
        simp [same]
      · simp [here]

theorem uniqueVariables_concat (given : Variables) (name text : String) :
    uniqueVariables (given ++ [(name, text)]) = setVariable name text (uniqueVariables given) := by
  simp [uniqueVariables]

/-- Names come in the order in which they come first. -/
theorem keys_uniqueVariables (given : Variables) :
    (uniqueVariables given).map (·.1) = (given.map (·.1)).eraseDups := by
  induction given using List.reverseRecOn with
  | nil => rfl
  | append_singleton earlier entry ih =>
    rw [uniqueVariables_concat, keys_setVariable, ih, List.map_append, List.map_singleton,
      Pattern.eraseDups_concat]
    simp only [List.mem_eraseDups]

/-- A name has its last text. -/
theorem lookup_uniqueVariables (earlier : Variables) (name text : String) {later : Variables}
    (last : ∀ entry ∈ later, entry.1 ≠ name) :
    (uniqueVariables (earlier ++ (name, text) :: later)).lookup name = some text := by
  induction later using List.reverseRecOn with
  | nil => rw [uniqueVariables_concat, lookup_setVariable, if_pos rfl]
  | append_singleton later entry ih =>
    have different : name ≠ entry.1 := (last entry (by simp)).symm
    rw [← List.cons_append, ← List.append_assoc, uniqueVariables_concat, lookup_setVariable, if_neg different]
    exact ih fun other among => last other (List.mem_append_left _ among)

end Names

section Quotes

variable {c : Char} {s : List Char}

theorem dropWhile_signs (front : s.head? ≠ some c) (count : Nat) :
    (List.replicate count c ++ s).dropWhile (· == c) = s := by
  rw [List.dropWhile_append_of_pos (by simp)]
  cases s with
  | nil => rfl
  | cons d rest =>
    have other : d ≠ c := by simpa using front
    simp [other]

/-- A text loses the signs that are put around it and no others. -/
theorem stripOf_signs (front : s.head? ≠ some c) (back : s.getLast? ≠ some c) (before behind : Nat) :
    stripOf (· == c) (List.replicate before c ++ s ++ List.replicate behind c) = s := by
  rw [stripOf, dropLeading, dropTrailing, List.append_assoc]
  by_cases empty : s = []
  · have all : (List.replicate before c ++ (s ++ List.replicate behind c)).dropWhile (· == c) = [] := by
      simp [empty]
    rw [all, empty]
    rfl
  · have first : (s ++ List.replicate behind c).head? ≠ some c := by rwa [List.head?_append_of_ne_nil _ empty]
    rw [dropWhile_signs first, List.reverse_append, List.reverse_replicate,
      dropWhile_signs (by rwa [List.head?_reverse]), List.reverse_reverse]

theorem exists_signs (c : Char) (s : List Char) :
    ∃ count rest, s = List.replicate count c ++ rest ∧ rest.head? ≠ some c := by
  induction s with
  | nil => exact ⟨0, [], rfl, by simp⟩
  | cons d s ih =>
    by_cases sign : d = c
    · obtain ⟨count, rest, whole, first⟩ := ih
      exact ⟨count + 1, rest, by rw [sign, whole, List.replicate_succ, List.cons_append], first⟩
    · exact ⟨0, d :: s, rfl, by simpa using sign⟩

/-- Every text is one that does not begin or end with a sign, with some of these signs around it. -/
theorem exists_signs_around (c : Char) (s : List Char) : ∃ before inner behind,
    s = List.replicate before c ++ inner ++ List.replicate behind c ∧ inner.head? ≠ some c ∧
      inner.getLast? ≠ some c := by
  obtain ⟨before, rest, whole, first⟩ := exists_signs c s
  obtain ⟨behind, turned, whole', last⟩ := exists_signs c rest.reverse
  have rest_eq : rest = turned.reverse ++ List.replicate behind c := by
    rw [← List.reverse_reverse rest, whole', List.reverse_append, List.reverse_replicate]
  refine ⟨before, turned.reverse, behind, by rw [whole, rest_eq, List.append_assoc], ?_, by rwa [List.getLast?_reverse]⟩
  intro sign
  rw [rest_eq, List.head?_append, sign] at first
  exact first rfl

end Quotes

namespace Assignment

theorem quoted_solid (a : Assignment) : Solid ('=' :: a.quoted) where
  filled := List.cons_ne_nil _ _
  front c first := by
    obtain rfl : '=' = c := by simpa using first
    rfl
  back c last := by
    have ends : ('=' :: a.quoted).getLast? = some a.mark.val := by
      rw [quoted, ← List.cons_append, ← List.cons_append, List.getLast?_concat]
    obtain rfl : a.mark.val = c := Option.some.inj (ends.symm.trans last)
    exact Address.isBlank_mark a.mark

theorem written_onLine (a : Assignment) : ∀ c ∈ a.written, endsLine c = false := by
  have marks : endsLine a.mark.val = false := by
    obtain ⟨c, isMark⟩ := a.mark
    simp only [Address.isQuote, Bool.or_eq_true, beq_iff_eq] at isMark
    rcases isMark with rfl | rfl <;> rfl
  have equals : endsLine '=' = false := rfl
  intro c among
  simp only [written, quoted, List.mem_append, List.mem_cons, List.not_mem_nil, or_false] at among
  rcases among with named | rfl | rfl | text | rfl
  · exact a.nameOnLine c named
  · exact equals
  · exact marks
  · exact a.textOnLine c text
  · exact marks

theorem mark_cases (a : Assignment) : a.mark.val = '\'' ∨ a.mark.val = '"' := by
  simpa [Address.isQuote, or_comm] using a.mark.property

theorem quoted_eq (a : Assignment) :
    a.quoted = List.replicate 1 a.mark.val ++ a.text ++ List.replicate 1 a.mark.val := by
  simp [quoted]

/-- The marks are taken away, and after double quotes the single quotes behind them. -/
theorem exists_leaves (a : Assignment) : ∃ left, a.Leaves left ∧
    withoutQuotes '\'' (withoutQuotes '"' a.quoted) = left := by
  have front : a.text.head? ≠ some a.mark.val := fun first => a.unmarked (List.mem_of_head? first)
  have back : a.text.getLast? ≠ some a.mark.val := fun last => a.unmarked (List.mem_of_getLast? last)
  have unmarked : withoutQuotes a.mark.val a.quoted = a.text := by
    rw [quoted_eq]
    exact stripOf_signs front back 1 1
  rcases a.mark_cases with single | double
  · have kept : withoutQuotes '"' a.quoted = a.quoted := by
      have whole := @stripOf_signs '"' a.quoted (by simp [quoted, single])
        (by rw [quoted, ← List.cons_append, List.getLast?_concat, single]; decide) 0 0
      simpa [withoutQuotes] using whole
    exact ⟨a.text, .inl ⟨single, rfl⟩, by rw [kept, ← single, unmarked]⟩
  · obtain ⟨before, inner, behind, whole, first, last⟩ := exists_signs_around '\'' a.text
    refine ⟨inner, .inr ⟨double, first, last, before, behind, whole⟩, ?_⟩
    rw [← double, unmarked, whole]
    exact stripOf_signs first last before behind

theorem lineVariable?_written (a : Assignment) :
    ∃ left, a.Leaves left ∧ lineVariable? a.written = some (a.key, String.ofList left) := by
  obtain ⟨left, leaves, read⟩ := a.exists_leaves
  have tight : trim a.written = a.written := (a.named.append a.quoted_solid).trim
  have first : a.written.head? ≠ some '#' := by
    rw [written, List.head?_append_of_ne_nil _ a.named.filled]
    exact a.uncommented
  have named : a.name.isEmpty = false := by simpa using a.named.filled
  refine ⟨left, leaves, ?_⟩
  simp only [lineVariable?, tight, beq_iff_eq, first, if_false]
  rw [written, cutAtChar?_append a.uncut, Option.bind_some]
  simp only [a.named.trim, named, quoted, Address.trim_marked]
  rw [← quoted, read]
  rfl

/-- A text is read as it stands exactly if it is in single quotes or neither begins nor ends with one. -/
theorem Leaves.eq_text_iff {a : Assignment} {left : List Char} (leaves : a.Leaves left) :
    left = a.text ↔ a.mark.val = '\'' ∨ (a.text.head? ≠ some '\'' ∧ a.text.getLast? ≠ some '\'') := by
  rcases leaves with ⟨single, rfl⟩ | ⟨double, first, last, before, behind, whole⟩
  · simp [single]
  · have other : a.mark.val ≠ '\'' := by simp [double]
    constructor
    · rintro rfl
      exact .inr ⟨first, last⟩
    · rintro (single | ⟨front, back⟩)
      · exact absurd single other
      · -- Both are what is left of the text without single quotes at its ends.
        have same := stripOf_signs first last before behind
        have whole' := stripOf_signs front back 0 0
        rw [← whole] at same
        simp only [List.replicate_zero, List.nil_append, List.append_nil] at whole'
        exact same.symm.trans whole'

end Assignment

namespace Line

theorem onLine (line : Line) : ∀ c ∈ line.written, endsLine c = false := by
  cases line with
  | sets a => exact a.written_onLine
  | blank blanks _ onLine => exact onLine
  | comment text onLine => exact List.forall_mem_cons.2 ⟨rfl, onLine⟩

theorem lineVariable?_written (line : Line) :
    (∃ a left, line.assignment? = some a ∧ a.Leaves left ∧
      lineVariable? line.written = some (a.key, String.ofList left)) ∨
    (line.assignment? = none ∧ lineVariable? line.written = none) := by
  cases line with
  | sets a =>
    obtain ⟨left, leaves, read⟩ := a.lineVariable?_written
    exact .inl ⟨a, left, rfl, leaves, read⟩
  | blank blanks areBlank _ =>
    have nothing : trim blanks = [] := trim_eq_nil_iff.2 areBlank
    refine .inr ⟨rfl, ?_⟩
    simp [written, lineVariable?, nothing, cutAtChar?]
  | comment text _ =>
    have sharp : (trim ('#' :: text)).head? = some '#' := head?_trim rfl text
    refine .inr ⟨rfl, ?_⟩
    simp [written, lineVariable?, sharp]

end Line

namespace VariablesFile

/-- A file sets what its lines set, each with what is left of its text. -/
theorem settingLines_text (file : VariablesFile) : ∃ lefts : List (Assignment × List Char),
    lefts.map (·.1) = file.assignments ∧ (∀ entry ∈ lefts, entry.1.Leaves entry.2) ∧
      settingLines file.text = lefts.map fun (a, left) => (a.key, String.ofList left) := by
  obtain ⟨ended, last⟩ := file
  have sets (line : Line) : ∃ lefts : List (Assignment × List Char), lefts.map (·.1) = line.assignment?.toList ∧
      (∀ entry ∈ lefts, entry.1.Leaves entry.2) ∧
      (lineVariable? line.written).toList = lefts.map fun (a, left) => (a.key, String.ofList left) := by
    rcases line.lineVariable?_written with ⟨a, left, sets, leaves, read⟩ | ⟨none, read⟩
    · exact ⟨[(a, left)], by simp [sets], by simpa using leaves, by simp [read]⟩
    · exact ⟨[], by simp [none], by simp, by simp [read]⟩
  induction ended with
  | nil =>
    obtain ⟨lefts, whose, leaves, read⟩ := sets last
    refine ⟨lefts, ?_, leaves, ?_⟩
    · rw [whose]
      cases set : last.assignment? <;> simp [assignments, set]
    · simpa [text, settingLines_unended last.onLine] using read
  | cons row rest ih =>
    obtain ⟨line, ending⟩ := row
    obtain ⟨first, whose, leaves, read⟩ := sets line
    obtain ⟨others, whose', leaves', read'⟩ := ih
    refine ⟨first ++ others, ?_, ?_, ?_⟩
    · rw [List.map_append, whose, whose']
      cases set : line.assignment? <;> simp [assignments, set]
    · intro entry among
      exact (List.mem_append.1 among).elim (leaves entry) (leaves' entry)
    · have text_cons : text ⟨(line, ending) :: rest, last⟩ = line.written ++ (ending.val ++ text ⟨rest, last⟩) := by
        simp [text]
      rw [text_cons, settingLines_ended line.onLine, read, read', List.map_append]

end VariablesFile

/-- A file of quoted variables is read as the names that it sets, in the order in which they come first. Each name has
what is left of its last text, and that is the text as it stands, sign by sign, exactly if it is in single quotes or
neither begins nor ends with a single quote. -/
theorem quoted_variables_read (file : VariablesFile) :
    (readVariables file.text).map (·.1) = (file.assignments.map Assignment.key).eraseDups ∧
      ∀ earlier a later, file.assignments = earlier ++ a :: later → (∀ other ∈ later, other.key ≠ a.key) →
        ∃ left, (readVariables file.text).lookup a.key = some (String.ofList left) ∧ a.Leaves left ∧
          (left = a.text ↔ a.mark.val = '\'' ∨ (a.text.head? ≠ some '\'' ∧ a.text.getLast? ≠ some '\'')) := by
  obtain ⟨lefts, whose, leaves, read⟩ := file.settingLines_text
  rw [readVariables_eq, read, keys_uniqueVariables, ← whose]
  refine ⟨by simp [Function.comp_def], fun earlier a later split free => ?_⟩
  obtain ⟨first, rest, rfl, rfl, tail⟩ := List.map_eq_append_iff.1 split
  obtain ⟨⟨same, left⟩, behind, rfl, rfl, rfl⟩ := List.map_eq_cons_iff.1 tail
  have stays : same.Leaves left := leaves (same, left) (by simp)
  refine ⟨left, ?_, stays, stays.eq_text_iff⟩
  rw [List.map_append, List.map_cons]
  refine lookup_uniqueVariables _ _ _ fun entry among => ?_
  obtain ⟨other, later, rfl⟩ := List.mem_map.1 among
  exact free other.1 (List.mem_map.2 ⟨other, later, rfl⟩)

example : readVariables "KEY=\"'x'\"\n".toList = [("KEY", "x")] := by decide +kernel

/-- A text in single quotes within double quotes. -/
def twiceQuoted : Assignment where
  name := "KEY".toList
  text := "'x'".toList
  mark := ⟨'"', by decide⟩
  named := solid_of_forall (by decide) (by simp [isBlank])
  uncut := by decide
  uncommented := by decide
  nameOnLine := by simp [endsLine]
  textOnLine := by simp [endsLine]
  unmarked := by decide

/-- A text that has blanks, double quotes and an equals sign in it. -/
def singlyQuoted : Assignment where
  name := "OTHER".toList
  text := " a = \"b\"".toList
  mark := ⟨'\'', by decide⟩
  named := solid_of_forall (by decide) (by simp [isBlank])
  uncut := by decide
  uncommented := by decide
  nameOnLine := by simp [endsLine]
  textOnLine := by simp [endsLine]
  unmarked := by decide

def quotedFile : VariablesFile where
  ended := [(.sets singlyQuoted, ⟨['\r', '\n'], .inl rfl⟩),
    (.comment " KEY=z".toList (by simp [endsLine]), ⟨['\n'], .inr ⟨'\n', rfl, rfl⟩⟩),
    (.blank [' ', '\t'] (by simp [isBlank]) (by simp [endsLine]), ⟨['\n'], .inr ⟨'\n', rfl, rfl⟩⟩)]
  last := .sets twiceQuoted

/-- The text in single quotes is read as it stands, and the one in double quotes is not. -/
theorem quoted_variables_read_two :
    (readVariables quotedFile.text).map (·.1) = ["OTHER", "KEY"] ∧
      (readVariables quotedFile.text).lookup "OTHER" = some " a = \"b\"" ∧
      ∃ left, (readVariables quotedFile.text).lookup "KEY" = some (String.ofList left) ∧ left ≠ "'x'".toList := by
  obtain ⟨keys, last⟩ := quoted_variables_read quotedFile
  obtain ⟨kept, found, -, same⟩ := last [] singlyQuoted [twiceQuoted] rfl (by decide)
  obtain ⟨left, found', -, same'⟩ := last [singlyQuoted] twiceQuoted [] rfl (by simp)
  refine ⟨keys, ?_, left, found', fun whole => ?_⟩
  · rw [same.2 (.inl rfl)] at found
    exact found
  · exact absurd (same'.1 whole) (by decide)

end Stencil.Settings
