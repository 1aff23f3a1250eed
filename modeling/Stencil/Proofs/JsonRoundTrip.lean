import Mathlib.Data.List.Forall2
import Stencil.Proofs.JsonScalars
import Stencil.Proofs.Keyed

/-! Data that are written as JSON text are read back as they were.

The items of a list and the entries of a dictionary are read in the same way: each up to a comma, the last
one up to the bracket that closes. Data without floating-point numbers are written if no integer in them has
more digits than can be written, and then reading gives the same data.
-/

set_option autoImplicit false

namespace Stencil.Json

/-! ## Texts with commas between them -/

def separated (texts : List (List Char)) : List Char :=
  [',', ' '].intercalate texts

theorem separated_cons_cons (first second : List Char) (texts : List (List Char)) :
    separated (first :: second :: texts) = first ++ ',' :: ' ' :: separated (second :: texts) := by
  simp [separated, List.intercalate_cons_cons]

theorem skipSpace_cons {first : Char} (inner : first ∉ outer) (rest : List Char) :
    skipSpace (first :: rest) = first :: rest := by
  simp only [outer, List.mem_cons, not_or] at inner
  simp [skipSpace, inner]

/-- A text that stands for one of several items which are read one after the other, up to a bracket. -/
structure Part {α : Type} (read : Nat → List Char → Except Stop (List α × List Char)) (close : Char) (item : α)
    (text : List Char) : Prop where
  printable : ∀ c ∈ text, 32 ≤ c.toNat
  starts : ∃ first rest, text = first :: rest ∧ first ∉ outer
  last : ∀ {fuel : Nat} (rest : List Char), text.length ≤ fuel →
    read (fuel + 1) (text ++ close :: rest) = .ok ([item], rest)
  more : ∀ {fuel : Nat} {tail rest : List Char} {items : List α}, text.length ≤ fuel → skipSpace tail = tail →
    read fuel tail = .ok (items, rest) → read (fuel + 1) (text ++ ',' :: ' ' :: tail) = .ok (item :: items, rest)

section Parts

variable {α : Type} {read : Nat → List Char → Except Stop (List α × List Char)} {close : Char}
variable {items : List α} {texts : List (List Char)}

theorem printable_separated (parts : List.Forall₂ (Part read close) items texts) :
    ∀ c ∈ separated texts, 32 ≤ c.toNat := by
  induction parts with
  | nil => simp [separated]
  | cons part parts ih =>
    cases parts with
    | nil => simpa [separated] using part.printable
    | cons next parts =>
      rw [separated_cons_cons]
      exact List.forall_mem_append.2
        ⟨part.printable, List.forall_mem_cons.2 ⟨by decide, List.forall_mem_cons.2 ⟨by decide, ih⟩⟩⟩

theorem starts_separated (parts : List.Forall₂ (Part read close) items texts) (some : items ≠ []) :
    ∃ first rest, separated texts = first :: rest ∧ first ∉ outer := by
  cases parts with
  | nil => exact absurd rfl some
  | cons part parts =>
    obtain ⟨first, rest, rfl, inner⟩ := part.starts
    cases parts with
    | nil => exact ⟨first, rest, by simp [separated], inner⟩
    | cons next parts => exact ⟨first, _, by rw [separated_cons_cons]; rfl, inner⟩

-- The fuel that one item leaves is enough for the items after it: two characters stand between them.
theorem read_separated (parts : List.Forall₂ (Part read close) items texts) (some : items ≠ []) {fuel : Nat}
    (rest : List Char) (enough : (separated texts).length < fuel) :
    read fuel (separated texts ++ close :: rest) = .ok (items, rest) := by
  induction parts generalizing fuel with
  | nil => exact absurd rfl some
  | cons part parts ih =>
    obtain ⟨fuel, rfl⟩ : ∃ less, fuel = less + 1 := ⟨fuel - 1, by omega⟩
    cases parts with
    | nil =>
      simp only [separated, List.intercalate_singleton] at enough ⊢
      exact part.last rest (by omega)
    | cons next parts =>
      obtain ⟨first, tail, begins, inner⟩ := starts_separated (.cons next parts) (by simp)
      rw [separated_cons_cons] at enough ⊢
      simp only [List.length_append, List.length_cons] at enough
      rw [List.append_assoc]
      refine part.more (by omega) ?_ (ih (by simp) (by omega))
      rw [begins]
      exact skipSpace_cons inner (tail ++ close :: rest)

/-- Parts between two brackets stand for a value, if reading a value after the first bracket is reading its
parts. -/
theorem reads_separated {value : Value} {opening : Char} (parts : List.Forall₂ (Part read close) items texts)
    (begin : 32 ≤ opening.toNat ∧ opening ∉ outer) (finish : 32 ≤ close.toNat)
    (none : items = [] → ∀ fuel rest, readValue (fuel + 1) (opening :: close :: rest) = .ok (value, rest))
    (some : ∀ fuel first tail rest, first ∉ outer → read fuel (first :: tail) = .ok (items, rest) →
      readValue (fuel + 1) (opening :: first :: tail) = .ok (value, rest)) :
    Reads value (opening :: separated texts ++ [close]) where
  printable := List.forall_mem_append.2
    ⟨List.forall_mem_cons.2 ⟨begin.1, printable_separated parts⟩, List.forall_mem_singleton.2 finish⟩
  starts := ⟨opening, _, rfl, begin.2⟩
  back := by
    intro fuel rest enough ends
    simp only [List.cons_append, List.length_cons, List.length_append, List.length_nil, List.append_assoc,
      List.nil_append] at enough ⊢
    cases fuel with
    | zero => omega
    | succ fuel =>
      by_cases empty : items = []
      · have nothing : separated texts = [] := by
          subst empty
          cases parts
          rfl
        rw [nothing]
        exact none empty fuel rest
      · obtain ⟨first, tail, begins, inner⟩ := starts_separated parts empty
        have whole := read_separated parts empty rest (by omega : (separated texts).length < fuel)
        rw [begins, List.cons_append] at whole ⊢
        exact some fuel first _ rest inner whole

end Parts

/-! ## Lists -/

theorem Reads.part {item : Value} {text : List Char} (reads : Reads item text) : Part readItems ']' item text where
  printable := reads.printable
  starts := reads.starts
  last := by
    intro fuel rest enough
    rw [readItems, reads.back enough (.bracket rest)]
    rfl
  more := by
    intro fuel tail rest items enough begins later
    have space : skipSpace (' ' :: tail) = tail := begins
    rw [readItems, reads.back enough (.comma _)]
    change (readItems fuel (skipSpace (' ' :: tail)) >>= fun found => pure (item :: found.1, found.2)) = _
    rw [space, later]
    rfl

theorem reads_list {items : List Value} {texts : List (List Char)} (reads : List.Forall₂ Reads items texts) :
    Reads (.list items) ('[' :: separated texts ++ [']']) := by
  refine reads_separated (reads.imp fun _ _ => Reads.part) (by decide) (by decide) ?_ ?_
  · rintro rfl fuel rest
    rfl
  · intro fuel first tail rest inner whole
    have unclosed : first ≠ ']' := fun same => inner (by simp [outer, same])
    simp [readValue, skipSpace_cons inner, unclosed, whole]

/-! ## Dictionaries -/

/-- A text that stands for an entry: its key in quotes, a colon and a text that stands for its value. -/
inductive Member : Value × Value → List Char → Prop where
  | intro (name : String) {value : Value} {content : List Char} (reads : Reads value content) :
      Member (.text name, value) ((writeText name).toList ++ ':' :: ' ' :: content)

theorem readMembers_member {fuel : Nat} {name : String} {value : Value} {content tail : List Char}
    (reads : Reads value content) (enough : content.length ≤ fuel) (ends : Ends tail) :
    readMembers (fuel + 1) ((writeText name).toList ++ ':' :: ' ' :: content ++ tail) =
      match skipSpace tail with
      | '\x7d' :: rest => .ok ([(.text name, value)], rest)
      | ',' :: more => (readMembers fuel (skipSpace more)).map fun found => ((.text name, value) :: found.1, found.2)
      | other => .error (.at "Expecting ',' delimiter" other.length) := by
  obtain ⟨first, rest, begins, inner⟩ := reads.starts
  have spaced : skipSpace (' ' :: (content ++ tail)) = content ++ tail := by
    rw [begins]
    exact skipSpace_cons inner (rest ++ tail)
  have colon (rest : List Char) : skipSpace (':' :: rest) = ':' :: rest := rfl
  rw [List.append_assoc, toList_writeText_append, readMembers, readText_quoted]
  simp only [bind, Except.bind, List.cons_append, colon, spaced, reads.back enough ends, String.ofList_toList]
  cases ends with
  | comma more =>
    have comma : skipSpace (',' :: more) = ',' :: more := rfl
    simp only [comma]
    cases readMembers fuel (skipSpace more) <;> rfl
  | nothing | bracket | brace => rfl

theorem Member.part {entry : Value × Value} {text : List Char} (member : Member entry text) :
    Part readMembers '\x7d' entry text := by
  obtain @⟨name, value, content, reads⟩ := member
  have shorter {fuel : Nat} (enough : ((writeText name).toList ++ ':' :: ' ' :: content).length ≤ fuel) :
      content.length ≤ fuel := by
    simp only [List.length_append, List.length_cons] at enough
    omega
  refine ⟨?_, ?_, ?_, ?_⟩
  · exact List.forall_mem_append.2 ⟨printable_writeText name,
      List.forall_mem_cons.2 ⟨by decide, List.forall_mem_cons.2 ⟨by decide, reads.printable⟩⟩⟩
  · rw [toList_writeText_append]
    exact ⟨'"', _, rfl, by decide⟩
  · intro fuel rest enough
    rw [readMembers_member reads (shorter enough) (.brace rest)]
    rfl
  · intro fuel tail rest members enough begins later
    have space : skipSpace (' ' :: tail) = tail := begins
    rw [readMembers_member reads (shorter enough) (.comma _)]
    change (readMembers fuel (skipSpace (' ' :: tail))).map _ = _
    rw [space, later]
    rfl

theorem reads_dict {entries : Entries} {texts : List (List Char)} (keyed : entries.TextKeyed)
    (members : List.Forall₂ Member entries texts) :
    Reads (.dict entries) ('\x7b' :: separated texts ++ ['\x7d']) := by
  refine reads_separated (members.imp fun _ _ => Member.part) (by decide) (by decide) ?_ ?_
  · rintro rfl fuel rest
    rfl
  · intro fuel first tail rest inner whole
    have unclosed : first ≠ '\x7d' := fun same => inner (by simp [outer, same])
    simp [readValue, skipSpace_cons inner, unclosed, whole, keyed.ofPairs]

/-! ## Writing -/

/-- Data that JSON text holds as they are: no floating-point numbers among them, no tuples, and only
dictionaries that are keyed by texts. -/
inductive Exact : Value → Prop where
  | null : Exact .null
  | bool (b : Bool) : Exact (.bool b)
  | int (n : Int) : Exact (.int n)
  | text (s : String) : Exact (.text s)
  | list {items : List Value} (each : ∀ item ∈ items, Exact item) : Exact (.list items)
  | dict {entries : Entries} (keyed : entries.TextKeyed) (each : ∀ entry ∈ entries, Exact entry.2) :
      Exact (.dict entries)

/-- An integer with more digits than can be written is the value, or stands in it. -/
inductive Long : Value → Prop where
  | int {n : Int} (long : Number.tenTo Number.digitLimit ≤ n.natAbs) : Long (.int n)
  | item {items : List Value} {item : Value} (among : item ∈ items) (long : Long item) : Long (.list items)
  | entry {entries : Entries} {entry : Value × Value} (among : entry ∈ entries) (long : Long entry.2) :
      Long (.dict entries)

/-- What becomes of a value that is written: it is refused, or there is a text that stands for it. -/
inductive Written (value : Value) : Prop where
  | refused (long : Long value) (fault : write value = .error (.numeral .tooLongToWrite))
  | told {text : String} (short : ¬ Long value) (written : write value = .ok text) (reads : Reads value text.toList)

theorem not_long_null : ¬ Long .null := by
  rintro ⟨⟩

theorem not_long_bool (b : Bool) : ¬ Long (.bool b) := by
  rintro ⟨⟩

theorem not_long_text (s : String) : ¬ Long (.text s) := by
  rintro ⟨⟩

theorem writeItems_cases {items : List Value} (each : ∀ item ∈ items, Written item) :
    (∃ item ∈ items, Long item) ∧ writeItems items = .error (.numeral .tooLongToWrite) ∨
      (∀ item ∈ items, ¬ Long item) ∧ ∃ texts, writeItems items = .ok texts ∧
        List.Forall₂ Reads items (texts.map String.toList) := by
  induction items with
  | nil => exact .inr ⟨by simp, [], by rw [writeItems], .nil⟩
  | cons item items ih =>
    obtain ⟨first, others⟩ := List.forall_mem_cons.1 each
    cases first with
    | refused long fault => exact .inl ⟨⟨item, List.mem_cons_self, long⟩, by rw [writeItems, fault]; rfl⟩
    | told short written reads =>
      rcases ih others with ⟨⟨other, among, long⟩, fault⟩ | ⟨shorts, texts, all, reading⟩
      · exact .inl ⟨⟨other, List.mem_cons_of_mem item among, long⟩, by rw [writeItems, written, fault]; rfl⟩
      · exact .inr ⟨List.forall_mem_cons.2 ⟨short, shorts⟩, _ :: texts, by rw [writeItems, written, all]; rfl,
          .cons reads reading⟩

theorem writeEntries_cases {entries : Entries} (keyed : entries.TextKeyed)
    (each : ∀ entry ∈ entries, Written entry.2) :
    (∃ entry ∈ entries, Long entry.2) ∧ writeEntries entries = .error (.numeral .tooLongToWrite) ∨
      (∀ entry ∈ entries, ¬ Long entry.2) ∧ ∃ texts, writeEntries entries = .ok texts ∧
        List.Forall₂ Member entries (texts.map String.toList) := by
  induction entries with
  | nil => exact .inr ⟨by simp, [], by rw [writeEntries], .nil⟩
  | cons entry entries ih =>
    obtain ⟨key, value⟩ := entry
    obtain ⟨⟨name, rfl⟩, -, keyed⟩ := Entries.textKeyed_cons.1 keyed
    obtain ⟨first, others⟩ := List.forall_mem_cons.1 each
    cases first with
    | refused long fault =>
      exact .inl ⟨⟨_, List.mem_cons_self, long⟩, by rw [writeEntries, keyText, fault]; rfl⟩
    | @told text short written reads =>
      rcases ih keyed others with ⟨⟨other, among, long⟩, fault⟩ | ⟨shorts, texts, all, reading⟩
      · exact .inl ⟨⟨other, List.mem_cons_of_mem _ among, long⟩,
          by rw [writeEntries, keyText, written, fault]; rfl⟩
      · have member : Member (.text name, value) (writeText name ++ ": " ++ text).toList := by
          simpa using Member.intro name reads
        exact .inr ⟨List.forall_mem_cons.2 ⟨short, shorts⟩, _ :: texts,
          by rw [writeEntries, keyText, written, all]; rfl, .cons member reading⟩

theorem Exact.written {value : Value} (data : Exact value) : Written value := by
  induction data with
  | null =>
    refine .told not_long_null (by rw [write]) ?_
    exact reads_null
  | bool b =>
    refine .told (not_long_bool b) (by rw [write]) ?_
    cases b
    · exact reads_false
    · exact reads_true
  | text s => exact .told (not_long_text s) (write_text s) (reads_text s)
  | int n =>
    by_cases long : Number.tenTo Number.digitLimit ≤ n.natAbs
    · exact .refused (.int long) (by rw [write, Number.writeInt, if_pos long]; rfl)
    · refine .told ?_ (by rw [write, Number.writeInt, if_neg long]; rfl) (reads_int (Nat.lt_of_not_le long))
      rintro ⟨tooLong⟩
      exact long tooLong
  | list each ih =>
    rcases writeItems_cases ih with ⟨⟨item, among, long⟩, fault⟩ | ⟨shorts, texts, all, reading⟩
    · exact .refused (.item among long) (by rw [write, fault]; rfl)
    · refine .told ?_ (by rw [write, all]; rfl) (by simpa [separated] using reads_list reading)
      intro long
      cases long with
      | item among long => exact shorts _ among long
  | dict keyed each ih =>
    rcases writeEntries_cases keyed ih with ⟨⟨entry, among, long⟩, fault⟩ | ⟨shorts, texts, all, reading⟩
    · exact .refused (.entry among long) (by rw [write, fault]; rfl)
    · refine .told ?_ (by rw [write, all]; rfl) (by simpa [separated] using reads_dict keyed reading)
      intro long
      cases long with
      | entry among long => exact shorts _ among long

/-! ## The round trip -/

theorem Reads.read {value : Value} {text : String} (reads : Reads value text.toList) : read text = .ok value := by
  obtain ⟨first, rest, begins, inner⟩ := reads.starts
  have noMark : text.toList.head? ≠ some '\ufeff' := by
    rw [begins]
    rintro same
    cases same
    exact inner (by decide)
  have back := reads.back (Nat.le_succ _) .nothing
  have space : skipSpace text.toList = text.toList := by
    rw [begins]
    exact skipSpace_cons inner rest
  rw [List.append_nil] at back
  rw [Json.read, if_neg noMark, readAll, space, back]
  rfl

/-- Data without long integers are written as text without control characters that is read back as they were,
and other data are refused. -/
theorem Exact.read_write {value : Value} (data : Exact value) :
    (Long value → write value = .error (.numeral .tooLongToWrite)) ∧
      (¬ Long value → ∃ text, write value = .ok text ∧ (∀ c ∈ text.toList, 32 ≤ c.toNat) ∧ read text = .ok value) := by
  cases data.written with
  | refused long fault => exact ⟨fun _ => fault, fun short => absurd long short⟩
  | @told text short written reads =>
    exact ⟨fun long => absurd long short, fun _ => ⟨text, written, reads.printable, reads.read⟩⟩

end Stencil.Json
