import Stencil.Host.Members
import Stencil.Proofs.Composition

/-! Positions behind a point and positions in a bracket.

A numeral is a name behind a point and a number in a bracket. A sequence takes the name for the number, and a
dictionary takes the number for the name if the numeral is the digits of the number. Nothing else that an
address leads to from plain data has anything under a numeral. So the two forms lead to the same place.
-/

set_option autoImplicit false

namespace Stencil

open Text Number

section Members

-- A numeral is the name of no method.
theorem methodIn_of_ascii {methods : List String} {name : String}
    (letters : ∀ method ∈ methods, method.toList.all isAsciiDigit = false)
    (ascii : ∀ c ∈ name.toList, isAsciiDigit c = true) : methodIn methods name = none := by
  have digits : name.toList.all isAsciiDigit = true := List.all_eq_true.2 ascii
  have absent : name ∉ methods := fun among => by simp [letters name among] at digits
  simp [methodIn, absent]

end Members

namespace Address

variable {κ : Type} {access : Access}

/-- Data made of dictionaries whose keys are texts, sequences and scalars, however large. -/
inductive Data : Value → Prop where
  | null : Data .null
  | bool (b : Bool) : Data (.bool b)
  | int (n : Int) : Data (.int n)
  | float (d : Double) : Data (.float d)
  | text (s : String) : Data (.text s)
  | list {items : List Value} : (∀ item ∈ items, Data item) → Data (.list items)
  | tuple {items : List Value} : (∀ item ∈ items, Data item) → Data (.tuple items)
  | dict {entries : Entries} : (∀ entry ∈ entries, ∃ name, entry.1 = .text name) →
      (∀ entry ∈ entries, Data entry.2) → Data (.dict entries)

/-- What addresses lead to from data: data, nothing, or a method of a scalar. -/
inductive Reached : Value → Prop where
  | data {value : Value} : Data value → Reached value
  | undefined : Reached .undefined
  | method (name : String) : Reached (.object (.method name))

/-- Methods have no entries and no public members. -/
structure Access.Closed (access : Access) : Prop where
  entries : ∀ method, access.entries? (.method method) = none
  members : ∀ method name, access.member? (.method method) name = none

theorem closed_access (host : Host κ) : host.access.Closed where
  entries _ := rfl
  members _ _ := rfl

section Reaching

/-- An optional value is one that can be reached, if there is one. -/
def ReachedIfAny (found : Option Value) : Prop :=
  ∀ value ∈ found, Reached value

theorem ReachedIfAny.getD {found : Option Value} (reached : ReachedIfAny found) :
    Reached (found.getD .undefined) := by
  cases found with
  | none => exact .undefined
  | some value => exact reached value rfl

theorem reachedIfAny_some {value : Value} (reached : Reached value) : ReachedIfAny (some value) := by
  rintro _ ⟨⟩
  exact reached

theorem reachedIfAny_none : ReachedIfAny none := nofun

theorem reachedIfAny_methodIn (methods : List String) (name : String) : ReachedIfAny (methodIn methods name) := by
  unfold methodIn
  split
  · exact reachedIfAny_some (.method name)
  · exact reachedIfAny_none

theorem reachedIfAny_intMember? (n : Int) (name : String) : ReachedIfAny (intMember? n name) := by
  unfold intMember?
  split_ifs
  · exact reachedIfAny_some (.data (.int n))
  · exact reachedIfAny_some (.data (.int 0))
  · exact reachedIfAny_some (.data (.int 1))
  · exact reachedIfAny_methodIn _ name

theorem reachedIfAny_floatMember? (d : Double) (name : String) : ReachedIfAny (floatMember? d name) := by
  unfold floatMember?
  split_ifs
  · exact reachedIfAny_some (.data (.float d))
  · exact reachedIfAny_some (.data (.float _))
  · exact reachedIfAny_methodIn _ name

theorem Data.reachedIfAny_member? {value : Value} (data : Data value) (name : String) :
    ReachedIfAny (value.member? access.member? name) := by
  cases data with
  | bool b => exact reachedIfAny_intMember? _ name
  | int n => exact reachedIfAny_intMember? n name
  | float d => exact reachedIfAny_floatMember? d name
  | text s => exact reachedIfAny_methodIn _ name
  | _ => exact reachedIfAny_none

theorem Data.reached_member {value : Value} (data : Data value) (step : Step) : Reached (step.member access value) := by
  cases step with
  | index n => exact .undefined
  | name s =>
    simp only [Step.member]
    split
    · exact .undefined
    · exact (data.reachedIfAny_member? s).getD

theorem reachedIfAny_find? {entries : Entries} (data : ∀ entry ∈ entries, Data entry.2) (key : Value) :
    ReachedIfAny (entries.find? key) := by
  intro value found
  obtain ⟨entry, first, rfl⟩ := Option.map_eq_some_iff.1 (Option.mem_def.1 found)
  exact .data (data entry (List.mem_of_find?_eq_some first))

theorem reached_inEntries {entries : Entries} (data : ∀ entry ∈ entries, Data entry.2) (step : Step) :
    Reached (step.inEntries entries) := by
  have direct := reachedIfAny_find? data step.key
  simp only [Step.inEntries]
  generalize entries.find? step.key = found at direct ⊢
  cases found with
  | some value => exact direct value rfl
  | none =>
    cases step with
    | name s => exact .undefined
    | index n => exact (reachedIfAny_find? data _).getD

theorem reached_item {items : List Value} (data : ∀ item ∈ items, Data item) {step : Step} {next : Value}
    (leads : (step.position? >>= fun
      | some n => .ok (items[n]?.getD .undefined)
      | none => .ok .undefined) = Except.ok next) : Reached next := by
  generalize step.position? = position? at leads
  rcases position? with fault | _ | n
  · cases leads
  · cases leads
    exact .undefined
  · cases leads
    exact ReachedIfAny.getD fun item found => .data (data item (List.mem_of_getElem? found))

/-- A step from what can be reached leads to what can be reached. -/
theorem Reached.from (closed : access.Closed) {value next : Value} (reached : Reached value) {step : Step}
    (leads : step.from access value = .ok next) : Reached next := by
  cases reached with
  | undefined =>
    cases leads
    exact .undefined
  | method name =>
    cases step <;> simp [Step.from, closed.entries, Step.member, Value.member?, closed.members] at leads <;>
      exact leads ▸ .undefined
  | data data =>
    have member : Reached (step.member access value) := data.reached_member step
    cases data with
    | null =>
      cases leads
      exact .undefined
    | list items => exact reached_item items leads
    | tuple items => exact reached_item items leads
    | dict _ values =>
      cases leads
      exact reached_inEntries values step
    | _ =>
      cases leads
      exact member

theorem Reached.trail (closed : access.Closed) {steps : List Step} {value last : Value} (reached : Reached value)
    (arrives : trail access steps value = .ok last) : Reached last := by
  induction steps generalizing value with
  | nil =>
    cases arrives
    exact reached
  | cons step steps ih =>
    rw [trail_cons] at arrives
    cases leads : step.from access value with
    | error fault =>
      rw [leads] at arrives
      cases arrives
    | ok next =>
      rw [leads] at arrives
      exact ih (reached.from closed leads) arrives

end Reaching

section Spelling

variable {n : Nat}

theorem ascii_natText (n : Nat) : ∀ c ∈ (natText n).toList, isAsciiDigit c = true := by
  rw [natText, String.toList_ofList]
  exact all_isAsciiDigit_decimalDigits n

-- Among texts a number is looked up by its digits.
theorem inEntries_index {entries : Entries} (texts : ∀ entry ∈ entries, ∃ name, entry.1 = .text name) (n : Nat) :
    (Step.index n).inEntries entries = (Step.name (natText n)).inEntries entries := by
  have absent : entries.find? (.int n) = none := by
    rw [Entries.find?, Option.map_eq_none_iff, List.find?_eq_none]
    intro entry among
    obtain ⟨name, isText⟩ := texts entry among
    simp [isText, Value.sameKey, Value.numberKey?]
  simp only [Step.inEntries, Step.key, absent, Entries.get?]
  cases entries.find? (.text (natText n)) <;> rfl

theorem Data.member?_natText {value : Value} (data : Data value) (n : Nat) :
    value.member? access.member? (natText n) = none := by
  have ascii := ascii_natText n
  have other {name : String} (letters : name.toList.all isAsciiDigit = false) : natText n ≠ name := by
    rintro same
    rw [List.all_eq_false] at letters
    obtain ⟨c, among, letter⟩ := letters
    exact letter (ascii c (same ▸ among))
  have ofInt (m : Int) : intMember? m (natText n) = none := by
    rw [intMember?, if_neg (by simp [@other "real" (by decide), @other "numerator" (by decide)]),
      if_neg (other (by decide)), if_neg (other (by decide))]
    exact methodIn_of_ascii (by decide +kernel) ascii
  cases data with
  | bool b => exact ofInt _
  | int m => exact ofInt m
  | float d =>
    change floatMember? d (natText n) = none
    rw [floatMember?, if_neg (other (by decide)), if_neg (other (by decide))]
    exact methodIn_of_ascii (by decide +kernel) ascii
  | text s => exact methodIn_of_ascii (by decide +kernel) ascii
  | _ => rfl

theorem position?_natText (reads : readNat (decimalDigits n) = .ok n) :
    (Step.name (natText n)).position? = (Step.index n).position? := by
  simp [Step.position?, natText, allDigitSigns_decimalDigits, reads, Except.map]

/-- From what can be reached, the digits of a number lead where the number leads. -/
theorem Reached.from_natText (closed : access.Closed) {value : Value} (reached : Reached value)
    (reads : readNat (decimalDigits n) = .ok n) :
    (Step.name (natText n)).from access value = (Step.index n).from access value := by
  have position := position?_natText reads
  cases reached with
  | undefined => rfl
  | method name => simp [Step.from, closed.entries, Step.member, Value.member?, closed.members]
  | data data =>
    have noMember : value.member? access.member? (natText n) = none := data.member?_natText n
    cases data with
    | null => rfl
    | list items => simp only [Step.from, position]
    | tuple items => simp only [Step.from, position]
    | dict texts _ => exact congrArg Except.ok (inEntries_index texts n).symm
    | _ => simp [Step.from, Step.member, noMember]

end Spelling

section Reading

variable {n : Nat} {address : String} {steps : List Step}

theorem parse_natText (n : Nat) : parse (natText n) = .ok (some [.name (natText n)]) := by
  have read := @readSteps_plain true _ [] [] (plain_decimalDigits n) endsName_nil (by rw [readSteps])
  rw [behindPoint, if_pos rfl, List.append_nil] at read
  exact parse_eq_some_iff.2 ⟨by rwa [natText, String.toList_ofList], List.cons_ne_nil _ _⟩

theorem toList_bracketed (n : Nat) : ("[" ++ natText n ++ "]").toList = '[' :: (decimalDigits n ++ [']']) := by
  simp [natText]

theorem parse_bracketed (reads : readNat (decimalDigits n) = .ok n) :
    parse ("[" ++ natText n ++ "]") = .ok (some [.index n]) := by
  have trimmed := (solid_decimalDigits n).trim
  have means : Piece.Means (.bracket (.bare (decimalDigits n) (free_decimalDigits n) (unmarked_decimalDigits n)))
      (.index n) :=
    .number (by rw [trimmed, allDigitSigns_decimalDigits]) (by rw [trimmed, reads])
  have read := readSteps_of_bracket true means (by rw [readSteps])
  refine parse_eq_some_iff.2 ⟨?_, List.cons_ne_nil _ _⟩
  rw [toList_bracketed]
  simpa [Bracket.written, Bracket.body] using read

/-- An address with a solid text behind it leads where the steps of both lead. -/
theorem resolve_append {rest : String} {more : List Step} (tight : trimmed address = address)
    (parses : parse address = .ok (some steps)) (solid : Solid rest.toList)
    (whole : parse (address ++ rest) = .ok (some (steps ++ more))) (root : Value) :
    resolve access root (.text (address ++ rest)) = trail access steps root >>= trail access more := by
  have trimmed : trimmed (address ++ rest) = address ++ rest := by
    refine Solid.trimmed ?_
    rw [String.toList_append]
    exact (solid_of_parse tight parses).append solid
  rw [← trail_append]
  exact resolve_of_parse (by rw [trimmed, whole]) root

end Reading

/-- A position behind a point and the same position in a bracket lead to the same place, behind every address
and from all data whose keys are texts, whether there is anything at that position or not. -/
theorem position_spellings_agree (host : Host κ) {root : Value} (data : Data root) {address : String}
    {steps : List Step} (tight : trimmed address = address) (parses : parse address = .ok (some steps))
    {digits : String} (numeral : Numeral digits.toList) (short : digits.toList.length ≤ digitLimit) :
    resolve host.access root (.text (address ++ "." ++ digits)) =
      resolve host.access root (.text (address ++ "[" ++ digits ++ "]")) := by
  have reads := readNat_of_ascii numeral.filled numeral.ascii short
  have same := numeral.decimalDigits_asciiValue
  generalize asciiValue digits.toList = n at reads same
  obtain rfl : digits = natText n := by rw [natText, same, String.ofList_toList]
  rw [← same] at reads
  have named := parse_point parses (parse_natText n)
  have bracketed := parse_brackets (by rw [toList_bracketed]; rfl) parses (parse_bracketed reads)
  have solidName : Solid ("." ++ natText n).toList := by
    simpa [natText] using solid_point.append (solid_decimalDigits n)
  have solidBracket : Solid ("[" ++ natText n ++ "]").toList := by
    rw [toList_bracketed]
    exact (@Branch.Spelled.index false n).solid
  have point : address ++ "." ++ natText n = address ++ ("." ++ natText n) := String.append_assoc
  have bracket : address ++ "[" ++ natText n ++ "]" = address ++ ("[" ++ natText n ++ "]") := by
    simp only [String.append_assoc]
  rw [point] at named ⊢
  rw [bracket, resolve_append tight parses solidName named, resolve_append tight parses solidBracket bracketed]
  cases arrives : trail host.access steps root with
  | error fault => rfl
  | ok value =>
    have reached := (Reached.data data).trail (closed_access host) arrives
    simp only [bind, Except.bind, trail_cons, reached.from_natText (closed_access host) reads]

/-- An item of a list, and an entry whose key is a numeral. -/
theorem position_spellings_agree_shelf :
    let host : Host Unit := .ofSettings .default [] [] (.initial "")
    let root : Value := .dict [(.text "shelf", .list [.null, .dict [(.text "12", .int 5)]])]
    Data root ∧ trimmed "shelf[1]" = "shelf[1]" ∧ parse "shelf[1]" = .ok (some [.name "shelf", .index 1]) ∧
      Numeral "12".toList ∧ "12".toList.length ≤ digitLimit ∧
      resolve host.access root (.text "shelf[1].12") = .ok (.int 5) ∧
      resolve host.access root (.text "shelf[1][12]") = .ok (.int 5) := by
  intro host root
  have inner : Data (.dict [(.text "12", .int 5)]) := .dict (by simp) (by simp [Data.int])
  have items : Data (.list [.null, .dict [(.text "12", .int 5)]]) := .list (by simp [Data.null, inner])
  have data : Data root := .dict (by simp) (by simpa using items)
  have parses : parse "shelf[1]" = .ok (some [.name "shelf", .index 1]) := by decide +kernel
  have numeral : Numeral "12".toList := ⟨by decide, by simp [isAsciiDigit], by decide⟩
  have tight : trimmed "shelf[1]" = "shelf[1]" := by decide +kernel
  have short : "12".toList.length ≤ digitLimit := by decide
  have agree := position_spellings_agree host data tight parses numeral short
  have found : resolve host.access root (.text "shelf[1].12") = .ok (.int 5) := by
    have parsed : parse (trimmed "shelf[1].12") = .ok (some [.name "shelf", .index 1, .name "12"]) := by
      decide +kernel
    exact resolve_of_parse parsed root
  exact ⟨data, tight, parses, numeral, short, found, agree ▸ found⟩

end Address

end Stencil
