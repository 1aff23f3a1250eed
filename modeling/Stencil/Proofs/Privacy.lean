import Mathlib.Data.List.Forall2
import Stencil.Proofs.Lookup
import Stencil.Proofs.Overlay

/-! What addresses tell of private members.

Two values are alike if they are built alike and have alike public members. Private members may be there
or not, and hold anything. A step leads from values that are alike to values that are alike, or fails in
both in the same way, and so does a whole address: it tells nothing of what is private. Keys of
dictionaries are no members, whatever they begin with.

Objects lead to one another in circles, so which of them are alike is not built up from their members. It
is a relation that has to agree with what their members are.
-/

set_option autoImplicit false

namespace Stencil

open Number (NumeralFault)

/-- Values that are built alike, with members that are alike except for private ones, in all the records
inside them. Objects are alike as `same` has it. A section tells the names of its fields, so these are the
same in the same order. -/
inductive Value.Alike (same : Object → Object → Prop) : Value → Value → Prop
  | null : Alike same .null .null
  | undefined : Alike same .undefined .undefined
  | bool (b : Bool) : Alike same (.bool b) (.bool b)
  | int (n : Int) : Alike same (.int n) (.int n)
  | float (d : Number.Double) : Alike same (.float d) (.float d)
  | text (s : String) : Alike same (.text s) (.text s)
  | list {items others : List Value} (parts : List.Forall₂ (Alike same) items others) :
      Alike same (.list items) (.list others)
  | tuple {items others : List Value} (parts : List.Forall₂ (Alike same) items others) :
      Alike same (.tuple items) (.tuple others)
  | dict {entries others : List (Value × Value)}
      (keys : List.Forall₂ (Alike same) (entries.map (·.1)) (others.map (·.1)))
      (values : List.Forall₂ (Alike same) (entries.map (·.2)) (others.map (·.2))) :
      Alike same (.dict entries) (.dict others)
  | record {kind : RecordKind} {fields others : List (String × Value)}
      (members : ∀ name, isPrivate name = false →
        Option.Rel (Alike same) (fields.lookup name) (others.lookup name))
      (names : ∀ title, kind = .section title → publicNames fields = publicNames others) :
      Alike same (.record kind fields) (.record kind others)
  | object {o other : Object} (counterparts : same o other) : Alike same (.object o) (.object other)

namespace Address

/-- Two ways to look into objects that show alike entries and alike public members of objects that are
`same`. -/
structure Twins (access twin : Access) (same : Object → Object → Prop) : Prop where
  entries : ∀ ⦃o other⦄, same o other →
    Option.Rel (fun entries others => Value.Alike same (.dict entries) (.dict others))
      (access.entries? o) (twin.entries? other)
  members : ∀ ⦃o other⦄, same o other → ∀ name, isPrivate name = false →
    Option.Rel (Value.Alike same) (access.member? o name) (twin.member? other name)
  -- Error codes are texts as well, so they are looked into like texts, and count as keys like texts.
  codes : ∀ ⦃o other⦄, same o other → ∀ code, o = .code code ↔ other = .code code
  methods : ∀ name, same (.method name) (.method name)
  others : ∀ className, same (.other className) (.other className)

variable {access twin : Access} {same : Object → Object → Prop}

section Reflexivity

/-- A value is like itself if all objects are. -/
theorem alike_self (reflexive : ∀ o, same o o) : ∀ value, Value.Alike same value value
  | .null => .null
  | .undefined => .undefined
  | .bool b => .bool b
  | .int n => .int n
  | .float d => .float d
  | .text s => .text s
  | .list items => .list (parts items)
  | .tuple items => .tuple (parts items)
  | .dict entries => .dict (entryKeys entries) (entryValues entries)
  | .record _ fields => .record (fun name _ => fieldParts fields name) fun _ _ => rfl
  | .object o => .object (reflexive o)
where
  parts : ∀ items : List Value, List.Forall₂ (Value.Alike same) items items
    | [] => .nil
    | item :: items => .cons (alike_self reflexive item) (parts items)
  entryKeys : ∀ entries : List (Value × Value),
      List.Forall₂ (Value.Alike same) (entries.map (·.1)) (entries.map (·.1))
    | [] => .nil
    | (key, _) :: entries => .cons (alike_self reflexive key) (entryKeys entries)
  entryValues : ∀ entries : List (Value × Value),
      List.Forall₂ (Value.Alike same) (entries.map (·.2)) (entries.map (·.2))
    | [] => .nil
    | (_, value) :: entries => .cons (alike_self reflexive value) (entryValues entries)
  fieldParts : ∀ (fields : List (String × Value)) (name : String),
      Option.Rel (Value.Alike same) (fields.lookup name) (fields.lookup name)
    | [], _ => .none
    | (field, value) :: fields, name => by
      rw [List.lookup_cons]
      cases name == field with
      | true => exact .some (alike_self reflexive value)
      | false => exact fieldParts fields name

theorem lookup_filter_public (fields : List (String × Value)) {name : String} (isPublic : isPrivate name = false) :
    (fields.filter (!isPrivate ·.1)).lookup name = fields.lookup name := by
  induction fields with
  | nil => rfl
  | cons field fields ih =>
    obtain ⟨field, value⟩ := field
    cases isField : name == field with
    | true =>
      obtain rfl := beq_iff_eq.1 isField
      simp [isPublic]
    | false =>
      cases hidden : isPrivate field <;> simp [List.lookup_cons, hidden, isField, ih]

/-- A record is like itself without its private members. -/
theorem alike_without_private (reflexive : ∀ o, same o o) (kind : RecordKind) (fields : List (String × Value)) :
    Value.Alike same (.record kind fields) (.record kind (fields.filter (!isPrivate ·.1))) := by
  refine .record (fun name isPublic => ?_) fun _ _ => ?_
  · rw [lookup_filter_public fields isPublic]
    exact alike_self.fieldParts reflexive fields name
  · simp [publicNames, List.filter_map, Function.comp_def]

/-- Ways to look into objects that differ in private members only are twins. -/
theorem Twins.of_agree (entries : ∀ o, access.entries? o = twin.entries? o)
    (members : ∀ o name, isPrivate name = false → access.member? o name = twin.member? o name) :
    Twins access twin Eq where
  entries := by
    rintro o _ rfl
    rw [entries o]
    cases twin.entries? o with
    | none => exact .none
    | some held => exact .some (alike_self (fun _ => rfl) _)
  members := by
    rintro o _ rfl name isPublic
    rw [members o name isPublic]
    cases twin.member? o name with
    | none => exact .none
    | some value => exact .some (alike_self (fun _ => rfl) value)
  codes := by
    rintro o _ rfl code
    exact Iff.rfl
  methods _ := rfl
  others _ := rfl

end Reflexivity

section Parts

theorem alike_getElem? {items others : List Value} (parts : List.Forall₂ (Value.Alike same) items others) (n : Nat) :
    Option.Rel (Value.Alike same) items[n]? others[n]? := by
  induction parts generalizing n with
  | nil => exact .none
  | cons first _ ih =>
    cases n with
    | zero => exact .some first
    | succ n => exact ih n

theorem alike_getD {found other : Option Value} (alike : Option.Rel (Value.Alike same) found other) :
    Value.Alike same (found.getD .undefined) (other.getD .undefined) := by
  cases alike with
  | none => exact .undefined
  | some alike => exact alike

theorem Twins.code_or_not (twins : Twins access twin same) {o other : Object} (counterparts : same o other) :
    (∃ code, o = .code code ∧ other = .code code) ∨
      (∀ code, o ≠ .code code) ∧ ∀ code, other ≠ .code code := by
  by_cases isCode : ∃ code, o = .code code
  · obtain ⟨code, isCode⟩ := isCode
    exact .inl ⟨code, isCode, (twins.codes counterparts code).1 isCode⟩
  · rw [not_exists] at isCode
    exact .inr ⟨isCode, fun code => mt (twins.codes counterparts code).2 (isCode code)⟩

-- Of the objects only an error code can be the key that a step means.
theorem sameKey_of_no_code {o : Object} (noCode : ∀ code, o ≠ .code code) (step : Step) :
    (Value.object o).sameKey step.key = false := by
  cases step <;> cases o <;> first | rfl | exact absurd rfl (noCode _)

theorem Twins.sameKey (twins : Twins access twin same) {key other : Value} (alike : Value.Alike same key other)
    (step : Step) : key.sameKey step.key = other.sameKey step.key := by
  cases alike with
  | object counterparts =>
    obtain ⟨code, rfl, rfl⟩ | ⟨noCode, noCode'⟩ := twins.code_or_not counterparts
    · rfl
    · rw [sameKey_of_no_code noCode, sameKey_of_no_code noCode']
  | _ => cases step <;> rfl

theorem Twins.alike_find? (twins : Twins access twin same) {entries others : Entries}
    (alike : Value.Alike same (.dict entries) (.dict others)) (step : Step) :
    Option.Rel (Value.Alike same) (entries.find? step.key) (others.find? step.key) := by
  cases alike with
  | dict keys values =>
    induction entries generalizing others with
    | nil =>
      cases others with
      | nil => exact .none
      | cons entry others => cases keys
    | cons entry entries ih =>
      cases others with
      | nil => cases keys
      | cons other others =>
        rw [List.map_cons, List.map_cons, List.forall₂_cons] at keys values
        rw [Entries.find?_cons, Entries.find?_cons, twins.sameKey keys.1 step]
        split
        · exact .some values.1
        · exact ih keys.2 values.2

theorem Twins.alike_inEntries (twins : Twins access twin same) {entries others : Entries}
    (alike : Value.Alike same (.dict entries) (.dict others)) (step : Step) :
    Value.Alike same (step.inEntries entries) (step.inEntries others) := by
  have direct := twins.alike_find? alike step
  have numeral := fun n => twins.alike_find? alike (.name (Number.natText n))
  simp only [Step.inEntries]
  generalize entries.find? step.key = found at direct ⊢
  generalize others.find? step.key = found' at direct ⊢
  cases direct with
  | some alike => exact alike
  | none =>
    cases step with
    | name s => exact .undefined
    | index n => exact alike_getD (numeral n)

end Parts

section Members

theorem Twins.alike_methodIn (twins : Twins access twin same) (methods : List String) (name : String) :
    Option.Rel (Value.Alike same) (methodIn methods name) (methodIn methods name) := by
  unfold methodIn
  split
  · exact .some (.object (twins.methods name))
  · exact .none

theorem Twins.alike_intMember? (twins : Twins access twin same) (n : Int) (name : String) :
    Option.Rel (Value.Alike same) (intMember? n name) (intMember? n name) := by
  unfold intMember?
  split_ifs
  · exact .some (.int n)
  · exact .some (.int 0)
  · exact .some (.int 1)
  · exact twins.alike_methodIn _ name

theorem Twins.alike_floatMember? (twins : Twins access twin same) (d : Number.Double) (name : String) :
    Option.Rel (Value.Alike same) (floatMember? d name) (floatMember? d name) := by
  unfold floatMember?
  split_ifs
  · exact .some (.float d)
  · exact .some (.float _)
  · exact twins.alike_methodIn _ name

theorem Twins.alike_codeMember? (twins : Twins access twin same) (code : ErrorCode) (name : String) :
    Option.Rel (Value.Alike same) (codeMember? code name) (codeMember? code name) := by
  unfold codeMember?
  split_ifs
  · exact .some (.text _)
  · exact .some (.text _)
  · exact twins.alike_methodIn _ name

theorem alike_dict_self {entries : Entries}
    (parts : ∀ entry ∈ entries, Value.Alike same entry.1 entry.1 ∧ Value.Alike same entry.2 entry.2) :
    Value.Alike same (.dict entries) (.dict entries) := by
  refine .dict (List.forall₂_same.2 ?_) (List.forall₂_same.2 ?_)
  · intro key among
    obtain ⟨entry, isEntry, rfl⟩ := List.mem_map.1 among
    exact (parts entry isEntry).1
  · intro value among
    obtain ⟨entry, isEntry, rfl⟩ := List.mem_map.1 among
    exact (parts entry isEntry).2

theorem alike_sectionRules (title : String) :
    Value.Alike same (.dict (sectionRules title)) (.dict (sectionRules title)) := by
  refine alike_dict_self fun entry among => ?_
  unfold sectionRules at among
  rcases List.mem_cons.1 among with rfl | among
  · exact ⟨.text _, .text _⟩
  · split at among
    · obtain ⟨rule, -, rfl⟩ := List.mem_map.1 among
      exact ⟨.text rule, .bool true⟩
    · cases among

theorem Twins.alike_sectionMember? (twins : Twins access twin same) (title : String) {fields others : List (String × Value)}
    (names : publicNames fields = publicNames others) (name : String) :
    Option.Rel (Value.Alike same) (sectionMember? title fields name) (sectionMember? title others name) := by
  unfold sectionMember?
  rw [names]
  split_ifs
  · exact .some (alike_sectionRules title)
  · exact .some .null
  · exact .some (.dict .nil .nil)
  · refine .some (alike_dict_self fun entry among => ?_)
    obtain ⟨field, -, rfl⟩ := List.mem_map.1 among
    exact ⟨.text field, .object (twins.others _)⟩
  · exact .some (.object (twins.others "set"))
  · exact twins.alike_methodIn _ name

theorem Twins.alike_objectMember? (twins : Twins access twin same) {o other : Object} (counterparts : same o other)
    {name : String} (isPublic : isPrivate name = false) :
    Option.Rel (Value.Alike same) ((Value.object o).member? access.member? name)
      ((Value.object other).member? twin.member? name) := by
  obtain ⟨code, rfl, rfl⟩ | ⟨noCode, noCode'⟩ := twins.code_or_not counterparts
  · exact twins.alike_codeMember? code name
  · have members := twins.members counterparts name isPublic
    cases o <;> cases other <;> first | exact members | exact absurd rfl (noCode _) | exact absurd rfl (noCode' _)

/-- What a public name leads to is alike in values that are alike. -/
theorem Twins.alike_member? (twins : Twins access twin same) {value other : Value} (alike : Value.Alike same value other)
    {name : String} (isPublic : isPrivate name = false) :
    Option.Rel (Value.Alike same) (value.member? access.member? name) (other.member? twin.member? name) := by
  cases alike with
  | bool b => exact twins.alike_intMember? _ name
  | int n => exact twins.alike_intMember? n name
  | float d => exact twins.alike_floatMember? d name
  | text s => exact twins.alike_methodIn _ name
  | object counterparts => exact twins.alike_objectMember? counterparts isPublic
  | @record kind fields others members names =>
    have found := members name isPublic
    change Option.Rel _ (recordMember? kind fields name) (recordMember? kind others name)
    unfold recordMember?
    generalize fields.lookup name = field at found ⊢
    generalize others.lookup name = field' at found ⊢
    cases found with
    | some alike => exact .some alike
    | none =>
      cases kind with
      | «section» title => exact twins.alike_sectionMember? title (names title rfl) name
      | _ => exact .none
  | _ => exact .none

theorem Twins.alike_member (twins : Twins access twin same) {value other : Value} (alike : Value.Alike same value other)
    (step : Step) : Value.Alike same (step.member access value) (step.member twin other) := by
  cases step with
  | index n => exact .undefined
  | name s =>
    simp only [Step.member]
    split
    · exact .undefined
    · rename_i shows
      rw [Bool.or_eq_true, not_or] at shows
      exact alike_getD (twins.alike_member? alike (Bool.eq_false_iff.2 shows.2))

end Members

section Steps

/-- Two results that are values alike, or the same fault. -/
inductive SameOutcome (same : Object → Object → Prop) : Except NumeralFault Value → Except NumeralFault Value → Prop
  | value {found other : Value} (alike : Value.Alike same found other) : SameOutcome same (.ok found) (.ok other)
  | fault (fault : NumeralFault) : SameOutcome same (.error fault) (.error fault)

theorem outcome_sequence {items others : List Value} (parts : List.Forall₂ (Value.Alike same) items others)
    (position? : Except NumeralFault (Option Nat)) :
    SameOutcome same
      (position? >>= fun
        | some n => .ok (items[n]?.getD .undefined)
        | none => .ok .undefined)
      (position? >>= fun
        | some n => .ok (others[n]?.getD .undefined)
        | none => .ok .undefined) := by
  rcases position? with fault | _ | n
  · exact .fault fault
  · exact .value .undefined
  · exact .value (alike_getD (alike_getElem? parts n))

/-- A step into values that are alike leads to values that are alike. -/
theorem Twins.outcome_from (twins : Twins access twin same) {value other : Value} (alike : Value.Alike same value other)
    (step : Step) : SameOutcome same (step.from access value) (step.from twin other) := by
  have members := twins.alike_member alike step
  cases alike with
  | null => exact .value .undefined
  | undefined => exact .value .undefined
  | list parts => exact outcome_sequence parts step.position?
  | tuple parts => exact outcome_sequence parts step.position?
  | dict keys values => exact .value (twins.alike_inEntries (.dict keys values) step)
  | @object o other counterparts =>
    have held := twins.entries counterparts
    simp only [Step.from]
    generalize access.entries? o = inside at held ⊢
    generalize twin.entries? other = inside' at held ⊢
    cases held with
    | some alike => exact .value (twins.alike_inEntries alike step)
    | none => exact .value members
  | _ => exact .value members

/-- Steps from values that are alike lead to values that are alike. -/
theorem Twins.outcome_trail (twins : Twins access twin same) (steps : List Step) {value other : Value}
    (alike : Value.Alike same value other) : SameOutcome same (trail access steps value) (trail twin steps other) := by
  induction steps generalizing value other with
  | nil => exact .value alike
  | cons step steps ih =>
    rw [trail_cons, trail_cons]
    have leads := twins.outcome_from alike step
    generalize step.from access value = next at leads ⊢
    generalize step.from twin other = next' at leads ⊢
    cases leads with
    | fault fault => exact .fault fault
    | value alike => exact ih alike

theorem Twins.outcome_resolve (twins : Twins access twin same) {root other : Value}
    (alike : Value.Alike same root other) (address : Value) :
    SameOutcome same (resolve access root address) (resolve twin other address) := by
  cases address with
  | text s =>
    rw [resolve_text, resolve_text]
    rcases parse (Text.trimmed s) with fault | _ | steps
    · exact .fault fault
    · exact .value .undefined
    · exact twins.outcome_trail steps alike
  | _ => exact .value .undefined

end Steps

theorem alike_undefined_iff {found other : Value} (alike : Value.Alike same found other) :
    found = .undefined ↔ other = .undefined := by
  cases alike <;> simp

theorem stuck_of_fault {root address : Value} {fault : NumeralFault}
    (fails : resolve access root address = .error fault) :
    ∃ s, address = .text s ∧ (¬ Legible (Text.trimmed s).toList ∨
      ∃ steps, parse (Text.trimmed s) = .ok (some steps) ∧ StuckOn access steps root) := by
  cases address with
  | text s =>
    refine ⟨s, rfl, or_iff_not_imp_left.2 fun legible => ?_⟩
    obtain ⟨steps?, parses⟩ := legible_iff_parse.1 (not_not.1 legible)
    cases steps? with
    | none =>
      rw [resolve_text, parses] at fails
      cases fails
    | some steps =>
      refine ⟨steps, parses, not_not.1 fun free => ?_⟩
      obtain ⟨last, arrives⟩ := (exists_trail_iff steps root).2 free
      rw [resolve_of_parse parses, arrives] at fails
      cases fails
  | _ => cases fails

/-- Private members do not show. From two roots that differ in nothing else an address leads to values that
differ in nothing else: to `undefined` from both or from neither. It fails from both or from neither too, by
the same fault, and only by digit signs that denote no number, in a bare bracket or as the name of a
position in a sequence. -/
theorem private_members_do_not_show (twins : Twins access twin same) {root other : Value}
    (alike : Value.Alike same root other) (address : Value) :
    (∃ found counterpart, resolve access root address = .ok found ∧ resolve twin other address = .ok counterpart ∧
      Value.Alike same found counterpart ∧ (found = .undefined ↔ counterpart = .undefined)) ∨
    ∃ fault, resolve access root address = .error fault ∧ resolve twin other address = .error fault ∧
      ∃ s, address = .text s ∧ (¬ Legible (Text.trimmed s).toList ∨
        ∃ steps, parse (Text.trimmed s) = .ok (some steps) ∧ StuckOn access steps root) := by
  have leads := twins.outcome_resolve alike address
  generalize here : resolve access root address = result at leads ⊢
  generalize resolve twin other address = result' at leads ⊢
  cases leads with
  | value alike => exact .inl ⟨_, _, rfl, rfl, alike, alike_undefined_iff alike⟩
  | fault fault => exact .inr ⟨fault, rfl, rfl, stuck_of_fault here⟩

theorem private_members_do_not_show_token :
    let bare : Access := ⟨fun _ => none, fun _ _ => none⟩
    let keeper : Access := ⟨fun _ => none, fun _ name => if name = "_key" then some (.text "secret") else none⟩
    let shown : List (String × Value) := [("host", .object .host), ("open", .dict [(.text "_k", .int 2)])]
    let root : Value := .record .namespace (("_token", .int 1) :: shown)
    let other : Value := .record .namespace shown
    resolve keeper root (.text "open._k") = .ok (.int 2) ∧ resolve bare other (.text "open._k") = .ok (.int 2) ∧
      resolve keeper root (.text "host._key") = .ok .undefined ∧
      resolve bare other (.text "host._key") = .ok .undefined := by
  intro bare keeper shown root other
  have twins : Twins keeper bare Eq := by
    refine .of_agree (fun _ => rfl) fun _ name isPublic => if_neg ?_
    rintro rfl
    exact absurd isPublic (by decide)
  have alike : Value.Alike Eq root other := alike_without_private (fun _ => rfl) .namespace (("_token", .int 1) :: shown)
  have carries {address found : Value} (here : resolve keeper root address = .ok found) :
      ∃ counterpart, resolve bare other address = .ok counterpart ∧ Value.Alike Eq found counterpart := by
    obtain ⟨_, counterpart, here', there, alike, -⟩ | ⟨fault, fails, -⟩ :=
      private_members_do_not_show twins alike address
    · rw [here] at here'
      cases here'
      exact ⟨counterpart, there, alike⟩
    · rw [here] at fails
      cases fails
  have parsesData : parse (Text.trimmed "open._k") = .ok (some [.name "open", .name "_k"]) := by
    decide +kernel
  have parsesKey : parse (Text.trimmed "host._key") = .ok (some [.name "host", .name "_key"]) := by
    decide +kernel
  have data : resolve keeper root (.text "open._k") = .ok (.int 2) := resolve_of_parse parsesData root
  have key : resolve keeper root (.text "host._key") = .ok .undefined := resolve_of_parse parsesKey root
  obtain ⟨_, data', ⟨⟩⟩ := carries data
  obtain ⟨_, key', ⟨⟩⟩ := carries key
  exact ⟨data, data', key, key'⟩

end Address

end Stencil
