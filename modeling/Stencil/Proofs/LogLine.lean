import Stencil.Log.Record
import Stencil.Proofs.JsonRoundTrip

/-! What a log line of JSON tells about its record.

The line of a record is one object, without control characters and so without a line break. Read back, it has
the level, the logger and the message of the record, the parts of its context that are known, and the text of
its fault, and nothing else. Only an integer with too many digits keeps a record from having a line.
-/

set_option autoImplicit false

namespace Stencil.Log

/-- What a record says under a name. -/
inductive Record.Tells (record : Record) : String → Value → Prop where
  | level : record.Tells "level" record.level
  | logger : record.Tells "logger" record.logger
  | message : record.Tells "msg" (.text record.message)
  | context {name : String} {value : Value} (among : (name, value) ∈ record.context.fields) (known : value ≠ .null) :
      record.Tells name value
  | fault {text : String} (raised : record.fault? = some text) : record.Tells "exc_info" (.text text)

theorem isKnown_iff (value : Value) : isKnown value = true ↔ value ≠ .null := by
  cases value <;> simp [isKnown]

theorem Record.mem_entries_iff (record : Record) (name : String) (value : Value) :
    (Value.text name, value) ∈ record.entries ↔ record.Tells name value := by
  simp only [Record.entries, List.mem_append, List.mem_cons, Prod.mk.injEq, Value.text.injEq, List.not_mem_nil,
    or_false, List.mem_map, List.mem_filter, isKnown_iff, Option.mem_toList, Option.map_eq_some_iff]
  constructor
  · rintro (((⟨rfl, rfl⟩ | ⟨rfl, rfl⟩ | ⟨rfl, rfl⟩) | ⟨field, ⟨among, known⟩, rfl, rfl⟩) | ⟨text, raised, rfl, rfl⟩)
    · exact .level
    · exact .logger
    · exact .message
    · exact .context among known
    · exact .fault raised
  · rintro (_ | _ | _ | ⟨among, known⟩ | raised)
    · simp
    · simp
    · simp
    · exact .inl (.inr ⟨_, ⟨among, known⟩, rfl, rfl⟩)
    · exact .inr ⟨_, raised, rfl, rfl⟩

-- The names that the line of a record can have.
def fieldNames : List String :=
  ["level", "logger", "msg", "product", "provider", "service_hash", "template_hash", "exc_info"]

theorem Record.keys_sublist (record : Record) : record.entries.keys.Sublist (fieldNames.map .text) := by
  have context : (((record.context.fields.filter fun field => isKnown field.2).map
      fun field => (Value.text field.1, field.2)).map (·.1)).Sublist
      (["product", "provider", "service_hash", "template_hash"].map .text) := by
    rw [List.map_map]
    exact (List.filter_sublist (l := record.context.fields)).map _
  have fault : ((record.fault?.map fun text => (Value.text "exc_info", Value.text text)).toList.map (·.1)).Sublist
      [.text "exc_info"] := by
    cases record.fault? <;> simp
  simp only [Record.entries, Entries.keys, List.map_append]
  exact ((List.Sublist.refl _).append context).append fault

theorem Record.textKeyed (record : Record) : record.entries.TextKeyed where
  texts := by
    intro key among
    obtain ⟨name, -, rfl⟩ := List.mem_map.1 (record.keys_sublist.subset among)
    exact ⟨name, rfl⟩
  distinct := by
    have names : (fieldNames.map Value.text).Nodup :=
      List.Nodup.map (fun _ _ same => Value.text.inj same) (by decide)
    exact names.sublist record.keys_sublist

section

variable {record : Record} {level logger : String} (levelled : record.level = .text level)
  (named : record.logger = .text logger)

include levelled named

/-- The values of a line are texts, and what is known of the context. -/
theorem Record.value_cases {entry : Value × Value} (among : entry ∈ record.entries) :
    (∃ text, entry.2 = .text text) ∨ ∃ field ∈ record.context.fields, entry.2 = field.2 := by
  obtain ⟨key, value⟩ := entry
  obtain ⟨name, rfl⟩ := record.textKeyed.texts key (List.mem_map.2 ⟨_, among, rfl⟩)
  cases (record.mem_entries_iff name value).1 among with
  | level => exact .inl ⟨level, levelled⟩
  | logger => exact .inl ⟨logger, named⟩
  | message => exact .inl ⟨record.message, rfl⟩
  | context inside known => exact .inr ⟨_, inside, rfl⟩
  | @fault text raised => exact .inl ⟨text, rfl⟩

theorem Record.exact_entries (data : ∀ field ∈ record.context.fields, Json.Exact field.2) :
    Json.Exact (.dict record.entries) := by
  refine .dict record.textKeyed fun entry among => ?_
  rcases value_cases levelled named among with ⟨text, same⟩ | ⟨field, inside, same⟩
  · exact same ▸ .text text
  · exact same ▸ data field inside

theorem Record.long_entries_iff :
    Json.Long (.dict record.entries) ↔ ∃ field ∈ record.context.fields, Json.Long field.2 := by
  constructor
  · intro long
    cases long with
    | @entry _ entry among long =>
      rcases value_cases levelled named among with ⟨text, same⟩ | ⟨field, inside, same⟩
      · exact absurd (same ▸ long) (Json.not_long_text text)
      · exact ⟨field, inside, same ▸ long⟩
  · rintro ⟨⟨name, value⟩, inside, long⟩
    have known : value ≠ .null := by
      rintro rfl
      exact Json.not_long_null long
    exact .entry ((record.mem_entries_iff name value).2 (.context inside known)) long

end

/-- A record without long integers in its context has a line without control characters. Read back, the line is
an object that has under each name what the record tells, and nothing else. -/
theorem jsonLine_lossless {record : Record} {level logger : String} (levelled : record.level = .text level)
    (named : record.logger = .text logger) (data : ∀ field ∈ record.context.fields, Json.Exact field.2) :
    ((∃ field ∈ record.context.fields, Json.Long field.2) → record.jsonLine = .error (.numeral .tooLongToWrite)) ∧
      ((∀ field ∈ record.context.fields, ¬ Json.Long field.2) → ∃ (line : String) (entries : Entries),
        record.jsonLine = .ok line ∧ (∀ c ∈ line.toList, 32 ≤ c.toNat) ∧ Json.read line = .ok (.dict entries) ∧
          entries.TextKeyed ∧
          ∀ name value, entries.get? name = some value ↔ record.Tells name value) := by
  obtain ⟨refused, written⟩ := (Record.exact_entries levelled named data).read_write
  constructor
  · intro long
    exact refused ((Record.long_entries_iff levelled named).2 long)
  · intro short
    have short : ¬ Json.Long (.dict record.entries) := by
      intro long
      obtain ⟨field, among, long⟩ := (Record.long_entries_iff levelled named).1 long
      exact short field among long
    obtain ⟨line, told, printable, back⟩ := written short
    refine ⟨line, record.entries, told, printable, back, record.textKeyed, fun name value => ?_⟩
    rw [← record.mem_entries_iff]
    exact ⟨record.textKeyed.mem_of_get?, record.textKeyed.get?_of_mem⟩

/-- A record with a line break and a control character in its texts, and with nested data in its context. -/
def nestedRecord : Record where
  level := .text "INFO"
  logger := .text "pict"
  message := "first\n\"second\"\x01"
  context := {
    product := .dict [(.text "a\tb", .list [.int (-12), .bool true, .null])]
    provider := .null
    serviceHash := .text "é\\"
    templateHash := .list [] }
  fault? := some "ValueError: bad"

theorem nestedRecord_context :
    ∀ field ∈ nestedRecord.context.fields, Json.Exact field.2 ∧ ¬ Json.Long field.2 := by
  have keyed : Entries.TextKeyed [(.text "a\tb", .list [.int (-12), .bool true, .null])] :=
    Entries.textKeyed_cons.2 ⟨⟨_, rfl⟩, by simp [Entries.keys], Entries.textKeyed_nil⟩
  simp only [nestedRecord, Context.fields, List.forall_mem_cons, List.not_mem_nil, false_implies, implies_true,
    and_true]
  refine ⟨⟨.dict keyed ?_, ?_⟩, ⟨.null, Json.not_long_null⟩, ⟨.text _, Json.not_long_text _⟩, .list (by simp), ?_⟩
  · simp only [List.forall_mem_singleton]
    refine .list ?_
    simp only [List.forall_mem_cons, List.not_mem_nil, false_implies, implies_true, and_true]
    exact ⟨.int _, .bool _, .null⟩
  · rintro (_ | _ | ⟨among, long⟩)
    obtain rfl := List.mem_singleton.1 among
    rcases long with _ | ⟨among, long⟩
    simp only [List.mem_cons, List.not_mem_nil, or_false] at among
    rcases among with rfl | rfl | rfl
    · rcases long with ⟨long⟩
      exact absurd long (by decide +kernel)
    · cases long
    · cases long
  · rintro (_ | ⟨among, _⟩)
    cases among

theorem jsonLine_lossless_nested :
    ∃ (line : String) (entries : Entries), nestedRecord.jsonLine = .ok line ∧ (∀ c ∈ line.toList, 32 ≤ c.toNat) ∧
      Json.read line = .ok (.dict entries) ∧ entries.get? "exc_info" = some (.text "ValueError: bad") ∧
      entries.get? "product" = some (.dict [(.text "a\tb", .list [.int (-12), .bool true, .null])]) ∧
      entries.get? "provider" = none := by
  obtain ⟨line, entries, told, printable, back, -, found⟩ :=
    (@jsonLine_lossless nestedRecord "INFO" "pict" rfl rfl fun field among => (nestedRecord_context field among).1).2
      fun field among => (nestedRecord_context field among).2
  refine ⟨line, entries, told, printable, back, (found _ _).2 (.fault rfl),
    (found _ _).2 (.context List.mem_cons_self (by rintro ⟨⟩)), ?_⟩
  rw [Option.eq_none_iff_forall_ne_some]
  intro value same
  have tells := (found _ _).1 same
  generalize named : "provider" = name at tells
  cases tells with
  | context among known =>
    subst named
    simp only [nestedRecord, Context.fields, List.mem_cons, Prod.mk.injEq, String.reduceEq, false_and, true_and,
      List.not_mem_nil, or_false, false_or] at among
    exact known among
  | level | logger | message | fault => simp at named

/-- An integer with one digit too many in the context of a record keeps it from having a line. -/
theorem long_product_refused :
    let record : Record :=
      ⟨.text "INFO", .text "pict", "m", ⟨.int (Number.tenTo Number.digitLimit), .null, .null, .null⟩, none⟩
    (∀ field ∈ record.context.fields, Json.Exact field.2) ∧ ¬ ∃ line, record.jsonLine = .ok line := by
  intro record
  have data : ∀ field ∈ record.context.fields, Json.Exact field.2 := by
    simp only [record, Context.fields, List.forall_mem_cons, List.not_mem_nil, false_implies, implies_true, and_true]
    exact ⟨.int _, .null, .null, .null⟩
  have long : Json.Long (.int (Number.tenTo Number.digitLimit)) :=
    .int (Nat.le_of_eq (Int.natAbs_natCast _).symm)
  have inside : Json.Long (.dict record.entries) :=
    (@Record.long_entries_iff record "INFO" "pict" rfl rfl).2 ⟨("product", _), List.mem_cons_self, long⟩
  have refused : record.jsonLine = .error (.numeral .tooLongToWrite) :=
    (@Record.exact_entries record "INFO" "pict" rfl rfl data).read_write.1 inside
  refine ⟨data, ?_⟩
  rintro ⟨line, told⟩
  rw [refused] at told
  cases told

end Stencil.Log
