import Stencil.Value.Basic

/-! Public members of plain values: what a name leads to on a text, a number or a record. -/

set_option autoImplicit false

namespace Stencil

def textMethods : List String :=
  ["capitalize", "casefold", "center", "count", "encode", "endswith", "expandtabs", "find", "format",
    "format_map", "index", "isalnum", "isalpha", "isascii", "isdecimal", "isdigit", "isidentifier",
    "islower", "isnumeric", "isprintable", "isspace", "istitle", "isupper", "join", "ljust", "lower",
    "lstrip", "maketrans", "partition", "removeprefix", "removesuffix", "replace", "rfind", "rindex",
    "rjust", "rpartition", "rsplit", "rstrip", "split", "splitlines", "startswith", "strip", "swapcase",
    "title", "translate", "upper", "zfill"]

def intMethods : List String :=
  ["as_integer_ratio", "bit_count", "bit_length", "conjugate", "from_bytes", "to_bytes"]

def floatMethods : List String :=
  ["as_integer_ratio", "conjugate", "fromhex", "hex", "is_integer"]

def sectionMethods : List String :=
  ["construct", "copy", "dict", "from_orm", "json", "model_construct", "model_copy", "model_dump",
    "model_dump_json", "model_json_schema", "model_parametrized_name", "model_post_init",
    "model_rebuild", "model_validate", "model_validate_json", "model_validate_strings", "parse_file",
    "parse_obj", "parse_raw", "schema", "schema_json", "update_forward_refs", "validate"]

def setMethods : List String :=
  ["add", "clear", "copy", "difference", "difference_update", "discard", "intersection",
    "intersection_update", "isdisjoint", "issubset", "issuperset", "pop", "remove",
    "symmetric_difference", "symmetric_difference_update", "union", "update"]

def methodIn (methods : List String) (name : String) : Option Value :=
  if methods.contains name then some (.object (.method name)) else none

def intMember? (n : Int) (name : String) : Option Value :=
  if name = "real" ∨ name = "numerator" then some (.int n)
  else if name = "imag" then some (.int 0)
  else if name = "denominator" then some (.int 1)
  else methodIn intMethods name

def floatMember? (d : Number.Double) (name : String) : Option Value :=
  if name = "real" then some (.float d)
  else if name = "imag" then some (.float (.signedZero false))
  else methodIn floatMethods name

/-- How a settings section is read: keys that are no fields are forbidden. The section on logging says
besides that its fields go by their names. -/
def sectionRules (title : String) : Entries :=
  (.text "extra", .text "forbid") ::
    if title = "LoggingConfig" then
      ["populate_by_name", "validate_by_alias", "validate_by_name"].map fun rule => (.text rule, .bool true)
    else []

/-- The public names among the fields of a record, in their order. -/
def publicNames (fields : List (String × Value)) : List String :=
  (fields.map (·.1)).filter (!isPrivate ·)

/-- A member of a settings section that is not one of its fields. A section has no further fields and
no computed ones, and what is private is not one of its fields. -/
def sectionMember? (title : String) (fields : List (String × Value)) (name : String) : Option Value :=
  if name = "model_config" then some (.dict (sectionRules title))
  else if name = "model_extra" then some .null
  else if name = "model_computed_fields" then some (.dict [])
  else if name = "model_fields" then
    some (.dict ((publicNames fields).map fun field => (.text field, .object (.other "FieldInfo"))))
  else if name = "model_fields_set" then some (.object (.other "set"))
  else methodIn sectionMethods name

def recordMember? (kind : RecordKind) (fields : List (String × Value)) (name : String) : Option Value :=
  match fields.lookup name, kind with
  | some value, _ => some value
  | none, .section title => sectionMember? title fields name
  | none, _ => none

def codeMember? (code : ErrorCode) (name : String) : Option Value :=
  if name = "value" then some (.text code.text)
  else if name = "name" then some (.text code.name)
  else methodIn textMethods name

-- A public member of a value. Members of objects are looked up in `attributes`.
def Value.member? (attributes : Object → String → Option Value) : Value → String → Option Value
  | .text _, name => methodIn textMethods name
  | .int n, name => intMember? n name
  | .bool b, name => intMember? (if b then 1 else 0) name
  | .float d, name => floatMember? d name
  | .record kind fields, name => recordMember? kind fields name
  | .object (.code c), name => codeMember? c name
  | .object o, name => attributes o name
  | _, _ => none

end Stencil
