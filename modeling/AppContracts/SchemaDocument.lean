/-
The validator over schemas as documents: `validate_schema`, `_validate` and
`validate` of `validator.py`.

`Validator` has the schemas of the package as records, which cannot be malformed.
Here a schema is the JSON value itself: `validate_schema` refuses the malformed
ones, and `_validate` reads the keywords of the others. What one check leaves to
the other is what decides which exceptions a caller can meet.

`re.search` is a parameter: `none` where the pattern is not a regular expression.
-/
import AppContracts.Validator

set_option autoImplicit false

namespace AppContracts.SchemaDocument

open Validator (SchemaType is_instance py_eq in_enum show_str repr_str repr_names replace_z)

/-! ## Texts of values in messages -/

mutual

/-- `repr(j)`; a dict with other keys has no text here. -/
def repr : Json → String
  | .null => "None"
  | .bool b => if b then "True" else "False"
  | .int n => String.ofList (Json.print_int n)
  | .number n => String.ofList (Json.print_int n)
  | .float text => text
  | .str s => repr_str s
  | .arr items => "[" ++ ", ".intercalate (repr_items items) ++ "]"
  | .obj fields => "\x7b" ++ ", ".intercalate (repr_fields fields) ++ "\x7d"
  | .other _ text => text.getD ""

/-- The items of a list. -/
def repr_items : List Json → List String
  | [] => []
  | j :: rest => repr j :: repr_items rest

/-- The items of a dict. -/
def repr_fields : List (PyStr × Json) → List String
  | [] => []
  | (k, j) :: rest => (repr_str k ++ ": " ++ repr j) :: repr_fields rest

end

mutual

/-- `repr(j)` returns: every int in it is short enough to be written. Nor does it return
past the nesting that the interpreter's recursion limit allows, which is not modelled. -/
def has_repr : Json → Bool
  | .int n => (Json.digits n.natAbs).length ≤ Json.max_str_digits
  | .arr items => items_have_repr items
  | .obj fields => fields_have_repr fields
  | .null => true
  | .bool _ => true
  | .number _ => true
  | .float _ => true
  | .str _ => true
  | .other _ _ => true

/-- Every item has a `repr`. -/
def items_have_repr : List Json → Bool
  | [] => true
  | j :: rest => has_repr j && items_have_repr rest

/-- Every value has a `repr`. -/
def fields_have_repr : List (PyStr × Json) → Bool
  | [] => true
  | (_, j) :: rest => has_repr j && fields_have_repr rest

end

/-! ## Declarations -/

/-- `_SUPPORTED`. -/
def SUPPORTED : List String :=
  ["$schema", "$id", "title", "description", "type", "additionalProperties", "required", "properties",
    "const", "enum", "pattern", "format", "minLength", "maxLength", "minimum", "maximum", "minItems",
    "items", "minProperties", "maxProperties", "propertyNames"]

/-- `set(schema) - _SUPPORTED`. -/
def unknown_keywords (fields : List (PyStr × Json)) : List PyStr :=
  (fields.map Prod.fst).filter fun name => !(SUPPORTED.map .text).contains name

/-- `RuntimeError(f"invalid schema declaration at {path}: ..")`. -/
def declaration_error (path message : String) : Exn :=
  ⟨.RuntimeError, "invalid schema declaration at " ++ path ++ ": " ++ message⟩

/-- The check for unknown keywords. -/
def check_keywords (fields : List (PyStr × Json)) (path : String) : Except Exn Unit :=
  raise_if (unknown_keywords fields ≠ []) ⟨.RuntimeError, "unsupported schema keywords at " ++ path ++ ": " ++
    repr_names ((unknown_keywords fields).insertionSort PyStr.le)⟩

/-- `isinstance(j, str)`. -/
def is_str : Json → Bool
  | .str _ => true
  | _ => false

/-- A keyword that is checked where the schema has it. -/
def declared (fields : List (PyStr × Json)) (name : String) (f : Json → Except Exn Unit) :
    Except Exn Unit :=
  match fields.lookup (.text name) with
  | some value => f value
  | none => .ok ()

/-- `required`. -/
def declare_required (path : String) : Json → Except Exn Unit
  | .arr names => raise_if (names.all is_str = false)
      (declaration_error path "required must be a list of strings")
  | _ => .error (declaration_error path "required must be a list of strings")

/-- The shape of `properties`. -/
def declare_properties (path : String) : Json → Except Exn Unit
  | .obj properties => raise_if (properties.all (fun item => item.2.is_dict) = false)
      (declaration_error path "properties must map names to schemas")
  | _ => .error (declaration_error path "properties must map names to schemas")

/-- The shape of `additionalProperties`. -/
def declare_additional (path : String) : Json → Except Exn Unit
  | .bool _ => .ok ()
  | value => raise_if (value.is_dict = false)
      (declaration_error path "additionalProperties must be a boolean or schema")

/-- The shape of `propertyNames`. -/
def declare_names (path : String) (value : Json) : Except Exn Unit :=
  raise_if (value.is_dict = false) (declaration_error path "propertyNames must be a schema")

/-- `enum`. -/
def declare_enum (path : String) : Json → Except Exn Unit
  | .arr (_ :: _) => .ok ()
  | _ => .error (declaration_error path "enum must be a non-empty list")

/-- The type with a name, if it is supported. -/
def type_named (name : String) : Option SchemaType :=
  [.object, .array, .string, .integer, .boolean].find? fun t : SchemaType => t.name = name

/-- `type`. -/
def declare_type (path : String) (value : Json) : Except Exn Unit :=
  raise_if ((value.text?.bind type_named).isNone)
    (declaration_error path ("unsupported type " ++ repr value))

/-- An `int` or `float` that is no `bool`. -/
def bound? : Json → Option ℚ
  | .int n => some n
  | .float text => some (Json.float_value text)
  | _ => none

/-- A bound. -/
def declare_bound (path keyword : String) (value : Json) : Except Exn Unit :=
  raise_if ((bound? value).isNone) (declaration_error path (keyword ++ " must be a number"))

/-- `type(bound) is int and bound >= 0`. -/
def is_count : Json → Bool
  | .int n => 0 ≤ n
  | _ => false

/-- A bound on the number of properties. -/
def declare_count (path keyword : String) (value : Json) : Except Exn Unit := do
  declare_bound path keyword value
  raise_if (is_count value = false)
    (declaration_error path (keyword ++ " must be a non-negative integer"))

/-- A lower bound is not above the upper one; both are numbers here. -/
def declare_range (fields : List (PyStr × Json)) (low high : String) (e : Exn) : Except Exn Unit :=
  match (fields.lookup (.text low)).bind bound?, (fields.lookup (.text high)).bind bound? with
  | some a, some b => raise_if (b < a) e
  | _, _ => .ok ()

/-- The bounds, in the order of the loop, and their ranges. -/
def declare_bounds (fields : List (PyStr × Json)) (path : String) : Except Exn Unit := do
  declared fields "minimum" (declare_bound path "minimum")
  declared fields "maximum" (declare_bound path "maximum")
  declared fields "minLength" (declare_bound path "minLength")
  declared fields "maxLength" (declare_bound path "maxLength")
  declared fields "minItems" (declare_bound path "minItems")
  declared fields "minProperties" (declare_count path "minProperties")
  declared fields "maxProperties" (declare_count path "maxProperties")
  declare_range fields "minProperties" "maxProperties"
    (declaration_error path "property bounds are inconsistent")
  declare_range fields "minimum" "maximum" (declaration_error path "numeric bounds are inconsistent")

/-- A value of a dict is smaller than the dict. -/
theorem sizeOf_lookup {fields : List (PyStr × Json)} {name : PyStr} {value : Json}
    (h : fields.lookup name = some value) : sizeOf value < sizeOf fields := by
  have hmem := List.sizeOf_lt_of_mem (mem_of_lookup h)
  rw [Prod.mk.sizeOf_spec] at hmem
  omega

mutual

/-- `validate_schema(schema, path)`. -/
def validate_schema (schema : Json) (path : String) : Except Exn Unit :=
  match schema with
  | .obj fields => do
    check_keywords fields path
    declared fields "required" (declare_required path)
    declared fields "properties" (declare_properties path)
    (match _h : fields.lookup (.text "properties") with
      | some (.obj properties) => validate_properties properties path
      | _ => .ok ())
    declared fields "additionalProperties" (declare_additional path)
    (match _h : fields.lookup (.text "additionalProperties") with
      | some additional =>
        if additional.is_dict then validate_schema additional (path ++ ".<additionalProperties>")
        else .ok ()
      | none => .ok ())
    declared fields "propertyNames" (declare_names path)
    (match _h : fields.lookup (.text "propertyNames") with
      | some names => validate_schema names (path ++ ".<propertyNames>")
      | none => .ok ())
    declared fields "enum" (declare_enum path)
    declared fields "type" (declare_type path)
    declare_bounds fields path
    (match _h : fields.lookup (.text "items") with
      | some items => validate_schema items (path ++ "[]")
      | none => .ok ())
  | .other true _ => .error ⟨.RuntimeError, "unsupported schema keywords at " ++ path⟩
  | _ => .error (declaration_error path "schema must be an object")
termination_by sizeOf schema
decreasing_by
  all_goals
    have := sizeOf_lookup _h
    simp only [Json.obj.sizeOf_spec] at *
    omega

/-- The schemas of `properties`. -/
def validate_properties (properties : List (PyStr × Json)) (path : String) : Except Exn Unit :=
  match properties with
  | [] => .ok ()
  | (name, schema) :: rest => do
    validate_schema schema (path ++ "." ++ show_str name)
    validate_properties rest path
termination_by sizeOf properties

end

/-! ## Validation -/

section

variable (re_search : PyStr → PyStr → Option Bool)

/-- Refuse with a message. -/
def refuse_if (bad : Bool) (path message : String) : Except Exn Unit :=
  raise_if (bad = true) ⟨.ContractValidationError, path ++ ": " ++ message⟩

/-- A keyword value of a type the validator does not read. -/
def type_error : Exn := ⟨.TypeError, "malformed schema keyword"⟩

/-- A keyword that is read where the schema has it. -/
def keyword (schema : Json) (name : String) (f : Json → Except Exn Unit) : Except Exn Unit :=
  match schema.get? name with
  | some value => f value
  | none => .ok ()

/-- A bound in a comparison; a bool is compared as an int. -/
def read_bound : Json → Except Exn ℚ
  | .bool b => .ok (if b then 1 else 0)
  | value => match bound? value with
    | some bound => .ok bound
    | none => .error type_error

/-- `count < bound`, refused. -/
def check_at_least (count : ℕ) (path message : String) (value : Json) : Except Exn Unit := do
  let bound ← read_bound value
  refuse_if (decide ((count : ℚ) < bound)) path message

/-- `count > bound`, refused. -/
def check_at_most (count : ℕ) (path message : String) (value : Json) : Except Exn Unit := do
  let bound ← read_bound value
  refuse_if (decide (bound < (count : ℚ))) path message

/-- The keywords of a schema are supported. -/
def check_supported (schema : Json) (path : String) : Except Exn Unit :=
  match schema with
  | .obj fields => check_keywords fields path
  | _ => .error type_error

/-- `type`. -/
def check_type (instance_ : Json) (path : String) : Json → Except Exn Unit
  | .null => .ok ()
  | .str (.text name) =>
    match type_named name with
    | some expected => refuse_if (!is_instance expected instance_) path ("expected " ++ name)
    | none => .error ⟨.RuntimeError, "unsupported type " ++ repr (.str (.text name)) ++ " at " ++ path⟩
  | value => .error ⟨.RuntimeError, "unsupported type " ++ repr value ++ " at " ++ path⟩

/-- `const`. The message has the constant's `repr`. -/
def check_const (instance_ : Json) (path : String) (c : Json) : Except Exn Unit :=
  if py_eq instance_ c then .ok ()
  else if has_repr c then
    .error ⟨.ContractValidationError, path ++ ": expected constant " ++ repr c⟩
  else .error ⟨.ValueError, "Exceeds the limit (4300 digits) for integer string conversion"⟩

/-- `enum`. -/
def check_enum (instance_ : Json) (path : String) : Json → Except Exn Unit
  | .arr members => refuse_if (!in_enum instance_ members) path "value is not in enum"
  | _ => .error type_error

/-- `pattern`: `re.search` raises where the pattern is no text, or no regular
expression. -/
def check_pattern (s : PyStr) (path : String) : Json → Except Exn Unit
  | .str pattern =>
    match re_search pattern s with
    | some found => refuse_if (!found) path "pattern mismatch"
    | none => .error ⟨.Exception, "re.error"⟩
  | _ => .error type_error

/-- `schema.get("format") == "date-time"`. -/
def is_date_time (value : Json) : Bool := py_eq value (.str (.text "date-time"))

/-- `format`. -/
def check_format (s : PyStr) (path : String) (value : Json) : Except Exn Unit :=
  refuse_if (is_date_time value && (Datetime.fromisoformat (replace_z s.codes)).isNone) path
    "invalid date-time"

/-- The keywords of strings. -/
def check_string (s : PyStr) (schema : Json) (path : String) : Except Exn Unit := do
  keyword schema "minLength" (check_at_least s.codes.length path "string is too short")
  keyword schema "maxLength" (check_at_most s.codes.length path "string is too long")
  keyword schema "pattern" (check_pattern re_search s path)
  keyword schema "format" (check_format s path)

/-- The keywords every instance meets first. -/
def check_any (instance_ schema : Json) (path : String) : Except Exn Unit := do
  check_supported schema path
  keyword schema "type" (check_type instance_ path)
  keyword schema "const" (check_const instance_ path)
  keyword schema "enum" (check_enum instance_ path)

/-- `_validate` of a string: the bounds on numbers do not apply to it. -/
def validate_str (s : PyStr) (schema : Json) (path : String) : Except Exn Unit := do
  check_any (.str s) schema path
  check_string re_search s schema path

/-- The names of `required` that a dict does not have. -/
def missing_names (fields : List (PyStr × Json)) : List Json → List PyStr
  | [] => []
  | .str name :: rest =>
    if (fields.map Prod.fst).contains name then missing_names fields rest
    else name :: missing_names fields rest
  | _ :: rest => missing_names fields rest

/-- `required`. -/
def check_required (fields : List (PyStr × Json)) (path : String) : Json → Except Exn Unit
  | .arr names => refuse_if (!(missing_names fields names).isEmpty) path
      ("missing fields " ++ repr_names (missing_names fields names))
  | _ => .error type_error

/-- `schema.get("properties", {})`. -/
def properties_of (schema : Json) : List (PyStr × Json) :=
  match schema.get? "properties" with
  | some (.obj properties) => properties
  | _ => []

/-- The names of a dict that `properties` does not have. -/
def extra_names (fields properties : List (PyStr × Json)) : List PyStr :=
  (fields.map Prod.fst).filter fun name => !(properties.map Prod.fst).contains name

/-- `additionalProperties: false`. -/
def check_additional (fields : List (PyStr × Json)) (schema : Json) (path : String) :
    Json → Except Exn Unit
  | .bool false => refuse_if (!(extra_names fields (properties_of schema)).isEmpty) path
      ("unknown fields " ++ repr_names ((extra_names fields (properties_of schema)).insertionSort PyStr.le))
  | _ => .ok ()

/-- `propertyNames`. -/
def check_names (fields : List (PyStr × Json)) (path : String) : Json → Except Exn Unit
  | .null => .ok ()
  | names => forM (fields.map Prod.fst) fun name =>
      validate_str re_search name names (path ++ ".<propertyName>")

/-- The keywords of dicts, up to the recursion into the values. -/
def check_object (fields : List (PyStr × Json)) (schema : Json) (path : String) : Except Exn Unit := do
  keyword schema "minProperties" (check_at_least fields.length path "too few properties")
  keyword schema "maxProperties" (check_at_most fields.length path "too many properties")
  keyword schema "propertyNames" (check_names re_search fields path)
  keyword schema "required" (check_required fields path)
  keyword schema "additionalProperties" (check_additional fields schema path)

/-- `additionalProperties` where it is a dict. -/
def additional_of (schema : Json) : Option Json :=
  match schema.get? "additionalProperties" with
  | some (.obj fields) => some (.obj fields)
  | _ => none

/-- The schema of a field's value, and its path. -/
def sub_schema (schema : Json) (name : PyStr) (path : String) : Option (Json × String) :=
  match (properties_of schema).lookup name with
  | some sub => some (sub, path ++ "." ++ show_str name)
  | none => (additional_of schema).map fun sub => (sub, path ++ ".<additionalProperty>")

/-- `minimum`. -/
def check_minimum (instance_ : Json) (path : String) (value : Json) : Except Exn Unit :=
  match instance_ with
  | .bool _ => refuse_if true path "expected number"
  | .int n => do
    let bound ← read_bound value
    refuse_if (decide ((n : ℚ) < bound)) path "below minimum"
  | .float text => do
    let bound ← read_bound value
    refuse_if (decide (Json.float_value text < bound)) path "below minimum"
  | _ => .ok ()

/-- `maximum`. -/
def check_maximum (instance_ : Json) (path : String) (value : Json) : Except Exn Unit :=
  match instance_ with
  | .bool _ => refuse_if true path "expected number"
  | .int n => do
    let bound ← read_bound value
    refuse_if (decide (bound < (n : ℚ))) path "above maximum"
  | .float text => do
    let bound ← read_bound value
    refuse_if (decide (bound < Json.float_value text)) path "above maximum"
  | _ => .ok ()

/-- `minimum` and `maximum`. -/
def check_range (instance_ schema : Json) (path : String) : Except Exn Unit := do
  keyword schema "minimum" (check_minimum instance_ path)
  keyword schema "maximum" (check_maximum instance_ path)

mutual

/-- `_validate(instance, schema, path)`. -/
def _validate (instance_ schema : Json) (path : String) : Except Exn Unit := do
  check_any instance_ schema path
  (match instance_ with
    | .obj fields => do
      check_object re_search fields schema path
      validate_fields fields schema path
    | .other true _ => refuse_if true path "object keys must be strings"
    | .arr items => do
      keyword schema "minItems" (check_at_least items.length path "too few items")
      match schema.get? "items" with
      | some sub => validate_items items 0 sub path
      | none => .ok ()
    | .str s => check_string re_search s schema path
    | _ => .ok ())
  check_range instance_ schema path

/-- The values of a dict, each against the schema of its name. -/
def validate_fields : List (PyStr × Json) → Json → String → Except Exn Unit
  | [], _, _ => .ok ()
  | (name, value) :: rest, schema, path => do
    (match sub_schema schema name path with
      | some (sub, sub_path) => _validate value sub sub_path
      | none => .ok ())
    validate_fields rest schema path

/-- The items of a list, from index `i` on. -/
def validate_items : List Json → ℕ → Json → String → Except Exn Unit
  | [], _, _, _ => .ok ()
  | value :: rest, i, sub, path => do
    _validate value sub (path ++ "[" ++ String.ofList (Json.digits i) ++ "]")
    validate_items rest (i + 1) sub path

end

/-- `validate(instance, schema)`. -/
def validate (instance_ schema : Json) : Except Exn Unit := do
  validate_schema schema "$"
  _validate re_search instance_ schema "$"

end

end AppContracts.SchemaDocument
