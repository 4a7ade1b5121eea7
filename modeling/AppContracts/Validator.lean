/-
The validator of the JSON Schema subset: `validator.py`.

A schema is a record of the supported keywords; the schemas of the package are
constants of this type, so the declarations `validate_schema` refuses cannot be
written down. `_validate` checks an instance in the order of the source and
stops at the first violation.

What callers need of a validation: it does not depend on the order of keys
(`validate_norm`), it gives the fields a schema requires (`validate_object`),
and a closed schema leaves no room for foreign objects (`Closed.plain`).
-/
import AppContracts.Python
import AppContracts.Lib.Regex
import AppContracts.Lib.Datetime

set_option autoImplicit false

namespace AppContracts.Validator

/-! ## Texts of names and values in messages -/

/-- A string in an f-string; a lone surrogate has no text. -/
def show_str (s : PyStr) : String :=
  String.ofList (s.codes.map fun c => if is_surrogate c then '?' else Char.ofNat c)

/-- One code point in `str.__repr__`. -/
def repr_char (quote code : ℕ) : List Char :=
  if code = quote ∨ code = 0x5c then ['\\', Char.ofNat code]
  else if code = 0x0a then ['\\', 'n']
  else if code = 0x0d then ['\\', 'r']
  else if code = 0x09 then ['\\', 't']
  else if code < 0x20 ∨ code = 0x7f then
    ['\\', 'x', (code / 0x10).digitChar, (code % 0x10).digitChar]
  else if is_surrogate code then Json.unicode_escape code
  else [Char.ofNat code]

/-- `str.__repr__`, for strings whose non-ASCII characters are printable. -/
def repr_str (s : PyStr) : String :=
  let quote := if 0x27 ∈ s.codes ∧ 0x22 ∉ s.codes then 0x22 else 0x27
  String.ofList (Char.ofNat quote :: s.codes.flatMap (repr_char quote) ++ [Char.ofNat quote])

/-- `list.__repr__` of a list of strings. -/
def repr_names (names : List PyStr) : String :=
  "[" ++ ", ".intercalate (names.map repr_str) ++ "]"

/-- `__repr__` of a constant of a schema. -/
def repr_const : Json → String
  | .null => "None"
  | .bool b => if b then "True" else "False"
  | .int n => String.ofList (Json.print_int n)
  | .float repr => repr
  | .str s => repr_str s
  | _ => ""

/-! ## Equality -/

mutual

/-- Python's `a == b`: numbers by value, lists in order, dicts by key. -/
def py_eq (a b : Json) : Bool :=
  match a, b with
  | .null, .null => true
  | .str s, .str t => s == t
  | .arr items, .arr items' => eq_items items items'
  | .obj fields, .obj fields' => fields.length == fields'.length && eq_fields fields fields'
  | a, b =>
    match a.number?, b.number? with
    | some x, some y => x == y
    | _, _ => false

/-- Lists are equal item by item. -/
def eq_items : List Json → List Json → Bool
  | [], [] => true
  | a :: as, b :: bs => py_eq a b && eq_items as bs
  | _, _ => false

/-- Every field has an equal one under its key. -/
def eq_fields : List (PyStr × Json) → List (PyStr × Json) → Bool
  | [], _ => true
  | (k, a) :: rest, fields' =>
    (match fields'.lookup k with
      | some b => py_eq a b
      | none => false) && eq_fields rest fields'

end

/-! ## Schemas -/

/-- The supported types. -/
inductive SchemaType : Type
  | object
  | array
  | string
  | integer
  | boolean
  deriving DecidableEq

/-- The name of a type. -/
def SchemaType.name : SchemaType → String
  | object => "object"
  | array => "array"
  | string => "string"
  | integer => "integer"
  | boolean => "boolean"

/-- A schema: the supported keywords. A bound that is left out is `none`, or
zero where the source defaults it to zero. -/
structure Schema : Type where
  type : Option SchemaType := none
  const : Option Json := none
  enum : Option (List Json) := none
  min_properties : ℕ := 0
  max_properties : Option ℕ := none
  property_names : Option Schema := none
  required : List String := []
  properties : List (String × Schema) := []
  /-- `"additionalProperties": false` clears it. -/
  unknown_fields : Bool := true
  /-- `additionalProperties` where it is a schema. -/
  additional_schema : Option Schema := none
  min_items : ℚ := 0
  items : Option Schema := none
  min_length : ℚ := 0
  max_length : Option ℚ := none
  pattern : Option Pattern := none
  /-- `"format": "date-time"`. -/
  date_time : Bool := false
  minimum : Option ℚ := none
  maximum : Option ℚ := none

/-- `properties[name]`, if there is one. -/
def Schema.property? (schema : Schema) : PyStr → Option Schema
  | .text name => schema.properties.lookup name
  | .surrogates _ _ => none

/-! ## Validation -/

/-- Refuse with a message. -/
def check (bad : Bool) (message : String) : Except Exn Unit :=
  if bad then .error ⟨.ContractValidationError, message⟩ else .ok ()

/-- Check a keyword if the schema has it. -/
def given {β : Type} (keyword : Option β) (f : β → Except Exn Unit) : Except Exn Unit :=
  match keyword with
  | some b => f b
  | none => .ok ()

/-- Whether an instance has a type. -/
def is_instance : SchemaType → Json → Bool
  | .object, j => j.is_dict
  | .array, .arr _ => true
  | .string, .str _ => true
  | .integer, .int _ => true
  | .boolean, .bool _ => true
  | _, _ => false

/-- `type`. -/
def check_type (instance_ : Json) (schema : Schema) (path : String) : Except Exn Unit :=
  given schema.type fun expected =>
    check (!is_instance expected instance_) s!"{path}: expected {expected.name}"

/-- `const`. -/
def check_const (instance_ : Json) (schema : Schema) (path : String) : Except Exn Unit :=
  given schema.const fun c =>
    check (!py_eq instance_ c) s!"{path}: expected constant {repr_const c}"

/-- `instance in members`; a bool is a member only of bools. -/
def in_enum (instance_ : Json) (members : List Json) : Bool :=
  match instance_ with
  | .bool b => members.any fun m => match m with | .bool b' => b' == b | _ => false
  | j => members.any fun m => py_eq j m

/-- `enum`. -/
def check_enum (instance_ : Json) (schema : Schema) (path : String) : Except Exn Unit :=
  given schema.enum fun members =>
    check (!in_enum instance_ members) s!"{path}: value is not in enum"

/-- `minimum`. -/
def check_minimum (instance_ : Json) (bound : ℚ) (path : String) : Except Exn Unit :=
  match instance_ with
  | .bool _ => check true s!"{path}: expected number"
  | .int n => check (n < bound) s!"{path}: below minimum"
  | .float repr => check (Json.float_value repr < bound) s!"{path}: below minimum"
  | _ => .ok ()

/-- `maximum`. -/
def check_maximum (instance_ : Json) (bound : ℚ) (path : String) : Except Exn Unit :=
  match instance_ with
  | .bool _ => check true s!"{path}: expected number"
  | .int n => check (bound < n) s!"{path}: above maximum"
  | .float repr => check (bound < Json.float_value repr) s!"{path}: above maximum"
  | _ => .ok ()

/-- `instance.replace("Z", "+00:00")` on code points. -/
def replace_z (codes : List ℕ) : List ℕ :=
  codes.flatMap fun c => if c = 0x5a then [0x2b, 0x30, 0x30, 0x3a, 0x30, 0x30] else [c]

/-- The keywords of strings. -/
def check_string (s : PyStr) (schema : Schema) (path : String) : Except Exn Unit := do
  check (s.codes.length < schema.min_length) s!"{path}: string is too short"
  given schema.max_length fun bound => check (bound < s.codes.length) s!"{path}: string is too long"
  given schema.pattern fun p => check (!p.search s.codes) s!"{path}: pattern mismatch"
  check (schema.date_time && (Datetime.fromisoformat (replace_z s.codes)).isNone)
    s!"{path}: invalid date-time"

/-- A whole validation of a string: the other keywords do not apply to one. -/
def validate_str (s : PyStr) (schema : Schema) (path : String) : Except Exn Unit := do
  check_type (.str s) schema path
  check_const (.str s) schema path
  check_enum (.str s) schema path
  check_string s schema path

/-- The names of a dict that the schema has no property for. -/
def extra_names (fields : List (PyStr × Json)) (schema : Schema) : List PyStr :=
  (fields.map Prod.fst).filter fun name => (schema.property? name).isNone

/-- The required names a dict does not have. -/
def missing_names (fields : List (PyStr × Json)) (schema : Schema) : List PyStr :=
  (schema.required.map .text).filter fun name => !(fields.map Prod.fst).contains name

/-- The keywords of dicts, up to the recursion into the values. -/
def check_object (fields : List (PyStr × Json)) (schema : Schema) (path : String) :
    Except Exn Unit := do
  check (fields.length < schema.min_properties) s!"{path}: too few properties"
  given schema.max_properties fun bound =>
    check (bound < fields.length) s!"{path}: too many properties"
  given schema.property_names fun names =>
    forM (fields.map Prod.fst) fun name => validate_str name names s!"{path}.<propertyName>"
  check (!(missing_names fields schema).isEmpty)
    s!"{path}: missing fields {repr_names (missing_names fields schema)}"
  check (!schema.unknown_fields && !(extra_names fields schema).isEmpty)
    s!"{path}: unknown fields {repr_names ((extra_names fields schema).insertionSort PyStr.le)}"

/-- The schema a field's value must meet: that of its property, else that of
additional fields. -/
def sub_schema (schema : Schema) (name : PyStr) : Option Schema :=
  (schema.property? name).or schema.additional_schema

/-- The path of a field's value. -/
def field_path (schema : Schema) (name : PyStr) (path : String) : String :=
  if (schema.property? name).isSome then s!"{path}.{show_str name}"
  else s!"{path}.<additionalProperty>"

mutual

/-- `_validate(instance, schema, path)`. -/
def _validate (instance_ : Json) (schema : Schema) (path : String) : Except Exn Unit := do
  check_type instance_ schema path
  check_const instance_ schema path
  check_enum instance_ schema path
  (match instance_ with
    | .obj fields =>
      check_object fields schema path >>= fun _ => validate_fields fields schema path
    | .other true _ => check true s!"{path}: object keys must be strings"
    | .arr items =>
      check (items.length < schema.min_items) s!"{path}: too few items" >>= fun _ =>
        given schema.items fun sub => validate_items items 0 sub path
    | .str s => check_string s schema path
    | _ => .ok ())
  given schema.minimum fun bound => check_minimum instance_ bound path
  given schema.maximum fun bound => check_maximum instance_ bound path

/-- The values of a dict, each against the schema of its name. -/
def validate_fields : List (PyStr × Json) → Schema → String → Except Exn Unit
  | [], _, _ => .ok ()
  | (name, value) :: rest, schema, path => do
    given (sub_schema schema name) fun sub => _validate value sub (field_path schema name path)
    validate_fields rest schema path

/-- The items of a list, from index `i` on. -/
def validate_items : List Json → ℕ → Schema → String → Except Exn Unit
  | [], _, _, _ => .ok ()
  | value :: rest, i, sub, path => do
    _validate value sub (path ++ "[" ++ String.ofList (Json.digits i) ++ "]")
    validate_items rest (i + 1) sub path

end

/-- `validate(instance, schema)`. -/
def validate (instance_ : Json) (schema : Schema) : Except Exn Unit := _validate instance_ schema "$"

/-! ## What a validation establishes -/

@[simp] theorem check_ok {bad : Bool} {message : String} :
    check bad message = .ok () ↔ bad = false := by
  cases bad <;> simp [check]

@[simp] theorem given_ok {β : Type} {keyword : Option β} {f : β → Except Exn Unit} :
    given keyword f = .ok () ↔ ∀ b ∈ keyword, f b = .ok () := by
  cases keyword <;> simp [given]

/-- Two checks in a row pass if both pass. -/
@[simp] theorem both_ok {x y : Except Exn Unit} :
    (x >>= fun _ => y) = .ok () ↔ x = .ok () ∧ y = .ok () := by
  cases x with
  | error e => simp [bind, Except.bind]
  | ok u => simp [bind, Except.bind]

@[simp] theorem forM_ok {β : Type} {l : List β} {f : β → Except Exn Unit} :
    forM l f = .ok () ↔ ∀ b ∈ l, f b = .ok () := by
  induction l with
  | nil => simp [pure, Except.pure]
  | cons b l ih => rw [List.forM_cons, both_ok, ih, List.forall_mem_cons]

theorem validate_fields_ok {fields : List (PyStr × Json)} {schema : Schema} {path : String} :
    validate_fields fields schema path = .ok () ↔
      ∀ f ∈ fields, ∀ sub ∈ sub_schema schema f.1,
        _validate f.2 sub (field_path schema f.1 path) = .ok () := by
  induction fields with
  | nil => simp [validate_fields]
  | cons f fields ih => simp only [validate_fields, both_ok, given_ok, ih, List.forall_mem_cons]

/-- Items are checked one by one, for a property `P` that does not depend on
their path. -/
theorem validate_items_ok {items : List Json} {i : ℕ} {sub : Schema} {path : String}
    {P : Json → Prop} (h : ∀ j ∈ items, ∀ path', _validate j sub path' = .ok () ↔ P j) :
    validate_items items i sub path = .ok () ↔ ∀ j ∈ items, P j := by
  induction items generalizing i with
  | nil => simp [validate_items]
  | cons j items ih =>
    rw [validate_items, both_ok, h j (by simp), ih fun k hk => h k (by simp [hk]),
      List.forall_mem_cons]

/-- The path is for messages only. -/
theorem _validate_ok (j : Json) (schema : Schema) (path : String) :
    _validate j schema path = .ok () ↔ validate j schema = .ok () := by
  unfold validate
  generalize "$" = path'
  -- on the document, for every schema and both paths at once: the path only names the place in the
  -- error, so it can change nothing about acceptance
  induction j using Json.induction_on generalizing schema path path' with
  | leaf j ha ho =>
    cases j with
    | arr items => exact absurd rfl (ha items)
    | obj fields => exact absurd rfl (ho fields)
    | other dict text =>
      cases dict <;>
        simp [_validate, check_type, check_const, check_enum, check_minimum, check_maximum]
    | _ => simp [_validate, check_type, check_const, check_enum, check_string, check_minimum,
        check_maximum]
  | arr items ih =>
    simp only [_validate, both_ok, check_type, check_const, check_enum, given_ok, check_ok,
      check_minimum, check_maximum]
    refine and_congr_right fun _ => and_congr_right fun _ => and_congr_right fun _ =>
      and_congr_left fun _ => and_congr_right fun _ => forall₂_congr fun sub _ => ?_
    rw [validate_items_ok (fun j hj p => ih j hj sub p path'),
      validate_items_ok (fun j hj p => ih j hj sub p path')]
  | obj fields ih =>
    simp only [_validate, both_ok, check_type, check_const, check_enum, given_ok, check_ok,
      check_minimum, check_maximum, check_object, forM_ok, validate_fields_ok, validate_str,
      check_string]
    refine and_congr_right fun _ => and_congr_right fun _ => and_congr_right fun _ =>
      and_congr_left fun _ => and_congr_right fun _ => ?_
    exact forall₂_congr fun f hf => forall₂_congr fun sub _ => ih f hf sub _ _

theorem validate_arr_ok {items : List Json} {schema : Schema} :
    validate (.arr items) schema = .ok () ↔
      (∀ t ∈ schema.type, t = .array) ∧
      (∀ c ∈ schema.const, py_eq (.arr items) c = true) ∧
      (∀ m ∈ schema.enum, in_enum (.arr items) m = true) ∧
      ¬ items.length < schema.min_items ∧
      ∀ sub ∈ schema.items, ∀ j ∈ items, validate j sub = .ok () := by
  simp only [validate, _validate, both_ok, check_type, check_const, check_enum, given_ok, check_ok,
    check_minimum, check_maximum, validate_items_ok (fun j _ p => _validate_ok j _ p)]
  have htype : ∀ t : SchemaType, (!is_instance t (.arr items)) = false ↔ t = .array := by
    intro t
    cases t <;> simp [is_instance, Json.is_dict]
  simp [htype]

theorem validate_obj_ok {fields : List (PyStr × Json)} {schema : Schema} :
    validate (.obj fields) schema = .ok () ↔
      (∀ t ∈ schema.type, t = .object) ∧
      (∀ c ∈ schema.const, py_eq (.obj fields) c = true) ∧
      (∀ m ∈ schema.enum, in_enum (.obj fields) m = true) ∧
      check_object fields schema "$" = .ok () ∧
      ∀ f ∈ fields, ∀ sub ∈ sub_schema schema f.1, validate f.2 sub = .ok () := by
  simp only [validate, _validate, both_ok, check_type, check_const, check_enum, given_ok, check_ok,
    check_minimum, check_maximum, validate_fields_ok, _validate_ok]
  have htype : ∀ t : SchemaType, (!is_instance t (.obj fields)) = false ↔ t = .object := by
    intro t
    cases t <;> simp [is_instance, Json.is_dict]
  simp [htype]

theorem check_object_ok {fields : List (PyStr × Json)} {schema : Schema} {path : String} :
    check_object fields schema path = .ok () ↔
      schema.min_properties ≤ fields.length ∧
      (∀ bound ∈ schema.max_properties, fields.length ≤ bound) ∧
      (∀ names ∈ schema.property_names, ∀ name ∈ fields.map Prod.fst,
        validate_str name names s!"{path}.<propertyName>" = .ok ()) ∧
      (∀ name ∈ schema.required, PyStr.text name ∈ fields.map Prod.fst) ∧
      (schema.unknown_fields = false →
        ∀ name ∈ fields.map Prod.fst, (schema.property? name).isSome = true) := by
  have hmissing : (missing_names fields schema).isEmpty = true ↔
      ∀ name ∈ schema.required, PyStr.text name ∈ fields.map Prod.fst := by
    rw [List.isEmpty_iff, missing_names, List.filter_eq_nil_iff, List.forall_mem_map]
    simp only [Bool.not_eq_true', Bool.not_eq_false, List.contains_iff_mem]
  have hextra : (extra_names fields schema).isEmpty = true ↔
      ∀ name ∈ fields.map Prod.fst, (schema.property? name).isSome = true := by
    rw [List.isEmpty_iff, extra_names, List.filter_eq_nil_iff]
    simp only [Bool.not_eq_true, Option.isNone_eq_false_iff]
  simp only [check_object, both_ok, given_ok, check_ok, forM_ok, decide_eq_false_iff_not,
    Nat.not_lt, Bool.not_eq_false', hmissing]
  rw [← hextra]
  cases schema.unknown_fields <;> simp

/-- The keywords of dicts look at the keys, not at their order. -/
theorem check_object_perm {fields fields' : List (PyStr × Json)} {schema : Schema} {path : String}
    (h : (fields.map Prod.fst).Perm (fields'.map Prod.fst)) :
    check_object fields schema path = .ok () ↔ check_object fields' schema path = .ok () := by
  have hlen : fields.length = fields'.length := by simpa using h.length_eq
  have hmem : ∀ name, name ∈ fields.map Prod.fst ↔ name ∈ fields'.map Prod.fst := fun _ => h.mem_iff
  simp only [check_object_ok, hlen, hmem]

/-! ## Key order -/

theorem eq_fields_all (fields fields' : List (PyStr × Json)) :
    eq_fields fields fields' = fields.all fun f =>
      match fields'.lookup f.1 with
      | some b => py_eq f.2 b
      | none => false := by
  induction fields with
  | nil => rfl
  | cons f fields ih => rw [eq_fields, ih, List.all_cons]

/-- A value is equal to a string only if it is that string. -/
theorem py_eq_text {v : Json} {s : PyStr} : py_eq v (.str s) = true ↔ v = .str s := by
  cases v <;> simp [py_eq, Json.number?]

/-- Equality does not see the order of keys. -/
theorem py_eq_norm (j c : Json) : py_eq j.norm c = py_eq j c := by
  induction j using Json.induction_on generalizing c with
  | leaf j ha ho => rw [Json.norm_leaf ha ho]
  | arr items ih =>
    -- lists are compared in order, so the norms are compared item by item
    have hitems : ∀ items', eq_items (items.map Json.norm) items' = eq_items items items' := by
      induction items with
      | nil => intro items'; cases items' <;> rfl
      | cons a items ihs =>
        intro items'
        cases items' with
        | nil => rfl
        | cons b items' =>
          rw [List.map_cons, eq_items, eq_items, ih a (by simp),
            ihs (fun j hj => ih j (by simp [hj]))]
    cases c <;> simp [Json.norm, py_eq, Json.norm_items_eq, hitems, Json.number?]
  | obj fields ih =>
    have hlen : (Json.sort_fields (Json.norm_fields fields)).length = fields.length := by
      rw [(Json.sort_fields_perm _).length_eq, Json.norm_fields_eq, List.length_map]
    -- objects are compared by lookup, so sorting the fields changes nothing
    have hfields : ∀ fields',
        eq_fields (Json.sort_fields (Json.norm_fields fields)) fields' = eq_fields fields fields' := by
      intro fields'
      rw [eq_fields_all, eq_fields_all, (Json.sort_fields_perm _).all_eq, Json.norm_fields_eq,
        List.all_map]
      rw [Bool.eq_iff_iff, List.all_eq_true, List.all_eq_true]
      exact forall₂_congr fun f hf => by simp only [Function.comp_apply, ih f hf]
    cases c <;> simp [Json.norm, py_eq, hlen, hfields, Json.number?]

theorem in_enum_norm (j : Json) (members : List Json) :
    in_enum j.norm members = in_enum j members := by
  have hmember := py_eq_norm j
  cases j with
  | arr items => simpa only [in_enum, Json.norm] using congrArg members.any (funext hmember)
  | obj fields => simpa only [in_enum, Json.norm] using congrArg members.any (funext hmember)
  | _ => rfl

/-- **A validation does not see the order of keys.** -/
theorem validate_norm (j : Json) (schema : Schema) :
    validate j.norm schema = .ok () ↔ validate j schema = .ok () := by
  induction j using Json.induction_on generalizing schema with
  | leaf j ha ho => rw [Json.norm_leaf ha ho]
  | arr items ih =>
    have heq := py_eq_norm (.arr items)
    have henum := in_enum_norm (.arr items)
    simp only [Json.norm, Json.norm_items_eq] at heq henum ⊢
    simp only [validate_arr_ok, heq, henum, List.length_map, List.forall_mem_map]
    refine and_congr_right fun _ => and_congr_right fun _ => and_congr_right fun _ =>
      and_congr_right fun _ => forall₂_congr fun sub _ => forall₂_congr fun j hj => ih j hj sub
  | obj fields ih =>
    have heq := py_eq_norm (.obj fields)
    have henum := in_enum_norm (.obj fields)
    simp only [Json.norm] at heq henum ⊢
    simp only [validate_obj_ok, heq, henum, check_object_perm (Json.norm_fields_keys fields)]
    refine and_congr_right fun _ => and_congr_right fun _ => and_congr_right fun _ =>
      and_congr_right fun _ => ?_
    constructor
    · intro h f hf sub hsub
      exact (ih f hf sub).mp (h _ (Json.mem_norm_fields.mpr ⟨f, hf, rfl⟩) sub hsub)
    · intro h f hf sub hsub
      obtain ⟨g, hg, rfl⟩ := Json.mem_norm_fields.mp hf
      exact (ih g hg sub).mpr (h g hg sub hsub)

/-! ## The class of a violation -/

/-- What a check raises is a `ContractValidationError`. -/
abbrev Refuses {β : Type} (x : Except Exn β) : Prop := Raises (· = .ContractValidationError) x

namespace Refuses

theorem check (bad : Bool) (message : String) : Refuses (check bad message) := by
  cases bad with
  | false => exact Raises.ok ()
  | true => exact Raises.error rfl

theorem given {β : Type} {keyword : Option β} {f : β → Except Exn Unit}
    (h : ∀ b, Refuses (f b)) : Refuses (given keyword f) := by
  cases keyword with
  | none => exact Raises.ok ()
  | some b => exact h b

theorem forM {β : Type} {l : List β} {f : β → Except Exn Unit} (h : ∀ b, Refuses (f b)) :
    Refuses (forM l f) := by
  induction l with
  | nil => exact Raises.ok ()
  | cons b l ih => exact (h b).bind fun _ _ => ih

theorem check_string (s : PyStr) (schema : Schema) (path : String) :
    Refuses (check_string s schema path) :=
  (check _ _).bind fun _ _ => (given fun _ => check _ _).bind fun _ _ =>
    (given fun _ => check _ _).bind fun _ _ => check _ _

theorem check_object (fields : List (PyStr × Json)) (schema : Schema) (path : String) :
    Refuses (check_object fields schema path) := by
  refine (check _ _).bind fun _ _ => (given fun _ => check _ _).bind fun _ _ => ?_
  refine (given fun names => forM fun name => ?_).bind fun _ _ =>
    (check _ _).bind fun _ _ => check _ _
  exact (given fun _ => check _ _).bind fun _ _ => (given fun _ => check _ _).bind fun _ _ =>
    (given fun _ => check _ _).bind fun _ _ => check_string _ _ _

theorem check_minimum (j : Json) (bound : ℚ) (path : String) :
    Refuses (check_minimum j bound path) := by
  cases j with
  | bool b => exact check _ _
  | int n => exact check _ _
  | float repr => exact check _ _
  | _ => exact Raises.ok ()

theorem check_maximum (j : Json) (bound : ℚ) (path : String) :
    Refuses (check_maximum j bound path) := by
  cases j with
  | bool b => exact check _ _
  | int n => exact check _ _
  | float repr => exact check _ _
  | _ => exact Raises.ok ()

/-- The keywords of every type, around those of one. -/
theorem around {j : Json} {schema : Schema} {path : String} {own : Except Exn Unit}
    (h : Refuses own) :
    Refuses (do
      check_type j schema path
      check_const j schema path
      check_enum j schema path
      own
      Validator.given schema.minimum fun bound => Validator.check_minimum j bound path
      Validator.given schema.maximum fun bound => Validator.check_maximum j bound path) :=
  (given fun _ => check _ _).bind fun _ _ => (given fun _ => check _ _).bind fun _ _ =>
    (given fun _ => check _ _).bind fun _ _ => h.bind fun _ _ =>
      (given fun _ => check_minimum _ _ _).bind fun _ _ => given fun _ => check_maximum _ _ _

theorem fields {fields : List (PyStr × Json)} {schema : Schema} {path : String}
    (h : ∀ f ∈ fields, ∀ sub path, Refuses (_validate f.2 sub path)) :
    Refuses (validate_fields fields schema path) := by
  induction fields with
  | nil => exact Raises.ok ()
  | cons f fields ih =>
    exact (given fun _ => h f (by simp) _ _).bind fun _ _ => ih fun g hg => h g (by simp [hg])

theorem items {items : List Json} {i : ℕ} {sub : Schema} {path : String}
    (h : ∀ j ∈ items, ∀ sub path, Refuses (_validate j sub path)) :
    Refuses (validate_items items i sub path) := by
  induction items generalizing i with
  | nil => exact Raises.ok ()
  | cons j items ih => exact (h j (by simp) _ _).bind fun _ _ => ih fun k hk => h k (by simp [hk])

/-- **Every violation is a `ContractValidationError`.** -/
theorem validate (j : Json) (schema : Schema) : Refuses (validate j schema) := by
  suffices h : ∀ path, Refuses (_validate j schema path) from h "$"
  induction j using Json.induction_on generalizing schema with
  | leaf j ha ho =>
    intro path
    rw [_validate.eq_def]
    refine around ?_
    cases j with
    | arr items => exact absurd rfl (ha items)
    | obj fields => exact absurd rfl (ho fields)
    | str s => exact check_string s schema path
    | other dict text =>
      cases dict with
      | true => exact check _ _
      | false => exact Raises.ok ()
    | _ => exact Raises.ok ()
  | arr list ih =>
    intro path
    rw [_validate.eq_def]
    exact around ((check _ _).bind fun _ _ => given fun _ => items ih)
  | obj list ih =>
    intro path
    rw [_validate.eq_def]
    exact around ((check_object _ _ _).bind fun _ _ => fields ih)

end Refuses

/-! ## Reading a valid instance -/

/-- A valid instance has the type, is the constant and is a member of the
enumeration that its schema gives. -/
theorem scalar_valid {j : Json} {schema : Schema} (hv : validate j schema = .ok ()) :
    (∀ t ∈ schema.type, is_instance t j = true) ∧ (∀ c ∈ schema.const, py_eq j c = true) ∧
      ∀ members ∈ schema.enum, in_enum j members = true := by
  rw [validate, _validate.eq_def] at hv
  simp only [both_ok, check_type, check_const, check_enum, given_ok, check_ok,
    Bool.not_eq_false'] at hv
  exact ⟨hv.1, hv.2.1, hv.2.2.1⟩

/-- An instance of an object schema is a dict with string keys. -/
theorem object_valid {j : Json} {schema : Schema} (ht : schema.type = some .object)
    (hv : validate j schema = .ok ()) : ∃ fields, j = .obj fields := by
  have htype := (scalar_valid hv).1 _ ht
  cases j with
  | obj fields => exact ⟨fields, rfl⟩
  | other dict text =>
    cases dict with
    | false => simp [is_instance, Json.is_dict] at htype
    | true =>
      simp only [validate, _validate, both_ok, check_ok] at hv
      exact absurd hv.2.2.2.1 (by decide)
  | _ => simp [is_instance, Json.is_dict] at htype

/-- An instance of a string schema is a string that meets its keywords. -/
theorem string_valid {j : Json} {schema : Schema} (ht : schema.type = some .string)
    (hv : validate j schema = .ok ()) : ∃ s, j = .str s ∧ check_string s schema "$" = .ok () := by
  have htype := (scalar_valid hv).1 _ ht
  cases j with
  | str s =>
    simp only [validate, _validate, both_ok] at hv
    exact ⟨s, rfl, hv.2.2.2.1⟩
  | _ => simp [is_instance] at htype

/-- An instance of an integer schema is an int not below its minimum. -/
theorem integer_valid {j : Json} {schema : Schema} (ht : schema.type = some .integer)
    (hv : validate j schema = .ok ()) :
    ∃ n : ℤ, j = .int n ∧ ∀ bound ∈ schema.minimum, bound ≤ n := by
  have htype := (scalar_valid hv).1 _ ht
  cases j with
  | int n =>
    refine ⟨n, rfl, fun bound hb => ?_⟩
    simp only [validate, _validate, both_ok, given_ok, check_minimum, check_ok,
      decide_eq_false_iff_not, Rat.not_lt] at hv
    exact hv.2.2.2.2.1 bound hb
  | _ => simp [is_instance] at htype

/-- A valid dict has the required fields. -/
theorem required_field {j : Json} {schema : Schema} {name : String}
    (ht : schema.type = some .object) (hv : validate j schema = .ok ())
    (hr : name ∈ schema.required) : ∃ v, j.get? name = some v := by
  obtain ⟨fields, rfl⟩ := object_valid ht hv
  have hmem := (check_object_ok.mp (validate_obj_ok.mp hv).2.2.2.1).2.2.2.1 name hr
  obtain ⟨f, hf, hname⟩ := List.mem_map.mp hmem
  rw [← Option.isSome_iff_exists, Json.get?, List.lookup_isSome_iff]
  exact ⟨f, hf, by simp [hname]⟩

/-- The fields of a valid dict are valid. -/
theorem field_valid {j v : Json} {schema sub : Schema} {name : String}
    (hv : validate j schema = .ok ()) (hg : j.get? name = some v)
    (hs : schema.properties.lookup name = some sub) : validate v sub = .ok () := by
  cases j with
  | obj fields =>
    have hf : (PyStr.text name, v) ∈ fields := mem_of_lookup hg
    refine (validate_obj_ok.mp hv).2.2.2.2 _ hf sub ?_
    simp [sub_schema, Schema.property?, hs]
  | _ => simp [Json.get?] at hg

/-- A required string field is a string. -/
theorem string_field {j : Json} {schema sub : Schema} {name : String}
    (ht : schema.type = some .object) (hv : validate j schema = .ok ())
    (hr : name ∈ schema.required) (hs : schema.properties.lookup name = some sub)
    (hsub : sub.type = some .string) : ∃ s, j.get? name = some (.str s) := by
  obtain ⟨v, hg⟩ := required_field ht hv hr
  obtain ⟨s, rfl, -⟩ := string_valid hsub (field_valid hv hg hs)
  exact ⟨s, hg⟩

/-- A required integer field is an int. -/
theorem integer_field {j : Json} {schema sub : Schema} {name : String}
    (ht : schema.type = some .object) (hv : validate j schema = .ok ())
    (hr : name ∈ schema.required) (hs : schema.properties.lookup name = some sub)
    (hsub : sub.type = some .integer) : ∃ n, j.get? name = some (.int n) := by
  obtain ⟨v, hg⟩ := required_field ht hv hr
  obtain ⟨n, rfl, -⟩ := integer_valid hsub (field_valid hv hg hs)
  exact ⟨n, hg⟩

/-! ## Closed schemas -/

/-- A value without members. -/
def is_scalar : Json → Bool
  | .arr _ => false
  | .obj _ => false
  | .other _ _ => false
  | _ => true

/-- A schema that says of every part of an instance what it is. -/
inductive Closed : Schema → Prop
  | string {schema : Schema} : schema.type = some .string → Closed schema
  | integer {schema : Schema} : schema.type = some .integer → Closed schema
  | boolean {schema : Schema} : schema.type = some .boolean → Closed schema
  | const {schema : Schema} {c : Json} : schema.const = some c → is_scalar c = true → Closed schema
  | enum {schema : Schema} {members : List Json} : schema.enum = some members →
      members.all is_scalar = true → Closed schema
  | array {schema sub : Schema} : schema.type = some .array → schema.items = some sub →
      Closed sub → Closed schema
  | object {schema : Schema} : schema.type = some .object → schema.unknown_fields = false →
      (∀ p ∈ schema.properties, Closed p.2) → Closed schema

/-- What equals a scalar and is encodable is plain. -/
theorem plain_of_py_eq {j c : Json} (hc : is_scalar c = true) (h : py_eq j c = true)
    (he : j.encodable false = true) : j.plain := by
  cases j with
  | arr items => cases c <;> simp [py_eq, is_scalar, Json.number?] at h hc
  | obj fields => cases c <;> simp [py_eq, is_scalar, Json.number?] at h hc
  | number n => simp [Json.encodable] at he
  | other dict text => cases c <;> simp [py_eq, Json.number?] at h
  | _ => trivial

/-- **Encodable instances of a closed schema are plain JSON.** -/
theorem Closed.plain {schema : Schema} (hc : Closed schema) {j : Json}
    (hv : validate j schema = .ok ()) (he : j.encodable false = true) : j.plain := by
  -- on the closed schema; only a scalar it fixes or a type it names can stand at a leaf
  induction hc generalizing j with
  | string ht =>
    obtain ⟨s, rfl, -⟩ := string_valid ht hv
    trivial
  | integer ht =>
    obtain ⟨n, rfl, -⟩ := integer_valid ht hv
    trivial
  | boolean ht =>
    have htype := (scalar_valid hv).1 _ ht
    cases j <;> simp [is_instance] at htype
    trivial
  | const hconst hscalar =>
    exact plain_of_py_eq hscalar ((scalar_valid hv).2.1 _ hconst) he
  | enum henum hscalar =>
    have hin := (scalar_valid hv).2.2 _ henum
    cases j with
    | bool b => trivial
    | _ =>
      simp only [in_enum, List.any_eq_true] at hin
      obtain ⟨m, hm, heq⟩ := hin
      exact plain_of_py_eq (List.all_eq_true.mp hscalar m hm) heq he
  | array ht hitems _ ih =>
    have htype := (scalar_valid hv).1 _ ht
    cases j with
    | arr items =>
      refine Json.plain_items_iff.mpr fun k hk => ?_
      exact ih ((validate_arr_ok.mp hv).2.2.2.2 _ hitems k hk) (Json.encodable_items_iff.mp he k hk)
    | _ => simp [is_instance] at htype
  | object ht hunknown _ ih =>
    obtain ⟨fields, rfl⟩ := object_valid ht hv
    obtain ⟨-, -, -, hobj, hfields⟩ := validate_obj_ok.mp hv
    refine Json.plain_fields_iff.mpr fun f hf => ?_
    -- the schema allows no other field, so every value is checked by a schema of its own
    have hknown := (check_object_ok.mp hobj).2.2.2.2 hunknown f.1 (List.mem_map_of_mem hf)
    obtain ⟨sub, hsub⟩ := Option.isSome_iff_exists.mp hknown
    obtain ⟨name, hname⟩ : ∃ name, f.1 = .text name := by
      cases hk : f.1 with
      | text name => exact ⟨name, rfl⟩
      | surrogates codes lone => simp [hk, Schema.property?] at hsub
    have hmem : (name, sub) ∈ _ := mem_of_lookup (by simpa [hname, Schema.property?] using hsub)
    refine ih _ hmem (hfields f hf sub ?_) (Json.encodable_fields_iff.mp he f hf).2
    simp [sub_schema, hsub]

end AppContracts.Validator
