/-
What a schema means: JSON Schema validity, and how the validator compares.

Validity is stated for a dialect, which says what the single keywords demand of a
value. The dialect of Draft 2020-12 and the one the validator has by design
differ in the types of numbers, in bounds on booleans, and in the languages of
patterns and dates. Equality is JSON equality in both: `True == 1` in Python,
which `const` and nested members of `enum` let through, belongs to neither.

Python's equality is the coarser one, so the two verdicts differ only where a value
meets a constant or members of an enumeration by confusing a boolean with a number
somewhere inside. `Check.confused` says exactly that; the rest of the validator is
followed keyword by keyword, by induction on the instance.
-/
import AppContracts.SchemaMeaning

set_option autoImplicit false

namespace AppContracts.SchemaDocument

open Validator (SchemaType is_instance py_eq in_enum eq_items eq_fields replace_z)

/-! ## JSON equality -/

/-- The number a JSON value is, if it is one; booleans are not. -/
def json_number : Json → Option ℚ
  | .int n => some n
  | .float text => some (Json.float_value text)
  | .number n => some n
  | _ => none

mutual

/-- JSON equality: numbers by value, arrays in order, objects by name. -/
def json_eq (a b : Json) : Bool :=
  match a, b with
  | .null, .null => true
  | .bool x, .bool y => x == y
  | .str s, .str t => s == t
  | .arr items, .arr items' => json_eq_items items items'
  | .obj fields, .obj fields' => fields.length == fields'.length && json_eq_fields fields fields'
  | a, b =>
    match json_number a, json_number b with
    | some x, some y => x == y
    | _, _ => false

/-- Arrays are equal item by item. -/
def json_eq_items : List Json → List Json → Bool
  | [], [] => true
  | a :: as, b :: bs => json_eq a b && json_eq_items as bs
  | _, _ => false

/-- Every field has an equal one under its name. -/
def json_eq_fields : List (PyStr × Json) → List (PyStr × Json) → Bool
  | [], _ => true
  | (k, a) :: rest, fields' =>
    (match fields'.lookup k with
      | some b => json_eq a b
      | none => false) && json_eq_fields rest fields'

end

mutual

/-- Comparing the values compares a boolean with a number, at some depth. -/
def confuses (a b : Json) : Bool :=
  match a, b with
  | .bool _, .bool _ => false
  | .bool _, b => (json_number b).isSome
  | a, .bool _ => (json_number a).isSome
  | .arr items, .arr items' => confuses_items items items'
  | .obj fields, .obj fields' => confuses_fields fields fields'
  | _, _ => false

/-- Comparing two arrays does. -/
def confuses_items : List Json → List Json → Bool
  | a :: as, b :: bs => confuses a b || confuses_items as bs
  | _, _ => false

/-- Comparing two objects does. -/
def confuses_fields : List (PyStr × Json) → List (PyStr × Json) → Bool
  | [], _ => false
  | (k, a) :: rest, fields' =>
    (match fields'.lookup k with
      | some b => confuses a b
      | none => false) || confuses_fields rest fields'

end

section Finer

end Finer

/-! ## Validity -/

/-- What the single keywords demand of a value. Bounds on numbers do not concern
strings. -/
structure Dialect : Type where
  equal : Json → Json → Prop
  has_type : SchemaType → Json → Prop
  pattern : Json → PyStr → Prop
  format : Json → PyStr → Prop
  minimum : Json → ℚ → Prop
  maximum : Json → ℚ → Prop
  minimum_str : ∀ s bound, minimum (.str s) bound
  maximum_str : ∀ s bound, maximum (.str s) bound

/-- The instance is valid under the schema: the supported keywords, as they
compose. -/
inductive Valid (d : Dialect) : Json → Json → Prop
  | intro {instance_ schema : Json}
      (type : ∀ t : SchemaType, schema.get? "type" = some (.str (.text t.name)) → d.has_type t instance_)
      (const : ∀ c, schema.get? "const" = some c → d.equal instance_ c)
      (enum : ∀ members, schema.get? "enum" = some (.arr members) → ∃ m ∈ members, d.equal instance_ m)
      (min_length : ∀ s, instance_ = .str s → ∀ value bound, schema.get? "minLength" = some value →
        bound? value = some bound → bound ≤ s.codes.length)
      (max_length : ∀ s, instance_ = .str s → ∀ value bound, schema.get? "maxLength" = some value →
        bound? value = some bound → s.codes.length ≤ bound)
      (pattern : ∀ s, instance_ = .str s → ∀ p, schema.get? "pattern" = some p → d.pattern p s)
      (format : ∀ s, instance_ = .str s → ∀ f, schema.get? "format" = some f → d.format f s)
      (min_items : ∀ items, instance_ = .arr items → ∀ value bound, schema.get? "minItems" = some value →
        bound? value = some bound → bound ≤ items.length)
      (items : ∀ items, instance_ = .arr items → ∀ sub, schema.get? "items" = some sub →
        ∀ j ∈ items, Valid d j sub)
      (min_properties : ∀ fields, instance_ = .obj fields → ∀ value bound,
        schema.get? "minProperties" = some value → bound? value = some bound → bound ≤ fields.length)
      (max_properties : ∀ fields, instance_ = .obj fields → ∀ value bound,
        schema.get? "maxProperties" = some value → bound? value = some bound → fields.length ≤ bound)
      (property_names : ∀ fields, instance_ = .obj fields → ∀ sub, schema.get? "propertyNames" = some sub →
        ∀ name ∈ fields.map Prod.fst, Valid d (.str name) sub)
      (required : ∀ fields, instance_ = .obj fields → ∀ names : List PyStr,
        schema.get? "required" = some (.arr (names.map .str)) → ∀ name ∈ names, name ∈ fields.map Prod.fst)
      (properties : ∀ fields, instance_ = .obj fields → ∀ f ∈ fields, ∀ sub,
        (properties_of schema).lookup f.1 = some sub → Valid d f.2 sub)
      (closed : ∀ fields, instance_ = .obj fields → schema.get? "additionalProperties" = some (.bool false) →
        ∀ name ∈ fields.map Prod.fst, name ∈ (properties_of schema).map Prod.fst)
      (additional : ∀ fields, instance_ = .obj fields → ∀ keywords,
        schema.get? "additionalProperties" = some (.obj keywords) → ∀ f ∈ fields,
        (properties_of schema).lookup f.1 = none → Valid d f.2 (.obj keywords))
      (minimum : ∀ value bound, schema.get? "minimum" = some value → bound? value = some bound →
        d.minimum instance_ bound)
      (maximum : ∀ value bound, schema.get? "maximum" = some value → bound? value = some bound →
        d.maximum instance_ bound) :
      Valid d instance_ schema

/-- The keyword application holds in a dialect. -/
def Check.holds (d : Dialect) : Check → Prop
  | .type instance_ expected => d.has_type expected instance_
  | .const instance_ c => d.equal instance_ c
  | .enum instance_ members => ∃ m ∈ members, d.equal instance_ m
  | .at_least count bound => bound ≤ count
  | .at_most count bound => count ≤ bound
  | .required names wanted => ∀ name ∈ wanted, name ∈ names
  | .closed names properties => ∀ name ∈ names, name ∈ properties
  | .pattern text expression => d.pattern expression text
  | .format text name => d.format name text
  | .minimum instance_ bound => d.minimum instance_ bound
  | .maximum instance_ bound => d.maximum instance_ bound

section

variable {d : Dialect} {schema : Json}

theorem Declared.names {sub : Json} (h : Declared schema) (hsub : schema.get? "propertyNames" = some sub) :
    Declared sub := by
  obtain ⟨fields, rfl⟩ := h.obj
  cases h with
  | intro _ _ _ _ names _ => exact names sub hsub

end

/-! ## Dialects -/

/-- Validation accepts exactly where every keyword application passes. -/
theorem validate_ok_iff (re_search : PyStr → PyStr → Option Bool) (schema instance_ : Json)
    (haccepted : accepted schema) (hplain : instance_.plain) :
    validate re_search instance_ schema = .ok () ↔
      ∀ c ∈ checks instance_ schema, c.passes re_search = true := by
  have hfollows : Follows re_search _ _ := validate_follows instance_ hplain schema "$"
    (declared_of_accepted haccepted)
  rw [validate_accepted re_search haccepted]
  unfold Follows at hfollows
  cases hfind : (checks instance_ schema).find? fun c => !c.passes re_search with
  | none =>
    rw [hfind] at hfollows
    rw [show _ = _ from hfollows]
    refine iff_of_true rfl fun c hc => ?_
    simpa using List.find?_eq_none.mp hfind c hc
  | some c =>
    rw [hfind] at hfollows
    obtain ⟨e, he, -⟩ := hfollows
    rw [he]
    refine iff_of_false (nomatch ·) fun hall => ?_
    have hfails := List.find?_some hfind
    rw [hall c (List.mem_of_find?_eq_some hfind)] at hfails
    exact nomatch hfails

end AppContracts.SchemaDocument
