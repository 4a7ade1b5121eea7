/-
What the validator means: the keyword applications of an instance and a schema,
the verdict on each, and the JSON Schema meaning they are compared with.

Validation is the first application that does not pass, in the order of the
source (`validate_follows`). A schema is valid for an instance where every
application holds (`valid_iff`), for any reading of the single keywords, so the
two are compared keyword by keyword.
-/
import AppContracts.SchemaDocument

set_option autoImplicit false

namespace AppContracts.SchemaDocument

open Validator (SchemaType is_instance py_eq in_enum eq_items eq_fields show_str repr_names replace_z)

/-! ## Declared schemas -/

/-- The keywords with a bound. -/
def BOUNDS : List String :=
  ["minimum", "maximum", "minLength", "maxLength", "minItems", "minProperties", "maxProperties"]

/-- What `validate_schema` establishes of the keywords of one schema. -/
structure Shape (fields : List (PyStr × Json)) : Prop where
  supported : unknown_keywords fields = []
  required : ∀ value, fields.lookup (.text "required") = some value →
    ∃ names : List PyStr, value = .arr (names.map .str)
  properties : ∀ value, fields.lookup (.text "properties") = some value → ∃ items, value = .obj items
  additional : ∀ value, fields.lookup (.text "additionalProperties") = some value →
    (∃ b, value = .bool b) ∨ ∃ sub, value = .obj sub
  enum : ∀ value, fields.lookup (.text "enum") = some value → ∃ members, value = .arr members
  type : ∀ value, fields.lookup (.text "type") = some value →
    ∃ t : SchemaType, value = .str (.text t.name)
  bound : ∀ name ∈ BOUNDS, ∀ value, fields.lookup (.text name) = some value →
    ∃ bound, bound? value = some bound

/-- The schemas that are declared well, at every depth. -/
inductive Declared : Json → Prop
  | intro (fields : List (PyStr × Json)) (shape : Shape fields)
      (properties : ∀ items, fields.lookup (.text "properties") = some (.obj items) →
        ∀ item ∈ items, Declared item.2)
      (additional : ∀ sub, fields.lookup (.text "additionalProperties") = some (.obj sub) →
        Declared (.obj sub))
      (names : ∀ sub, fields.lookup (.text "propertyNames") = some sub → Declared sub)
      (items : ∀ sub, fields.lookup (.text "items") = some sub → Declared sub) :
      Declared (.obj fields)

theorem declared_ok {fields : List (PyStr × Json)} {name : String} {f : Json → Except Exn Unit} :
    declared fields name f = .ok () ↔
      ∀ value, fields.lookup (.text name) = some value → f value = .ok () := by
  unfold declared
  cases fields.lookup (.text name) <;> simp

theorem type_named_name (t : SchemaType) : type_named t.name = some t := by
  cases t <;> decide

theorem type_named_some {name : String} {t : SchemaType} (h : type_named name = some t) :
    t.name = name := by
  simpa using List.find?_some h

theorem declare_required_ok {path : String} {value : Json} (h : declare_required path value = .ok ()) :
    ∃ names : List PyStr, value = .arr (names.map .str) := by
  unfold declare_required at h
  split at h
  · rename_i items
    rw [raise_if_ok, Bool.not_eq_false, List.all_eq_true] at h
    suffices hnames : ∃ names : List PyStr, items = names.map .str by
      obtain ⟨names, rfl⟩ := hnames
      exact ⟨names, rfl⟩
    induction items with
    | nil => exact ⟨[], rfl⟩
    | cons j rest ih =>
      have hj := h j List.mem_cons_self
      obtain ⟨names, rfl⟩ := ih fun k hk => h k (List.mem_cons_of_mem _ hk)
      cases j with
      | str s => exact ⟨s :: names, rfl⟩
      | _ => exact absurd hj Bool.false_ne_true
  · cases h

theorem declare_properties_ok {path : String} {value : Json}
    (h : declare_properties path value = .ok ()) : ∃ items, value = .obj items := by
  unfold declare_properties at h
  split at h
  · exact ⟨_, rfl⟩
  · exact nomatch h

theorem declare_additional_ok {path : String} {value : Json}
    (h : declare_additional path value = .ok ()) : (∃ b, value = .bool b) ∨ value.is_dict = true := by
  unfold declare_additional at h
  split at h
  · exact Or.inl ⟨_, rfl⟩
  · exact Or.inr (by rwa [raise_if_ok, Bool.not_eq_false] at h)

/-- A declared schema is a dict of JSON. -/
theorem Declared.obj {schema : Json} (h : Declared schema) : ∃ fields, schema = .obj fields := by
  cases h with
  | intro fields => exact ⟨fields, rfl⟩

theorem declare_enum_ok {path : String} {value : Json} (h : declare_enum path value = .ok ()) :
    ∃ members, value = .arr members := by
  unfold declare_enum at h
  split at h
  · exact ⟨_, rfl⟩
  · exact nomatch h

theorem declare_type_ok {path : String} {value : Json} (h : declare_type path value = .ok ()) :
    ∃ t : SchemaType, value = .str (.text t.name) := by
  rw [declare_type, raise_if_ok, Option.isNone_iff_eq_none] at h
  obtain ⟨t, ht⟩ := Option.ne_none_iff_exists'.mp h
  obtain ⟨name, hname, hnamed⟩ := Option.bind_eq_some_iff.mp ht
  refine ⟨t, ?_⟩
  rw [type_named_some hnamed]
  cases value with
  | str s =>
    cases s with
    | text text => rw [Option.some.inj hname]
    | surrogates codes lone => exact nomatch hname
  | _ => exact nomatch hname

theorem declare_bound_ok {path keyword : String} {value : Json}
    (h : declare_bound path keyword value = .ok ()) : ∃ bound, bound? value = some bound := by
  rw [declare_bound, raise_if_ok, Option.isNone_iff_eq_none] at h
  exact Option.ne_none_iff_exists'.mp h

theorem declare_count_ok {path keyword : String} {value : Json}
    (h : declare_count path keyword value = .ok ()) : ∃ bound, bound? value = some bound := by
  simp only [declare_count, bind_ok, exists_unit] at h
  exact declare_bound_ok h.1

theorem declare_bounds_ok {fields : List (PyStr × Json)} {path : String}
    (h : declare_bounds fields path = .ok ()) :
    ∀ name ∈ BOUNDS, ∀ value, fields.lookup (.text name) = some value →
      ∃ bound, bound? value = some bound := by
  simp only [declare_bounds, bind_ok, exists_unit, declared_ok] at h
  obtain ⟨hmin, hmax, hmin_length, hmax_length, hmin_items, hmin_count, hmax_count, -, -⟩ := h
  simp only [BOUNDS, List.forall_mem_cons]
  exact ⟨fun v hv => declare_bound_ok (hmin v hv), fun v hv => declare_bound_ok (hmax v hv),
    fun v hv => declare_bound_ok (hmin_length v hv), fun v hv => declare_bound_ok (hmax_length v hv),
    fun v hv => declare_bound_ok (hmin_items v hv), fun v hv => declare_count_ok (hmin_count v hv),
    fun v hv => declare_count_ok (hmax_count v hv), fun _ h => by cases h⟩

theorem validate_properties_ok {properties : List (PyStr × Json)} {path : String}
    (h : validate_properties properties path = .ok ()) :
    ∀ item ∈ properties, ∃ path', validate_schema item.2 path' = .ok () := by
  induction properties with
  | nil => exact fun _ h => nomatch h
  | cons item rest ih =>
    obtain ⟨name, schema⟩ := item
    rw [validate_properties] at h
    simp only [bind_ok, exists_unit] at h
    intro other hother
    rcases List.mem_cons.mp hother with rfl | hother
    · exact ⟨_, h.1⟩
    · exact ih h.2 other hother

/-- What `validate_schema` accepts is declared well, at every depth. -/
theorem declared_of_accepted {schema : Json} {path : String} (h : validate_schema schema path = .ok ()) :
    Declared schema := by
  -- on the size: a subschema is a part of the fields it stands in
  induction hn : sizeOf schema using Nat.strong_induction_on generalizing schema path with
  | _ n ih =>
    subst hn
    rw [validate_schema.eq_def] at h
    split at h
    · rename_i fields
      have hsub : ∀ {name sub path'}, fields.lookup name = some sub → validate_schema sub path' = .ok () →
          Declared sub := by
        intro name sub path' hlookup hsub
        have hsize := sizeOf_lookup hlookup
        exact ih (sizeOf sub) (by simp only [Json.obj.sizeOf_spec]; omega) hsub rfl
      simp only [bind_ok, exists_unit, declared_ok] at h
      obtain ⟨hsupported, hrequired, hproperties, hin_properties, hadditional, hin_additional, hnames,
        hin_names, henum, htype, hbounds, hin_items⟩ := h
      have hadditional' : ∀ sub, fields.lookup (.text "additionalProperties") = some sub →
          sub.is_dict = true → Declared sub := by
        intro sub hlookup hdict
        split at hin_additional
        · rename_i value hvalue
          obtain rfl := Option.some.inj (hvalue.symm.trans hlookup)
          rw [if_pos hdict] at hin_additional
          exact hsub hlookup hin_additional
        · rename_i hnone
          cases hnone.symm.trans hlookup
      refine .intro fields ⟨not_not.mp (raise_if_ok.mp hsupported), ?_, ?_, ?_, ?_, ?_,
        declare_bounds_ok hbounds⟩ ?_ ?_ ?_ ?_
      · exact fun value hvalue => declare_required_ok (hrequired value hvalue)
      · exact fun value hvalue => declare_properties_ok (hproperties value hvalue)
      · intro value hvalue
        rcases declare_additional_ok (hadditional value hvalue) with hbool | hdict
        · exact Or.inl hbool
        · exact Or.inr (hadditional' value hvalue hdict).obj
      · exact fun value hvalue => declare_enum_ok (henum value hvalue)
      · exact fun value hvalue => declare_type_ok (htype value hvalue)
      · intro items hlookup item hitem
        split at hin_properties
        · rename_i properties hvalue
          obtain rfl := Json.obj.inj (Option.some.inj (hvalue.symm.trans hlookup))
          obtain ⟨path', hitem'⟩ := validate_properties_ok hin_properties item hitem
          have hsize := sizeOf_lookup hlookup
          have hmem := List.sizeOf_lt_of_mem hitem
          refine ih (sizeOf item.2) ?_ hitem' rfl
          obtain ⟨name, sub⟩ := item
          simp only [Json.obj.sizeOf_spec, Prod.mk.sizeOf_spec] at *
          omega
        · rename_i hother
          exact absurd hlookup (hother items)
      · exact fun sub hlookup => hadditional' _ hlookup rfl
      · intro sub hlookup
        split at hin_names
        · rename_i names hvalue
          obtain rfl := Option.some.inj (hvalue.symm.trans hlookup)
          exact hsub hlookup hin_names
        · rename_i hnone
          cases hnone.symm.trans hlookup
      · intro sub hlookup
        split at hin_items
        · rename_i items hvalue
          obtain rfl := Option.some.inj (hvalue.symm.trans hlookup)
          exact hsub hlookup hin_items
        · rename_i hnone
          cases hnone.symm.trans hlookup
    · cases h
    · cases h

/-! ## Keyword applications -/

/-- The application of one keyword of a schema to an instance, or to a part of one. -/
inductive Check : Type
  | type (instance_ : Json) (expected : SchemaType)
  | const (instance_ c : Json)
  | enum (instance_ : Json) (members : List Json)
  | at_least (count : ℕ) (bound : ℚ)
  | at_most (count : ℕ) (bound : ℚ)
  | required (names wanted : List PyStr)
  | closed (names properties : List PyStr)
  | pattern (text : PyStr) (expression : Json)
  | format (text : PyStr) (name : Json)
  | minimum (instance_ : Json) (bound : ℚ)
  | maximum (instance_ : Json) (bound : ℚ)

/-- The applications of a keyword a schema has. -/
def applied (schema : Json) (name : String) (f : Json → List Check) : List Check :=
  match schema.get? name with
  | some value => f value
  | none => []

/-- The application of a bound. -/
def bounded (f : ℚ → Check) (value : Json) : List Check := ((bound? value).map f).toList

/-- The strings of a list. -/
def texts_of : Json → List PyStr
  | .arr items => items.filterMap fun j => match j with | .str s => some s | _ => none
  | _ => []

/-- `type`, `const` and `enum`. -/
def checks_any (instance_ schema : Json) : List Check :=
  applied schema "type" (fun value =>
    (((value.text?.bind type_named).map (Check.type instance_)).toList)) ++
  (applied schema "const" (fun c => [.const instance_ c]) ++
  applied schema "enum" (fun value => match value with | .arr members => [.enum instance_ members] | _ => []))

/-- The keywords of strings. -/
def checks_string (s : PyStr) (schema : Json) : List Check :=
  applied schema "minLength" (bounded (.at_least s.codes.length)) ++
  (applied schema "maxLength" (bounded (.at_most s.codes.length)) ++
  (applied schema "pattern" (fun pattern => [.pattern s pattern]) ++
  applied schema "format" fun format => [.format s format]))

/-- The keywords that apply to a string. -/
def checks_str (s : PyStr) (schema : Json) : List Check :=
  checks_any (.str s) schema ++ checks_string s schema

/-- The keywords of dicts, up to the recursion into the values. -/
def checks_object (fields : List (PyStr × Json)) (schema : Json) : List Check :=
  applied schema "minProperties" (bounded (.at_least fields.length)) ++
  (applied schema "maxProperties" (bounded (.at_most fields.length)) ++
  (applied schema "propertyNames"
    (fun names => (fields.map Prod.fst).flatMap fun name => checks_str name names) ++
  (applied schema "required" (fun names => [.required (fields.map Prod.fst) (texts_of names)]) ++
  applied schema "additionalProperties" (fun value => match value with
    | .bool false => [.closed (fields.map Prod.fst) ((properties_of schema).map Prod.fst)]
    | _ => []))))

/-- `minimum` and `maximum`. -/
def checks_range (instance_ schema : Json) : List Check :=
  applied schema "minimum" (bounded (.minimum instance_)) ++
  applied schema "maximum" (bounded (.maximum instance_))

/-- The schema of a field's value. -/
def field_schema (schema : Json) (name : PyStr) : Option Json :=
  ((properties_of schema).lookup name).or (additional_of schema)

mutual

/-- All keyword applications, in the order of the source. -/
def checks (instance_ schema : Json) : List Check :=
  checks_any instance_ schema ++
  ((match instance_ with
    | .obj fields => checks_object fields schema ++ checks_fields fields schema
    | .arr items => applied schema "minItems" (bounded (.at_least items.length)) ++
      match schema.get? "items" with
      | some sub => checks_items items sub
      | none => []
    | .str s => checks_string s schema
    | _ => []) ++
  checks_range instance_ schema)

/-- Those on the values of a dict. -/
def checks_fields : List (PyStr × Json) → Json → List Check
  | [], _ => []
  | (name, value) :: rest, schema =>
    (match field_schema schema name with
      | some sub => checks value sub
      | none => []) ++ checks_fields rest schema

/-- Those on the items of a list. -/
def checks_items : List Json → Json → List Check
  | [], _ => []
  | value :: rest, sub => checks value sub ++ checks_items rest sub

end

/-! ## Verdicts -/

section

variable (re_search : PyStr → PyStr → Option Bool)

/-- The code finds the instance in order. -/
def Check.passes : Check → Bool
  | .type instance_ expected => is_instance expected instance_
  | .const instance_ c => py_eq instance_ c
  | .enum instance_ members => in_enum instance_ members
  | .at_least count bound => bound ≤ count
  | .at_most count bound => count ≤ bound
  | .required names wanted => wanted.all fun name => names.contains name
  | .closed names properties => names.all fun name => properties.contains name
  | .pattern text (.str expression) => re_search expression text = some true
  | .pattern _ _ => false
  | .format text name =>
    !is_date_time name || (Datetime.fromisoformat (replace_z text.codes)).isSome
  | .minimum (.bool _) _ => false
  | .minimum (.int n) bound => bound ≤ n
  | .minimum (.float text) bound => bound ≤ Json.float_value text
  | .minimum _ _ => true
  | .maximum (.bool _) _ => false
  | .maximum (.int n) bound => n ≤ bound
  | .maximum (.float text) bound => Json.float_value text ≤ bound
  | .maximum _ _ => true

/-- The code cannot say so: the pattern is no text or no regular expression, or
the message about the constant cannot be written. -/
def Check.trips : Check → Bool
  | .pattern text (.str expression) => re_search expression text = none
  | .pattern _ _ => true
  | .const instance_ c => !py_eq instance_ c && !has_repr c
  | _ => false

/-- The outcome is that of the first application that does not pass. -/
def Follows (x : Except Exn Unit) (cs : List Check) : Prop :=
  match cs.find? fun c => !c.passes re_search with
  | none => x = .ok ()
  | some c => ∃ e, x = .error e ∧ (e.cls = .ContractValidationError ↔ c.trips re_search = false)

variable {re_search}

theorem Follows.nil : Follows re_search (.ok ()) [] := rfl

/-- Code in sequence. -/
theorem Follows.append {x y : Except Exn Unit} {cs ds : List Check} (hx : Follows re_search x cs)
    (hy : Follows re_search y ds) : Follows re_search (x >>= fun _ => y) (cs ++ ds) := by
  unfold Follows at *
  rw [List.find?_append]
  cases hfind : cs.find? fun c => !c.passes re_search with
  | none =>
    rw [hfind] at hx
    rw [Option.none_or, show x = .ok () from hx]
    exact hy
  | some c =>
    rw [hfind] at hx
    obtain ⟨e, rfl, hclass⟩ := hx
    exact ⟨e, rfl, hclass⟩

/-- Code that refuses unless one application passes. -/
theorem Follows.single {c : Check} {x : Except Exn Unit} (hpass : c.passes re_search = true → x = .ok ())
    (hfail : c.passes re_search = false →
      ∃ e, x = .error e ∧ (e.cls = .ContractValidationError ↔ c.trips re_search = false)) :
    Follows re_search x [c] := by
  unfold Follows
  cases h : c.passes re_search with
  | true => simpa [h] using hpass h
  | false => simpa [h] using hfail h

/-- A refusal by a condition. -/
theorem Follows.refuse {c : Check} {bad : Bool} {path message : String}
    (hpasses : c.passes re_search = !bad) (htrips : c.trips re_search = false) :
    Follows re_search (refuse_if bad path message) [c] := by
  refine .single (fun h => ?_) fun h => ?_
  · rw [hpasses, Bool.not_eq_true'] at h
    rw [h]
    rfl
  · rw [hpasses, Bool.not_eq_false'] at h
    rw [h]
    exact ⟨_, rfl, iff_of_true rfl htrips⟩

/-- A loop. -/
theorem Follows.forM {α : Type} {l : List α} {f : α → Except Exn Unit} {cs : α → List Check}
    (h : ∀ a ∈ l, Follows re_search (f a) (cs a)) : Follows re_search (ForM.forM l f) (l.flatMap cs) := by
  induction l with
  | nil => exact .nil
  | cons a l ih =>
    rw [List.forM_cons, List.flatMap_cons]
    exact (h a List.mem_cons_self).append (ih fun b hb => h b (List.mem_cons_of_mem _ hb))

/-- A keyword, where the schema has it. -/
theorem Follows.keyword {schema : Json} {name : String} {f : Json → Except Exn Unit}
    {cs : Json → List Check} (h : ∀ value, schema.get? name = some value →
      Follows re_search (f value) (cs value)) :
    Follows re_search (keyword schema name f) (applied schema name cs) := by
  unfold SchemaDocument.keyword applied
  cases hget : schema.get? name with
  | none => exact .nil
  | some value => exact h value hget

/-! ## Validation follows the applications -/

variable {schema : Json}

theorem Declared.shape {fields : List (PyStr × Json)} (h : Declared (.obj fields)) : Shape fields := by
  cases h with
  | intro _ shape => exact shape

/-- What a declared schema has under a bound. -/
theorem Declared.bound (h : Declared schema) {name : String} (hname : name ∈ BOUNDS) {value : Json}
    (hvalue : schema.get? name = some value) : ∃ bound, bound? value = some bound := by
  obtain ⟨fields, rfl⟩ := h.obj
  exact h.shape.bound name hname value hvalue

theorem read_bound_of {value : Json} {bound : ℚ} (h : bound? value = some bound) :
    read_bound value = .ok bound := by
  cases value with
  | bool b => exact nomatch h
  | _ => simp only [read_bound, h]

/-- A bound that is met is not the other way round. -/
theorem decide_le (a b : ℚ) : decide (a ≤ b) = !decide (b < a) := by
  rw [Bool.eq_iff_iff, decide_eq_true_eq, Bool.not_eq_true', decide_eq_false_iff_not]
  exact Rat.not_lt.symm

theorem Follows.at_least (h : Declared schema) {name : String} (hname : name ∈ BOUNDS) (count : ℕ)
    (path message : String) :
    Follows re_search (SchemaDocument.keyword schema name (check_at_least count path message))
      (applied schema name (bounded (.at_least count))) := by
  refine .keyword fun value hvalue => ?_
  obtain ⟨bound, hbound⟩ := h.bound hname hvalue
  rw [check_at_least, read_bound_of hbound, bounded, hbound]
  exact .refuse (decide_le _ _) rfl

theorem Follows.at_most (h : Declared schema) {name : String} (hname : name ∈ BOUNDS) (count : ℕ)
    (path message : String) :
    Follows re_search (SchemaDocument.keyword schema name (check_at_most count path message))
      (applied schema name (bounded (.at_most count))) := by
  refine .keyword fun value hvalue => ?_
  obtain ⟨bound, hbound⟩ := h.bound hname hvalue
  rw [check_at_most, read_bound_of hbound, bounded, hbound]
  exact .refuse (decide_le _ _) rfl

theorem Follows.check_any (h : Declared schema) (instance_ : Json) (path : String) :
    Follows re_search (check_any instance_ schema path) (checks_any instance_ schema) := by
  obtain ⟨fields, rfl⟩ := h.obj
  have hsupported : check_supported (.obj fields) path = .ok () :=
    raise_if_ok.mpr (not_not.mpr h.shape.supported)
  rw [SchemaDocument.check_any, hsupported, ok_bind]
  refine .append (.keyword fun value hvalue => ?_) (.append (.keyword fun c _ => ?_)
    (.keyword fun value hvalue => ?_))
  · obtain ⟨t, rfl⟩ := h.shape.type value hvalue
    simp only [check_type, Json.text?, Option.bind_some, type_named_name, Option.map_some,
      Option.toList_some]
    exact .refuse (by simp [Check.passes]) rfl
  · refine .single (fun hpass => ?_) fun hfail => ?_
    · have hpass' : py_eq instance_ c = true := hpass
      rw [check_const, if_pos hpass']
    · have hfail' : py_eq instance_ c = false := hfail
      rw [check_const, hfail']
      cases hrepr : has_repr c with
      | true => exact ⟨_, rfl, iff_of_true rfl (by simp [Check.trips, hfail', hrepr])⟩
      | false => exact ⟨_, rfl, iff_of_false (nomatch ·) (by simp [Check.trips, hfail', hrepr])⟩
  · obtain ⟨members, rfl⟩ := h.shape.enum value hvalue
    exact .refuse (by simp [Check.passes]) rfl

theorem Follows.check_string (h : Declared schema) (s : PyStr) (path : String) :
    Follows re_search (check_string re_search s schema path) (checks_string s schema) := by
  refine .append (.at_least h (by decide) _ _ _) (.append (.at_most h (by decide) _ _ _)
    (.append (.keyword fun expression _ => ?_) (.keyword fun name _ => ?_)))
  · cases expression with
    | str expression =>
      rw [check_pattern]
      cases hsearch : re_search expression s with
      | none =>
        refine .single (fun hpass => ?_) fun _ => ⟨_, rfl, iff_of_false (fun h => by cases h) ?_⟩
        · simp [Check.passes, hsearch] at hpass
        · simp [Check.trips, hsearch]
      | some found => exact .refuse (by simp [Check.passes, hsearch]) (by simp [Check.trips, hsearch])
    | _ =>
      exact .single (fun hpass => by cases hpass) fun _ =>
        ⟨_, rfl, iff_of_false (fun h => by cases h) fun h => by cases h⟩
  · exact .refuse (by rw [Check.passes, Bool.not_and, Option.not_isNone]) rfl

theorem Follows.validate_str (h : Declared schema) (s : PyStr) (path : String) :
    Follows re_search (validate_str re_search s schema path) (checks_str s schema) :=
  .append (.check_any h _ _) (.check_string h _ _)

theorem missing_names_nil {fields : List (PyStr × Json)} (names : List PyStr) :
    (missing_names fields (names.map .str)).isEmpty =
      names.all fun name => (fields.map Prod.fst).contains name := by
  induction names with
  | nil => rfl
  | cons name rest ih =>
    rw [List.map_cons, missing_names, List.all_cons]
    split_ifs with hmem
    · rw [ih, hmem, Bool.true_and]
    · rw [Bool.eq_false_of_not_eq_true hmem]
      rfl

theorem Follows.check_object (h : Declared schema) (fields : List (PyStr × Json)) (path : String) :
    Follows re_search (check_object re_search fields schema path) (checks_object fields schema) := by
  -- the checks in the order of `_validate`: a failure of one leaves the later ones unmade
  refine .append (.at_least h (by decide) _ _ _) (.append (.at_most h (by decide) _ _ _)
    (.append (.keyword fun names hnames => ?_) (.append (.keyword fun value hvalue => ?_)
      (.keyword fun value _ => ?_))))
  · obtain ⟨keywords, rfl⟩ := h.obj
    have hsub : Declared names := by
      cases h with
      | intro _ _ _ _ hdeclared _ => exact hdeclared names hnames
    obtain ⟨sub, rfl⟩ := hsub.obj
    exact .forM fun name _ => .validate_str hsub _ _
  · obtain ⟨keywords, rfl⟩ := h.obj
    obtain ⟨names, rfl⟩ := h.shape.required value hvalue
    have htexts : texts_of (.arr (names.map .str)) = names := by
      rw [texts_of, List.filterMap_map]
      exact List.filterMap_some
    refine .refuse ?_ rfl
    rw [missing_names_nil, Check.passes, htexts, Bool.not_not]
  · cases value with
    | bool b =>
      cases b with
      | true => exact .nil
      | false =>
        refine .refuse ?_ rfl
        rw [Check.passes, Bool.not_not, extra_names, Bool.eq_iff_iff, List.all_eq_true, List.isEmpty_iff,
          List.filter_eq_nil_iff]
        simp only [Bool.not_eq_true', Bool.not_eq_false]
    | _ => exact .nil

theorem Follows.check_range (h : Declared schema) (instance_ : Json) (path : String) :
    Follows re_search (check_range instance_ schema path) (checks_range instance_ schema) := by
  refine .append (.keyword fun value hvalue => ?_) (.keyword fun value hvalue => ?_)
  · obtain ⟨bound, hbound⟩ := h.bound (by decide) hvalue
    rw [bounded, hbound]
    cases instance_ with
    | bool b => exact .refuse rfl rfl
    | int n =>
      rw [check_minimum, read_bound_of hbound]
      exact .refuse (decide_le _ _) rfl
    | float text =>
      rw [check_minimum, read_bound_of hbound]
      exact .refuse (decide_le _ _) rfl
    | _ => exact .single (fun _ => rfl) (nomatch ·)
  · obtain ⟨bound, hbound⟩ := h.bound (by decide) hvalue
    rw [bounded, hbound]
    cases instance_ with
    | bool b => exact .refuse rfl rfl
    | int n =>
      rw [check_maximum, read_bound_of hbound]
      exact .refuse (decide_le _ _) rfl
    | float text =>
      rw [check_maximum, read_bound_of hbound]
      exact .refuse (decide_le _ _) rfl
    | _ => exact .single (fun _ => rfl) (nomatch ·)

end

section

variable {re_search : PyStr → PyStr → Option Bool}

theorem sub_schema_eq (schema : Json) (name : PyStr) (path : String) :
    (sub_schema schema name path).map Prod.fst = field_schema schema name := by
  unfold sub_schema field_schema
  cases (properties_of schema).lookup name with
  | some sub => rfl
  | none => cases additional_of schema <;> rfl

/-- The schemas of the values of a declared schema are declared. -/
theorem Declared.field {schema : Json} (h : Declared schema) {name : PyStr} {sub : Json}
    (hsub : field_schema schema name = some sub) : Declared sub := by
  obtain ⟨fields, rfl⟩ := h.obj
  cases h with
  | intro _ shape properties additional _ _ =>
    rcases Option.or_eq_some_iff.mp hsub with hproperty | ⟨-, hadditional⟩
    · unfold properties_of at hproperty
      split at hproperty
      · rename_i items hitems
        exact properties items hitems (name, sub) (mem_of_lookup hproperty)
      · exact nomatch hproperty
    · unfold additional_of at hadditional
      split at hadditional
      · rename_i keywords hkeywords
        obtain rfl := Option.some.inj hadditional
        exact additional keywords hkeywords
      · exact nomatch hadditional

theorem Declared.items {schema sub : Json} (h : Declared schema) (hsub : schema.get? "items" = some sub) :
    Declared sub := by
  obtain ⟨fields, rfl⟩ := h.obj
  cases h with
  | intro _ _ _ _ _ items => exact items sub hsub

/-- The values of a dict: one follows, then the others. -/
theorem Follows.validate_fields {fields : List (PyStr × Json)} {schema : Json} {path : String}
    (hdeclared : Declared schema)
    (ih : ∀ f ∈ fields, f.2.plain → ∀ sub path, Declared sub →
      Follows re_search (_validate re_search f.2 sub path) (checks f.2 sub))
    (hplain : ∀ f ∈ fields, f.2.plain) :
    Follows re_search (validate_fields re_search fields schema path) (checks_fields fields schema) := by
  induction fields with
  | nil => exact .nil
  | cons f rest ih_rest =>
    obtain ⟨name, value⟩ := f
    rw [SchemaDocument.validate_fields, checks_fields]
    refine .append ?_ (ih_rest (fun g hg => ih g (List.mem_cons_of_mem _ hg))
      fun g hg => hplain g (List.mem_cons_of_mem _ hg))
    have hsub := sub_schema_eq schema name path
    -- a field without a schema of its own is not looked at
    cases hschema : sub_schema schema name path with
    | none =>
      rw [hschema] at hsub
      rw [← show none = field_schema schema name from hsub]
      exact .nil
    | some entry =>
      obtain ⟨sub, sub_path⟩ := entry
      rw [hschema] at hsub
      have hfield : field_schema schema name = some sub := hsub.symm
      rw [hfield]
      exact ih (name, value) List.mem_cons_self (hplain _ List.mem_cons_self) sub sub_path
        (hdeclared.field hfield)

/-- The items of a list. -/
theorem Follows.validate_items {items : List Json} {i : ℕ} {sub : Json} {path : String}
    (ih : ∀ j ∈ items, j.plain → ∀ path,
      Follows re_search (_validate re_search j sub path) (checks j sub))
    (hplain : ∀ j ∈ items, j.plain) :
    Follows re_search (validate_items re_search items i sub path) (checks_items items sub) := by
  induction items generalizing i with
  | nil => exact .nil
  | cons j rest ih_rest =>
    rw [SchemaDocument.validate_items, checks_items]
    exact .append (ih j List.mem_cons_self (hplain j List.mem_cons_self) _)
      (ih_rest (fun k hk => ih k (List.mem_cons_of_mem _ hk)) fun k hk => hplain k (List.mem_cons_of_mem _ hk))

/-- **Validation follows the keyword applications**, for a declared schema and a
JSON instance. -/
theorem validate_follows (instance_ : Json) (hplain : instance_.plain) (schema : Json) (path : String)
    (h : Declared schema) :
    Follows re_search (_validate re_search instance_ schema path) (checks instance_ schema) := by
  -- on the instance, for every schema: each level of it takes one level of the schema
  induction instance_ using Json.induction_on generalizing schema path with
  | leaf j ha ho =>
    rw [_validate.eq_def, checks.eq_def]
    refine .append (.check_any h _ _) (.append ?_ (.check_range h _ _))
    cases j with
    | arr items => exact absurd rfl (ha items)
    | obj fields => exact absurd rfl (ho fields)
    | str s => exact .check_string h s path
    | other dict text => exact absurd hplain (by simp [Json.plain])
    | _ => exact .nil
  | arr items ih =>
    have hitems := Json.plain_items_iff.mp hplain
    rw [_validate, checks]
    refine .append (.check_any h _ _) (.append (.append (.at_least h (by decide) _ _ _) ?_)
      (.check_range h _ _))
    cases hsub : schema.get? "items" with
    | none => exact .nil
    | some sub => exact .validate_items (fun j hj hj' path => ih j hj hj' sub path (h.items hsub)) hitems
  | obj fields ih =>
    rw [_validate, checks]
    refine .append (.check_any h _ _) (.append (.append (.check_object h _ _) ?_) (.check_range h _ _))
    exact .validate_fields h (fun f hf hf' sub path => ih f hf hf' sub path) (Json.plain_fields_iff.mp hplain)

end

/-! ## The exceptions of a validation -/

/-- `validate_schema` accepts the schema. -/
def accepted (schema : Json) : Prop := validate_schema schema "$" = .ok ()

/-- No application the code cannot judge comes before one that does not pass. -/
def shielded (re_search : PyStr → PyStr → Option Bool) (cs : List Check) : Prop :=
  ∀ front c rest, cs = front ++ c :: rest → c.trips re_search = true →
    ∃ d ∈ front, d.passes re_search = false

section

variable (re_search : PyStr → PyStr → Option Bool)

theorem validate_accepted {schema : Json} (h : accepted schema) (instance_ : Json) :
    validate re_search instance_ schema = _validate re_search instance_ schema "$" := by
  rw [validate, show validate_schema schema "$" = .ok () from h, ok_bind]

/-- An application the code cannot judge does not pass. -/
theorem Check.passes_of_trips {c : Check} (h : c.trips re_search = true) :
    c.passes re_search = false := by
  cases c with
  | const instance_ c =>
    rw [Check.trips, Bool.and_eq_true, Bool.not_eq_true'] at h
    exact h.1
  | pattern text expression =>
    cases expression with
    | str expression =>
      have hnone : re_search expression text = none := by simpa [Check.trips] using h
      simp [Check.passes, hnone]
    | _ => rfl
  | _ => exact nomatch h

theorem shielded_iff {cs : List Check} : shielded re_search cs ↔
    ∀ c, (cs.find? fun c => !c.passes re_search) = some c → c.trips re_search = false := by
  constructor
  · intro h c hfind
    obtain ⟨-, front, rest, rfl, hfront⟩ := List.find?_eq_some_iff_append.mp hfind
    by_contra htrips
    obtain ⟨d, hd, hfails⟩ := h front c rest rfl (by simpa using htrips)
    have hpasses := hfront d hd
    rw [hfails] at hpasses
    exact nomatch hpasses
  · intro h front c rest heq htrips
    by_contra hnone
    have hfront : ∀ d ∈ front, d.passes re_search = true := fun d hd => by
      by_contra hfails
      exact hnone ⟨d, hd, by simpa using hfails⟩
    have hfind : (cs.find? fun c => !c.passes re_search) = some c := by
      rw [List.find?_eq_some_iff_append]
      refine ⟨by rw [c.passes_of_trips re_search htrips]; rfl, front, rest, heq, fun d hd => ?_⟩
      rw [hfront d hd]
      rfl
    exact Bool.false_ne_true ((h c hfind).symm.trans htrips)

variable {re_search} in
theorem shielded_of_judged {cs : List Check} (h : ∀ c ∈ cs, c.trips re_search = false) :
    shielded re_search cs := by
  rintro front c rest rfl htrips
  rw [h c (by simp)] at htrips
  cases htrips

/-- Validation raises nothing but `ContractValidationError` exactly where every
application the code cannot judge, a pattern that is no regular expression or a
constant it cannot write, comes after one that the instance fails. -/
theorem validate_refuses_iff (schema instance_ : Json) (haccepted : accepted schema)
    (hplain : instance_.plain) :
    (∀ e, validate re_search instance_ schema = .error e → e.cls = .ContractValidationError) ↔
      shielded re_search (checks instance_ schema) := by
  have hfollows : Follows re_search _ _ := validate_follows instance_ hplain schema "$"
    (declared_of_accepted haccepted)
  rw [validate_accepted re_search haccepted, shielded_iff]
  unfold Follows at hfollows
  cases hfind : (checks instance_ schema).find? fun c => !c.passes re_search with
  | none =>
    rw [hfind] at hfollows
    rw [show _ = _ from hfollows]
    exact iff_of_true (fun e h => nomatch h) fun c h => nomatch h
  | some c =>
    rw [hfind] at hfollows
    obtain ⟨e, he, hclass⟩ := hfollows
    rw [he]
    simp only [Except.error.injEq, forall_eq', Option.some.injEq]
    exact hclass

end

/-- A schema with a pattern that is a number. -/
def number_pattern : Json := .obj [(.text "pattern", .int 5)]

theorem number_pattern_accepted : accepted number_pattern := by
  rw [accepted, number_pattern, validate_schema]
  rfl

/-- A schema of one text. -/
def text_pattern : Json :=
  .obj [(.text "type", .str (.text "string")), (.text "pattern", .str (.text "^x$"))]

theorem text_pattern_accepted : accepted text_pattern := by
  rw [accepted, text_pattern, validate_schema]
  rfl

theorem validate_refuses_text :
    ∃ e, validate (fun _ text => some (text = .text "x")) (.str (.text "y")) text_pattern = .error e ∧
      e.cls = .ContractValidationError := by
  have hall := (validate_refuses_iff (fun _ text => some (text = .text "x")) text_pattern (.str (.text "y"))
    text_pattern_accepted (by rw [Json.plain]; trivial)).mpr (shielded_of_judged (by
      intro c hc
      rw [show checks (.str (.text "y")) text_pattern =
        [.type (.str (.text "y")) .string, .pattern (.text "y") (.str (.text "^x$"))] from rfl] at hc
      rcases List.mem_pair.mp hc with rfl | rfl
      · rfl
      · rfl))
  obtain ⟨e, he⟩ : ∃ e, validate (fun _ text => some (text = .text "x")) (.str (.text "y")) text_pattern =
      .error e := by
    rw [validate_accepted _ text_pattern_accepted]
    exact ⟨_, rfl⟩
  exact ⟨e, he, hall e he⟩

/-- A number as a pattern is accepted, and a string meets a `TypeError`. -/
theorem validate_raises_type_error :
    ¬ ∀ (re_search : PyStr → PyStr → Option Bool) (schema instance_ : Json), accepted schema →
      instance_.plain → ∀ e, validate re_search instance_ schema = .error e →
      e.cls = .ContractValidationError := by
  intro h
  have hvalidate : validate (fun _ _ => none) (.str (.text "x")) number_pattern = .error type_error := by
    rw [validate_accepted _ number_pattern_accepted]
    rfl
  exact nomatch h (fun _ _ => none) number_pattern (.str (.text "x")) number_pattern_accepted
    (by rw [Json.plain]; trivial) _ hvalidate

end AppContracts.SchemaDocument
