/-
Codecs: the JSON of a value, and the value of a JSON.

A codec reads exactly what it writes (`read_ok`), so reading a dict field by field
with codecs says which dict was read (`field_ok`), and two dicts with the same
fields are written alike (`norm_fields_ext`).
-/
import AppContracts.Lib.JsonRoundTrip

set_option autoImplicit false

namespace AppContracts

open Json

/-- The JSON of values of `α` and the reader of it, which raises errors of `ε`. -/
structure Codec (ε α : Type) : Type where
  json : α → Json
  read : Json → Except ε α
  /-- It reads what it writes, and nothing else. -/
  read_ok : ∀ {j : Json} {a : α}, read j = .ok a ↔ j = json a
  /-- What it writes has no dict that is out of order. -/
  norm_json : ∀ a : α, (json a).norm = json a
  wf_json : ∀ a : α, (json a).wf
  plain_json : ∀ a : α, (json a).plain

namespace Codec

variable {ε α β γ : Type}

theorem read_json (c : Codec ε α) (a : α) : c.read (c.json a) = .ok a := c.read_ok.mpr rfl

theorem json_inj (c : Codec ε α) {a b : α} (h : c.json a = c.json b) : a = b := by
  have hread := c.read_json a
  rw [h, read_json] at hread
  exact (Except.ok.inj hread).symm

/-! ## Leaves -/

/-- A text; a string with a lone surrogate raises an error of its own. -/
def text (e lone : ε) : Codec ε String where
  json s := .str (.text s)
  read
    | .str (.text s) => .ok s
    | .str (.surrogates _ _) => .error lone
    | _ => .error e
  read_ok := by
    intro j s
    constructor
    · intro h
      split at h
      · rw [Except.ok.inj h]
      · cases h
      · cases h
    · rintro rfl
      rfl
  norm_json _ := rfl
  wf_json _ := trivial
  plain_json _ := trivial

/-- Any string. -/
def any_str (e : ε) : Codec ε PyStr where
  json s := .str s
  read
    | .str s => .ok s
    | _ => .error e
  read_ok := by
    intro j s
    constructor
    · intro h
      split at h
      · rw [Except.ok.inj h]
      · cases h
    · rintro rfl
      rfl
  norm_json _ := rfl
  wf_json _ := trivial
  plain_json _ := trivial

/-- An int. -/
def int (e : ε) : Codec ε ℤ where
  json n := .int n
  read
    | .int n => .ok n
    | _ => .error e
  read_ok := by
    intro j n
    constructor
    · intro h
      split at h
      · rw [Except.ok.inj h]
      · cases h
    · rintro rfl
      rfl
  norm_json _ := rfl
  wf_json _ := trivial
  plain_json _ := trivial

/-! ## Combinators -/

/-- `null`, or what the codec reads. -/
def read_nullable (c : Codec ε α) : Json → Except ε (Option α)
  | .null => .ok none
  | j => (c.read j).map some

theorem read_nullable_some (c : Codec ε α) {j : Json} (h : j ≠ .null) :
    c.read_nullable j = (c.read j).map some := by
  rw [read_nullable.eq_def]
  split
  · exact absurd rfl h
  · rfl

/-- A value or `null`, for a codec that writes no `null`. -/
def nullable (c : Codec ε α) (h : ∀ a, c.json a ≠ .null) : Codec ε (Option α) where
  json
    | none => .null
    | some a => c.json a
  read := c.read_nullable
  read_ok := by
    intro j a
    -- `null` is the absent value, and no value of `c` is written as `null`
    by_cases hj : j = .null
    · subst hj
      cases a with
      | none => simp [read_nullable]
      | some a => simpa [read_nullable] using (h a).symm
    · rw [c.read_nullable_some hj]
      cases a with
      | none =>
        simp only [hj, iff_false]
        cases c.read j <;> simp [Except.map]
      | some a =>
        rw [← c.read_ok]
        cases c.read j <;> simp [Except.map]
  norm_json a := by
    cases a with
    | none => rfl
    | some a => exact c.norm_json a
  wf_json a := by
    cases a with
    | none => trivial
    | some a => exact c.wf_json a
  plain_json a := by
    cases a with
    | none => trivial
    | some a => exact c.plain_json a

/-- Every item in turn. -/
def read_items (c : Codec ε α) : List Json → Except ε (List α)
  | [] => .ok []
  | j :: rest =>
    match c.read j with
    | .error e => .error e
    | .ok a =>
      match read_items c rest with
      | .error e => .error e
      | .ok l => .ok (a :: l)

theorem read_items_ok (c : Codec ε α) {items : List Json} {l : List α} :
    c.read_items items = .ok l ↔ items = l.map c.json := by
  induction items generalizing l with
  | nil => cases l <;> simp [read_items]
  | cons j rest ih =>
    rw [read_items]
    cases l with
    | nil =>
      simp only [List.map_nil, reduceCtorEq, iff_false]
      split
      · simp
      · split <;> simp
    | cons a l =>
      rw [List.map_cons, List.cons.injEq, ← c.read_ok, ← ih]
      split
      · simp_all
      · split <;> simp_all

/-- A list of values. -/
def list (e : ε) (c : Codec ε α) : Codec ε (List α) where
  json l := .arr (l.map c.json)
  read
    | .arr items => c.read_items items
    | _ => .error e
  read_ok := by
    intro j l
    constructor
    · intro h
      split at h
      · rw [c.read_items_ok.mp h]
      · cases h
    · rintro rfl
      exact c.read_items_ok.mpr rfl
  norm_json l := by
    rw [Json.norm, norm_items_eq, List.map_map]
    exact congrArg _ (List.map_congr_left fun a _ => c.norm_json a)
  wf_json l := wf_items_iff.mpr (List.forall_mem_map.mpr fun a _ => c.wf_json a)
  plain_json l := plain_items_iff.mpr (List.forall_mem_map.mpr fun a _ => c.plain_json a)

/-- Two values. -/
def pair (e : ε) (c : Codec ε α) (d : Codec ε β) : Codec ε (α × β) where
  json p := .arr [c.json p.1, d.json p.2]
  read
    | .arr [j, k] =>
      match c.read j with
      | .error e => .error e
      | .ok a => (d.read k).map fun b => (a, b)
    | _ => .error e
  read_ok := by
    rintro j ⟨a, b⟩
    constructor
    · intro h
      split at h
      · rename_i j k
        cases hj : c.read j with
        | error e => simp [hj] at h
        | ok a' =>
          cases hk : d.read k with
          | error e => simp [hj, hk, Except.map] at h
          | ok b' =>
            simp only [hj, hk, Except.map, Except.ok.injEq, Prod.mk.injEq] at h
            obtain ⟨rfl, rfl⟩ := h
            rw [c.read_ok.mp hj, d.read_ok.mp hk]
      · cases h
    · rintro rfl
      simp [c.read_json, d.read_json, Except.map]
  norm_json p := by
    simp [Json.norm, norm_items, c.norm_json, d.norm_json]
  wf_json p := ⟨c.wf_json p.1, d.wf_json p.2, trivial⟩
  plain_json p := ⟨c.plain_json p.1, d.plain_json p.2, trivial⟩

/-- Three values. -/
def triple (e : ε) (c : Codec ε α) (d : Codec ε β) (f : Codec ε γ) : Codec ε (α × β × γ) where
  json p := .arr [c.json p.1, d.json p.2.1, f.json p.2.2]
  read
    | .arr [i, j, k] =>
      match c.read i with
      | .error e => .error e
      | .ok a =>
        match d.read j with
        | .error e => .error e
        | .ok b => (f.read k).map fun g => (a, b, g)
    | _ => .error e
  read_ok := by
    rintro j ⟨a, b, g⟩
    constructor
    · intro h
      split at h
      · rename_i i j k
        cases hi : c.read i with
        | error e => simp [hi] at h
        | ok a' =>
          cases hj : d.read j with
          | error e => simp [hi, hj] at h
          | ok b' =>
            cases hk : f.read k with
            | error e => simp [hi, hj, hk, Except.map] at h
            | ok g' =>
              simp only [hi, hj, hk, Except.map, Except.ok.injEq, Prod.mk.injEq] at h
              obtain ⟨rfl, rfl, rfl⟩ := h
              rw [c.read_ok.mp hi, d.read_ok.mp hj, f.read_ok.mp hk]
      · cases h
    · rintro rfl
      simp [c.read_json, d.read_json, f.read_json, Except.map]
  norm_json p := by
    simp [Json.norm, norm_items, c.norm_json, d.norm_json, f.norm_json]
  wf_json p := ⟨c.wf_json p.1, d.wf_json p.2.1, f.wf_json p.2.2, trivial⟩
  plain_json p := ⟨c.plain_json p.1, d.plain_json p.2.1, f.plain_json p.2.2, trivial⟩

/-! ## Dicts -/

/-- `raw[key]` of a dict, read with the codec. -/
def field (c : Codec ε α) (e : ε) (raw : Json) (key : String) : Except ε α :=
  match raw.get? key with
  | none => .error e
  | some j => c.read j

theorem field_ok {c : Codec ε α} {e : ε} {raw : Json} {key : String} {a : α} :
    c.field e raw key = .ok a ↔ raw.get? key = some (c.json a) := by
  rw [field]
  cases raw.get? key with
  | none => simp
  | some j => simp [c.read_ok]

end Codec

namespace Json

/-- `type(j) is dict and set(j) == keys`. -/
def has_keys (j : Json) (keys : List String) : Bool :=
  match j with
  | .obj fields =>
    (fields.all fun f => decide (f.1 ∈ keys.map PyStr.text)) &&
      keys.all fun k => decide (PyStr.text k ∈ fields.map Prod.fst)
  | _ => false

theorem has_keys_iff {j : Json} {keys : List String} :
    j.has_keys keys = true ↔ ∃ fields, j = .obj fields ∧
      (∀ f ∈ fields, f.1 ∈ keys.map PyStr.text) ∧ ∀ k ∈ keys, .text k ∈ fields.map Prod.fst := by
  cases j with
  | obj fields =>
    simp only [has_keys, Bool.and_eq_true, List.all_eq_true, decide_eq_true_eq, Json.obj.injEq,
      exists_eq_left']
  | _ => simp [has_keys]

/-- A dict's fields in key order do not depend on the order they were in. -/
theorem sort_fields_congr {fs gs : List (PyStr × Json)} (h : fs.Perm gs)
    (hn : (gs.map Prod.fst).Nodup) : sort_fields fs = sort_fields gs := by
  have htotal : Std.Total (fun a b : PyStr × Json => a.1.le b.1) :=
    ⟨fun a b => Std.Total.total a.1 b.1⟩
  have htrans : IsTrans (PyStr × Json) (fun a b => a.1.le b.1) :=
    ⟨fun a b c => IsTrans.trans a.1 b.1 c.1⟩
  have hperm : (sort_fields fs).Perm (sort_fields gs) :=
    (sort_fields_perm fs).trans (h.trans (sort_fields_perm gs).symm)
  refine hperm.eq_of_pairwise ?_ (List.pairwise_insertionSort _ _) (List.pairwise_insertionSort _ _)
  intro a b ha hb hab hba
  have hkey : a.1 = b.1 := PyStr.codes_inj (le_antisymm hab hba)
  exact List.inj_on_of_nodup_map hn (mem_sort_fields.mp (hperm.mem_iff.mp ha)) (mem_sort_fields.mp hb)
    hkey

/-- **Two dicts with the same items are written alike.** -/
theorem norm_obj_congr {fs gs : List (PyStr × Json)} (hf : (fs.map Prod.fst).Nodup)
    (hg : (gs.map Prod.fst).Nodup) (hkeys : ∀ f ∈ fs, f.1 ∈ gs.map Prod.fst)
    (hitems : ∀ g ∈ gs, fs.lookup g.1 = some g.2) : (obj fs).norm = (obj gs).norm := by
  have hmem : ∀ p, p ∈ fs ↔ p ∈ gs := by
    rintro ⟨k, v⟩
    constructor
    · intro hp
      obtain ⟨⟨k', v'⟩, hg', rfl⟩ := List.mem_map.mp (hkeys _ hp)
      have hsame := (lookup_iff_mem hf _ _).mpr hp
      rw [hitems _ hg', Option.some.injEq] at hsame
      obtain rfl : v' = v := hsame
      exact hg'
    · intro hp
      exact (lookup_iff_mem hf _ _).mp (hitems _ hp)
  have hperm : fs.Perm gs := (List.perm_ext_iff_of_nodup (.of_map _ hf) (.of_map _ hg)).mpr hmem
  have hnorm : ((norm_fields gs).map Prod.fst).Nodup := by
    rw [norm_fields_eq, List.map_map]
    exact hg
  rw [norm, norm]
  refine congrArg _ (sort_fields_congr ?_ hnorm)
  rw [norm_fields_eq, norm_fields_eq]
  exact hperm.map _

/-- A number of at most six digits is encodable. -/
theorem encodable_int {ascii : Bool} {n : ℤ} (h : n.natAbs < 1000000) :
    (Json.int n).encodable ascii = true := by
  have hdigits : (digits n.natAbs).length ≤ 6 :=
    (Nat.length_toDigits_le_iff (by decide) (by decide)).mpr h
  exact decide_eq_true (hdigits.trans (by decide))

/-! ### Records -/

/-- A dict whose keys are text. -/
def record (fields : List (String × Json)) : Json := .obj (fields.map fun f => (.text f.1, f.2))

section Records

variable {fields : List (String × Json)}

theorem record_keys (fields : List (String × Json)) :
    (fields.map fun f => (PyStr.text f.1, f.2)).map Prod.fst = (fields.map Prod.fst).map PyStr.text := by
  rw [List.map_map, List.map_map]
  rfl

theorem record_nodup (hn : (fields.map Prod.fst).Nodup) :
    ((fields.map fun f => (PyStr.text f.1, f.2)).map Prod.fst).Nodup := by
  rw [record_keys]
  exact hn.map fun _ _ => PyStr.text.inj

theorem wf_record (hn : (fields.map Prod.fst).Nodup) (h : ∀ f ∈ fields, f.2.wf) :
    (record fields).wf :=
  ⟨record_nodup hn, wf_fields_iff.mpr (List.forall_mem_map.mpr h)⟩

theorem plain_record (h : ∀ f ∈ fields, f.2.plain) : (record fields).plain :=
  plain_fields_iff.mpr (List.forall_mem_map.mpr h)

theorem encodable_record {ascii : Bool} (h : ∀ f ∈ fields, f.2.encodable ascii = true) :
    (record fields).encodable ascii = true :=
  encodable_fields_iff.mpr (List.forall_mem_map.mpr fun f hf => ⟨rfl, h f hf⟩)

/-- A record has its fields. -/
theorem get_record (hw : (record fields).wf) : ∀ f ∈ fields, (record fields).get? f.1 = some f.2 :=
  fun _ hf => (lookup_iff_mem hw.1 _ _).mpr (List.mem_map_of_mem (f := fun f => (PyStr.text f.1, f.2)) hf)

/-- A record's keys are those of its fields. -/
theorem has_keys_record (fields : List (String × Json)) :
    (record fields).has_keys (fields.map Prod.fst) = true := by
  refine has_keys_iff.mpr ⟨_, rfl, ?_, ?_⟩
  · intro f hf
    rw [← record_keys]
    exact List.mem_map_of_mem hf
  · intro k hk
    rw [record_keys]
    exact List.mem_map_of_mem hk

/-- Sorting the fields' values first changes nothing. -/
theorem norm_record_norm (fields : List (String × Json)) :
    (record (fields.map fun f => (f.1, f.2.norm))).norm = (record fields).norm := by
  rw [record, record, norm, norm, norm_fields_eq, norm_fields_eq, List.map_map, List.map_map, List.map_map]
  refine congrArg _ (congrArg sort_fields (List.map_congr_left fun f _ => ?_))
  exact congrArg _ (norm_norm f.2)

/-- **A dict in which a record's fields were read is the record.** -/
theorem norm_of_read {raw : Json} (hw : raw.wf) (hn : (fields.map Prod.fst).Nodup)
    (hkeys : raw.has_keys (fields.map Prod.fst) = true)
    (hitems : ∀ f ∈ fields, raw.get? f.1 = some f.2) : raw.norm = (record fields).norm := by
  obtain ⟨rs, rfl, hmem, -⟩ := has_keys_iff.mp hkeys
  refine norm_obj_congr hw.1 (record_nodup hn) ?_ (List.forall_mem_map.mpr hitems)
  rw [record_keys]
  exact hmem

/-- **The fields of a record that was written are read.** -/
theorem read_of_norm (hw : (record fields).wf) :
    (record fields).norm.has_keys (fields.map Prod.fst) = true ∧
      ∀ f ∈ fields, (record fields).norm.get? f.1 = some f.2.norm := by
  have hperm := (norm_fields_keys (fields.map fun f => (PyStr.text f.1, f.2)))
  rw [record_keys] at hperm
  refine ⟨has_keys_iff.mpr ⟨_, rfl, ?_, ?_⟩, ?_⟩
  · intro f hf
    exact hperm.mem_iff.mp (List.mem_map_of_mem hf)
  · intro k hk
    exact hperm.mem_iff.mpr (List.mem_map_of_mem hk)
  · intro f hf
    rw [get?_norm hw, get_record hw f hf, Option.map_some]

end Records

/-! ### Nesting -/

mutual

/-- How many lists and dicts are nested in the value. -/
def depth : Json → ℕ
  | .arr items => depth_items items + 1
  | .obj fields => depth_fields fields + 1
  | .null => 0
  | .bool _ => 0
  | .int _ => 0
  | .float _ => 0
  | .number _ => 0
  | .str _ => 0
  | .other _ _ => 0

/-- The deepest item. -/
def depth_items : List Json → ℕ
  | [] => 0
  | j :: rest => max (depth j) (depth_items rest)

/-- The deepest value of a field. -/
def depth_fields : List (PyStr × Json) → ℕ
  | [] => 0
  | (_, j) :: rest => max (depth j) (depth_fields rest)

end

theorem depth_items_le {items : List Json} {n : ℕ} :
    depth_items items ≤ n ↔ ∀ j ∈ items, j.depth ≤ n := by
  induction items with
  | nil => simp [depth_items]
  | cons j items ih => rw [depth_items, Nat.max_le, List.forall_mem_cons, ih]

theorem depth_fields_le {fields : List (PyStr × Json)} {n : ℕ} :
    depth_fields fields ≤ n ↔ ∀ f ∈ fields, f.2.depth ≤ n := by
  induction fields with
  | nil => simp [depth_fields]
  | cons f fields ih => rw [depth_fields, Nat.max_le, List.forall_mem_cons, ih]

theorem depth_arr_le {items : List Json} {n : ℕ} (h : ∀ j ∈ items, j.depth ≤ n) :
    (Json.arr items).depth ≤ n + 1 := by
  rw [depth, Nat.add_le_add_iff_right]
  exact depth_items_le.mpr h

theorem depth_record_le {fields : List (String × Json)} {n : ℕ} (h : ∀ f ∈ fields, f.2.depth ≤ n) :
    (record fields).depth ≤ n + 1 := by
  rw [record, depth, Nat.add_le_add_iff_right, depth_fields_le]
  exact List.forall_mem_map.mpr h

end Json

end AppContracts
