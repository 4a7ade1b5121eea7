/-
Canonical JSON on the wire: what the signed records of the verifier share.

A reader decodes UTF-8, refuses repeated keys and constants, and compares the
bytes with the canonical encoding of what it read. Every such reader wraps what
goes wrong into one exception of its own.
-/
import AppContracts.Digests
import AppContracts.GitHubSnapshot
import AppContracts.Lib.Base64
import AppContracts.Lib.JsonCodec

set_option autoImplicit false

namespace AppContracts

/-! ## Exceptions -/

/-- The value of a step, or its exception. -/
def or_raise {α : Type} (e : Exn) : Option α → Except Exn α
  | some a => .ok a
  | none => .error e

@[simp] theorem or_raise_ok {α : Type} {e : Exn} {x : Option α} {a : α} :
    or_raise e x = .ok a ↔ x = some a := by
  cases x <;> simp [or_raise]

theorem Raises.or_raise {α : Type} {P : ExnClass → Prop} {e : Exn} {x : Option α} (h : P e.cls) :
    Raises P (or_raise e x) := by
  cases x with
  | none => exact Raises.error h
  | some a => exact Raises.ok a

/-- `try: x; except own: raise; except Exception: raise e`. -/
def reraise {α : Type} (own : ExnClass) (e : Exn) (x : Except Exn α) : Except Exn α :=
  match x with
  | .ok a => .ok a
  | .error e' => if e'.cls = own then .error e' else .error e

@[simp] theorem reraise_ok {α : Type} {own : ExnClass} {e : Exn} {x : Except Exn α} {a : α} :
    reraise own e x = .ok a ↔ x = .ok a := by
  cases x with
  | ok b => rfl
  | error e' => by_cases h : e'.cls = own <;> simp [reraise, h]

/-! ## Canonical JSON -/

/-- `json.loads(value.decode("utf-8"), object_pairs_hook=.., parse_constant=..)`. -/
def strict_json (value : Bytes) : Option Json :=
  (decode_utf8 value).bind (Json.loads_with Json.strict_hooks)

/-- `json.dumps(value, ensure_ascii=False, sort_keys=True, ..).encode("utf-8")`. -/
def canonical_encoding (value : Json) : Option Bytes := (value.dumps false).map encode_utf8

theorem canonical_encoding_some {value : Json} {bytes : Bytes} :
    canonical_encoding value = some bytes ↔ value.encodable false = true ∧
      bytes = encode_utf8 (String.ofList (value.norm.print false)) := by
  rw [canonical_encoding, Json.dumps]
  by_cases h : value.encodable false = true
  · rw [if_pos h, Option.map_some, Option.some.injEq]
    exact ⟨fun heq => ⟨h, heq.symm⟩, fun heq => heq.2.symm⟩
  · rw [if_neg h]
    simp [h]

/-- The order of the keys does not matter to the encoding. -/
@[simp] theorem canonical_encoding_norm (value : Json) :
    canonical_encoding value.norm = canonical_encoding value := by
  rw [canonical_encoding, canonical_encoding, Json.dumps, Json.dumps, Json.encodable_norm, Json.norm_norm]

/-- Values that are written alike have one encoding. -/
theorem canonical_encoding_congr {j k : Json} (h : j.norm = k.norm) :
    canonical_encoding j = canonical_encoding k := by
  rw [← canonical_encoding_norm, h, canonical_encoding_norm]

/-- **What was encoded is read back**, its keys in order. -/
theorem strict_json_encoding {value : Json} {bytes : Bytes} (hw : value.wf) (hp : value.plain)
    (h : canonical_encoding value = some bytes) : strict_json bytes = some value.norm := by
  obtain ⟨he, rfl⟩ := canonical_encoding_some.mp h
  rw [strict_json, decode_utf8_some.mpr rfl, Option.bind_some]
  exact Json.loads_strict_print false hw hp he

/-! ## Base64 and hexadecimal text -/

/-- `base64.b64encode(value).decode("ascii")`. -/
def b64encode (value : Bytes) : String := String.ofList (Base64.encode value)

/-- `base64.b64decode(text, validate=True)`. -/
def b64decode (text : String) : Option Bytes := Base64.decode text.toList

theorem b64decode_encode (value : Bytes) : b64decode (b64encode value) = some value := by
  rw [b64decode, b64encode, String.toList_ofList, Base64.decode_encode]

/-- Four digits for each three bytes begun. -/
theorem length_b64encode (value : Bytes) : (b64encode value).length = (value.length + 2) / 3 * 4 := by
  have hchars : ∀ value : Bytes, (Base64.encode value).length = (value.length + 2) / 3 * 4 := by
    intro value
    fun_induction Base64.encode value with
    | case1 => rfl
    | case2 x => simp
    | case3 x y => simp
    | case4 x y z rest ih =>
      simp only [List.length_cons, ih]
      omega
  rw [b64encode, String.length_ofList, hchars]

/-- `value.hex()`. -/
def hex_text (value : Bytes) : String :=
  String.ofList (value.flatMap fun b => [(b.toNat / 16 % 16).digitChar, (b.toNat % 16).digitChar])

/-- `bytes.fromhex(text)`. -/
def bytes_fromhex (text : String) : Except Exn Bytes := do
  let values ← GitHubSnapshot.fromhex text
  return values.map UInt8.ofNat

/-- `re.fullmatch("[0-9a-f]{n}", text)`. -/
def is_hex (n : ℕ) (text : String) : Bool :=
  text.toList.length == n && text.toList.all GitHubSnapshot.is_oid_digit

theorem is_hex_hex_text (value : Bytes) : is_hex (2 * value.length) (hex_text value) = true := by
  rw [is_hex, hex_text, String.toList_ofList, Bool.and_eq_true, beq_iff_eq]
  constructor
  · simp [Nat.mul_comm]
  · simp only [List.all_flatMap, List.all_eq_true, List.mem_cons, List.not_mem_nil, or_false]
    rintro b - c (rfl | rfl) <;> exact GitHubSnapshot.is_oid_digit_nibble _

/-- `re.fullmatch("[A-Za-z0-9][A-Za-z0-9._:-]{0,127}", text)`. -/
def is_identifier (text : String) : Bool :=
  match text.toList with
  | [] => false
  | c :: rest => c.isAlphanum && decide (rest.length ≤ 127) &&
      rest.all fun c => c.isAlphanum || "._:-".toList.contains c

/-- Sixty-four hexadecimal digits are an identifier. -/
theorem is_identifier_hex {text : String} (h : is_hex 64 text = true) : is_identifier text = true := by
  have hdigit : ∀ c : Char, GitHubSnapshot.is_oid_digit c = true → c.isAlphanum = true := by
    intro c hc
    simp only [GitHubSnapshot.is_oid_digit, Char.isAlphanum, alpha_eq, lower_eq, upper_eq,
      Bool.or_eq_true, Bool.and_eq_true, decide_eq_true_eq] at hc ⊢
    rcases hc with hc | hc
    · exact .inr hc
    · exact .inl (.inr ⟨hc.1, UInt32.le_trans hc.2 (show 'f'.val ≤ 'z'.val by decide)⟩)
  rw [is_hex, Bool.and_eq_true, beq_iff_eq] at h
  rw [is_identifier]
  rcases htext : text.toList with _ | ⟨c, rest⟩
  · simp [htext] at h
  · rw [htext, List.length_cons, List.all_cons, Bool.and_eq_true] at h
    simp only [Bool.and_eq_true, decide_eq_true_eq, List.all_eq_true, Bool.or_eq_true]
    refine ⟨⟨hdigit c h.2.1, by omega⟩, fun d hd => .inl (hdigit d ?_)⟩
    exact List.all_eq_true.mp h.2.2 d hd

/-- The value of a printed digit. -/
theorem hex_value_nibble {n : ℕ} (h : n < 16) : GitHubSnapshot.hex_value n.digitChar = some n := by
  revert n
  decide

theorem not_space_nibble {n : ℕ} (h : n < 16) :
    GitHubSnapshot.is_ascii_space n.digitChar = false := by
  revert n
  decide

theorem bytes_fromhex_hex (value : Bytes) : bytes_fromhex (hex_text value) = .ok value := by
  have hchars : ∀ value : Bytes, GitHubSnapshot.fromhex_chars (value.flatMap fun b =>
      [(b.toNat / 16 % 16).digitChar, (b.toNat % 16).digitChar]) = .ok (value.map UInt8.toNat) := by
    intro value
    induction value with
    | nil => rfl
    | cons b rest ih =>
      have hhigh : b.toNat / 16 % 16 < 16 := Nat.mod_lt _ (by decide)
      have hlow : b.toNat % 16 < 16 := Nat.mod_lt _ (by decide)
      have hb := b.toNat_lt
      have hsum : 16 * (b.toNat / 16 % 16) + b.toNat % 16 = b.toNat := by omega
      rw [List.flatMap_cons, List.cons_append, List.cons_append, List.nil_append,
        GitHubSnapshot.fromhex_chars, not_space_nibble hhigh, hex_value_nibble hhigh, hex_value_nibble hlow, ih]
      simp only [Bool.false_eq_true, if_false, ok_bind, hsum]
      rfl
  rw [bytes_fromhex, GitHubSnapshot.fromhex, hex_text, String.toList_ofList, hchars, ok_bind, List.map_map]
  have hid : UInt8.ofNat ∘ UInt8.toNat = id := funext fun b => UInt8.ofNat_toNat
  rw [hid, List.map_id]
  rfl

end AppContracts
