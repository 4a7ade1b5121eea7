/-
The invocation of a signed verifier: `signed_verifier_protocol.py`.

An invocation wraps the bytes of one request, the caller's nonce and the digest of
the profile into one canonical record.
-/
import AppContracts.VerifierResponse
import AppContracts.WireSize

set_option autoImplicit false

namespace AppContracts.SignedVerifier

open GitHubSnapshot (is_digest)
open VerifierProcess

/-- `SIGNED_VERIFIER_INVOCATION_SCHEMA`. -/
def SIGNED_VERIFIER_INVOCATION_SCHEMA : String := "signed-verifier-invocation/v1"

/-- `((MAX_VERIFIER_REQUEST_BYTES + 2) // 3) * 4`. -/
def MAX_REQUEST_BASE64 : ℕ := (MAX_VERIFIER_REQUEST_BYTES + 2) / 3 * 4

/-- `MAX_SIGNED_VERIFIER_INVOCATION_BYTES`. -/
def MAX_SIGNED_VERIFIER_INVOCATION_BYTES : ℕ := MAX_REQUEST_BASE64 + 1024

/-- `raise ValueError`. -/
def value_error : Exn := ⟨.ValueError, ""⟩

/-- `SignedVerifierProtocolError("signed verifier protocol: invocation is invalid")`. -/
def invocation_error : Exn :=
  ⟨.SignedVerifierProtocolError, "signed verifier protocol: invocation is invalid"⟩

/-! ## Invocations -/

/-- `parse_verifier_request(request_bytes)`, for bytes that are its
serialization. -/
def canonical_request (request_bytes : Bytes) : Except Exn VerifierProcessRequest := do
  let request ← parse_verifier_request request_bytes
  let again ← serialize_verifier_request request
  raise_if (again ≠ request_bytes) value_error
  return request

/-- Canonical requests are the serialized ones. -/
theorem canonical_request_ok {data : Bytes} {request : VerifierProcessRequest} :
    canonical_request data = .ok request ↔ serialize_verifier_request request = .ok data := by
  simp only [canonical_request, bind_ok, exists_unit, raise_if_ok, not_not, ne_eq, pure, Except.pure,
    Except.ok.injEq]
  constructor
  · rintro ⟨_, -, _, hserialize, rfl, rfl⟩
    exact hserialize
  · intro h
    exact ⟨request, parse_serialize h, data, h, rfl, rfl⟩

/-- The fields of a `SignedVerifierInvocation`. -/
structure InvocationFields : Type where
  request_bytes : Bytes
  invocation_nonce : String
  verifier_profile_digest : String
  deriving DecidableEq

/-- `SignedVerifierInvocation.__post_init__()`. -/
def InvocationFields.post_init (i : InvocationFields) : Except Exn Unit :=
  reraise .SignedVerifierProtocolError invocation_error do
  raise_if (i.request_bytes = [] ∨ MAX_VERIFIER_REQUEST_BYTES < i.request_bytes.length ∨
    is_hex 64 i.invocation_nonce = false ∨ is_digest i.verifier_profile_digest = false) value_error
  let _ ← canonical_request i.request_bytes

theorem InvocationFields.post_init_ok {i : InvocationFields} :
    i.post_init = .ok () ↔ i.request_bytes ≠ [] ∧
      i.request_bytes.length ≤ MAX_VERIFIER_REQUEST_BYTES ∧ is_hex 64 i.invocation_nonce = true ∧
      is_digest i.verifier_profile_digest = true ∧
      ∃ request, serialize_verifier_request request = .ok i.request_bytes := by
  simp only [post_init, reraise_ok, bind_ok, exists_unit, raise_if_ok, not_or, not_lt, Bool.not_eq_false,
    canonical_request_ok, pure, Except.pure, and_true, and_assoc, ne_eq]

/-- `SignedVerifierInvocation`. -/
structure SignedVerifierInvocation : Type extends InvocationFields where
  checked : toInvocationFields.post_init = .ok ()

/-- `SignedVerifierInvocation(request_bytes=.., ..)`. -/
def SignedVerifierInvocation.make (fields : InvocationFields) : Except Exn SignedVerifierInvocation :=
  match h : fields.post_init with
  | .ok () => .ok ⟨fields, h⟩
  | .error e => .error e

theorem SignedVerifierInvocation.make_ok {fields : InvocationFields} {i : SignedVerifierInvocation} :
    make fields = .ok i ↔ fields = i.toInvocationFields := by
  unfold make
  constructor
  · intro h
    split at h
    · rw [← Except.ok.inj h]
    · cases h
  · rintro rfl
    split
    · rfl
    · rename_i e he
      rw [i.checked] at he
      cases he

/-! ## The wire form -/

/-- The hooks that raise on a repeated key. -/
def unique_hooks : Json.Hooks :=
  ⟨fun pairs => if (pairs.map Prod.fst).Nodup then some pairs else none, true⟩

/-- A text of an invocation. -/
def wire_str : Codec Exn String := Codec.text value_error value_error

/-- The dict of an invocation. -/
def InvocationFields.json (i : InvocationFields) : Json :=
  .record [("schema", wire_str.json SIGNED_VERIFIER_INVOCATION_SCHEMA),
    ("request_base64", wire_str.json (b64encode i.request_bytes)),
    ("invocation_nonce", wire_str.json i.invocation_nonce),
    ("verifier_profile_digest", wire_str.json i.verifier_profile_digest)]

/-- `serialize_signed_verifier_invocation(request_bytes, ..)`. -/
def serialize_signed_verifier_invocation (request_bytes : Bytes)
    (invocation_nonce verifier_profile_digest : String) : Except Exn Bytes :=
  reraise .SignedVerifierProtocolError invocation_error do
  let invocation ← SignedVerifierInvocation.make ⟨request_bytes, invocation_nonce, verifier_profile_digest⟩
  let encoded ← or_raise value_error (canonical_encoding invocation.json)
  raise_if (MAX_SIGNED_VERIFIER_INVOCATION_BYTES < encoded.length) value_error
  return encoded

/-- `parse_signed_verifier_invocation(raw)`. -/
def parse_signed_verifier_invocation (raw : Bytes) : Except Exn SignedVerifierInvocation :=
  reraise .SignedVerifierProtocolError invocation_error do
  raise_if (raw = [] ∨ MAX_SIGNED_VERIFIER_INVOCATION_BYTES < raw.length) value_error
  let value ← or_raise value_error ((decode_utf8 raw).bind (Json.loads_with unique_hooks))
  raise_if (value.has_keys ["schema", "request_base64", "invocation_nonce", "verifier_profile_digest"] =
    false) value_error
  let schema ← wire_str.field value_error value "schema"
  raise_if (schema ≠ SIGNED_VERIFIER_INVOCATION_SCHEMA) value_error
  let request_base64 ← wire_str.field value_error value "request_base64"
  raise_if (MAX_REQUEST_BASE64 < request_base64.length) value_error
  let invocation_nonce ← wire_str.field value_error value "invocation_nonce"
  let verifier_profile_digest ← wire_str.field value_error value "verifier_profile_digest"
  let request_bytes ← or_raise value_error (b64decode request_base64)
  raise_if (b64encode request_bytes ≠ request_base64) value_error
  let canonical ← or_raise value_error (canonical_encoding value)
  raise_if (canonical ≠ raw) value_error
  SignedVerifierInvocation.make ⟨request_bytes, invocation_nonce, verifier_profile_digest⟩

/-! ## Round trip -/

theorem InvocationFields.wf_json (i : InvocationFields) : i.json.wf :=
  Json.wf_record (by simp) (by
    simp only [List.forall_mem_cons, List.not_mem_nil, false_imp_iff, implies_true, and_true]
    exact ⟨trivial, trivial, trivial, trivial⟩)

theorem InvocationFields.plain_json (i : InvocationFields) : i.json.plain :=
  Json.plain_record (by
    simp only [List.forall_mem_cons, List.not_mem_nil, false_imp_iff, implies_true, and_true]
    exact ⟨trivial, trivial, trivial, trivial⟩)

theorem InvocationFields.encodable_json (i : InvocationFields) : i.json.encodable false = true :=
  Json.encodable_record (by
    simp only [List.forall_mem_cons, List.not_mem_nil, false_imp_iff, implies_true, and_true]
    exact ⟨rfl, rfl, rfl, rfl⟩)

/-- An invocation is never too long. -/
theorem SignedVerifierInvocation.width (i : SignedVerifierInvocation) :
    json_width i.json ≤ MAX_SIGNED_VERIFIER_INVOCATION_BYTES := by
  obtain ⟨-, hlength, hnonce, hdigest, -⟩ := InvocationFields.post_init_ok.mp i.checked
  have hrecord : json_width i.json ≤ _ := json_width_record (by
    simp only [List.map_cons, List.map_nil]
    decide)
  have hschema : json_width (wire_str.json SIGNED_VERIFIER_INVOCATION_SCHEMA) = 31 :=
    json_width_text (by decide)
  have hrequest := json_width_text (bare_b64encode i.request_bytes)
  have hnonce' := json_width_text (bare_hex hnonce).1
  have hdigest' := json_width_text (bare_digest hdigest).1
  rw [length_b64encode] at hrequest
  rw [(bare_hex hnonce).2] at hnonce'
  rw [(bare_digest hdigest).2] at hdigest'
  have hkeys : "schema".length = 6 ∧ "request_base64".length = 14 ∧ "invocation_nonce".length = 16 ∧
      "verifier_profile_digest".length = 23 := by decide
  simp only [List.map_cons, List.map_nil, List.sum_cons, List.sum_nil, hkeys, hschema] at hrecord
  have hvalues : json_width (wire_str.json (b64encode i.request_bytes)) =
        (i.request_bytes.length + 2) / 3 * 4 + 2 ∧ json_width (wire_str.json i.invocation_nonce) = 66 ∧
      json_width (wire_str.json i.verifier_profile_digest) = 73 := ⟨hrequest, hnonce', hdigest'⟩
  rw [hvalues.1, hvalues.2.1, hvalues.2.2] at hrecord
  -- base64 takes four characters for three bytes, rounded up
  have hgroups : (i.request_bytes.length + 2) / 3 ≤ (MAX_VERIFIER_REQUEST_BYTES + 2) / 3 :=
    Nat.div_le_div_right (by omega)
  unfold MAX_SIGNED_VERIFIER_INVOCATION_BYTES MAX_REQUEST_BASE64
  omega

/-- Every valid invocation has a wire form, which names its fields. -/
theorem serialize_invocation {i : InvocationFields} (h : i.post_init = .ok ()) :
    ∃ raw, serialize_signed_verifier_invocation i.request_bytes i.invocation_nonce
        i.verifier_profile_digest = .ok raw ∧ canonical_encoding i.json = some raw ∧
      raw.length ≤ MAX_SIGNED_VERIFIER_INVOCATION_BYTES := by
  have hencoded : canonical_encoding i.json = some (encode_utf8 (String.ofList (i.json.norm.print false))) :=
    canonical_encoding_some.mpr ⟨i.encodable_json, rfl⟩
  have hwidth := (SignedVerifierInvocation.mk i h).width
  rw [← length_encoding hencoded] at hwidth
  refine ⟨_, ?_, hencoded, hwidth⟩
  simp only [serialize_signed_verifier_invocation, reraise_ok, bind_ok, SignedVerifierInvocation.make_ok,
    or_raise_ok, exists_unit, raise_if_ok, not_lt, pure, Except.pure, Except.ok.injEq]
  exact ⟨⟨i, h⟩, rfl, _, hencoded, hwidth, rfl⟩

/-- **An invocation is parsed back.** -/
theorem parse_invocation {i : InvocationFields} (h : i.post_init = .ok ()) {raw : Bytes}
    (hencoded : canonical_encoding i.json = some raw)
    (hlength : raw.length ≤ MAX_SIGNED_VERIFIER_INVOCATION_BYTES) :
    parse_signed_verifier_invocation raw = .ok ⟨i, h⟩ := by
  obtain ⟨-, hrequest, -, -, -⟩ := InvocationFields.post_init_ok.mp h
  obtain ⟨hencodable, rfl⟩ := canonical_encoding_some.mp hencoded
  have hread : (decode_utf8 (encode_utf8 (String.ofList (i.json.norm.print false)))).bind
      (Json.loads_with unique_hooks) = some i.json.norm := by
    rw [decode_utf8_some.mpr rfl, Option.bind_some]
    exact Json.loads_with_print false (fun _ hpairs => if_pos hpairs) i.wf_json i.plain_json hencodable
  obtain ⟨hkeys, hitems⟩ := Json.read_of_norm i.wf_json
  simp only [List.forall_mem_cons, List.not_mem_nil, false_imp_iff, implies_true, and_true] at hitems
  have hne := encoding_ne_nil hencoded
  have hbase64 : (b64encode i.request_bytes).length ≤ MAX_REQUEST_BASE64 := by
    have hgroups : (i.request_bytes.length + 2) / 3 ≤ (MAX_VERIFIER_REQUEST_BYTES + 2) / 3 :=
      Nat.div_le_div_right (by omega)
    rw [length_b64encode, MAX_REQUEST_BASE64]
    omega
  simp only [parse_signed_verifier_invocation, reraise_ok, bind_ok, exists_unit, raise_if_ok, not_or,
    not_lt, not_not, ne_eq, or_raise_ok, Codec.field_ok, SignedVerifierInvocation.make_ok,
    Bool.not_eq_false]
  refine ⟨⟨hne, hlength⟩, _, hread, hkeys, _, hitems.1, rfl, _, hitems.2.1, hbase64, _, hitems.2.2.1, _,
    hitems.2.2.2, _, b64decode_encode _, rfl, _, ?_, rfl, rfl⟩
  -- what was read is sorted already, so it is rendered as it was sent
  rw [canonical_encoding_norm]
  exact hencoded

end AppContracts.SignedVerifier
