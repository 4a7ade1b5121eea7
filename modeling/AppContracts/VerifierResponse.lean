/-
A verifier's answer: `validate_verifier_result` of `executor.py`, and the response
records of `verifier_process.py`.

A result has to repeat the digests of the input it was made for. The response
around it names the digest of the request, and is written and read as canonical
JSON.
-/
import AppContracts.VerifierProcess

set_option autoImplicit false

namespace AppContracts.VerifierProcess

open GitHubSnapshot (is_digest is_digest_sha256_bytes is_oid_digit)

/-! ## Results -/

/-- `re.fullmatch("docker-image:sha256:[0-9a-f]{64}/code:sha256:[0-9a-f]{64}", text)`. -/
def is_image_label (text : String) : Bool :=
  let image := text.toList.drop "docker-image:".length
  let code := image.drop 71
  "docker-image:".toList.isPrefixOf text.toList && is_digest (String.ofList (image.take 71)) &&
    "/code:".toList.isPrefixOf code && is_digest (String.ofList (code.drop "/code:".length))

/-- `_is_safe_label(value)`. -/
def _is_safe_label (value : String) : Bool := is_identifier value || is_image_label value

/-- `re.fullmatch("[a-z0-9][a-z0-9._-]{0,63}", code)`. -/
def is_blocker_code (code : String) : Bool :=
  let lower (c : Char) : Bool := c.isLower || c.isDigit
  match code.toList with
  | [] => false
  | c :: rest => lower c && decide (rest.length ≤ 63) && rest.all fun c => lower c || "._-".toList.contains c

/-- `ExecutionError("execution verifier: " + message)`. -/
def execution_error (message : String) : Exn := ⟨.ExecutionError, "execution verifier: " ++ message⟩

/-- `validate_verifier_result(value, expected)`. -/
def validate_verifier_result (value : VerifierResult) (expected : VerifierInput) :
    Except Exn VerifierResult := do
  raise_if (_is_safe_label value.process_id = false ∨ _is_safe_label value.base_commit = false ∨
    value.snapshot_tree_digest.any (fun digest => !is_digest digest) ∨
    value.replay_result_digest.any (fun digest => !is_digest digest) ∨
    _is_safe_label value.verifier_id = false ∨
    MAX_VERIFIER_BLOCKER_CODES < value.blocker_codes.length ∨
    (∃ code ∈ value.blocker_codes, is_blocker_code code = false) ∨
    value.evidence_origin ≠ "local_test" ∨ is_digest value.patch_digest = false ∨
    is_digest value.evidence_digest = false ∨ is_digest value.verification_digest = false ∨
    is_digest value.verified_contents_digest = false) (execution_error "result shape is invalid")
  raise_if (value.process_id ≠ expected.process_id ∨ value.base_commit ≠ expected.base_commit ∨
    value.snapshot_tree_digest ≠ expected.snapshot_tree_digest ∨
    value.replay_result_digest ≠ expected.replay_result_digest ∨
    value.patch_digest ≠ expected.patch_digest ∨ value.evidence_digest ≠ expected.evidence_digest ∨
    value.verification_digest ≠ expected.verification_digest ∨
    value.verified_contents_digest ≠ expected.verified_contents_digest)
    (execution_error "result binding mismatch")
  return { value with evidence_origin := "local_test" }

/-- A result of the right shape. -/
structure VerifierResult.Shaped (r : VerifierResult) : Prop where
  process_id : _is_safe_label r.process_id = true
  base_commit : _is_safe_label r.base_commit = true
  snapshot_tree_digest : ∀ digest ∈ r.snapshot_tree_digest, is_digest digest = true
  replay_result_digest : ∀ digest ∈ r.replay_result_digest, is_digest digest = true
  verifier_id : _is_safe_label r.verifier_id = true
  blocker_count : r.blocker_codes.length ≤ MAX_VERIFIER_BLOCKER_CODES
  blocker_codes : ∀ code ∈ r.blocker_codes, is_blocker_code code = true
  evidence_origin : r.evidence_origin = "local_test"
  patch_digest : is_digest r.patch_digest = true
  evidence_digest : is_digest r.evidence_digest = true
  verification_digest : is_digest r.verification_digest = true
  verified_contents_digest : is_digest r.verified_contents_digest = true

/-- A result with the digests of an input. -/
structure VerifierResult.For (r : VerifierResult) (x : VerifierInput) : Prop where
  process_id : r.process_id = x.process_id
  base_commit : r.base_commit = x.base_commit
  snapshot_tree_digest : r.snapshot_tree_digest = x.snapshot_tree_digest
  replay_result_digest : r.replay_result_digest = x.replay_result_digest
  patch_digest : r.patch_digest = x.patch_digest
  evidence_digest : r.evidence_digest = x.evidence_digest
  verification_digest : r.verification_digest = x.verification_digest
  verified_contents_digest : r.verified_contents_digest = x.verified_contents_digest

/-- **What a valid result is**; it is returned as it was. -/
theorem validate_result_ok {value result : VerifierResult} {expected : VerifierInput} :
    validate_verifier_result value expected = .ok result ↔
      value.Shaped ∧ value.For expected ∧ result = value := by
  simp only [validate_verifier_result, bind_ok, exists_unit, raise_if_ok, not_or, Bool.not_eq_false,
    Bool.not_eq_true, Option.any_eq_false, Bool.not_eq_eq_eq_not, Bool.not_false, not_exists, not_and,
    not_lt, not_not, ne_eq, pure, Except.pure, Except.ok.injEq]
  constructor
  · rintro ⟨⟨h1, h2, h3, h4, h5, h6, h7, h8, h9, h10, h11, h12⟩, ⟨b1, b2, b3, b4, b5, b6, b7, b8⟩, rfl⟩
    exact ⟨⟨h1, h2, h3, h4, h5, h6, h7, h8, h9, h10, h11, h12⟩, ⟨b1, b2, b3, b4, b5, b6, b7, b8⟩,
      by rw [← h8]⟩
  · rintro ⟨h, b, rfl⟩
    exact ⟨⟨h.process_id, h.base_commit, h.snapshot_tree_digest, h.replay_result_digest, h.verifier_id,
      h.blocker_count, h.blocker_codes, h.evidence_origin, h.patch_digest, h.evidence_digest,
      h.verification_digest, h.verified_contents_digest⟩, ⟨b.process_id, b.base_commit,
      b.snapshot_tree_digest, b.replay_result_digest, b.patch_digest, b.evidence_digest,
      b.verification_digest, b.verified_contents_digest⟩, by rw [← h.evidence_origin]⟩

/-- The verifier's name can be replaced by another label. -/
theorem VerifierResult.Shaped.renamed {r : VerifierResult} (h : r.Shaped) {label : String}
    (hlabel : _is_safe_label label = true) : VerifierResult.Shaped { r with verifier_id := label } :=
  { h with verifier_id := hlabel }

theorem VerifierResult.For.renamed {r : VerifierResult} {x : VerifierInput} (h : r.For x)
    (label : String) : VerifierResult.For { r with verifier_id := label } x :=
  ⟨h.process_id, h.base_commit, h.snapshot_tree_digest, h.replay_result_digest, h.patch_digest,
    h.evidence_digest, h.verification_digest, h.verified_contents_digest⟩

/-! ## Responses -/

/-- The fields of a `VerifierProcessResponse`. -/
structure ResponseFields : Type where
  schema_version : ℤ
  request_digest : String
  verifier_result : VerifierResult
  deriving DecidableEq

/-- `VerifierProcessResponse.__post_init__()`. -/
def ResponseFields.post_init (r : ResponseFields) : Except Exn Unit := do
  raise_if (r.schema_version ≠ VERIFIER_PROCESS_RESPONSE_SCHEMA_VERSION)
    (process_error "response version is invalid")
  raise_if (is_digest r.request_digest = false) (process_error "response fields are invalid")

/-- `VerifierProcessResponse`. -/
structure VerifierProcessResponse : Type extends ResponseFields where
  checked : toResponseFields.post_init = .ok ()

theorem VerifierProcessResponse.version_eq (r : VerifierProcessResponse) :
    r.schema_version = VERIFIER_PROCESS_RESPONSE_SCHEMA_VERSION := by
  have h := r.checked
  simp only [ResponseFields.post_init, bind_ok, exists_unit, raise_if_ok, not_not, ne_eq] at h
  exact h.1

theorem VerifierProcessResponse.digest_ok (r : VerifierProcessResponse) :
    is_digest r.request_digest = true := by
  have h := r.checked
  simp only [ResponseFields.post_init, bind_ok, exists_unit, raise_if_ok, Bool.not_eq_false] at h
  exact h.2

/-- `VerifierProcessResponse(schema_version, request_digest, verifier_result)`. -/
def VerifierProcessResponse.make (schema_version : ℤ) (request_digest : String)
    (verifier_result : VerifierResult) : Except Exn VerifierProcessResponse :=
  match h : ResponseFields.post_init ⟨schema_version, request_digest, verifier_result⟩ with
  | .ok () => .ok ⟨⟨schema_version, request_digest, verifier_result⟩, h⟩
  | .error e => .error e

theorem VerifierProcessResponse.make_ok {version : ℤ} {digest : String} {result : VerifierResult}
    {r : VerifierProcessResponse} : make version digest result = .ok r ↔
      version = r.schema_version ∧ digest = r.request_digest ∧ result = r.verifier_result := by
  unfold make
  constructor
  · intro h
    split at h
    · rw [← Except.ok.inj h]
      exact ⟨rfl, rfl, rfl⟩
    · cases h
  · rintro ⟨rfl, rfl, rfl⟩
    split
    · rfl
    · rename_i e he
      rw [r.checked] at he
      cases he

/-- `VerifierProcessResponse.from_verifier_result(value, request_digest)`. -/
def VerifierProcessResponse.from_verifier_result (value : VerifierResult) (request_digest : String) :
    Except Exn VerifierProcessResponse := do
  raise_if (is_digest request_digest = false) (process_error "response fields are invalid")
  make VERIFIER_PROCESS_RESPONSE_SCHEMA_VERSION request_digest value

/-! ### The wire form of a response -/

/-- `VerifierProcessError("verifier process: response fields are invalid")`. -/
def response_error : Exn := process_error "response fields are invalid"

/-- A string field of a result. A lone surrogate gets no further than the check
of the label or the digest it stands in. -/
def result_str : Codec Exn String := Codec.text response_error response_error

/-- A string field of a result that may be `None`. -/
def result_optional_str : Codec Exn (Option String) := result_str.nullable fun _ h => nomatch h

/-- `blocker_codes`. -/
def result_codes : Codec Exn (List String) := Codec.list response_error result_str

/-- `asdict(result)` on the wire. -/
def VerifierResult.fields (r : VerifierResult) : List (String × Json) :=
  [("process_id", result_str.json r.process_id), ("base_commit", result_str.json r.base_commit),
    ("snapshot_tree_digest", result_optional_str.json r.snapshot_tree_digest),
    ("replay_result_digest", result_optional_str.json r.replay_result_digest),
    ("verifier_id", result_str.json r.verifier_id), ("patch_digest", result_str.json r.patch_digest),
    ("evidence_digest", result_str.json r.evidence_digest),
    ("verification_digest", result_str.json r.verification_digest),
    ("verified_contents_digest", result_str.json r.verified_contents_digest),
    ("verdict", result_str.json r.verdict.value), ("blocker_codes", result_codes.json r.blocker_codes),
    ("evidence_origin", result_str.json r.evidence_origin)]

/-- `_VERIFIER_RESULT_FIELDS`. -/
def VERIFIER_RESULT_FIELDS : List String :=
  ["process_id", "base_commit", "snapshot_tree_digest", "replay_result_digest", "verifier_id",
    "patch_digest", "evidence_digest", "verification_digest", "verified_contents_digest", "verdict",
    "blocker_codes", "evidence_origin"]

/-- The JSON of a result. -/
def VerifierResult.json (r : VerifierResult) : Json := .record r.fields

/-- `asdict(response)` on the wire, and the payload of the container. -/
def ResponseFields.json (r : ResponseFields) : Json :=
  .record [("schema_version", .int r.schema_version), ("request_digest", result_str.json r.request_digest),
    ("verifier_result", r.verifier_result.json)]

/-- `_canonical_response_bytes(response)`, of the service and of the container. -/
def _canonical_response_bytes (response : VerifierProcessResponse) : Option Bytes :=
  canonical_encoding response.json

/-- The result of a raw dict: its shape, and the typed record. -/
def read_result (raw : Json) : Except Exn VerifierResult := do
  let evidence_origin ← result_str.field response_error raw "evidence_origin"
  raise_if (evidence_origin ≠ "local_test") response_error
  let process_id ← result_str.field response_error raw "process_id"
  let base_commit ← result_str.field response_error raw "base_commit"
  let verifier_id ← result_str.field response_error raw "verifier_id"
  let patch_digest ← result_str.field response_error raw "patch_digest"
  let evidence_digest ← result_str.field response_error raw "evidence_digest"
  let verification_digest ← result_str.field response_error raw "verification_digest"
  let verified_contents_digest ← result_str.field response_error raw "verified_contents_digest"
  let snapshot_tree_digest ← result_optional_str.field response_error raw "snapshot_tree_digest"
  let replay_result_digest ← result_optional_str.field response_error raw "replay_result_digest"
  let verdict ← result_str.field response_error raw "verdict"
  let verdict ← or_raise response_error (VerifierVerdict.of_value verdict)
  let blocker_codes ← result_codes.field response_error raw "blocker_codes"
  raise_if (MAX_VERIFIER_BLOCKER_CODES < blocker_codes.length ∨
    ∃ code ∈ blocker_codes, is_blocker_code code = false) response_error
  return ⟨process_id, base_commit, snapshot_tree_digest, replay_result_digest, verifier_id, patch_digest,
    evidence_digest, verification_digest, verified_contents_digest, verdict, blocker_codes,
    evidence_origin⟩

/-- The JSON of a response, as `parse_verifier_response` reads it. -/
def read_response (payload : Json) : Except Exn VerifierProcessResponse := do
  raise_if (payload.is_dict = false) (process_error "response payload is invalid")
  let version ← (version_int "response").field (process_error "response version is invalid") payload
    "schema_version"
  raise_if (version ≠ VERIFIER_PROCESS_RESPONSE_SCHEMA_VERSION)
    (process_error "response version is invalid")
  raise_if (payload.has_keys ["schema_version", "request_digest", "verifier_result"] = false)
    response_error
  let request_digest ← result_str.field response_error payload "request_digest"
  raise_if (is_digest request_digest = false) response_error
  let raw_result ← or_raise response_error (payload.get? "verifier_result")
  raise_if (raw_result.has_keys VERIFIER_RESULT_FIELDS = false) response_error
  let verifier_result ← read_result raw_result
  VerifierProcessResponse.make version request_digest verifier_result

/-- `parse_verifier_response(data)`. -/
def parse_verifier_response (data : Bytes) : Except Exn VerifierProcessResponse := do
  let text ← or_raise (process_error "response encoding is invalid") (decode_utf8 data)
  let payload ← or_raise (process_error "response payload is invalid")
    (Json.loads_with Json.strict_hooks text)
  read_response payload

/-- `bind_verifier_response(request, response)`. -/
def bind_verifier_response (request : VerifierProcessRequest) (response : VerifierProcessResponse) :
    Except Exn VerifierResult := do
  let digest ← digest_verifier_request request
  raise_if (response.request_digest ≠ digest) (process_error "request digest mismatch")
  validate_verifier_result response.verifier_result request.verifier_input

/-! ### What the reader reads -/

/-- **The reader reads the fields of a result**, and nothing else. -/
theorem read_result_ok {raw : Json} {r : VerifierResult} :
    read_result raw = .ok r ↔ r.evidence_origin = "local_test" ∧
      r.blocker_codes.length ≤ MAX_VERIFIER_BLOCKER_CODES ∧
      (∀ code ∈ r.blocker_codes, is_blocker_code code = true) ∧
      ∀ f ∈ r.fields, raw.get? f.1 = some f.2 := by
  simp only [VerifierResult.fields, List.forall_mem_cons, List.not_mem_nil, false_imp_iff, implies_true,
    and_true, read_result, bind_ok, Codec.field_ok, or_raise_ok, VerifierVerdict.of_value_some, exists_unit,
    raise_if_ok, not_or, not_exists, not_and, Bool.not_eq_false, not_lt, not_not, ne_eq, pure, Except.pure,
    Except.ok.injEq]
  constructor
  · rintro ⟨_, h12, horigin, _, h1, _, h2, _, h5, _, h6, _, h7, _, h8, _, h9, _, h3, _, h4, _, h10, _, rfl,
      _, h11, ⟨hcount, hcodes⟩, rfl⟩
    exact ⟨horigin, hcount, hcodes, h1, h2, h3, h4, h5, h6, h7, h8, h9, h10, h11, h12⟩
  · rintro ⟨horigin, hcount, hcodes, h1, h2, h3, h4, h5, h6, h7, h8, h9, h10, h11, h12⟩
    exact ⟨_, h12, horigin, _, h1, _, h2, _, h5, _, h6, _, h7, _, h8, _, h9, _, h3, _, h4, _, h10, _, rfl,
      _, h11, ⟨hcount, hcodes⟩, rfl⟩

/-- What a dict that reads as a response has. -/
theorem read_response_ok {payload : Json} {r : VerifierProcessResponse} :
    read_response payload = .ok r ↔
      payload.has_keys ["schema_version", "request_digest", "verifier_result"] = true ∧
      payload.get? "schema_version" = some (.int r.schema_version) ∧
      payload.get? "request_digest" = some (result_str.json r.request_digest) ∧
      ∃ raw, payload.get? "verifier_result" = some raw ∧ raw.has_keys VERIFIER_RESULT_FIELDS = true ∧
        read_result raw = .ok r.verifier_result := by
  simp only [read_response, bind_ok, exists_unit, or_raise_ok, raise_if_ok, not_not, ne_eq,
    Codec.field_ok, Bool.not_eq_false, VerifierProcessResponse.make_ok]
  constructor
  · rintro ⟨-, _, hget, -, hkeys, _, hdigest, -, raw, hraw, hresult, _, hread, rfl, rfl, rfl⟩
    exact ⟨hkeys, hget, hdigest, raw, hraw, hresult, hread⟩
  · rintro ⟨hkeys, hget, hdigest, raw, hraw, hresult, hread⟩
    obtain ⟨fields, rfl, -⟩ := Json.has_keys_iff.mp hkeys
    exact ⟨rfl, _, hget, r.version_eq, hkeys, _, hdigest, r.digest_ok, raw, hraw, hresult, _, hread, rfl, rfl,
      rfl⟩

theorem parse_response_ok {data : Bytes} {r : VerifierProcessResponse} :
    parse_verifier_response data = .ok r ↔
      ∃ payload, strict_json data = some payload ∧ read_response payload = .ok r := by
  simp only [parse_verifier_response, bind_ok, or_raise_ok, strict_json, Option.bind_eq_some_iff]
  tauto

/-! ### Round trips -/

section Fields

variable (r : VerifierResult)

theorem VerifierResult.fields_keys : r.fields.map Prod.fst = VERIFIER_RESULT_FIELDS := rfl

/-- What holds of the JSON of every codec holds of every field. -/
theorem VerifierResult.forall_fields {P : Json → Prop} (hstr : ∀ s, P (result_str.json s))
    (hoptional : ∀ s, P (result_optional_str.json s)) (hcodes : P (result_codes.json r.blocker_codes)) :
    ∀ f ∈ r.fields, P f.2 := by
  simp only [VerifierResult.fields, List.forall_mem_cons, List.not_mem_nil, false_imp_iff, implies_true,
    and_true]
  exact ⟨hstr _, hstr _, hoptional _, hoptional _, hstr _, hstr _, hstr _, hstr _, hstr _, hstr _, hcodes,
    hstr _⟩

theorem VerifierResult.wf_json : r.json.wf :=
  Json.wf_record (by rw [r.fields_keys]; decide)
    (r.forall_fields result_str.wf_json result_optional_str.wf_json (result_codes.wf_json _))

theorem VerifierResult.plain_json : r.json.plain :=
  Json.plain_record
    (r.forall_fields result_str.plain_json result_optional_str.plain_json (result_codes.plain_json _))

theorem VerifierResult.encodable_json : r.json.encodable false = true := by
  refine Json.encodable_record (r.forall_fields (P := fun j => j.encodable false = true) (fun _ => rfl)
    (fun s => ?_) (encodable_arr fun _ _ => rfl))
  cases s <;> rfl

/-- A dict with exactly the fields of a result reads as the result. -/
theorem VerifierResult.read_record (horigin : r.evidence_origin = "local_test")
    (hcount : r.blocker_codes.length ≤ MAX_VERIFIER_BLOCKER_CODES)
    (hcodes : ∀ code ∈ r.blocker_codes, is_blocker_code code = true) :
    r.json.norm.has_keys VERIFIER_RESULT_FIELDS = true ∧ read_result r.json.norm = .ok r := by
  obtain ⟨hkeys, hitems⟩ := Json.read_of_norm r.wf_json
  refine ⟨hkeys, read_result_ok.mpr ⟨horigin, hcount, hcodes, fun f hf => ?_⟩⟩
  rw [VerifierResult.json, hitems f hf]
  exact congrArg some (r.forall_fields (P := fun j => j.norm = j) result_str.norm_json
    result_optional_str.norm_json (result_codes.norm_json _) f hf)

end Fields

theorem ResponseFields.wf_json (r : ResponseFields) : r.json.wf :=
  Json.wf_record (by simp) (by
    simp only [List.forall_mem_cons, List.not_mem_nil, false_imp_iff, implies_true, and_true]
    exact ⟨trivial, trivial, r.verifier_result.wf_json⟩)

theorem ResponseFields.plain_json (r : ResponseFields) : r.json.plain :=
  Json.plain_record (by
    simp only [List.forall_mem_cons, List.not_mem_nil, false_imp_iff, implies_true, and_true]
    exact ⟨trivial, trivial, r.verifier_result.plain_json⟩)

theorem VerifierProcessResponse.encodable_json (r : VerifierProcessResponse) :
    r.json.encodable false = true :=
  Json.encodable_record (by
    simp only [List.forall_mem_cons, List.not_mem_nil, false_imp_iff, implies_true, and_true, r.version_eq]
    exact ⟨by decide, rfl, r.verifier_result.encodable_json⟩)

/-- **A response reads back**, if its blocker codes are well formed and its
evidence is local. -/
theorem read_response_json {r : VerifierProcessResponse}
    (horigin : r.verifier_result.evidence_origin = "local_test")
    (hcount : r.verifier_result.blocker_codes.length ≤ MAX_VERIFIER_BLOCKER_CODES)
    (hcodes : ∀ code ∈ r.verifier_result.blocker_codes, is_blocker_code code = true) :
    read_response r.json.norm = .ok r := by
  obtain ⟨hkeys, hitems⟩ := Json.read_of_norm r.wf_json
  simp only [List.forall_mem_cons, List.not_mem_nil, false_imp_iff, implies_true, and_true] at hitems
  obtain ⟨hresult, hread⟩ := r.verifier_result.read_record horigin hcount hcodes
  exact read_response_ok.mpr ⟨hkeys, hitems.1, hitems.2.1, _, hitems.2.2, hresult, hread⟩

/-- What binding accepts: a valid result for the input of the request with this
digest. -/
theorem bind_response_ok {request : VerifierProcessRequest} {response : VerifierProcessResponse}
    {result : VerifierResult} : bind_verifier_response request response = .ok result ↔
      digest_verifier_request request = .ok response.request_digest ∧
        response.verifier_result.Shaped ∧ response.verifier_result.For request.verifier_input ∧
        result = response.verifier_result := by
  simp only [bind_verifier_response, bind_ok, exists_unit, raise_if_ok, not_not, ne_eq, validate_result_ok]
  constructor
  · rintro ⟨digest, hdigest, rfl, h⟩
    exact ⟨hdigest, h⟩
  · rintro ⟨hdigest, h⟩
    exact ⟨_, hdigest, rfl, h⟩

theorem digest_request_ok {request : VerifierProcessRequest} {digest : String} :
    digest_verifier_request request = .ok digest ↔
      ∃ data, serialize_verifier_request request = .ok data ∧ digest = sha256_bytes (octets data) := by
  simp only [digest_verifier_request, bind_ok, pure, Except.pure, Except.ok.injEq]
  exact ⟨fun ⟨data, h, heq⟩ => ⟨data, h, heq.symm⟩, fun ⟨data, h, heq⟩ => ⟨data, h, heq.symm⟩⟩

end AppContracts.VerifierProcess
