/-
The handoff to a verifier process: `VerifierInput` and `VerifierResult` of
`executor.py`, and the request and response records of `verifier_process.py`.

A request is canonical JSON with bounds on every part. Its serializer and its
parser check the same bounds on the same record, so what one writes the other
reads back; the digest of the bytes then stands for the record. A response names
the digest of the request it answers.
-/
import AppContracts.SnapshotContents
import AppContracts.Wire

set_option autoImplicit false

namespace AppContracts.VerifierProcess

open GitHubSnapshot (TreeFile is_digest json_text verifier_snapshot_tree_digest)

/-! ## Records -/

/-- `VerifierInput`. -/
structure VerifierInput : Type where
  process_id : String
  repository_id : String
  base_commit : String
  snapshot_tree_digest : Option String
  declared_change_paths : List String
  verified_contents : List (String × String)
  test_command : List String
  test_timeout_seconds : ℤ
  patch_digest : String
  evidence_digest : String
  verification_digest : String
  verified_contents_digest : String
  evidence_origin : String
  replay_result_digest : Option String
  snapshot_files : List TreeFile
  snapshot_claim_digest : Option String
  deriving DecidableEq

/-- `VerifierVerdict`. -/
inductive VerifierVerdict : Type
  | PASS
  | FAIL
  | BLOCKED
  deriving DecidableEq

/-- `verdict.value`. -/
def VerifierVerdict.value : VerifierVerdict → String
  | .PASS => "pass"
  | .FAIL => "fail"
  | .BLOCKED => "blocked"

/-- `VerifierVerdict(value)`, `none` for its `ValueError`. -/
def VerifierVerdict.of_value (value : String) : Option VerifierVerdict :=
  [PASS, FAIL, BLOCKED].find? fun verdict => verdict.value = value

theorem VerifierVerdict.of_value_some {value : String} {verdict : VerifierVerdict} :
    of_value value = some verdict ↔ value = verdict.value := by
  constructor
  · intro h
    have hmem := List.find?_some h
    exact (of_decide_eq_true hmem).symm
  · rintro rfl
    cases verdict <;> decide

/-- `VerifierResult`. -/
structure VerifierResult : Type where
  process_id : String
  base_commit : String
  snapshot_tree_digest : Option String
  replay_result_digest : Option String
  verifier_id : String
  patch_digest : String
  evidence_digest : String
  verification_digest : String
  verified_contents_digest : String
  verdict : VerifierVerdict
  blocker_codes : List String
  evidence_origin : String
  deriving DecidableEq

/-! ## Limits -/

/-- `VERIFIER_PROCESS_SCHEMA_VERSION`. -/
def VERIFIER_PROCESS_SCHEMA_VERSION : ℤ := 3

/-- `VERIFIER_PROCESS_RESPONSE_SCHEMA_VERSION`. -/
def VERIFIER_PROCESS_RESPONSE_SCHEMA_VERSION : ℤ := 2

/-- `MAX_VERIFIER_REQUEST_FILES`. -/
def MAX_VERIFIER_REQUEST_FILES : ℕ := 20

/-- `MAX_VERIFIER_REQUEST_PATH_BYTES`. -/
def MAX_VERIFIER_REQUEST_PATH_BYTES : ℕ := 240

/-- `MAX_VERIFIER_REQUEST_CONTENT_BYTES`. -/
def MAX_VERIFIER_REQUEST_CONTENT_BYTES : ℕ := 100000

/-- `MAX_VERIFIER_REQUEST_CONTENTS_BYTES`. -/
def MAX_VERIFIER_REQUEST_CONTENTS_BYTES : ℕ := 1000000

/-- `MAX_VERIFIER_REQUEST_BYTES`. -/
def MAX_VERIFIER_REQUEST_BYTES : ℕ := 2000000

/-- `MAX_VERIFIER_REQUEST_COMMAND_ARGS`. -/
def MAX_VERIFIER_REQUEST_COMMAND_ARGS : ℕ := 64

/-- `MAX_VERIFIER_RESPONSE_BYTES`. -/
def MAX_VERIFIER_RESPONSE_BYTES : ℕ := 2000000

/-- `MAX_VERIFIER_BLOCKER_CODES`. -/
def MAX_VERIFIER_BLOCKER_CODES : ℕ := 16

/-- `MAX_VERIFIER_SNAPSHOT_FILES`. -/
def MAX_VERIFIER_SNAPSHOT_FILES : ℕ := 256

/-- `MAX_VERIFIER_SNAPSHOT_PATH_BYTES`. -/
def MAX_VERIFIER_SNAPSHOT_PATH_BYTES : ℕ := 240

/-- `MAX_VERIFIER_SNAPSHOT_FILE_BYTES`. -/
def MAX_VERIFIER_SNAPSHOT_FILE_BYTES : ℕ := 262144

/-- `MAX_VERIFIER_SNAPSHOT_TOTAL_BYTES`. -/
def MAX_VERIFIER_SNAPSHOT_TOTAL_BYTES : ℕ := 512000

/-- `VerifierProcessError("verifier process: " + message)`. -/
def process_error (message : String) : Exn := ⟨.VerifierProcessError, "verifier process: " ++ message⟩

/-! ## Requests -/

/-- `len(value.encode("utf-8"))`. -/
def utf8_length (value : String) : ℕ := (encode_utf8 value).length

/-- `bounded_text(value)`, with the bytes counted so far. -/
def bounded_text (total : ℕ) (value : String) : Except Exn ℕ := do
  raise_if (MAX_VERIFIER_REQUEST_BYTES < value.length) (process_error "request size exceeds limit")
  raise_if (MAX_VERIFIER_REQUEST_BYTES < total + utf8_length value)
    (process_error "request size exceeds limit")
  return total + utf8_length value

/-- `bounded_text` of a path. -/
def bounded_path (total : ℕ) (path : String) : Except Exn ℕ := do
  raise_if (MAX_VERIFIER_REQUEST_PATH_BYTES < path.length) (process_error "request path exceeds limit")
  let total ← bounded_text total path
  raise_if (MAX_VERIFIER_REQUEST_PATH_BYTES < utf8_length path)
    (process_error "request path exceeds limit")
  return total

/-- An entry of `verified_contents`, with the bytes and the content bytes counted
so far. -/
def bounded_content (totals : ℕ × ℕ) (entry : String × String) : Except Exn (ℕ × ℕ) := do
  raise_if (MAX_VERIFIER_REQUEST_PATH_BYTES < entry.1.length)
    (process_error "request path exceeds limit")
  raise_if (MAX_VERIFIER_REQUEST_CONTENT_BYTES < entry.2.length)
    (process_error "request content exceeds limit")
  let total ← bounded_text totals.1 entry.1
  let total ← bounded_text total entry.2
  raise_if (MAX_VERIFIER_REQUEST_PATH_BYTES < utf8_length entry.1)
    (process_error "request path exceeds limit")
  raise_if (MAX_VERIFIER_REQUEST_CONTENT_BYTES < utf8_length entry.2)
    (process_error "request content exceeds limit")
  raise_if (MAX_VERIFIER_REQUEST_CONTENTS_BYTES < totals.2 + utf8_length entry.2)
    (process_error "request contents exceed limit")
  return (total, totals.2 + utf8_length entry.2)

/-- `_is_safe_snapshot_path(value)`. -/
def _is_safe_snapshot_path (value : String) : Bool :=
  value != "" && !"/".toList.isPrefixOf value.toList && !value.toList.contains '\\' &&
    !value.toList.contains '\x00' && normpath value == value && (split_path value).all plain_part

/-- What the loop over `snapshot_files` carries along. -/
structure SnapshotProgress : Type where
  total_text_bytes : ℕ
  snapshot_total_bytes : ℕ
  previous_path : Option String

/-- An entry of `snapshot_files`. -/
def bounded_file (progress : SnapshotProgress) (file : TreeFile) : Except Exn SnapshotProgress := do
  raise_if (MAX_VERIFIER_SNAPSHOT_PATH_BYTES < file.1.length ∨ _is_safe_snapshot_path file.1 = false ∨
    file.2.1 ∉ ["100644", "100755"]) (process_error "snapshot fields are invalid")
  let total ← bounded_text progress.total_text_bytes file.1
  raise_if (MAX_VERIFIER_SNAPSHOT_PATH_BYTES < utf8_length file.1)
    (process_error "snapshot path exceeds limit")
  raise_if (progress.previous_path.any fun previous => file.1 ≤ previous)
    (process_error "snapshot paths are invalid")
  raise_if (MAX_VERIFIER_SNAPSHOT_FILE_BYTES < file.2.2.length)
    (process_error "snapshot file exceeds limit")
  raise_if (MAX_VERIFIER_SNAPSHOT_TOTAL_BYTES < progress.snapshot_total_bytes + file.2.2.length)
    (process_error "snapshot exceeds limit")
  return ⟨total, progress.snapshot_total_bytes + file.2.2.length, some file.1⟩

/-- The texts of an input that are counted first; the source takes them in the
order of a set. -/
def VerifierInput.texts (x : VerifierInput) : List String :=
  [x.process_id, x.repository_id, x.base_commit, x.patch_digest, x.evidence_digest,
    x.verification_digest, x.verified_contents_digest, x.evidence_origin] ++
    [x.snapshot_tree_digest, x.replay_result_digest, x.snapshot_claim_digest].filterMap id

/-- The last check of the bounds: the files are those of the tree. -/
def check_snapshot_binding (x : VerifierInput) : Except Exn Unit :=
  match x.snapshot_tree_digest with
  | none => raise_if (x.snapshot_files ≠ []) (process_error "snapshot binding is invalid")
  | some expected => do
    let digest ← verifier_snapshot_tree_digest x.snapshot_files
    raise_if (digest ≠ expected) (process_error "snapshot binding is invalid")

/-- `_check_verifier_request_bounds(verifier_input)`. -/
def _check_verifier_request_bounds (x : VerifierInput) : Except Exn Unit := do
  let total ← x.texts.foldlM bounded_text 0
  raise_if (x.evidence_origin ≠ "local_test") (process_error "request fields are invalid")
  raise_if (x.snapshot_claim_digest.any fun digest =>
    x.snapshot_tree_digest.isNone || !is_digest digest) (process_error "request fields are invalid")
  raise_if (x.test_timeout_seconds < 1 ∨ 86400 < x.test_timeout_seconds)
    (process_error "request fields are invalid")
  raise_if (MAX_VERIFIER_REQUEST_FILES < x.declared_change_paths.length)
    (process_error "request size exceeds limit")
  let total ← x.declared_change_paths.foldlM bounded_path total
  raise_if (MAX_VERIFIER_REQUEST_COMMAND_ARGS < x.test_command.length)
    (process_error "request size exceeds limit")
  let total ← x.test_command.foldlM bounded_text total
  raise_if (MAX_VERIFIER_REQUEST_FILES < x.verified_contents.length)
    (process_error "request file count exceeds limit")
  let totals ← x.verified_contents.foldlM bounded_content (total, 0)
  raise_if (MAX_VERIFIER_SNAPSHOT_FILES < x.snapshot_files.length)
    (process_error "snapshot file count exceeds limit")
  let _ ← x.snapshot_files.foldlM bounded_file ⟨totals.1, 0, none⟩
  check_snapshot_binding x

/-- What the proofs need of an input within its bounds. -/
theorem bounds_ok {x : VerifierInput} (h : _check_verifier_request_bounds x = .ok ()) :
    x.evidence_origin = "local_test" ∧ 1 ≤ x.test_timeout_seconds ∧ x.test_timeout_seconds ≤ 86400 ∧
      check_snapshot_binding x = .ok () := by
  simp only [_check_verifier_request_bounds, bind_ok, exists_unit, raise_if_ok, not_or, not_lt,
    not_not, ne_eq] at h
  obtain ⟨_, -, horigin, -, htimeout, -, _, -, -, _, -, -, _, -, -, _, -, hbinding⟩ := h
  exact ⟨horigin, htimeout.1, htimeout.2, hbinding⟩

/-- The fields of a `VerifierProcessRequest`. -/
structure RequestFields : Type where
  schema_version : ℤ
  verifier_input : VerifierInput
  deriving DecidableEq

/-- `VerifierProcessRequest.__post_init__()`. -/
def RequestFields.post_init (r : RequestFields) : Except Exn Unit := do
  raise_if (r.schema_version ≠ VERIFIER_PROCESS_SCHEMA_VERSION)
    (process_error "request version is invalid")
  raise_if (r.verifier_input.evidence_origin ≠ "local_test")
    (process_error "request fields are invalid")

/-- `VerifierProcessRequest`. -/
structure VerifierProcessRequest : Type extends RequestFields where
  checked : toRequestFields.post_init = .ok ()

/-- `VerifierProcessRequest(schema_version, verifier_input)`. -/
def VerifierProcessRequest.make (schema_version : ℤ) (verifier_input : VerifierInput) :
    Except Exn VerifierProcessRequest :=
  match h : RequestFields.post_init ⟨schema_version, verifier_input⟩ with
  | .ok () => .ok ⟨⟨schema_version, verifier_input⟩, h⟩
  | .error e => .error e

theorem VerifierProcessRequest.make_ok {version : ℤ} {x : VerifierInput} {r : VerifierProcessRequest} :
    make version x = .ok r ↔ version = r.schema_version ∧ x = r.verifier_input := by
  unfold make
  constructor
  · intro h
    split at h
    · rw [← Except.ok.inj h]
      exact ⟨rfl, rfl⟩
    · cases h
  · rintro ⟨rfl, rfl⟩
    split
    · rfl
    · rename_i e he
      rw [r.checked] at he
      cases he

theorem VerifierProcessRequest.version_eq (r : VerifierProcessRequest) :
    r.schema_version = VERIFIER_PROCESS_SCHEMA_VERSION := by
  have h := r.checked
  simp only [RequestFields.post_init, bind_ok, exists_unit, raise_if_ok, not_not, ne_eq] at h
  exact h.1

/-- `VerifierProcessRequest.from_verifier_input(value)`. -/
def VerifierProcessRequest.from_verifier_input (value : VerifierInput) :
    Except Exn VerifierProcessRequest :=
  make VERIFIER_PROCESS_SCHEMA_VERSION value

/-! ## The wire form of a request -/

/-- `VerifierProcessError("verifier process: request fields are invalid")`. -/
def fields_error : Exn := process_error "request fields are invalid"

/-- `VerifierProcessError("verifier process: snapshot fields are invalid")`. -/
def snapshot_error : Exn := process_error "snapshot fields are invalid"

/-- `text.encode("utf-8")` of a text with a lone surrogate. The source meets it
when it measures the text. -/
def lone_surrogate : Exn := ⟨.UnicodeEncodeError, "surrogates not allowed"⟩

/-- A string field. -/
def str : Codec Exn String := Codec.text fields_error lone_surrogate

/-- A string field that may be `None`. -/
def optional_str : Codec Exn (Option String) := str.nullable fun _ h => nomatch h

/-- A list of strings. -/
def str_list : Codec Exn (List String) := Codec.list fields_error str

/-- The timeout. -/
def whole : Codec Exn ℤ := Codec.int fields_error

/-- The schema version. -/
def version_int (record : String) : Codec Exn ℤ := Codec.int (process_error s!"{record} version is invalid")

/-- `verified_contents`. -/
def contents : Codec Exn (List (String × String)) :=
  Codec.list fields_error (Codec.pair fields_error str str)

/-- `snapshot_files`, the contents in Base64. -/
def encoded_files : Codec Exn (List (String × String × String)) :=
  let text := Codec.text snapshot_error lone_surrogate
  Codec.list snapshot_error (Codec.triple snapshot_error text text text)

/-- `[path, mode, base64.b64encode(content).decode("ascii")]`. -/
def encode_file (file : TreeFile) : String × String × String := (file.1, file.2.1, b64encode file.2.2)

/-- The fields of `asdict(verifier_input)` on the wire. -/
def VerifierInput.fields (x : VerifierInput) : List (String × Json) :=
  [("process_id", str.json x.process_id), ("repository_id", str.json x.repository_id),
    ("base_commit", str.json x.base_commit),
    ("snapshot_tree_digest", optional_str.json x.snapshot_tree_digest),
    ("declared_change_paths", str_list.json x.declared_change_paths),
    ("verified_contents", contents.json x.verified_contents),
    ("test_command", str_list.json x.test_command),
    ("test_timeout_seconds", whole.json x.test_timeout_seconds),
    ("patch_digest", str.json x.patch_digest), ("evidence_digest", str.json x.evidence_digest),
    ("verification_digest", str.json x.verification_digest),
    ("verified_contents_digest", str.json x.verified_contents_digest),
    ("evidence_origin", str.json x.evidence_origin),
    ("replay_result_digest", optional_str.json x.replay_result_digest),
    ("snapshot_files", encoded_files.json (x.snapshot_files.map encode_file)),
    ("snapshot_claim_digest", optional_str.json x.snapshot_claim_digest)]

/-- `_VERIFIER_INPUT_FIELDS`. -/
def VERIFIER_INPUT_FIELDS : List String :=
  ["process_id", "repository_id", "base_commit", "snapshot_tree_digest", "declared_change_paths",
    "verified_contents", "test_command", "test_timeout_seconds", "patch_digest", "evidence_digest",
    "verification_digest", "verified_contents_digest", "evidence_origin", "replay_result_digest",
    "snapshot_files", "snapshot_claim_digest"]

/-- `asdict(value)` on the wire. -/
def RequestFields.json (r : RequestFields) : Json :=
  .record [("schema_version", .int r.schema_version), ("verifier_input", .record r.verifier_input.fields)]

/-- `serialize_verifier_request(value)`. -/
def serialize_verifier_request (value : VerifierProcessRequest) : Except Exn Bytes := do
  reraise .VerifierProcessError (process_error "request serialization failed")
    (_check_verifier_request_bounds value.verifier_input)
  let encoded ← or_raise (process_error "request serialization failed") (canonical_encoding value.json)
  raise_if (MAX_VERIFIER_REQUEST_BYTES < encoded.length) (process_error "request size exceeds limit")
  return encoded

/-- `digest_verifier_request(value)`. -/
def digest_verifier_request (value : VerifierProcessRequest) : Except Exn String := do
  let encoded ← serialize_verifier_request value
  return sha256_bytes (octets encoded)

/-- `_decode_snapshot_base64(value)`. -/
def _decode_snapshot_base64 (value : String) : Except Exn Bytes := do
  let decoded ← or_raise (process_error "snapshot encoding is invalid") (b64decode value)
  raise_if (b64encode decoded ≠ value) (process_error "snapshot encoding is invalid")
  return decoded

/-- The files of `snapshot_files`. -/
def decode_files : List (String × String × String) → Except Exn (List TreeFile)
  | [] => .ok []
  | (path, mode, encoded) :: rest => do
    let content ← _decode_snapshot_base64 encoded
    let files ← decode_files rest
    return (path, mode, content) :: files

/-- `_validate_verifier_input_shape(raw_input)`, and the input of the raw fields. -/
def read_input (raw : Json) : Except Exn VerifierInput := do
  let process_id ← str.field fields_error raw "process_id"
  let repository_id ← str.field fields_error raw "repository_id"
  let base_commit ← str.field fields_error raw "base_commit"
  let patch_digest ← str.field fields_error raw "patch_digest"
  let evidence_digest ← str.field fields_error raw "evidence_digest"
  let verification_digest ← str.field fields_error raw "verification_digest"
  let verified_contents_digest ← str.field fields_error raw "verified_contents_digest"
  let evidence_origin ← str.field fields_error raw "evidence_origin"
  let snapshot_tree_digest ← optional_str.field fields_error raw "snapshot_tree_digest"
  let replay_result_digest ← optional_str.field fields_error raw "replay_result_digest"
  let snapshot_claim_digest ← optional_str.field fields_error raw "snapshot_claim_digest"
  let test_timeout_seconds ← whole.field fields_error raw "test_timeout_seconds"
  raise_if (evidence_origin ≠ "local_test") fields_error
  let declared_change_paths ← str_list.field fields_error raw "declared_change_paths"
  let test_command ← str_list.field fields_error raw "test_command"
  let verified_contents ← contents.field fields_error raw "verified_contents"
  let encoded ← encoded_files.field fields_error raw "snapshot_files"
  let snapshot_files ← decode_files encoded
  return ⟨process_id, repository_id, base_commit, snapshot_tree_digest, declared_change_paths,
    verified_contents, test_command, test_timeout_seconds, patch_digest, evidence_digest,
    verification_digest, verified_contents_digest, evidence_origin, replay_result_digest,
    snapshot_files, snapshot_claim_digest⟩

/-- The JSON of a request, as `parse_verifier_request` reads it. -/
def read_request (payload : Json) : Except Exn VerifierProcessRequest := do
  raise_if (payload.is_dict = false) (process_error "request payload is invalid")
  let version ← (version_int "request").field (process_error "request version is invalid") payload
    "schema_version"
  raise_if (version ≠ VERIFIER_PROCESS_SCHEMA_VERSION) (process_error "request version is invalid")
  raise_if (payload.has_keys ["schema_version", "verifier_input"] = false) fields_error
  let raw_input ← or_raise fields_error (payload.get? "verifier_input")
  raise_if (raw_input.has_keys VERIFIER_INPUT_FIELDS = false) fields_error
  let verifier_input ← read_input raw_input
  _check_verifier_request_bounds verifier_input
  VerifierProcessRequest.make version verifier_input

/-- `parse_verifier_request(data)`. -/
def parse_verifier_request (data : Bytes) : Except Exn VerifierProcessRequest := do
  raise_if (MAX_VERIFIER_REQUEST_BYTES < data.length) (process_error "request size exceeds limit")
  let text ← or_raise (process_error "request encoding is invalid") (decode_utf8 data)
  let payload ← or_raise (process_error "request payload is invalid")
    (Json.loads_with Json.strict_hooks text)
  read_request payload

/-! ### What the parser reads -/

theorem decode_base64_ok {value : String} {content : Bytes} :
    _decode_snapshot_base64 value = .ok content ↔ value = b64encode content := by
  simp only [_decode_snapshot_base64, bind_ok, or_raise_ok, exists_unit, raise_if_ok, not_not, ne_eq,
    pure, Except.pure, Except.ok.injEq]
  constructor
  · rintro ⟨_, -, rfl, rfl⟩
    rfl
  · rintro rfl
    exact ⟨content, b64decode_encode content, rfl, rfl⟩

theorem decode_files_ok {encoded : List (String × String × String)} {files : List TreeFile} :
    decode_files encoded = .ok files ↔ encoded = files.map encode_file := by
  induction encoded generalizing files with
  | nil => cases files <;> simp [decode_files]
  | cons entry rest ih =>
    obtain ⟨path, mode, text⟩ := entry
    simp only [decode_files, bind_ok, decode_base64_ok, ih, pure, Except.pure, Except.ok.injEq]
    constructor
    · rintro ⟨content, rfl, files, rfl, rfl⟩
      rfl
    · intro h
      cases files with
      | nil => cases h
      | cons file files =>
        rw [List.map_cons, List.cons.injEq] at h
        obtain ⟨hfile, hrest⟩ := h
        obtain ⟨path', mode', content⟩ := file
        simp only [encode_file, Prod.mk.injEq] at hfile
        obtain ⟨rfl, rfl, rfl⟩ := hfile
        exact ⟨content, rfl, files, hrest, rfl⟩

/-- **The parser reads the fields that the serializer writes**, and nothing
else. -/
theorem read_input_ok {raw : Json} {x : VerifierInput} :
    read_input raw = .ok x ↔
      x.evidence_origin = "local_test" ∧ ∀ f ∈ x.fields, raw.get? f.1 = some f.2 := by
  simp only [VerifierInput.fields, List.forall_mem_cons, List.not_mem_nil, false_imp_iff, implies_true,
    and_true, read_input, bind_ok, Codec.field_ok, exists_unit, raise_if_ok, not_not, ne_eq,
    decode_files_ok, pure, Except.pure, Except.ok.injEq]
  constructor
  · rintro ⟨_, h1, _, h2, _, h3, _, h4, _, h5, _, h6, _, h7, _, h8, _, h9, _, h10, _, h11, _, h12,
      horigin, _, h13, _, h14, _, h15, _, h16, _, rfl, rfl⟩
    exact ⟨horigin, h1, h2, h3, h9, h13, h15, h14, h12, h4, h5, h6, h7, h8, h10, h16, h11⟩
  · rintro ⟨horigin, h1, h2, h3, h9, h13, h15, h14, h12, h4, h5, h6, h7, h8, h10, h16, h11⟩
    exact ⟨_, h1, _, h2, _, h3, _, h4, _, h5, _, h6, _, h7, _, h8, _, h9, _, h10, _, h11, _, h12,
      horigin, _, h13, _, h14, _, h15, _, h16, _, rfl, rfl⟩

/-! ### Round trips -/

section Fields

variable (x : VerifierInput)

theorem VerifierInput.fields_keys : x.fields.map Prod.fst = VERIFIER_INPUT_FIELDS := rfl

/-- What holds of the JSON of every codec holds of every field. -/
theorem VerifierInput.forall_fields {P : Json → Prop} (hstr : ∀ s, P (str.json s))
    (hoptional : ∀ s, P (optional_str.json s)) (hlist : ∀ l, P (str_list.json l))
    (hcontents : P (contents.json x.verified_contents)) (htimeout : P (whole.json x.test_timeout_seconds))
    (hfiles : P (encoded_files.json (x.snapshot_files.map encode_file))) : ∀ f ∈ x.fields, P f.2 := by
  simp only [VerifierInput.fields, List.forall_mem_cons, List.not_mem_nil, false_imp_iff, implies_true,
    and_true]
  exact ⟨hstr _, hstr _, hstr _, hoptional _, hlist _, hcontents, hlist _, htimeout, hstr _, hstr _, hstr _,
    hstr _, hstr _, hoptional _, hfiles, hoptional _⟩

theorem VerifierInput.wf_fields : ∀ f ∈ x.fields, f.2.wf :=
  x.forall_fields str.wf_json optional_str.wf_json str_list.wf_json (contents.wf_json _) (whole.wf_json _)
    (encoded_files.wf_json _)

theorem VerifierInput.plain_fields : ∀ f ∈ x.fields, f.2.plain :=
  x.forall_fields str.plain_json optional_str.plain_json str_list.plain_json (contents.plain_json _)
    (whole.plain_json _) (encoded_files.plain_json _)

theorem VerifierInput.norm_fields : ∀ f ∈ x.fields, f.2.norm = f.2 :=
  x.forall_fields (P := fun j => j.norm = j) str.norm_json optional_str.norm_json str_list.norm_json (contents.norm_json _)
    (whole.norm_json _) (encoded_files.norm_json _)

theorem VerifierInput.wf_record : (Json.record x.fields).wf :=
  Json.wf_record (by rw [x.fields_keys]; decide) x.wf_fields

/-- A dict with exactly the fields of an input reads as the input. -/
theorem VerifierInput.read_record (horigin : x.evidence_origin = "local_test") :
    (Json.record x.fields).norm.has_keys VERIFIER_INPUT_FIELDS = true ∧
      read_input (Json.record x.fields).norm = .ok x := by
  obtain ⟨hkeys, hitems⟩ := Json.read_of_norm x.wf_record
  refine ⟨hkeys, read_input_ok.mpr ⟨horigin, fun f hf => ?_⟩⟩
  rw [hitems f hf, x.norm_fields f hf]

end Fields

/-- An array of texts is encodable. -/
theorem encodable_arr {α : Type} {f : α → Json} {l : List α} (h : ∀ a ∈ l, (f a).encodable false = true) :
    (Json.arr (l.map f)).encodable false = true :=
  Json.encodable_items_iff.mpr (List.forall_mem_map.mpr h)

/-- The timeout of an input within its bounds is encodable. -/
theorem encodable_timeout {n : ℤ} (hlow : 1 ≤ n) (hhigh : n ≤ 86400) :
    (whole.json n).encodable false = true :=
  Json.encodable_int (by omega)

theorem VerifierInput.encodable_fields {x : VerifierInput} (hlow : 1 ≤ x.test_timeout_seconds)
    (hhigh : x.test_timeout_seconds ≤ 86400) : ∀ f ∈ x.fields, f.2.encodable false = true := by
  refine x.forall_fields (P := fun j => j.encodable false = true) (fun _ => rfl) (fun s => ?_) (fun l => encodable_arr fun _ _ => rfl)
    (encodable_arr fun _ _ => rfl) (encodable_timeout hlow hhigh) (encodable_arr fun _ _ => rfl)
  cases s <;> rfl

/-- The JSON of a request. -/
theorem RequestFields.wf_json (r : RequestFields) : r.json.wf :=
  Json.wf_record (by simp) (by
    simp only [List.forall_mem_cons, List.not_mem_nil, false_imp_iff, implies_true, and_true]
    exact ⟨trivial, r.verifier_input.wf_record⟩)

theorem RequestFields.plain_json (r : RequestFields) : r.json.plain :=
  Json.plain_record (by
    simp only [List.forall_mem_cons, List.not_mem_nil, false_imp_iff, implies_true, and_true]
    exact ⟨trivial, Json.plain_record r.verifier_input.plain_fields⟩)

/-- What a request within its bounds is written as. -/
theorem serialize_ok {r : VerifierProcessRequest} {data : Bytes} :
    serialize_verifier_request r = .ok data ↔ _check_verifier_request_bounds r.verifier_input = .ok () ∧
      canonical_encoding r.json = some data ∧ data.length ≤ MAX_VERIFIER_REQUEST_BYTES := by
  simp only [serialize_verifier_request, bind_ok, exists_unit, reraise_ok, or_raise_ok, raise_if_ok, not_lt,
    pure, Except.pure, Except.ok.injEq]
  constructor
  · rintro ⟨hbounds, _, hencoded, hlength, rfl⟩
    exact ⟨hbounds, hencoded, hlength⟩
  · rintro ⟨hbounds, hencoded, hlength⟩
    exact ⟨hbounds, data, hencoded, hlength, rfl⟩

/-- What the parser accepts. -/
theorem parse_ok {data : Bytes} {r : VerifierProcessRequest} :
    parse_verifier_request data = .ok r ↔ data.length ≤ MAX_VERIFIER_REQUEST_BYTES ∧
      ∃ payload, strict_json data = some payload ∧ read_request payload = .ok r := by
  simp only [parse_verifier_request, bind_ok, exists_unit, or_raise_ok, raise_if_ok, not_lt, strict_json,
    Option.bind_eq_some_iff]
  tauto

/-- What a dict that reads as a request has. -/
theorem read_request_ok {payload : Json} {r : VerifierProcessRequest} :
    read_request payload = .ok r ↔ payload.has_keys ["schema_version", "verifier_input"] = true ∧
      payload.get? "schema_version" = some (.int r.schema_version) ∧
      (∃ raw, payload.get? "verifier_input" = some raw ∧ raw.has_keys VERIFIER_INPUT_FIELDS = true ∧
        read_input raw = .ok r.verifier_input) ∧
      _check_verifier_request_bounds r.verifier_input = .ok () := by
  simp only [read_request, bind_ok, exists_unit, or_raise_ok, raise_if_ok, not_not, ne_eq,
    Codec.field_ok, Bool.not_eq_false, VerifierProcessRequest.make_ok]
  constructor
  · rintro ⟨-, _, hget, -, hkeys, raw, hraw, hinput, x, hread, hbounds, rfl, rfl⟩
    exact ⟨hkeys, hget, ⟨raw, hraw, hinput, hread⟩, hbounds⟩
  · rintro ⟨hkeys, hget, ⟨raw, hraw, hinput, hread⟩, hbounds⟩
    obtain ⟨fields, rfl, -⟩ := Json.has_keys_iff.mp hkeys
    exact ⟨rfl, _, hget, r.version_eq, hkeys, raw, hraw, hinput, _, hread, hbounds, rfl, rfl⟩

/-- **A serialized request is parsed back.** -/
theorem parse_serialize {r : VerifierProcessRequest} {data : Bytes}
    (h : serialize_verifier_request r = .ok data) : parse_verifier_request data = .ok r := by
  obtain ⟨hbounds, hencoded, hlength⟩ := serialize_ok.mp h
  have hpayload := strict_json_encoding r.wf_json r.plain_json hencoded
  obtain ⟨hkeys, hitems⟩ := Json.read_of_norm r.wf_json
  simp only [List.forall_mem_cons, List.not_mem_nil, false_imp_iff, implies_true, and_true] at hitems
  obtain ⟨hinput, hread⟩ := r.verifier_input.read_record (bounds_ok hbounds).1
  exact parse_ok.mpr ⟨hlength, r.json.norm, hpayload,
    read_request_ok.mpr ⟨hkeys, hitems.1, ⟨_, hitems.2, hinput, hread⟩, hbounds⟩⟩

/-- Two requests with one wire form are one request. -/
theorem serialize_inj {r r' : VerifierProcessRequest} {data : Bytes}
    (h : serialize_verifier_request r = .ok data) (h' : serialize_verifier_request r' = .ok data) :
    r = r' := by
  have hparse := parse_serialize h
  rw [parse_serialize h'] at hparse
  exact (Except.ok.inj hparse).symm

/-- **The digest of a request stands for the request**, unless the wire forms of
two requests collide. -/
theorem request_of_digest {r r' : VerifierProcessRequest} {data data' : Bytes}
    (h : serialize_verifier_request r = .ok data) (h' : serialize_verifier_request r' = .ok data')
    (hdigest : sha256_bytes (octets data) = sha256_bytes (octets data')) :
    r = r' ∨ Collision (octets data) (octets data') := by
  by_cases heq : octets data = octets data'
  · obtain rfl := octets_inj heq
    exact .inl (serialize_inj h h')
  · exact .inr ⟨heq, hdigest⟩

end AppContracts.VerifierProcess
