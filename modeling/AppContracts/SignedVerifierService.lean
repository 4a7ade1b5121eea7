/-
The signed verifier: `signed_verifier_service.py`.

A profile fixes the repository, the snapshot, the paths and the test command of
every request it lets through. The service runs one request and signs the
result under the caller's nonce.
-/
import AppContracts.VerifierAttestation

set_option autoImplicit false

namespace AppContracts.SignedVerifier

open GitHubSnapshot (is_digest is_oid_digit json_text verifier_snapshot_tree_digest)
open VerifierProcess

/-- `SignedVerifierServiceError("signed verifier service: " + message)`. -/
def service_error (message : String) : Exn :=
  ⟨.SignedVerifierServiceError, "signed verifier service: " ++ message⟩

/-! ## Profiles -/

/-- The fields of a `VerifierProfile`. -/
structure ProfileFields : Type where
  repository_id : String
  base_commit : String
  snapshot_tree_digest : String
  snapshot_file_count : ℤ
  allowed_change_paths : List String
  test_command : List String
  test_timeout_seconds : ℤ
  verifier_image_id : String
  verifier_code_digest : String
  signer_key_id : String
  deriving DecidableEq

/-- A change path of a profile. -/
def is_change_path (path : String) : Bool :=
  path != "" && !"/".toList.isPrefixOf path.toList && !path.toList.contains '\\' &&
    normpath path == path && (split_path path).all plain_part

/-- `VerifierProfile.__post_init__()`. -/
def ProfileFields.post_init (p : ProfileFields) : Except Exn Unit :=
  raise_if (p.repository_id = "" ∨ 256 < p.repository_id.length ∨ p.base_commit.length < 40 ∨
    64 < p.base_commit.length ∨ p.base_commit.toList.all is_oid_digit = false ∨
    is_digest p.snapshot_tree_digest = false ∨ p.snapshot_file_count < 1 ∨
    (MAX_VERIFIER_SNAPSHOT_FILES : ℤ) < p.snapshot_file_count ∨ p.allowed_change_paths = [] ∨
    p.allowed_change_paths.all is_change_path = false ∨
    p.allowed_change_paths.dedup.insertionSort (· ≤ ·) ≠ p.allowed_change_paths ∨ p.test_command = [] ∨
    "" ∈ p.test_command ∨ p.test_timeout_seconds < 1 ∨ 86400 < p.test_timeout_seconds ∨
    is_digest p.verifier_image_id = false ∨ is_digest p.verifier_code_digest = false ∨
    is_identifier p.signer_key_id = false) (service_error "profile is invalid")

/-- `VerifierProfile`. -/
structure VerifierProfile : Type extends ProfileFields where
  checked : toProfileFields.post_init = .ok ()

/-- `profile.expected_verifier_id`. -/
def ProfileFields.expected_verifier_id (p : ProfileFields) : String :=
  "docker-image:" ++ p.verifier_image_id ++ "/code:" ++ p.verifier_code_digest

/-- A list of texts. -/
def json_texts (texts : List String) : Json := .arr (texts.map json_text)

/-- The dict that a profile's digest is made of. -/
def ProfileFields.json (p : ProfileFields) : Json :=
  .record [("schema", json_text "agent00x-verifier-profile/v1"),
    ("repository_id", json_text p.repository_id), ("base_commit", json_text p.base_commit),
    ("snapshot_tree_digest", json_text p.snapshot_tree_digest),
    ("snapshot_file_count", .int p.snapshot_file_count),
    ("allowed_change_paths", json_texts p.allowed_change_paths),
    ("test_command", json_texts p.test_command), ("test_timeout_seconds", .int p.test_timeout_seconds),
    ("verifier_image_id", json_text p.verifier_image_id),
    ("verifier_code_digest", json_text p.verifier_code_digest),
    ("signer_key_id", json_text p.signer_key_id)]

/-- `profile.profile_digest`. -/
def ProfileFields.profile_digest (p : ProfileFields) : Except Exn String := sha256_digest p.json

/-- `profile.validate_request(prepared)`. -/
def ProfileFields.validate_request (p : ProfileFields) (prepared : VerifierInput) : Except Exn Unit :=
  reraise .SignedVerifierServiceError (service_error "request rejected") do
  let snapshot_digest ← verifier_snapshot_tree_digest prepared.snapshot_files
  raise_if (prepared.repository_id ≠ p.repository_id ∨ prepared.base_commit ≠ p.base_commit ∨
    prepared.snapshot_tree_digest ≠ some p.snapshot_tree_digest ∨
    prepared.snapshot_tree_digest ≠ some snapshot_digest ∨
    prepared.snapshot_claim_digest.any is_digest = false ∨
    (prepared.snapshot_files.length : ℤ) ≠ p.snapshot_file_count ∨
    prepared.declared_change_paths ≠ p.allowed_change_paths ∨
    prepared.verified_contents.map Prod.fst ≠ p.allowed_change_paths ∨
    prepared.test_command ≠ p.test_command ∨ prepared.test_timeout_seconds ≠ p.test_timeout_seconds ∨
    prepared.replay_result_digest = none) value_error

/-! ## The service -/

/-- A signing key, or a credential source that gives one or raises. -/
inductive Signer (ed : Ed25519) : Type
  | key (signing_key : ed.PrivateKey)
  | source (answer : Option ed.PrivateKey)

/-- The signing key, where the service resolves it. -/
def Signer.resolve {ed : Ed25519} : Signer ed → Except Exn ed.PrivateKey
  | .key signing_key => .ok signing_key
  | .source answer => or_raise value_error answer

/-- `verifier.verify`: a result, or what it raises. -/
abbrev Verifier : Type := VerifierInput → Except Exn VerifierResult

/-- `run_signed_verifier_request(request_bytes, ..)`. -/
def run_signed_verifier_request (ed : Ed25519) (request_bytes : Bytes) (invocation_nonce : String)
    (profile : VerifierProfile) (verifier : Verifier) (signer : Signer ed) (issued_at : Utc) :
    Except Exn Bytes :=
  reraise .SignedVerifierServiceError (service_error "request rejected") do
  raise_if (is_hex 64 invocation_nonce = false) value_error
  let request ← canonical_request request_bytes
  let prepared := request.verifier_input
  profile.validate_request prepared
  let raw_result ← verifier prepared
  let result ← validate_verifier_result raw_result prepared
  raise_if (result.verifier_id ≠ profile.expected_verifier_id) value_error
  -- The nonce takes the verifier's place; the profile digest names the verifier.
  let digest ← digest_verifier_request request
  let response ← VerifierProcessResponse.from_verifier_result
    { result with verifier_id := invocation_nonce } digest
  let response_bytes ← or_raise value_error (_canonical_response_bytes response)
  let signing_key ← signer.resolve
  let profile_digest ← profile.profile_digest
  build_signed_verifier_response ed request_bytes response_bytes invocation_nonce profile_digest
    profile.signer_key_id signing_key issued_at

/-- `handle_signed_verifier_invocation(invocation_bytes, ..)`. -/
def handle_signed_verifier_invocation (ed : Ed25519) (invocation_bytes : Bytes) (profile : VerifierProfile)
    (verifier : Verifier) (signer : Signer ed) (issued_at : Utc) : Except Exn Bytes :=
  reraise .SignedVerifierServiceError (service_error "invocation rejected") do
  let invocation ← parse_signed_verifier_invocation invocation_bytes
  let profile_digest ← profile.profile_digest
  raise_if (invocation.verifier_profile_digest ≠ profile_digest) value_error
  run_signed_verifier_request ed invocation.request_bytes invocation.invocation_nonce profile verifier signer
    issued_at

/-! ## Profiles and their digests -/

theorem encodable_small {n : ℤ} (hlow : 0 ≤ n) (hhigh : n ≤ 86400) : (Json.int n).encodable false = true :=
  Json.encodable_int (by omega)

theorem encodable_texts (texts : List String) : (json_texts texts).encodable false = true :=
  encodable_arr fun _ _ => rfl

section Profile

variable (p : VerifierProfile)

/-- What a valid profile's numbers are. -/
theorem VerifierProfile.ranges : 1 ≤ p.snapshot_file_count ∧ p.snapshot_file_count ≤ 256 ∧
    1 ≤ p.test_timeout_seconds ∧ p.test_timeout_seconds ≤ 86400 := by
  have h := p.checked
  rw [ProfileFields.post_init, raise_if_ok] at h
  simp only [not_or, not_lt, MAX_VERIFIER_SNAPSHOT_FILES] at h
  obtain ⟨-, -, -, -, -, -, hlow, hhigh, -, -, -, -, -, hmin, hmax, -⟩ := h
  exact ⟨hlow, hhigh, hmin, hmax⟩

theorem VerifierProfile.signer_ok : is_identifier p.signer_key_id = true := by
  have h := p.checked
  rw [ProfileFields.post_init, raise_if_ok] at h
  simp only [not_or, Bool.not_eq_false] at h
  obtain ⟨-, -, -, -, -, -, -, -, -, -, -, -, -, -, -, -, -, hsigner⟩ := h
  exact hsigner

theorem ProfileFields.wf_json (p : ProfileFields) : p.json.wf :=
  Json.wf_record (by simp) (by
    simp only [List.forall_mem_cons, List.not_mem_nil, false_imp_iff, implies_true, and_true]
    have htexts : ∀ texts, (json_texts texts).wf := fun texts =>
      Json.wf_items_iff.mpr (List.forall_mem_map.mpr fun _ _ => trivial)
    exact ⟨trivial, trivial, trivial, trivial, trivial, htexts _, htexts _, trivial, trivial, trivial,
      trivial⟩)

theorem ProfileFields.plain_json (p : ProfileFields) : p.json.plain :=
  Json.plain_record (by
    simp only [List.forall_mem_cons, List.not_mem_nil, false_imp_iff, implies_true, and_true]
    have htexts : ∀ texts, (json_texts texts).plain := fun texts =>
      Json.plain_items_iff.mpr (List.forall_mem_map.mpr fun _ _ => trivial)
    exact ⟨trivial, trivial, trivial, trivial, trivial, htexts _, htexts _, trivial, trivial, trivial,
      trivial⟩)

/-- Every profile has a digest. -/
theorem VerifierProfile.digest_ok :
    p.profile_digest = .ok (sha256_bytes (canonical_bytes p.json)) := by
  obtain ⟨hlow, hhigh, hmin, hmax⟩ := p.ranges
  refine sha256_digest_ok.mpr ⟨Json.encodable_record ?_, rfl⟩
  simp only [List.forall_mem_cons, List.not_mem_nil, false_imp_iff, implies_true, and_true]
  exact ⟨rfl, rfl, rfl, rfl, encodable_small (by omega) (by omega), encodable_texts _, encodable_texts _,
    encodable_small (by omega) hmax, rfl, rfl, rfl⟩

end Profile

end AppContracts.SignedVerifier
