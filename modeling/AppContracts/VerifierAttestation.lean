/-
Signed verifier responses: `verifier_attestation.py`.

An envelope binds the response to a key, a nonce, a request and a profile, and is
signed as a whole. Its verifier compares each of them with what the caller
expects before it looks at the signature.
-/
import AppContracts.SignedVerifierProtocol
import AppContracts.TrustRecords

set_option autoImplicit false

namespace AppContracts.SignedVerifier

open GitHubSnapshot (is_digest is_digest_sha256_bytes)
open VerifierProcess
open TrustRecords (text? VerifiedVerifierHostTrustDecision)

/-! ## Envelopes -/

/-- `ATTESTATION_SCHEMA`. -/
def ATTESTATION_SCHEMA : String := "signed-verifier-response/v1"

/-- `MAX_ATTESTATION_BYTES`. -/
def MAX_ATTESTATION_BYTES : ℕ := 2100000

/-- `MAX_TRUSTED_VERIFIER_KEYS`. -/
def MAX_TRUSTED_VERIFIER_KEYS : ℕ := 32

/-- `MAX_ATTESTATION_AGE_SECONDS`. -/
def MAX_ATTESTATION_AGE_SECONDS : ℤ := 300

/-- `MAX_ATTESTATION_FUTURE_SKEW_SECONDS`. -/
def MAX_ATTESTATION_FUTURE_SKEW_SECONDS : ℤ := 30

/-- `_SIGNED_FIELDS`. -/
def SIGNED_FIELDS : List String :=
  ["schema", "key_id", "invocation_nonce", "request_digest", "verifier_profile_digest", "issued_at",
    "response"]

/-- `_FIELDS`. -/
def FIELDS : List String := SIGNED_FIELDS ++ ["signature"]

/-- `_DOMAIN`. -/
def DOMAIN : Bytes := encode_utf8 "agent00x-signed-verifier-response-ed25519-v1\x00"

/-- `VerifierAttestationError("verifier attestation: " + message)`. -/
def attestation_error (message : String) : Exn :=
  ⟨.VerifierAttestationError, "verifier attestation: " ++ message⟩

/-- `VerifiedVerifierAttestation`. -/
structure VerifiedVerifierAttestation : Type where
  verifier_result : VerifierResult
  key_id : String
  invocation_nonce : String
  request_digest : String
  verifier_profile_digest : String
  issued_at : String
  attestation_digest : String
  signature_valid : Bool
  independent_host_trust_established : Bool
  trust_enrollment_digest : Option String
  host_trust_decision_digest : Option String
  host_trust_decision : Option VerifiedVerifierHostTrustDecision
  signed_response_bytes : Option Bytes
  trust_enrollment_bytes : Option Bytes
  host_trust_decision_bytes : Option Bytes
  signed_request_bytes : Option Bytes
  deriving DecidableEq

/-- `{field: envelope[field] for field in _SIGNED_FIELDS}`; the order is that of
a set, and the encoding sorts the keys. -/
def signed_payload (envelope : Json) : Json :=
  .record (SIGNED_FIELDS.filterMap fun field => (envelope.get? field).map fun value => (field, value))

/-- `verifier_attestation_signing_bytes(envelope)`. -/
def verifier_attestation_signing_bytes (envelope : Json) : Except Exn Bytes := do
  raise_if (envelope.has_keys SIGNED_FIELDS = false ∧ envelope.has_keys FIELDS = false)
    (attestation_error "envelope is invalid")
  let encoded ← or_raise (attestation_error "envelope is invalid")
    (canonical_encoding (signed_payload envelope))
  raise_if (MAX_ATTESTATION_BYTES < encoded.length) (attestation_error "envelope exceeds limit")
  return DOMAIN ++ encoded

/-! ## The signer -/

/-- The dict that is signed. -/
def unsigned_envelope (key_id invocation_nonce request_digest verifier_profile_digest issued_at : String)
    (response : VerifierProcessResponse) : List (String × Json) :=
  [("schema", wire_str.json ATTESTATION_SCHEMA), ("key_id", wire_str.json key_id),
    ("invocation_nonce", wire_str.json invocation_nonce),
    ("request_digest", wire_str.json request_digest),
    ("verifier_profile_digest", wire_str.json verifier_profile_digest),
    ("issued_at", wire_str.json issued_at), ("response", response.json)]

/-- `build_signed_verifier_response(request_bytes, response_bytes, ..)`. -/
def build_signed_verifier_response (ed : Ed25519) (request_bytes response_bytes : Bytes)
    (invocation_nonce verifier_profile_digest key_id : String) (signing_key : ed.PrivateKey)
    (issued_at : Utc) : Except Exn Bytes :=
  reraise .VerifierAttestationError (attestation_error "response signing failed") do
  raise_if (request_bytes = [] ∨ MAX_VERIFIER_REQUEST_BYTES < request_bytes.length ∨ response_bytes = [] ∨
    MAX_VERIFIER_RESPONSE_BYTES < response_bytes.length ∨ is_hex 64 invocation_nonce = false ∨
    is_digest verifier_profile_digest = false ∨ is_identifier key_id = false) value_error
  let request ← canonical_request request_bytes
  let response ← parse_verifier_response response_bytes
  raise_if (canonical_encoding response.json ≠ some response_bytes) value_error
  let bound_result ← bind_verifier_response request response
  raise_if (bound_result.verifier_id ≠ invocation_nonce) value_error
  let unsigned := unsigned_envelope key_id invocation_nonce (sha256_bytes (octets request_bytes))
    verifier_profile_digest issued_at.1.format_utc response
  let message ← verifier_attestation_signing_bytes (.record unsigned)
  let signature := ed.sign signing_key message
  raise_if (signature.length ≠ 64) value_error
  let encoded ← or_raise value_error
    (canonical_encoding (.record (unsigned ++ [("signature", wire_str.json (hex_text signature))])))
  raise_if (MAX_ATTESTATION_BYTES < encoded.length) value_error
  return encoded

/-! ## The verifier -/

/-- `_parse_canonical_envelope(data)`. -/
def _parse_canonical_envelope (data : Bytes) : Except Exn Json := do
  raise_if (data = [] ∨ MAX_ATTESTATION_BYTES < data.length) (attestation_error "envelope is invalid")
  let parsed ← or_raise (attestation_error "envelope is invalid") (strict_json data)
  raise_if (parsed.is_dict = false) (attestation_error "envelope is invalid")
  let canonical ← or_raise (attestation_error "envelope is invalid") (canonical_encoding parsed)
  raise_if (canonical ≠ data) (attestation_error "envelope is invalid")
  return parsed

/-- The response inside an envelope. -/
def envelope_response (limit : ℕ) (envelope : Json) : Except Exn VerifierProcessResponse := do
  let response ← or_raise value_error (envelope.get? "response")
  let response_bytes ← or_raise value_error (canonical_encoding response)
  raise_if (limit < response_bytes.length) value_error
  parse_verifier_response response_bytes

/-- `issued_at` is neither too new nor too old. -/
def check_freshness (issued_at moment : Datetime) (max_age_seconds max_future_skew_seconds : ℤ) :
    Except Exn Unit := do
  let latest ← or_raise ⟨.OverflowError, "date value out of range"⟩ (moment.shifted max_future_skew_seconds)
  raise_if (latest < issued_at.local_microseconds) value_error
  let earliest ← or_raise ⟨.OverflowError, "date value out of range"⟩ (moment.shifted (-max_age_seconds))
  raise_if (issued_at.local_microseconds < earliest) value_error

/-- A mapping of verifier key IDs to public keys. -/
abbrev VerifierKeys : Type := List (String × Bytes)

/-- `{key: value for key, value in envelope.items() if key != "signature"}`. -/
def unsigned_of (envelope : Json) : Json := TrustRecords.without_signature envelope

/-- `verify_signed_verifier_response(envelope_bytes, prepared, ..)`. -/
def verify_signed_verifier_response (ed : Ed25519) (envelope_bytes : Bytes) (prepared : VerifierInput)
    (expected_invocation_nonce expected_verifier_profile_digest : String)
    (trusted_public_keys : VerifierKeys) (now : Utc) (max_age_seconds max_future_skew_seconds : ℤ) :
    Except Exn VerifiedVerifierAttestation :=
  reraise .VerifierAttestationError (attestation_error "response verification failed") do
  -- the source's order: the bindings of the envelope, the request, the response, freshness, and the
  -- signature last
  let envelope ← _parse_canonical_envelope envelope_bytes
  let request ← VerifierProcessRequest.from_verifier_input prepared
  raise_if (request.verifier_input.snapshot_tree_digest = none ∨
    request.verifier_input.replay_result_digest = none ∨ is_hex 64 expected_invocation_nonce = false ∨
    is_digest expected_verifier_profile_digest = false ∨ max_age_seconds < 1 ∨
    MAX_ATTESTATION_AGE_SECONDS < max_age_seconds ∨ max_future_skew_seconds < 0 ∨
    MAX_ATTESTATION_FUTURE_SKEW_SECONDS < max_future_skew_seconds) value_error
  raise_if (envelope.has_keys FIELDS = false) value_error
  raise_if (text? envelope "schema" ≠ some ATTESTATION_SCHEMA) value_error
  let key_id ← or_raise value_error (text? envelope "key_id")
  raise_if (is_identifier key_id = false) value_error
  raise_if (text? envelope "invocation_nonce" ≠ some expected_invocation_nonce) value_error
  raise_if (text? envelope "verifier_profile_digest" ≠ some expected_verifier_profile_digest) value_error
  let request_digest ← or_raise value_error (text? envelope "request_digest")
  raise_if (is_digest request_digest = false) value_error
  let issued_text ← or_raise value_error (text? envelope "issued_at")
  let signature ← or_raise value_error (text? envelope "signature")
  raise_if (is_hex 128 signature = false) value_error
  let request_bytes ← serialize_verifier_request request
  raise_if (request_digest ≠ sha256_bytes (octets request_bytes)) value_error
  let response ← envelope_response MAX_ATTESTATION_BYTES envelope
  raise_if (response.request_digest ≠ request_digest) value_error
  let verifier_result ← bind_verifier_response request response
  let issued_at ← or_raise value_error (Datetime.parse_utc issued_text)
  check_freshness issued_at now.1 max_age_seconds max_future_skew_seconds
  raise_if (MAX_TRUSTED_VERIFIER_KEYS < trusted_public_keys.length ∨
    ∃ entry ∈ trusted_public_keys, is_identifier entry.1 = false ∨ entry.2.length ≠ 32) value_error
  let public_key ← or_raise value_error (trusted_public_keys.lookup key_id)
  -- what is signed is the envelope without its signature
  let signing_bytes ← verifier_attestation_signing_bytes (unsigned_of envelope)
  let raw ← bytes_fromhex signature
  raise_if (ed.verify public_key raw signing_bytes = false) value_error
  let full_bytes ← or_raise value_error (canonical_encoding envelope)
  raise_if (MAX_ATTESTATION_BYTES < full_bytes.length) value_error
  return {
    verifier_result := verifier_result
    key_id := key_id
    invocation_nonce := expected_invocation_nonce
    request_digest := request_digest
    verifier_profile_digest := expected_verifier_profile_digest
    issued_at := issued_text
    attestation_digest := sha256_bytes (octets full_bytes)
    signature_valid := true
    independent_host_trust_established := false
    trust_enrollment_digest := none
    host_trust_decision_digest := none
    host_trust_decision := none
    signed_response_bytes := some full_bytes
    trust_enrollment_bytes := none
    host_trust_decision_bytes := none
    signed_request_bytes := some request_bytes }

/-! ## What an accepted envelope is -/

/-- What the verifier finds in an envelope. -/
structure Opened : Type where
  envelope : Json
  key_id : String
  issued_text : String
  signature : String
  request : VerifierProcessRequest
  request_bytes : Bytes
  response_json : Json
  response_bytes : Bytes
  response : VerifierProcessResponse
  issued_at : Datetime
  public_key : Bytes
  raw : Bytes
  message : Bytes

/-- The time of an envelope lies in the window around the moment,
and the ends of that window are datetimes. -/
structure Fresh (issued_at moment : Datetime) (max_age_seconds max_future_skew_seconds : ℤ) : Prop where
  latest : ∃ latest, moment.shifted max_future_skew_seconds = some latest ∧
    issued_at.local_microseconds ≤ latest
  earliest : ∃ earliest, moment.shifted (-max_age_seconds) = some earliest ∧
    earliest ≤ issued_at.local_microseconds

theorem check_freshness_ok {issued_at moment : Datetime} {age skew : ℤ} :
    check_freshness issued_at moment age skew = .ok () ↔ Fresh issued_at moment age skew := by
  simp only [check_freshness, bind_ok, exists_unit, or_raise_ok, raise_if_ok, not_lt]
  constructor
  · rintro ⟨latest, hlatest, hle, earliest, hearliest, hge⟩
    exact ⟨⟨latest, hlatest, hle⟩, ⟨earliest, hearliest, hge⟩⟩
  · rintro ⟨⟨latest, hlatest, hle⟩, ⟨earliest, hearliest, hge⟩⟩
    exact ⟨latest, hlatest, hle, earliest, hearliest, hge⟩

/-- The keys that a verifier trusts are few and well formed. -/
structure ValidKeys (keys : VerifierKeys) : Prop where
  few : keys.length ≤ MAX_TRUSTED_VERIFIER_KEYS
  valid : ∀ entry ∈ keys, is_identifier entry.1 = true ∧ entry.2.length = 32

/-- The limits that a caller may set. -/
structure ValidLimits (max_age_seconds max_future_skew_seconds : ℤ) : Prop where
  min_age : 1 ≤ max_age_seconds
  max_age : max_age_seconds ≤ MAX_ATTESTATION_AGE_SECONDS
  min_skew : 0 ≤ max_future_skew_seconds
  max_skew : max_future_skew_seconds ≤ MAX_ATTESTATION_FUTURE_SKEW_SECONDS

/-- Every check of the verifier. -/
structure Opened.Checked (o : Opened) (ed : Ed25519) (envelope_bytes : Bytes) (prepared : VerifierInput)
    (nonce profile_digest : String) (keys : VerifierKeys) (now : Utc) (age skew : ℤ) : Prop where
  length : envelope_bytes.length ≤ MAX_ATTESTATION_BYTES
  read : strict_json envelope_bytes = some o.envelope
  canonical : canonical_encoding o.envelope = some envelope_bytes
  has_keys : o.envelope.has_keys FIELDS = true
  schema : text? o.envelope "schema" = some ATTESTATION_SCHEMA
  key_id : text? o.envelope "key_id" = some o.key_id
  key_id_ok : is_identifier o.key_id = true
  named_nonce : text? o.envelope "invocation_nonce" = some nonce
  nonce_ok : is_hex 64 nonce = true
  named_profile : text? o.envelope "verifier_profile_digest" = some profile_digest
  profile_ok : is_digest profile_digest = true
  request_digest : text? o.envelope "request_digest" = some (sha256_bytes (octets o.request_bytes))
  issued_text : text? o.envelope "issued_at" = some o.issued_text
  signature : text? o.envelope "signature" = some o.signature
  signature_ok : is_hex 128 o.signature = true
  request : o.request.verifier_input = prepared
  snapshot : prepared.snapshot_tree_digest ≠ none
  replay : prepared.replay_result_digest ≠ none
  limits : ValidLimits age skew
  serialized : serialize_verifier_request o.request = .ok o.request_bytes
  response_json : o.envelope.get? "response" = some o.response_json
  response_bytes : canonical_encoding o.response_json = some o.response_bytes
  response_length : o.response_bytes.length ≤ MAX_ATTESTATION_BYTES
  response : parse_verifier_response o.response_bytes = .ok o.response
  response_digest : o.response.request_digest = sha256_bytes (octets o.request_bytes)
  shaped : o.response.verifier_result.Shaped
  result_for : o.response.verifier_result.For prepared
  issued_at : Datetime.parse_utc o.issued_text = some o.issued_at
  fresh : Fresh o.issued_at now.1 age skew
  keys_ok : ValidKeys keys
  public_key : keys.lookup o.key_id = some o.public_key
  message : verifier_attestation_signing_bytes (unsigned_of o.envelope) = .ok o.message
  raw : bytes_fromhex o.signature = .ok o.raw
  verified : ed.verify o.public_key o.raw o.message = true

/-- The record of an accepted envelope. -/
def Opened.attestation (o : Opened) (envelope_bytes : Bytes) (nonce profile_digest : String) :
    VerifiedVerifierAttestation where
  verifier_result := o.response.verifier_result
  key_id := o.key_id
  invocation_nonce := nonce
  request_digest := sha256_bytes (octets o.request_bytes)
  verifier_profile_digest := profile_digest
  issued_at := o.issued_text
  attestation_digest := sha256_bytes (octets envelope_bytes)
  signature_valid := true
  independent_host_trust_established := false
  trust_enrollment_digest := none
  host_trust_decision_digest := none
  host_trust_decision := none
  signed_response_bytes := some envelope_bytes
  trust_enrollment_bytes := none
  host_trust_decision_bytes := none
  signed_request_bytes := some o.request_bytes

/-- **What the verifier accepts**, and what it returns for it. -/
theorem verify_response_ok {ed : Ed25519} {envelope_bytes : Bytes} {prepared : VerifierInput}
    {nonce profile_digest : String} {keys : VerifierKeys} {now : Utc} {age skew : ℤ}
    {a : VerifiedVerifierAttestation} :
    verify_signed_verifier_response ed envelope_bytes prepared nonce profile_digest keys now age skew = .ok a ↔
      ∃ o : Opened, o.Checked ed envelope_bytes prepared nonce profile_digest keys now age skew ∧
        a = o.attestation envelope_bytes nonce profile_digest := by
  simp only [verify_signed_verifier_response, reraise_ok, bind_ok, exists_unit, raise_if_ok, not_or, not_lt,
    not_not, ne_eq, Bool.not_eq_false, or_raise_ok, pure, Except.pure, _parse_canonical_envelope,
    envelope_response, check_freshness_ok, Except.ok.injEq, VerifierProcessRequest.from_verifier_input,
    VerifierProcessRequest.make_ok, bind_response_ok, digest_request_ok, not_exists, not_and]
  constructor
  · rintro ⟨envelope, ⟨⟨-, hlength⟩, _, hread, -, _, hcanonical, rfl, rfl⟩, request, ⟨-, rfl⟩,
      ⟨hsnapshot, hreplay, hnonce, hprofile, h1, h2, h3, h4⟩, hkeys, hschema, key_id, hkey, hkey', hn, hp, _, hd, -,
      issued_text, hi, signature, hs, hs', data, hserialized, rfl, response,
      ⟨response_json, hj, response_bytes, hb, hl, hparse⟩, hrd, _, ⟨-, hshaped, hfor, rfl⟩, issued_at, hissued,
      hfresh, ⟨hfew, hvalid⟩, public_key, hlookup, message, hmessage, raw, hraw, hverify, _, hfull, -, rfl⟩
    -- the envelope is encoded once to be compared and once to be kept
    obtain rfl := Option.some.inj (hcanonical.symm.trans hfull)
    exact ⟨⟨_, key_id, issued_text, signature, request, data, response_json, response_bytes, response,
      issued_at, public_key, raw, message⟩, ⟨hlength, hread, hcanonical, hkeys, hschema, hkey, hkey', hn, hnonce,
      hp, hprofile, hd, hi, hs, hs', rfl, hsnapshot, hreplay, ⟨h1, h2, h3, h4⟩, hserialized, hj, hb, hl, hparse,
      hrd, hshaped, hfor, hissued, hfresh, ⟨hfew, hvalid⟩, hlookup, hmessage, hraw, hverify⟩, rfl⟩
  · rintro ⟨o, h, rfl⟩
    obtain ⟨fields, hdict, -⟩ := Json.has_keys_iff.mp h.has_keys
    have hfound := h.request
    subst hfound
    have hdict' : o.envelope.is_dict = true := by
      rw [hdict]
      rfl
    have hne : envelope_bytes ≠ [] := by
      have hcanonical := h.canonical
      rw [hdict] at hcanonical
      exact encoding_ne_nil hcanonical
    exact ⟨o.envelope, ⟨⟨hne, h.length⟩, _, h.read, hdict', _, h.canonical, rfl, rfl⟩,
      o.request, ⟨o.request.version_eq.symm, rfl⟩, ⟨h.snapshot, h.replay, h.nonce_ok, h.profile_ok,
      h.limits.min_age, h.limits.max_age, h.limits.min_skew, h.limits.max_skew⟩, h.has_keys, h.schema, _,
      h.key_id, h.key_id_ok, h.named_nonce, h.named_profile, _, h.request_digest, is_digest_sha256_bytes _, _,
      h.issued_text, _, h.signature, h.signature_ok, _, h.serialized, rfl, o.response,
      ⟨_, h.response_json, _, h.response_bytes, h.response_length, h.response⟩, h.response_digest, _,
      ⟨⟨_, h.serialized, h.response_digest⟩, h.shaped, h.result_for, rfl⟩, _, h.issued_at, h.fresh,
      ⟨h.keys_ok.few, h.keys_ok.valid⟩, _, h.public_key, _, h.message, _, h.raw, h.verified, _, h.canonical,
      h.length, rfl⟩

end AppContracts.SignedVerifier
