/-
The signed records of host trust: `verifier_trust_enrollment.py` and
`verifier_host_trust_decision.py`.

Both are dicts of texts under a signature of a pinned authority. They are checked
by the same steps with fields, limits and a domain of their own, so the steps are
stated once, for a kind of record. Whatever goes wrong is the one exception of
the kind; arguments of other types go wrong before anything is read.
-/
import AppContracts.SnapshotContents
import AppContracts.Wire
import AppContracts.Lib.Ed25519
import AppContracts.Lib.UtcTime

set_option autoImplicit false

namespace AppContracts

/-- An aware `datetime`, converted to UTC. -/
abbrev Utc : Type := { d : Datetime // d.IsUtc }

namespace TrustRecords

open GitHubSnapshot (is_digest)

/-- `raise ValueError`. -/
def value_error : Exn := ⟨.ValueError, ""⟩

/-! ## Endpoints -/

/-- `[a-z0-9](?:[a-z0-9-]{0,61}[a-z0-9])?`. -/
def is_dns_label (label : List Char) : Bool :=
  let alphanumeric (c : Char) : Bool := c.isLower || c.isDigit
  decide (label.length ≤ 63) && label.all (fun c => alphanumeric c || c == '-') &&
    label.head?.any alphanumeric && label.getLast?.any alphanumeric

/-- `_DNS_HOST.fullmatch(host)`. -/
def is_dns_host (host : String) : Bool :=
  let labels := host.toList.splitOn '.'
  decide (1 ≤ host.length ∧ host.length ≤ 253) && decide (2 ≤ labels.length) && labels.all is_dns_label

/-- `_NUMERIC_DOTTED_HOST.fullmatch(host)`. -/
def is_numeric_dotted (host : String) : Bool :=
  let labels := host.toList.splitOn '.'
  labels.length == 4 && labels.all fun label => !label.isEmpty && label.all Char.isDigit

/-- `ipaddress.ip_address(host)` returns, for a host without a colon. -/
def is_ipv4 (host : String) : Bool :=
  let labels := host.toList.splitOn '.'
  labels.length == 4 && labels.all fun label =>
    !label.isEmpty && decide (label.length ≤ 3) && label.all Char.isDigit &&
      (label == ['0'] || label.head? != some '0') && decide (Nat.ofDigitChars 10 label 0 ≤ 255)

/-- The host of `https://{host}/v1/verify` or `https://{host}:443/v1/verify`. No
other spelling gets through `_valid_endpoint`, and `urlsplit` takes these two
apart like this. -/
def endpoint_host (value : String) : Option String :=
  let cs := value.toList
  if "https://".toList.isPrefixOf cs && "/v1/verify".toList.isSuffixOf cs then
    let authority := (cs.drop 8).take (cs.length - 18)
    let host := if ":443".toList.isSuffixOf authority then authority.take (authority.length - 4)
      else authority
    some (String.ofList host)
  else none

/-- `_valid_endpoint(value)`; an enrollment also refuses `numeric` hosts. -/
def _valid_endpoint (numeric : Bool) (value : String) : Bool :=
  (endpoint_host value).any fun host =>
    host != "localhost" && !".localhost".toList.isSuffixOf host.toList && is_dns_host host &&
      !(numeric && is_numeric_dotted host) && !is_ipv4 host

example : _valid_endpoint true "https://verifier.example:443/v1/verify" = true ∧
    _valid_endpoint false "https://10.0.0.1/v1/verify" = false := by decide

/-! ## Times -/

/-- `_parse_time(value)`: a UTC time in whole seconds. -/
def _parse_time (value : String) : Option Datetime :=
  (Datetime.parse_utc value).filter fun d => d.microsecond = 0

/-- `_validate_window(issued, expires, now=now)`. -/
def _validate_window (max_window : ℤ) (issued expires now : Datetime) : Except Exn Unit := do
  raise_if (expires.local_microseconds ≤ now.local_microseconds) value_error
  raise_if (expires.local_microseconds ≤ issued.local_microseconds) value_error
  raise_if (max_window * 1000000 < expires.local_microseconds - issued.local_microseconds) value_error
  let latest ← or_raise ⟨.OverflowError, "date value out of range"⟩ (now.shifted 30)
  raise_if (latest < issued.local_microseconds) value_error

/-! ## Records -/

/-- A kind of record: its fields, each with the texts it may hold, its limits, and
the bytes in front of a signed message. -/
structure RecordKind : Type where
  fields : List (String × (String → Bool))
  max_bytes : ℕ
  max_window : ℤ
  domain : Bytes

/-- The names of the fields. -/
def RecordKind.names (kind : RecordKind) : List String := kind.fields.map Prod.fst

/-- A text field. -/
def text? (record : Json) (name : String) : Option String := (record.get? name).bind Json.text?

/-- A text field that was validated. -/
def text (record : Json) (name : String) : String := (text? record name).getD ""

/-- `record.pop("signature")`, and what is left. -/
def without_signature : Json → Json
  | .obj fields => .obj (fields.filter fun f => f.1 ≠ .text "signature")
  | record => record

/-- `_validate_fields(value)`. -/
def _validate_fields (kind : RecordKind) (value : Json) : Except Exn Unit := do
  raise_if (value.has_keys kind.names = false) value_error
  raise_if (∃ field ∈ kind.fields, (text? value field.1).any field.2 = false) value_error
  raise_if (text value "worker_host_id" = text value "verifier_host_id") value_error

/-- The record of canonical bytes. -/
def read_record (kind : RecordKind) (bytes : Bytes) : Except Exn Json := do
  raise_if (bytes = [] ∨ kind.max_bytes < bytes.length) value_error
  let record ← or_raise value_error (strict_json bytes)
  raise_if (record.has_keys (kind.names ++ ["signature"]) = false) value_error
  _validate_fields kind (without_signature record)
  let canonical ← or_raise value_error (canonical_encoding record)
  raise_if (canonical ≠ bytes) value_error
  return record

/-- A mapping of authority key IDs to public keys. -/
abbrev AuthorityKeys : Type := List (String × Bytes)

/-- The check on a mapping of pinned keys. -/
def check_authority_keys (keys : AuthorityKeys) : Except Exn Unit :=
  raise_if (keys.length < 1 ∨ 32 < keys.length ∨
    ∃ entry ∈ keys, is_identifier entry.1 = false ∨ entry.2.length ≠ 32) value_error

/-- The signature of a record verifies under the key that the record names. -/
def check_signature (ed : Ed25519) (kind : RecordKind) (keys : AuthorityKeys) (record : Json) :
    Except Exn Unit := do
  let payload := without_signature record
  let authority_key ← or_raise value_error (keys.lookup (text payload "authority_key_id"))
  let signature ← or_raise value_error (text? record "signature")
  raise_if (is_hex 128 signature = false) value_error
  let raw ← bytes_fromhex signature
  let message ← or_raise value_error (canonical_encoding payload)
  raise_if (ed.verify authority_key raw (kind.domain ++ message) = false) value_error

/-- The steps of both verifiers: the payload and its digest. `now` is `none` when
it is not an aware `datetime`. -/
def verify_record (ed : Ed25519) (kind : RecordKind) (bytes : Bytes) (keys : AuthorityKeys)
    (expected : List (String × String)) (now : Option Utc) : Except Exn (Json × String) := do
  let record ← read_record kind bytes
  let payload := without_signature record
  raise_if (∃ binding ∈ expected, text payload binding.1 ≠ binding.2) value_error
  check_authority_keys keys
  check_signature ed kind keys record
  let issued ← or_raise value_error (_parse_time (text payload "issued_at"))
  let expires ← or_raise value_error (_parse_time (text payload "expires_at"))
  let moment ← or_raise value_error now
  _validate_window kind.max_window issued expires moment.1.whole_second
  let canonical ← or_raise value_error (canonical_encoding record)
  return (payload, sha256_bytes (octets canonical))

/-- `1 <= len(value) <= 512` and no control characters. -/
def is_verifier_id (value : String) : Bool :=
  decide (1 ≤ value.length ∧ value.length ≤ 512) && value.toList.all fun c => 0x20 ≤ c.toNat

/-- The fields that both kinds have, with the endpoints they take. -/
def deployment_fields (numeric : Bool) : List (String × (String → Bool)) :=
  [("authority_key_id", is_identifier), ("endpoint_url", _valid_endpoint numeric),
    ("verifier_id", is_verifier_id), ("verifier_profile_digest", is_digest),
    ("verifier_key_id", is_identifier), ("worker_host_id", is_identifier),
    ("verifier_host_id", is_identifier), ("host_separation_evidence_digest", is_digest),
    ("issued_at", fun value => (_parse_time value).isSome),
    ("expires_at", fun value => (_parse_time value).isSome)]

/-! ## Enrollments -/

/-- `ENROLLMENT_SCHEMA`, `MAX_ENROLLMENT_BYTES`, `MAX_ENROLLMENT_WINDOW` and the
checks of an enrollment. -/
def enrollment : RecordKind where
  fields := [("schema", fun value => value == "verifier-trust-enrollment/v1"),
    ("enrollment_id", is_identifier), ("verifier_public_key", is_hex 64)] ++ deployment_fields true
  max_bytes := 65536
  max_window := 30 * 86400
  domain := encode_utf8 "agent00x-verifier-trust-enrollment-ed25519-v1\x00"

/-- `VerifiedVerifierTrustEnrollment`. -/
structure VerifiedVerifierTrustEnrollment : Type where
  enrollment_id : String
  authority_key_id : String
  endpoint_url : String
  verifier_id : String
  verifier_profile_digest : String
  verifier_key_id : String
  verifier_public_key : Bytes
  worker_host_id : String
  verifier_host_id : String
  host_separation_evidence_digest : String
  issued_at : String
  expires_at : String
  enrollment_digest : String
  authority_signature_valid : Bool
  independent_host_trust_established : Bool
  deriving DecidableEq

/-- `verify_verifier_trust_enrollment(enrollment_bytes, ..)`. -/
def verify_verifier_trust_enrollment (ed : Ed25519) (enrollment_bytes : Bytes)
    (trusted_authority_keys : AuthorityKeys)
    (expected_endpoint_url expected_verifier_id expected_verifier_profile_digest : String)
    (now : Option Utc) : Except Exn VerifiedVerifierTrustEnrollment :=
  reraise .VerifierTrustEnrollmentError
    ⟨.VerifierTrustEnrollmentError, "verifier trust enrollment: verification failed"⟩ do
  let (payload, digest) ← verify_record ed enrollment enrollment_bytes trusted_authority_keys
    [("endpoint_url", expected_endpoint_url), ("verifier_id", expected_verifier_id),
      ("verifier_profile_digest", expected_verifier_profile_digest)] now
  -- the payload's text is hexadecimal by its grammar, but `bytes.fromhex` is still called
  let public_key ← bytes_fromhex (text payload "verifier_public_key")
  return {
    enrollment_id := text payload "enrollment_id"
    authority_key_id := text payload "authority_key_id"
    endpoint_url := text payload "endpoint_url"
    verifier_id := text payload "verifier_id"
    verifier_profile_digest := text payload "verifier_profile_digest"
    verifier_key_id := text payload "verifier_key_id"
    verifier_public_key := public_key
    worker_host_id := text payload "worker_host_id"
    verifier_host_id := text payload "verifier_host_id"
    host_separation_evidence_digest := text payload "host_separation_evidence_digest"
    issued_at := text payload "issued_at"
    expires_at := text payload "expires_at"
    enrollment_digest := digest
    authority_signature_valid := true
    independent_host_trust_established := false }

/-! ## Decisions -/

/-- `DECISION_SCHEMA`, `MAX_DECISION_BYTES`, `MAX_DECISION_WINDOW` and the checks of
a decision. -/
def decision : RecordKind where
  fields := [("schema", fun value => value == "verifier-host-trust-decision/v1"),
    ("outcome", fun value => value == "approve_independent_host"), ("decision_id", is_identifier),
    ("enrollment_digest", is_digest)] ++ deployment_fields false
  max_bytes := 65536
  max_window := 24 * 3600
  domain := encode_utf8 "agent00x-verifier-host-trust-decision-ed25519-v1\x00"

/-- `VerifiedVerifierHostTrustDecision`; only the verifier makes one. -/
structure VerifiedVerifierHostTrustDecision : Type where
  decision_id : String
  authority_key_id : String
  enrollment_digest : String
  endpoint_url : String
  verifier_id : String
  verifier_profile_digest : String
  verifier_key_id : String
  worker_host_id : String
  verifier_host_id : String
  host_separation_evidence_digest : String
  issued_at : String
  expires_at : String
  decision_digest : String
  deriving DecidableEq

/-- `verify_verifier_host_trust_decision(decision_bytes, ..)`. -/
def verify_verifier_host_trust_decision (ed : Ed25519) (decision_bytes : Bytes)
    (trusted_authority_keys : AuthorityKeys)
    (expected_enrollment_digest expected_endpoint_url expected_verifier_id
      expected_verifier_profile_digest expected_verifier_key_id expected_worker_host_id
      expected_verifier_host_id expected_host_separation_evidence_digest : String)
    (now : Option Utc) : Except Exn VerifiedVerifierHostTrustDecision :=
  reraise .VerifierHostTrustDecisionError
    ⟨.VerifierHostTrustDecisionError, "verifier host trust decision: verification failed"⟩ do
  -- the eight fields the caller expects are compared inside `verify_record`
  let (payload, digest) ← verify_record ed decision decision_bytes trusted_authority_keys
    [("enrollment_digest", expected_enrollment_digest), ("endpoint_url", expected_endpoint_url),
      ("verifier_id", expected_verifier_id),
      ("verifier_profile_digest", expected_verifier_profile_digest),
      ("verifier_key_id", expected_verifier_key_id), ("worker_host_id", expected_worker_host_id),
      ("verifier_host_id", expected_verifier_host_id),
      ("host_separation_evidence_digest", expected_host_separation_evidence_digest)] now
  return {
    decision_id := text payload "decision_id"
    authority_key_id := text payload "authority_key_id"
    enrollment_digest := text payload "enrollment_digest"
    endpoint_url := text payload "endpoint_url"
    verifier_id := text payload "verifier_id"
    verifier_profile_digest := text payload "verifier_profile_digest"
    verifier_key_id := text payload "verifier_key_id"
    worker_host_id := text payload "worker_host_id"
    verifier_host_id := text payload "verifier_host_id"
    host_separation_evidence_digest := text payload "host_separation_evidence_digest"
    issued_at := text payload "issued_at"
    expires_at := text payload "expires_at"
    decision_digest := digest }

/-! ## Records without their signature -/

/-- The other fields stay. -/
theorem get_without_signature (record : Json) {name : String} (h : name ≠ "signature") :
    (without_signature record).get? name = record.get? name := by
  cases record with
  | obj fields =>
    have hkey : PyStr.text name ≠ .text "signature" := fun heq => h (PyStr.text.inj heq)
    show (fields.filter _).lookup _ = fields.lookup _
    induction fields with
    | nil => rfl
    | cons f rest ih =>
      obtain ⟨k, v⟩ := f
      rw [List.filter_cons, List.lookup_cons]
      by_cases hk : PyStr.text name = k
      · subst hk
        rw [if_pos (decide_eq_true hkey), List.lookup_cons, beq_self_eq_true]
      · have hne : (PyStr.text name == k) = false := beq_eq_false_iff_ne.mpr hk
        rw [hne]
        split_ifs
        · rw [List.lookup_cons, hne]
          exact ih
        · exact ih
  | _ => rfl

theorem has_keys_without_signature {record : Json} {names : List String} (hnot : "signature" ∉ names)
    (h : record.has_keys (names ++ ["signature"]) = true) :
    (without_signature record).has_keys names = true := by
  obtain ⟨fields, rfl, hfields, hnames⟩ := Json.has_keys_iff.mp h
  refine Json.has_keys_iff.mpr ⟨_, rfl, ?_, ?_⟩
  · intro f hf
    obtain ⟨hmem, hne⟩ := List.mem_filter.mp hf
    have hkey := hfields f hmem
    rw [List.map_append, List.mem_append] at hkey
    rcases hkey with hkey | hkey
    · exact hkey
    · exact absurd (List.mem_singleton.mp hkey) (of_decide_eq_true hne)
  · intro name hname
    obtain ⟨f, hf, hkey⟩ := List.mem_map.mp (hnames name (List.mem_append_left _ hname))
    refine List.mem_map.mpr ⟨f, List.mem_filter.mpr ⟨hf, decide_eq_true ?_⟩, hkey⟩
    rw [hkey]
    intro heq
    exact hnot (PyStr.text.inj heq ▸ hname)

/-! ## What a verified record is -/

section Verified

variable {ed : Ed25519} {kind : RecordKind} {bytes : Bytes} {keys : AuthorityKeys}
  {expected : List (String × String)}

/-- What the reader accepts: canonical bytes of a dict with the fields of the
kind. -/
theorem read_record_ok {record : Json} : read_record kind bytes = .ok record ↔
    bytes ≠ [] ∧ bytes.length ≤ kind.max_bytes ∧ strict_json bytes = some record ∧
      record.has_keys (kind.names ++ ["signature"]) = true ∧
      _validate_fields kind (without_signature record) = .ok () ∧
      canonical_encoding record = some bytes := by
  simp only [read_record, bind_ok, exists_unit, raise_if_ok, or_raise_ok, not_or, not_lt, not_not, ne_eq,
    Bool.not_eq_false, pure, Except.pure, Except.ok.injEq]
  constructor
  · rintro ⟨⟨hne, hlength⟩, _, hread, hkeys, hfields, _, hcanonical, rfl, rfl⟩
    exact ⟨hne, hlength, hread, hkeys, hfields, hcanonical⟩
  · rintro ⟨hne, hlength, hread, hkeys, hfields, hcanonical⟩
    exact ⟨⟨hne, hlength⟩, _, hread, hkeys, hfields, _, hcanonical, rfl, rfl⟩

/-- The two ends of a record's window. -/
structure Window (payload : Json) (issued expires : Datetime) : Prop where
  issued_at : _parse_time (text payload "issued_at") = some issued
  expires_at : _parse_time (text payload "expires_at") = some expires

/-- **What the verifier accepts.** Only the last condition depends on the clock. -/
theorem verify_record_ok {now : Option Utc} {payload : Json} {digest : String} :
    verify_record ed kind bytes keys expected now = .ok (payload, digest) ↔
      ∃ record, read_record kind bytes = .ok record ∧ payload = without_signature record ∧
        digest = sha256_bytes (octets bytes) ∧ (∀ binding ∈ expected, text payload binding.1 = binding.2) ∧
        check_authority_keys keys = .ok () ∧ check_signature ed kind keys record = .ok () ∧
        ∃ issued expires moment, Window payload issued expires ∧ now = some moment ∧
          _validate_window kind.max_window issued expires moment.1.whole_second = .ok () := by
  simp only [verify_record, bind_ok, exists_unit, raise_if_ok, or_raise_ok, not_exists, not_and, not_not,
    ne_eq, pure, Except.pure, Except.ok.injEq, Prod.mk.injEq]
  constructor
  · rintro ⟨record, hread, hexpected, hkeys, hsignature, issued, hissued, expires, hexpires, moment, hnow,
      hwindow, canonical, hcanonical, rfl, rfl⟩
    have hbytes := (read_record_ok.mp hread).2.2.2.2.2
    rw [hcanonical, Option.some.injEq] at hbytes
    exact ⟨record, hread, rfl, by rw [hbytes], hexpected, hkeys, hsignature, issued, expires, moment,
      ⟨hissued, hexpires⟩, hnow, hwindow⟩
  · rintro ⟨record, hread, rfl, rfl, hexpected, hkeys, hsignature, issued, expires, moment,
      ⟨hissued, hexpires⟩, hnow, hwindow⟩
    exact ⟨record, hread, hexpected, hkeys, hsignature, issued, hissued, expires, hexpires, moment, hnow,
      hwindow, bytes, (read_record_ok.mp hread).2.2.2.2.2, rfl, rfl⟩

/-- A verified record is signed: the bytes hold a record whose payload, under the
domain of its kind, has a signature that verifies under the pinned key it
names. -/
structure SignedRecord (ed : Ed25519) (kind : RecordKind) (keys : AuthorityKeys) (bytes : Bytes)
    (payload : Json) : Prop where
  pinned : 1 ≤ keys.length ∧ keys.length ≤ 32
  signed : ∃ record key signature message, strict_json bytes = some record ∧
    payload = without_signature record ∧ keys.lookup (text payload "authority_key_id") = some key ∧
    canonical_encoding payload = some message ∧ ed.verify key signature (kind.domain ++ message) = true

/-- **What was verified was signed**, whatever the clock says. -/
theorem verified_signed {now : Option Utc} {payload : Json} {digest : String}
    (h : verify_record ed kind bytes keys expected now = .ok (payload, digest)) :
    SignedRecord ed kind keys bytes payload := by
  obtain ⟨record, hread, rfl, -, -, hkeys, hsignature, -⟩ := verify_record_ok.mp h
  simp only [check_authority_keys, raise_if_ok, not_or, not_lt] at hkeys
  simp only [check_signature, bind_ok, exists_unit, raise_if_ok, or_raise_ok, Bool.not_eq_false] at hsignature
  obtain ⟨key, hkey, signature, -, -, raw, -, message, hmessage, hverify⟩ := hsignature
  exact ⟨⟨hkeys.1, hkeys.2.1⟩, record, key, raw, message, (read_record_ok.mp hread).2.2.1, rfl, hkey,
    hmessage, hverify⟩

end Verified

end TrustRecords

end AppContracts
