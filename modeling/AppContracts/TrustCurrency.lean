/-
The host trust of a verifier client: `SignedVerifierClient.from_trust_enrollment` and
`has_current_independent_host_trust` of `signed_verifier_client.py`.

The constructor lets a record be issued a little after the present, as the clocks of two
hosts may differ; the client's own check does not. A record that passes the one and not
the other was issued in between.
-/
import AppContracts.SignedVerifierAgreement

set_option autoImplicit false

namespace AppContracts.TrustCurrency

open GitHubSnapshot (json_text)
open GitHubSnapshot (is_digest_sha256_bytes)
open SignedVerifier (VerifierProfile bytes_of encoding_bytes_of sample_profile sample_ed sample_lawful sample_tree
  sample_tree_ok later_second)
open TrustRecords

/-! ## Times -/

/-- The argument `now`: no aware `datetime`; one whose time zone gives no UTC offset, which
`astimezone` reads as a local time; or an aware one. The equivalent in UTC is `none` where no
datetime can name it. -/
inductive Time : Type
  | other
  | unplaced (utc : Option Utc)
  | aware (utc : Option Utc)

/-- `_validate_now(now)`, before the fraction is cut off. -/
def Time.validated : Time → Option Utc
  | .other => none
  | .unplaced utc => utc
  | .aware utc => utc

/-! ## Clients -/

/-- `SignedVerifierHTTPSTransport`. -/
structure SignedVerifierHTTPSTransport : Type where
  endpoint_url : String

/-- `SignedVerifierClient`. -/
structure SignedVerifierClient : Type where
  profile : VerifierProfile
  transport : SignedVerifierHTTPSTransport
  trusted_public_keys : AuthorityKeys
  trust_enrollment_digest : Option String
  trust_enrollment : Option VerifiedVerifierTrustEnrollment
  trust_enrollment_bytes : Option Bytes
  host_trust_decision_digest : Option String
  host_trust_decision : Option VerifiedVerifierHostTrustDecision
  host_trust_decision_bytes : Option Bytes

/-- `SignedVerifierClientError("signed verifier client: configuration rejected")`. -/
def configuration_rejected : Exn :=
  ⟨.SignedVerifierClientError, "signed verifier client: configuration rejected"⟩

/-- `SignedVerifierClient(profile, transport, trusted_public_keys)`. -/
def SignedVerifierClient.new (profile : VerifierProfile) (transport : SignedVerifierHTTPSTransport)
    (trusted_public_keys : AuthorityKeys) : Except Exn SignedVerifierClient := do
  raise_if (trusted_public_keys.map Prod.fst ≠ [profile.signer_key_id] ∨
    ∃ key ∈ trusted_public_keys, key.2.length ≠ 32) configuration_rejected
  return ⟨profile, transport, trusted_public_keys, none, none, none, none, none, none⟩

/-- The verified decision on an enrollment, attached to its client. -/
def attach_decision (ed : Ed25519) (profile : VerifierProfile) (trusted_authority_keys : AuthorityKeys)
    (expected_endpoint_url expected_worker_host_id expected_verifier_host_id profile_digest : String)
    (enrollment : VerifiedVerifierTrustEnrollment) (client : SignedVerifierClient)
    (decision_bytes : Bytes) (now : Time) : Except Exn SignedVerifierClient := do
  let decision ← verify_verifier_host_trust_decision ed decision_bytes trusted_authority_keys
    enrollment.enrollment_digest expected_endpoint_url profile.expected_verifier_id profile_digest
    profile.signer_key_id expected_worker_host_id expected_verifier_host_id
    enrollment.host_separation_evidence_digest now.validated
  return { client with
    host_trust_decision_digest := some decision.decision_digest
    host_trust_decision := some decision
    host_trust_decision_bytes := some decision_bytes }

/-- `SignedVerifierClient.from_trust_enrollment(profile, transport, enrollment_bytes, ..)`. -/
def from_trust_enrollment (ed : Ed25519) (profile : VerifierProfile)
    (transport : SignedVerifierHTTPSTransport) (enrollment_bytes : Bytes)
    (trusted_authority_keys : AuthorityKeys)
    (expected_endpoint_url expected_worker_host_id expected_verifier_host_id : String)
    (host_trust_decision_bytes : Option Bytes) (now : Time) : Except Exn SignedVerifierClient :=
  reraise .SignedVerifierClientError configuration_rejected do
  raise_if (transport.endpoint_url ≠ expected_endpoint_url) value_error
  let profile_digest ← profile.profile_digest
  let enrollment ← verify_verifier_trust_enrollment ed enrollment_bytes trusted_authority_keys
    expected_endpoint_url profile.expected_verifier_id profile_digest now.validated
  raise_if (enrollment.verifier_key_id ≠ profile.signer_key_id ∨
    enrollment.worker_host_id ≠ expected_worker_host_id ∨
    enrollment.verifier_host_id ≠ expected_verifier_host_id ∨
    enrollment.independent_host_trust_established = true) value_error
  let client ← SignedVerifierClient.new profile transport
    [(enrollment.verifier_key_id, enrollment.verifier_public_key)]
  let enrolled := { client with
    trust_enrollment_digest := some enrollment.enrollment_digest
    trust_enrollment := some enrollment
    trust_enrollment_bytes := some enrollment_bytes }
  -- without a decision the client is enrolled, and no independent trust is claimed
  match host_trust_decision_bytes with
  | none => return enrolled
  | some decision_bytes =>
    attach_decision ed profile trusted_authority_keys expected_endpoint_url expected_worker_host_id
      expected_verifier_host_id profile_digest enrollment enrolled decision_bytes now

/-- `independent_host_trust_established`. -/
def SignedVerifierClient.independent_host_trust_established (client : SignedVerifierClient) : Bool :=
  client.host_trust_decision_digest.isSome && client.host_trust_decision.isSome

/-- `issued <= moment < expires`, for the texts of a record. -/
def is_current (issued_at expires_at : String) (moment : Datetime) : Bool :=
  match Datetime.from_zulu issued_at, Datetime.from_zulu expires_at with
  | some issued, some expires =>
    match issued.instant, expires.instant, moment.instant with
    | some issued, some expires, some moment => decide (issued ≤ moment ∧ moment < expires)
    | _, _, _ => false
  | _, _ => false

/-- `has_current_independent_host_trust(now)`; `none` for an exception of `astimezone`. -/
def SignedVerifierClient.has_current_independent_host_trust (client : SignedVerifierClient) (now : Time) :
    Option Bool :=
  match client.independent_host_trust_established, client.trust_enrollment, client.host_trust_decision with
  | true, some enrollment, some decision =>
    match now with
    | .aware utc => utc.map fun moment =>
        is_current enrollment.issued_at enrollment.expires_at moment.1 &&
          is_current decision.issued_at decision.expires_at moment.1
    | _ => some false
  | _, _, _ => some false

/-! ## The window of a verified record -/

/-- The record of some bytes was issued at the moment or before. -/
def issued_by (bytes : Bytes) (moment : Utc) : Prop :=
  ∃ record issued, strict_json bytes = some record ∧ _parse_time (text record "issued_at") = some issued ∧
    issued.local_microseconds ≤ moment.1.local_microseconds

theorem parse_time_some {value : String} {d : Datetime} (h : _parse_time value = some d) :
    Datetime.from_zulu value = some d ∧ d.IsUtc ∧ d.microsecond = 0 := by
  obtain ⟨hparse, hwhole⟩ := Option.filter_eq_some_iff.mp h
  obtain ⟨hzulu, hutc, -⟩ := Datetime.parse_utc_some.mp hparse
  exact ⟨hzulu, hutc, of_decide_eq_true hwhole⟩

/-- A whole second is a multiple of a million microseconds. -/
theorem whole_second_multiple {d : Datetime} (h : d.microsecond = 0) :
    ∃ k : ℕ, d.local_microseconds = 1000000 * k := by
  rw [Datetime.local_microseconds, h, Nat.add_zero, Int.natCast_mul]
  exact ⟨_, Int.mul_comm _ _⟩

/-- No whole second lies between a moment and its own. -/
theorem lt_of_whole_second {d moment : Datetime} (hmoment : moment.IsUtc) (hwhole : d.microsecond = 0)
    (h : moment.whole_second.local_microseconds < d.local_microseconds) :
    moment.local_microseconds < d.local_microseconds := by
  obtain ⟨i, hi⟩ := whole_second_multiple hwhole
  obtain ⟨j, hj⟩ := whole_second_multiple (d := moment.whole_second) rfl
  have hlater := (Datetime.whole_second_micros hmoment).2
  omega

section Window

variable {ed : Ed25519} {kind : RecordKind} {bytes : Bytes} {keys : AuthorityKeys}
  {expected : List (String × String)} {moment : Utc} {payload : Json} {digest : String}

/-- **A record that was verified at a moment is current then exactly if it was issued by then.** -/
theorem verified_current_iff
    (h : verify_record ed kind bytes keys expected (some moment) = .ok (payload, digest)) :
    is_current (text payload "issued_at") (text payload "expires_at") moment.1 = true ↔
      issued_by bytes moment := by
  obtain ⟨record, hread, rfl, -, -, -, -, issued, expires, moment', hwindow, hnow, hvalid⟩ :=
    verify_record_ok.mp h
  obtain rfl := Option.some.inj hnow
  obtain ⟨hissued, hissued_utc, hissued_whole⟩ := parse_time_some hwindow.issued_at
  obtain ⟨hexpires, hexpires_utc, hexpires_whole⟩ := parse_time_some hwindow.expires_at
  simp only [_validate_window, bind_ok, exists_unit, raise_if_ok, not_le] at hvalid
  -- the fraction that the constructor cuts off does not reach the end of the window
  have hend := lt_of_whole_second moment.2 hexpires_whole hvalid.1
  rw [is_current, hissued, hexpires]
  simp only [hissued_utc.instant_eq, hexpires_utc.instant_eq, moment.2.instant_eq, decide_eq_true_eq]
  have hfield : text (without_signature record) "issued_at" = text record "issued_at" := by
    rw [text, text?, get_without_signature record (by decide)]
    rfl
  constructor
  · intro hcurrent
    exact ⟨record, issued, (read_record_ok.mp hread).2.2.1, hfield ▸ hwindow.issued_at, hcurrent.1⟩
  · rintro ⟨record', issued', hrecord, hissued', hle⟩
    obtain rfl := Option.some.inj ((read_record_ok.mp hread).2.2.1.symm.trans hrecord)
    rw [← hfield] at hissued'
    obtain rfl := Option.some.inj (hwindow.issued_at.symm.trans hissued')
    exact ⟨hle, hend⟩

end Window

/-! ## Trust at construction -/

section Construction

variable {ed : Ed25519} {profile : VerifierProfile} {transport : SignedVerifierHTTPSTransport}
  {enrollment_bytes decision_bytes : Bytes} {keys : AuthorityKeys} {url worker_host verifier_host : String}
  {now : Time} {client : SignedVerifierClient}

/-- What a verified enrollment was read from. -/
theorem enrollment_ok {verifier_id profile_digest : String} {utc : Option Utc}
    {enrolled : VerifiedVerifierTrustEnrollment}
    (h : verify_verifier_trust_enrollment ed enrollment_bytes keys url verifier_id profile_digest utc =
      .ok enrolled) : ∃ payload digest,
      verify_record ed enrollment enrollment_bytes keys [("endpoint_url", url), ("verifier_id", verifier_id),
        ("verifier_profile_digest", profile_digest)] utc = .ok (payload, digest) ∧
      enrolled.issued_at = text payload "issued_at" ∧ enrolled.expires_at = text payload "expires_at" := by
  rw [verify_verifier_trust_enrollment, reraise_ok] at h
  obtain ⟨⟨payload, digest⟩, hrecord, h⟩ := bind_ok.mp h
  obtain ⟨public_key, -, h⟩ := bind_ok.mp h
  obtain rfl := Except.ok.inj h
  exact ⟨payload, digest, hrecord, rfl, rfl⟩

/-- What a verified decision was read from. -/
theorem decision_ok {a b c d e f g i : String} {utc : Option Utc} {decided : VerifiedVerifierHostTrustDecision}
    (h : verify_verifier_host_trust_decision ed decision_bytes keys a b c d e f g i utc = .ok decided) :
    ∃ expected payload digest, verify_record ed decision decision_bytes keys expected utc = .ok (payload, digest) ∧
      decided.issued_at = text payload "issued_at" ∧ decided.expires_at = text payload "expires_at" := by
  rw [verify_verifier_host_trust_decision, reraise_ok] at h
  obtain ⟨⟨payload, digest⟩, hrecord, h⟩ := bind_ok.mp h
  obtain rfl := Except.ok.inj h
  exact ⟨_, payload, digest, hrecord, rfl, rfl⟩

/-- What the constructor attaches. -/
theorem from_trust_enrollment_ok
    (h : from_trust_enrollment ed profile transport enrollment_bytes keys url worker_host verifier_host
      (some decision_bytes) now = .ok client) :
    ∃ enrolled decided moment, now.validated = some moment ∧ client.trust_enrollment = some enrolled ∧
      client.host_trust_decision = some decided ∧ client.host_trust_decision_digest.isSome = true ∧
      (is_current enrolled.issued_at enrolled.expires_at moment.1 = true ↔ issued_by enrollment_bytes moment) ∧
      (is_current decided.issued_at decided.expires_at moment.1 = true ↔ issued_by decision_bytes moment) := by
  rw [from_trust_enrollment, reraise_ok] at h
  obtain ⟨-, h⟩ := raise_if_bind.mp h
  obtain ⟨profile_digest, -, h⟩ := bind_ok.mp h
  obtain ⟨enrolled, henrolled, h⟩ := bind_ok.mp h
  obtain ⟨-, h⟩ := raise_if_bind.mp h
  obtain ⟨bare, -, h⟩ := bind_ok.mp h
  obtain ⟨decided, hdecided, h⟩ := bind_ok.mp h
  obtain rfl := Except.ok.inj h
  obtain ⟨payload, digest, hrecord, hissued, hexpires⟩ := enrollment_ok henrolled
  obtain ⟨expected, payload', digest', hrecord', hissued', hexpires'⟩ := decision_ok hdecided
  obtain ⟨-, -, -, -, -, -, -, -, -, moment, -, hnow, -⟩ := verify_record_ok.mp hrecord
  rw [hnow] at hrecord hrecord'
  refine ⟨enrolled, decided, moment, hnow, rfl, rfl, rfl, ?_, ?_⟩
  · rw [hissued, hexpires]
    exact verified_current_iff hrecord
  · rw [hissued', hexpires']
    exact verified_current_iff hrecord'

/-- **When a client that is trusted at its construction is trusted by its own check**: the time
has a UTC offset, and both records were issued by then. -/
theorem trust_current_iff
    (h : from_trust_enrollment ed profile transport enrollment_bytes keys url worker_host verifier_host
      (some decision_bytes) now = .ok client) :
    client.has_current_independent_host_trust now = some true ↔
      ∃ moment, now = .aware (some moment) ∧ issued_by enrollment_bytes moment ∧
        issued_by decision_bytes moment := by
  obtain ⟨enrolled, decided, moment, hnow, henrolled, hdecided, hdigest, hcurrent, hcurrent'⟩ :=
    from_trust_enrollment_ok h
  have hestablished : client.independent_host_trust_established = true := by
    rw [SignedVerifierClient.independent_host_trust_established, hdigest, hdecided]
    rfl
  rw [SignedVerifierClient.has_current_independent_host_trust, hestablished, henrolled, hdecided]
  cases now with
  | other => exact nomatch hnow
  | unplaced utc => exact iff_of_false nofun fun ⟨_, h, _⟩ => nomatch h
  | aware utc =>
    obtain rfl : utc = some moment := hnow
    simp only [Option.map_some, Option.some.injEq, Bool.and_eq_true, hcurrent, hcurrent', Time.aware.injEq]
    constructor
    · rintro ⟨henrollment, hdecision⟩
      exact ⟨moment, rfl, henrollment, hdecision⟩
    · rintro ⟨_, rfl, henrollment, hdecision⟩
      exact ⟨henrollment, hdecision⟩

end Construction

/-! ## What an authority signs -/

/-- A record of texts. -/
def record_json (values : List (String × String)) : Json :=
  .record (values.map fun v => (v.1, json_text v.2))

/-- The signature of a record's payload. -/
def record_signature (ed : Ed25519) (kind : RecordKind) (key : ed.PrivateKey)
    (values : List (String × String)) : String :=
  hex_text (ed.sign key (kind.domain ++ bytes_of (record_json values)))

/-- The signed record. -/
def signed_record (ed : Ed25519) (kind : RecordKind) (key : ed.PrivateKey)
    (values : List (String × String)) : Json :=
  record_json (values ++ [("signature", record_signature ed kind key values)])

/-- The texts of a kind's fields, in their order, which its reader accepts. -/
structure Fits (kind : RecordKind) (values : List (String × String)) : Prop where
  distinct : (kind.names ++ ["signature"]).Nodup
  checked : List.Forall₂ (fun v field => v.1 = field.1 ∧ field.2 v.2 = true) values kind.fields
  hosts : ∃ worker_host verifier_host, ("worker_host_id", worker_host) ∈ values ∧
    ("verifier_host_id", verifier_host) ∈ values ∧ worker_host ≠ verifier_host

section Signing

variable {ed : Ed25519} {kind : RecordKind} {key : ed.PrivateKey} {values : List (String × String)}

theorem record_json_keys : (values.map fun v => (v.1, json_text v.2)).map Prod.fst = values.map Prod.fst := by
  rw [List.map_map]
  rfl

theorem wf_without_signature {record : Json} (h : record.wf) : (without_signature record).wf := by
  cases record with
  | obj fields =>
    refine ⟨(List.filter_sublist.map _).nodup h.1, Json.wf_fields_iff.mpr fun f hf => ?_⟩
    exact Json.wf_fields_iff.mp h.2 f (List.mem_of_mem_filter hf)
  | _ => exact h

theorem wf_record_json (h : (values.map Prod.fst).Nodup) : (record_json values).wf :=
  Json.wf_record (record_json_keys ▸ h) (List.forall_mem_map.mpr fun _ _ => trivial)

theorem encodable_record_json : (record_json values).encodable false = true :=
  Json.encodable_record (List.forall_mem_map.mpr fun _ _ => rfl)

/-- The texts of a record that was written. -/
theorem text_record_json (h : (values.map Prod.fst).Nodup) {v : String × String} (hv : v ∈ values) :
    (record_json values).norm.get? v.1 = some (json_text v.2) :=
  (Json.read_of_norm (wf_record_json h)).2 (v.1, json_text v.2)
    (List.mem_map_of_mem (f := fun v : String × String => (v.1, json_text v.2)) hv)

variable (hfits : Fits kind values)
include hfits

theorem Fits.names : values.map Prod.fst = kind.names := by
  have hchecked := hfits.checked
  rw [RecordKind.names]
  generalize kind.fields = fields at hchecked
  clear hfits
  induction hchecked with
  | nil => rfl
  | cons h _ ih => rw [List.map_cons, List.map_cons, ih, h.1]

theorem Fits.value_of {field : String × (String → Bool)} (hfield : field ∈ kind.fields) :
    ∃ value, (field.1, value) ∈ values ∧ field.2 value = true := by
  have hchecked := hfits.checked
  generalize kind.fields = fields at hchecked hfield
  clear hfits
  induction hchecked with
  | nil => exact nomatch hfield
  | @cons v _ _ _ h _ ih =>
    rcases List.mem_cons.mp hfield with rfl | hfield
    · exact ⟨v.2, h.1 ▸ List.mem_cons_self, h.2⟩
    · obtain ⟨value, hvalue, hok⟩ := ih hfield
      exact ⟨value, List.mem_cons_of_mem _ hvalue, hok⟩

theorem Fits.signed_names {signature : String} :
    (values ++ [("signature", signature)]).map Prod.fst = kind.names ++ ["signature"] := by
  rw [List.map_append, hfits.names]
  rfl

theorem Fits.get_payload {v : String × String} (hv : v ∈ values) :
    (without_signature (signed_record ed kind key values).norm).get? v.1 = some (json_text v.2) := by
  have hne : v.1 ≠ "signature" := by
    have hmem : v.1 ∈ kind.names := hfits.names ▸ List.mem_map_of_mem hv
    intro heq
    exact (List.nodup_append.mp hfits.distinct).2.2 _ (heq ▸ hmem) _ (List.mem_singleton.mpr rfl) rfl
  rw [get_without_signature _ hne]
  exact text_record_json (hfits.signed_names ▸ hfits.distinct) (List.mem_append_left _ hv)

theorem Fits.payload_text {v : String × String} (hv : v ∈ values) :
    text? (without_signature (signed_record ed kind key values).norm) v.1 = some v.2 ∧
      text (without_signature (signed_record ed kind key values).norm) v.1 = v.2 := by
  have htext : text? (without_signature (signed_record ed kind key values).norm) v.1 = some v.2 := by
    rw [text?, hfits.get_payload hv]
    rfl
  exact ⟨htext, by rw [text, htext]; rfl⟩

theorem Fits.signed_wf : (signed_record ed kind key values).wf :=
  wf_record_json (hfits.signed_names ▸ hfits.distinct)

/-- The keys of the record, with and without its signature. -/
theorem Fits.keys :
    (signed_record ed kind key values).norm.has_keys (kind.names ++ ["signature"]) = true ∧
      (without_signature (signed_record ed kind key values).norm).has_keys kind.names = true := by
  obtain ⟨hkeys, -⟩ := Json.read_of_norm (@Fits.signed_wf ed _ key _ hfits)
  rw [record_json_keys, hfits.signed_names] at hkeys
  refine ⟨hkeys, has_keys_without_signature (fun hmem => ?_) hkeys⟩
  exact (List.nodup_append.mp hfits.distinct).2.2 _ hmem _ (List.mem_singleton.mpr rfl) rfl

/-- Without its signature the record is its payload. -/
theorem Fits.payload_norm :
    (without_signature (signed_record ed kind key values).norm).norm = (record_json values).norm := by
  refine Json.norm_of_read (wf_without_signature (Json.wf_norm hfits.signed_wf)) ?_ ?_
    (List.forall_mem_map.mpr fun v hv => hfits.get_payload hv)
  · rw [record_json_keys, hfits.names]
    exact (List.nodup_append.mp hfits.distinct).1
  · rw [record_json_keys, hfits.names]
    exact hfits.keys.2

/-- The reader takes what was signed. -/
theorem Fits.read (hwidth : json_width (signed_record ed kind key values) ≤ kind.max_bytes) :
    read_record kind (bytes_of (signed_record ed kind key values)) =
      .ok (signed_record ed kind key values).norm := by
  have hencoding : canonical_encoding (signed_record ed kind key values) =
      some (bytes_of (signed_record ed kind key values)) := encoding_bytes_of encodable_record_json
  have hlength := length_encoding hencoding
  have hstrict := strict_json_encoding hfits.signed_wf
    (Json.plain_record (List.forall_mem_map.mpr fun _ _ => trivial)) hencoding
  refine read_record_ok.mpr ⟨fun hempty => ?_, hlength ▸ hwidth, hstrict, hfits.keys.1, ?_, ?_⟩
  · rw [hempty] at hstrict
    cases hstrict.symm.trans (by decide : strict_json [] = none)
  · simp only [_validate_fields, bind_ok, exists_unit, raise_if_ok, hfits.keys.2]
    obtain ⟨worker_host, verifier_host, hworker, hverifier, hne⟩ := hfits.hosts
    refine ⟨by decide, ?_, ?_⟩
    · rintro ⟨field, hfield, hfails⟩
      obtain ⟨value, hvalue, hok⟩ := hfits.value_of hfield
      rw [(hfits.payload_text hvalue).1, Option.any_some, hok] at hfails
      cases hfails
    · rw [(hfits.payload_text hworker).2, (hfits.payload_text hverifier).2]
      exact hne
  · rw [canonical_encoding_norm]
    exact hencoding

/-- **What a pinned authority signs is verified**, inside its window. -/
theorem Fits.verified (laws : ed.Lawful) (key : ed.PrivateKey) (keys : AuthorityKeys)
    (expected : List (String × String)) (moment : Utc)
    (hwidth : json_width (signed_record ed kind key values) ≤ kind.max_bytes)
    (hkeys : check_authority_keys keys = .ok ()) {key_id issued_at expires_at : String}
    (hkey_id : ("authority_key_id", key_id) ∈ values)
    (hlookup : keys.lookup key_id = some (ed.public_bytes key))
    (hexpected : ∀ binding ∈ expected, binding ∈ values)
    (hissued_at : ("issued_at", issued_at) ∈ values)
    (hexpires_at : ("expires_at", expires_at) ∈ values) {issued expires : Datetime}
    (hissued : _parse_time issued_at = some issued)
    (hexpires : _parse_time expires_at = some expires)
    (hwindow : _validate_window kind.max_window issued expires moment.1.whole_second = .ok ()) :
    verify_record ed kind (bytes_of (signed_record ed kind key values)) keys expected (some moment) =
      .ok (without_signature (signed_record ed kind key values).norm,
        sha256_bytes (octets (bytes_of (signed_record ed kind key values)))) := by
  refine verify_record_ok.mpr ⟨_, hfits.read hwidth, rfl, rfl,
    fun binding hbinding => (hfits.payload_text (hexpected binding hbinding)).2, hkeys, ?_,
    issued, expires, moment, ⟨?_, ?_⟩, rfl, hwindow⟩
  · have hsignature : text? (signed_record ed kind key values).norm "signature" =
        some (record_signature ed kind key values) := by
      have hget := text_record_json (hfits.signed_names ▸ hfits.distinct) (List.mem_append_right values
        (List.mem_singleton.mpr (rfl : ("signature", record_signature ed kind key values) = _)))
      rw [text?, signed_record, hget]
      rfl
    -- the signature is over the record without it, which is what was signed
    have hmessage : canonical_encoding (without_signature (signed_record ed kind key values).norm) =
        some (bytes_of (record_json values)) :=
      (canonical_encoding_congr hfits.payload_norm).trans (encoding_bytes_of encodable_record_json)
    have hhex := is_hex_hex_text (ed.sign key (kind.domain ++ bytes_of (record_json values)))
    rw [laws.length_sign] at hhex
    simp only [check_signature, bind_ok, exists_unit, raise_if_ok, or_raise_ok, Bool.not_eq_false]
    refine ⟨ed.public_bytes key, ?_, _, hsignature, hhex, _, bytes_fromhex_hex _, _, hmessage,
      laws.verify_sign _ _⟩
    rw [(hfits.payload_text hkey_id).2]
    exact hlookup
  · rw [(hfits.payload_text hissued_at).2]
    exact hissued
  · rw [(hfits.payload_text hexpires_at).2]
    exact hexpires

/-- When a signed record was issued by a moment. -/
theorem Fits.issued_by_iff (key : ed.PrivateKey)
    (hwidth : json_width (signed_record ed kind key values) ≤ kind.max_bytes) {issued_at : String}
    (hissued_at : ("issued_at", issued_at) ∈ values) {issued : Datetime}
    (hissued : _parse_time issued_at = some issued) {moment : Utc} :
    issued_by (bytes_of (signed_record ed kind key values)) moment ↔
      issued.local_microseconds ≤ moment.1.local_microseconds := by
  have hstrict := (read_record_ok.mp (hfits.read hwidth)).2.2.1
  have htext : text (signed_record ed kind key values).norm "issued_at" = issued_at := by
    have hget := text_record_json (hfits.signed_names ▸ hfits.distinct)
      (List.mem_append_left [("signature", record_signature ed kind key values)] hissued_at)
    rw [text, text?, signed_record, hget]
    rfl
  constructor
  · rintro ⟨record, issued', hrecord, hissued', hle⟩
    obtain rfl := Option.some.inj (hstrict.symm.trans hrecord)
    rw [htext] at hissued'
    obtain rfl := Option.some.inj (hissued.symm.trans hissued')
    exact hle
  · intro hle
    exact ⟨_, issued, hstrict, htext.symm ▸ hissued, hle⟩

end Signing

/-! ### Samples -/

/-- The authority's key. -/
def sample_key : sample_ed.PrivateKey := ()

/-- The sample authority. -/
def sample_authority : AuthorityKeys := [("authority", sample_ed.public_bytes sample_key)]

/-- The texts that both sample records have. -/
def sample_deployment (issued_at : String) : List (String × String) :=
  [("authority_key_id", "authority"), ("endpoint_url", "https://verifier.example/v1/verify"),
    ("verifier_id", sample_profile.expected_verifier_id),
    ("verifier_profile_digest", sha256_bytes (canonical_bytes sample_profile.json)),
    ("verifier_key_id", "verifier-v1"), ("worker_host_id", "worker"), ("verifier_host_id", "verifier"),
    ("host_separation_evidence_digest", sample_tree), ("issued_at", issued_at),
    ("expires_at", "2026-01-01T01:00:00Z")]

/-- An enrollment. -/
def sample_enrollment : List (String × String) :=
  [("schema", "verifier-trust-enrollment/v1"), ("enrollment_id", "enrollment"),
    ("verifier_public_key", hex_text (List.replicate 32 0))] ++ sample_deployment "2026-01-01T00:00:00Z"

/-- Its bytes. -/
def sample_enrollment_bytes : Bytes := bytes_of (signed_record sample_ed enrollment sample_key sample_enrollment)

/-- A decision on it. -/
def sample_decision (issued_at : String) : List (String × String) :=
  [("schema", "verifier-host-trust-decision/v1"), ("outcome", "approve_independent_host"),
    ("decision_id", "decision"), ("enrollment_digest", sha256_bytes (octets sample_enrollment_bytes))] ++
    sample_deployment issued_at

/-- Its bytes. -/
def sample_decision_bytes (issued_at : String) : Bytes :=
  bytes_of (signed_record sample_ed decision sample_key (sample_decision issued_at))

/-- The sample time: the second in which the enrollment was issued. -/
def sample_now : Time := .aware (some later_second)

/-- The sample client's construction. -/
def sample_client (issued_at : String) : Except Exn SignedVerifierClient :=
  from_trust_enrollment sample_ed sample_profile ⟨"https://verifier.example/v1/verify"⟩ sample_enrollment_bytes
    sample_authority "https://verifier.example/v1/verify" "worker" "verifier"
    (some (sample_decision_bytes issued_at)) sample_now

/-- The verifier of a profile is named by 161 bare characters. -/
theorem sample_verifier_bare : sample_profile.expected_verifier_id.toList.all is_bare = true ∧
    sample_profile.expected_verifier_id.length = 161 := by
  obtain ⟨hbare, hlength⟩ := bare_digest sample_tree_ok
  have hid : sample_profile.expected_verifier_id = "docker-image:" ++ sample_tree ++ "/code:" ++ sample_tree := rfl
  have hstart : "docker-image:".toList.all is_bare = true ∧ "/code:".toList.all is_bare = true := by decide
  rw [hid]
  constructor
  · simp only [String.toList_append, List.all_append, hbare, hstart.1, hstart.2, Bool.and_self]
  · simp only [String.length_append, hlength]
    decide

theorem sample_deployment_checked {issued_at : String} (h : (_parse_time issued_at).isSome = true)
    (numeric : Bool) : List.Forall₂ (fun v (field : String × (String → Bool)) => v.1 = field.1 ∧ field.2 v.2 = true)
      (sample_deployment issued_at) (deployment_fields numeric) := by
  have hverifier : is_verifier_id sample_profile.expected_verifier_id = true := by
    rw [is_verifier_id, sample_verifier_bare.2, Bool.and_eq_true]
    refine ⟨by decide, List.all_eq_true.mpr fun c hc => ?_⟩
    have hbare := List.all_eq_true.mp sample_verifier_bare.1 c hc
    simp only [is_bare, Bool.and_eq_true] at hbare
    exact hbare.1.1.1
  refine .cons ⟨rfl, by decide⟩ (.cons ⟨rfl, by cases numeric <;> decide⟩ (.cons ⟨rfl, hverifier⟩ (.cons
    ⟨rfl, is_digest_sha256_bytes _⟩ (.cons ⟨rfl, by decide⟩ (.cons ⟨rfl, by decide⟩ (.cons ⟨rfl, by decide⟩
      (.cons ⟨rfl, sample_tree_ok⟩ (.cons ⟨rfl, h⟩ (.cons ⟨rfl, by decide +kernel⟩ .nil)))))))))

theorem sample_enrollment_fits : Fits enrollment sample_enrollment where
  distinct := by decide
  checked := by
    refine .cons ⟨rfl, by decide⟩ (.cons ⟨rfl, by decide⟩ (.cons ⟨rfl, ?_⟩
      (sample_deployment_checked (by decide +kernel) true)))
    exact is_hex_hex_text (List.replicate 32 0)
  hosts := ⟨"worker", "verifier", by simp [sample_enrollment, sample_deployment],
    by simp [sample_enrollment, sample_deployment], by decide⟩

theorem sample_decision_fits {issued_at : String} (h : (_parse_time issued_at).isSome = true) :
    Fits decision (sample_decision issued_at) where
  distinct := by decide
  checked := .cons ⟨rfl, by decide⟩ (.cons ⟨rfl, by decide⟩ (.cons ⟨rfl, by decide⟩ (.cons
    ⟨rfl, is_digest_sha256_bytes _⟩ (sample_deployment_checked h false))))
  hosts := ⟨"worker", "verifier", by simp [sample_decision, sample_deployment],
    by simp [sample_decision, sample_deployment], by decide⟩

/-- A record of bare texts is no wider than its names and values. -/
theorem record_json_width {values : List (String × String)} {n : ℕ}
    (hnames : (values.map Prod.fst).all (fun name => (utf8_bytes name).all bare_byte) = true)
    (hvalues : ∀ v ∈ values, v.2.toList.all is_bare = true ∧ v.2.length ≤ n) :
    json_width (record_json values) ≤ ((values.map Prod.fst).map String.length).sum + (n + 6) * values.length + 2 := by
  have hwidth := @json_width_bounded (values.map fun v => (v.1, json_text v.2)) (n + 2)
    (record_json_keys ▸ bare_names hnames) (List.forall_mem_map.mpr fun v hv => by
      obtain ⟨hbare, hlength⟩ := hvalues v hv
      exact (json_width_text hbare).trans_le (by omega))
  rw [record_json_keys, List.length_map] at hwidth
  exact hwidth

theorem sample_deployment_bare {issued_at : String}
    (h : issued_at.toList.all is_bare = true ∧ issued_at.length ≤ 161) :
    ∀ v ∈ sample_deployment issued_at, v.2.toList.all is_bare = true ∧ v.2.length ≤ 161 := by
  have hdigest : ∀ {text : String}, GitHubSnapshot.is_digest text = true →
      text.toList.all is_bare = true ∧ text.length ≤ 161 := fun hd =>
    ⟨(bare_digest hd).1, by rw [(bare_digest hd).2]; decide⟩
  simp only [sample_deployment, List.forall_mem_cons, List.not_mem_nil, false_imp_iff, implies_true, and_true]
  exact ⟨by decide, by decide, ⟨sample_verifier_bare.1, sample_verifier_bare.2.le⟩,
    hdigest (is_digest_sha256_bytes _), by decide, by decide, by decide, hdigest sample_tree_ok, h, by decide⟩

theorem sample_signature_bare (kind : RecordKind) (values : List (String × String)) :
    (record_signature sample_ed kind sample_key values).toList.all is_bare = true ∧
      (record_signature sample_ed kind sample_key values).length ≤ 161 := by
  obtain ⟨hbare, hlength⟩ := bare_hex (is_hex_hex_text (sample_ed.sign sample_key
    (kind.domain ++ bytes_of (record_json values))))
  rw [sample_lawful.length_sign] at hlength
  exact ⟨hbare, hlength.trans_le (by decide)⟩

/-- A sample record is small. -/
theorem sample_record_width {kind : RecordKind} {values : List (String × String)} (hfits : Fits kind values)
    (hnames : (kind.names ++ ["signature"]).all (fun name => (utf8_bytes name).all bare_byte) = true)
    (hsum : ((kind.names ++ ["signature"]).map fun name => (utf8_bytes name).length).sum ≤ 400)
    (hlength : kind.names.length ≤ 14)
    (hvalues : ∀ v ∈ values, v.2.toList.all is_bare = true ∧ v.2.length ≤ 161) :
    json_width (signed_record sample_ed kind sample_key values) ≤ 65536 := by
  have hall : ∀ v ∈ values ++ [("signature", record_signature sample_ed kind sample_key values)],
      v.2.toList.all is_bare = true ∧ v.2.length ≤ 161 :=
    List.forall_mem_append.mpr ⟨hvalues, List.forall_mem_singleton.mpr (sample_signature_bare kind values)⟩
  have hwidth := record_json_width (by rw [hfits.signed_names]; exact hnames) hall
  have hshort := names_length_le hsum
  have hcount : values.length = kind.names.length := by rw [← hfits.names, List.length_map]
  rw [hfits.signed_names, List.length_append, List.length_singleton, hcount] at hwidth
  rw [signed_record]
  omega

theorem sample_enrollment_width :
    json_width (signed_record sample_ed enrollment sample_key sample_enrollment) ≤ 65536 := by
  refine sample_record_width sample_enrollment_fits (by decide +kernel) (by decide +kernel) (by decide)
    (List.forall_mem_append.mpr ⟨?_, sample_deployment_bare (by decide)⟩)
  simp only [List.forall_mem_cons, List.not_mem_nil, false_imp_iff, implies_true, and_true]
  have hhex := bare_hex (is_hex_hex_text (List.replicate 32 0))
  exact ⟨by decide, by decide, hhex.1, hhex.2.trans_le (by decide)⟩

theorem sample_decision_width {issued_at : String} (htime : (_parse_time issued_at).isSome = true)
    (h : issued_at.toList.all is_bare = true ∧ issued_at.length ≤ 161) :
    json_width (signed_record sample_ed decision sample_key (sample_decision issued_at)) ≤ 65536 := by
  refine sample_record_width (sample_decision_fits htime) (by decide +kernel) (by decide +kernel) (by decide)
    (List.forall_mem_append.mpr ⟨?_, sample_deployment_bare h⟩)
  simp only [List.forall_mem_cons, List.not_mem_nil, false_imp_iff, implies_true, and_true]
  obtain ⟨hbare, hlength⟩ := bare_digest (is_digest_sha256_bytes (octets sample_enrollment_bytes))
  exact ⟨by decide, by decide, by decide, hbare, hlength.trans_le (by decide)⟩

theorem sample_enrolled : ∃ enrolled, verify_verifier_trust_enrollment sample_ed sample_enrollment_bytes
      sample_authority "https://verifier.example/v1/verify" sample_profile.expected_verifier_id
      (sha256_bytes (canonical_bytes sample_profile.json)) (some later_second) = .ok enrolled ∧
    enrolled.verifier_key_id = "verifier-v1" ∧ enrolled.worker_host_id = "worker" ∧
    enrolled.verifier_host_id = "verifier" ∧ enrolled.independent_host_trust_established = false ∧
    enrolled.verifier_public_key.length = 32 ∧ enrolled.host_separation_evidence_digest = sample_tree ∧
    enrolled.enrollment_digest = sha256_bytes (octets sample_enrollment_bytes) := by
  have hissued : _parse_time "2026-01-01T00:00:00Z" = some ⟨2026, 1, 1, 0, 0, 0, 0, some 0⟩ := by decide +kernel
  have hexpires : _parse_time "2026-01-01T01:00:00Z" = some ⟨2026, 1, 1, 1, 0, 0, 0, some 0⟩ := by decide +kernel
  have hmem : ∀ v ∈ [("authority_key_id", "authority"), ("issued_at", "2026-01-01T00:00:00Z"),
      ("expires_at", "2026-01-01T01:00:00Z"), ("endpoint_url", "https://verifier.example/v1/verify"),
      ("verifier_id", sample_profile.expected_verifier_id),
      ("verifier_profile_digest", sha256_bytes (canonical_bytes sample_profile.json)),
      ("verifier_key_id", "verifier-v1"), ("worker_host_id", "worker"), ("verifier_host_id", "verifier"),
      ("host_separation_evidence_digest", sample_tree),
      ("verifier_public_key", hex_text (List.replicate 32 0))], v ∈ sample_enrollment := by
    simp [sample_enrollment, sample_deployment]
  simp only [List.forall_mem_cons, List.not_mem_nil, false_imp_iff, implies_true, and_true] at hmem
  obtain ⟨hkey_id, hissued_at, hexpires_at, hurl, hverifier, hprofile, hkey, hworker, hhost, hevidence, hpublic⟩ := hmem
  have hrecord := sample_enrollment_fits.verified sample_lawful sample_key sample_authority
    [("endpoint_url", "https://verifier.example/v1/verify"),
      ("verifier_id", sample_profile.expected_verifier_id),
      ("verifier_profile_digest", sha256_bytes (canonical_bytes sample_profile.json))] later_second
    sample_enrollment_width (by decide) hkey_id rfl (by simp [hurl, hverifier, hprofile]) hissued_at hexpires_at
    hissued hexpires (by decide)
  have htext : ∀ {v : String × String}, v ∈ sample_enrollment →
      text (without_signature (signed_record sample_ed enrollment sample_key sample_enrollment).norm) v.1 = v.2 :=
    fun hv => (sample_enrollment_fits.payload_text hv).2
  rw [verify_verifier_trust_enrollment, sample_enrollment_bytes, hrecord, ok_bind]
  dsimp only
  rw [show text _ "verifier_public_key" = _ from htext hpublic, bytes_fromhex_hex]
  exact ⟨_, rfl, htext hkey, htext hworker, htext hhost, rfl, List.length_replicate, htext hevidence, rfl⟩

/-- A decision that was issued near the sample time is attached. -/
theorem sample_client_accepted {issued_at : String} {issued : Datetime} (hissued : _parse_time issued_at = some issued)
    (hbare : issued_at.toList.all is_bare = true ∧ issued_at.length ≤ 161)
    (hwindow : _validate_window decision.max_window issued ⟨2026, 1, 1, 1, 0, 0, 0, some 0⟩
      later_second.1.whole_second = .ok ()) : ∃ client, sample_client issued_at = .ok client := by
  have hexpires : _parse_time "2026-01-01T01:00:00Z" = some ⟨2026, 1, 1, 1, 0, 0, 0, some 0⟩ := by decide +kernel
  have htime : (_parse_time issued_at).isSome = true := by
    rw [hissued]
    rfl
  have hmem : ∀ v ∈ [("authority_key_id", "authority"), ("issued_at", issued_at),
      ("expires_at", "2026-01-01T01:00:00Z")], v ∈ sample_decision issued_at := by
    simp [sample_decision, sample_deployment]
  simp only [List.forall_mem_cons, List.not_mem_nil, false_imp_iff, implies_true, and_true] at hmem
  obtain ⟨hkey_id, hissued_at, hexpires_at⟩ := hmem
  have hbinding : ∀ v ∈ [("enrollment_digest", sha256_bytes (octets sample_enrollment_bytes)),
      ("endpoint_url", "https://verifier.example/v1/verify"),
      ("verifier_id", sample_profile.expected_verifier_id),
      ("verifier_profile_digest", sha256_bytes (canonical_bytes sample_profile.json)),
      ("verifier_key_id", "verifier-v1"), ("worker_host_id", "worker"), ("verifier_host_id", "verifier"),
      ("host_separation_evidence_digest", sample_tree)], v ∈ sample_decision issued_at := by
    simp [sample_decision, sample_deployment]
  have hrecord := (sample_decision_fits htime).verified sample_lawful sample_key sample_authority _ later_second
    (sample_decision_width htime hbare) (by decide) hkey_id rfl hbinding hissued_at hexpires_at hissued hexpires hwindow
  obtain ⟨enrolled, henrolled, hkey, hworker, hhost, htrust, hpublic, hevidence, hdigest⟩ := sample_enrolled
  -- the client takes the one key of the enrollment, of 32 bytes
  have hclient : SignedVerifierClient.new sample_profile ⟨"https://verifier.example/v1/verify"⟩
      [(enrolled.verifier_key_id, enrolled.verifier_public_key)] =
      .ok ⟨sample_profile, ⟨"https://verifier.example/v1/verify"⟩,
        [(enrolled.verifier_key_id, enrolled.verifier_public_key)], none, none, none, none, none, none⟩ := by
    refine raise_if_bind.mpr ⟨?_, rfl⟩
    rintro (hkeys | ⟨entry, hentry, hlength⟩)
    · exact hkeys (by rw [List.map_singleton, hkey]; rfl)
    · rw [List.mem_singleton.mp hentry] at hlength
      exact hlength hpublic
  -- the decision is read against the digests of this enrollment
  have hattach : ∀ bare, ∃ client, attach_decision sample_ed sample_profile sample_authority
      "https://verifier.example/v1/verify" "worker" "verifier" (sha256_bytes (canonical_bytes sample_profile.json))
      enrolled bare (sample_decision_bytes issued_at) sample_now = .ok client := by
    intro bare
    rw [attach_decision, hdigest, hevidence, verify_verifier_host_trust_decision, sample_decision_bytes]
    exact ⟨_, bind_ok.mpr ⟨_, reraise_ok.mpr (bind_ok.mpr ⟨_, hrecord, rfl⟩), rfl⟩⟩
  obtain ⟨client, hclient'⟩ := hattach _
  refine ⟨client, reraise_ok.mpr (bind_ok.mpr ⟨(), raise_if_ok.mpr (fun h => h rfl), bind_ok.mpr ⟨_,
    VerifierProfile.digest_ok _, bind_ok.mpr ⟨enrolled, henrolled, bind_ok.mpr ⟨(), raise_if_ok.mpr ?_,
      bind_ok.mpr ⟨_, hclient, hclient'⟩⟩⟩⟩⟩)⟩
  rw [hkey, hworker, hhost, htrust]
  exact fun h => h.elim (fun h => h rfl) fun h => h.elim (fun h => h rfl) fun h => h.elim (fun h => h rfl) (by rintro ⟨⟩)

theorem sample_decision_issued {issued_at : String} {issued : Datetime} (hissued : _parse_time issued_at = some issued)
    (hbare : issued_at.toList.all is_bare = true ∧ issued_at.length ≤ 161) :
    issued_by (sample_decision_bytes issued_at) later_second ↔
      issued.local_microseconds ≤ later_second.1.local_microseconds := by
  have htime : (_parse_time issued_at).isSome = true := by
    rw [hissued]
    rfl
  exact (sample_decision_fits htime).issued_by_iff sample_key (sample_decision_width htime hbare)
    (by simp [sample_decision, sample_deployment]) hissued

/-- The authority's clock is half a minute ahead: the client is constructed as trusted, and its
own check refuses it. -/
theorem early_decision_refused :
    ∃ client, sample_client "2026-01-01T00:00:30Z" = .ok client ∧
      client.independent_host_trust_established = true ∧
      client.has_current_independent_host_trust sample_now = some false := by
  have hissued : _parse_time "2026-01-01T00:00:30Z" = some ⟨2026, 1, 1, 0, 0, 30, 0, some 0⟩ := by decide +kernel
  have hbare : "2026-01-01T00:00:30Z".toList.all is_bare = true ∧ "2026-01-01T00:00:30Z".length ≤ 161 := by decide
  obtain ⟨client, hclient⟩ := sample_client_accepted hissued hbare (by decide)
  obtain ⟨enrolled, decided, moment, hnow, henrolled, hdecided, hdigest, -, hcurrent⟩ :=
    from_trust_enrollment_ok hclient
  obtain rfl := Option.some.inj hnow
  have hfuture : ¬ issued_by (sample_decision_bytes "2026-01-01T00:00:30Z") later_second := by
    rw [sample_decision_issued hissued hbare]
    decide
  have hestablished : client.independent_host_trust_established = true := by
    rw [SignedVerifierClient.independent_host_trust_established, hdigest, hdecided]
    rfl
  refine ⟨client, hclient, hestablished, ?_⟩
  rw [SignedVerifierClient.has_current_independent_host_trust, hestablished, henrolled, hdecided]
  rw [← hcurrent, Bool.not_eq_true] at hfuture
  show some (is_current _ _ _ && is_current _ _ _) = _
  rw [hfuture, Bool.and_false]

/-- With both clocks at the same second it is trusted by both. -/
theorem sample_client_current :
    ∃ client, sample_client "2026-01-01T00:00:00Z" = .ok client ∧
      client.has_current_independent_host_trust sample_now = some true := by
  have hissued : _parse_time "2026-01-01T00:00:00Z" = some ⟨2026, 1, 1, 0, 0, 0, 0, some 0⟩ := by decide +kernel
  have hbare : "2026-01-01T00:00:00Z".toList.all is_bare = true ∧ "2026-01-01T00:00:00Z".length ≤ 161 := by decide
  obtain ⟨client, hclient⟩ := sample_client_accepted hissued hbare (by decide)
  refine ⟨client, hclient, (trust_current_iff hclient).mpr ⟨later_second, rfl, ?_, ?_⟩⟩
  · exact (sample_enrollment_fits.issued_by_iff sample_key sample_enrollment_width
      (by simp [sample_enrollment, sample_deployment]) hissued).mpr le_rfl
  · exact (sample_decision_issued hissued hbare).mpr le_rfl

end AppContracts.TrustCurrency
