/-
One exchange with a signed verifier, from the request to the accepted response.

What the service signs is within every limit and reads back on the caller's side
to the record it was made from, so a fresh response is accepted. An envelope that
is accepted names its nonce, its profile and its request.
-/
import AppContracts.SignedVerifierService
import Mathlib.Algebra.Order.BigOperators.Group.List
import Mathlib.Algebra.Order.Ring.Nat

set_option autoImplicit false

namespace AppContracts.SignedVerifier

open GitHubSnapshot (is_digest is_digest_sha256_bytes)
open VerifierProcess
open TrustRecords (text? without_signature)

/-! ## Sizes -/

theorem bare_alphanumeric {c : Char} (h : c.isAlphanum = true) : is_bare c = true := by
  have hval : c.toNat = c.val.toNat := rfl
  simp only [Char.isAlphanum, alpha_eq, upper_eq, lower_eq, Char.isDigit, Bool.or_eq_true,
    Bool.and_eq_true, decide_eq_true_eq, UInt32.le_iff_toNat_le] at h
  simp only [is_bare, hval, Bool.and_eq_true, decide_eq_true_eq, bne_iff_ne, ne_eq]
  rcases h with (h | h) | h
  · have hlow : 65 ≤ c.val.toNat := h.1
    have hhigh : c.val.toNat ≤ 90 := h.2
    omega
  · have hlow : 97 ≤ c.val.toNat := h.1
    have hhigh : c.val.toNat ≤ 122 := h.2
    omega
  · have hlow : 48 ≤ c.val.toNat := h.1
    have hhigh : c.val.toNat ≤ 57 := h.2
    omega

theorem bare_identifier {s : String} (h : is_identifier s = true) :
    s.toList.all is_bare = true ∧ s.length ≤ 128 := by
  have hother : ∀ c ∈ "._:-".toList, is_bare c = true := List.all_eq_true.mp (by decide)
  unfold is_identifier at h
  rw [← String.length_toList]
  generalize s.toList = cs at h ⊢
  rcases cs with _ | ⟨c, rest⟩
  · cases h
  · simp only [Bool.and_eq_true, decide_eq_true_eq, List.all_eq_true, Bool.or_eq_true,
      List.contains_iff_mem] at h
    obtain ⟨⟨hfirst, hlength⟩, hrest⟩ := h
    refine ⟨List.all_eq_true.mpr fun d hd => ?_, by rw [List.length_cons]; omega⟩
    rcases List.mem_cons.mp hd with rfl | hd
    · exact bare_alphanumeric hfirst
    · exact (hrest d hd).elim bare_alphanumeric (hother d)

theorem bare_blocker_code {s : String} (h : is_blocker_code s = true) :
    s.toList.all is_bare = true ∧ s.length ≤ 64 := by
  have hother : ∀ c ∈ "._-".toList, is_bare c = true := List.all_eq_true.mp (by decide)
  have hlower : ∀ c : Char, c.isLower = true ∨ c.isDigit = true → is_bare c = true := by
    intro c hc
    refine bare_alphanumeric ?_
    rw [Char.isAlphanum, alpha_eq]
    rcases hc with hc | hc <;> simp [hc]
  unfold is_blocker_code at h
  rw [← String.length_toList]
  generalize s.toList = cs at h ⊢
  rcases cs with _ | ⟨c, rest⟩
  · cases h
  · simp only [Bool.and_eq_true, decide_eq_true_eq, List.all_eq_true, Bool.or_eq_true,
      List.contains_iff_mem] at h
    obtain ⟨⟨hfirst, hlength⟩, hrest⟩ := h
    refine ⟨List.all_eq_true.mpr fun d hd => ?_, by rw [List.length_cons]; omega⟩
    rcases List.mem_cons.mp hd with rfl | hd
    · exact hlower _ hfirst
    · exact (hrest d hd).elim (hlower d) (hother d)

theorem bare_image_label {s : String} (h : is_image_label s = true) :
    s.toList.all is_bare = true ∧ s.length ≤ 161 := by
  simp only [is_image_label, Bool.and_eq_true] at h
  obtain ⟨⟨⟨hhead, himage⟩, hmiddle⟩, hcode⟩ := h
  obtain ⟨image, htext⟩ := List.isPrefixOf_iff_prefix.mp hhead
  have hdrop : s.toList.drop "docker-image:".length = image := by
    rw [← htext]
    exact List.drop_left
  rw [hdrop] at himage hmiddle hcode
  obtain ⟨code, hrest⟩ := List.isPrefixOf_iff_prefix.mp hmiddle
  have hdrop' : (image.drop 71).drop "/code:".length = code := by
    rw [← hrest]
    exact List.drop_left
  rw [hdrop'] at hcode
  have hbare := bare_digest himage
  have hbare' := bare_digest hcode
  rw [String.toList_ofList, String.length_ofList] at hbare hbare'
  -- the label is its three parts, each of bare characters
  have htake : image = image.take 71 ++ ("/code:".toList ++ code) := by
    rw [hrest]
    exact (List.take_append_drop 71 image).symm
  rw [← String.length_toList, ← htext, htake]
  constructor
  · rw [List.all_append, List.all_append, List.all_append, hbare.1, hbare'.1]
    decide
  · rw [List.length_append, List.length_append, List.length_append, hbare.2, hbare'.2]
    decide

theorem bare_label {s : String} (h : _is_safe_label s = true) :
    s.toList.all is_bare = true ∧ s.length ≤ 161 := by
  rw [_is_safe_label, Bool.or_eq_true] at h
  rcases h with h | h
  · exact ⟨(bare_identifier h).1, (bare_identifier h).2.trans (by decide)⟩
  · exact bare_image_label h

/-- The width of a label. -/
theorem width_label {s : String} (h : _is_safe_label s = true) :
    json_width (result_str.json s) ≤ 163 := by
  have hwidth := json_width_text (bare_label h).1
  have hlength := (bare_label h).2
  show json_width (.str (.text s)) ≤ 163
  omega

theorem width_digest {s : String} (h : is_digest s = true) : json_width (result_str.json s) ≤ 163 := by
  have hwidth := json_width_text (bare_digest h).1
  have hlength := (bare_digest h).2
  show json_width (.str (.text s)) ≤ 163
  omega

theorem width_optional {s : Option String} (h : ∀ digest ∈ s, is_digest digest = true) :
    json_width (result_optional_str.json s) ≤ 163 := by
  rcases s with _ | s
  · decide
  · exact width_digest (h s rfl)

theorem width_codes {codes : List String} (hcount : codes.length ≤ MAX_VERIFIER_BLOCKER_CODES)
    (h : ∀ code ∈ codes, is_blocker_code code = true) : json_width (result_codes.json codes) ≤ 1074 := by
  have hitems := json_width_arr (codes.map result_str.json)
  rw [List.map_map] at hitems
  have hsum := List.sum_le_card_nsmul (codes.map ((fun j => json_width j + 1) ∘ result_str.json)) 67
    (List.forall_mem_map.mpr fun code hcode => by
      have hwidth := json_width_text (bare_blocker_code (h code hcode)).1
      have hlength := (bare_blocker_code (h code hcode)).2
      show json_width (.str (.text code)) + 1 ≤ 67
      omega)
  rw [List.length_map, Nat.nsmul_eq_mul] at hsum
  have hmax : codes.length * 67 ≤ 16 * 67 := Nat.mul_le_mul_right 67 hcount
  show json_width (.arr (codes.map result_str.json)) ≤ 1074
  omega

/-- A valid result is short. -/
theorem width_result {r : VerifierResult} (h : r.Shaped) : json_width r.json ≤ 4000 := by
  have hrecord : json_width r.json ≤ _ := json_width_record (by
    simp only [VerifierResult.fields_keys]
    decide)
  have hverdict : json_width (result_str.json r.verdict.value) ≤ 163 := by
    cases r.verdict <;> decide
  have horigin : json_width (result_str.json r.evidence_origin) ≤ 163 := by
    rw [h.evidence_origin]
    decide
  have hlabels := And.intro (width_label h.process_id) (And.intro (width_label h.base_commit)
    (width_label h.verifier_id))
  have hoptional := And.intro (width_optional h.snapshot_tree_digest) (width_optional h.replay_result_digest)
  have hdigests := And.intro (width_digest h.patch_digest) (And.intro (width_digest h.evidence_digest)
    (And.intro (width_digest h.verification_digest) (width_digest h.verified_contents_digest)))
  have hcodes := width_codes h.blocker_count h.blocker_codes
  have hkeys : (VERIFIER_RESULT_FIELDS.map String.length).sum ≤ 300 :=
    names_length_le (by decide +kernel)
  simp only [VERIFIER_RESULT_FIELDS, List.map_cons, List.map_nil, List.sum_cons, List.sum_nil] at hkeys
  simp only [VerifierResult.fields, List.map_cons, List.map_nil, List.sum_cons, List.sum_nil] at hrecord
  omega

/-- A response to a valid result is short. -/
theorem width_response {r : VerifierProcessResponse} (h : r.verifier_result.Shaped) :
    json_width r.json ≤ 5000 := by
  have hrecord : json_width r.json ≤ _ := json_width_record (by
    simp only [List.map_cons, List.map_nil]
    decide)
  have hversion : json_width (.int r.schema_version) ≤ 163 := by
    rw [r.version_eq]
    decide
  have hdigest := width_digest r.digest_ok
  have hresult := width_result h
  have hkeys : "schema_version".length = 14 ∧ "request_digest".length = 14 ∧
      "verifier_result".length = 15 := by decide
  simp only [List.map_cons, List.map_nil, List.sum_cons, List.sum_nil, hkeys] at hrecord
  omega

/-- Timestamps are short and bare. -/
theorem bare_format_utc (d : Datetime) :
    d.format_utc.toList.all is_bare = true ∧ d.format_utc.length ≤ 27 := by
  have hdigit : ∀ n, is_bare (Datetime.digit n) = true := by
    intro n
    have hcode := Datetime.digit_code n
    simp only [is_bare, hcode, Bool.and_eq_true, decide_eq_true_eq, bne_iff_ne, ne_eq]
    omega
  have hsep : is_bare '-' = true ∧ is_bare 'T' = true ∧ is_bare ':' = true ∧ is_bare '.' = true ∧
      is_bare 'Z' = true := by decide
  rw [← String.length_toList, Datetime.format_utc, String.toList_ofList, Datetime.stamp]
  by_cases hzero : d.microsecond = 0
  · simp [hzero, hdigit, hsep, Datetime.four, Datetime.two]
  · simp [hzero, hdigit, hsep, Datetime.four, Datetime.two, Datetime.six]

/-! ## Envelopes -/

section Envelope

variable {key_id nonce request_digest profile_digest : String} {issued_at : Datetime}
  {response : VerifierProcessResponse}

/-- The signed part of an envelope is no wider than its response and some. -/
theorem width_unsigned (hkey : is_identifier key_id = true) (hnonce : is_hex 64 nonce = true)
    (hrequest : is_digest request_digest = true) (hprofile : is_digest profile_digest = true)
    (hresult : response.verifier_result.Shaped) (more : List (String × Json))
    (hmore : (more.map Prod.fst).all (fun key => key.toList.all is_bare) = true) :
    json_width (.record (unsigned_envelope key_id nonce request_digest profile_digest
      issued_at.format_utc response ++ more)) ≤
        (more.map fun f => f.1.length + json_width f.2 + 4).sum + 6000 := by
  have hrecord := @json_width_record (unsigned_envelope key_id nonce request_digest profile_digest
    issued_at.format_utc response ++ more) (by
      rw [List.map_append, List.all_append, hmore, Bool.and_true]
      simp only [unsigned_envelope, List.map_cons, List.map_nil]
      decide)
  have hschema : json_width (wire_str.json ATTESTATION_SCHEMA) ≤ 163 := by decide
  have hkey' := json_width_text (bare_identifier hkey).1
  have hnonce' := json_width_text (bare_hex hnonce).1
  have hrequest' := json_width_text (bare_digest hrequest).1
  have hprofile' := json_width_text (bare_digest hprofile).1
  have hissued' := json_width_text (bare_format_utc issued_at).1
  have hresponse := width_response hresult
  have hlengths := And.intro (bare_identifier hkey).2 (And.intro (bare_hex hnonce).2
    (And.intro (bare_digest hrequest).2 (And.intro (bare_digest hprofile).2 (bare_format_utc issued_at).2)))
  have hvalues : json_width (wire_str.json key_id) = key_id.length + 2 ∧
      json_width (wire_str.json nonce) = nonce.length + 2 ∧
      json_width (wire_str.json request_digest) = request_digest.length + 2 ∧
      json_width (wire_str.json profile_digest) = profile_digest.length + 2 ∧
      json_width (wire_str.json issued_at.format_utc) = issued_at.format_utc.length + 2 :=
    ⟨hkey', hnonce', hrequest', hprofile', hissued'⟩
  -- the names of the fields are summed up once, not rendered
  have hkeys : (SIGNED_FIELDS.map String.length).sum ≤ 300 := names_length_le (by decide +kernel)
  simp only [SIGNED_FIELDS, List.map_cons, List.map_nil, List.sum_cons, List.sum_nil] at hkeys
  refine hrecord.trans ?_
  simp only [unsigned_envelope, List.map_append, List.sum_append, List.map_cons, List.map_nil,
    List.sum_cons, List.sum_nil]
  omega

/-- What holds of texts and of the response holds of every signed field. -/
theorem forall_unsigned {P : Json → Prop} (hstr : ∀ s, P (wire_str.json s)) (hresponse : P response.json)
    (issued_text : String) : ∀ f ∈ unsigned_envelope key_id nonce request_digest profile_digest issued_text
      response, P f.2 := by
  simp only [unsigned_envelope, List.forall_mem_cons, List.not_mem_nil, false_imp_iff, implies_true,
    and_true]
  exact ⟨hstr _, hstr _, hstr _, hstr _, hstr _, hstr _, hresponse⟩

/-- The whole envelope. -/
def full_envelope (key_id nonce request_digest profile_digest issued_text : String)
    (response : VerifierProcessResponse) (signature : String) : List (String × Json) :=
  unsigned_envelope key_id nonce request_digest profile_digest issued_text response ++
    [("signature", wire_str.json signature)]

theorem forall_full {P : Json → Prop} (hstr : ∀ s, P (wire_str.json s)) (hresponse : P response.json)
    (issued_text signature : String) : ∀ f ∈ full_envelope key_id nonce request_digest profile_digest
      issued_text response signature, P f.2 := by
  intro f hf
  rcases List.mem_append.mp hf with hf | hf
  · exact forall_unsigned hstr hresponse issued_text f hf
  · rw [List.mem_singleton.mp hf]
    exact hstr _

variable (key_id nonce request_digest profile_digest response) (issued_text signature : String)

theorem wf_full : (Json.record (full_envelope key_id nonce request_digest profile_digest issued_text response
    signature)).wf :=
  Json.wf_record (by simp [full_envelope, unsigned_envelope])
    (forall_full (fun _ => trivial) response.wf_json issued_text signature)

theorem plain_full : (Json.record (full_envelope key_id nonce request_digest profile_digest issued_text
    response signature)).plain :=
  Json.plain_record (forall_full (fun _ => trivial) response.plain_json issued_text signature)

theorem encodable_full : (Json.record (full_envelope key_id nonce request_digest profile_digest issued_text
    response signature)).encodable false = true :=
  Json.encodable_record (forall_full (P := fun j => j.encodable false = true) (fun _ => rfl)
    response.encodable_json issued_text signature)

theorem wf_unsigned : (Json.record (unsigned_envelope key_id nonce request_digest profile_digest issued_text
    response)).wf :=
  Json.wf_record (by simp [unsigned_envelope]) (forall_unsigned (fun _ => trivial) response.wf_json issued_text)

theorem encodable_unsigned : (Json.record (unsigned_envelope key_id nonce request_digest profile_digest
    issued_text response)).encodable false = true :=
  Json.encodable_record (forall_unsigned (P := fun j => j.encodable false = true) (fun _ => rfl)
    response.encodable_json issued_text)

end Envelope

/-- The signed payload of a dict that has the signed fields. -/
theorem signed_payload_eq {envelope : Json} {fields : List (String × Json)}
    (hkeys : fields.map Prod.fst = SIGNED_FIELDS) (hget : ∀ f ∈ fields, envelope.get? f.1 = some f.2) :
    signed_payload envelope = .record fields := by
  have hfields : (fields.filterMap fun f => (envelope.get? f.1).map fun value => (f.1, value)) = fields := by
    rw [List.filterMap_congr (g := some) fun f hf => by rw [hget f hf, Option.map_some], List.filterMap_some]
  rw [signed_payload, ← hkeys, List.filterMap_map]
  exact congrArg _ hfields

/-- What is signed is the encoding of the signed fields, whether or not their values are normal. -/
theorem signing_bytes_eq {envelope : Json} {fields found : List (String × Json)}
    (hkeys : found.map Prod.fst = SIGNED_FIELDS) (henvelope : envelope.has_keys SIGNED_FIELDS = true)
    (hget : ∀ f ∈ found, envelope.get? f.1 = some f.2)
    (hnorm : (Json.record found).norm = (Json.record fields).norm)
    (hencodable : (Json.record fields).encodable false = true)
    (hwidth : json_width (.record fields) ≤ MAX_ATTESTATION_BYTES) :
    verifier_attestation_signing_bytes envelope =
      .ok (DOMAIN ++ encode_utf8 (String.ofList ((Json.record fields).norm.print false))) := by
  have hencoded : canonical_encoding (.record fields) =
      some (encode_utf8 (String.ofList ((Json.record fields).norm.print false))) :=
    canonical_encoding_some.mpr ⟨hencodable, rfl⟩
  have hlength := length_encoding hencoded
  rw [verifier_attestation_signing_bytes, signed_payload_eq hkeys hget, canonical_encoding_congr hnorm,
    hencoded]
  simp only [raise_if, henvelope, Bool.true_eq_false, false_and, if_false, or_raise, ok_bind]
  rw [if_neg (by omega)]
  rfl

/-! ## Signing -/

/-- Canonical bytes, for a value that has some. -/
def bytes_of (value : Json) : Bytes := encode_utf8 (String.ofList (value.norm.print false))

theorem encoding_bytes_of {value : Json} (h : value.encodable false = true) :
    canonical_encoding value = some (bytes_of value) :=
  canonical_encoding_some.mpr ⟨h, rfl⟩

/-- The bytes that the signer signs. -/
def signed_message (key_id nonce request_digest profile_digest issued_text : String)
    (response : VerifierProcessResponse) : Bytes :=
  DOMAIN ++ bytes_of (.record (unsigned_envelope key_id nonce request_digest profile_digest issued_text
    response))

/-- A response to a request under a nonce. -/
structure Answers (response : VerifierProcessResponse) (request : VerifierProcessRequest) (data : Bytes)
    (nonce : String) : Prop where
  serialized : serialize_verifier_request request = .ok data
  request_digest : response.request_digest = sha256_bytes (octets data)
  shaped : response.verifier_result.Shaped
  result_for : response.verifier_result.For request.verifier_input
  verifier_id : response.verifier_result.verifier_id = nonce

section Exchange

variable {ed : Ed25519} {request : VerifierProcessRequest} {data : Bytes}
  {response : VerifierProcessResponse} {nonce profile_digest key_id : String}

theorem Answers.bound (h : Answers response request data nonce) :
    bind_verifier_response request response = .ok response.verifier_result :=
  bind_response_ok.mpr ⟨digest_request_ok.mpr ⟨data, h.serialized, h.request_digest⟩, h.shaped,
    h.result_for, rfl⟩

theorem Answers.data_ok (h : Answers response request data nonce) :
    data ≠ [] ∧ data.length ≤ MAX_VERIFIER_REQUEST_BYTES := by
  obtain ⟨-, hencoded, hlength⟩ := serialize_ok.mp h.serialized
  exact ⟨encoding_ne_nil hencoded, hlength⟩

/-- The response reads back. -/
theorem Answers.reads (h : Answers response request data nonce) :
    read_response response.json.norm = .ok response :=
  read_response_json h.shaped.evidence_origin h.shaped.blocker_count h.shaped.blocker_codes

theorem Answers.parses (h : Answers response request data nonce) :
    parse_verifier_response (bytes_of response.json) = .ok response :=
  parse_response_ok.mpr ⟨_, strict_json_encoding response.wf_json response.plain_json
    (encoding_bytes_of response.encodable_json), h.reads⟩

/-- The envelope that the signer returns. -/
def envelope_of (ed : Ed25519) (signing_key : ed.PrivateKey)
    (key_id nonce request_digest profile_digest issued_text : String) (response : VerifierProcessResponse) :
    List (String × Json) :=
  full_envelope key_id nonce request_digest profile_digest issued_text response
    (hex_text (ed.sign signing_key
      (signed_message key_id nonce request_digest profile_digest issued_text response)))

/-- A signature's width. -/
theorem width_signature {raw : Bytes} (hraw : raw.length = 64) :
    json_width (wire_str.json (hex_text raw)) = 130 := by
  have hbare := bare_hex (is_hex_hex_text raw)
  have hwidth := json_width_text hbare.1
  rw [hbare.2, hraw] at hwidth
  exact hwidth

/-- An envelope's width is within its limit. -/
theorem width_envelope (hshaped : response.verifier_result.Shaped)
    (hnonce : is_hex 64 nonce = true) (hprofile : is_digest profile_digest = true)
    (hkey : is_identifier key_id = true) (issued_at : Datetime) {raw : Bytes} (hraw : raw.length = 64) :
    json_width (.record (full_envelope key_id nonce response.request_digest profile_digest
      issued_at.format_utc response (hex_text raw))) ≤ MAX_ATTESTATION_BYTES := by
  have hwidth := @width_unsigned _ _ _ _ issued_at _ hkey hnonce response.digest_ok hprofile hshaped
    [("signature", wire_str.json (hex_text raw))] (by simp only [List.map_cons, List.map_nil]; decide)
  have hname : "signature".length = 9 := by decide
  simp only [List.map_cons, List.map_nil, List.sum_cons, List.sum_nil, hname, width_signature hraw] at hwidth
  exact hwidth.trans (by decide)

/-- What the signer signs. -/
theorem Answers.signing (h : Answers response request data nonce)
    (hnonce : is_hex 64 nonce = true) (hprofile : is_digest profile_digest = true)
    (hkey : is_identifier key_id = true) (issued_at : Datetime) {envelope : Json}
    (found : List (String × Json)) (hkeys : found.map Prod.fst = SIGNED_FIELDS)
    (henvelope : envelope.has_keys SIGNED_FIELDS = true)
    (hget : ∀ f ∈ found, envelope.get? f.1 = some f.2)
    (hnorm : (Json.record found).norm = (Json.record (unsigned_envelope key_id nonce response.request_digest
      profile_digest issued_at.format_utc response)).norm) :
    verifier_attestation_signing_bytes envelope = .ok (signed_message key_id nonce response.request_digest
      profile_digest issued_at.format_utc response) := by
  have hwidth := @width_unsigned _ _ _ _ issued_at _ hkey hnonce response.digest_ok hprofile h.shaped [] rfl
  rw [List.append_nil, List.map_nil, List.sum_nil, Nat.zero_add] at hwidth
  exact signing_bytes_eq hkeys henvelope hget hnorm (encodable_unsigned _ _ _ _ _ _)
    (hwidth.trans (by decide))

/-- What the signer needs, step by step. -/
theorem build_of (h : Answers response request data nonce) {encoded message : Bytes} {issued_at : Utc}
    {signing_key : ed.PrivateKey} (hnonce : is_hex 64 nonce = true) (hprofile : is_digest profile_digest = true)
    (hkey : is_identifier key_id = true)
    (hmessage : verifier_attestation_signing_bytes (.record (unsigned_envelope key_id nonce
      response.request_digest profile_digest issued_at.1.format_utc response)) = .ok message)
    (hraw : (ed.sign signing_key message).length = 64)
    (hencoded : canonical_encoding (.record (full_envelope key_id nonce response.request_digest profile_digest
      issued_at.1.format_utc response (hex_text (ed.sign signing_key message)))) = some encoded)
    (hwidth : encoded.length ≤ MAX_ATTESTATION_BYTES) :
    build_signed_verifier_response ed data (bytes_of response.json) nonce profile_digest key_id signing_key
      issued_at = .ok encoded := by
  have hresponse : canonical_encoding response.json = some (bytes_of response.json) :=
    encoding_bytes_of response.encodable_json
  have hlong : json_width response.json ≤ MAX_VERIFIER_RESPONSE_BYTES :=
    (width_response h.shaped).trans (by decide)
  have hshort : (bytes_of response.json).length ≤ MAX_VERIFIER_RESPONSE_BYTES := by
    rw [length_encoding hresponse]
    exact hlong
  simp only [build_signed_verifier_response, reraise_ok, bind_ok, exists_unit, raise_if_ok, not_or, not_lt,
    not_not, ne_eq, Bool.not_eq_false, or_raise_ok, canonical_request_ok, pure, Except.pure,
    Except.ok.injEq, ← h.request_digest]
  exact ⟨⟨h.data_ok.1, h.data_ok.2, encoding_ne_nil hresponse, hshort, hnonce, hprofile, hkey⟩, request,
    h.serialized, response, h.parses, hresponse, _, h.bound, h.verifier_id, message, hmessage, hraw, encoded,
    hencoded, hwidth, rfl⟩

/-- **The signer returns the envelope of the response.** -/
theorem build_ok (laws : ed.Lawful) (h : Answers response request data nonce)
    (hnonce : is_hex 64 nonce = true) (hprofile : is_digest profile_digest = true)
    (hkey : is_identifier key_id = true) (signing_key : ed.PrivateKey) (issued_at : Utc) :
    build_signed_verifier_response ed data (bytes_of response.json) nonce profile_digest key_id signing_key
      issued_at = .ok (bytes_of (.record (envelope_of ed signing_key key_id nonce response.request_digest
        profile_digest issued_at.1.format_utc response))) := by
  have hraw := laws.length_sign signing_key (signed_message key_id nonce response.request_digest
    profile_digest issued_at.1.format_utc response)
  have hencoded := encoding_bytes_of (encodable_full key_id nonce response.request_digest profile_digest
    response issued_at.1.format_utc (hex_text (ed.sign signing_key (signed_message key_id nonce
      response.request_digest profile_digest issued_at.1.format_utc response))))
  refine build_of h hnonce hprofile hkey ?_ hraw hencoded ?_
  · exact h.signing hnonce hprofile hkey issued_at.1 _ rfl (Json.has_keys_record _)
      (fun f hf => Json.get_record (wf_unsigned _ _ _ _ _ _) f hf) rfl
  · rw [envelope_of, length_encoding hencoded]
    exact width_envelope h.shaped hnonce hprofile hkey issued_at.1 hraw

end Exchange

/-! ## Accepting -/

section Accepting

variable {ed : Ed25519} {request : VerifierProcessRequest} {data : Bytes}
  {response : VerifierProcessResponse} {nonce profile_digest key_id : String}

/-- The parts of the envelope that the signer returns. -/
def opened_of (ed : Ed25519) (signing_key : ed.PrivateKey) (key_id nonce profile_digest : String)
    (issued_at : Datetime) (request : VerifierProcessRequest) (data : Bytes)
    (response : VerifierProcessResponse) : Opened :=
  let message := signed_message key_id nonce response.request_digest profile_digest issued_at.format_utc response
  { envelope := (Json.record (envelope_of ed signing_key key_id nonce response.request_digest profile_digest
      issued_at.format_utc response)).norm
    key_id := key_id
    issued_text := issued_at.format_utc
    signature := hex_text (ed.sign signing_key message)
    request := request
    request_bytes := data
    response_json := response.json.norm
    response_bytes := bytes_of response.json
    response := response
    issued_at := issued_at
    public_key := ed.public_bytes signing_key
    raw := ed.sign signing_key message
    message := message }

theorem opened_envelope (ed : Ed25519) (signing_key : ed.PrivateKey) (key_id nonce profile_digest : String)
    (issued_at : Datetime) (request : VerifierProcessRequest) (data : Bytes)
    (response : VerifierProcessResponse) :
    (opened_of ed signing_key key_id nonce profile_digest issued_at request data response).envelope =
      (Json.record (full_envelope key_id nonce response.request_digest profile_digest issued_at.format_utc
        response (opened_of ed signing_key key_id nonce profile_digest issued_at request data
          response).signature)).norm := by
  simp only [opened_of, envelope_of]

/-- What the fields of a parsed envelope are. -/
theorem full_items (key_id nonce request_digest profile_digest issued_text signature : String)
    (response : VerifierProcessResponse) {envelope : Json}
    (henvelope : envelope = (Json.record (full_envelope key_id nonce request_digest profile_digest issued_text
      response signature)).norm) :
    envelope.has_keys FIELDS = true ∧ text? envelope "schema" = some ATTESTATION_SCHEMA ∧
      text? envelope "key_id" = some key_id ∧ text? envelope "invocation_nonce" = some nonce ∧
      text? envelope "request_digest" = some request_digest ∧
      text? envelope "verifier_profile_digest" = some profile_digest ∧
      text? envelope "issued_at" = some issued_text ∧ text? envelope "signature" = some signature ∧
      envelope.get? "response" = some response.json.norm := by
  obtain ⟨hkeys, hitems⟩ := Json.read_of_norm (wf_full key_id nonce request_digest profile_digest response
    issued_text signature)
  have htext : ∀ (name value : String), envelope.get? name = some (wire_str.json value).norm →
      text? envelope name = some value := by
    intro name value h
    rw [text?, h]
    rfl
  rw [← henvelope] at hkeys hitems
  simp only [full_envelope, unsigned_envelope, List.forall_mem_append, List.forall_mem_cons, List.not_mem_nil,
    false_imp_iff, implies_true, and_true] at hitems
  obtain ⟨⟨h1, h2, h3, h4, h5, h6, h7⟩, h8⟩ := hitems
  exact ⟨hkeys, htext _ _ h1, htext _ _ h2, htext _ _ h3, htext _ _ h4, htext _ _ h5, htext _ _ h6,
    htext _ _ h8, h7⟩

/-- The signed part of a parsed envelope is what was signed. -/
theorem Answers.signing_unsigned (h : Answers response request data nonce)
    (hnonce : is_hex 64 nonce = true) (hprofile : is_digest profile_digest = true)
    (hkey : is_identifier key_id = true) (issued_at : Datetime) (signature : String) {envelope : Json}
    (henvelope : envelope = (Json.record (full_envelope key_id nonce response.request_digest profile_digest
      issued_at.format_utc response signature)).norm) :
    verifier_attestation_signing_bytes (unsigned_of envelope) = .ok (signed_message key_id nonce
      response.request_digest profile_digest issued_at.format_utc response) := by
  have hwf := wf_full key_id nonce response.request_digest profile_digest response issued_at.format_utc signature
  obtain ⟨hkeys, hitems⟩ := Json.read_of_norm hwf
  rw [← henvelope] at hkeys hitems
  refine h.signing hnonce hprofile hkey issued_at ((unsigned_envelope key_id nonce response.request_digest
    profile_digest issued_at.format_utc response).map fun f => (f.1, f.2.norm)) rfl
    (TrustRecords.has_keys_without_signature (by decide) hkeys) ?_ (Json.norm_record_norm _)
  rw [List.forall_mem_map]
  intro f hf
  have hname : f.1 ≠ "signature" := by
    have hmem : f.1 ∈ SIGNED_FIELDS := List.mem_map_of_mem hf
    intro heq
    rw [heq] at hmem
    exact absurd hmem (by decide)
  rw [unsigned_of, TrustRecords.get_without_signature _ hname]
  exact hitems f (List.mem_append_left _ hf)

/-- **The envelope that the signer returns passes every check of the verifier.** -/
theorem Answers.accepted (laws : ed.Lawful) (h : Answers response request data nonce)
    (hnonce : is_hex 64 nonce = true) (hprofile : is_digest profile_digest = true)
    (hkey : is_identifier key_id = true) (signing_key : ed.PrivateKey) (issued_at now : Utc) {age skew : ℤ}
    {keys : VerifierKeys} (hsnapshot : request.verifier_input.snapshot_tree_digest ≠ none)
    (hreplay : request.verifier_input.replay_result_digest ≠ none) (hkeys : ValidKeys keys)
    (hlookup : keys.lookup key_id = some (ed.public_bytes signing_key)) (hlimits : ValidLimits age skew)
    (hfresh : Fresh issued_at.1 now.1 age skew) :
    (opened_of ed signing_key key_id nonce profile_digest issued_at.1 request data response).Checked ed
      (bytes_of (.record (envelope_of ed signing_key key_id nonce response.request_digest profile_digest
        issued_at.1.format_utc response))) request.verifier_input nonce profile_digest keys now age skew := by
  have hraw := laws.length_sign signing_key (signed_message key_id nonce response.request_digest
    profile_digest issued_at.1.format_utc response)
  have hsignature := is_hex_hex_text (ed.sign signing_key (signed_message key_id nonce response.request_digest
    profile_digest issued_at.1.format_utc response))
  rw [hraw] at hsignature
  have hencoded := encoding_bytes_of (encodable_full key_id nonce response.request_digest profile_digest
    response issued_at.1.format_utc (hex_text (ed.sign signing_key (signed_message key_id nonce
      response.request_digest profile_digest issued_at.1.format_utc response))))
  have hresponse : canonical_encoding response.json = some (bytes_of response.json) :=
    encoding_bytes_of response.encodable_json
  have hlong : json_width response.json ≤ MAX_ATTESTATION_BYTES :=
    (width_response h.shaped).trans (by decide)
  have henvelope := opened_envelope ed signing_key key_id nonce profile_digest issued_at.1 request data response
  obtain ⟨hnames, hschema, hkey_text, hnonce_text, hrequest_text, hprofile_text, hissued_text,
    hsignature_text, hresponse_json⟩ := full_items _ _ _ _ _ _ _ henvelope
  constructor
  case length =>
    rw [envelope_of, length_encoding hencoded]
    exact width_envelope h.shaped hnonce hprofile hkey issued_at.1 hraw
  case read =>
    rw [henvelope]
    exact strict_json_encoding (wf_full _ _ _ _ _ _ _) (plain_full _ _ _ _ _ _ _) hencoded
  case canonical =>
    rw [henvelope]
    exact (canonical_encoding_norm _).trans hencoded
  case has_keys => exact hnames
  case schema => exact hschema
  case key_id => exact hkey_text
  case key_id_ok => exact hkey
  case named_nonce => exact hnonce_text
  case nonce_ok => exact hnonce
  case named_profile => exact hprofile_text
  case profile_ok => exact hprofile
  case request_digest =>
    rw [hrequest_text, h.request_digest]
    rfl
  case issued_text => exact hissued_text
  case signature => exact hsignature_text
  case signature_ok => exact hsignature
  case request => rfl
  case snapshot => exact hsnapshot
  case replay => exact hreplay
  case limits => exact hlimits
  case serialized => exact h.serialized
  case response_json => exact hresponse_json
  case response_bytes =>
    simp only [opened_of, canonical_encoding_norm]
    exact hresponse
  case response_length =>
    simp only [opened_of, length_encoding hresponse]
    exact hlong
  case response =>
    simp only [opened_of]
    exact h.parses
  case response_digest => exact h.request_digest
  case shaped => exact h.shaped
  case result_for => exact h.result_for
  case issued_at => exact Datetime.parse_format issued_at.2
  case fresh => exact hfresh
  case keys_ok => exact hkeys
  case public_key => exact hlookup
  case message => exact h.signing_unsigned hnonce hprofile hkey issued_at.1 _ henvelope
  case raw => exact bytes_fromhex_hex _
  case verified => exact laws.verify_sign _ _

end Accepting

end AppContracts.SignedVerifier
