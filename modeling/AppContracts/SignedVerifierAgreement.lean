/-
What a signed verifier and its caller agree on.

The service answers every valid invocation, and the caller accepts the answer
while it is fresh. Two acceptances of one envelope agree on the nonce, on the
profile digest and, unless two messages collide, on the request and the profile.
-/
import AppContracts.SignedVerifierExchange

set_option autoImplicit false

namespace AppContracts.SignedVerifier

open GitHubSnapshot (TreeFile is_digest is_digest_sha256_bytes json_text verifier_snapshot_tree_digest)
open VerifierProcess
open TrustRecords (text?)

/-! ## The service answers -/

/-- The response that the service signs. -/
def response_of (result : VerifierResult) (nonce : String) (request_bytes : Bytes) : VerifierProcessResponse where
  schema_version := VERIFIER_PROCESS_RESPONSE_SCHEMA_VERSION
  request_digest := sha256_bytes (octets request_bytes)
  verifier_result := { result with verifier_id := nonce }
  checked := by
    simp only [ResponseFields.post_init, bind_ok, exists_unit, raise_if_ok, not_not, ne_eq, Bool.not_eq_false]
    exact ⟨trivial, is_digest_sha256_bytes _⟩

theorem from_result_eq (result : VerifierResult) (nonce : String) (request_bytes : Bytes) :
    VerifierProcessResponse.from_verifier_result { result with verifier_id := nonce }
      (sha256_bytes (octets request_bytes)) = .ok (response_of result nonce request_bytes) := by
  simp only [VerifierProcessResponse.from_verifier_result, bind_ok, exists_unit, raise_if_ok,
    Bool.not_eq_false, VerifierProcessResponse.make_ok]
  exact ⟨is_digest_sha256_bytes _, rfl, rfl, rfl⟩

/-- A request, its bytes and a valid result under the profile's verifier. -/
structure Served (profile : VerifierProfile) (request : VerifierProcessRequest) (request_bytes : Bytes)
    (result : VerifierResult) : Prop where
  valid : profile.validate_request request.verifier_input = .ok ()
  serialized : serialize_verifier_request request = .ok request_bytes
  shaped : result.Shaped
  result_for : result.For request.verifier_input
  verifier_id : result.verifier_id = profile.expected_verifier_id

section Serving

variable {ed : Ed25519} {profile : VerifierProfile} {request : VerifierProcessRequest} {request_bytes : Bytes}
  {result : VerifierResult} {nonce profile_digest : String} {verifier : Verifier} {signer : Signer ed}
  {signing_key : ed.PrivateKey}

/-- A profile lets a request through only with both of its digests. -/
theorem validate_request_ok {x : VerifierInput} (h : profile.validate_request x = .ok ()) :
    x.snapshot_tree_digest ≠ none ∧ x.replay_result_digest ≠ none := by
  simp only [ProfileFields.validate_request, reraise_ok, bind_ok, raise_if_ok, not_or, not_not, ne_eq] at h
  obtain ⟨_, -, -, -, hsnapshot, -, -, -, -, -, -, -, hreplay⟩ := h
  exact ⟨by rw [hsnapshot]; exact Option.some_ne_none _, hreplay⟩

theorem Served.answers (h : Served profile request request_bytes result) (hnonce : is_hex 64 nonce = true) :
    Answers (response_of result nonce request_bytes) request request_bytes nonce where
  serialized := h.serialized
  request_digest := rfl
  shaped := h.shaped.renamed (by rw [_is_safe_label, is_identifier_hex hnonce, Bool.true_or])
  result_for := h.result_for.renamed nonce
  verifier_id := rfl

/-- **The service answers a valid request.** -/
theorem run_ok (laws : ed.Lawful) (h : Served profile request request_bytes result)
    (hnonce : is_hex 64 nonce = true) (hdigest : profile.profile_digest = .ok profile_digest)
    (hverifier : verifier request.verifier_input = .ok result) (hsigner : signer.resolve = .ok signing_key)
    (issued_at : Utc) :
    run_signed_verifier_request ed request_bytes nonce profile verifier signer issued_at =
      .ok (bytes_of (.record (envelope_of ed signing_key profile.signer_key_id nonce
        (response_of result nonce request_bytes).request_digest profile_digest issued_at.1.format_utc
        (response_of result nonce request_bytes)))) := by
  have hprofile : is_digest profile_digest = true := by
    rw [← Except.ok.inj (profile.digest_ok.symm.trans hdigest)]
    exact is_digest_sha256_bytes _
  have hbuild := build_ok laws (h.answers hnonce) hnonce hprofile profile.signer_ok signing_key issued_at
  have hencoded : _canonical_response_bytes (response_of result nonce request_bytes) =
      some (bytes_of (response_of result nonce request_bytes).json) :=
    encoding_bytes_of (response_of result nonce request_bytes).encodable_json
  simp only [run_signed_verifier_request, reraise_ok, bind_ok, exists_unit, raise_if_ok, or_raise_ok,
    Bool.not_eq_false, canonical_request_ok, validate_result_ok, not_not, ne_eq]
  exact ⟨hnonce, request, h.serialized, h.valid, result, hverifier, result, ⟨h.shaped, h.result_for, rfl⟩,
    h.verifier_id, _, digest_request_ok.mpr ⟨_, h.serialized, rfl⟩, _, from_result_eq result nonce _, _, hencoded,
    signing_key, hsigner, profile_digest, hdigest, hbuild⟩

/-- The wire form of an invocation of the service, and the answer to it. -/
theorem handle_ok (laws : ed.Lawful) (h : Served profile request request_bytes result)
    (hnonce : is_hex 64 nonce = true) (hdigest : profile.profile_digest = .ok profile_digest)
    (hverifier : verifier request.verifier_input = .ok result) (hsigner : signer.resolve = .ok signing_key)
    (issued_at : Utc) :
    ∃ invocation_bytes,
      serialize_signed_verifier_invocation request_bytes nonce profile_digest = .ok invocation_bytes ∧
      handle_signed_verifier_invocation ed invocation_bytes profile verifier signer issued_at =
        .ok (bytes_of (.record (envelope_of ed signing_key profile.signer_key_id nonce
          (response_of result nonce request_bytes).request_digest profile_digest issued_at.1.format_utc
          (response_of result nonce request_bytes)))) := by
  have hprofile : is_digest profile_digest = true := by
    rw [← Except.ok.inj (profile.digest_ok.symm.trans hdigest)]
    exact is_digest_sha256_bytes _
  have hfields : InvocationFields.post_init ⟨request_bytes, nonce, profile_digest⟩ = .ok () :=
    InvocationFields.post_init_ok.mpr ⟨(h.answers hnonce).data_ok.1, (h.answers hnonce).data_ok.2, hnonce,
      hprofile, request, h.serialized⟩
  obtain ⟨raw, hserialize, hencoded, hlength⟩ := serialize_invocation hfields
  refine ⟨raw, hserialize, ?_⟩
  simp only [handle_signed_verifier_invocation, reraise_ok, bind_ok, exists_unit, raise_if_ok, not_not, ne_eq]
  exact ⟨_, parse_invocation hfields hencoded hlength, profile_digest, hdigest, rfl,
    run_ok laws h hnonce hdigest hverifier hsigner issued_at⟩

end Serving

/-! ## Binding -/

section Binding

variable {ed : Ed25519} {envelope_bytes : Bytes} {x x' : VerifierInput} {nonce nonce' digest digest' : String}
  {keys keys' : VerifierKeys} {now now' : Utc} {age skew age' skew' : ℤ} {o o' : Opened}

/-- One text of one field. -/
theorem text_unique {record : Json} {name s t : String} (hs : text? record name = some s)
    (ht : text? record name = some t) : s = t :=
  Option.some.inj (hs.symm.trans ht)

/-- **Two acceptances of one envelope agree** on the nonce and the profile
digest, and on the request unless its wire forms collide. -/
theorem Opened.Checked.binds (h : o.Checked ed envelope_bytes x nonce digest keys now age skew)
    (h' : o'.Checked ed envelope_bytes x' nonce' digest' keys' now' age' skew') :
    nonce = nonce' ∧ digest = digest' ∧
      (x = x' ∨ Collision (octets o.request_bytes) (octets o'.request_bytes)) := by
  have henvelope : o.envelope = o'.envelope := Option.some.inj (h.read.symm.trans h'.read)
  have hnonce := h'.named_nonce
  have hdigest := h'.named_profile
  have hrequest := h'.request_digest
  rw [← henvelope] at hnonce hdigest hrequest
  refine ⟨text_unique h.named_nonce hnonce, text_unique h.named_profile hdigest, ?_⟩
  have hsame := request_of_digest h.serialized h'.serialized (text_unique h.request_digest hrequest)
  refine hsame.imp_left fun heq => ?_
  rw [← h.request, ← h'.request, heq]

/-- The fields of a profile are read off its JSON. -/
theorem ProfileFields.json_inj {p p' : ProfileFields} (h : p.json.norm = p'.json.norm) : p = p' := by
  obtain ⟨-, hitems⟩ := Json.read_of_norm p.wf_json
  obtain ⟨-, hitems'⟩ := Json.read_of_norm p'.wf_json
  have htext : ∀ s t : String, some (json_text s).norm = some (json_text t).norm → s = t := by
    intro s t hst
    exact PyStr.text.inj (Json.str.inj (Option.some.inj hst))
  have hint : ∀ m n : ℤ, some (Json.int m).norm = some (Json.int n).norm → m = n := by
    intro m n hmn
    exact Json.int.inj (Option.some.inj hmn)
  have htexts : ∀ s t : List String, some (json_texts s).norm = some (json_texts t).norm → s = t := by
    intro s t hst
    have hnorm : ∀ l : List String, (json_texts l).norm = json_texts l := by
      intro l
      rw [json_texts, Json.norm, Json.norm_items_eq, List.map_map]
      rfl
    rw [hnorm, hnorm] at hst
    refine List.map_injective_iff.mpr (fun a b hab => ?_) (Json.arr.inj (Option.some.inj hst))
    exact PyStr.text.inj (Json.str.inj hab)
  -- equal records have equal items, field by field
  have hrecord : ∀ name j j', p.json.norm.get? name = some j → p'.json.norm.get? name = some j' →
      some j = some j' := by
    intro name j j' hj hj'
    rw [← hj, ← hj', h]
  simp only [List.forall_mem_cons, List.not_mem_nil, false_imp_iff, implies_true, and_true] at hitems hitems'
  obtain ⟨-, h1, h2, h3, h4, h5, h6, h7, h8, h9, h10⟩ := hitems
  obtain ⟨-, g1, g2, g3, g4, g5, g6, g7, g8, g9, g10⟩ := hitems'
  obtain ⟨⟩ := p
  obtain ⟨⟩ := p'
  simp only [mk.injEq]
  exact ⟨htext _ _ (hrecord _ _ _ h1 g1), htext _ _ (hrecord _ _ _ h2 g2), htext _ _ (hrecord _ _ _ h3 g3),
    hint _ _ (hrecord _ _ _ h4 g4), htexts _ _ (hrecord _ _ _ h5 g5), htexts _ _ (hrecord _ _ _ h6 g6),
    hint _ _ (hrecord _ _ _ h7 g7), htext _ _ (hrecord _ _ _ h8 g8), htext _ _ (hrecord _ _ _ h9 g9),
    htext _ _ (hrecord _ _ _ h10 g10)⟩

/-- **A profile's digest stands for the profile**, unless two profiles collide. -/
theorem profile_of_digest {p p' : VerifierProfile} (h : p.profile_digest = p'.profile_digest) :
    p.toProfileFields = p'.toProfileFields ∨ Collision (canonical_bytes p.json) (canonical_bytes p'.json) :=
  (sha256_digest_inj ⟨p.wf_json, p.plain_json⟩ ⟨p'.wf_json, p'.plain_json⟩ p.digest_ok
    (h.symm.trans p.digest_ok)).imp_left ProfileFields.json_inj

end Binding

/-! ## The exchange -/

/-- The time of an envelope lies between `max_age_seconds` before the moment and
`max_future_skew_seconds` after it. -/
def InWindow (issued_at moment : Datetime) (max_age_seconds max_future_skew_seconds : ℤ) : Prop :=
  moment.local_microseconds - max_age_seconds * 1000000 ≤ issued_at.local_microseconds ∧
    issued_at.local_microseconds ≤ moment.local_microseconds + max_future_skew_seconds * 1000000

/-- Both ends of the window are datetimes. -/
def WindowRepresentable (moment : Datetime) (max_age_seconds max_future_skew_seconds : ℤ) : Prop :=
  (moment.shifted (-max_age_seconds)).isSome = true ∧ (moment.shifted max_future_skew_seconds).isSome = true

theorem fresh_iff {issued_at moment : Datetime} {age skew : ℤ} :
    Fresh issued_at moment age skew ↔ InWindow issued_at moment age skew ∧
      WindowRepresentable moment age skew := by
  constructor
  · rintro ⟨⟨latest, hlatest, hle⟩, ⟨earliest, hearliest, hge⟩⟩
    have hlatest' := (Datetime.shifted_some.mp hlatest).1
    have hearliest' := (Datetime.shifted_some.mp hearliest).1
    refine ⟨⟨?_, ?_⟩, by rw [hearliest]; rfl, by rw [hlatest]; rfl⟩
    · rw [Int.neg_mul] at hearliest'
      omega
    · omega
  · rintro ⟨⟨hage, hskew⟩, hearliest, hlatest⟩
    obtain ⟨earliest, hearliest⟩ := Option.isSome_iff_exists.mp hearliest
    obtain ⟨latest, hlatest⟩ := Option.isSome_iff_exists.mp hlatest
    have hlatest' := (Datetime.shifted_some.mp hlatest).1
    have hearliest' := (Datetime.shifted_some.mp hearliest).1
    rw [Int.neg_mul] at hearliest'
    exact ⟨⟨latest, hlatest, by omega⟩, ⟨earliest, hearliest, by omega⟩⟩

/-- **A signed verifier and its caller agree**: the caller accepts the answer to
every valid invocation while it is fresh, with the result under the nonce; and an
envelope is accepted for one nonce, one profile digest and, unless SHA-256
collides, one request and one profile. -/
theorem signed_exchange {ed : Ed25519} (laws : ed.Lawful) :
    (∀ (profile : VerifierProfile) (verifier : Verifier) (signer : Signer ed) (signing_key : ed.PrivateKey)
      (prepared : VerifierInput) (request : VerifierProcessRequest) (request_bytes : Bytes)
      (result : VerifierResult) (nonce profile_digest : String) (issued_at : Utc),
      profile.validate_request prepared = .ok () →
      VerifierProcessRequest.from_verifier_input prepared = .ok request →
      serialize_verifier_request request = .ok request_bytes → is_hex 64 nonce = true →
      validate_verifier_result result prepared = .ok result →
      result.verifier_id = profile.expected_verifier_id → verifier prepared = .ok result →
      signer.resolve = .ok signing_key → profile.profile_digest = .ok profile_digest →
      ∃ invocation_bytes envelope_bytes,
        serialize_signed_verifier_invocation request_bytes nonce profile_digest = .ok invocation_bytes ∧
        handle_signed_verifier_invocation ed invocation_bytes profile verifier signer issued_at =
          .ok envelope_bytes ∧
        ∀ (now : Utc) (max_age_seconds max_future_skew_seconds : ℤ) (keys : VerifierKeys),
          ValidLimits max_age_seconds max_future_skew_seconds → ValidKeys keys →
          keys.lookup profile.signer_key_id = some (ed.public_bytes signing_key) →
          InWindow issued_at.1 now.1 max_age_seconds max_future_skew_seconds →
          WindowRepresentable now.1 max_age_seconds max_future_skew_seconds →
          ∃ attestation, verify_signed_verifier_response ed envelope_bytes prepared nonce profile_digest keys
              now max_age_seconds max_future_skew_seconds = .ok attestation ∧
            attestation.verifier_result = { result with verifier_id := nonce }) ∧
    (∀ (envelope_bytes : Bytes) (x x' : VerifierInput) (nonce nonce' digest digest' : String)
      (keys keys' : VerifierKeys) (now now' : Utc) (age skew age' skew' : ℤ)
      (a a' : VerifiedVerifierAttestation),
      verify_signed_verifier_response ed envelope_bytes x nonce digest keys now age skew = .ok a →
      verify_signed_verifier_response ed envelope_bytes x' nonce' digest' keys' now' age' skew' = .ok a' →
      nonce = nonce' ∧ digest = digest' ∧
        (x = x' ∨ ∃ request request' data data', VerifierProcessRequest.from_verifier_input x = .ok request ∧
          VerifierProcessRequest.from_verifier_input x' = .ok request' ∧
          serialize_verifier_request request = .ok data ∧ serialize_verifier_request request' = .ok data' ∧
          Collision (octets data) (octets data')) ∧
        ∀ p p' : VerifierProfile, p.profile_digest = .ok digest → p'.profile_digest = .ok digest' →
          p.toProfileFields = p'.toProfileFields ∨
            Collision (canonical_bytes p.json) (canonical_bytes p'.json)) := by
  constructor
  · intro profile verifier signer signing_key prepared request request_bytes result nonce profile_digest
      issued_at hvalid hrequest hserialized hnonce hresult hid hverifier hsigner hdigest
    obtain ⟨-, rfl⟩ := VerifierProcessRequest.make_ok.mp hrequest
    -- what the service checks of the request and the result is what the client asks for later
    obtain ⟨hshaped, hfor, -⟩ := validate_result_ok.mp hresult
    have hserved : Served profile request request_bytes result := ⟨hvalid, hserialized, hshaped, hfor, hid⟩
    obtain ⟨invocation, hinvocation, hhandle⟩ := handle_ok laws hserved hnonce hdigest hverifier hsigner
      issued_at
    refine ⟨invocation, _, hinvocation, hhandle, ?_⟩
    intro now age skew keys hlimits hkeys hlookup hwindow hrepresentable
    have hprofile : is_digest profile_digest = true := by
      rw [← Except.ok.inj (profile.digest_ok.symm.trans hdigest)]
      exact is_digest_sha256_bytes _
    have hchecked := (hserved.answers hnonce).accepted laws hnonce hprofile profile.signer_ok signing_key
      issued_at now (validate_request_ok hvalid).1 (validate_request_ok hvalid).2 hkeys hlookup hlimits
      (fresh_iff.mpr ⟨hwindow, hrepresentable⟩)
    exact ⟨_, verify_response_ok.mpr ⟨_, hchecked, rfl⟩, rfl⟩
  -- one envelope is opened in one way, and each opening is compared with its own expectations
  · intro envelope_bytes x x' nonce nonce' digest digest' keys keys' now now' age skew age' skew' a a' h h'
    obtain ⟨o, hchecked, -⟩ := verify_response_ok.mp h
    obtain ⟨o', hchecked', -⟩ := verify_response_ok.mp h'
    obtain ⟨hnonce, hdigest, hsame⟩ := hchecked.binds hchecked'
    refine ⟨hnonce, hdigest, hsame.imp_right fun hcollision => ?_, ?_⟩
    · exact ⟨o.request, o'.request, _, _,
        VerifierProcessRequest.make_ok.mpr ⟨o.request.version_eq.symm, hchecked.request.symm⟩,
        VerifierProcessRequest.make_ok.mpr ⟨o'.request.version_eq.symm, hchecked'.request.symm⟩,
        hchecked.serialized, hchecked'.serialized, hcollision⟩
    · intro p p' hp hp'
      exact profile_of_digest (hp.trans (hdigest ▸ hp'.symm))

/-! ### The first second of the calendar -/

theorem utf8_length_digest {s : String} (h : is_digest s = true) : utf8_length s = 71 := by
  rw [utf8_length, length_encode_utf8, width_bare (bare_digest h).1, String.length_toList, (bare_digest h).2]

/-- Digests and other short texts are counted. -/
theorem bounded_text_ok {total : ℕ} {value : String} (h : total + utf8_length value ≤ MAX_VERIFIER_REQUEST_BYTES) :
    bounded_text total value = .ok (total + utf8_length value) := by
  have hlength : value.length ≤ utf8_length value := by
    rw [utf8_length, length_encode_utf8, ← String.length_toList]
    exact length_le_width _
  simp only [bounded_text, bind_ok, exists_unit, raise_if_ok, not_lt]
  exact ⟨by omega, h, rfl⟩

/-- Texts within the limit are counted. -/
theorem bounded_texts_ok {texts : List String} : ∀ {total : ℕ},
    total + (texts.map utf8_length).sum ≤ MAX_VERIFIER_REQUEST_BYTES →
      texts.foldlM bounded_text total = .ok (total + (texts.map utf8_length).sum) := by
  induction texts with
  | nil => exact fun _ => rfl
  | cons text rest ih =>
    intro total h
    rw [List.map_cons, List.sum_cons, ← Nat.add_assoc] at h ⊢
    have hfirst : total + utf8_length text ≤ MAX_VERIFIER_REQUEST_BYTES := (Nat.le_add_right _ _).trans h
    rw [List.foldlM_cons, bounded_text_ok hfirst, ok_bind, ih h]

/-- A profile's verifier is a label. -/
theorem VerifierProfile.label_ok (p : VerifierProfile) : _is_safe_label p.expected_verifier_id = true := by
  have h := p.checked
  rw [ProfileFields.post_init, raise_if_ok] at h
  simp only [not_or, Bool.not_eq_false] at h
  obtain ⟨-, -, -, -, -, -, -, -, -, -, -, -, -, -, -, himage, hcode, -⟩ := h
  have hlength : p.verifier_image_id.toList.length = 71 := (bare_digest himage).2
  have htext : p.expected_verifier_id.toList = "docker-image:".toList ++
      (p.verifier_image_id.toList ++ ("/code:".toList ++ p.verifier_code_digest.toList)) := by
    rw [ProfileFields.expected_verifier_id, String.toList_append, String.toList_append, String.toList_append,
      List.append_assoc, List.append_assoc]
  have hmiddle : (p.expected_verifier_id.toList.drop "docker-image:".length) =
      p.verifier_image_id.toList ++ ("/code:".toList ++ p.verifier_code_digest.toList) := by
    rw [htext]
    exact List.drop_left
  -- the image digest has 71 characters, so the label splits behind it
  have himage' : (p.verifier_image_id.toList ++ ("/code:".toList ++ p.verifier_code_digest.toList)).take 71 =
      p.verifier_image_id.toList := List.take_left' hlength
  have hcode' : (p.verifier_image_id.toList ++ ("/code:".toList ++ p.verifier_code_digest.toList)).drop 71 =
      "/code:".toList ++ p.verifier_code_digest.toList := List.drop_left' hlength
  have hlast : ("/code:".toList ++ p.verifier_code_digest.toList).drop "/code:".length =
      p.verifier_code_digest.toList := List.drop_left
  rw [_is_safe_label, Bool.or_eq_true]
  refine .inr ?_
  simp only [is_image_label, hmiddle]
  rw [himage', hcode', hlast, String.ofList_toList, String.ofList_toList, himage, hcode, htext]
  simp only [Bool.and_eq_true, and_true, List.isPrefixOf_iff_prefix]
  exact ⟨List.prefix_append _ _, List.prefix_append _ _⟩

/-- Keys that sign with their message, cut to 64 bytes. -/
def sample_ed : Ed25519 where
  PrivateKey := Unit
  public_bytes _ := List.replicate 32 0
  sign _ message := (message ++ List.replicate 64 0).take 64
  verify _ signature message := signature == (message ++ List.replicate 64 0).take 64

theorem sample_lawful : sample_ed.Lawful where
  length_public _ := List.length_replicate ..
  length_sign _ message := by
    show ((message ++ List.replicate 64 0).take 64).length = 64
    rw [List.length_take, List.length_append, List.length_replicate]
    omega
  verify_sign _ _ := beq_self_eq_true _

/-- The digest of a tree. -/
def tree_digest (files : List TreeFile) : String :=
  sha256_bytes (canonical_bytes (GitHubSnapshot.entries_json GitHubSnapshot.SNAPSHOT_DIGEST_CANONICALIZATION
    (GitHubSnapshot.sorted_entries (files.map TreeFile.entry))))

theorem tree_digest_ok (files : List TreeFile) : verifier_snapshot_tree_digest files = .ok (tree_digest files) :=
  GitHubSnapshot.entries_digest_ok _ _

/-- The tree digest of one empty file, `routes.py`. -/
@[irreducible] def sample_tree : String :=
  tree_digest [("routes.py", "100644", [])]

theorem sample_tree_digest : verifier_snapshot_tree_digest [("routes.py", "100644", [])] = .ok sample_tree := by
  unfold sample_tree
  exact tree_digest_ok _

theorem sample_tree_ok : is_digest sample_tree = true := by
  unfold sample_tree
  exact is_digest_sha256_bytes _

/-- A profile of that tree. -/
def sample_profile : VerifierProfile where
  repository_id := "owner/repository"
  base_commit := "6e206655af2658cd3af20efc1830cfe9ac52c419"
  snapshot_tree_digest := sample_tree
  snapshot_file_count := 1
  allowed_change_paths := ["routes.py"]
  test_command := ["pytest"]
  test_timeout_seconds := 60
  verifier_image_id := sample_tree
  verifier_code_digest := sample_tree
  signer_key_id := "verifier-v1"
  checked := by
    have hpaths : ["routes.py"].all is_change_path = true := by decide
    have hcommit : "6e206655af2658cd3af20efc1830cfe9ac52c419".toList.all GitHubSnapshot.is_oid_digit = true := by
      decide
    have hsigner : is_identifier "verifier-v1" = true := by decide
    refine raise_if_ok.mpr ?_
    simp only [sample_tree_ok, hpaths, hcommit, hsigner, not_or]
    decide

/-- A request of that profile. -/
def sample_input : VerifierInput where
  process_id := "process"
  repository_id := "owner/repository"
  base_commit := "6e206655af2658cd3af20efc1830cfe9ac52c419"
  snapshot_tree_digest := some sample_tree
  declared_change_paths := ["routes.py"]
  verified_contents := [("routes.py", "x")]
  test_command := ["pytest"]
  test_timeout_seconds := 60
  patch_digest := sample_tree
  evidence_digest := sample_tree
  verification_digest := sample_tree
  verified_contents_digest := sample_tree
  evidence_origin := "local_test"
  replay_result_digest := some sample_tree
  snapshot_files := [("routes.py", "100644", [])]
  snapshot_claim_digest := some sample_tree

/-- A result for it. -/
def sample_result : VerifierResult where
  process_id := "process"
  base_commit := "6e206655af2658cd3af20efc1830cfe9ac52c419"
  snapshot_tree_digest := some sample_tree
  replay_result_digest := some sample_tree
  verifier_id := sample_profile.expected_verifier_id
  patch_digest := sample_tree
  evidence_digest := sample_tree
  verification_digest := sample_tree
  verified_contents_digest := sample_tree
  verdict := .PASS
  blocker_codes := []
  evidence_origin := "local_test"

/-- The request. -/
def sample_request : VerifierProcessRequest where
  schema_version := VERIFIER_PROCESS_SCHEMA_VERSION
  verifier_input := sample_input
  checked := rfl

theorem sample_valid : sample_profile.validate_request sample_input = .ok () := by
  have hclaim : ¬ sample_input.snapshot_claim_digest.any is_digest = false := by
    rw [show sample_input.snapshot_claim_digest = some sample_tree from rfl, Option.any_some, sample_tree_ok]
    decide
  have hrefl : ∀ {α : Type} {a : α}, ¬ a ≠ a := fun h => h rfl
  simp only [ProfileFields.validate_request, reraise_ok, bind_ok, raise_if_ok, not_or]
  exact ⟨sample_tree, sample_tree_digest, hrefl, hrefl, hrefl, hrefl, hclaim, hrefl, hrefl, hrefl, hrefl, hrefl,
    (by rintro ⟨⟩)⟩

theorem sample_bounds : _check_verifier_request_bounds sample_input = .ok () := by
  have hdigest := utf8_length_digest sample_tree_ok
  have hbinding : check_snapshot_binding sample_input = .ok () := by
    show (verifier_snapshot_tree_digest [("routes.py", "100644", [])] >>= fun digest =>
      raise_if (digest ≠ sample_tree) _) = _
    rw [sample_tree_digest, ok_bind, raise_if_ok]
    exact fun h => h rfl
  have hclaim : ¬ (sample_input.snapshot_claim_digest.any fun digest =>
      sample_input.snapshot_tree_digest.isNone || !is_digest digest) = true := by
    rw [show sample_input.snapshot_claim_digest = some sample_tree from rfl, Option.any_some, sample_tree_ok]
    decide
  have hsum : (sample_input.texts.map utf8_length).sum = 570 := by
    simp only [VerifierInput.texts, sample_input, List.filterMap_cons, List.filterMap_nil, id, List.map_append,
      List.map_cons, List.map_nil, List.sum_append, List.sum_cons, List.sum_nil, hdigest]
    decide
  have htexts := @bounded_texts_ok sample_input.texts 0 (by rw [hsum]; decide)
  rw [hsum] at htexts
  simp only [_check_verifier_request_bounds, bind_ok, exists_unit, raise_if_ok]
  exact ⟨_, htexts, by decide, hclaim, by decide, by decide, _, rfl, by decide, _, rfl, by decide, _, rfl,
    by decide, _, rfl, hbinding⟩

/-- The bytes of the request. -/
def sample_bytes : Bytes := bytes_of sample_request.json

theorem sample_width : json_width sample_request.json ≤ MAX_VERIFIER_REQUEST_BYTES := by
  have hdigest : json_width (str.json sample_tree) ≤ 100 := by
    have hwidth := json_width_text (bare_digest sample_tree_ok).1
    rw [(bare_digest sample_tree_ok).2] at hwidth
    exact hwidth.trans_le (by decide)
  have hascii : ∀ {j : Json}, j.plain_ascii = true → width j.ascii_norm.ascii_text ≤ 100 →
      json_width j ≤ 100 := fun hj h => (json_width_ascii hj).trans_le h
  -- the bound is on the parts: no text is rendered here
  have hinput : json_width (.record sample_input.fields) ≤ 2000 := by
    have hvalues : ∀ f ∈ sample_input.fields, json_width f.2 ≤ 100 := by
      rw [VerifierInput.fields]
      simp only [List.forall_mem_cons, List.not_mem_nil, false_imp_iff, implies_true, and_true]
      refine ⟨hascii ?_ ?_, hascii ?_ ?_, hascii ?_ ?_, hdigest, hascii ?_ ?_, hascii ?_ ?_,
        hascii ?_ ?_, hascii ?_ ?_, hdigest, hdigest, hdigest, hdigest, hascii ?_ ?_, hdigest,
        hascii ?_ ?_, hdigest⟩
      all_goals decide +kernel
    have hwidth := json_width_bounded (VerifierInput.fields_keys _ ▸ bare_names (by decide +kernel)) hvalues
    rw [VerifierInput.fields_keys] at hwidth
    have hkeys : (VERIFIER_INPUT_FIELDS.map String.length).sum ≤ 300 := names_length_le (by decide +kernel)
    have hlength : sample_input.fields.length = 16 := rfl
    rw [hlength] at hwidth
    omega
  have hvalues : ∀ f ∈ [("schema_version", .int sample_request.schema_version),
      ("verifier_input", .record sample_input.fields)], json_width f.2 ≤ 2000 :=
    List.forall_mem_cons.mpr ⟨(hascii (by decide +kernel) (by decide +kernel)).trans (by decide),
      List.forall_mem_singleton.mpr hinput⟩
  refine (json_width_bounded (bare_names (by decide +kernel)) hvalues).trans ?_
  decide +kernel

theorem sample_serialized : serialize_verifier_request sample_request = .ok sample_bytes := by
  have hencoded : canonical_encoding sample_request.json = some sample_bytes := by
    refine encoding_bytes_of (Json.encodable_record ?_)
    simp only [List.forall_mem_cons, List.not_mem_nil, false_imp_iff, implies_true, and_true]
    exact ⟨by decide, Json.encodable_record (VerifierInput.encodable_fields (by decide) (by decide))⟩
  exact serialize_ok.mpr ⟨sample_bounds, hencoded, length_encoding hencoded ▸ sample_width⟩

theorem sample_valid_result : validate_verifier_result sample_result sample_input = .ok sample_result :=
  validate_result_ok.mpr ⟨⟨by decide, by decide, fun _ h => Option.some.inj h ▸ sample_tree_ok,
    fun _ h => Option.some.inj h ▸ sample_tree_ok, sample_profile.label_ok, by decide, nofun, rfl, sample_tree_ok,
    sample_tree_ok, sample_tree_ok, sample_tree_ok⟩, ⟨rfl, rfl, rfl, rfl, rfl, rfl, rfl, rfl⟩, rfl⟩

/-- The first second that a datetime can name. -/
def first_second : Utc := ⟨⟨1, 1, 1, 0, 0, 0, 0, some 0⟩, by decide⟩

/-- A second of some other day. -/
def later_second : Utc := ⟨⟨2026, 1, 1, 0, 0, 0, 0, some 0⟩, by decide⟩

/-- The sample nonce. -/
def sample_nonce : String := "6e206655af2658cd3af20efc1830cfe9ac52c4196e206655af2658cd3af20efc"

/-- **A fresh answer is refused in the first minutes of the calendar**: the
caller computes a time that no datetime can name. -/
theorem first_second_refused :
    ∃ profile_digest invocation_bytes envelope_bytes,
      sample_profile.validate_request sample_input = .ok () ∧
      VerifierProcessRequest.from_verifier_input sample_input = .ok sample_request ∧
      serialize_verifier_request sample_request = .ok sample_bytes ∧ is_hex 64 sample_nonce = true ∧
      validate_verifier_result sample_result sample_input = .ok sample_result ∧
      sample_result.verifier_id = sample_profile.expected_verifier_id ∧
      sample_profile.profile_digest = .ok profile_digest ∧
      serialize_signed_verifier_invocation sample_bytes sample_nonce profile_digest = .ok invocation_bytes ∧
      handle_signed_verifier_invocation sample_ed invocation_bytes sample_profile
        (fun _ => .ok sample_result) (.key ()) first_second = .ok envelope_bytes ∧
      InWindow first_second.1 first_second.1 300 30 ∧
      ∀ attestation, verify_signed_verifier_response sample_ed envelope_bytes sample_input sample_nonce
        profile_digest [("verifier-v1", List.replicate 32 0)] first_second 300 30 ≠ .ok attestation := by
  have hserved : Served sample_profile sample_request sample_bytes sample_result :=
    ⟨sample_valid, sample_serialized, (validate_result_ok.mp sample_valid_result).1,
      (validate_result_ok.mp sample_valid_result).2.1, rfl⟩
  have hnonce : is_hex 64 sample_nonce = true := by decide
  have hsigner : Signer.resolve (.key () : Signer sample_ed) = .ok () := rfl
  have hhandled := @handle_ok _ _ _ _ _ _ _ (fun _ => .ok sample_result) _ () sample_lawful hserved hnonce
    sample_profile.digest_ok rfl hsigner first_second
  obtain ⟨invocation, hinvocation, hhandle⟩ := hhandled
  refine ⟨_, invocation, _, sample_valid, rfl, sample_serialized, hnonce, sample_valid_result, rfl,
    sample_profile.digest_ok, hinvocation, hhandle, by unfold InWindow; decide, ?_⟩
  intro attestation haccepted
  obtain ⟨o, hchecked, -⟩ := verify_response_ok.mp haccepted
  obtain ⟨earliest, hearliest, -⟩ := hchecked.fresh.earliest
  -- the earliest moment of the window is before the first that a `datetime` can express
  have hnone : first_second.1.shifted (-300) = none := by decide
  rw [hnone] at hearliest
  cases hearliest

/-- The sample request is answered, and the answer is accepted in the same
second. -/
theorem later_second_accepted :
    ∃ profile_digest invocation_bytes envelope_bytes attestation,
      serialize_signed_verifier_invocation sample_bytes sample_nonce profile_digest = .ok invocation_bytes ∧
      handle_signed_verifier_invocation sample_ed invocation_bytes sample_profile
        (fun _ => .ok sample_result) (.key ()) later_second = .ok envelope_bytes ∧
      verify_signed_verifier_response sample_ed envelope_bytes sample_input sample_nonce profile_digest
        [("verifier-v1", List.replicate 32 0)] later_second 300 30 = .ok attestation ∧
      attestation.verifier_result = { sample_result with verifier_id := sample_nonce } := by
  obtain ⟨invocation, envelope, hinvocation, hhandle, haccept⟩ := (signed_exchange sample_lawful).1
    sample_profile (fun _ => .ok sample_result) (.key ()) () sample_input sample_request sample_bytes
    sample_result sample_nonce _ later_second sample_valid rfl sample_serialized (by decide)
    sample_valid_result rfl rfl rfl sample_profile.digest_ok
  obtain ⟨attestation, hverify, hresult⟩ := haccept later_second 300 30 [("verifier-v1", List.replicate 32 0)]
    ⟨by decide, by decide, by decide, by decide⟩ ⟨by decide, by simp; decide⟩ rfl
    (by unfold InWindow; decide) (by unfold WindowRepresentable; decide)
  exact ⟨_, invocation, envelope, attestation, hinvocation, hhandle, hverify, hresult⟩

end AppContracts.SignedVerifier
