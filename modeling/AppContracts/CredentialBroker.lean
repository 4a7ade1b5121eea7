/-
Credential brokers: `broker.py`, and the brokers of `github_app.py`.

A broker opens a provider channel for a single-use credential grant. It checks
the grant against the request it was issued for and against the time, and
remembers the grants it has opened. The provider's answer to a token request is
arbitrary: it may fail, or be no token at all.

The three brokers differ in what they check and not in what they remember, so that each is
described by when it opens a channel (`opens_iff`), and the induction over a history of
requests is made once, with the grants that were opened as its invariant.
-/
import AppContracts.Digests
import AppContracts.Validator
import AppContracts.Paths
import AppContracts.Lib.SingleUse

set_option autoImplicit false

namespace AppContracts.CredentialBroker

/-- `ContractValidationError("broker: " + message)`. -/
def broker_error (message : String) : Exn := ⟨.ContractValidationError, "broker: " ++ message⟩

/-- `ContractValidationError("GitHub actuator: " + message)`. -/
def actuator_error (message : String) : Exn :=
  ⟨.ContractValidationError, "GitHub actuator: " ++ message⟩

/-! ## Grants -/

/-- `_REQUIRED_GRANT_FIELDS`. -/
def REQUIRED_GRANT_FIELDS : List String :=
  ["credential_grant_id", "actuator_id", "repository_id", "operation", "request_digest", "single_use"]

/-- `_REQUIRED_REQUEST_FIELDS`. -/
def REQUIRED_REQUEST_FIELDS : List String :=
  ["actuator_id", "repository_id", "operation", "base_branch"]

/-- A string value of a dict. -/
def string? (doc : Json) (field : String) : Option PyStr :=
  match doc.get? field with
  | some (.str s) => some s
  | _ => none

/-- `doc[field] is True`. -/
def is_true (doc : Json) (field : String) : Bool :=
  match doc.get? field with
  | some (.bool b) => b
  | _ => false

/-- `not isinstance(doc, dict) or any(field not in doc for field in fields)`. -/
def lacks (doc : Json) (fields : List String) : Bool :=
  !doc.is_dict || fields.any fun field => (doc.get? field).isNone

/-- `not isinstance(value, str) or not value`. -/
def invalid_binding (doc : Json) (field : String) : Bool :=
  (string? doc field).all (· == .text "")

/-- An aware `now`, as an instant. -/
def aware : Arg Datetime → Except Exn ℤ
  | .of now =>
    match now.instant with
    | some t => .ok t
    | none => .error (broker_error "grant expiry check requires aware time")
  | .other => .error (broker_error "grant expiry check requires aware time")

/-- The first and the last instant UTC can express. -/
def utc_range : ℤ × ℤ :=
  (Datetime.local_microseconds ⟨1, 1, 1, 0, 0, 0, 0, none⟩,
    Datetime.local_microseconds ⟨9999, 12, 31, 23, 59, 59, 999999, none⟩)

/-- `datetime.fromisoformat(expires_at.replace("Z", "+00:00"))`, if it is aware. -/
def expiry (credential_grant : Json) : Option ℤ :=
  (string? credential_grant "expires_at").bind fun raw_expiry =>
    (Datetime.fromisoformat (Validator.replace_z raw_expiry.codes)).bind Datetime.instant

/-- `validate_credential_use_grant(credential_grant, actuator_request, now=now)`. -/
def validate_credential_use_grant (credential_grant actuator_request : Json) (now : Arg Datetime) :
    Except Exn Unit := do
  let now ← aware now
  raise_if (lacks credential_grant REQUIRED_GRANT_FIELDS) (broker_error "credential grant is malformed")
  raise_if (lacks actuator_request REQUIRED_REQUEST_FIELDS) (broker_error "actuator request is malformed")
  raise_if (["actuator_id", "repository_id", "operation"].any fun field =>
    invalid_binding credential_grant field || invalid_binding actuator_request field)
    (broker_error "binding value is invalid")
  raise_if (invalid_binding actuator_request "base_branch") (broker_error "binding value is invalid")
  raise_if (invalid_binding credential_grant "credential_grant_id")
    (broker_error "binding value is invalid")
  raise_if (string? credential_grant "credential_class" ≠ some (.text "github-app-installation"))
    (broker_error "credential class mismatch")
  raise_if (string? credential_grant "actuator_id" ≠ string? actuator_request "actuator_id")
    (broker_error "actuator identity mismatch")
  raise_if (string? credential_grant "repository_id" ≠ string? actuator_request "repository_id")
    (broker_error "repository mismatch")
  raise_if (string? credential_grant "operation" ≠ string? actuator_request "operation")
    (broker_error "operation mismatch")
  let digest ← sha256_digest actuator_request
  raise_if (string? credential_grant "request_digest" ≠ some (.text digest))
    (broker_error "request digest mismatch")
  raise_if (!is_true credential_grant "single_use")
    (broker_error "credential grant must be single-use")
  -- A value that is no string, no timestamp or naive is refused alike.
  match expiry credential_grant with
  | none => .error (broker_error "credential grant expiry is invalid")
  | some expires_at => do
    raise_if (now < utc_range.1 ∨ utc_range.2 < now) ⟨.OverflowError, "date value out of range"⟩
    raise_if (expires_at ≤ now) (broker_error "credential grant expired")

/-- What a grant that passes says: it names itself, it binds the digest of this
request, and it has not expired. -/
structure Authorizes (credential_grant actuator_request : Json) (now : Arg Datetime) : Prop where
  grant_id : ∃ id, string? credential_grant "credential_grant_id" = some id ∧ id ≠ .text ""
  request_digest : ∃ digest, string? credential_grant "request_digest" = some (.text digest) ∧
    sha256_digest actuator_request = .ok digest
  not_expired : ∃ expires_at t, expiry credential_grant = some expires_at ∧
    (∃ d, now = .of d ∧ d.instant = some t) ∧ t < expires_at

theorem aware_ok {now : Arg Datetime} {t : ℤ} :
    aware now = .ok t ↔ ∃ d, now = .of d ∧ d.instant = some t := by
  cases now with
  | other => simp [aware]
  | of d => cases h : d.instant <;> simp [aware, h]

/-- **A validated grant authorizes the request**, at this time. -/
theorem authorizes_of_valid {credential_grant actuator_request : Json} {now : Arg Datetime}
    (h : validate_credential_use_grant credential_grant actuator_request now = .ok ()) :
    Authorizes credential_grant actuator_request now := by
  unfold validate_credential_use_grant at h
  simp only [bind_ok (x := aware now), raise_if_bind] at h
  obtain ⟨t, ht, -, -, -, -, hid, -, -, -, -, h⟩ := h
  obtain ⟨digest, hdigest, h⟩ := bind_ok.mp h
  obtain ⟨hbound, h⟩ := raise_if_bind.mp h
  obtain ⟨-, h⟩ := raise_if_bind.mp h
  refine ⟨?_, ⟨digest, not_not.mp hbound, hdigest⟩, ?_⟩
  · unfold invalid_binding at hid
    rcases hs : string? credential_grant "credential_grant_id" with _ | id
    · simp [hs] at hid
    · exact ⟨id, rfl, by simpa [hs] using hid⟩
  · rcases hexpiry : expiry credential_grant with _ | expires_at
    · simp [hexpiry] at h
    · rw [hexpiry] at h
      obtain ⟨-, hlate⟩ := raise_if_bind.mp h
      exact ⟨expires_at, t, rfl, aware_ok.mp ht, not_le.mp (raise_if_ok.mp hlate)⟩

/-! ## Brokers -/

/-- `GitHubAppBrokerConfig`, without what only the token exchange reads. -/
structure GitHubAppBrokerConfig : Type where
  installation_id : ℤ
  repository_id : ℤ
  repository : String
  deriving DecidableEq

/-- `_InstallationToken`. -/
structure InstallationToken : Type where
  value : String
  expires_at : String
  deriving DecidableEq

/-- `_SOURCE_REPOSITORY_PATTERN.fullmatch(value)`. -/
def is_slug (value : String) : Bool :=
  (split_path value).length = 2 && (split_path value).all fun part =>
    part != "" && part.toList.all fun c => c.isAlpha || c.isDigit || c == '_' || c == '.' || c == '-'

/-- `repository_target_binding.provider_repository_id`. -/
def GitHubAppBrokerConfig.provider_repository_id (config : GitHubAppBrokerConfig) :
    Except Exn String := do
  raise_if (config.installation_id < 1 ∨ config.repository_id < 1 ∨ ¬ is_slug config.repository)
    ⟨.ValueError, "repository binding: target identity is invalid"⟩
  return s!"github-installation/{config.installation_id}/repository/{config.repository_id}"

/-- A channel of the provider, for the holder of a token. -/
structure Channel : Type where
  config : GitHubAppBrokerConfig
  token : InstallationToken
  deriving DecidableEq

/-- A request to a broker, and what the code the broker calls makes of it: the
channel factory or the token minter raises, or gives an object. -/
structure OpenRequest (ω : Type) : Type where
  credential_grant : Json
  actuator_request : Json
  now : Arg Datetime
  given : Except Exn ω

/-- `credential_grant["credential_grant_id"]`. -/
def OpenRequest.grant_id {ω : Type} (request : OpenRequest ω) : Option PyStr :=
  string? request.credential_grant "credential_grant_id"

/-- The checks every broker starts with. -/
def OpenRequest.validate {ω : Type} (request : OpenRequest ω) : Except Exn Unit :=
  validate_credential_use_grant request.credential_grant request.actuator_request request.now

/-- `InMemoryCredentialBroker`. -/
structure InMemoryCredentialBroker : Type where
  opened_grants : List (Option PyStr)
  used_grants : List (Option PyStr)

namespace InMemoryCredentialBroker

/-- `InMemoryCredentialBroker(channel_factory)`. -/
def init : InMemoryCredentialBroker := ⟨[], []⟩

/-- `open_github_publication_channel(credential_grant, actuator_request, now=now)`. The factory
gives an object that may lack `publish_pull_request`. -/
def open_github_publication_channel {ω : Type} (self : InMemoryCredentialBroker)
    (request : OpenRequest (Arg ω)) : Except Exn ω × InMemoryCredentialBroker :=
  match request.validate with
  | .error e => (.error e, self)
  | .ok _ =>
    if request.grant_id ∈ self.used_grants then
      (.error (broker_error "credential grant already used"), self)
    else
      match request.given with
      | .error e => (.error e, self)
      | .ok .other => (.error (broker_error "channel factory result is invalid"), self)
      | .ok (.of channel) =>
        (.ok channel, ⟨self.opened_grants ++ [request.grant_id], request.grant_id :: self.used_grants⟩)

end InMemoryCredentialBroker

/-- `GitHubAppCredentialBroker`. Whether the injected transports can be called
is looked at when a channel is built. -/
structure GitHubAppCredentialBroker : Type where
  config : GitHubAppBrokerConfig
  transports_callable : Bool
  used_grants : List (Option PyStr)

namespace GitHubAppCredentialBroker

/-- `GitHubAppPublicationChannel(config, token, ..)`. -/
def channel (self : GitHubAppCredentialBroker) : Arg InstallationToken → Except Exn Channel
  | .other => .error (actuator_error "channel token is invalid")
  | .of token => do
    raise_if (self.transports_callable = false) (actuator_error "injected transport is not callable")
    return ⟨self.config, token⟩

/-- `open_github_publication_channel(credential_grant, actuator_request, now=now)`. -/
def open_github_publication_channel (self : GitHubAppCredentialBroker)
    (request : OpenRequest (Arg InstallationToken)) : Except Exn Channel × GitHubAppCredentialBroker :=
  match request.validate with
  | .error e => (.error e, self)
  | .ok _ =>
    if request.grant_id ∈ self.used_grants then
      (.error (broker_error "credential grant already used"), self)
    else
      -- The grant is spent before the token is minted, whatever becomes of that.
      (request.given >>= self.channel, { self with used_grants := request.grant_id :: self.used_grants })

end GitHubAppCredentialBroker

/-- `GitHubAppReadOnlyReconciliationBroker`. -/
structure GitHubAppReadOnlyReconciliationBroker : Type where
  config : GitHubAppBrokerConfig
  used_grants : List (Option PyStr)

namespace GitHubAppReadOnlyReconciliationBroker

/-- `_ACTUATOR_ID`. -/
def ACTUATOR_ID : PyStr := .text "github-app-readonly-reconciliation"

/-- `_PERMISSIONS`. -/
def PERMISSIONS : List PyStr := [.text "contents:read", .text "pull_requests:read"]

/-- A list of strings. -/
def strings? (doc : Json) (field : String) : Option (List PyStr) :=
  match doc.get? field with
  | some (.arr items) => items.mapM fun item => match item with
    | .str s => some s
    | _ => none
  | _ => none

/-- What a read-only grant must say beyond a valid one. -/
def check_scope (self : GitHubAppReadOnlyReconciliationBroker)
    (request : OpenRequest (Arg InstallationToken)) : Except Exn Unit := do
  let invalid := actuator_error "read-only credential grant is invalid"
  raise_if (string? request.credential_grant "operation" ≠ some (.text "reconcile_publication")) invalid
  raise_if (string? request.actuator_request "operation" ≠ some (.text "reconcile_publication")) invalid
  raise_if (string? request.credential_grant "actuator_id" ≠ some ACTUATOR_ID) invalid
  raise_if (string? request.actuator_request "actuator_id" ≠ some ACTUATOR_ID) invalid
  raise_if ((request.credential_grant.get? "installation_id").bind Json.number? ≠
    some (self.config.installation_id : ℚ)) invalid
  raise_if (strings? request.credential_grant "permissions" ≠ some PERMISSIONS) invalid
  let provider_repository_id ← self.config.provider_repository_id
  raise_if (string? request.credential_grant "repository_id" ≠ some (.text provider_repository_id)) invalid
  raise_if (request.grant_id ∈ self.used_grants) invalid

/-- `GitHubAppReadOnlyReconciliationChannel(config, token, ..)`. -/
def channel (self : GitHubAppReadOnlyReconciliationBroker) : Arg InstallationToken → Except Exn Channel
  | .other => .error (actuator_error "read-only token is invalid")
  | .of token => .ok ⟨self.config, token⟩

/-- `open_read_only_reconciliation_channel(credential_grant, actuator_request, now=now)`. -/
def open_read_only_reconciliation_channel (self : GitHubAppReadOnlyReconciliationBroker)
    (request : OpenRequest (Arg InstallationToken)) :
    Except Exn Channel × GitHubAppReadOnlyReconciliationBroker :=
  match request.validate >>= fun _ => self.check_scope request with
  | .error e => (.error e, self)
  | .ok _ =>
    match request.given >>= self.channel with
    | .error e => (.error e, self)
    | .ok channel => (.ok channel, { self with used_grants := request.grant_id :: self.used_grants })

end GitHubAppReadOnlyReconciliationBroker

/-! ## Histories -/

section Histories

variable {ω α σ : Type}

/-- What a history of openings keeps to: every grant opens at most one channel,
every channel is opened on a grant that authorizes its request at that time, and
the digest of the grant fits no other request. -/
structure Honours (history : List (OpenRequest ω × Except Exn α)) : Prop where
  once : ((accepted history).map fun entry => entry.1.grant_id).Nodup
  authorized : ∀ entry ∈ accepted history,
    Authorizes entry.1.credential_grant entry.1.actuator_request entry.1.now
  exact_request : ∀ entry ∈ accepted history, ∀ other : Json,
    other.wf ∧ other.plain → entry.1.actuator_request.wf ∧ entry.1.actuator_request.plain →
    (∃ digest, string? entry.1.credential_grant "request_digest" = some (.text digest) ∧
      sha256_digest other = .ok digest) →
    other.norm = entry.1.actuator_request.norm ∨
      Collision (canonical_bytes other) (canonical_bytes entry.1.actuator_request)

/-- A single-use broker that validates the grants it opens on. -/
theorem Honours.of_single_use {step : σ → OpenRequest ω → Except Exn α × σ}
    {used : σ → Set (Option PyStr)} (hsingle : SingleUse step OpenRequest.grant_id used)
    (hvalid : ∀ s r a, (step s r).1 = .ok a → r.validate = .ok ()) (s : σ)
    (requests : List (OpenRequest ω)) : Honours (serve step s requests) := by
  have hstep : ∀ s r a, (step s r).1 = .ok a →
      Authorizes r.credential_grant r.actuator_request r.now := by
    intro s r a h
    have hv := hvalid s r a h
    rw [OpenRequest.validate] at hv
    exact authorizes_of_valid hv
  have hauthorized := accepted_of_step hstep requests s
  refine ⟨hsingle.accepted_nodup requests s, hauthorized, ?_⟩
  rintro entry hentry other hother hrequest ⟨digest, hbound, hdigest⟩
  obtain ⟨digest', hbound', hdigest'⟩ := (hauthorized entry hentry).request_digest
  rw [hbound, Option.some.injEq, PyStr.text.injEq] at hbound'
  subst hbound'
  exact sha256_digest_inj hother hrequest hdigest hdigest'

end Histories

namespace InMemoryCredentialBroker

variable {ω : Type} {self : InMemoryCredentialBroker} {request : OpenRequest (Arg ω)} {channel : ω}

/-- **When a channel is opened**: on a valid grant that is still unused, if the
factory gives a channel. -/
theorem opens_iff : (self.open_github_publication_channel request).1 = .ok channel ↔
    request.validate = .ok () ∧ request.grant_id ∉ self.used_grants ∧
      request.given = .ok (.of channel) := by
  unfold open_github_publication_channel
  rcases hvalid : request.validate with e | _
  · simp
  · by_cases hused : request.grant_id ∈ self.used_grants
    · simp [hused]
    · rcases hgiven : request.given with e | (c | _) <;> simp [hused]

/-- What the broker remembers of an opened channel. -/
theorem open_state (h : (self.open_github_publication_channel request).1 = .ok channel) :
    (self.open_github_publication_channel request).2 =
      ⟨self.opened_grants ++ [request.grant_id], request.grant_id :: self.used_grants⟩ := by
  obtain ⟨hvalid, hused, hgiven⟩ := opens_iff.mp h
  simp only [open_github_publication_channel, hvalid, hused, hgiven, if_false]

/-- A failed opening changes nothing: the grant may be tried again. -/
theorem refused_state {e : Exn} (h : (self.open_github_publication_channel request).1 = .error e) :
    (self.open_github_publication_channel request).2 = self := by
  unfold open_github_publication_channel at h ⊢
  rcases hvalid : request.validate with e | _
  · rfl
  · by_cases hused : request.grant_id ∈ self.used_grants
    · simp [hused]
    · rcases hgiven : request.given with e | (c | _)
      · simp [hused]
      · simp [hvalid, hused, hgiven] at h
      · simp [hused]

theorem used_grows (self : InMemoryCredentialBroker) (request : OpenRequest (Arg ω)) :
    self.used_grants ⊆ (self.open_github_publication_channel request).2.used_grants := by
  rcases hopen : (self.open_github_publication_channel request).1 with e | c
  · rw [refused_state hopen]
    exact List.Subset.refl _
  · rw [open_state hopen]
    exact List.subset_cons_self _ _

theorem single_use : SingleUse (open_github_publication_channel (ω := ω)) OpenRequest.grant_id
    (fun self => {id | id ∈ self.used_grants}) where
  grows self request := self.used_grows request
  fresh _ _ _ h := (opens_iff.mp h).2.1
  spent _ _ _ h := by simp [open_state h]

/-- The public list of a broker names the grants of the channels it opened, in
order. -/
theorem opened_grants_exact (requests : List (OpenRequest (Arg ω))) (self : InMemoryCredentialBroker) :
    (requests.foldl (fun s r => (s.open_github_publication_channel r).2) self).opened_grants =
      self.opened_grants ++
        (accepted (serve open_github_publication_channel self requests)).map
          fun entry => entry.1.grant_id := by
  induction requests generalizing self with
  | nil => simp [serve, accepted]
  | cons r rest ih =>
    rw [List.foldl_cons, ih, serve]
    rcases hopen : (self.open_github_publication_channel r).1 with e | c
    · rw [refused_state hopen, accepted_error]
    · rw [open_state hopen, accepted_ok, List.map_cons, List.append_assoc, List.singleton_append]

end InMemoryCredentialBroker

namespace GitHubAppCredentialBroker

variable {self : GitHubAppCredentialBroker} {request : OpenRequest (Arg InstallationToken)}
  {channel : Channel}

/-- **When a channel is opened.** -/
theorem opens_iff : (self.open_github_publication_channel request).1 = .ok channel ↔
    request.validate = .ok () ∧ request.grant_id ∉ self.used_grants ∧
      (request.given >>= self.channel) = .ok channel := by
  unfold open_github_publication_channel
  rcases hvalid : request.validate with e | _
  · simp
  · by_cases hused : request.grant_id ∈ self.used_grants <;> simp [hused]

/-- A grant that passes the checks is spent, whether a channel is opened or not. -/
theorem validated_state (hvalid : request.validate = .ok ()) (hused : request.grant_id ∉ self.used_grants) :
    (self.open_github_publication_channel request).2 =
      { self with used_grants := request.grant_id :: self.used_grants } := by
  simp only [open_github_publication_channel, hvalid, hused, if_false]

theorem used_grows (self : GitHubAppCredentialBroker) (request : OpenRequest (Arg InstallationToken)) :
    self.used_grants ⊆ (self.open_github_publication_channel request).2.used_grants := by
  unfold open_github_publication_channel
  split
  · exact List.Subset.refl _
  · split_ifs
    · exact List.Subset.refl _
    · exact List.subset_cons_self _ _

theorem single_use : SingleUse open_github_publication_channel OpenRequest.grant_id
    (fun self => {id | id ∈ self.used_grants}) where
  grows self request := self.used_grows request
  fresh _ _ _ h := (opens_iff.mp h).2.1
  spent _ _ _ h := by simp [validated_state (opens_iff.mp h).1 (opens_iff.mp h).2.1]

end GitHubAppCredentialBroker

namespace GitHubAppReadOnlyReconciliationBroker

variable {self : GitHubAppReadOnlyReconciliationBroker}
  {request : OpenRequest (Arg InstallationToken)} {channel : Channel}

/-- The scope includes that the grant has not been used. -/
theorem check_scope_fresh (h : self.check_scope request = .ok ()) :
    request.grant_id ∉ self.used_grants := by
  unfold check_scope at h
  simp only [raise_if_bind] at h
  obtain ⟨-, -, -, -, -, -, h⟩ := h
  obtain ⟨_, -, h⟩ := bind_ok.mp h
  exact raise_if_ok.mp (raise_if_bind.mp h).2

/-- **When a channel is opened**: the scope is that of reconciliation. -/
theorem opens_iff : (self.open_read_only_reconciliation_channel request).1 = .ok channel ↔
    request.validate = .ok () ∧ self.check_scope request = .ok () ∧
      (request.given >>= self.channel) = .ok channel := by
  unfold open_read_only_reconciliation_channel
  rcases hvalid : request.validate with e | _
  · simp
  · rcases hscope : self.check_scope request with e | _
    · simp
    · rcases hchannel : request.given >>= self.channel with e | c <;> simp

/-- What the broker remembers of an opened channel. -/
theorem open_state (h : (self.open_read_only_reconciliation_channel request).1 = .ok channel) :
    (self.open_read_only_reconciliation_channel request).2 =
      { self with used_grants := request.grant_id :: self.used_grants } := by
  obtain ⟨hvalid, hscope, hchannel⟩ := opens_iff.mp h
  simp only [open_read_only_reconciliation_channel, hvalid, hscope, ok_bind, hchannel]

theorem used_grows (self : GitHubAppReadOnlyReconciliationBroker)
    (request : OpenRequest (Arg InstallationToken)) :
    self.used_grants ⊆ (self.open_read_only_reconciliation_channel request).2.used_grants := by
  unfold open_read_only_reconciliation_channel
  split
  · exact List.Subset.refl _
  · split
    · exact List.Subset.refl _
    · exact List.subset_cons_self _ _

theorem single_use : SingleUse open_read_only_reconciliation_channel OpenRequest.grant_id
    (fun self => {id | id ∈ self.used_grants}) where
  grows self request := self.used_grows request
  fresh _ _ _ h := check_scope_fresh (opens_iff.mp h).2.1
  spent _ _ _ h := by simp [open_state h]

end GitHubAppReadOnlyReconciliationBroker

/-- **Grants are used once, for their request, in time**: in every history of
every broker, whatever the channel factory or the token minter does. -/
theorem brokers_honour_grants :
    (∀ (ω : Type) (requests : List (OpenRequest (Arg ω))),
      Honours (serve InMemoryCredentialBroker.open_github_publication_channel
        InMemoryCredentialBroker.init requests)) ∧
    (∀ (config : GitHubAppBrokerConfig) (transports_callable : Bool)
      (requests : List (OpenRequest (Arg InstallationToken))),
      Honours (serve GitHubAppCredentialBroker.open_github_publication_channel
        ⟨config, transports_callable, []⟩ requests)) ∧
    (∀ (config : GitHubAppBrokerConfig) (requests : List (OpenRequest (Arg InstallationToken))),
      Honours (serve GitHubAppReadOnlyReconciliationBroker.open_read_only_reconciliation_channel
        ⟨config, []⟩ requests)) :=
  ⟨fun _ requests => .of_single_use InMemoryCredentialBroker.single_use
      (fun _ _ _ h => (InMemoryCredentialBroker.opens_iff.mp h).1) _ requests,
    fun _ _ requests => .of_single_use GitHubAppCredentialBroker.single_use
      (fun _ _ _ h => (GitHubAppCredentialBroker.opens_iff.mp h).1) _ requests,
    fun _ requests => .of_single_use GitHubAppReadOnlyReconciliationBroker.single_use
      (fun _ _ _ h => (GitHubAppReadOnlyReconciliationBroker.opens_iff.mp h).1) _ requests⟩

end AppContracts.CredentialBroker
