/-
The documents of one publication: `chain.py`.

A chain is accepted if its sixteen documents name each other consistently. The
documents that decide what is published are linked by the digests of their
canonical JSON: the credential grant names the actuator request, the request
the staged change, and the staged change its evidence and its verification. A
grant's digest therefore determines all of them.
-/
import AppContracts.DigestEvaluation
import AppContracts.PublicationSeed
import AppContracts.Validator
import Mathlib.Data.Finset.Card

set_option autoImplicit false

namespace AppContracts.Chain

open PublicationSeed (publication_idempotency_key validate_publication_base_branch)
open Validator (py_eq py_eq_text repr_names)

/-- `ContractValidationError("chain: " + message)`. -/
def chain_error (message : String) : Exn := ⟨.ContractValidationError, "chain: " ++ message⟩

/-! ## Access -/

/-- `doc[key]`. -/
def get (doc : Json) (key : String) : Except Exn Json :=
  match doc.get? key with
  | some value => .ok value
  | none => .error ⟨.KeyError, key⟩

/-- `chain[name][field]`. -/
def member (chain : Json) (name field : String) : Except Exn Json := do
  get (← get chain name) field

/-- `if a != b: raise ContractValidationError("chain: " + message)`. -/
def require_equal (a b : Json) (message : String) : Except Exn Unit :=
  raise_if (py_eq a b = false) (chain_error message)

/-- `if chain[name][field] != chain[name'][field']: raise ...`. -/
def require_same (chain : Json) (name field name' field' : String) (message : String) :
    Except Exn Unit := do
  require_equal (← member chain name field) (← member chain name' field') message

/-! ## Shape -/

/-- `names`. -/
def NAMES : List String :=
  ["process_contract", "identity", "capability_grant", "delegation_receipt", "trust_profile",
    "canonical_envelope", "task_contract", "evidence_bundle", "verification_report",
    "staged_change", "approval", "intent", "policy_decision", "actuator_request",
    "credential_use_grant", "action_receipt"]

/-- `_REQUIRED_MEMBERS`. -/
def REQUIRED_MEMBERS : List (String × List String) :=
  [("process_contract", ["process_id", "repository_id"]),
    ("identity", ["identity_id", "status"]),
    ("capability_grant", ["subject", "status", "process_id", "grant_id", "delegable_actions",
      "resources", "max_delegation_depth"]),
    ("delegation_receipt", ["parent_grant_id", "issuer", "process_id", "actions", "resources",
      "remaining_delegation_depth"]),
    ("trust_profile", ["principal_id"]),
    ("canonical_envelope", ["correlation_id", "security"]),
    ("task_contract", ["process_id", "task_id"]),
    ("evidence_bundle", ["task_id", "patch_digest"]),
    ("verification_report", ["evidence_digest", "verdict"]),
    ("staged_change", ["process_id", "repository_id", "patch_digest", "evidence_digest",
      "verification_digest", "patch_artifact_ref"]),
    ("approval", ["process_id", "repository_id", "staged_change_digest", "approval_id"]),
    ("intent", ["process_id", "repository_id", "staged_change_digest", "approval_id",
      "branch_namespace", "title_artifact_ref", "body_artifact_ref", "idempotency_key",
      "base_commit", "base_branch"]),
    ("policy_decision", ["repository_id", "staged_change_digest", "decision_id", "effect"]),
    ("actuator_request", ["process_id", "repository_id", "base_commit", "staged_change_digest",
      "approval_id", "branch_namespace", "title_artifact_ref", "body_artifact_ref",
      "idempotency_key", "policy_decision_id", "patch_artifact_ref", "actuator_id", "base_branch"]),
    ("credential_use_grant", ["actuator_id", "repository_id", "request_digest"]),
    ("action_receipt", ["process_id", "repository_id", "staged_change_digest", "approval_id",
      "policy_decision_id", "idempotency_key", "base_branch"])]

/-- The first field that a document does not have. -/
def _require_fields (doc : Json) (name : String) : List String → Except Exn Unit
  | [] => .ok ()
  | field :: rest => do
    raise_if ((doc.get? field).isNone = true) (chain_error s!"{name} is missing {field}")
    _require_fields doc name rest

/-- The loop of `_require_members`. -/
def _require_documents (chain : Json) : List (String × List String) → Except Exn Unit
  | [] => .ok ()
  | (name, fields) :: rest => do
    _require_fields (← get chain name) name fields
    _require_documents chain rest

/-- `_require_members(chain)`. -/
def _require_members (chain : Json) : Except Exn Unit := do
  _require_documents chain REQUIRED_MEMBERS
  let security ← member chain "canonical_envelope" "security"
  raise_if (security.is_dict = false ∨ (security.get? "tainted").isNone = true)
    (chain_error "canonical_envelope is missing security.tainted")

/-- The checks on the chain as a whole. -/
def check_shape (chain : Json) : Except Exn Unit := do
  raise_if (chain.is_dict = false) (chain_error "chain is malformed")
  let missing := NAMES.filter fun name => (chain.get? name).isNone
  raise_if (missing ≠ []) (chain_error s!"missing contracts {repr_names (missing.map .text)}")
  let malformed := NAMES.filter fun name => !(chain.get? name).any Json.is_dict
  raise_if (malformed ≠ []) (chain_error s!"malformed contracts {repr_names (malformed.map .text)}")
  _require_members chain

/-! ## Binding values -/

/-- `_binding_values(chain, field, names)`. -/
def _binding_values (chain : Json) (field : String) : List String → Except Exn (Finset PyStr)
  | [] => .ok ∅
  | name :: rest => do
    match ← member chain name field with
    | .str value =>
      raise_if (value = .text "") (chain_error s!"{name} has empty binding value")
      return insert value (← _binding_values chain field rest)
    | _ => .error (chain_error s!"{name} has non-string binding value")

/-- `_require_single(field, values)`. -/
def _require_single (field : String) (values : Finset PyStr) : Except Exn Unit :=
  raise_if (values.card ≠ 1) (chain_error s!"{field} mismatch")

/-! ## Principals -/

/-- The members of a delegation's list. -/
def names_of (holder : Json) (field : String) : Except Exn (List PyStr) := do
  let error := chain_error s!"delegation {field} is malformed"
  match ← get holder field with
  | .arr items =>
    items.mapM fun
      | .str s => if s = .text "" then .error error else .ok s
      | _ => .error error
  | _ => .error error

/-- A delegation depth: an `int` that is not a `bool`. -/
def depth_of (holder : Json) (field : String) : Except Exn ℤ := do
  match ← get holder field with
  | .int n => return n
  | _ => .error (chain_error s!"delegation {field} is malformed")

/-- `_validate_delegation(parent, child)`. -/
def _validate_delegation (parent child : Json) : Except Exn Unit := do
  let actions ← names_of child "actions"
  let resources ← names_of child "resources"
  let delegable_actions ← names_of parent "delegable_actions"
  let parent_resources ← names_of parent "resources"
  let remaining ← depth_of child "remaining_delegation_depth"
  let max_depth ← depth_of parent "max_delegation_depth"
  require_equal (← get child "issuer") (← get parent "subject") "delegation issuer mismatch"
  require_equal (← get child "process_id") (← get parent "process_id") "delegation process mismatch"
  raise_if (¬ actions ⊆ delegable_actions) (chain_error "delegation expands actions")
  raise_if (¬ resources ⊆ parent_resources) (chain_error "delegation expands resources")
  raise_if (remaining ≥ max_depth) (chain_error "delegation depth is not reduced")

/-- The identity, its capability and its delegation. -/
def check_principals (chain : Json) : Except Exn Unit := do
  let process_ids ← _binding_values chain "process_id"
    ["process_contract", "staged_change", "approval", "intent", "action_receipt"]
  _require_single "process_id" process_ids
  require_same chain "identity" "identity_id" "capability_grant" "subject"
    "capability subject identity mismatch"
  let active := Json.str (.text "active")
  raise_if (py_eq (← member chain "identity" "status") active = false ∨
      py_eq (← member chain "capability_grant" "status") active = false)
    (chain_error "inactive identity or capability grant")
  require_same chain "capability_grant" "process_id" "process_contract" "process_id"
    "capability process_id mismatch"
  require_same chain "delegation_receipt" "parent_grant_id" "capability_grant" "grant_id"
    "delegation parent grant mismatch"
  _validate_delegation (← get chain "capability_grant") (← get chain "delegation_receipt")
  require_same chain "trust_profile" "principal_id" "identity" "identity_id"
    "trust profile principal mismatch"

/-! ## The change -/

/-- The repository, the envelope and the task. -/
def check_task (chain : Json) : Except Exn Unit := do
  let repositories ← _binding_values chain "repository_id"
    ["process_contract", "staged_change", "approval", "intent", "policy_decision", "action_receipt"]
  _require_single "repository_id" repositories
  require_same chain "canonical_envelope" "correlation_id" "process_contract" "process_id"
    "envelope correlation_id mismatch"
  match ← get (← member chain "canonical_envelope" "security") "tainted" with
  | .bool tainted =>
    raise_if (tainted = true) (chain_error "tainted envelope cannot authorize publication")
  | _ => .error (chain_error "taint marker is not a boolean")
  require_same chain "task_contract" "process_id" "process_contract" "process_id"
    "task process_id mismatch"
  require_same chain "evidence_bundle" "task_id" "task_contract" "task_id"
    "evidence task_id mismatch"
  require_same chain "evidence_bundle" "patch_digest" "staged_change" "patch_digest"
    "patch_digest mismatch"

/-- `if chain[name][field] != digest: raise ...`. -/
def require_digest (chain : Json) (name field digest message : String) : Except Exn Unit := do
  require_equal (← member chain name field) (.str (.text digest)) message

/-- The evidence and its verification. -/
def check_evidence (chain : Json) : Except Exn Unit := do
  let evidence_digest ← sha256_digest (← get chain "evidence_bundle")
  require_digest chain "verification_report" "evidence_digest" evidence_digest
    "verification evidence digest mismatch"
  require_digest chain "staged_change" "evidence_digest" evidence_digest
    "staged evidence digest mismatch"
  let verification_digest ← sha256_digest (← get chain "verification_report")
  require_digest chain "staged_change" "verification_digest" verification_digest
    "verification digest mismatch"
  require_equal (← member chain "verification_report" "verdict") (.str (.text "pass"))
    "only a passing verification can be staged"

/-- The staged change that is approved: `computed_staged_digest`. -/
def check_staged_change (chain : Json) : Except Exn String := do
  let computed_staged_digest ← sha256_digest (← get chain "staged_change")
  let referenced_staged_digests ← _binding_values chain "staged_change_digest"
    ["approval", "intent", "policy_decision", "action_receipt"]
  _require_single "staged_change_digest" referenced_staged_digests
  raise_if (referenced_staged_digests ≠ {.text computed_staged_digest})
    (chain_error "staged change digest does not match content")
  return computed_staged_digest

/-- The approval and the decision: `decision_id`. -/
def check_decision (chain : Json) : Except Exn Json := do
  let approval_id ← member chain "approval" "approval_id"
  raise_if (py_eq (← member chain "intent" "approval_id") approval_id = false ∨
      py_eq (← member chain "action_receipt" "approval_id") approval_id = false)
    (chain_error "approval_id mismatch")
  let decision_id ← member chain "policy_decision" "decision_id"
  require_equal (← member chain "action_receipt" "policy_decision_id") decision_id
    "policy_decision_id mismatch"
  require_equal (← member chain "policy_decision" "effect") (.str (.text "allow"))
    "receipt cannot reference a deny decision"
  return decision_id

/-! ## The request -/

/-- The fields that a request takes from its intent. -/
def REQUEST_FIELDS : List String :=
  ["process_id", "repository_id", "base_commit", "staged_change_digest", "approval_id",
    "branch_namespace", "base_branch", "title_artifact_ref", "body_artifact_ref", "idempotency_key"]

/-- The loop over the fields of the request. -/
def check_request_fields (chain : Json) : List String → Except Exn Unit
  | [] => .ok ()
  | field :: rest => do
    require_same chain "actuator_request" field "intent" field s!"actuator request {field} mismatch"
    check_request_fields chain rest

/-- The request and the grant issued for it. -/
def check_request (chain : Json) (decision_id : Json) : Except Exn Unit := do
  check_request_fields chain REQUEST_FIELDS
  require_equal (← member chain "actuator_request" "policy_decision_id") decision_id
    "actuator request policy decision mismatch"
  require_same chain "actuator_request" "patch_artifact_ref" "staged_change" "patch_artifact_ref"
    "actuator request patch mismatch"
  require_same chain "credential_use_grant" "actuator_id" "actuator_request" "actuator_id"
    "credential grant actuator mismatch"
  require_same chain "credential_use_grant" "repository_id" "actuator_request" "repository_id"
    "credential grant repository mismatch"
  require_digest chain "credential_use_grant" "request_digest"
    (← sha256_digest (← get chain "actuator_request")) "credential grant request digest mismatch"

/-- `except Exception: raise ContractValidationError("chain: intent base branch is invalid")`. -/
def check_base_branch (value : Json) : Except Exn String :=
  match validate_publication_base_branch value with
  | .ok base_branch => .ok base_branch
  | .error _ => .error (chain_error "intent base branch is invalid")

/-- `publication_idempotency_key` of an intent's branch: `removeprefix` is a
method of strings, and `quote` encodes what remains. -/
def idempotency_key (branch_namespace : Json) (base_branch staged_digest : String) :
    Except Exn String :=
  match branch_namespace with
  | .str (.text branch) => .ok (publication_idempotency_key branch base_branch staged_digest)
  | .str _ => .error ⟨.UnicodeEncodeError, "surrogates not allowed"⟩
  | _ => .error ⟨.AttributeError, "removeprefix"⟩

/-- The branches and the idempotency key. -/
def check_branches (chain : Json) (staged_digest : String) : Except Exn Unit := do
  let base_branch ← check_base_branch (← member chain "intent" "base_branch")
  require_same chain "actuator_request" "base_branch" "intent" "base_branch"
    "actuator request base branch mismatch"
  require_same chain "action_receipt" "base_branch" "intent" "base_branch"
    "receipt base branch mismatch"
  let expected_key ←
    idempotency_key (← member chain "intent" "branch_namespace") base_branch staged_digest
  require_digest chain "intent" "idempotency_key" expected_key
    "intent idempotency key is not content-bound"
  require_digest chain "action_receipt" "idempotency_key" expected_key
    "receipt idempotency key mismatch"

/-- `validate_chain(chain)`. -/
def validate_chain (chain : Json) : Except Exn Unit := do
  check_shape chain
  check_principals chain
  check_task chain
  check_evidence chain
  let computed_staged_digest ← check_staged_change chain
  let decision_id ← check_decision chain
  check_request chain decision_id
  check_branches chain computed_staged_digest

/-! ## What an accepted chain says -/

theorem require_equal_ok {a b : Json} {message : String} :
    require_equal a b message = .ok () ↔ py_eq a b = true := by
  simp [require_equal, raise_if_ok]

theorem require_same_ok {chain : Json} {name field name' field' message : String}
    (h : require_same chain name field name' field' message = .ok ()) :
    ∃ a b, member chain name field = .ok a ∧ member chain name' field' = .ok b ∧
      py_eq a b = true := by
  simp only [require_same, bind_ok, require_equal_ok] at h
  obtain ⟨a, ha, b, hb, heq⟩ := h
  exact ⟨a, b, ha, hb, heq⟩

theorem require_digest_ok {chain : Json} {name field digest message : String} :
    require_digest chain name field digest message = .ok () ↔
      member chain name field = .ok (.str (.text digest)) := by
  simp [require_digest, bind_ok, require_equal_ok, py_eq_text]

/-- The binding values are the strings of the documents. -/
theorem binding_values_mem {chain : Json} {field : String} {names : List String}
    {values : Finset PyStr} (h : _binding_values chain field names = .ok values) :
    ∀ name ∈ names, ∃ value ∈ values, member chain name field = .ok (.str value) := by
  induction names generalizing values with
  | nil => simp
  | cons name rest ih =>
    rw [_binding_values, bind_ok] at h
    obtain ⟨v, hv, h⟩ := h
    cases v <;> simp only [bind_ok, exists_unit, raise_if_ok, pure, Except.pure, Except.ok.injEq, reduceCtorEq]
      at h
    rename_i s
    obtain ⟨-, others, hothers, rfl⟩ := h
    intro name' hname
    rcases List.mem_cons.mp hname with rfl | hname
    · exact ⟨s, Finset.mem_insert_self _ _, hv⟩
    · obtain ⟨value, hvalue, hmember⟩ := ih hothers name' hname
      exact ⟨value, Finset.mem_insert_of_mem hvalue, hmember⟩

/-- `chain[holder][field]` is the digest of the document `chain[name]`. -/
def Names (chain : Json) (holder field name : String) : Prop :=
  ∃ document digest, get chain name = .ok document ∧ sha256_digest document = .ok digest ∧
    member chain holder field = .ok (.str (.text digest))

/-- `chain[name][field]` is the text `branch`. -/
def Branch (chain : Json) (name field branch : String) : Prop :=
  member chain name field = .ok (.str (.text branch))

theorem check_evidence_ok {chain : Json} (h : check_evidence chain = .ok ()) :
    Names chain "staged_change" "evidence_digest" "evidence_bundle" ∧
      Names chain "staged_change" "verification_digest" "verification_report" := by
  simp only [check_evidence, bind_ok, exists_unit, require_digest_ok] at h
  obtain ⟨evidence, hevidence, digest, hdigest, -, hstaged, report, hreport, digest', hdigest',
    hverified, -⟩ := h
  exact ⟨⟨evidence, digest, hevidence, hdigest, hstaged⟩, ⟨report, digest', hreport, hdigest', hverified⟩⟩

/-- The intent names the staged change by its digest. -/
theorem check_staged_change_ok {chain : Json} {staged_digest : String}
    (h : check_staged_change chain = .ok staged_digest) :
    Names chain "intent" "staged_change_digest" "staged_change" := by
  simp only [check_staged_change, bind_ok, exists_unit, raise_if_ok, pure, Except.pure,
    Except.ok.injEq, ne_eq, not_not] at h
  obtain ⟨document, hdocument, digest, hdigest, values, hvalues, -, rfl, rfl⟩ := h
  obtain ⟨value, hvalue, hintent⟩ := binding_values_mem hvalues "intent" (by simp)
  obtain rfl := Finset.mem_singleton.mp hvalue
  exact ⟨document, digest, hdocument, hdigest, hintent⟩

/-- Every field of the loop is equal to the intent's. -/
theorem check_request_fields_ok {chain : Json} {fields : List String}
    (h : check_request_fields chain fields = .ok ()) : ∀ field ∈ fields, ∃ a b,
      member chain "actuator_request" field = .ok a ∧ member chain "intent" field = .ok b ∧
        py_eq a b = true := by
  induction fields with
  | nil => simp
  | cons field rest ih =>
    rw [check_request_fields, bind_ok, exists_unit] at h
    obtain ⟨hsame, hrest⟩ := h
    intro field' hfield
    rcases List.mem_cons.mp hfield with rfl | hfield
    · exact require_same_ok hsame
    · exact ih hrest field' hfield

theorem check_request_ok {chain decision_id : Json} (h : check_request chain decision_id = .ok ()) :
    check_request_fields chain REQUEST_FIELDS = .ok () ∧
      Names chain "credential_use_grant" "request_digest" "actuator_request" := by
  simp only [check_request, bind_ok, exists_unit, require_digest_ok] at h
  obtain ⟨hfields, -, -, -, -, -, -, request, hrequest, digest, hdigest, hgrant⟩ := h
  exact ⟨hfields, request, digest, hrequest, hdigest, hgrant⟩

theorem check_base_branch_ok {value : Json} {base : String} (h : check_base_branch value = .ok base) :
    value = .str (.text base) := by
  unfold check_base_branch at h
  split at h
  · rename_i base' hvalid
    rw [← Except.ok.inj h]
    exact PublicationSeed.base_branch_text hvalid
  · cases h

theorem idempotency_key_ok {value : Json} {base staged_digest key : String}
    (h : idempotency_key value base staged_digest = .ok key) : ∃ branch, value = .str (.text branch) := by
  unfold idempotency_key at h
  split at h
  · exact ⟨_, rfl⟩
  · cases h
  · cases h

/-- The branches of the intent and of the receipt are texts. -/
theorem check_branches_ok {chain : Json} {staged_digest : String}
    (h : check_branches chain staged_digest = .ok ()) :
    (∃ head, Branch chain "intent" "branch_namespace" head) ∧
      ∃ base, Branch chain "intent" "base_branch" base ∧ Branch chain "action_receipt" "base_branch" base := by
  simp only [check_branches, bind_ok, exists_unit] at h
  obtain ⟨value, hvalue, base, hbase, -, hreceipt, ns, hns, key, hkey, -⟩ := h
  obtain rfl := check_base_branch_ok hbase
  obtain ⟨head, rfl⟩ := idempotency_key_ok hkey
  obtain ⟨a, b, ha, hb, heq⟩ := require_same_ok hreceipt
  obtain rfl : .str (.text base) = b := Except.ok.inj (hvalue.symm.trans hb)
  obtain rfl := py_eq_text.mp heq
  exact ⟨⟨head, hns⟩, base, hvalue, ha⟩

/-- **The links of an accepted chain**: from the grant to the request, from the
request to the staged change, from there to its evidence and its verification,
each by a digest. -/
structure Linked (chain : Json) : Prop where
  request : Names chain "credential_use_grant" "request_digest" "actuator_request"
  staged : Names chain "actuator_request" "staged_change_digest" "staged_change"
  evidence : Names chain "staged_change" "evidence_digest" "evidence_bundle"
  verification : Names chain "staged_change" "verification_digest" "verification_report"
  head : ∃ head, Branch chain "actuator_request" "branch_namespace" head ∧
    Branch chain "intent" "branch_namespace" head
  base : ∃ base, Branch chain "actuator_request" "base_branch" base ∧
    Branch chain "intent" "base_branch" base ∧ Branch chain "action_receipt" "base_branch" base

/-- A text that the intent has for a field of the request is the request's. -/
theorem request_text {chain : Json} (h : check_request_fields chain REQUEST_FIELDS = .ok ())
    {field text : String} (hfield : field ∈ REQUEST_FIELDS)
    (hintent : member chain "intent" field = .ok (.str (.text text))) :
    member chain "actuator_request" field = .ok (.str (.text text)) := by
  obtain ⟨a, b, ha, hb, heq⟩ := check_request_fields_ok h field hfield
  rw [hintent, Except.ok.injEq] at hb
  rw [← hb, py_eq_text] at heq
  rw [ha, heq]

theorem linked_of_valid {chain : Json} (h : validate_chain chain = .ok ()) : Linked chain := by
  simp only [validate_chain, bind_ok, exists_unit] at h
  obtain ⟨-, -, -, hevidence, staged_digest, hstaged, decision_id, -, hrequest, hbranches⟩ := h
  obtain ⟨hfields, hgrant⟩ := check_request_ok hrequest
  obtain ⟨document, digest, hdocument, hdigest, hintent⟩ := check_staged_change_ok hstaged
  obtain ⟨⟨head, hhead⟩, base, hbase, hreceipt⟩ := check_branches_ok hbranches
  exact {
    request := hgrant
    staged := ⟨document, digest, hdocument, hdigest, request_text hfields (by decide) hintent⟩
    evidence := (check_evidence_ok hevidence).1
    verification := (check_evidence_ok hevidence).2
    head := ⟨head, request_text hfields (by decide) hhead, hhead⟩
    base := ⟨base, request_text hfields (by decide) hbase, hbase, hreceipt⟩ }

/-! ## Two chains -/

/-- A JSON document. -/
def Document : Type := { j : Json // j.wf ∧ j.plain }

/-- The two chains have the same document, up to key order. -/
def SameDocument (chain chain' : Json) (name : String) : Prop :=
  ∃ a b, get chain name = .ok a ∧ get chain' name = .ok b ∧ a.norm = b.norm

/-- The texts of the two documents are a collision of the hash. -/
def Collides (chain chain' : Json) (name : String) : Prop :=
  ∃ a b, get chain name = .ok a ∧ get chain' name = .ok b ∧
    Collision (canonical_bytes a) (canonical_bytes b)

theorem get_ok {doc value : Json} {key : String} : get doc key = .ok value ↔ doc.get? key = some value := by
  unfold get
  split <;> simp_all

/-- The members of a JSON document are JSON documents. -/
theorem get_document {doc value : Json} {key : String} (hdoc : doc.wf ∧ doc.plain)
    (h : get doc key = .ok value) : value.wf ∧ value.plain := by
  rw [get_ok] at h
  cases doc with
  | obj fields =>
    have hmem := mem_of_lookup (show fields.lookup (.text key) = some value from h)
    obtain ⟨⟨-, hwf⟩, hplain⟩ := hdoc
    exact ⟨Json.wf_fields_iff.mp hwf _ hmem, Json.plain_fields_iff.mp hplain _ hmem⟩
  | _ => cases h

/-- A text is its own normal form. -/
theorem norm_text {v : Json} {s : PyStr} : v.norm = .str s ↔ v = .str s := by
  cases v <;> simp [Json.norm]

/-- Equal documents give the same text for a field. -/
theorem SameDocument.member_text {chain chain' : Json} {name field : String} {s : PyStr}
    (hc : chain.wf ∧ chain.plain) (hc' : chain'.wf ∧ chain'.plain) (h : SameDocument chain chain' name)
    (htext : member chain name field = .ok (.str s)) : member chain' name field = .ok (.str s) := by
  obtain ⟨a, b, ha, hb, hnorm⟩ := h
  rw [member, ha, ok_bind, get_ok] at htext
  have hget : b.norm.get? field = some (.str s) := by
    rw [← hnorm, Json.get?_norm (get_document hc ha).1, htext]
    rfl
  rw [Json.get?_norm (get_document hc' hb).1, Option.map_eq_some_iff] at hget
  obtain ⟨v, hv, hvs⟩ := hget
  rw [member, hb, ok_bind, get_ok, hv, norm_text.mp hvs]

/-- One digest names one document. -/
theorem Names.agree {chain chain' : Json} {holder field name : String} {s : PyStr}
    (hc : chain.wf ∧ chain.plain) (hc' : chain'.wf ∧ chain'.plain)
    (h : Names chain holder field name) (h' : Names chain' holder field name)
    (hs : member chain holder field = .ok (.str s)) (hs' : member chain' holder field = .ok (.str s)) :
    SameDocument chain chain' name ∨ Collides chain chain' name := by
  obtain ⟨a, digest, ha, hdigest, hfield⟩ := h
  obtain ⟨b, digest', hb, hdigest', hfield'⟩ := h'
  have heq : digest = digest' := by
    rw [hs] at hfield
    rw [hs'] at hfield'
    have htexts := (Except.ok.inj hfield).symm.trans (Except.ok.inj hfield')
    rwa [Json.str.injEq, PyStr.text.injEq] at htexts
  subst heq
  rcases sha256_digest_inj (get_document hc ha) (get_document hc' hb) hdigest hdigest' with hn | hcol
  · exact .inl ⟨a, b, ha, hb, hn⟩
  · exact .inr ⟨a, b, ha, hb, hcol⟩

/-- The documents that a grant determines. -/
def BOUND : List String := ["actuator_request", "staged_change", "evidence_bundle", "verification_report"]

/-- Where a chain has its head branch and its base branch. -/
def BRANCHES : List (String × String) :=
  [("actuator_request", "branch_namespace"), ("intent", "branch_namespace"),
    ("actuator_request", "base_branch"), ("intent", "base_branch"), ("action_receipt", "base_branch")]

/-- The two chains have the same branches. -/
def SameBranches (chain chain' : Json) : Prop :=
  ∀ place ∈ BRANCHES, ∃ branch,
    Branch chain place.1 place.2 branch ∧ Branch chain' place.1 place.2 branch

/-- Linked chains with one request have the same branches. -/
theorem Linked.same_branches {chain chain' : Json} (hc : chain.wf ∧ chain.plain)
    (hc' : chain'.wf ∧ chain'.plain) (h : Linked chain) (h' : Linked chain')
    (hrequest : SameDocument chain chain' "actuator_request") : SameBranches chain chain' := by
  obtain ⟨head, hhead, hhead_intent⟩ := h.head
  obtain ⟨base, hbase, hbase_intent, hbase_receipt⟩ := h.base
  obtain ⟨head', hhead', hhead_intent'⟩ := h'.head
  obtain ⟨base', hbase', hbase_intent', hbase_receipt'⟩ := h'.base
  -- The branches of the second chain are those that its request shares with the first.
  have heq : head = head' := by
    have hsame := (hrequest.member_text hc hc' hhead).symm.trans hhead'
    simpa using hsame
  have heq' : base = base' := by
    have hsame := (hrequest.member_text hc hc' hbase).symm.trans hbase'
    simpa using hsame
  subst heq heq'
  intro place hplace
  simp only [BRANCHES, List.mem_cons, List.not_mem_nil, or_false] at hplace
  rcases hplace with rfl | rfl | rfl | rfl | rfl
  · exact ⟨head, hhead, hhead'⟩
  · exact ⟨head, hhead_intent, hhead_intent'⟩
  · exact ⟨base, hbase, hbase'⟩
  · exact ⟨base, hbase_intent, hbase_intent'⟩
  · exact ⟨base, hbase_receipt, hbase_receipt'⟩

/-- A linked document's digests of other documents. -/
theorem Names.member {chain : Json} {holder field name : String} (h : Names chain holder field name) :
    ∃ s, Chain.member chain holder field = .ok (.str s) := by
  obtain ⟨-, digest, -, -, hfield⟩ := h
  exact ⟨_, hfield⟩

/-- A document shared by two chains names one document in both. -/
theorem Names.follow {chain chain' : Json} {holder field name : String} (hc : chain.wf ∧ chain.plain)
    (hc' : chain'.wf ∧ chain'.plain) (h : Names chain holder field name)
    (h' : Names chain' holder field name) (hholder : SameDocument chain chain' holder) :
    SameDocument chain chain' name ∨ Collides chain chain' name := by
  obtain ⟨s, hs⟩ := h.member
  exact h.agree hc hc' h' hs (hholder.member_text hc hc' hs)

/-- **One grant, one change**: two accepted chains whose credential grants carry
one request digest have the same request, staged change, evidence, verification
and branches, unless the texts of two of these documents are a collision. -/
theorem chain_binding (chain chain' : Document) (h : validate_chain chain.val = .ok ())
    (h' : validate_chain chain'.val = .ok ())
    (hgrant : member chain.val "credential_use_grant" "request_digest" =
      member chain'.val "credential_use_grant" "request_digest") :
    (∀ name ∈ BOUND, SameDocument chain.val chain'.val name) ∧ SameBranches chain.val chain'.val ∨
      ∃ name ∈ BOUND, Collides chain.val chain'.val name := by
  obtain ⟨chain, hc⟩ := chain
  obtain ⟨chain', hc'⟩ := chain'
  have hl := linked_of_valid h
  have hl' := linked_of_valid h'
  obtain ⟨s, hs⟩ := hl.request.member
  -- The argument follows the digests from the grant; each step may end in a collision.
  rcases hl.request.agree hc hc' hl'.request hs (hgrant.symm.trans hs) with hrequest | hcol
  swap; · exact .inr ⟨_, by simp [BOUND], hcol⟩
  rcases hl.staged.follow hc hc' hl'.staged hrequest with hstaged | hcol
  swap; · exact .inr ⟨_, by simp [BOUND], hcol⟩
  rcases hl.evidence.follow hc hc' hl'.evidence hstaged with hevidence | hcol
  swap; · exact .inr ⟨_, by simp [BOUND], hcol⟩
  rcases hl.verification.follow hc hc' hl'.verification hstaged with hverification | hcol
  swap; · exact .inr ⟨_, by simp [BOUND], hcol⟩
  refine .inl ⟨?_, hl.same_branches hc hc' hl' hrequest⟩
  simp only [BOUND, List.forall_mem_cons, List.not_mem_nil, false_implies, implies_true, and_true]
  exact ⟨hrequest, hstaged, hevidence, hverification⟩

/-! ## A chain -/

/-- A document of text fields. -/
def text_document (fields : List (String × String)) : Json :=
  .obj (fields.map fun field => (.text field.1, .str (.text field.2)))

/-- An accepted chain, whose grants this principal holds. -/
def sample_chain (principal : String) : Json :=
  let change := [("process_id", "p"), ("repository_id", "r")]
  let staged_digest := "sha256:83fd5034cfa975e8a0a77b61cd6531bd62ee5144a26237b68010926c64d4922a"
  let evidence_digest := "sha256:e74faf235e62ba09236d9257177cee735b9dcd8d1d20b17cf4dbec386147bdfa"
  let report_digest := "sha256:d6748300a9239990d106c1cb762d293d6f1b997f18bcbeb28794f2b179b5ceeb"
  let request_digest := "sha256:7ac60ccd618fbfae2c1b5d362b2c8c108a87ca2d9eb861e1e748a0c23a6565e3"
  let key := "publish/h/main/" ++ staged_digest
  let approved := change ++ [("staged_change_digest", staged_digest), ("approval_id", "a")]
  let intent := approved ++
    [("base_commit", "c"), ("branch_namespace", "agent/h"), ("base_branch", "main"),
      ("title_artifact_ref", "t"), ("body_artifact_ref", "b"), ("idempotency_key", key)]
  .obj
    [(.text "process_contract", text_document change),
      (.text "identity", text_document [("identity_id", principal), ("status", "active")]),
      (.text "capability_grant", .obj
        [(.text "subject", .str (.text principal)), (.text "status", .str (.text "active")),
          (.text "process_id", .str (.text "p")), (.text "grant_id", .str (.text "g")),
          (.text "delegable_actions", .arr []), (.text "resources", .arr []),
          (.text "max_delegation_depth", .int 1)]),
      (.text "delegation_receipt", .obj
        [(.text "parent_grant_id", .str (.text "g")), (.text "issuer", .str (.text principal)),
          (.text "process_id", .str (.text "p")), (.text "actions", .arr []),
          (.text "resources", .arr []), (.text "remaining_delegation_depth", .int 0)]),
      (.text "trust_profile", text_document [("principal_id", principal)]),
      (.text "canonical_envelope", .obj
        [(.text "correlation_id", .str (.text "p")),
          (.text "security", .obj [(.text "tainted", .bool false)])]),
      (.text "task_contract", text_document [("process_id", "p"), ("task_id", "t")]),
      (.text "evidence_bundle", text_document [("task_id", "t"), ("patch_digest", "x")]),
      (.text "verification_report",
        text_document [("evidence_digest", evidence_digest), ("verdict", "pass")]),
      (.text "staged_change", text_document (change ++
        [("patch_digest", "x"), ("evidence_digest", evidence_digest),
          ("verification_digest", report_digest), ("patch_artifact_ref", "y")])),
      (.text "approval", text_document approved),
      (.text "intent", text_document intent),
      (.text "policy_decision", text_document
        [("repository_id", "r"), ("staged_change_digest", staged_digest), ("decision_id", "d"),
          ("effect", "allow")]),
      (.text "actuator_request", text_document (intent ++
        [("policy_decision_id", "d"), ("patch_artifact_ref", "y"), ("actuator_id", "g")])),
      (.text "credential_use_grant", text_document
        [("actuator_id", "g"), ("repository_id", "r"), ("request_digest", request_digest)]),
      (.text "action_receipt", text_document (approved ++
        [("policy_decision_id", "d"), ("idempotency_key", key), ("base_branch", "main")]))]

/-- The chain, as a document. -/
def sample_document (principal : String) : Document := ⟨sample_chain principal, by
  simp [sample_chain, text_document, Json.wf, Json.wf_fields, Json.wf_items, Json.plain,
    Json.plain_fields, Json.plain_items]⟩

/-- The digests of the evidence, of its verification and of the staged change. -/
theorem sample_evidence (principal : String) : check_evidence (sample_chain principal) = .ok () := by
  have hbundle : member (sample_chain principal) "verification_report" "evidence_digest" = .ok (.str (.text
      "sha256:e74faf235e62ba09236d9257177cee735b9dcd8d1d20b17cf4dbec386147bdfa")) := rfl
  have hstaged : member (sample_chain principal) "staged_change" "evidence_digest" = .ok (.str (.text
      "sha256:e74faf235e62ba09236d9257177cee735b9dcd8d1d20b17cf4dbec386147bdfa")) := rfl
  have hreport : member (sample_chain principal) "staged_change" "verification_digest" = .ok (.str (.text
      "sha256:d6748300a9239990d106c1cb762d293d6f1b997f18bcbeb28794f2b179b5ceeb")) := rfl
  have hverdict : member (sample_chain principal) "verification_report" "verdict" = .ok (.str (.text "pass")) := rfl
  have hdigest : (get (sample_chain principal) "evidence_bundle").bind sha256_digest = .ok
      "sha256:e74faf235e62ba09236d9257177cee735b9dcd8d1d20b17cf4dbec386147bdfa" :=
    sha256_digest_of (j := text_document [("task_id", "t"), ("patch_digest", "x")])
      (by decide +kernel) (by decide +kernel)
  have hdigest' : (get (sample_chain principal) "verification_report").bind sha256_digest = .ok
      "sha256:d6748300a9239990d106c1cb762d293d6f1b997f18bcbeb28794f2b179b5ceeb" :=
    sha256_digest_of (j := text_document [("evidence_digest",
      "sha256:e74faf235e62ba09236d9257177cee735b9dcd8d1d20b17cf4dbec386147bdfa"), ("verdict", "pass")])
      (by decide +kernel) (by decide +kernel)
  obtain ⟨bundle, hb, hd⟩ := bind_ok.mp hdigest
  obtain ⟨report, hr, hd'⟩ := bind_ok.mp hdigest'
  rw [check_evidence, hb, ok_bind, hd, ok_bind, require_digest_ok.mpr hbundle, ok_bind,
    require_digest_ok.mpr hstaged, ok_bind, hr, ok_bind, hd', ok_bind, require_digest_ok.mpr hreport,
    ok_bind, hverdict, ok_bind]
  rfl

theorem sample_staged {principal : String} (h : principal ∈ ["i", "j"]) :
    check_staged_change (sample_chain principal) =
    .ok "sha256:83fd5034cfa975e8a0a77b61cd6531bd62ee5144a26237b68010926c64d4922a" := by
  have hdigest : (get (sample_chain principal) "staged_change").bind sha256_digest = .ok
      "sha256:83fd5034cfa975e8a0a77b61cd6531bd62ee5144a26237b68010926c64d4922a" :=
    sha256_digest_of (j := text_document [("process_id", "p"), ("repository_id", "r"),
      ("patch_digest", "x"),
      ("evidence_digest", "sha256:e74faf235e62ba09236d9257177cee735b9dcd8d1d20b17cf4dbec386147bdfa"),
      ("verification_digest",
        "sha256:d6748300a9239990d106c1cb762d293d6f1b997f18bcbeb28794f2b179b5ceeb"),
      ("patch_artifact_ref", "y")]) (by decide +kernel) (by decide +kernel)
  have hvalues : ∀ principal ∈ ["i", "j"], _binding_values (sample_chain principal) "staged_change_digest"
      ["approval", "intent", "policy_decision", "action_receipt"] =
      .ok {.text "sha256:83fd5034cfa975e8a0a77b61cd6531bd62ee5144a26237b68010926c64d4922a"} := by
    decide +kernel
  obtain ⟨staged, hs, hd⟩ := bind_ok.mp hdigest
  rw [check_staged_change, hs, ok_bind, hd, ok_bind, hvalues principal h, ok_bind,
    _require_single, raise_if_ok.mpr (by rw [Finset.card_singleton]; decide), ok_bind,
    raise_if_ok.mpr (not_not.mpr rfl), ok_bind]
  rfl

theorem sample_request {principal : String} (h : principal ∈ ["i", "j"]) :
    check_request (sample_chain principal) (.str (.text "d")) = .ok () := by
  have hfields : ∀ principal ∈ ["i", "j"],
      check_request_fields (sample_chain principal) REQUEST_FIELDS = .ok () := by decide +kernel
  have hdecision : member (sample_chain principal) "actuator_request" "policy_decision_id" =
      .ok (.str (.text "d")) := rfl
  have hpatch : require_same (sample_chain principal) "actuator_request" "patch_artifact_ref" "staged_change"
      "patch_artifact_ref" "actuator request patch mismatch" = .ok () := by rfl
  have hactuator : require_same (sample_chain principal) "credential_use_grant" "actuator_id" "actuator_request"
      "actuator_id" "credential grant actuator mismatch" = .ok () := by rfl
  have hrepository : require_same (sample_chain principal) "credential_use_grant" "repository_id"
      "actuator_request" "repository_id" "credential grant repository mismatch" = .ok () := by rfl
  have hgrant : member (sample_chain principal) "credential_use_grant" "request_digest" = .ok (.str (.text
      "sha256:7ac60ccd618fbfae2c1b5d362b2c8c108a87ca2d9eb861e1e748a0c23a6565e3")) := rfl
  -- the digest of the request is one of its own members written out
  have hdigest : (get (sample_chain principal) "actuator_request").bind sha256_digest = .ok
      "sha256:7ac60ccd618fbfae2c1b5d362b2c8c108a87ca2d9eb861e1e748a0c23a6565e3" :=
    sha256_digest_of (j := text_document [("process_id", "p"), ("repository_id", "r"),
      ("staged_change_digest",
        "sha256:83fd5034cfa975e8a0a77b61cd6531bd62ee5144a26237b68010926c64d4922a"),
      ("approval_id", "a"), ("base_commit", "c"), ("branch_namespace", "agent/h"),
      ("base_branch", "main"), ("title_artifact_ref", "t"), ("body_artifact_ref", "b"),
      ("idempotency_key", "publish/h/main/" ++
        "sha256:83fd5034cfa975e8a0a77b61cd6531bd62ee5144a26237b68010926c64d4922a"),
      ("policy_decision_id", "d"), ("patch_artifact_ref", "y"), ("actuator_id", "g")])
      (by decide +kernel) (by decide +kernel)
  obtain ⟨request, hr, hd⟩ := bind_ok.mp hdigest
  rw [check_request, hfields principal h, ok_bind, hdecision, ok_bind, require_equal_ok.mpr (by rfl), ok_bind,
    hpatch, ok_bind, hactuator, ok_bind, hrepository, ok_bind, hr, ok_bind, hd, ok_bind,
    require_digest_ok.mpr hgrant]

theorem sample_chain_valid {principal : String} (h : principal ∈ ["i", "j"]) :
    validate_chain (sample_document principal).val = .ok () := by
  have hchecks : ∀ principal ∈ ["i", "j"], check_shape (sample_chain principal) = .ok () ∧
      check_principals (sample_chain principal) = .ok () ∧ check_task (sample_chain principal) = .ok () ∧
      check_branches (sample_chain principal)
        "sha256:83fd5034cfa975e8a0a77b61cd6531bd62ee5144a26237b68010926c64d4922a" = .ok () := by
    decide +kernel
  obtain ⟨hshape, hprincipals, htask, hbranches⟩ := hchecks principal h
  have hdecision : check_decision (sample_chain principal) = .ok (.str (.text "d")) := by rfl
  have hvalid : validate_chain (sample_chain principal) = .ok () := by
    rw [validate_chain, hshape, ok_bind, hprincipals, ok_bind, htask, ok_bind, sample_evidence,
      ok_bind, sample_staged h, ok_bind, hdecision, ok_bind, sample_request h, ok_bind, hbranches]
  exact hvalid

/-- Two chains with one grant, of two principals. -/
theorem chain_binding_sample :
    (member (sample_chain "i") "identity" "identity_id" = .ok (.str (.text "i")) ∧
        member (sample_chain "j") "identity" "identity_id" = .ok (.str (.text "j"))) ∧
      ((∀ name ∈ BOUND, SameDocument (sample_chain "i") (sample_chain "j") name) ∧
        SameBranches (sample_chain "i") (sample_chain "j") ∨
      ∃ name ∈ BOUND, Collides (sample_chain "i") (sample_chain "j") name) :=
  ⟨⟨rfl, rfl⟩, chain_binding (sample_document "i") (sample_document "j")
    (sample_chain_valid (by decide)) (sample_chain_valid (by decide)) rfl⟩

end AppContracts.Chain
