/-
Publishing verified files to a branch: `publish_verified_files` and
`reconcile_verified_files` of `github_app.py`.

The provider keeps trees of blobs by path. A file is replaced by a PUT that names
the blob it replaces, so the provider applies it only to that blob. Every request
may be lost, before or after the provider applied it, or answered in a form the
channel cannot read; an attempt that is stopped loses all its further requests.
-/
import AppContracts.GitTree
import AppContracts.Lib.Triple

set_option autoImplicit false

namespace AppContracts.GitHubPublication

open Stateful
open GitHubSnapshot (is_oid)

/-! ## The provider -/

/-- A Git object ID. -/
structure Oid : Type where
  value : String
  valid : is_oid value = true
  deriving DecidableEq

/-- What stands at a path: a regular file, or a directory, link or submodule. -/
inductive Entry : Type
  | file (sha : Oid)
  | other
  deriving DecidableEq

/-- The entries of a commit by path. -/
abbrev Tree : Type := String → Option Entry

/-- A branch: its last commit, and the tree of it. -/
structure Branch : Type where
  commit : Oid
  tree : Tree

/-- The repository at the provider. A commit's tree never changes. -/
structure Provider : Type where
  commits : Oid → Tree
  branches : String → Option Branch

/-- What becomes of a request. A write that is applied makes the commit given
here. -/
inductive Outcome : Type
  | answered (commit : Oid)
  | garbled (commit : Oid)
  | lost (applied : Option Oid)

/-- The channel between the calls of one attempt, and the provider. The history
has the provider after each write it applied. -/
structure Session : Type where
  provider : Provider
  outcomes : List Outcome
  history : List Provider
  file_reconciliation_required : List String

/-- A computation of the channel. -/
abbrev Net (α : Type) : Type := Prog Exn Session α

/-- `_git_blob_sha(content)`. -/
def _git_blob_sha (content : String) : Oid :=
  let encoded := utf8_bytes content
  let header := utf8_bytes "blob " ++ utf8_bytes (String.ofList (Json.digits encoded.length)) ++ [0]
  ⟨Sha1.hexdigest (header ++ encoded), GitHubSnapshot.is_oid_hexdigest _⟩

/-- `GitHubAppBrokerError(message)`. -/
def broker_error (message : String) : Exn := ⟨.GitHubAppBrokerError, message⟩

/-- `ContractValidationError("GitHub actuator: " + message)`. -/
def actuator_error (message : String) : Exn := ⟨.ContractValidationError, "GitHub actuator: " ++ message⟩

/-- The fate of the next request; none is left when the attempt was stopped. -/
def next_outcome : Net Outcome := do
  let s ← get
  match s.outcomes with
  | [] => return .lost none
  | outcome :: rest => do
    set { s with outcomes := rest }
    return outcome

/-- `_get_json(url, headers)`, for what the provider answers. -/
def _get_json (answer : Provider → Except Exn Json) : Net Json := do
  let outcome ← next_outcome
  match outcome with
  | .answered _ => do
    let s ← get
    liftM (answer s.provider)
  | .garbled _ => return .null
  | .lost _ => throw (broker_error "GitHub pull-request reconciliation failed")

/-- A write: the provider refuses it, or applies it and answers. -/
abbrev Effect : Type := Oid → Provider → Except Exn (Provider × Json)

/-- The provider applies a write. -/
def apply_write (effect : Effect) (commit : Oid) : Net Json := do
  let s ← get
  let (provider, response) ← liftM (effect commit s.provider)
  set { s with provider := provider, history := s.history ++ [provider] }
  return response

/-- `_post_json(url, headers, payload)` and `_put_json(url, headers, payload)`. -/
def send_json (message : String) (effect : Effect) : Net Json := do
  let outcome ← next_outcome
  match outcome with
  | .answered commit => apply_write effect commit
  | .garbled commit => do
    let _ ← apply_write effect commit
    return .obj []
  | .lost (some commit) => do
    let _ ← apply_write effect commit
    throw (broker_error message)
  | .lost none => throw (broker_error message)

/-- An object of the provider's answers. -/
def answer_obj (fields : List (String × Json)) : Json :=
  .obj (fields.map fun field => (.text field.1, field.2))

/-- The text of an answer. -/
def answer_text (s : String) : Json := .str (.text s)

/-- The contents of a path: a file's metadata, or a directory's list. -/
def contents (tree : Tree) (path : String) : Except Exn Json :=
  match tree path with
  | none => .error ⟨.FileNotFoundError, "GitHub resource not found: " ++ path⟩
  | some (.file sha) => .ok (answer_obj [("type", answer_text "file"), ("sha", answer_text sha.value)])
  | some .other => .ok (.arr [])

/-- The reference of a branch. -/
def reference (branch : String) (provider : Provider) : Except Exn Json :=
  match provider.branches branch with
  | none => .error ⟨.FileNotFoundError, "GitHub resource not found: " ++ branch⟩
  | some b => .ok (answer_obj [("ref", answer_text ("refs/heads/" ++ branch)),
      ("object", answer_obj [("type", answer_text "commit"), ("sha", answer_text b.commit.value)])])

/-- The contents of a path on a branch. -/
def branch_contents (branch path : String) (provider : Provider) : Except Exn Json :=
  match provider.branches branch with
  | none => .error ⟨.FileNotFoundError, "GitHub resource not found: " ++ branch⟩
  | some b => contents b.tree path

/-- The branches after one is set. -/
def Provider.set_branch (provider : Provider) (branch : String) (b : Branch) : Provider :=
  { provider with branches := Function.update provider.branches branch (some b) }

/-- A new reference to a commit. -/
def create_reference (branch : String) (base_commit : Oid) : Effect := fun _ provider =>
  match provider.branches branch with
  | some _ => .error (broker_error "GitHub App token exchange failed")
  | none => .ok (provider.set_branch branch ⟨base_commit, provider.commits base_commit⟩, .obj [])

/-- A file is replaced if `sha` is the blob it has. -/
def put_contents (branch path content : String) (sha : Oid) : Effect := fun commit provider =>
  match provider.branches branch with
  | none => .error (broker_error "GitHub verified-file publication failed")
  | some b =>
    if b.tree path = some (.file sha) then
      .ok (provider.set_branch branch
          ⟨commit, Function.update b.tree path (some (.file (_git_blob_sha content)))⟩,
        answer_obj [("commit", answer_obj [("sha", answer_text commit.value)])])
    else .error (broker_error "GitHub verified-file publication failed")

/-! ## The manifest -/

/-- The attributes of a manifest's file. -/
structure ManifestFile : Type where
  path : Arg PyStr
  content : Arg PyStr
  content_digest : Arg PyStr

/-- The test of a manifest's path, on its code points; `/` is 47 and `.` is 46. -/
def safe_manifest_path (path : PyStr) : Bool :=
  let codes := path.codes
  !codes.isEmpty && codes == strip_codes codes && codes.head? != some 47 &&
    !(codes.splitOn 47).contains [46, 46]

/-- The checked path of a file. -/
def check_path (error : Exn) (file : ManifestFile) : Except Exn PyStr :=
  match file.path with
  | .of path => if safe_manifest_path path then .ok path else .error error
  | .other => .error error

/-- The content of a file, if its digest is right. -/
def check_content (error : Exn) (file : ManifestFile) : Except Exn String :=
  match file.content, file.content_digest with
  | .of content, .of content_digest => do
    let content ← bind_text content
    if content_digest = .text (sha256_bytes (utf8_bytes content)) then .ok content else .error error
  | _, _ => .error error

/-- The loop of `publish_verified_files` over the manifest. -/
def validate_files : List ManifestFile → Except Exn (List (PyStr × String))
  | [] => .ok []
  | file :: rest => do
    let path ← check_path (actuator_error "manifest path is unsafe") file
    let content ← check_content (actuator_error "manifest content digest mismatch") file
    let validated ← validate_files rest
    return (path, content) :: validated

/-- A branch of the agent's namespace. -/
def agent_branch (branch : String) : Bool :=
  "agent/process-".toList.isPrefixOf branch.toList && "agent/process-".length < branch.length

/-- What the channel reads of its config. -/
structure Config : Type where
  installation_id : ℕ
  repository_id : ℕ

/-- The repository the channel is for. -/
def Config.repository (config : Config) : String :=
  s!"github-installation/{config.installation_id}/repository/{config.repository_id}"

/-- A digest `sha256:` with 64 digits. -/
def is_sha256 (value : String) : Bool :=
  let digits := value.toList.drop "sha256:".length
  "sha256:".toList.isPrefixOf value.toList && digits.length == 64 &&
    digits.all GitHubSnapshot.is_oid_digit

/-- A string among the fields of an object. -/
def field_text (object : Json) (key : String) : Option String :=
  match object.get? key with
  | some (.str (.text s)) => some s
  | _ => none

/-- The base commit of a staged change. -/
def check_staged_change (config : Config) (staged_change : Json) : Except Exn Oid :=
  if field_text staged_change "repository_id" ≠ some config.repository then
    .error (actuator_error "staged change repository is not allowlisted")
  else
    match field_text staged_change "base_commit" with
    | none => .error (actuator_error "staged change base commit is invalid")
    | some base_commit =>
      if h : is_oid base_commit = true then
        if (field_text staged_change "patch_digest").any is_sha256 then .ok ⟨base_commit, h⟩
        else .error (actuator_error "staged change patch digest is invalid")
      else .error (actuator_error "staged change base commit is invalid")

/-- `isinstance(value, dict)`. -/
def is_dict : Json → Bool
  | .obj _ => true
  | _ => false

/-- The checks before the first request. -/
def check_publication (config : Config) (branch : String) (staged_change : Json)
    (files : List ManifestFile) (required : List String) :
    Except Exn (Oid × List (PyStr × String)) := do
  if is_dict staged_change = false then .error (actuator_error "staged change is invalid")
  else if files.isEmpty then .error (actuator_error "verified publish manifest is empty")
  else
    let base_commit ← check_staged_change config staged_change
    if agent_branch branch = false then .error (actuator_error "branch is outside the agent namespace")
    else if branch ∈ required then
      .error (broker_error "GitHub verified-file reconciliation required before retry")
    else
      let validated ← validate_files files
      if (validated.map Prod.fst).Nodup then .ok (base_commit, validated)
      else .error (actuator_error "manifest contains duplicate path")

/-! ## Publication -/

/-- The object ID in the metadata of a regular file. -/
def file_sha (metadata : Json) : Option Oid :=
  match field_text metadata "sha" with
  | none => none
  | some sha =>
    if h : field_text metadata "type" = some "file" ∧ is_oid sha = true then some ⟨sha, h.2⟩ else none

/-- The body of a loop that reads a file: a failed request and unreadable metadata
have each their error. -/
def read_file (failed invalid : String) (answer : Provider → Except Exn Json) : Net Oid := do
  let metadata ← tryCatch (_get_json answer) fun _ => throw (broker_error failed)
  match file_sha metadata with
  | some sha => return sha
  | none => throw (broker_error invalid)

/-- A file to publish: its path, its content, and the blob it has at the base. -/
structure Target : Type where
  path : String
  content : String
  base : Oid

/-- The loop that reads the base blobs. -/
def read_base (base_commit : Oid) : List (PyStr × String) → Net (List Target)
  | [] => return []
  | (path, content) :: rest => do
    let path ← liftM (bind_text path)
    let sha ← read_file "GitHub base-file reconciliation failed" "GitHub base-file metadata is invalid"
      fun provider => contents (provider.commits base_commit) path
    let targets ← read_base base_commit rest
    return ⟨path, content, sha⟩ :: targets

/-- What `_read_branch_reference` returns. -/
inductive BranchState : Type
  | unknown
  | absent
  | present (commit_sha : String)

/-- The commit a reference names. -/
def reference_commit (branch : String) (response : Json) : Option String :=
  match response.get? "object" with
  | none => none
  | some object =>
    if field_text response "ref" = some ("refs/heads/" ++ branch) ∧
        field_text object "type" = some "commit" then
      (field_text object "sha").filter is_oid
    else none

/-- `_read_branch_reference(branch)`. -/
def _read_branch_reference (branch : String) : Net BranchState := do
  let read : Net BranchState := do
    let response ← _get_json (reference branch)
    match reference_commit branch response with
    | some commit_sha => return .present commit_sha
    | none => return .unknown
  tryCatch read fun e => return if e.cls = .FileNotFoundError then .absent else .unknown

/-- The loop that reads the branch: the files that are still to be replaced. -/
def files_to_update (branch : String) : List Target → Net (List Target)
  | [] => return []
  | target :: rest => do
    let current_sha ← read_file "GitHub branch-file reconciliation failed"
      "GitHub branch-file metadata is invalid" (branch_contents branch target.path)
    if current_sha = _git_blob_sha target.content then files_to_update branch rest
    else if current_sha ≠ target.base then
      throw (broker_error "GitHub branch-file state conflicts with staged base")
    else do
      let targets ← files_to_update branch rest
      return target :: targets

/-- The commit a PUT made. -/
def response_commit (response : Json) : Option String :=
  (response.get? "commit").bind fun commit => field_text commit "sha"

/-- One PUT. -/
def put_file (branch : String) (target : Target) : Net String := do
  let send : Net String := do
    let response ← send_json "GitHub verified-file publication failed"
      (put_contents branch target.path target.content target.base)
    match response_commit response with
    | some sha => return sha
    | none => throw (broker_error "GitHub verified-file response is missing commit SHA")
  tryCatch send fun e => do
    modify fun s =>
      { s with file_reconciliation_required := branch :: s.file_reconciliation_required }
    throw (if e.cls = .GitHubAppBrokerError then e
      else broker_error "GitHub verified-file publication failed")

/-- The loop that replaces the files; the last commit is the branch's. -/
def put_files (branch : String) : List Target → String → Net String
  | [], commit_sha => return commit_sha
  | target :: rest, _ => do
    let commit_sha ← put_file branch target
    put_files branch rest commit_sha

/-- `publish_verified_files(branch=branch, staged_change=staged_change, files=files)`. -/
def publish_verified_files (config : Config) (branch : String) (staged_change : Json)
    (files : List ManifestFile) : Net String := do
  let s ← get
  let (base_commit, validated) ←
    liftM (check_publication config branch staged_change files s.file_reconciliation_required)
  let targets ← read_base base_commit validated
  let branch_state ← _read_branch_reference branch
  match branch_state with
  | .unknown => throw (broker_error "GitHub branch outcome unknown; reconcile before retry")
  | .absent => do
    let _ ← send_json "GitHub App token exchange failed" (create_reference branch base_commit)
    put_files branch targets base_commit.value
  | .present commit_sha => do
    let targets ← files_to_update branch targets
    put_files branch targets commit_sha

/-! ## Reconciliation -/

/-- The error of `reconcile_verified_files`. -/
def reconciliation_error : Exn := actuator_error "verified-file reconciliation input is invalid"

/-- The loop of `reconcile_verified_files` over the manifest. -/
def validate_reconciliation : List ManifestFile → List PyStr → Except Exn (List (PyStr × String))
  | [], _ => .ok []
  | file :: rest, seen_paths => do
    let path ← check_path reconciliation_error file
    if path ∈ seen_paths then .error reconciliation_error
    else
      let content ← check_content reconciliation_error file
      let validated ← validate_reconciliation rest (path :: seen_paths)
      return (path, content) :: validated

/-- The checks before the first request: the paths are those of a set in order. -/
def check_reconciliation (branch : String) (files : List ManifestFile) :
    Except Exn (List (PyStr × String)) := do
  if agent_branch branch = false ∨ files.isEmpty then .error reconciliation_error
  else
    let validated ← validate_reconciliation files []
    if (validated.map Prod.fst).Pairwise PyStr.le then .ok validated else .error reconciliation_error

/-- The loop that compares the files: `false` where the source returns `None`. -/
def confirm_files (branch : String) : List (PyStr × String) → Net Bool
  | [] => return true
  | (path, content) :: rest => do
    let path ← liftM (bind_text path)
    let metadata ← tryCatch (_get_json (branch_contents branch path)) fun _ => return .null
    if file_sha metadata = some (_git_blob_sha content) then confirm_files branch rest
    else return false

/-- `reconcile_verified_files(branch=branch, files=files)`. -/
def reconcile_verified_files (branch : String) (files : List ManifestFile) : Net (Option String) := do
  let validated ← liftM (check_reconciliation branch files)
  let branch_state ← _read_branch_reference branch
  match branch_state with
  | .present commit_sha => do
    let confirmed ← confirm_files branch validated
    return if confirmed then some commit_sha else none
  | _ => return none

end AppContracts.GitHubPublication
