/-
`replay_staged_candidate.py`: a saved candidate is verified again and committed to a
new database.

The directory is a map from names to entries. A replay writes to a temporary file
under a name that `mkstemp` drew, links the file to the output name, which never
overwrites, reads it back, and removes the temporary name. When a step fails it
removes the output name again if both names are one file.

Any number of replays may run, each may stop anywhere, and other processes may
create what they like under the names that callers give. The directory answers looks
by its entries and removes what is there; everything else may fail, and the
collaborators answer anything.
-/
import AppContracts.ObservationStore
import AppContracts.SnapshotContents
import AppContracts.Lib.JsonCodec

set_option autoImplicit false

namespace AppContracts.StagedReplay

open Interleave Validator
open ObservationStore (item)
open GitHubSnapshot (is_digest)

/-! ## The directory -/

/-- The files that SQLite keeps beside a database: `-journal`, `-wal` and `-shm`. -/
inductive Suffix : Type
  | journal
  | wal
  | shm
  deriving DecidableEq

/-- The name of an entry: one that a caller gives, one that `mkstemp` drew, which
nobody else knows, or one beside a drawn one. -/
inductive Name : Type
  | given (entry : String)
  | drawn (n : ℕ)
  | side (n : ℕ) (suffix : Suffix)
  deriving DecidableEq

/-- An entry of the directory: a file by its inode, or something else. -/
inductive Entry : Type
  | file (inode : ℕ)
  | symlink
  | directory
  | side_file
  deriving DecidableEq

/-- A `StagedArtifact`, with `payload_copy()`. -/
structure StagedArtifact : Type where
  staged_change_digest : String
  verified_contents_digest : String
  artifact_digest : String
  payload : Json

/-- What a database holds: the rows of `staged_artifacts`. -/
abbrev Database : Type := List StagedArtifact

/-- The directory, the contents of its files, and the next inode. The file under the
drawn name `n` has inode `n`. -/
structure Disk : Type where
  entries : Name → Option Entry
  contents : ℕ → Database
  next : ℕ

/-- A name and its entry. -/
def Disk.put (s : Disk) (name : Name) (entry : Entry) : Disk :=
  { s with entries := Function.update s.entries name (some entry) }

/-- `unlink` of a name that is there. -/
def Disk.remove (s : Disk) (name : Name) : Disk :=
  { s with entries := Function.update s.entries name none }

/-- A new file. -/
def Disk.store (s : Disk) (name : Name) (content : Database) : Disk where
  entries := Function.update s.entries name (some (.file s.next))
  contents := Function.update s.contents s.next content
  next := s.next + 1

/-- `mkstemp`: a new empty file. -/
def Disk.draw (s : Disk) : Disk := s.store (.drawn s.next) []

/-- What another process creates. -/
inductive Foreign : Type
  | file (content : Database)
  | symlink
  | directory

/-- Another process creates an entry; a file is a new one. -/
def Disk.create (s : Disk) (entry : String) (foreign : Foreign) : Disk :=
  match foreign with
  | .file content => s.store (.given entry) content
  | .symlink => s.put (.given entry) .symlink
  | .directory => s.put (.given entry) .directory

section Entries

variable {s : Disk} {name other : Name}

@[simp] theorem Disk.put_self (entry : Entry) : (s.put name entry).entries name = some entry :=
  Function.update_self ..

theorem Disk.put_other (entry : Entry) (h : other ≠ name) :
    (s.put name entry).entries other = s.entries other := Function.update_of_ne h ..

@[simp] theorem Disk.remove_self : (s.remove name).entries name = none := Function.update_self ..

theorem Disk.remove_other (h : other ≠ name) : (s.remove name).entries other = s.entries other :=
  Function.update_of_ne h ..

@[simp] theorem Disk.store_self (content : Database) :
    (s.store name content).entries name = some (.file s.next) := Function.update_self ..

theorem Disk.store_other (content : Database) (h : other ≠ name) :
    (s.store name content).entries other = s.entries other := Function.update_of_ne h ..

theorem Disk.store_contents (content : Database) {i : ℕ} (h : i < s.next) :
    (s.store name content).contents i = s.contents i := Function.update_of_ne (by omega) ..

end Entries

/-- What SQLite may do to the database of inode `n`: it writes to it, and creates or
removes the files beside it. -/
structure Disk.Written (n : ℕ) (s s' : Disk) : Prop where
  next : s'.next = s.next
  contents : ∀ i, i ≠ n → s'.contents i = s.contents i
  entries : ∀ name, (∀ suffix, name ≠ .side n suffix) → s'.entries name = s.entries name
  sides : ∀ suffix, s'.entries (.side n suffix) = none ∨ s'.entries (.side n suffix) = some .side_file

/-! ## Collaborators -/

/-- An answer of `read_rate_limit`, attributes with `getattr(.., None)`. -/
structure Readiness : Type where
  status : Arg ℤ
  remaining : Arg ℤ
  reset_unix : Arg ℤ

/-- A file of a snapshot: its path, and its content decoded as UTF-8. -/
structure Blob : Type where
  path : Arg PyStr
  text : Except Exn String

/-- A snapshot: the attributes of its claim, its files if they are a tuple, and the
ids of its commit object if it is a `GitCommitObject`. -/
structure Snapshot : Type where
  owner : Arg PyStr
  repository : Arg PyStr
  commit_oid : Arg PyStr
  tree_oid : Arg PyStr
  content_digest : Arg PyStr
  full_snapshot : Bool
  files : Option (List Blob)
  verified_commit_object : Option (PyStr × PyStr)

/-- The result of `run_remote_snapshot_execution`: whether its status is `VERIFIED`,
its digests, and `verifier_result.verifier_id`. -/
structure ExecutionResult : Type where
  verified : Bool
  snapshot_claim_digest : Arg PyStr
  staged_change_digest : Arg PyStr
  verified_contents_digest : Arg PyStr
  verification_digest : Arg PyStr
  verifier_id : Arg PyStr

/-- How `finish_agent_invocation` ends: it refuses before it writes, the store's
`append` fails, or `append` answers with a cursor, `.other` if that is no integer. -/
inductive Finish : Type
  | refused
  | append_failed
  | appended (cursor : Arg ℤ)
  deriving DecidableEq

/-- What a replay asks of its collaborators. -/
inductive Ask : Type
  | parent_is_dir (entry : String)
  | parent_is_symlink (entry : String)
  | mkdir_parent (entry : String)
  /-- `JournaledProposalWorker(..)`; the answer is its run. -/
  | journaled_worker
  | read_rate_limit
  | issue_permit (eligible : Bool)
  | read_snapshot
  | record_snapshot_pin_decision (accepted : Bool)
  /-- The cursor that the observation store answered last, as `observer_reference`
  reads it. -/
  | last_event_cursor
  | finish_agent_invocation (status : String)

/-- Its answers. -/
abbrev Ask.Res : Ask → Type
  | .parent_is_dir _ => Except Exn Bool
  | .parent_is_symlink _ => Except Exn Bool
  | .mkdir_parent _ => Except Exn Unit
  | .journaled_worker => Except Exn String
  | .read_rate_limit => Except Exn Readiness
  | .issue_permit _ => Except Exn Bool
  | .read_snapshot => Except Exn Snapshot
  | .record_snapshot_pin_decision _ => Except Exn Bool
  | .last_event_cursor => Arg ℤ
  | .finish_agent_invocation _ => Finish

/-! ## Steps -/

/-- The steps of a replay, and `create`, the step of another process. -/
inductive Op : Type
  | ask (question : Ask)
  | is_symlink (entry : String)
  | is_file (entry : String)
  | exists_ (name : Name)
  /-- `resolve(strict=..)`; the answer is the entry that the path leads to. -/
  | resolve (strict : Bool) (entry : String)
  /-- `os.path.samefile`. -/
  | samefile (entry : String) (n : ℕ)
  | mkstemp
  | link (n : ℕ) (entry : String)
  | unlink (name : Name)
  /-- `SQLiteStagedArtifactStore(path, read_only=True)`; the answer is the inode. -/
  | open_readonly (entry : String)
  /-- `SQLiteStagedArtifactStore(temporary_path)`. -/
  | open_stage (n : ℕ)
  /-- The rows of an open store. -/
  | select (inode : ℕ)
  | close_readonly
  | close_stage (n : ℕ)
  /-- `run_remote_snapshot_execution(.., stage_sink=stage_sink)`. -/
  | execute (n : ℕ)
  | create (entry : String) (foreign : Foreign)

/-- Their answers. -/
abbrev Op.Res : Op → Type
  | .ask question => question.Res
  | .is_symlink _ => Bool
  | .is_file _ => Bool
  | .exists_ _ => Bool
  | .resolve _ _ => Except Exn String
  | .samefile _ _ => Except Exn Bool
  | .mkstemp => Except Exn ℕ
  | .link _ _ => Except Exn Unit
  | .unlink _ => Except Exn Unit
  | .open_readonly _ => Except Exn ℕ
  | .open_stage _ => Except Exn Unit
  | .select _ => Except Exn Database
  | .close_readonly => Except Exn Unit
  | .close_stage _ => Except Exn Unit
  | .execute _ => Except Exn ExecutionResult
  | .create _ _ => Except Exn Unit

/-- Code of a replay. -/
abbrev Program (α : Type) : Type := Prog Op Op.Res Exn α

/-- A step that may raise. -/
def attempt {α : Type} (p : Program (Except Exn α)) : Program α := do
  let answer ← p
  Prog.lift answer

/-- What a step can answer, and what it does to the directory. A symbolic link leads
anywhere but to a drawn name. -/
inductive Sem : Semantics Op Op.Res Disk
  | ask (s : Disk) (question : Ask) (answer : question.Res) : Sem s (.ask question) answer s
  | is_symlink (s : Disk) (entry : String) :
      Sem s (.is_symlink entry) (decide (s.entries (.given entry) = some .symlink)) s
  | is_file (s : Disk) (entry : String) (answer : Bool)
      (h : s.entries (.given entry) ≠ some .symlink →
        (answer = true ↔ ∃ i, s.entries (.given entry) = some (.file i))) :
      Sem s (.is_file entry) answer s
  | exists_ (s : Disk) (name : Name) (answer : Bool)
      (h : s.entries name ≠ some .symlink → answer = (s.entries name).isSome) :
      Sem s (.exists_ name) answer s
  | resolve (s : Disk) (strict : Bool) (entry target : String)
      (h : s.entries (.given entry) ≠ some .symlink → target = entry) :
      Sem s (.resolve strict entry) (.ok target) s
  | resolve_failed (s : Disk) (strict : Bool) (entry : String) (e : Exn) :
      Sem s (.resolve strict entry) (.error e) s
  | samefile (s : Disk) (entry : String) (n : ℕ) (answer : Bool)
      (h : answer = true ↔ ∃ i, s.entries (.given entry) = some (.file i) ∧
        s.entries (.drawn n) = some (.file i)) : Sem s (.samefile entry n) (.ok answer) s
  | samefile_failed (s : Disk) (entry : String) (n : ℕ) (e : Exn)
      (h : s.entries (.given entry) = none ∨ s.entries (.given entry) = some .symlink ∨
        s.entries (.drawn n) = none) : Sem s (.samefile entry n) (.error e) s
  | mkstemp (s : Disk) : Sem s .mkstemp (.ok s.next) s.draw
  | mkstemp_failed (s : Disk) (e : Exn) : Sem s .mkstemp (.error e) s
  | link (s : Disk) (n i : ℕ) (entry : String) (hsource : s.entries (.drawn n) = some (.file i))
      (hfree : s.entries (.given entry) = none) :
      Sem s (.link n entry) (.ok ()) (s.put (.given entry) (.file i))
  | link_failed (s : Disk) (n : ℕ) (entry : String) (e : Exn) : Sem s (.link n entry) (.error e) s
  | unlink (s : Disk) (name : Name) (entry : Entry) (h : s.entries name = some entry)
      (hentry : entry ≠ .directory) : Sem s (.unlink name) (.ok ()) (s.remove name)
  | unlink_missing (s : Disk) (name : Name) (answer : Except Exn Unit)
      (h : s.entries name = none ∨ s.entries name = some .directory) : Sem s (.unlink name) answer s
  | open_readonly (s : Disk) (entry : String) (i : ℕ)
      (h : s.entries (.given entry) = some (.file i) ∨ s.entries (.given entry) = some .symlink) :
      Sem s (.open_readonly entry) (.ok i) s
  | open_failed (s : Disk) (entry : String) (e : Exn) : Sem s (.open_readonly entry) (.error e) s
  | open_stage (s s' : Disk) (n : ℕ) (answer : Except Exn Unit) (h : s.Written n s') :
      Sem s (.open_stage n) answer s'
  | select (s : Disk) (i : ℕ) : Sem s (.select i) (.ok (s.contents i)) s
  | select_failed (s : Disk) (i : ℕ) (e : Exn) : Sem s (.select i) (.error e) s
  | close_readonly (s : Disk) (answer : Except Exn Unit) : Sem s .close_readonly answer s
  | close_stage (s s' : Disk) (n : ℕ) (h : s.Written n s') (hsame : s'.contents n = s.contents n) :
      Sem s (.close_stage n) (.ok ()) s'
  | close_failed (s s' : Disk) (n : ℕ) (e : Exn) (h : s.Written n s') :
      Sem s (.close_stage n) (.error e) s'
  | execute (s s' : Disk) (n : ℕ) (answer : Except Exn ExecutionResult) (h : s.Written n s') :
      Sem s (.execute n) answer s'
  | create (s : Disk) (entry : String) (foreign : Foreign) (h : s.entries (.given entry) = none) :
      Sem s (.create entry foreign) (.ok ()) (s.create entry foreign)
  | create_failed (s : Disk) (entry : String) (foreign : Foreign) (e : Exn) :
      Sem s (.create entry foreign) (.error e) s

/-! ## Constants -/

def ALLOWED_CHANGE_PATH : String := "backend/routes.py"
def REMOTE_REPOSITORY_OWNER : String := "SoldatovAlexander"
def REMOTE_REPOSITORY_NAME : String := "brainbooster_full_v11"
def REMOTE_REPOSITORY_COMMIT : String := "2c172801c27ec92e38835fbb0ddd6ab7b8fc0c0e"
def REMOTE_REPOSITORY_TREE : String := "2007066217aadafd9887fb3e3069220333b4fddb"
def REMOTE_REPOSITORY_CONTENT_DIGEST : String :=
  "sha256:dee0211b7ee40f6f0eeefa7ee8a4b7a46ee0e52521cdefe335f398557346b9ad"
def REMOTE_REPOSITORY_FILE_COUNT : ℕ := 23
def PINNED_SIGNED_VERIFIER_ENDPOINT_URL : String := "https://testdev.local/v1/verify"
def _VERIFIER_ID : String :=
  "docker-image:sha256:a68ce6da5d5884809d7db627868ec168c4618badf3ebbf709f5d672fcfdca8ad" ++
    "/code:sha256:36f4f81cd98355665992fd9feb0f8ac4f3a6807b2ffb1b332956b694e9031d5f"

/-- `f"{REMOTE_REPOSITORY_OWNER}/{REMOTE_REPOSITORY_NAME}"`. -/
def remote_repository : String := REMOTE_REPOSITORY_OWNER ++ "/" ++ REMOTE_REPOSITORY_NAME

/-! ## Arguments -/

/-- A path: its text, the entry that it names, and whether it is absolute. -/
structure Location : Type where
  text : String
  entry : String
  absolute : Bool

/-- The arguments of a replay. `runtime_available` says that the collaborators can be
called, and `observed` that an observation store is given. -/
structure Arguments : Type where
  source_database : Arg Location
  source_digest : Arg PyStr
  output_database : Arg Location
  runtime_available : Bool
  observed : Bool
  verifier_trust_evidence : Option Json

/-- `ReplayError("replay: " + message)`; a `ReplayError` is a `ValueError`. -/
def replay_error (message : String) : Exn := ⟨.ValueError, "replay: " ++ message⟩

/-- `DurableStageStoreError("durable stage store: " + message)`. -/
def store_error (message : String) : Exn :=
    ⟨.DurableStageStoreError, "durable stage store: " ++ message⟩

/-- `Path(value)`. -/
def path_of (value : Arg Location) : Except Exn Location :=
  match value with
  | .of path => .ok path
  | .other => .error ⟨.TypeError, "expected str, bytes or os.PathLike object"⟩

/-- The looks of `_validate_existing_database`. -/
def check_existing (path : Location) : Program Unit := do
  let symlink ← Prog.perform (.is_symlink path.entry)
  Prog.lift (raise_if (symlink = true ∨ path.absolute = false) ⟨.ValueError, ""⟩)
  let file ← Prog.perform (.is_file path.entry)
  Prog.lift (raise_if (file = false) ⟨.ValueError, ""⟩)

/-- `_validate_existing_database(value)`. -/
def _validate_existing_database (value : Arg Location) : Program Location :=
  (do
    let path ← Prog.lift (path_of value)
    check_existing path
    return path : Program _).handle fun _ => throw (replay_error "source database is unavailable")

/-- The looks of `_validate_new_database_path`. -/
def check_new (path : Location) : Program Unit := do
  Prog.lift (raise_if (path.absolute = false) ⟨.ValueError, ""⟩)
  let is_dir ← attempt (Prog.perform (Op.ask (.parent_is_dir path.entry)))
  Prog.lift (raise_if (is_dir = false) ⟨.ValueError, ""⟩)
  let symlink ← attempt (Prog.perform (Op.ask (.parent_is_symlink path.entry)))
  Prog.lift (raise_if (symlink = true) ⟨.ValueError, ""⟩)
  let taken ← Prog.perform (.exists_ (.given path.entry))
  Prog.lift (raise_if (taken = true) ⟨.ValueError, ""⟩)
  let dangling ← Prog.perform (.is_symlink path.entry)
  Prog.lift (raise_if (dangling = true) ⟨.ValueError, ""⟩)

/-- `_validate_new_database_path(value)`. -/
def _validate_new_database_path (value : Arg Location) : Program Location :=
  (do
    let path ← Prog.lift (path_of value)
    check_new path
    return path : Program _).handle fun _ => throw (replay_error "output database path is unavailable")

/-- `_paths_alias(first, second)`. -/
def _paths_alias (first second : Location) : Program Bool :=
  (do
    let source ← attempt (Prog.perform (Op.resolve true first.entry))
    let target ← attempt (Prog.perform (Op.resolve false second.entry))
    return decide (source = target) : Program _).handle fun _ =>
      throw (replay_error "database paths are invalid")

/-- `_DIGEST_PATTERN.fullmatch(value)` of a value that may be no text. -/
def digest? (value : Arg PyStr) : Option String :=
  match value with
  | .of (.text digest) => if is_digest digest then some digest else none
  | _ => none

/-- `type(value) is str and _DIGEST_PATTERN.fullmatch(value) is not None`. -/
def is_digest_json (value : Json) : Bool :=
  match value with
  | .str (.text digest) => is_digest digest
  | _ => false

/-- `type(value) is str and 1 <= len(value) <= 128`. -/
def is_host_id (value : Option Json) : Bool :=
  match value with
  | some (.str id) => 1 ≤ id.codes.length && id.codes.length ≤ 128
  | _ => false

/-- `doc.get(key) == text`. -/
def text_is (doc : Json) (key text : String) : Bool :=
  match doc.get? key with
  | some value => py_eq value (.str (.text text))
  | none => false

/-- The values of a dict. -/
def values (doc : Json) : List Json :=
  match doc with
  | .obj fields => fields.map Prod.snd
  | _ => []

/-- `_valid_verifier_trust_evidence(value)`; `profile_digest` is that of
`BRAINBOOSTER_VERIFIER_PROFILE`. -/
def _valid_verifier_trust_evidence (profile_digest : String) (value : Json) : Bool :=
  value.has_keys ["endpoint_url", "verifier_profile_digest", "worker_host_id", "verifier_host_id",
      "digests", "host_trust_basis"] &&
    text_is value "endpoint_url" PINNED_SIGNED_VERIFIER_ENDPOINT_URL &&
    text_is value "verifier_profile_digest" profile_digest &&
    is_host_id (value.get? "worker_host_id") && is_host_id (value.get? "verifier_host_id") &&
    !(py_eq ((value.get? "worker_host_id").getD .null) ((value.get? "verifier_host_id").getD .null)) &&
    text_is value "host_trust_basis" "caller-pinned-signed-claim" &&
    ((value.get? "digests").getD .null).has_keys
      ["authority_key_set_sha256", "enrollment_sha256", "host_decision_sha256", "ca_bundle_sha256"] &&
    (values ((value.get? "digests").getD .null)).all is_digest_json

/-! ## Reading a stage -/

/-- The row of a digest. -/
def stage_row (rows : Database) (digest : String) : Except Exn StagedArtifact :=
  match rows.find? fun row => row.staged_change_digest = digest with
  | some row => .ok row
  | none => .error ⟨.DurableStageNotFound, "durable stage store: stage not found"⟩

/-- `store.load(digest)` of rows that were read. -/
def load_row (rows : Database) (digest : Arg PyStr) : Except Exn StagedArtifact :=
  match digest? digest with
  | some digest => stage_row rows digest
  | none => .error (store_error "digest is invalid")

/-- `store.load(digest)`; a row that is no valid artifact makes the read fail. -/
def load (inode : ℕ) (digest : Arg PyStr) : Program StagedArtifact := do
  Prog.lift (raise_if (digest? digest = none) (store_error "digest is invalid"))
  let rows ← attempt (Prog.perform (Op.select inode))
  Prog.lift (load_row rows digest)

/-- `with SQLiteStagedArtifactStore(path, read_only=True) as store: store.load(digest)`. -/
def load_readonly (entry : String) (digest : Arg PyStr) : Program StagedArtifact := do
  let inode ← attempt (Prog.perform (Op.open_readonly entry))
  let artifact ← (load inode digest).handle fun e => do
    attempt (Prog.perform Op.close_readonly)
    throw e
  attempt (Prog.perform Op.close_readonly)
  return artifact

/-- `with SQLiteStagedArtifactStore(temporary_path) as stage_sink: ..`. -/
def with_stage {α : Type} (n : ℕ) (body : Program α) : Program α := do
  attempt (Prog.perform (Op.open_stage n))
  let a ← body.handle fun e => do
    attempt (Prog.perform (Op.close_stage n))
    throw e
  attempt (Prog.perform (Op.close_stage n))
  return a

/-- `doc[key] != value` raises. -/
def expect (doc : Json) (key : String) (value : Json) (e : Exn) : Except Exn Unit := do
  let found ← item doc key
  raise_if (py_eq found value = false) e

/-- The content of `changes`, a list of one change of the allowed path. -/
def only_change (changes : Json) : Except Exn PyStr :=
  match changes with
  | .arr [change] => do
    expect change "path" (.str (.text ALLOWED_CHANGE_PATH)) ⟨.ValueError, ""⟩
    match change.get? "content" with
    | some (.str content) => .ok content
    | _ => .error ⟨.ValueError, ""⟩
  | _ => .error ⟨.ValueError, ""⟩

/-- The checks of `_load_source_candidate`. -/
def source_candidate (artifact : StagedArtifact) (digest : String) : Except Exn PyStr := do
  let seed ← item artifact.payload "seed"
  let result ← item artifact.payload "verifier_result"
  let changes ← item artifact.payload "verified_contents"
  expect seed "repository_id" (.str (.text remote_repository)) ⟨.ValueError, ""⟩
  expect seed "base_commit" (.str (.text REMOTE_REPOSITORY_COMMIT)) ⟨.ValueError, ""⟩
  expect seed "staged_change_digest" (.str (.text digest)) ⟨.ValueError, ""⟩
  expect seed "snapshot_origin" (.str (.text "github_rest_api_claim")) ⟨.ValueError, ""⟩
  expect seed "verdict" (.str (.text "pass")) ⟨.ValueError, ""⟩
  expect result "verdict" (.str (.text "pass")) ⟨.ValueError, ""⟩
  expect artifact.payload "declared_change_paths" (.arr [.str (.text ALLOWED_CHANGE_PATH)])
    ⟨.ValueError, ""⟩
  only_change changes

/-- `_load_source_candidate(path, digest)`. -/
def _load_source_candidate (path : Location) (digest : String) : Program (StagedArtifact × PyStr) :=
  (do
    let artifact ← load_readonly path.entry (.of (.text digest))
    let candidate ← Prog.lift (source_candidate artifact digest)
    return (artifact, candidate) : Program _).handle fun _ =>
      throw (replay_error "source stage is invalid")

/-! ## Before the commit -/

/-- What a replay has checked before it asks its collaborators. -/
structure Validated : Type where
  source : Location
  output : Location
  artifact : StagedArtifact
  candidate : PyStr

/-- `source_digest` as a digest. -/
def check_source_digest (value : Arg PyStr) : Except Exn String :=
  match digest? value with
  | some digest => .ok digest
  | none => .error (replay_error "source digest is invalid")

/-- The checks after those of the paths, and the source candidate. -/
def validate_source (profile_digest : String) (a : Arguments) (source : Location) :
    Program (StagedArtifact × PyStr) := do
  let digest ← Prog.lift (check_source_digest a.source_digest)
  Prog.lift (raise_if (a.runtime_available = false) (replay_error "runtime is unavailable"))
  Prog.lift (raise_if (a.verifier_trust_evidence.any
      (fun value => !_valid_verifier_trust_evidence profile_digest value) = true)
    (replay_error "evidence is invalid"))
  _load_source_candidate source digest

/-- The checks up to the source candidate. -/
def validate (profile_digest : String) (a : Arguments) : Program Validated := do
  let source ← _validate_existing_database a.source_database
  let output ← _validate_new_database_path a.output_database
  let same ← _paths_alias source output
  Prog.lift (raise_if (same = true) (replay_error "source and output databases must differ"))
  let loaded ← validate_source profile_digest a source
  return ⟨source, output, loaded.1, loaded.2⟩

/-- The run of the `JournaledProposalWorker`, if a store observes the replay. -/
def observed_worker (a : Arguments) : Program (Option String) :=
  if a.observed then do
    let run ← (attempt (Prog.perform (Op.ask .journaled_worker))).handle fun _ =>
      throw (replay_error "observer is unavailable")
    return some run
  else return none

/-- The checks of the readiness: whether the quota is enough. -/
def check_readiness (readiness : Readiness) : Except Exn Bool := do
  raise_if (readiness.status ≠ .of 200) (replay_error "readiness HTTP status failed")
  match readiness.remaining, readiness.reset_unix with
  | .of remaining, .of reset_unix => do
    raise_if (¬ (0 ≤ remaining ∧ remaining ≤ 1000000 ∧ 0 < reset_unix ∧ reset_unix ≤ 9999999999999))
      (replay_error "readiness metadata is invalid")
    return decide (remaining ≥ 25)
  | _, _ => .error (replay_error "readiness metadata is invalid")

/-- The readiness and the permit. A worker that keeps a journal asks for both, else
the permit is the readiness. -/
def permit (run : Option String) : Program Bool := do
  let readiness ← (attempt (Prog.perform (Op.ask .read_rate_limit))).handle fun _ =>
    throw (replay_error "readiness request failed")
  let eligible ← Prog.lift (check_readiness readiness)
  if run.isSome then attempt (Prog.perform (Op.ask (.issue_permit eligible))) else return eligible

/-- `pin_matches`. -/
def pin_matches (snapshot : Snapshot) : Bool :=
  snapshot.owner = .of (.text REMOTE_REPOSITORY_OWNER) &&
    snapshot.repository = .of (.text REMOTE_REPOSITORY_NAME) &&
    snapshot.commit_oid = .of (.text REMOTE_REPOSITORY_COMMIT) &&
    snapshot.tree_oid = .of (.text REMOTE_REPOSITORY_TREE) &&
    snapshot.content_digest = .of (.text REMOTE_REPOSITORY_CONTENT_DIGEST) &&
    snapshot.full_snapshot &&
    (match snapshot.files with
    | some files => files.length = REMOTE_REPOSITORY_FILE_COUNT &&
        (files.countP fun blob => blob.path = .of (.text ALLOWED_CHANGE_PATH)) = 1
    | none => false)

/-- Whether the pin is accepted. -/
def pin_decision (run : Option String) (snapshot : Snapshot) : Program Bool :=
  if run.isSome then
    (attempt (Prog.perform (Op.ask (.record_snapshot_pin_decision
      (pin_matches snapshot))))).handle fun _ =>
      throw (replay_error "snapshot observer is unavailable")
  else return pin_matches snapshot

/-- The commit object of an accepted snapshot: its id and its tree. -/
def check_commit (snapshot : Snapshot) : Except Exn (PyStr × PyStr) :=
  match snapshot.verified_commit_object with
  | some (commit_oid, tree_oid) => do
    raise_if (commit_oid ≠ .text REMOTE_REPOSITORY_COMMIT ∨ tree_oid ≠ .text REMOTE_REPOSITORY_TREE ∨
        snapshot.commit_oid ≠ .of commit_oid ∨ snapshot.tree_oid ≠ .of tree_oid)
      (replay_error "raw commit proof mismatch")
    return (commit_oid, tree_oid)
  | none => .error (replay_error "raw commit proof mismatch")

/-- `original_content`. -/
def original_content (snapshot : Snapshot) : Except Exn String :=
  match (snapshot.files.getD []).find? fun blob => blob.path = .of (.text ALLOWED_CHANGE_PATH) with
  | some ⟨_, .ok text⟩ => .ok text
  | _ => .error (replay_error "pinned target file is invalid")

/-- The permit, the pinned snapshot and its commit object. -/
def fetch (run : Option String) : Program (PyStr × PyStr) := do
  let eligible ← permit run
  Prog.lift (raise_if (eligible = false) (replay_error "readiness quota is insufficient"))
  let snapshot ← (attempt (Prog.perform (Op.ask .read_snapshot))).handle fun _ =>
    throw (replay_error "pinned snapshot fetch failed")
  let accepted ← pin_decision run snapshot
  Prog.lift (raise_if (accepted = false) (replay_error "pinned snapshot mismatch"))
  let commit ← Prog.lift (check_commit snapshot)
  let _ ← Prog.lift (original_content snapshot)
  return commit

/-! ## The commit -/

section Commit

variable (render_stage_preview : StagedArtifact → Except Exn Json)

/-- The preview of the stage is that of the pinned target, and its content the
candidate. -/
def exact_stage (preview payload : Json) (candidate : PyStr) : Except Exn Unit := do
  let invalid := replay_error "exact stage readback failed"
  let change ← item preview "change"
  expect change "repository_id" (.str (.text remote_repository)) invalid
  expect change "base_commit" (.str (.text REMOTE_REPOSITORY_COMMIT)) invalid
  expect change "declared_change_paths" (.arr [.str (.text ALLOWED_CHANGE_PATH)]) invalid
  let verification ← item preview "verification"
  expect verification "verifier_id" (.str (.text _VERIFIER_ID)) invalid
  expect verification "verdict" (.str (.text "pass")) invalid
  expect payload "verified_contents" (.arr [Json.record [("path", .str (.text ALLOWED_CHANGE_PATH)),
    ("content", .str candidate)]]) invalid

/-- The fresh verification, and what the temporary database then holds. -/
def run_stage (n : ℕ) (candidate : PyStr) : Program (ExecutionResult × Json) :=
  with_stage n do
    let result ← attempt (Prog.perform (Op.execute n))
    Prog.lift (raise_if (result.verified = false) (replay_error "candidate verification failed"))
    Prog.lift (raise_if (result.staged_change_digest ∈ [.other, .of (.text "")])
      (replay_error "candidate verification failed"))
    let artifact ← load n result.staged_change_digest
    let preview ← Prog.lift (render_stage_preview artifact)
    Prog.lift (exact_stage preview artifact.payload candidate)
    return (result, preview)

/-- `_link_without_overwrite(source, destination)`. -/
def _link_without_overwrite (n : ℕ) (destination : Location) : Program Unit := do
  let taken ← Prog.perform (.exists_ (.given destination.entry))
  Prog.lift (raise_if (taken = true) (replay_error "output database already exists"))
  let symlink ← Prog.perform (.is_symlink destination.entry)
  Prog.lift (raise_if (symlink = true) (replay_error "output database already exists"))
  (attempt (Prog.perform (Op.link n destination.entry))).handle fun _ =>
    throw (replay_error "output database commit failed")

/-- The link and its readback. -/
def commit_output (n : ℕ) (output : Location) (result : ExecutionResult) (preview : Json) :
    Program StagedArtifact := do
  _link_without_overwrite n output
  let committed ← load_readonly output.entry result.staged_change_digest
  let committed_preview ← Prog.lift (render_stage_preview committed)
  Prog.lift (raise_if (py_eq committed_preview preview = false)
    (replay_error "committed stage readback failed"))
  return committed

/-- A text of the evidence. -/
def text (value : String) : Json := .str (.text value)

/-- The digests of the evidence. -/
def evidence_digests (result : ExecutionResult) : Except Exn (List (String × Json)) :=
  match result.verifier_id, digest? result.snapshot_claim_digest, digest? result.staged_change_digest,
    digest? result.verified_contents_digest, digest? result.verification_digest with
  | .of id, some claim, some staged, some contents, some verification => do
    raise_if (id ≠ .text _VERIFIER_ID) (replay_error "evidence is invalid")
    return [("snapshot_claim_digest", text claim), ("staged_change_digest", text staged),
      ("verified_contents_digest", text contents), ("verification_digest", text verification),
      ("verifier_identity_digest", text (sha256_bytes (utf8_bytes _VERIFIER_ID)))]
  | _, _, _, _, _ => .error (replay_error "evidence is invalid")

/-- The evidence of a replay. -/
def evidence_fields (a : Arguments) (v : Validated) (commit : PyStr × PyStr)
    (digests : List (String × Json)) (committed : StagedArtifact) : List (String × Json) :=
  [("schema", text "stored-candidate-replay-evidence/v1"), ("status", text "verified"),
    ("verifier_backend", text (if a.verifier_trust_evidence.isSome then "trusted-https" else "pinned-docker")),
    ("source_stage_digest", text v.artifact.staged_change_digest),
      ("source_database", text v.source.text),
    ("repository_id", text remote_repository), ("commit", text REMOTE_REPOSITORY_COMMIT),
    ("tree", text REMOTE_REPOSITORY_TREE), ("content_digest", text REMOTE_REPOSITORY_CONTENT_DIGEST),
    ("raw_commit_object", Json.record [("status", text "verified-by-object-hash"),
      ("commit_oid", .str commit.1), ("root_tree_oid", .str commit.2)])] ++ digests ++
  [("source_stage_verifier_result", text "not_carried_forward"),
    ("current_verification_status", text "fresh_pass"),
      ("artifact_digest", text committed.artifact_digest),
    ("output_database", text v.output.text), ("approval", text "not_created"),
    ("publication", text "not_attempted"), ("external_write", .bool false),
    ("limitations", .arr [text "replayed-not-live-worker",
      text "raw-commit-object-and-content-hashes-verified",
      text "github-tls-transport-provenance-not-independent",
      text "human-authorship-not-independently-verified",
      text (if a.verifier_trust_evidence.isSome then
        "host-separation-trust-is-only-the-caller-pinned-signed-claim"
        else "same-host-verifier-trust-not-independent")])] ++
  (match a.verifier_trust_evidence with
  | some trust => [("verifier_trust", trust)]
  | none => [])

/-- `observer_reference()` of a run with this last cursor. -/
def observer_reference (run : String) (cursor : Arg ℤ) : Except Exn Json :=
  match cursor with
  | .of cursor => .ok (Json.record [("run_id", text run), ("as_of_cursor", .int cursor),
      ("completeness", text "partial")])
  | .other => .error ⟨.WorkerJournalError, "worker journal: run reference unavailable"⟩

/-- The last cursor of an observed replay, if it has a reference. -/
def checked_cursor (run : Option String) : Program (Arg ℤ) :=
  match run with
  | some run => do
    let cursor ← Prog.perform (.ask .last_event_cursor)
    let _ ← Prog.lift (observer_reference run cursor)
    return cursor
  | none => return .other

/-- Whether the output is the file of this replay. -/
def output_is_owned (n : ℕ) (output : Location) : Program Bool :=
  (do
    let taken ← Prog.perform (.exists_ (.given output.entry))
    if taken then do
      let symlink ← Prog.perform (.is_symlink output.entry)
      if symlink then return false
      else do
        let stored ← Prog.perform (.exists_ (.drawn n))
        if stored then attempt (Prog.perform (Op.samefile output.entry n)) else return false
    else return false : Program _).handle fun _ => return false

/-- `path.unlink()`; an `OSError` is passed. -/
def unlink (name : Name) : Program Unit := do
  let _ ← Prog.perform (.unlink name)
  return ()

/-- `_remove_temporary_database(path)`. -/
def _remove_temporary_database (n : ℕ) : Program Unit := do
  unlink (.drawn n)
  unlink (.side n .journal)
  unlink (.side n .wal)
  unlink (.side n .shm)

/-- What the handler does after a failure. -/
def roll_back (n : ℕ) (output : Location) : Program Unit := do
  let owned ← output_is_owned n output
  (if owned then unlink (.given output.entry) else return () : Program Unit)
  _remove_temporary_database n

/-- The commit: the evidence and the last cursor. -/
def staged_commit (a : Arguments) (v : Validated) (run : Option String) (commit : PyStr × PyStr)
    (n : ℕ) :
    Program (List (String × Json) × Arg ℤ) := do
  let staged ← run_stage render_stage_preview n v.candidate
  let committed ← commit_output render_stage_preview n v.output staged.1 staged.2
  let digests ← Prog.lift (evidence_digests staged.1)
  let cursor ← checked_cursor run
  return (evidence_fields a v commit digests committed, cursor)

/-- The last looks before the temporary file. -/
def check_output (output : Location) : Program Unit := do
  attempt (Prog.perform (Op.ask (.mkdir_parent output.entry)))
  let taken ← Prog.perform (.exists_ (.given output.entry))
  Prog.lift (raise_if (taken = true) (replay_error "output database already exists"))
  let symlink ← Prog.perform (.is_symlink output.entry)
  Prog.lift (raise_if (symlink = true) (replay_error "output database already exists"))

/-- The part of `_replay_staged_candidate_impl` from the output's directory on. -/
def temporary_commit (a : Arguments) (v : Validated) (run : Option String) (commit : PyStr × PyStr) :
    Program (List (String × Json) × Arg ℤ) := do
  check_output v.output
  let n ← attempt (Prog.perform Op.mkstemp)
  let done ← (staged_commit render_stage_preview a v run commit n).handle fun e => do
    roll_back n v.output
    _remove_temporary_database n
    throw e
  _remove_temporary_database n
  return done

/-- The last cursor after `finish_agent_invocation`. -/
def Finish.cursor (finish : Finish) (last : Arg ℤ) : Arg ℤ :=
  match finish with
  | .appended cursor => cursor
  | .append_failed => last
  | .refused => last

/-- `_finish_replay_invocation(invocation, status=status)`, and the last cursor then. -/
def _finish_replay_invocation (run : Option String) (last : Arg ℤ) (status : String) :
    Program (Arg ℤ) :=
  match run with
  | some _ => do
    let finish ← Prog.perform (Op.ask (.finish_agent_invocation status))
    return Finish.cursor finish last
  | none => return last

/-- The part of `_replay_staged_candidate_impl` that an observer sees. -/
def observed_replay (a : Arguments) (v : Validated) (run : Option String) :
    Program (List (String × Json) × Arg ℤ) := do
  let commit ← fetch run
  temporary_commit render_stage_preview a v run commit

/-- `replay_staged_candidate(source_database, source_digest, output_database, ..)`. -/
def replay_staged_candidate (profile_digest : String) (a : Arguments) : Program Json := do
  let v ← validate profile_digest a
  let run ← observed_worker a
  let done ← (observed_replay render_stage_preview a v run).handle fun e => do
    let _ ← _finish_replay_invocation run .other "failed"
    throw e
  let cursor ← _finish_replay_invocation run done.2 "ok"
  match run with
  | some run => do
    let observer ← Prog.lift (observer_reference run cursor)
    return Json.record (done.1 ++ [("observer", observer)])
  | none => return Json.record done.1

end Commit

end AppContracts.StagedReplay
