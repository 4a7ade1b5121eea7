/-
Local change preparation: `prepare_change` and `build_publish_manifest` of
`repository_process.py`, over a sandbox of `sandbox.py`.

Files are bytes, and both functions see them through text mode: what
`write_text` writes is the encoded text as it stands, what `read_text` gives
has its line endings translated. The difference between the two is the subject
of `PublishManifest`.
-/
import AppContracts.SnapshotWorkspace
import AppContracts.PublicationSeed
import AppContracts.Lib.Interleave
import Mathlib.Data.Finset.Dedup

set_option autoImplicit false

namespace AppContracts.RepositoryProcess

open GitHubSnapshot (as_posix json_text)
open PublicationSeed (starts ends_with contains)

/-! ## Directories -/

/-- What a path below a directory leads to, links followed. `outside` is a link
that leaves the directory. -/
inductive Node : Type
  | file (content : Bytes)
  | directory
  | outside
  deriving DecidableEq

/-- A directory: what is found at each relative path, in its POSIX form. -/
abbrev Tree : Type := String → Option Node

/-- The tree with a file. -/
def Tree.put (tree : Tree) (path : String) (content : Bytes) : Tree :=
  fun other => if other = path then some (.file content) else tree other

@[simp] theorem Tree.put_same (tree : Tree) (path : String) (content : Bytes) :
    tree.put path content path = some (.file content) := if_pos rfl

theorem Tree.put_other (tree : Tree) {path other : String} (content : Bytes) (h : other ≠ path) :
    tree.put path content other = tree other := if_neg h

/-- The two directories of a sandbox. -/
structure Sandbox : Type where
  snapshot : Tree
  workspace : Tree

/-- `LocalProcessSandbox(snapshot, ..)`: both are copies of the snapshot. -/
def Sandbox.create (source : Tree) : Sandbox := ⟨source, source⟩

/-- `ContractValidationError(message)`. -/
def contract_error (message : String) : Exn := ⟨.ContractValidationError, message⟩

/-- `_safe_relative_path(value)`, as the POSIX form of the path. -/
def _safe_relative_path (value : String) : Except Exn String :=
  if starts value "/" ∨ ".." ∈ split_path value ∨ value = "" ∨ value = "." ∨ value ≠ strip value ∨
      starts value "./" ∨ starts value "../" ∨ contains value "/./" ∨ ends_with value "/." ∨
      contains value "//" ∨ '\\' ∈ value.toList then
    .error (contract_error ("unsafe relative path: " ++ value))
  else .ok (as_posix value)

theorem safe_path_ok {value posix : String} (h : _safe_relative_path value = .ok posix) :
    posix = as_posix value := by
  rw [_safe_relative_path] at h
  split_ifs at h
  exact (Except.ok.inj h).symm

/-- `_contained_file(root, relative)`: the entry that `resolve` ends at. A
resolved path is no link, so the callers' `is_symlink` checks never refuse. -/
def _contained_file (root : Tree) (relative : String) : Except Exn String :=
  if Char.ofNat 0 ∈ relative.toList then .error ⟨.ValueError, "embedded null byte"⟩
  else if root relative = some .outside then
    .error (contract_error ("path escapes workspace: " ++ relative))
  else .ok relative

/-- `path.is_file()`. -/
def is_file (tree : Tree) (path : String) : Bool :=
  match tree path with
  | some (.file _) => true
  | _ => false

/-! ## Text mode -/

/-- What reading in text mode makes of the line endings. -/
def universal_newlines : List Char → List Char
  | [] => []
  | '\r' :: '\n' :: rest => '\n' :: universal_newlines rest
  | '\r' :: rest => '\n' :: universal_newlines rest
  | c :: rest => c :: universal_newlines rest

/-- `path.read_text(encoding="utf-8")`. -/
def read_text (tree : Tree) (path : String) : Except Exn String :=
  match tree path with
  | some (.file content) =>
    match decode_utf8 content with
    | some text => .ok (String.ofList (universal_newlines text.toList))
    | none => .error ⟨.ValueError, "invalid utf-8"⟩
  | some .directory => .error ⟨.Exception, "Is a directory"⟩
  | _ => .error ⟨.FileNotFoundError, "No such file or directory"⟩

/-- `path.write_text(text, encoding="utf-8")`; on POSIX no line ending changes. -/
def write_text (tree : Tree) (path text : String) : Except Exn Unit × Tree :=
  match tree path with
  | some (.file _) => (.ok (), tree.put path (encode_utf8 text))
  | some _ => (.error ⟨.Exception, "Is a directory"⟩, tree)
  | none =>
    if parent_path path = "" ∨ tree (parent_path path) = some .directory then
      (.ok (), tree.put path (encode_utf8 text))
    else (.error ⟨.FileNotFoundError, "No such file or directory"⟩, tree)

/-! ## Requests -/

/-- The `changes` argument: a dict in insertion order, its keys distinct, or an
object of another type. -/
inductive Changes : Type
  | dict (items : List (Arg String × Arg String))
  | other (truthy : Bool)

/-- `now`, or the clock: not an aware datetime, or what `_format_time` gives for
the instant and for 24 hours later. -/
inductive Timestamp : Type
  | invalid
  | aware (created_at expires_at : Except Exn String)

/-- What `workspace_apply` does with the callback it is given: it calls it any
number of times and answers to what each call gives. -/
abbrev WorkspaceApply : Type :=
  Interleave.Prog Unit (fun _ => Except Exn Unit) Exn Unit

/-- The keyword arguments of `prepare_change`. -/
structure Preparation : Type where
  process_id : Arg String
  task_id : Arg String
  repository_id : Arg String
  base_commit : Arg String
  changes : Changes
  test_command : Arg (List (Arg String))
  now : Timestamp
  workspace_apply : Option (Arg WorkspaceApply)

/-- A part of a command. -/
def command_part : Arg String → Except Exn String
  | .of part => if part = "" then .error (contract_error "test command is malformed") else .ok part
  | .other => .error (contract_error "test command is malformed")

/-- The check of `test_command`. -/
def checked_command : Arg (List (Arg String)) → Except Exn (List String)
  | .of parts => do
    raise_if (parts = []) (contract_error "test command is malformed")
    parts.mapM command_part
  | .other => .error (contract_error "test command is malformed")

/-- The check of an identifier. -/
def checked_label (label : String) : Arg String → Except Exn String
  | .of value =>
    if value = "" then .error (contract_error ("preparation " ++ label ++ " is invalid")) else .ok value
  | .other => .error (contract_error ("preparation " ++ label ++ " is invalid"))

/-- An item of a mapping whose key is checked. -/
def checked_item (message : String) (item : Arg String × Arg String) :
    Except Exn (String × Arg String) :=
  match item.1 with
  | .of key => if key = "" then .error (contract_error message) else .ok (key, item.2)
  | .other => .error (contract_error message)

/-- The items of `changes`; `empty` and `malformed` are the messages. -/
def dict_items (empty malformed : String) : Changes → Except Exn (List (Arg String × Arg String))
  | .dict [] => .error (contract_error empty)
  | .dict items => .ok items
  | .other false => .error (contract_error empty)
  | .other true => .error (contract_error malformed)

/-- The check of `workspace_apply`. -/
def checked_apply : Option (Arg WorkspaceApply) → Except Exn (Option WorkspaceApply)
  | none => .ok none
  | some (.of callback) => .ok (some callback)
  | some .other => .error (contract_error "workspace apply callback is malformed")

/-- What the checks of the arguments leave. -/
structure Arguments : Type where
  process_id : String
  task_id : String
  repository_id : String
  base_commit : String
  items : List (String × Arg String)
  command : List String
  created_at : Except Exn String
  expires_at : Except Exn String
  workspace_apply : Option WorkspaceApply

/-- The instant of a preparation. -/
def checked_now : Timestamp → Except Exn (Except Exn String × Except Exn String)
  | .invalid => .error (contract_error "preparation timestamp must be timezone-aware")
  | .aware created_at expires_at => .ok (created_at, expires_at)

/-- The checks at the head of `prepare_change`. -/
def checked_arguments (request : Preparation) : Except Exn Arguments := do
  let items ← dict_items "change proposal is empty" "change proposal is malformed" request.changes
  let command ← checked_command request.test_command
  let workspace_apply ← checked_apply request.workspace_apply
  let process_id ← checked_label "process_id" request.process_id
  let task_id ← checked_label "task_id" request.task_id
  let repository_id ← checked_label "repository_id" request.repository_id
  let base_commit ← checked_label "base_commit" request.base_commit
  let items ← items.mapM (checked_item "change proposal has invalid path")
  let (created_at, expires_at) ← checked_now request.now
  .ok { process_id, task_id, repository_id, base_commit, items, command, created_at, expires_at,
        workspace_apply }

/-! ## The plan -/

/-- An item of `normalized`. -/
structure Normalized : Type where
  posix : String
  relative_name : String
  new_content : Arg String

/-- An item of `planned`. -/
structure Planned : Type where
  posix : String
  old_content : String
  new_content : String
  deriving DecidableEq

/-- The loop that fills `normalized` and `seen_paths`. -/
def normalize : List (String × Arg String) → List String → Except Exn (List Normalized)
  | [], _ => .ok []
  | (relative_name, new_content) :: rest, seen_paths => do
    let posix ← _safe_relative_path relative_name
    raise_if (posix ∈ seen_paths) (contract_error ("duplicate workspace path: " ++ relative_name))
    let normalized ← normalize rest (posix :: seen_paths)
    .ok (⟨posix, relative_name, new_content⟩ :: normalized)

/-- `isinstance(new_content, str)`. -/
def content_text (relative_name : String) : Arg String → Except Exn String
  | .of text => .ok text
  | .other => .error (contract_error ("proposed content is not text: " ++ relative_name))

/-- One turn of the loop that fills `planned`. -/
def plan_item (sandbox : Sandbox) (item : Normalized) : Except Exn Planned := do
  let relative ← _safe_relative_path item.relative_name
  let new_content ← content_text item.relative_name item.new_content
  let snapshot_file ← _contained_file sandbox.snapshot relative
  let _ ← _contained_file sandbox.workspace relative
  raise_if (is_file sandbox.snapshot snapshot_file = false)
    (contract_error ("source file is unavailable: " ++ item.relative_name))
  let old_content ← read_text sandbox.snapshot snapshot_file
  raise_if (old_content = new_content)
    (contract_error ("proposed content is unchanged: " ++ item.relative_name))
  .ok ⟨item.posix, old_content, new_content⟩

/-- `sorted(items.items())`; the keys of a dict are distinct. -/
def sorted_items {ν : Type} (items : List (String × ν)) : List (String × ν) :=
  items.insertionSort fun a b => a.1 ≤ b.1

/-- The plan of a preparation. -/
def plan (sandbox : Sandbox) (items : List (String × Arg String)) : Except Exn (List Planned) := do
  let normalized ← normalize (sorted_items items) []
  normalized.mapM (plan_item sandbox)

/-! ## Writing -/

/-- `difflib.unified_diff` of the lines of two texts, between two file names. -/
abbrev UnifiedDiff : Type := (old new fromfile tofile : String) → List String

/-- The workspace, and what `apply_planned_changes` collects. -/
structure Applied : Type where
  workspace : Tree
  verified_pairs : List (String × String)
  source_digests : List String
  patch_parts : List String

/-- What a written file adds. -/
def Applied.record (unified_diff : UnifiedDiff) (item : Planned) (workspace : Tree) (s : Applied) :
    Applied where
  workspace := workspace
  verified_pairs := s.verified_pairs ++ [(item.posix, item.new_content)]
  source_digests := s.source_digests ++ [sha256_bytes (utf8_bytes item.old_content)]
  patch_parts := s.patch_parts ++
    unified_diff item.old_content item.new_content ("a/" ++ item.posix) ("b/" ++ item.posix)

/-- The file one planned change is written to. -/
def workspace_file (workspace : Tree) (item : Planned) : Except Exn String := do
  let relative ← _safe_relative_path item.posix
  _contained_file workspace relative

/-- `apply_planned_changes()`. -/
def apply_planned_changes (unified_diff : UnifiedDiff) :
    List Planned → Applied → Except Exn Unit × Applied
  | [], s => (.ok (), s)
  | item :: rest, s =>
    match workspace_file s.workspace item with
    | .error e => (.error e, s)
    | .ok file =>
      match write_text s.workspace file item.new_content with
      | (.error e, workspace) => (.error e, { s with workspace })
      | (.ok (), workspace) =>
        apply_planned_changes unified_diff rest (s.record unified_diff item workspace)

/-- The state of `guarded_apply`. -/
structure Guarded : Type where
  applied : Applied
  dispatch_used : Bool

/-- `guarded_apply()`. -/
def guarded_apply (unified_diff : UnifiedDiff) (planned : List Planned) (_ : Unit) (s : Guarded) :
    Except Exn Unit × Guarded :=
  if s.dispatch_used then
    (.error (contract_error "workspace apply callback is unavailable"), s)
  else
    ((apply_planned_changes unified_diff planned s.applied).1,
      ⟨(apply_planned_changes unified_diff planned s.applied).2, true⟩)

/-- The writing, inside the callback where there is one. -/
def run_apply (unified_diff : UnifiedDiff) (workspace_apply : Option WorkspaceApply)
    (planned : List Planned) (applied : Applied) : Except Exn Unit × Applied :=
  match workspace_apply with
  | none => apply_planned_changes unified_diff planned applied
  | some callback =>
    match callback.exec (guarded_apply unified_diff planned) ⟨applied, false⟩ with
    | (.error e, s) => (.error e, s.applied)
    | (.ok (), s) =>
      if s.dispatch_used then (.ok (), s.applied)
      else (.error (contract_error "workspace apply callback did not dispatch"), s.applied)

/-! ## Verification -/

/-- What `sandbox.run` gives, by what is read of it with `getattr`. -/
structure TestResult : Type where
  returncode : Arg ℤ
  stdout : Arg String
  stderr : Arg String
  deriving DecidableEq

/-- `sandbox.run`: a command in the workspace. It may raise, and it may change
files. -/
abbrev Run : Type := (command : List String) → (workspace : Tree) → Except Exn TestResult × Tree

/-- The check of the test result: its exit code, output and error output. -/
def checked_result (result : TestResult) : Except Exn (ℤ × String × String) :=
  match result.returncode, result.stdout, result.stderr with
  | .of returncode, .of stdout, .of stderr => .ok (returncode, stdout, stderr)
  | _, _, _ => .error (contract_error "test result is malformed")

/-- `PreparedChange`. -/
structure PreparedChange : Type where
  patch : String
  evidence_bundle : Json
  verification_report : Json
  staged_change : Json
  verified_contents : List (String × String)

/-- `process_id.removeprefix("process-")`. -/
def short_id (process_id : String) : String := PublicationSeed.removeprefix process_id "process-"

/-- `evidence`. -/
def evidence_of (a : Arguments) (applied : Applied) (test_status patch_digest report_digest created_at :
    String) : Json :=
  .obj [(.text "schema_version", .int 1),
    (.text "evidence_id", json_text ("evidence-" ++ short_id a.process_id)),
    (.text "process_id", json_text a.process_id), (.text "task_id", json_text a.task_id),
    (.text "worker_build_id", json_text "build-reference-worker-v1"),
    (.text "patch_digest", json_text patch_digest),
    (.text "test_results", .arr [.obj [(.text "test_id", json_text "allowlisted-tests"),
      (.text "status", json_text test_status), (.text "report_digest", json_text report_digest)]]),
    (.text "source_digests", .arr (applied.source_digests.map json_text)),
    (.text "assumptions", .arr [json_text "Input snapshot is the authorized process snapshot"]),
    (.text "limitations",
      .arr (if test_status = "passed" then [] else [json_text "Allowlisted tests failed"])),
    (.text "created_at", json_text created_at)]

/-- `verification`. -/
def verification_of (a : Arguments) (test_status evidence_digest created_at : String) : Json :=
  .obj [(.text "schema_version", .int 1),
    (.text "verification_id", json_text ("verification-" ++ short_id a.process_id)),
    (.text "process_id", json_text a.process_id),
    (.text "evidence_digest", json_text evidence_digest),
    (.text "verifier_id", json_text "deterministic-verifier-v1"),
    (.text "verifier_build_id", json_text "build-deterministic-verifier-v1"),
    (.text "checks", .arr [
      .obj [(.text "criterion", json_text "Allowlisted tests pass"),
        (.text "status", json_text (if test_status = "passed" then "passed" else "failed")),
        (.text "evidence_ref", json_text "artifact://reports/allowlisted-tests")],
      .obj [(.text "criterion", json_text "Patch is limited to declared paths"),
        (.text "status", json_text "passed"),
        (.text "evidence_ref", json_text "artifact://patches/declared-paths")]]),
    (.text "verdict", json_text (if test_status = "passed" then "pass" else "fail")),
    (.text "blockers", .arr (if test_status = "passed" then [] else [json_text "tests-failed"])),
    (.text "created_at", json_text created_at)]

/-- `staged`. -/
def staged_of (a : Arguments) (patch_digest evidence_digest verification_digest created_at expires_at :
    String) : Json :=
  .obj [(.text "schema_version", .int 1),
    (.text "staged_change_id", json_text ("staged-" ++ short_id a.process_id)),
    (.text "process_id", json_text a.process_id), (.text "repository_id", json_text a.repository_id),
    (.text "base_commit", json_text a.base_commit),
    (.text "patch_artifact_ref", json_text ("artifact://patches/" ++ a.process_id)),
    (.text "patch_digest", json_text patch_digest),
    (.text "evidence_digest", json_text evidence_digest),
    (.text "verification_digest", json_text verification_digest),
    (.text "created_at", json_text created_at), (.text "expires_at", json_text expires_at)]

/-- `tuple(sorted(verified_pairs))`; the paths are distinct. -/
def sorted_pairs (pairs : List (String × String)) : List (String × String) := sorted_items pairs

/-- From the test result to the prepared change. -/
def verify_change (a : Arguments) (applied : Applied) (result : TestResult) :
    Except Exn PreparedChange := do
  let (returncode, stdout, stderr) ← checked_result result
  let test_status := if returncode = 0 then "passed" else "failed"
  let patch := String.join applied.patch_parts
  let report_digest := sha256_bytes (utf8_bytes (stdout ++ "\n" ++ stderr))
  let patch_digest := sha256_bytes (utf8_bytes patch)
  let created_at ← a.created_at
  let evidence := evidence_of a applied test_status patch_digest report_digest created_at
  let evidence_digest ← sha256_digest evidence
  let verification := verification_of a test_status evidence_digest created_at
  raise_if (test_status ≠ "passed") ⟨.AllowlistedTestFailureError, "allowlisted tests failed"⟩
  let verification_digest ← sha256_digest verification
  let expires_at ← a.expires_at
  let staged := staged_of a patch_digest evidence_digest verification_digest created_at expires_at
  .ok ⟨patch, evidence, verification, staged, sorted_pairs applied.verified_pairs⟩

/-- `prepare_change(sandbox, ..)`, with the sandbox it leaves. -/
def prepare_change (unified_diff : UnifiedDiff) (run : Run) (request : Preparation) (sandbox : Sandbox) :
    Except Exn PreparedChange × Sandbox :=
  match checked_arguments request with
  | .error e => (.error e, sandbox)
  | .ok a =>
    match plan sandbox a.items with
    | .error e => (.error e, sandbox)
    | .ok planned =>
      match run_apply unified_diff a.workspace_apply planned ⟨sandbox.workspace, [], [], []⟩ with
      | (.error e, applied) => (.error e, { sandbox with workspace := applied.workspace })
      | (.ok (), applied) =>
        if String.join applied.patch_parts = "" then
          (.error (contract_error "generated patch is empty"),
            { sandbox with workspace := applied.workspace })
        else
          match run a.command applied.workspace with
          | (.error e, workspace) => (.error e, { sandbox with workspace })
          | (.ok result, workspace) => (verify_change a applied result, { sandbox with workspace })

/-! ## Publishing -/

/-- `PublishableFile`. -/
structure PublishableFile : Type where
  path : String
  content : String
  content_digest : String
  deriving DecidableEq

/-- `d[key] = value`. -/
def set_item (d : List (String × String)) (key value : String) : List (String × String) :=
  if key ∈ d.map Prod.fst then d.map fun item => if item.1 = key then (key, value) else item
  else d ++ [(key, value)]

/-- `dict(pairs)`. -/
def dict_of (pairs : List (String × String)) : List (String × String) :=
  pairs.foldl (fun d item => set_item d item.1 item.2) []

/-- `prepared.staged_change["patch_digest"]` against the patch. -/
def check_patch_digest (prepared : PreparedChange) : Except Exn Unit :=
  match prepared.staged_change.get? "patch_digest" with
  | none => .error ⟨.KeyError, "patch_digest"⟩
  | some value => raise_if (value.text? ≠ some (sha256_bytes (utf8_bytes prepared.patch)))
      (contract_error "staged change patch digest no longer matches prepared change")

/-- One turn of the loop that fills `manifest`. -/
def manifest_file (workspace : Tree) (verified : List (String × String)) (relative_name : String) :
    Except Exn PublishableFile := do
  let relative ← _safe_relative_path relative_name
  let file ← _contained_file workspace relative
  raise_if (is_file workspace file = false)
    (contract_error ("verified workspace file is unavailable: " ++ relative_name))
  let content ← read_text workspace file
  raise_if (some content ≠ verified.lookup relative_name)
    (contract_error ("verified workspace content changed: " ++ relative_name))
  .ok ⟨relative, content, sha256_bytes (utf8_bytes content)⟩

/-- `build_publish_manifest(sandbox, prepared, changes)`. -/
def build_publish_manifest (sandbox : Sandbox) (prepared : PreparedChange) (changes : Changes) :
    Except Exn (List PublishableFile) := do
  check_patch_digest prepared
  let verified := dict_of prepared.verified_contents
  raise_if (verified = []) (contract_error "publish manifest is empty")
  let items ← dict_items "publish manifest is empty" "publish manifest request is malformed" changes
  let items ← items.mapM (checked_item "publish manifest request has invalid path")
  let requested_list ← items.mapM fun item => _safe_relative_path item.1
  raise_if (requested_list.dedup.length ≠ items.length)
    (contract_error "publish manifest request has duplicate paths")
  raise_if (requested_list.toFinset ≠ (verified.map Prod.fst).toFinset)
    (contract_error "publish manifest request does not match verified prepared contents")
  let manifest ← ((verified.map Prod.fst).insertionSort (· ≤ ·)).mapM
    (manifest_file sandbox.workspace verified)
  raise_if (manifest = []) (contract_error "publish manifest is empty")
  .ok manifest

end AppContracts.RepositoryProcess
