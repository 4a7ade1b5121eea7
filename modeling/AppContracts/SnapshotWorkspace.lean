/-
Snapshots on disk: the writing loop and the check of
`remote_snapshot_workspace.py`, `compute_snapshot_tree_digest` of
`pinned_snapshot.py`, and `_read_pinned_snapshot_files` of `executor.py`.

A disk is the list of what lies below a directory. `rglob` visits it in any order,
so a layer that reads it is given a permutation of the list.

The three layers digest the files of one snapshot alike, but each has its own rules
for paths and its own limits.
-/
import AppContracts.SnapshotContents

set_option autoImplicit false

namespace AppContracts.GitHubSnapshot

open SecretScan

/-! ## The disk -/

/-- What `lstat` says an entry is. -/
inductive EntryKind : Type
  | regular (content : Bytes)
  | directory
  | symlink
  | other
  deriving DecidableEq

/-- An entry below a directory: its relative path, permissions and kind. -/
structure DiskEntry : Type where
  path : String
  permissions : ℕ
  kind : EntryKind
  deriving DecidableEq

/-- The entries below a directory. -/
abbrev Disk : Type := List DiskEntry

/-- The entry of a path. -/
def Disk.at_path (disk : Disk) (path : String) : Option DiskEntry :=
  disk.find? fun e => e.path = path

/-- `destination.parent.mkdir(parents=True, exist_ok=True)`, given the directories
above the destination. -/
def make_directories : List String → Disk → Option Disk
  | [], disk => some disk
  | directory :: rest, disk =>
    match disk.at_path directory with
    | none => make_directories rest (disk ++ [⟨directory, 0o700, .directory⟩])
    | some e => if e.kind = .directory then make_directories rest disk else none

/-- `0o555 if mode == "100755" else 0o444`. -/
def permissions_of (mode : String) : ℕ := if mode = "100755" then 0o555 else 0o444

/-- The body of the writing loop; `none` is an exception. -/
def write_file (f : TreeFile) (disk : Disk) : Option Disk := do
  let disk ← make_directories (ancestors f.1) disk
  if (disk.at_path f.1).isSome then none
  else some (disk ++ [⟨f.1, permissions_of f.2.1, .regular f.2.2⟩])

/-- The writing loop. -/
def write_files : List TreeFile → Disk → Option Disk
  | [], disk => some disk
  | f :: rest, disk => do
    let disk ← write_file f disk
    write_files rest disk

/-- `"100755" if metadata.st_mode & 0o111 else "100644"`. -/
def mode_of (permissions : ℕ) : String :=
  if permissions &&& 0o111 = 0 then "100644" else "100755"

/-! ## The digest of a directory -/

/-- `PurePosixPath(value).as_posix()`. -/
def as_posix (value : String) : String :=
  let root := if "/".toList.isPrefixOf value.toList then
      if "//".toList.isPrefixOf value.toList && !"///".toList.isPrefixOf value.toList then "//" else "/"
    else ""
  let text := root ++ join_path ((split_path value).filter fun part => part ≠ "" && part ≠ ".")
  if text = "" then "." else text

/-- `part.casefold() == ".git"`: no other character folds to one of these. -/
def is_git_name (part : String) : Bool := part.toList.map Char.toLower == ".git".toList

/-- `_safe_snapshot_relative_path(value)`. -/
def _safe_snapshot_relative_path (value : String) : Except Exn String :=
  let raw_parts := split_path value
  if value = "" ∨ "/".toList.isPrefixOf value.toList ∨ '\\' ∈ value.toList ∨
      Char.ofNat 0 ∈ value.toList ∨ (raw_parts.head?.any fun part => part.toList.contains ':') ∨
      (raw_parts.any fun part => !plain_part part) ∨ raw_parts.any is_git_name ∨
      as_posix value ≠ value then
    .error ⟨.ValueError, "pinned snapshot tree path is invalid"⟩
  else .ok value

/-- `SNAPSHOT_CONTENT_DIGEST_CANONICALIZATION`. -/
def SNAPSHOT_CONTENT_DIGEST_CANONICALIZATION : String := "app-process-snapshot-content/v1"

/-- `entries`, `file_count` and `total_bytes`. -/
structure Totals : Type where
  entries : List DigestEntry
  file_count : ℕ
  total_bytes : ℕ

/-- The entry of a file of the directory. -/
def hashed_entry (include_mode : Bool) (relative : String) (permissions : ℕ) (content : Bytes) :
    DigestEntry :=
  ⟨relative, sha256_bytes (octets content), if include_mode then some (mode_of permissions) else none⟩

/-- The body of the loop over a directory. -/
def hash_entry (include_mode : Bool) (e : DiskEntry) (t : Totals) : Except Exn Totals :=
  match e.kind with
  | .symlink => .error ⟨.ValueError, "pinned snapshot tree contains a symlink"⟩
  | .directory => .ok t
  | .other => .error ⟨.ValueError, "pinned snapshot tree contains an unsupported entry"⟩
  | .regular content => do
    let relative ← _safe_snapshot_relative_path e.path
    let path_bytes := (utf8_bytes relative).length
    if MAX_SNAPSHOT_FILES < t.file_count + 1 ∨ MAX_SNAPSHOT_PATH_BYTES < path_bytes ∨
        MAX_SNAPSHOT_FILE_BYTES < content.length ∨
        MAX_SNAPSHOT_TOTAL_BYTES < t.total_bytes + (path_bytes + content.length) then
      .error ⟨.ValueError, "pinned snapshot tree limits exceeded"⟩
    else .ok ⟨t.entries ++ [hashed_entry include_mode relative e.permissions content],
      t.file_count + 1, t.total_bytes + (path_bytes + content.length)⟩

/-- The loop over a directory. -/
def hash_entries (include_mode : Bool) : List DiskEntry → Totals → Except Exn Totals
  | [], t => .ok t
  | e :: rest, t => do
    let t ← hash_entry include_mode e t
    hash_entries include_mode rest t

/-- `compute_snapshot_tree_digest(snapshot_path, include_mode=..)`, given what
`rglob` yields. -/
def compute_snapshot_tree_digest (walk : List DiskEntry) (include_mode : Bool) :
    Except Exn String := do
  let t ← hash_entries include_mode walk ⟨[], 0, 0⟩
  entries_digest (if include_mode then SNAPSHOT_DIGEST_CANONICALIZATION
    else SNAPSHOT_CONTENT_DIGEST_CANONICALIZATION) (sorted_entries t.entries)

/-! ## The check after writing -/

/-- `RemoteSnapshotWorkspaceError("remote snapshot workspace: materialization failed")`. -/
def materialization_error : Exn :=
  ⟨.RemoteSnapshotWorkspaceError, "remote snapshot workspace: materialization failed"⟩

/-- `actual_files`: the files of a directory that holds files and directories
only. -/
def actual_files : List DiskEntry → Except Exn (List TreeFile)
  | [] => .ok []
  | e :: rest =>
    match e.kind with
    | .symlink => .error ⟨.ValueError, "symlink invalid"⟩
    | .directory => actual_files rest
    | .other => .error ⟨.ValueError, "file type invalid"⟩
    | .regular content => do
      let files ← actual_files rest
      return (e.path, mode_of e.permissions, content) :: files

/-- `_verify_materialized_tree(root, expected_files, expected_digest)`, given what
its two walks yield. -/
def _verify_materialized_tree (walk walk' : List DiskEntry) (expected_files : List TreeFile)
    (expected_digest : String) : Except Exn Unit := do
  let files ← actual_files walk
  if sorted_by_path files ≠ expected_files then .error ⟨.ValueError, "file contents mismatch"⟩
  else
    let digest ← compute_snapshot_tree_digest walk' true
    if digest ≠ expected_digest then .error ⟨.ValueError, "tree digest mismatch"⟩ else .ok ()

/-- The directories are closed after the check. -/
def close_directories (disk : Disk) : Disk :=
  disk.map fun e => if e.kind = .directory then { e with permissions := 0o555 } else e

/-- `materialize_github_snapshot(snapshot)`, given the orders of its walks. -/
def materialize_github_snapshot (snapshot : GitHubSnapshotContents)
    (order order' : Disk → List DiskEntry) : Except Exn Disk :=
  match write_files snapshot.tree_files [] with
  | none => .error materialization_error
  | some disk =>
    match _verify_materialized_tree (order disk) (order' disk) snapshot.tree_files
        snapshot.claim.content_digest with
    | .ok () => .ok (close_directories disk)
    | .error _ => .error materialization_error

/-! ## The reader of the verifier -/

/-- `MAX_VERIFIER_SNAPSHOT_FILES`. -/
def MAX_VERIFIER_SNAPSHOT_FILES : ℕ := 256

/-- `MAX_VERIFIER_SNAPSHOT_PATH_BYTES`. -/
def MAX_VERIFIER_SNAPSHOT_PATH_BYTES : ℕ := 240

/-- `MAX_VERIFIER_SNAPSHOT_FILE_BYTES`. -/
def MAX_VERIFIER_SNAPSHOT_FILE_BYTES : ℕ := MAX_SNAPSHOT_FILE_BYTES

/-- `MAX_VERIFIER_SNAPSHOT_TOTAL_BYTES`. -/
def MAX_VERIFIER_SNAPSHOT_TOTAL_BYTES : ℕ := 512000

/-- `_is_safe_relative_path(value)`. -/
def _is_safe_relative_path (value : String) : Bool :=
  value != "" && value == strip value && !"/".toList.isPrefixOf value.toList &&
    !value.toList.contains '\\' && !decide ("//".toList <:+: value.toList) &&
    !decide ("/./".toList <:+: value.toList) && !"/.".toList.isSuffixOf value.toList &&
    !value.toList.any is_control && !(split_path value).contains ".." && value != "."

/-- The loop of `_read_pinned_snapshot_files`; `none` is an exception. -/
def collect_files : List DiskEntry → List TreeFile → ℕ → Option (List TreeFile)
  | [], collected, _ => some collected
  | e :: rest, collected, total_bytes =>
    match e.kind with
    | .directory => collect_files rest collected total_bytes
    | .regular content =>
      if _is_safe_relative_path e.path = false ∨
          MAX_VERIFIER_SNAPSHOT_PATH_BYTES < (utf8_bytes e.path).length ∨
          MAX_VERIFIER_SNAPSHOT_FILE_BYTES < content.length ∨
          MAX_VERIFIER_SNAPSHOT_FILES ≤ collected.length ∨
          MAX_VERIFIER_SNAPSHOT_TOTAL_BYTES < total_bytes + content.length then none
      else collect_files rest (collected ++ [(e.path, mode_of e.permissions, content)])
        (total_bytes + content.length)
    | _ => none

/-- `ExecutionError("execution verifier input: pinned snapshot is invalid")`. -/
def pinned_snapshot_error : Exn :=
  ⟨.ExecutionError, "execution verifier input: pinned snapshot is invalid"⟩

/-- `_read_pinned_snapshot_files(snapshot_path, expected_tree_digest)`, given what
`rglob` yields. -/
def _read_pinned_snapshot_files (walk : List DiskEntry) (expected_tree_digest : String) :
    Except Exn (List TreeFile) :=
  match collect_files walk [] 0 with
  | none => .error pinned_snapshot_error
  | some collected =>
    let result := sorted_by_path collected
    if verifier_snapshot_tree_digest result = .ok expected_tree_digest then .ok result
    else .error pinned_snapshot_error

end AppContracts.GitHubSnapshot
