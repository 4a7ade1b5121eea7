/-
The reader of codeload archives: `parse_github_archive_snapshot` of
`github_archive_snapshot.py`.

The reader walks over the members of a tar archive. Every member lies under one
root directory, whose name is stripped; the members must be the files of a tree
and the directories above them, each once. The tree is then hashed and compared
with the pins of the request.

Reading the tar is a parameter: a function from bytes to members.
-/
import AppContracts.GitArchive
import AppContracts.SnapshotContents
import AppContracts.Wire
import Mathlib.Data.Finset.Dedup
import Mathlib.Data.List.DropRight

set_option autoImplicit false

namespace AppContracts.ArchiveReader

open GitHubSnapshot SecretScan

/-! ## Requests and members -/

/-- `_MAX_ARCHIVE_BYTES`. -/
def _MAX_ARCHIVE_BYTES : ℕ := 16 * 1024 * 1024

/-- `_MAX_ARCHIVE_MEMBERS`. -/
def _MAX_ARCHIVE_MEMBERS : ℕ := 1024

/-- `_ARCHIVE_EVIDENCE_ORIGIN`. -/
def _ARCHIVE_EVIDENCE_ORIGIN : String := "github_codeload_archive"

/-- The fields of a `GitHubArchiveSnapshotRequest`. -/
structure RequestFields : Type where
  owner : String
  repository : String
  commit_oid : String
  tree_oid : String
  content_digest : String
  file_count : ℤ

/-- `GitHubArchiveSnapshotRequest.__post_init__()`. -/
def RequestFields.post_init (r : RequestFields) : Except Exn Unit :=
  if is_owner r.owner = false ∨ is_repository r.repository = false ∨ is_oid r.commit_oid = false ∨
      is_oid r.tree_oid = false then .error (archive_error "request is invalid")
  else if is_digest r.content_digest = false ∨ r.file_count < 1 ∨
      (MAX_SNAPSHOT_FILES : ℤ) < r.file_count then .error (archive_error "request is invalid")
  else .ok ()

/-- `GitHubArchiveSnapshotRequest`. -/
structure GitHubArchiveSnapshotRequest : Type extends RequestFields where
  checked : toRequestFields.post_init = .ok ()

/-- What the reader asks of a `TarInfo`, and what `archive.extractfile` gives for it. -/
structure TarMember : Type where
  name : String
  is_dir : Bool
  is_file : Bool
  size : ℤ
  mode : ℤ
  /-- No stream, or one of these bytes. -/
  extractfile : Except Exn (Option Bytes)

/-- `name.rstrip("/")`. -/
def rstrip_slashes (name : String) : String := String.ofList (name.toList.rdropWhile (· == '/'))

/-- `name.rstrip("/") if member.isdir() else name`. -/
def TarMember.normalized_name (member : TarMember) : String :=
  if member.is_dir then rstrip_slashes member.name else member.name

/-! ## The loop over the members -/

/-- A file as the loop records it: path, mode, object ID and content. -/
abbrev FileRecord : Type := String × String × String × Bytes

/-- What the loop has gathered. -/
structure Gathered : Type where
  roots : List String
  /-- The dict `seen`: whether a name is a directory. -/
  seen : List (String × Bool)
  file_records : List FileRecord
  total_bytes : ℕ

/-- The names in `seen`. -/
def Gathered.names (g : Gathered) : List String := g.seen.map Prod.fst

/-- The part of the loop for a file. -/
def read_file (request : GitHubArchiveSnapshotRequest) (g : Gathered) (relative : String)
    (member : TarMember) : Except Exn Gathered := do
  raise_if (member.is_file = false) (archive_error "member type is invalid")
  raise_if (member.size < 0 ∨ (MAX_SNAPSHOT_FILE_BYTES : ℤ) < member.size ∨
    request.file_count ≤ g.file_records.length) (archive_error "file limit exceeded")
  let stream ← member.extractfile
  let bytes ← or_raise (archive_error "file content is invalid") stream
  let content := bytes.take (member.size + 1).toNat
  raise_if ((content.length : ℤ) ≠ member.size) (archive_error "file content is invalid")
  raise_if (MAX_SNAPSHOT_TOTAL_BYTES < g.total_bytes + content.length)
    (archive_error "total size exceeded")
  -- `member.mode & ~0o777`: a bit above the nine permissions
  raise_if (member.mode < 0 ∨ 0o777 < member.mode) (archive_error "file mode is invalid")
  let mode := if member.mode.toNat &&& 0o111 ≠ 0 then "100755" else "100644"
  return { g with
    seen := g.seen ++ [(relative, false)]
    file_records := g.file_records ++ [(relative, mode, git_blob_oid content, content)]
    total_bytes := g.total_bytes + content.length }

/-- The part of the loop for a member below the root. -/
def read_below (request : GitHubArchiveSnapshotRequest) (g : Gathered) (relative : String)
    (member : TarMember) : Except Exn Gathered := do
  raise_if (MAX_SNAPSHOT_PATH_BYTES < (utf8_bytes relative).length ∨ safe_tree_path relative = false)
    (archive_error "member path is invalid")
  raise_if (relative ∈ g.names) (archive_error "duplicate member")
  if member.is_dir then return { g with seen := g.seen ++ [(relative, true)] }
  else read_file request g relative member

/-- The part of the loop for a member without a slash in its name. -/
def read_root (g : Gathered) (root : String) (member : TarMember) : Except Exn Gathered := do
  raise_if (member.is_dir = false ∨ root ∈ g.names) (archive_error "root is invalid")
  return { g with seen := g.seen ++ [(root, true)] }

/-- One step of the loop. A name without empty and dot parts has for parts of its
`PurePosixPath` what lies between the slashes. -/
def read_member (request : GitHubArchiveSnapshotRequest) (g : Gathered) (member : TarMember) :
    Except Exn Gathered := do
  raise_if (member.name = "" ∨ member.normalized_name = "" ∨
    member.normalized_name.toList.head? = some '/' ∨ '\\' ∈ member.normalized_name.toList ∨
    (split_path member.normalized_name).all plain_part = false) (archive_error "member path is invalid")
  let parts := split_path member.normalized_name
  let root := parts.headD ""
  let g := { g with roots := g.roots.insert root }
  if parts.length = 1 then read_root g root member
  else read_below request g (join_path parts.tail) member

/-- The block that reads the archive. -/
def read_members (getmembers : Bytes → Except Exn (List TarMember))
    (request : GitHubArchiveSnapshotRequest) (archive_bytes : Bytes) : Except Exn Gathered := do
  let members ← getmembers archive_bytes
  raise_if (members = [] ∨ _MAX_ARCHIVE_MEMBERS < members.length)
    (archive_error "member limit exceeded")
  members.foldlM (read_member request) ⟨[], [], [], 0⟩

/-! ## The snapshot -/

/-- A record is built if its own checks pass. -/
def checked {α : Type} (post_init : α → Except Exn Unit) (fields : α) :
    Except Exn { fields : α // post_init fields = .ok () } :=
  match h : post_init fields with
  | .ok () => .ok ⟨fields, h⟩
  | .error e => .error e

theorem checked_ok {α : Type} {post_init : α → Except Exn Unit} {fields : α}
    {record : { fields : α // post_init fields = .ok () }} :
    checked post_init fields = .ok record ↔ record.val = fields := by
  unfold checked
  split
  · rw [Except.ok.injEq, Subtype.ext_iff, eq_comm]
  · rename_i e he
    refine iff_of_false nofun ?_
    rintro rfl
    exact nomatch record.property.symm.trans he

/-- `GitHubBlobClaim(..)`. -/
def blob_claim (fields : BlobFields) : Except Exn GitHubBlobClaim := do
  let record ← checked BlobFields.post_init fields
  return ⟨record.val, record.property⟩

theorem blob_claim_ok {fields : BlobFields} {blob : GitHubBlobClaim} :
    blob_claim fields = .ok blob ↔ blob.toBlobFields = fields := by
  simp only [blob_claim, bind_ok, checked_ok, pure, Except.pure, Except.ok.injEq]
  constructor
  · rintro ⟨record, rfl, rfl⟩
    rfl
  · rintro rfl
    exact ⟨⟨_, blob.checked⟩, rfl, rfl⟩

/-- `GitHubSnapshotClaim(..)`. -/
def snapshot_claim (fields : ClaimFields) : Except Exn GitHubSnapshotClaim := do
  let record ← checked ClaimFields.post_init fields
  return ⟨record.val, record.property⟩

/-- `GitHubSnapshotContents(..)`. -/
def snapshot_contents (fields : ContentsFields) : Except Exn GitHubSnapshotContents := do
  let record ← checked ContentsFields.post_init fields
  return ⟨record.val, record.property⟩

/-- The blob of a record. -/
def record_fields (record : FileRecord) : BlobFields :=
  ⟨record.1, record.2.1, record.2.2.1, record.2.2.2.length, record.2.2.2,
    sha256_bytes (octets record.2.2.2), _ARCHIVE_EVIDENCE_ORIGIN⟩

/-- `sorted(file_records)`: the paths differ, so they decide. -/
def sorted_records (records : List FileRecord) : List FileRecord :=
  records.insertionSort fun a b => a.1 ≤ b.1

/-- The block that builds the snapshot. -/
def build_snapshot (request : GitHubArchiveSnapshotRequest) (g : Gathered) :
    Except Exn GitHubSnapshotContents := do
  let blobs ← (sorted_records g.file_records).mapM fun record => blob_claim (record_fields record)
  let content_digest ← _snapshot_content_digest (blobs.map GitHubBlobClaim.file)
  raise_if (content_digest ≠ request.content_digest) (archive_error "content digest mismatch")
  let tree_oid ← _git_tree_oid (blobs.map fun blob => (blob.path, blob.mode, blob.sha))
  raise_if (tree_oid ≠ request.tree_oid) (archive_error "tree OID mismatch")
  let claim ← snapshot_claim ⟨request.owner, request.repository, request.commit_oid, tree_oid,
    content_digest, none, _ARCHIVE_EVIDENCE_ORIGIN⟩
  snapshot_contents ⟨claim, blobs, none⟩

/-- `required_directories`. -/
def Gathered.required_directories (g : Gathered) : List String :=
  g.file_records.flatMap fun record => ancestors record.1

/-- `declared_directories`. -/
def Gathered.declared_directories (g : Gathered) : List String :=
  (g.seen.filter fun entry => entry.2 && entry.1 ∉ g.roots).map Prod.fst

/-- `parse_github_archive_snapshot(request, archive_bytes)`. -/
def parse_github_archive_snapshot (getmembers : Bytes → Except Exn (List TarMember))
    (request : GitHubArchiveSnapshotRequest) (archive_bytes : Bytes) :
    Except Exn GitHubSnapshotContents := do
  raise_if (archive_bytes = [] ∨ _MAX_ARCHIVE_BYTES < archive_bytes.length)
    (archive_error "archive input is invalid")
  let g ← reraise .GitHubArchiveSnapshotError (archive_error "archive is invalid")
    (read_members getmembers request archive_bytes)
  raise_if (g.roots.length ≠ 1 ∨ (g.file_records.length : ℤ) ≠ request.file_count)
    (archive_error "snapshot shape mismatch")
  raise_if (g.declared_directories.toFinset ≠ g.required_directories.toFinset)
    (archive_error "directory structure mismatch")
  reraise .GitHubArchiveSnapshotError (archive_error "snapshot claim is invalid")
    (build_snapshot request g)

end AppContracts.ArchiveReader
