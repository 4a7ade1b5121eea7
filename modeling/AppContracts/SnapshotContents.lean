/-
Snapshot contents and their digest: `GitHubBlobClaim`, `GitHubSnapshotClaim` and
`GitHubSnapshotContents` of `github_snapshot.py`, and
`verifier_snapshot_tree_digest` of `executor.py`.

Both readers of snapshots end by building these records, and each record checks
its own fields. A checked value carries the proof that its checks passed.
-/
import AppContracts.SecretScan
import Mathlib.Algebra.Ring.Int.Defs

set_option autoImplicit false

namespace AppContracts.GitHubSnapshot

open SecretScan

/-! ## Blobs -/

/-- `_REMOTE_SNAPSHOT_EVIDENCE_ORIGINS`. -/
def REMOTE_SNAPSHOT_EVIDENCE_ORIGINS : List String :=
  ["github_rest_api_claim", "github_codeload_archive"]

/-- `_DIGEST_PATTERN.fullmatch(value)`. -/
def is_digest (value : String) : Bool :=
  let digits := value.toList.drop "sha256:".length
  "sha256:".toList.isPrefixOf value.toList && digits.length == 64 && digits.all is_oid_digit

theorem is_digest_sha256_bytes (value : List ℕ) : is_digest (sha256_bytes value) = true := by
  have hdrop : (sha256_bytes value).toList.drop "sha256:".length = (Sha256.hexdigest value).toList := by
    rw [sha256_bytes, String.toList_append]
    exact List.drop_left
  have hstart : "sha256:".toList.isPrefixOf (sha256_bytes value).toList = true := by
    rw [sha256_bytes, String.toList_append]
    exact List.isPrefixOf_iff_prefix.mpr (List.prefix_append _ _)
  rw [is_digest, hdrop, hstart, Sha256.hexdigest, String.toList_ofList]
  simp only [Bool.true_and, Bool.and_eq_true, beq_iff_eq]
  constructor
  · simp [Sha256.hex]
  · simp only [List.all_flatMap, List.all_eq_true, Sha256.hex, List.all_map, Function.comp_apply]
    exact fun w _ n _ => is_oid_digit_nibble _

/-- `SHA1("blob <size>\0" + content)`. -/
def git_blob_oid (content : Bytes) : String :=
  Sha1.hexdigest (utf8_bytes "blob " ++ utf8_bytes (String.ofList (Json.digits content.length)) ++
    0x00 :: octets content)

/-- The fields of a `GitHubBlobClaim`. -/
structure BlobFields : Type where
  path : String
  mode : String
  sha : String
  size : ℤ
  content : Bytes
  content_digest : String
  evidence_origin : String
  deriving DecidableEq

/-- `GitHubBlobClaim.__post_init__()`. -/
def BlobFields.post_init (b : BlobFields) : Except Exn Unit :=
  if safe_tree_path b.path = false then .error (snapshot_error "blob entry is invalid")
  else if b.mode ∉ BLOB_MODES then .error (snapshot_error "blob entry is invalid")
  else if is_oid b.sha = false then .error (snapshot_error "blob OID is invalid")
  else if b.size ≠ b.content.length ∨ (MAX_SNAPSHOT_FILE_BYTES : ℤ) < b.size then
    .error (snapshot_error "blob size is invalid")
  else if is_digest b.content_digest = false ∨ sha256_bytes (octets b.content) ≠ b.content_digest then
    .error (snapshot_error "blob digest is invalid")
  else if b.sha ≠ git_blob_oid b.content then .error (snapshot_error "blob OID mismatch")
  else if b.evidence_origin ∉ REMOTE_SNAPSHOT_EVIDENCE_ORIGINS then
    .error (snapshot_error "evidence origin is invalid")
  else .ok ()

theorem BlobFields.post_init_ok {b : BlobFields} :
    b.post_init = .ok () ↔ safe_tree_path b.path = true ∧ b.mode ∈ BLOB_MODES ∧ is_oid b.sha = true ∧
      b.size = b.content.length ∧ b.content.length ≤ MAX_SNAPSHOT_FILE_BYTES ∧
      is_digest b.content_digest = true ∧ sha256_bytes (octets b.content) = b.content_digest ∧
      b.sha = git_blob_oid b.content ∧ b.evidence_origin ∈ REMOTE_SNAPSHOT_EVIDENCE_ORIGINS := by
  have hsize : (b.size = b.content.length ∧ b.size ≤ (MAX_SNAPSHOT_FILE_BYTES : ℤ)) ↔
      (b.size = b.content.length ∧ b.content.length ≤ MAX_SNAPSHOT_FILE_BYTES) := by
    omega
  simp only [post_init, guard_ok, not_or, not_not, not_lt, Bool.not_eq_false, ne_eq, hsize, and_true,
    and_assoc]

/-- `GitHubBlobClaim`. -/
structure GitHubBlobClaim : Type extends BlobFields where
  checked : toBlobFields.post_init = .ok ()

/-! ## Digests of trees -/

/-- A file of a tree: path, mode and content. -/
abbrev TreeFile : Type := String × String × Bytes

/-- `SNAPSHOT_DIGEST_CANONICALIZATION`. -/
def SNAPSHOT_DIGEST_CANONICALIZATION : String := "app-process-snapshot-tree/v1"

/-- A JSON string. -/
def json_text (s : String) : Json := .str (.text s)

/-- An entry of a tree digest. -/
structure DigestEntry : Type where
  path : String
  content_digest : String
  /-- Left out of a digest that binds no modes. -/
  mode : Option String
  deriving DecidableEq

/-- The entry as JSON. -/
def DigestEntry.json (e : DigestEntry) : Json :=
  .obj ([(.text "path", json_text e.path), (.text "content_digest", json_text e.content_digest)] ++
    (e.mode.map fun mode => (PyStr.text "mode", json_text mode)).toList)

/-- Entries in order, as JSON. -/
def entries_json (canonicalization : String) (entries : List DigestEntry) : Json :=
  .obj [(.text "canonicalization", json_text canonicalization),
    (.text "files", .arr (entries.map DigestEntry.json))]

/-- The digest of entries in order. -/
def entries_digest (canonicalization : String) (entries : List DigestEntry) : Except Exn String :=
  sha256_digest (entries_json canonicalization entries)

/-- Entries are text, so they have a digest. -/
theorem entries_digest_ok (canonicalization : String) (entries : List DigestEntry) :
    entries_digest canonicalization entries =
      .ok (sha256_bytes (canonical_bytes (entries_json canonicalization entries))) := by
  have hentry : ∀ e : DigestEntry, e.json.encodable false = true := by
    rintro ⟨path, content_digest, mode⟩
    cases mode <;> simp [DigestEntry.json, json_text, Json.encodable, Json.encodable_fields,
      Json.encodable_str]
  refine sha256_digest_ok.mpr ⟨?_, rfl⟩
  have hitems : Json.encodable_items false (entries.map DigestEntry.json) = true := by
    rw [Json.encodable_items_iff]
    exact List.forall_mem_map.mpr fun e _ => hentry e
  simp [entries_json, json_text, Json.encodable, Json.encodable_fields, Json.encodable_str, hitems]

/-- The entry of a file, with its mode. -/
def TreeFile.entry (f : TreeFile) : DigestEntry :=
  ⟨f.1, sha256_bytes (octets f.2.2), some f.2.1⟩

/-- `sorted(files, key=lambda item: item[0])`. -/
def sorted_by_path (files : List TreeFile) : List TreeFile :=
  files.insertionSort fun a b => a.1 ≤ b.1

/-- `entries.sort(key=lambda entry: entry["path"])`. -/
def sorted_entries (entries : List DigestEntry) : List DigestEntry :=
  entries.insertionSort fun a b => a.path ≤ b.path

/-- `_snapshot_content_digest(files)`: the files are sorted, then described. -/
def _snapshot_content_digest (files : List TreeFile) : Except Exn String :=
  entries_digest SNAPSHOT_DIGEST_CANONICALIZATION ((sorted_by_path files).map TreeFile.entry)

/-- `verifier_snapshot_tree_digest(snapshot_files)`: the files are described, then
sorted. -/
def verifier_snapshot_tree_digest (snapshot_files : List TreeFile) : Except Exn String :=
  entries_digest SNAPSHOT_DIGEST_CANONICALIZATION (sorted_entries (snapshot_files.map TreeFile.entry))

/-! ## Claims and contents -/

/-- `_validate_selected_paths(paths)`. -/
def _validate_selected_paths : Option (List String) → Except Exn Unit
  | none => .ok ()
  | some paths =>
    if paths = [] ∨ MAX_SNAPSHOT_FILES < paths.length ∨ (paths.any fun p => !safe_tree_path p) ∨
        paths.insertionSort (· ≤ ·) ≠ paths ∨ ¬ paths.Nodup then
      .error (snapshot_error "selected paths are invalid")
    else .ok ()

/-- The fields of a `GitHubSnapshotClaim`. -/
structure ClaimFields : Type where
  owner : String
  repository : String
  commit_oid : String
  tree_oid : String
  content_digest : String
  selected_paths : Option (List String)
  evidence_origin : String
  deriving DecidableEq

/-- `GitHubSnapshotClaim.__post_init__()`. -/
def ClaimFields.post_init (c : ClaimFields) : Except Exn Unit := do
  if is_owner c.owner = false then .error (snapshot_error "repository identity is invalid")
  else if is_repository c.repository = false then
    .error (snapshot_error "repository identity is invalid")
  else if is_oid c.commit_oid = false then .error (snapshot_error "commit OID is invalid")
  else if is_oid c.tree_oid = false then .error (snapshot_error "tree OID is invalid")
  else if is_digest c.content_digest = false then .error (snapshot_error "content digest is invalid")
  else
    _validate_selected_paths c.selected_paths
    if c.evidence_origin ∉ REMOTE_SNAPSHOT_EVIDENCE_ORIGINS then
      .error (snapshot_error "evidence origin is invalid")
    else .ok ()

/-- `GitHubSnapshotClaim`. -/
structure GitHubSnapshotClaim : Type extends ClaimFields where
  checked : toClaimFields.post_init = .ok ()

/-- The path, mode and content of a blob. -/
def GitHubBlobClaim.file (b : GitHubBlobClaim) : TreeFile := (b.path, b.mode, b.content)

/-- The fields of a `GitHubSnapshotContents`; a commit object is its commit and
tree IDs. -/
structure ContentsFields : Type where
  claim : GitHubSnapshotClaim
  files : List GitHubBlobClaim
  verified_commit_object : Option (String × String)

/-- `except CredentialLeakDetected`. -/
def credential_error (e : Exn) : Exn :=
  if e.cls = .CredentialLeakDetected then snapshot_error "credential-shaped content detected" else e

/-- The last checks of contents: the digest, and the scan for credentials. -/
def ContentsFields.check_content (c : ContentsFields) : Except Exn Unit := do
  let actual ← _snapshot_content_digest (c.files.map GitHubBlobClaim.file)
  if actual ≠ c.claim.content_digest then .error (snapshot_error "content digest mismatch")
  else
    match assert_no_credential_pattern_content (c.files.map fun b => (b.path, b.content)) with
    | .ok () => .ok ()
    | .error e => .error (credential_error e)

/-- The paths of contents. -/
def ContentsFields.paths (c : ContentsFields) : List String := c.files.map fun b => b.path

/-- `GitHubSnapshotContents.__post_init__()`. -/
def ContentsFields.post_init (c : ContentsFields) : Except Exn Unit :=
  if c.verified_commit_object.any fun o => o ≠ (c.claim.commit_oid, c.claim.tree_oid) then
    .error (snapshot_error "commit object is invalid")
  else if c.files.any fun b => b.evidence_origin ≠ c.claim.evidence_origin then
    .error (snapshot_error "evidence origin mismatch")
  else if MAX_SNAPSHOT_FILES < c.files.length then .error (snapshot_error "content limits exceeded")
  else if c.paths.insertionSort (· ≤ ·) ≠ c.paths ∨ ¬ c.paths.Nodup then
    .error (snapshot_error "content files are invalid")
  else if c.claim.selected_paths.any fun selected => c.paths ≠ selected then
    .error (snapshot_error "content selection mismatch")
  else if (MAX_SNAPSHOT_TOTAL_BYTES : ℤ) < (c.files.map fun b => b.size).sum then
    .error (snapshot_error "content limits exceeded")
  else c.check_content

/-- Every size is the length of its content. -/
theorem sum_sizes (files : List GitHubBlobClaim) :
    (files.map fun b => b.size).sum = (((files.map fun b => b.content.length).sum : ℕ) : ℤ) := by
  induction files with
  | nil => rfl
  | cons b rest ih =>
    rw [List.map_cons, List.sum_cons, List.map_cons, List.sum_cons, ih,
      (BlobFields.post_init_ok.mp b.checked).2.2.2.1]
    exact (Int.natCast_add _ _).symm

/-- What checked contents are. -/
theorem ContentsFields.post_init_ok {c : ContentsFields} :
    c.post_init = .ok () ↔ (∀ o ∈ c.verified_commit_object, o = (c.claim.commit_oid, c.claim.tree_oid)) ∧
      (∀ b ∈ c.files, b.evidence_origin = c.claim.evidence_origin) ∧
      c.files.length ≤ MAX_SNAPSHOT_FILES ∧ c.paths.Pairwise (· ≤ ·) ∧ c.paths.Nodup ∧
      (∀ selected ∈ c.claim.selected_paths, c.paths = selected) ∧
      (c.files.map fun b => b.content.length).sum ≤ MAX_SNAPSHOT_TOTAL_BYTES ∧
      _snapshot_content_digest (c.files.map GitHubBlobClaim.file) = .ok c.claim.content_digest ∧
      assert_no_credential_pattern_content (c.files.map fun b => (b.path, b.content)) = .ok () := by
  -- the code compares the paths with their sorted list
  have hsort : c.paths.insertionSort (· ≤ ·) = c.paths ↔ c.paths.Pairwise (· ≤ ·) := by
    constructor
    · intro h
      rw [← h]
      exact List.pairwise_insertionSort _ _
    · exact List.Pairwise.insertionSort_eq
  have hcontent : c.check_content = .ok () ↔
      _snapshot_content_digest (c.files.map GitHubBlobClaim.file) = .ok c.claim.content_digest ∧
        assert_no_credential_pattern_content (c.files.map fun b => (b.path, b.content)) = .ok () := by
    rw [check_content, bind_ok]
    simp only [guard_ok, not_not]
    constructor
    · rintro ⟨actual, hdigest, rfl, hscan⟩
      refine ⟨hdigest, ?_⟩
      cases hclean : assert_no_credential_pattern_content (c.files.map fun b => (b.path, b.content)) with
      | ok u => rfl
      | error e => simp [hclean] at hscan
    · rintro ⟨hdigest, hscan⟩
      exact ⟨_, hdigest, rfl, by rw [hscan]⟩
  have htotal : ¬ (MAX_SNAPSHOT_TOTAL_BYTES : ℤ) < (c.files.map fun b => b.size).sum ↔
      (c.files.map fun b => b.content.length).sum ≤ MAX_SNAPSHOT_TOTAL_BYTES := by
    rw [sum_sizes]
    omega
  simp only [post_init, guard_ok, hcontent, htotal, not_or, not_not, not_lt, hsort, Option.any_eq_true,
    List.any_eq_true, decide_eq_true_eq, not_exists, not_and, ne_eq, and_assoc, Option.mem_def]

/-- `GitHubSnapshotContents`. -/
structure GitHubSnapshotContents : Type extends ContentsFields where
  checked : toContentsFields.post_init = .ok ()

/-- The files of contents. -/
def GitHubSnapshotContents.tree_files (c : GitHubSnapshotContents) : List TreeFile :=
  c.files.map GitHubBlobClaim.file

end AppContracts.GitHubSnapshot
