/-
Git trees as GitHub lists them: `parse_github_tree` of `github_snapshot.py`, and
`_git_tree_oid` of `github_archive_snapshot.py`.

A recursive listing names every file and directory of a commit by its path. The
parser accepts it when every tree object, rebuilt from the listed children, has
the listed object ID. The archive reader builds the same objects from files
alone. Both serialize a directory in the same lines, which are one function here.
-/
import AppContracts.Paths
import AppContracts.Digests
import AppContracts.Lib.Sha1

set_option autoImplicit false

namespace AppContracts.GitHubSnapshot

/-- `GitHubSnapshotError("github snapshot: " + message)`. -/
def snapshot_error (message : String) : Exn := ⟨.GitHubSnapshotError, "github snapshot: " ++ message⟩

/-- `GitHubArchiveSnapshotError("github archive: " + message)`. -/
def archive_error (message : String) : Exn :=
  ⟨.GitHubArchiveSnapshotError, "github archive: " ++ message⟩

/-! ## Limits and field checks -/

/-- `MAX_SNAPSHOT_FILES`. -/
def MAX_SNAPSHOT_FILES : ℕ := 10000

/-- `MAX_SNAPSHOT_PATH_BYTES`. -/
def MAX_SNAPSHOT_PATH_BYTES : ℕ := 240

/-- `_BLOB_MODES`. -/
def BLOB_MODES : List String := ["100644", "100755"]

/-- `_TREE_MODE`. -/
def TREE_MODE : String := "040000"

/-- A digit of a Git object ID. -/
def is_oid_digit (c : Char) : Bool := c.isDigit || ('a' ≤ c && c ≤ 'f')

/-- Hexadecimal digits are printed in lower case. -/
theorem is_oid_digit_nibble (n : ℕ) : is_oid_digit (n % 16).digitChar = true := by
  have hlt : n % 16 < 16 := Nat.mod_lt _ (by decide)
  generalize n % 16 = k at hlt
  decide +revert

/-- `_OID_PATTERN.fullmatch(value)`. -/
def is_oid (value : String) : Bool := value.toList.length == 40 && value.toList.all is_oid_digit

theorem is_oid_iff {oid : String} :
    is_oid oid = true ↔ oid.toList.length = 40 ∧ oid.toList.all is_oid_digit = true := by
  simp [is_oid]

/-- A hexadecimal digest is an object ID. -/
theorem is_oid_hexdigest (message : List ℕ) : is_oid (Sha1.hexdigest message) = true := by
  rw [is_oid_iff, Sha1.hexdigest, String.toList_ofList]
  constructor
  · simp [Sha1.hex]
  · simp only [List.all_flatMap, List.all_eq_true, Sha1.hex, List.all_map, Function.comp_apply]
    exact fun w _ n _ => is_oid_digit_nibble _

/-- `_OWNER_PATTERN.fullmatch(value)`. -/
def is_owner (value : String) : Bool :=
  let cs := value.toList
  let alphanumeric (c : Char) : Bool := c.isAlpha || c.isDigit
  cs.length ≤ 39 && cs.all (fun c => alphanumeric c || c == '-') &&
    cs.head?.any alphanumeric && cs.getLast?.any alphanumeric

/-- What `_validate_repository` accepts. -/
def is_repository (value : String) : Bool :=
  let cs := value.toList
  value != "." && value != ".." && 1 ≤ cs.length && cs.length ≤ 100 &&
    cs.all fun c => c.isAlpha || c.isDigit || c == '_' || c == '.' || c == '-'

/-- `_is_safe_tree_path(value)`, for text. -/
def safe_tree_path (value : String) : Bool :=
  value != "" && value == strip value && !"/".toList.isPrefixOf value.toList &&
    !value.toList.contains '\\' && !decide (['/', '/'] <:+: value.toList) &&
    !value.toList.any is_control && (split_path value).all plain_part &&
    (utf8_bytes value).length ≤ MAX_SNAPSHOT_PATH_BYTES

/-- `_is_safe_tree_path(value)`: a string with a lone surrogate has no UTF-8
bytes. -/
def _is_safe_tree_path : Json → Option String
  | .str (.text value) => if safe_tree_path value then some value else none
  | _ => none

/-! ## Serialized tree objects -/

/-- A digit of `bytes.fromhex`. -/
def hex_value (c : Char) : Option ℕ :=
  if c.isDigit then some (c.toNat - 48)
  else if 'a' ≤ c ∧ c ≤ 'f' then some (c.toNat - 87)
  else if 'A' ≤ c ∧ c ≤ 'F' then some (c.toNat - 55)
  else none

/-- ASCII whitespace. -/
def is_ascii_space (c : Char) : Bool := c.toNat == 32 || (9 ≤ c.toNat && c.toNat ≤ 13)

/-- The loop of `bytes.fromhex`: ASCII whitespace may stand between bytes. -/
def fromhex_chars : List Char → Except Exn (List ℕ)
  | [] => .ok []
  | [c] => if is_ascii_space c then .ok [] else .error ⟨.ValueError, "non-hexadecimal number"⟩
  | c :: d :: rest =>
    if is_ascii_space c then fromhex_chars (d :: rest)
    else match hex_value c, hex_value d with
      | some a, some b => do
        let bytes ← fromhex_chars rest
        return (16 * a + b) :: bytes
      | _, _ => .error ⟨.ValueError, "non-hexadecimal number"⟩

/-- `bytes.fromhex(value)`. -/
def fromhex (value : String) : Except Exn (List ℕ) := fromhex_chars value.toList

/-- A child of a directory: the name it is sorted by, and its serialized entry. -/
abbrev ChildBytes : Type := List ℕ × List ℕ

/-- `mode.encode("ascii") + b" " + name_bytes + b"\0" + bytes.fromhex(oid)`. -/
def object_entry (mode name : String) (raw : List ℕ) : List ℕ :=
  utf8_bytes mode ++ 0x20 :: utf8_bytes name ++ 0x00 :: raw

/-- The name a child is sorted by: a directory's ends in a slash. -/
def sort_name (is_tree : Bool) (name : String) : List ℕ :=
  utf8_bytes name ++ if is_tree then [0x2f] else []

/-- The bytes of a tree object: the header, then the entries in order. -/
def tree_object (children : List ChildBytes) : List ℕ :=
  let payload := (children.insertionSort fun a b => a.1 ≤ b.1).flatMap Prod.snd
  utf8_bytes "tree " ++ utf8_bytes (String.ofList (Json.digits payload.length)) ++ 0x00 :: payload

/-- The object ID of a tree. -/
def tree_oid (children : List ChildBytes) : String := Sha1.hexdigest (tree_object children)

/-! ## The listing of a commit -/

/-- `GitHubTreeEntry`. -/
structure GitHubTreeEntry : Type where
  path : String
  mode : String
  entry_type : String
  sha : String
  size : Option ℤ
  deriving DecidableEq

/-- What `GitHubCommitClaim` checks of itself. -/
structure GitHubCommitClaim : Type where
  owner : String
  repository : String
  commit_oid : String
  tree_oid : String
  valid : (is_owner owner && is_repository repository && is_oid commit_oid && is_oid tree_oid) = true

/-- `GitHubTreeClaim`. -/
structure GitHubTreeClaim : Type where
  owner : String
  repository : String
  tree_oid : String
  entries : List GitHubTreeEntry
  deriving DecidableEq

/-- `raw_entry.get(key)`, a string. -/
def text_field (raw : Json) (key : String) : Except Exn String :=
  match raw.get? key with
  | some (.str (.text s)) => .ok s
  | _ => .error (snapshot_error "tree entry is invalid")

/-- The checked path of a raw entry. -/
def path_field (raw : Json) : Except Exn String :=
  match (raw.get? "path").bind _is_safe_tree_path with
  | some path => .ok path
  | none => .error (snapshot_error "tree entry is invalid")

/-- `_parse_tree_entry(raw_entry, seen_paths)`. -/
def _parse_tree_entry (raw_entry : Json) (seen_paths : List String) : Except Exn GitHubTreeEntry := do
  let invalid := snapshot_error "tree entry is invalid"
  let path ← path_field raw_entry
  let normalized := normpath path
  if normalized ∈ seen_paths then .error invalid
  else
    let mode ← text_field raw_entry "mode"
    let entry_type ← text_field raw_entry "type"
    if ¬ (mode ∈ BLOB_MODES ∧ entry_type = "blob" ∨ mode = TREE_MODE ∧ entry_type = "tree") then
      .error invalid
    else
      let sha ← text_field raw_entry "sha"
      if is_oid sha = false then .error invalid
      else
        match raw_entry.get? "size" with
        | none => .ok ⟨normalized, mode, entry_type, sha, none⟩
        | some (.int size) =>
          if size < 0 then .error invalid else .ok ⟨normalized, mode, entry_type, sha, some size⟩
        | some _ => .error invalid

/-- The loop over the raw entries. -/
def parse_entries : List Json → List String → Except Exn (List GitHubTreeEntry)
  | [], _ => .ok []
  | raw_entry :: rest, seen_paths => do
    let entry ← _parse_tree_entry raw_entry seen_paths
    let entries ← parse_entries rest (entry.path :: seen_paths)
    return entry :: entries

/-- `by_path.get(path)`: the last entry of a path. -/
def by_path (entries : List GitHubTreeEntry) (path : String) : Option GitHubTreeEntry :=
  entries.reverse.find? fun entry => entry.path = path

/-- The directories above a path: its proper prefixes. -/
def ancestors (path : String) : List String :=
  let parts := split_path path
  (List.range (parts.length - 1)).map fun i => join_path (parts.take (i + 1))

/-- `required_directories`. -/
def required_directories (entries : List GitHubTreeEntry) : List String :=
  (entries.flatMap fun entry => ancestors entry.path).dedup

/-- `declared_directories`. -/
def declared_directories (entries : List GitHubTreeEntry) : List String :=
  (entries.map GitHubTreeEntry.path).filter fun path =>
    (by_path entries path).any fun entry => entry.entry_type = "tree"

/-- The body of the loop over the children of a directory. -/
def child_bytes (computed : List (String × String)) (entry : GitHubTreeEntry) :
    Except Exn ChildBytes := do
  let name := base_name entry.path
  let is_tree : Bool := entry.entry_type = "tree"
  let object_oid ← if is_tree then
      match computed.lookup entry.path with
      | some oid => .ok oid
      | none => .error ⟨.KeyError, entry.path⟩
    else .ok entry.sha
  let raw ← fromhex object_oid
  return (sort_name is_tree name, object_entry (if is_tree then "40000" else entry.mode) name raw)

/-- The children of a directory, in the order of the listing. -/
def children_bytes (computed : List (String × String)) :
    List GitHubTreeEntry → Except Exn (List ChildBytes)
  | [] => .ok []
  | entry :: rest => do
    let child ← child_bytes computed entry
    let children ← children_bytes computed rest
    return child :: children

/-- `children_by_directory.get(directory, ())`. -/
def children_of (entries : List GitHubTreeEntry) (directory : String) : List GitHubTreeEntry :=
  entries.filter fun entry => parent_path entry.path = directory

/-- The body of the loop over the directories; the root is the empty path. -/
def verify_directory (root_oid : String) (entries : List GitHubTreeEntry)
    (computed : List (String × String)) (directory : String) :
    Except Exn (List (String × String)) := do
  let children ← children_bytes computed (children_of entries directory)
  if children.isEmpty ∧ directory ≠ "" then .error (snapshot_error "tree structure mismatch")
  else if directory ≠ "" then
    match by_path entries directory with
    | none => .error ⟨.KeyError, directory⟩
    | some entry =>
      if tree_oid children ≠ entry.sha then .error (snapshot_error "subtree OID mismatch")
      else .ok ((directory, tree_oid children) :: computed)
  else if tree_oid children ≠ root_oid then .error (snapshot_error "tree OID mismatch")
  else .ok computed

/-- The loop over the directories. -/
def verify_directories (root_oid : String) (entries : List GitHubTreeEntry) :
    List String → List (String × String) → Except Exn Unit
  | [], _ => .ok ()
  | directory :: rest, computed => do
    let computed ← verify_directory root_oid entries computed directory
    verify_directories root_oid entries rest computed

/-- `_verify_git_tree_entries(root_oid, entries)`. A set lists its members in no
particular order; here it is the order they were added in. -/
def _verify_git_tree_entries (root_oid : String) (entries : List GitHubTreeEntry) :
    Except Exn Unit :=
  let required := required_directories entries
  let declared := declared_directories entries
  if declared.all required.contains && required.all declared.contains then
    -- The deepest directories come first, the root last.
    let directories := required.insertionSort fun a b => slashes b ≤ slashes a
    verify_directories root_oid entries (directories ++ [""]) []
  else .error (snapshot_error "tree structure mismatch")

/-- The checked object ID of a response. -/
def response_sha (response : Json) : Except Exn String :=
  match response.get? "sha" with
  | some (.str (.text sha)) =>
    if is_oid sha then .ok sha else .error (snapshot_error "tree response is invalid")
  | _ => .error (snapshot_error "tree response is invalid")

/-- The raw entries of a response. -/
def response_entries (response : Json) : Except Exn (List Json) :=
  match response.get? "tree" with
  | some (.arr items) =>
    if MAX_SNAPSHOT_FILES < items.length then .error (snapshot_error "tree response is invalid")
    else .ok items
  | _ => .error (snapshot_error "tree response is invalid")

/-- `parse_github_tree(claim, response)`. -/
def parse_github_tree (claim : GitHubCommitClaim) (response : Json) : Except Exn GitHubTreeClaim := do
  let sha ← response_sha response
  if sha ≠ claim.tree_oid then .error (snapshot_error "tree OID mismatch")
  else
    let raw_entries ← response_entries response
    match response.get? "truncated" with
    | some (.bool false) => do
      let entries ← parse_entries raw_entries []
      _verify_git_tree_entries claim.tree_oid entries
      return ⟨claim.owner, claim.repository, claim.tree_oid, entries⟩
    | _ => .error (snapshot_error "tree response is incomplete")

/-! ## The tree of an archive -/

/-- A node of the nested dicts: a file's mode and object ID, or a directory's
entries in insertion order. -/
inductive Node : Type
  | blob (mode oid : String)
  | tree (entries : List (String × Node))

/-- The dict of a directory. -/
abbrev Directory : Type := List (String × Node)

/-- `d[name] = node` for a name the dict has, or a new one. -/
def set_node (name : String) (node : Node) : Directory → Directory
  | [] => [(name, node)]
  | (name', node') :: rest =>
    if name' = name then (name, node) :: rest else (name', node') :: set_node name node rest

/-- The walk of a path into the dicts, creating directories, and the assignment
at its end. -/
def put_file : List String → String → String → Directory → Except Exn Directory
  | [], _, _, current => .ok current
  | [name], mode, oid, current =>
    if (current.lookup name).isSome then .error (archive_error "duplicate tree path")
    else .ok (set_node name (.blob mode oid) current)
  | part :: rest, mode, oid, current =>
    match current.lookup part with
    | none => do
      let directory ← put_file rest mode oid []
      return set_node part (.tree directory) current
    | some (.tree existing) => do
      let directory ← put_file rest mode oid existing
      return set_node part (.tree directory) current
    | some (.blob _ _) => .error (archive_error "tree path conflict")

/-- The first loop of `_git_tree_oid`. -/
def build_tree : List (String × String × String) → Directory → Except Exn Directory
  | [], root => .ok root
  | (path, mode, oid) :: rest, root => do
    let root ← put_file (split_path path) mode oid root
    build_tree rest root

mutual

/-- A child of `hash_tree`, and its object ID. -/
def node_bytes : String → Node → Except Exn ChildBytes
  | name, .blob mode oid => do
    let raw ← fromhex oid
    return (sort_name false name, object_entry mode name raw)
  | name, .tree entries => do
    let children ← hash_children entries
    let raw ← fromhex (tree_oid children)
    return (sort_name true name, object_entry "40000" name raw)

/-- The loop of `hash_tree` over a dict. -/
def hash_children : Directory → Except Exn (List ChildBytes)
  | [] => .ok []
  | (name, node) :: rest => do
    let child ← node_bytes name node
    let children ← hash_children rest
    return child :: children

end

/-- `hash_tree(node)`. -/
def hash_tree (directory : Directory) : Except Exn String := do
  let children ← hash_children directory
  return tree_oid children

/-- `_git_tree_oid(files)`. -/
def _git_tree_oid (files : List (String × String × String)) : Except Exn String := do
  let root ← build_tree files []
  hash_tree root

end AppContracts.GitHubSnapshot
