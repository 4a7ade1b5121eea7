/-
Workspaces of a simulation: `materialize_simulation_workspace`, and the check of a
workspace at the start of `apply_simulation_step`, of `simulation_branch.py`.

The two were written apart. They agree on paths, sizes and contents, in whatever
order a manifest lists its files; they do not agree on the checkpoint's ID, of which
the first asks no more than the checkpoint schema does.
-/
import AppContracts.Lib.JsonCodec
import AppContracts.SimulationBranch
import AppContracts.SnapshotContents
import AppContracts.WireSize

set_option autoImplicit false

namespace AppContracts.SimulationBranch

open Validator ObservationStore SecretScan
open GitHubSnapshot (MAX_SNAPSHOT_FILES)

/-- `_WORKSPACE_MANIFEST_BYTES`. -/
def _WORKSPACE_MANIFEST_BYTES : ℕ := 262144

/-- `_WORKSPACE_FILE_BYTES`. -/
def _WORKSPACE_FILE_BYTES : ℕ := 98304

/-- `_WORKSPACE_TOTAL_BYTES`. -/
def _WORKSPACE_TOTAL_BYTES : ℕ := 131072

/-- `_WORKSPACE_FILE_COUNT`. -/
def _WORKSPACE_FILE_COUNT : ℕ := 64

/-! ## Paths -/

/-- `text.casefold()`, for ASCII text. -/
def casefold (text : String) : String := String.ofList (text.toList.map Char.toLower)

/-- `_WORKSPACE_PATH_PART.fullmatch(part)`. -/
def path_part (part : String) : Bool :=
  match part.toList with
  | [] => false
  | c :: rest => c.isAlphanum && decide (rest.length ≤ 127) &&
      rest.all fun d => d.isAlphanum || d == '.' || d == '_' || d == '-'

/-- The words of `_SENSITIVE_PATH_COMPONENT`. -/
def sensitive_word : Regex :=
  choice (sequence [any_case "credential", optional (one_of "sS")])
    [sequence [any_case "secret", optional (one_of "sS")],
      sequence [any_case "token", optional (one_of "sS")],
      sequence [any_case "private", optional (one_of "-_"), any_case "key"]]

/-- `[._-]`. -/
def separator : Regex := once (one_of "._-")

/-- `_SENSITIVE_PATH_COMPONENT`: a word between the ends of a part, or separators. -/
def _SENSITIVE_PATH_COMPONENT : List Pattern :=
  [⟨sensitive_word, true, true⟩, ⟨.seq sensitive_word separator, true, false⟩,
    ⟨.seq separator sensitive_word, false, true⟩,
    ⟨.seq separator (.seq sensitive_word separator), false, false⟩]

/-- `_SENSITIVE_PATH_COMPONENT.search(part)`. -/
def sensitive_component (part : String) : Bool :=
  _SENSITIVE_PATH_COMPONENT.any fun p => p.search (Regex.text_codes part)

/-- `_SENSITIVE_FILENAMES`. -/
def _SENSITIVE_FILENAMES : List String :=
  ["authorized_keys", "credentials", "id_ed25519", "id_rsa", "known_hosts", "secrets", "tokens"]

/-- `_WINDOWS_RESERVED_BASENAMES`. -/
def _WINDOWS_RESERVED_BASENAMES : List String :=
  ["con", "prn", "aux", "nul", "com1", "com2", "com3", "com4", "com5", "com6", "com7", "com8", "com9",
    "lpt1", "lpt2", "lpt3", "lpt4", "lpt5", "lpt6", "lpt7", "lpt8", "lpt9"]

/-- `part.split(".", 1)[0].casefold() in _WINDOWS_RESERVED_BASENAMES`. -/
def reserved_part (part : String) : Bool :=
  _WINDOWS_RESERVED_BASENAMES.contains
    (casefold (String.ofList (part.toList.takeWhile fun c => c != '.')))

/-- `_workspace_path_is_safe(path)`, for text. -/
def _workspace_path_is_safe (path : String) : Bool :=
  decide (path.length ≤ 1024) &&
    (split_path path).all fun part =>
      path_part part && part.toList.getLast? != some '.' && !sensitive_component part &&
        !_SENSITIVE_FILENAMES.contains (casefold part) && !reserved_part part

/-- The refusal of a path in the loop over a manifest. -/
def path_refused (path : String) : Bool :=
  decide (1024 < path.length) ||
    (split_path path).any fun part =>
      !path_part part || part.toList.getLast? == some '.' || sensitive_component part ||
        _SENSITIVE_FILENAMES.contains (casefold part) || reserved_part part

/-- **The two rules for paths are one.** -/
theorem path_refused_eq (path : String) : path_refused path = !_workspace_path_is_safe path := by
  have hlength : decide (1024 < path.length) = !decide (path.length ≤ 1024) := by
    rw [← decide_not]
    exact decide_eq_decide.mpr Nat.not_le.symm
  rw [path_refused, _workspace_path_is_safe, Bool.not_and, List.not_all_eq_any_not, hlength]
  simp only [Bool.not_and, Bool.not_not, bne, Bool.or_assoc]

/-! ## Workspaces -/

/-- `MaterializedSimulationWorkspace`. -/
structure Workspace : Type where
  checkpoint_id : Json
  manifest_ref : String
  manifest_digest : String
  files : List (String × Bytes)

/-- `_WORKSPACE_MANIFEST_REF.fullmatch(ref).group(1)`. -/
def manifest_match (ref : String) : Option String :=
  let digits := ref.toList.drop "artifact://sha256/".length
  if "artifact://sha256/".toList.isPrefixOf ref.toList && digits.length == 64 &&
      digits.all GitHubSnapshot.is_oid_digit then some (String.ofList digits)
  else none

/-- `re.fullmatch(r"checkpoint-[a-z0-9-]{8,64}", checkpoint_id)`, of a `str`. -/
def checkpoint_id_ok : Json → Bool
  | .str (.text value) => is_identifier "checkpoint" value
  | _ => false

/-- `sorted(files, key=lambda item: item[0])`. -/
def sorted_files (files : List (String × Bytes)) : List (String × Bytes) :=
  files.insertionSort fun a b => a.1 ≤ b.1

/-- `SimulationBranchError("simulation step workspace is invalid")`. -/
def workspace_error : Exn := branch_error "simulation step workspace is invalid"

/-- The loop over the files of a workspace. -/
def check_files : List (String × Bytes) → List String → ℕ → Except Exn Unit
  | [], _, _ => .ok ()
  | (path, content) :: rest, seen_paths, total_source_bytes => do
    raise_if (_workspace_path_is_safe path = false ∨ _WORKSPACE_FILE_BYTES < content.length ∨
      casefold path ∈ seen_paths) workspace_error
    raise_if (_WORKSPACE_TOTAL_BYTES < total_source_bytes + content.length) workspace_error
    check_files rest (casefold path :: seen_paths) (total_source_bytes + content.length)

/-- `except Exception: raise error from None`. -/
def or_error {α : Type} (error : Exn) : Except Exn α → Except Exn α
  | .ok a => .ok a
  | .error _ => .error error

/-- The check of the workspace by `apply_simulation_step`. -/
def check_workspace : Arg Workspace → Except Exn Workspace
  | .other => .error workspace_error
  | .of workspace => do
    raise_if (checkpoint_id_ok workspace.checkpoint_id = false ∨
      manifest_match workspace.manifest_ref = none ∨
      GitHubSnapshot.is_digest workspace.manifest_digest = false ∨
      (manifest_match workspace.manifest_ref).map ("sha256:" ++ ·) ≠ some workspace.manifest_digest ∨
      workspace.files.length < 1 ∨ _WORKSPACE_FILE_COUNT < workspace.files.length) workspace_error
    check_files workspace.files [] 0
    raise_if (sorted_files workspace.files ≠ workspace.files) workspace_error
    or_error workspace_error (assert_no_credential_pattern_content workspace.files)
    return workspace

/-! ## Materializing -/

/-- `SQLiteObserverArtifactStore`: whether it is open for reading only, and what
`read_json` answers. -/
structure ArtifactStore : Type where
  read_only : Bool
  read_json : String → Except Exn Bytes

/-- `ValueError()`. -/
def value_error : Exn := ⟨.ValueError, ""⟩

/-- A string without a lone surrogate; those with one are refused by every pattern here. -/
def text_item (record : Json) (key : String) : Except Exn String :=
  or_raise value_error ((record.get? key).bind Json.text?)

/-- One turn of the loop over a manifest. -/
def restore_record (seen_paths : List String) (total_bytes : ℕ) (record : Json) :
    Except Exn (String × Bytes) := do
  raise_if (record.has_keys ["path", "content_base64", "content_digest"] = false) value_error
  let path ← text_item record "path"
  raise_if (path_refused path = true ∨ casefold path ∈ seen_paths) value_error
  let encoded ← text_item record "content_base64"
  raise_if ((encoded.toList.all fun c => decide (c.toNat < 128)) = false) value_error
  let content_digest ← text_item record "content_digest"
  raise_if (GitHubSnapshot.is_digest content_digest = false) value_error
  let content ← or_raise value_error (b64decode encoded)
  raise_if (b64encode content ≠ encoded ∨ _WORKSPACE_FILE_BYTES < content.length ∨
    sha256_bytes (octets content) ≠ content_digest) value_error
  raise_if (_WORKSPACE_TOTAL_BYTES < total_bytes + content.length) value_error
  assert_no_credential_pattern_content [(path, content)]
  return (path, content)

/-- The loop over a manifest. -/
def restore_records : List Json → List String → ℕ → Except Exn (List (String × Bytes))
  | [], _, _ => .ok []
  | record :: rest, seen_paths, total_bytes => do
    let file ← restore_record seen_paths total_bytes record
    let files ← restore_records rest (casefold file.1 :: seen_paths) (total_bytes + file.2.length)
    return file :: files

/-- The records of a manifest. -/
def manifest_records (manifest_bytes : Bytes) : Except Exn (List Json) := do
  let text ← or_raise value_error (decode_utf8 manifest_bytes)
  let manifest ← or_raise value_error (Json.loads text)
  raise_if (manifest.has_keys ["schema", "files"] = false) value_error
  let schema ← item manifest "schema"
  raise_if (py_eq schema (.str (.text "workspace-manifest/v1")) = false) value_error
  let canonical ← canonical_json manifest
  raise_if (canonical ≠ octets manifest_bytes) value_error
  match manifest.get? "files" with
  | some (.arr records) => do
    raise_if (records.length < 1 ∨ _WORKSPACE_FILE_COUNT < records.length) value_error
    return records
  | _ => .error value_error

/-- `type(value) is dict`. -/
def type_is_dict : Json → Bool
  | .obj _ => true
  | _ => false

/-- The checks of the checkpoint: its reference to a manifest, with the digest in it. -/
def checkpoint_manifest (checkpoint : Json) : Except Exn (String × String) := do
  validate checkpoint CHECKPOINT_SCHEMA
  raise_if (type_is_dict checkpoint = false) value_error
  let restore_mode ← item checkpoint "restore_mode"
  let completeness ← item checkpoint "completeness"
  let in_flight ← get checkpoint "in_flight_invocation_ids"
  let pending ← get checkpoint "pending_action_ref"
  let effects ← get checkpoint "external_effect_refs"
  raise_if (py_eq restore_mode (.str (.text "simulation")) = false ∨
    py_eq completeness (.str (.text "complete")) = false ∨ truthy in_flight = true ∨
    truthy pending = true ∨ truthy effects = true) value_error
  let manifest_ref ← text_item checkpoint "workspace_manifest_ref"
  let digits ← or_raise value_error (manifest_match manifest_ref)
  return (manifest_ref, digits)

/-- The body of the `try`. -/
def materialize (checkpoint : Json) (artifact_store : Arg ArtifactStore) : Except Exn Workspace := do
  let (manifest_ref, digits) ← checkpoint_manifest checkpoint
  match artifact_store with
  | .other => .error value_error
  | .of store => do
    raise_if (store.read_only = false) value_error
    let manifest_bytes ← store.read_json manifest_ref
    raise_if (manifest_bytes = [] ∨ _WORKSPACE_MANIFEST_BYTES < manifest_bytes.length ∨
      sha256_bytes (octets manifest_bytes) ≠ "sha256:" ++ digits) value_error
    let records ← manifest_records manifest_bytes
    let restored_files ← restore_records records [] 0
    let checkpoint_id ← item checkpoint "checkpoint_id"
    return ⟨checkpoint_id, manifest_ref, sha256_bytes (octets manifest_bytes),
      sorted_files restored_files⟩

/-- `materialize_simulation_workspace(checkpoint, artifact_store)`. -/
def materialize_simulation_workspace (checkpoint : PyValue) (artifact_store : Arg ArtifactStore) :
    Except Exn Workspace :=
  or_error (branch_error "simulation branch workspace is unavailable")
    (materialize checkpoint.val artifact_store)

/-! ## What the two agree on -/

/-- The bytes of some files. -/
abbrev total_bytes (files : List (String × Bytes)) : ℕ := scanned_bytes files

/-- Files that a workspace may have, in any order. -/
structure FilesOk (files : List (String × Bytes)) : Prop where
  safe : ∀ f ∈ files, _workspace_path_is_safe f.1 = true
  small : ∀ f ∈ files, f.2.length ≤ _WORKSPACE_FILE_BYTES
  apart : (files.map fun f => casefold f.1).Nodup
  bytes : total_bytes files ≤ _WORKSPACE_TOTAL_BYTES

/-- Files with no credential in them, each by itself. -/
def Clean (files : List (String × Bytes)) : Prop :=
  ∀ f ∈ files, assert_no_credential_pattern_content [f] = .ok ()

variable {files : List (String × Bytes)} {seen : List String} {total : ℕ}

theorem total_bytes_cons (f : String × Bytes) (files : List (String × Bytes)) :
    total_bytes (f :: files) = f.2.length + total_bytes files := List.sum_cons

/-- **The loop over a workspace** accepts what it may have. -/
theorem check_files_ok (htotal : total ≤ _WORKSPACE_TOTAL_BYTES) :
    check_files files seen total = .ok () ↔ (∀ f ∈ files, _workspace_path_is_safe f.1 = true) ∧
      (∀ f ∈ files, f.2.length ≤ _WORKSPACE_FILE_BYTES) ∧
      (files.map fun f => casefold f.1).Nodup ∧ (∀ f ∈ files, casefold f.1 ∉ seen) ∧
      total + total_bytes files ≤ _WORKSPACE_TOTAL_BYTES := by
  -- on the files, with the folded paths seen and the bytes counted so far
  induction files generalizing seen total with
  | nil => simpa [check_files, total_bytes, scanned_bytes] using htotal
  | cons f rest ih =>
    obtain ⟨path, content⟩ := f
    rw [check_files, raise_if_bind, raise_if_bind, total_bytes_cons, List.map_cons, List.nodup_cons]
    simp only [List.forall_mem_cons, not_or, Bool.not_eq_false, Nat.not_lt, List.mem_map, not_exists,
      not_and]
    constructor
    · rintro ⟨⟨hsafe, hsmall, hnew⟩, hle, hrest⟩
      obtain ⟨hall, hsizes, hnodup, hunseen, hbytes⟩ := (ih hle).mp hrest
      refine ⟨⟨hsafe, hall⟩, ⟨hsmall, hsizes⟩, ⟨fun f hf heq => ?_, hnodup⟩, ⟨hnew, fun f hf => ?_⟩,
        by omega⟩
      · exact hunseen f hf (heq ▸ List.mem_cons_self)
      · exact fun hmem => hunseen f hf (List.mem_cons_of_mem _ hmem)
    · rintro ⟨⟨hsafe, hall⟩, ⟨hsmall, hsizes⟩, ⟨hfirst, hnodup⟩, ⟨hnew, hunseen⟩, hbytes⟩
      have hle : total + content.length ≤ _WORKSPACE_TOTAL_BYTES := by omega
      refine ⟨⟨hsafe, hsmall, hnew⟩, hle, (ih hle).mpr ⟨hall, hsizes, hnodup, fun f hf hmem => ?_,
        by omega⟩⟩
      rcases List.mem_cons.mp hmem with heq | hmem
      · exact hfirst f hf heq
      · exact hunseen f hf hmem

theorem check_files_iff : check_files files [] 0 = .ok () ↔ FilesOk files := by
  rw [check_files_ok (Nat.zero_le _), Nat.zero_add]
  constructor
  · rintro ⟨hsafe, hsmall, hapart, -, hbytes⟩
    exact ⟨hsafe, hsmall, hapart, hbytes⟩
  · rintro ⟨hsafe, hsmall, hapart, hbytes⟩
    exact ⟨hsafe, hsmall, hapart, fun _ _ => List.not_mem_nil, hbytes⟩

/-- What a turn over a manifest has checked. -/
theorem restore_record_ok {record : Json} {f : String × Bytes}
    (h : restore_record seen total record = .ok f) :
    _workspace_path_is_safe f.1 = true ∧ f.2.length ≤ _WORKSPACE_FILE_BYTES ∧ casefold f.1 ∉ seen ∧
      total + f.2.length ≤ _WORKSPACE_TOTAL_BYTES ∧
      assert_no_credential_pattern_content [f] = .ok () := by
  obtain ⟨-, h⟩ := raise_if_bind.mp h
  obtain ⟨path, -, h⟩ := bind_ok.mp h
  obtain ⟨hpath, h⟩ := raise_if_bind.mp h
  obtain ⟨encoded, -, h⟩ := bind_ok.mp h
  obtain ⟨-, h⟩ := raise_if_bind.mp h
  obtain ⟨content_digest, -, h⟩ := bind_ok.mp h
  obtain ⟨-, h⟩ := raise_if_bind.mp h
  obtain ⟨content, -, h⟩ := bind_ok.mp h
  obtain ⟨hcontent, h⟩ := raise_if_bind.mp h
  obtain ⟨htotal, h⟩ := raise_if_bind.mp h
  obtain ⟨u, hclean, h⟩ := bind_ok.mp h
  obtain rfl := Except.ok.inj h
  rw [not_or, path_refused_eq, Bool.not_eq_true, Bool.not_eq_false'] at hpath
  rw [not_or, not_or, Nat.not_lt] at hcontent
  exact ⟨hpath.1, hcontent.2.1, hpath.2, Nat.not_lt.mp htotal, hclean⟩

/-- **The loop over a manifest** restores files that a workspace may have. -/
theorem restore_records_ok {records : List Json} (htotal : total ≤ _WORKSPACE_TOTAL_BYTES)
    (h : restore_records records seen total = .ok files) :
    check_files files seen total = .ok () ∧ Clean files ∧ files.length = records.length := by
  induction records generalizing seen total files with
  | nil =>
    obtain rfl := Except.ok.inj h
    exact ⟨rfl, List.forall_mem_nil _, rfl⟩
  | cons record rest ih =>
    obtain ⟨f, hf, h⟩ := bind_ok.mp h
    obtain ⟨files, hrest, h⟩ := bind_ok.mp h
    obtain rfl := Except.ok.inj h
    obtain ⟨hsafe, hsmall, hnew, hle, hclean⟩ := restore_record_ok hf
    obtain ⟨hcheck, hall, hlength⟩ := ih hle hrest
    refine ⟨?_, List.forall_mem_cons.mpr ⟨hclean, hall⟩, by rw [List.length_cons, hlength]; rfl⟩
    rw [check_files, raise_if_bind, raise_if_bind]
    refine ⟨?_, Nat.not_lt.mpr hle, hcheck⟩
    rw [hsafe, not_or, not_or]
    exact ⟨nofun, Nat.not_lt.mpr hsmall, hnew⟩

/-! ### Order -/

theorem sorted_perm (files : List (String × Bytes)) : (sorted_files files).Perm files :=
  List.perm_insertionSort _ _

theorem sorted_pairwise (files : List (String × Bytes)) :
    (sorted_files files).Pairwise fun a b => a.1 ≤ b.1 := by
  have htotal : Std.Total fun a b : String × Bytes => a.1 ≤ b.1 :=
    ⟨fun a b => String.le_total a.1 b.1⟩
  have htrans : IsTrans (String × Bytes) fun a b => a.1 ≤ b.1 := ⟨fun _ _ _ => String.le_trans⟩
  exact List.pairwise_insertionSort _ _

/-- Sorted files stay as they are. -/
theorem sorted_sorted (files : List (String × Bytes)) :
    sorted_files (sorted_files files) = sorted_files files :=
  (sorted_pairwise files).insertionSort_eq

/-- What a workspace may have does not depend on the order. -/
theorem FilesOk.perm {files' : List (String × Bytes)} (h : FilesOk files) (hperm : files'.Perm files) :
    FilesOk files' where
  safe f hf := h.safe f (hperm.mem_iff.mp hf)
  small f hf := h.small f (hperm.mem_iff.mp hf)
  apart := (hperm.map _).nodup_iff.mpr h.apart
  bytes := by
    have hsum : total_bytes files' = total_bytes files := (hperm.map _).sum_nat
    rw [hsum]
    exact h.bytes

/-- Sorted files are in strict order of their paths. -/
theorem FilesOk.sorted_chain (h : FilesOk files) :
    ((sorted_files files).map Prod.fst).IsChain (· < ·) := by
  have hnodup : ((sorted_files files).map Prod.fst).Nodup := by
    have happart := (h.perm (sorted_perm files)).apart
    have hcomp : ((sorted_files files).map fun f => casefold f.1) =
        ((sorted_files files).map Prod.fst).map casefold := by
      rw [List.map_map]
      rfl
    rw [hcomp] at happart
    exact .of_map _ happart
  exact isChain_of_sorted (List.pairwise_map.mpr (sorted_pairwise files)) hnodup

/-- Files that are clean each by itself are clean together. -/
theorem FilesOk.sorted_clean (h : FilesOk files) (hclean : Clean files)
    (hcount : files.length ≤ _WORKSPACE_FILE_COUNT) :
    assert_no_credential_pattern_content (sorted_files files) = .ok () := by
  have hperm := sorted_perm files
  have hlength : (sorted_files files).length ≤ MAX_SNAPSHOT_FILES := by
    rw [hperm.length_eq]
    exact hcount.trans (by decide)
  have hbytes := (h.perm hperm).bytes
  refine assert_ok.mpr ⟨hlength, fun f hf => ?_, h.sorted_chain, hbytes.trans (by decide),
    fun f hf => ?_⟩
  · have hone := assert_ok.mp (hclean f (hperm.mem_iff.mp hf))
    exact hone.2.1 f (List.mem_singleton_self f)
  · have hone := assert_ok.mp (hclean f (hperm.mem_iff.mp hf))
    exact hone.2.2.2.2 f (List.mem_singleton_self f)

/-! ## Acceptance -/

/-- What a materialized workspace is made of. -/
structure Materialized (checkpoint : Json) (workspace : Workspace) : Prop where
  checkpoint_id : checkpoint.get? "checkpoint_id" = some workspace.checkpoint_id
  digest : GitHubSnapshot.is_digest workspace.manifest_digest = true
  digits : (manifest_match workspace.manifest_ref).map ("sha256:" ++ ·) = some workspace.manifest_digest
  files : ∃ restored, FilesOk restored ∧ Clean restored ∧ 1 ≤ restored.length ∧
    restored.length ≤ _WORKSPACE_FILE_COUNT ∧ workspace.files = sorted_files restored

theorem or_error_ok {α : Type} {error : Exn} {x : Except Exn α} {a : α} :
    or_error error x = .ok a ↔ x = .ok a := by
  cases x with
  | ok b => exact Iff.rfl
  | error e => exact iff_of_false nofun nofun

theorem manifest_records_ok {manifest_bytes : Bytes} {records : List Json}
    (h : manifest_records manifest_bytes = .ok records) :
    1 ≤ records.length ∧ records.length ≤ _WORKSPACE_FILE_COUNT := by
  obtain ⟨text, -, h⟩ := bind_ok.mp h
  obtain ⟨manifest, -, h⟩ := bind_ok.mp h
  obtain ⟨-, h⟩ := raise_if_bind.mp h
  obtain ⟨schema, -, h⟩ := bind_ok.mp h
  obtain ⟨-, h⟩ := raise_if_bind.mp h
  obtain ⟨canonical, -, h⟩ := bind_ok.mp h
  obtain ⟨-, h⟩ := raise_if_bind.mp h
  split at h
  · obtain ⟨hcount, h⟩ := raise_if_bind.mp h
    obtain rfl := Except.ok.inj h
    rw [not_or, Nat.not_lt, Nat.not_lt] at hcount
    exact hcount
  · exact nomatch h

theorem checkpoint_manifest_ok {checkpoint : Json} {manifest_ref digits : String}
    (h : checkpoint_manifest checkpoint = .ok (manifest_ref, digits)) :
    validate checkpoint CHECKPOINT_SCHEMA = .ok () ∧ manifest_match manifest_ref = some digits := by
  obtain ⟨u, hvalid, h⟩ := bind_ok.mp h
  obtain ⟨-, h⟩ := raise_if_bind.mp h
  obtain ⟨restore_mode, -, h⟩ := bind_ok.mp h
  obtain ⟨completeness, -, h⟩ := bind_ok.mp h
  obtain ⟨in_flight, -, h⟩ := bind_ok.mp h
  obtain ⟨pending, -, h⟩ := bind_ok.mp h
  obtain ⟨effects, -, h⟩ := bind_ok.mp h
  obtain ⟨-, h⟩ := raise_if_bind.mp h
  obtain ⟨ref, -, h⟩ := bind_ok.mp h
  obtain ⟨found, hfound, h⟩ := bind_ok.mp h
  obtain ⟨rfl, rfl⟩ := Prod.mk.inj (Except.ok.inj h)
  exact ⟨hvalid, or_raise_ok.mp hfound⟩

/-- **What is materialized.** -/
theorem materialized {checkpoint : PyValue} {store : Arg ArtifactStore} {workspace : Workspace}
    (h : materialize_simulation_workspace checkpoint store = .ok workspace) :
    Materialized checkpoint.val workspace := by
  rw [materialize_simulation_workspace, or_error_ok] at h
  obtain ⟨⟨manifest_ref, digits⟩, hcheckpoint, h⟩ := bind_ok.mp h
  cases store with
  | other => exact nomatch h
  | of store =>
    obtain ⟨-, h⟩ := raise_if_bind.mp h
    obtain ⟨manifest_bytes, -, h⟩ := bind_ok.mp h
    obtain ⟨hbytes, h⟩ := raise_if_bind.mp h
    obtain ⟨records, hrecords, h⟩ := bind_ok.mp h
    obtain ⟨restored, hrestored, h⟩ := bind_ok.mp h
    obtain ⟨checkpoint_id, hid, h⟩ := bind_ok.mp h
    obtain rfl := Except.ok.inj h
    rw [not_or, not_or, not_not] at hbytes
    obtain ⟨hcheck, hclean, hlength⟩ := restore_records_ok (Nat.zero_le _) hrestored
    obtain ⟨hone, hcount⟩ := manifest_records_ok hrecords
    rw [← hlength] at hone hcount
    refine ⟨item_ok.mp hid, GitHubSnapshot.is_digest_sha256_bytes _, ?_,
      restored, check_files_iff.mp hcheck, hclean, hone, hcount, rfl⟩
    obtain ⟨-, hmatch⟩ := checkpoint_manifest_ok hcheckpoint
    rw [hmatch, hbytes.2.2]
    rfl

/-- **A materialized workspace is accepted exactly when** its checkpoint's ID has eight
to sixty-four characters after the dash. -/
theorem Materialized.accepted_iff {checkpoint : Json} {workspace : Workspace}
    (h : Materialized checkpoint workspace) :
    check_workspace (.of workspace) = .ok workspace ↔
      checkpoint_id_ok workspace.checkpoint_id = true := by
  obtain ⟨restored, hfiles, hclean, hone, hcount, hsorted⟩ := h.files
  have hperm := sorted_perm restored
  have hmatch : manifest_match workspace.manifest_ref ≠ none := by
    intro hnone
    have hdigits := h.digits
    rw [hnone] at hdigits
    exact nomatch hdigits
  have hlength : ¬ workspace.files.length < 1 ∧ ¬ _WORKSPACE_FILE_COUNT < workspace.files.length := by
    rw [hsorted, hperm.length_eq]
    omega
  have hchecked : check_files workspace.files [] 0 = .ok () := by
    rw [hsorted]
    exact check_files_iff.mpr (hfiles.perm hperm)
  -- restoring has sorted the files, so the order is no further condition
  have hstays : ¬ sorted_files workspace.files ≠ workspace.files := by
    rw [hsorted, not_not]
    exact sorted_sorted restored
  have hscan : or_error workspace_error (assert_no_credential_pattern_content workspace.files) =
      .ok () := by
    rw [hsorted, hfiles.sorted_clean hclean hcount]
    rfl
  rw [check_workspace, raise_if_bind, not_or, not_or, not_or, not_or, not_or, hchecked, ok_bind,
    raise_if_bind, hscan, ok_bind, h.digest]
  constructor
  · exact fun hid => Bool.not_eq_false _ ▸ hid.1.1
  · intro hid
    rw [hid]
    exact ⟨⟨nofun, hmatch, nofun, not_not.mpr h.digits, hlength⟩, hstays, rfl⟩

/-! ## Manifests of files -/

/-- The record of a file in a manifest. -/
def file_fields (f : String × Bytes) : List (String × Json) :=
  [("path", .str (.text f.1)), ("content_base64", .str (.text (b64encode f.2))),
    ("content_digest", .str (.text (sha256_bytes (octets f.2))))]

/-- The manifest of some files. -/
def manifest_fields (files : List (String × Bytes)) : List (String × Json) :=
  [("schema", .str (.text "workspace-manifest/v1")),
    ("files", .arr (files.map fun f => Json.record (file_fields f)))]

/-- Its bytes. -/
def manifest_bytes (files : List (String × Bytes)) : Bytes :=
  encode_utf8 (String.ofList ((Json.record (manifest_fields files)).norm.print false))

theorem file_wf (f : String × Bytes) : (Json.record (file_fields f)).wf := by
  refine Json.wf_record (by simp [file_fields]) ?_
  simp [file_fields, Json.wf]

theorem manifest_wf (files : List (String × Bytes)) : (Json.record (manifest_fields files)).wf := by
  refine Json.wf_record (by simp [manifest_fields]) ?_
  simp only [manifest_fields, List.forall_mem_cons, List.not_mem_nil, false_imp_iff, implies_true,
    and_true]
  exact ⟨trivial, Json.wf_items_iff.mpr (List.forall_mem_map.mpr fun f _ => file_wf f)⟩

theorem manifest_plain (files : List (String × Bytes)) :
    (Json.record (manifest_fields files)).plain := by
  have hfile : ∀ f : String × Bytes, (Json.record (file_fields f)).plain := by
    refine fun f => Json.plain_record ?_
    simp [file_fields, Json.plain]
  refine Json.plain_record ?_
  simp only [manifest_fields, List.forall_mem_cons, List.not_mem_nil, false_imp_iff, implies_true,
    and_true]
  exact ⟨trivial, Json.plain_items_iff.mpr (List.forall_mem_map.mpr fun f _ => hfile f)⟩

theorem manifest_encodable (files : List (String × Bytes)) :
    (Json.record (manifest_fields files)).encodable false = true := by
  have hfile : ∀ f : String × Bytes, (Json.record (file_fields f)).encodable false = true := by
    refine fun f => Json.encodable_record ?_
    simp [file_fields, Json.encodable, Json.encodable_str]
  refine Json.encodable_record ?_
  simp only [manifest_fields, List.forall_mem_cons, List.not_mem_nil, false_imp_iff, implies_true,
    and_true]
  exact ⟨rfl, Json.encodable_items_iff.mpr (List.forall_mem_map.mpr fun f _ => hfile f)⟩

/-- The record of a file is restored. -/
theorem restore_file {f : String × Bytes} (hsafe : _workspace_path_is_safe f.1 = true)
    (hsmall : f.2.length ≤ _WORKSPACE_FILE_BYTES) (hnew : casefold f.1 ∉ seen)
    (htotal : total + f.2.length ≤ _WORKSPACE_TOTAL_BYTES)
    (hclean : assert_no_credential_pattern_content [f] = .ok ()) :
    restore_record seen total (Json.record (file_fields f)).norm = .ok f := by
  obtain ⟨hkeys, hget⟩ := Json.read_of_norm (file_wf f)
  have htext : ∀ key value, (key, Json.str (.text value)) ∈ file_fields f →
      text_item (Json.record (file_fields f)).norm key = .ok value := by
    intro key value hmem
    rw [text_item, hget _ hmem]
    rfl
  have hpath := htext "path" f.1 (by simp [file_fields])
  have hencoded := htext "content_base64" (b64encode f.2) (by simp [file_fields])
  have hdigest := htext "content_digest" (sha256_bytes (octets f.2)) (by simp [file_fields])
  -- base64 text is ASCII
  have hascii : ((b64encode f.2).toList.all fun c => decide (c.toNat < 128)) = true := by
    refine List.all_eq_true.mpr fun c hc => ?_
    have hbare := List.all_eq_true.mp (bare_b64encode f.2) c hc
    simp only [is_bare, Bool.and_eq_true, decide_eq_true_eq] at hbare
    exact decide_eq_true (by omega)
  have hrefused : ¬ (path_refused f.1 = true ∨ casefold f.1 ∈ seen) := by
    rw [path_refused_eq, hsafe]
    exact not_or.mpr ⟨(by rintro ⟨⟩), hnew⟩
  have hcontent : ¬ (b64encode f.2 ≠ b64encode f.2 ∨ _WORKSPACE_FILE_BYTES < f.2.length ∨
      sha256_bytes (octets f.2) ≠ sha256_bytes (octets f.2)) := by
    rw [not_or, not_or]
    exact ⟨not_not.mpr rfl, Nat.not_lt.mpr hsmall, not_not.mpr rfl⟩
  have hfields : ¬ ((Json.record (file_fields f)).norm.has_keys
      ["path", "content_base64", "content_digest"] = false) :=
    fun hnot => by cases hkeys.symm.trans hnot
  rw [restore_record, raise_if_ok.mpr hfields, ok_bind, hpath, ok_bind, raise_if_ok.mpr hrefused,
    ok_bind,
    hencoded, ok_bind, raise_if_ok.mpr (by rw [hascii]; rintro ⟨⟩), ok_bind, hdigest, ok_bind,
    raise_if_ok.mpr (by rw [GitHubSnapshot.is_digest_sha256_bytes]; rintro ⟨⟩), ok_bind,
    b64decode_encode, or_raise_ok.mpr rfl, ok_bind, raise_if_ok.mpr hcontent, ok_bind,
    raise_if_ok.mpr (Nat.not_lt.mpr htotal), ok_bind, hclean, ok_bind]
  rfl

/-- The records of files that a workspace may have are restored. -/
theorem restore_files (hcheck : check_files files seen total = .ok ()) (hclean : Clean files) :
    restore_records (files.map fun f => (Json.record (file_fields f)).norm) seen total = .ok files := by
  induction files generalizing seen total with
  | nil => rfl
  | cons f rest ih =>
    obtain ⟨hfile, hcheck⟩ := raise_if_bind.mp hcheck
    obtain ⟨hle, hcheck⟩ := raise_if_bind.mp hcheck
    rw [not_or, not_or, Bool.not_eq_false, Nat.not_lt] at hfile
    rw [Nat.not_lt] at hle
    have hrest := ih hcheck fun g hg => hclean g (List.mem_cons_of_mem _ hg)
    rw [List.map_cons, restore_records,
      restore_file hfile.1 hfile.2.1 hfile.2.2 hle (hclean f List.mem_cons_self), ok_bind, hrest,
        ok_bind]
    rfl

/-- The records of a manifest of files. -/
theorem manifest_records_files (hone : 1 ≤ files.length)
    (hcount : files.length ≤ _WORKSPACE_FILE_COUNT) :
    manifest_records (manifest_bytes files) =
      .ok (files.map fun f => (Json.record (file_fields f)).norm) := by
  have hencodable := manifest_encodable files
  have hloads := Json.loads_print false (manifest_wf files) (manifest_plain files) hencodable
  obtain ⟨hkeys, hget⟩ := Json.read_of_norm (manifest_wf files)
  have hschema := hget ("schema", .str (.text "workspace-manifest/v1")) (by simp [manifest_fields])
  have hfiles : (Json.record (manifest_fields files)).norm.get? "files" =
      some (.arr (files.map fun f => (Json.record (file_fields f)).norm)) := by
    rw [hget ("files", .arr (files.map fun f => Json.record (file_fields f)))
      (by simp [manifest_fields]),
      Json.norm, Json.norm_items_eq, List.map_map]
    rfl
  have hdecode : decode_utf8 (manifest_bytes files) =
      some (String.ofList ((Json.record (manifest_fields files)).norm.print false)) :=
    decode_utf8_some.mpr rfl
  -- what the loader gives back is sorted, and renders to the same bytes
  have hcanonical : canonical_json (Json.record (manifest_fields files)).norm =
      .ok (octets (manifest_bytes files)) := by
    refine canonical_json_ok.mpr ⟨by rw [Json.encodable_norm, hencodable], ?_⟩
    rw [canonical_bytes, Json.norm_norm]
    rfl
  have hfields : ¬ ((Json.record (manifest_fields files)).norm.has_keys ["schema", "files"] = false) :=
    fun hnot => by cases hkeys.symm.trans hnot
  have hlength : ¬ ((files.map fun f => (Json.record (file_fields f)).norm).length < 1 ∨
      _WORKSPACE_FILE_COUNT < (files.map fun f => (Json.record (file_fields f)).norm).length) := by
    rw [List.length_map]
    omega
  rw [manifest_records, hdecode, or_raise_ok.mpr rfl, ok_bind, hloads,
    or_raise_ok.mpr rfl, ok_bind, raise_if_ok.mpr hfields, ok_bind, item_ok.mpr hschema, ok_bind,
    raise_if_ok.mpr (by decide), ok_bind, hcanonical, ok_bind, raise_if_ok.mpr (not_not.mpr rfl),
      ok_bind,
    hfiles]
  dsimp only
  rw [raise_if_ok.mpr hlength, ok_bind]
  rfl

/-- **The manifest of files is materialized** as these files in order. -/
theorem materialize_files {checkpoint : PyValue} {checkpoint_id : Json} {manifest_ref digits : String}
    {read_json : String → Except Exn Bytes} (hone : 1 ≤ files.length)
    (hcount : files.length ≤ _WORKSPACE_FILE_COUNT) (hfiles : FilesOk files) (hclean : Clean files)
    (hcheckpoint : checkpoint_manifest checkpoint.val = .ok (manifest_ref, digits))
    (hid : checkpoint.val.get? "checkpoint_id" = some checkpoint_id)
    (hread : read_json manifest_ref = .ok (manifest_bytes files))
    (hbytes : manifest_bytes files ≠ [] ∧ (manifest_bytes files).length ≤ _WORKSPACE_MANIFEST_BYTES)
    (hdigest : sha256_bytes (octets (manifest_bytes files)) = "sha256:" ++ digits) :
    materialize_simulation_workspace checkpoint (.of ⟨true, read_json⟩) =
      .ok ⟨checkpoint_id, manifest_ref, "sha256:" ++ digits, sorted_files files⟩ := by
  have hmanifest : ¬ (manifest_bytes files = [] ∨
      _WORKSPACE_MANIFEST_BYTES < (manifest_bytes files).length ∨
      sha256_bytes (octets (manifest_bytes files)) ≠ "sha256:" ++ digits) := by
    rw [not_or, not_or, not_not]
    exact ⟨hbytes.1, Nat.not_lt.mpr hbytes.2, hdigest⟩
  rw [materialize_simulation_workspace, or_error_ok, materialize, hcheckpoint, ok_bind]
  dsimp only
  rw [raise_if_ok.mpr nofun, ok_bind, hread, ok_bind, raise_if_ok.mpr hmanifest, ok_bind,
    manifest_records_files hone hcount, ok_bind, restore_files (check_files_iff.mpr hfiles) hclean,
    ok_bind, item_ok.mpr hid, ok_bind, hdigest]
  rfl

end AppContracts.SimulationBranch
