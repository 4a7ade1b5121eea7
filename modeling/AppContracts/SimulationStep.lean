/-
A step of a simulation: `apply_simulation_step` of `simulation_branch.py`.

A step is data: a correction, and a patch that names files of the workspace by path,
each with the digest of what it holds and the replacement with its digest. A
workspace is a frozen record of immutable values, so a call is a function of it.
-/
import AppContracts.DigestEvaluation
import AppContracts.Lib.ExceptLoop
import AppContracts.SimulationWorkspace

set_option autoImplicit false

namespace AppContracts.SimulationBranch

open Validator ObservationStore SecretScan

/-- `_WORKSPACE_FILE_BASE64_BYTES`. -/
def _WORKSPACE_FILE_BASE64_BYTES : ℕ := 4 * ((_WORKSPACE_FILE_BYTES + 2) / 3)

/-- `_SIMULATION_PATCH_BYTES`. -/
def _SIMULATION_PATCH_BYTES : ℕ := 2 * 1024 * 1024

/-- `SimulationBranchError("simulation step patch is invalid")`. -/
def patch_error : Exn := branch_error "simulation step patch is invalid"

/-- `SimulationStepResult`. -/
structure SimulationStepResult : Type where
  step_id : Json
  correction_id : Json
  correction_version : Json
  correction_digest : String
  checkpoint_id : Json
  source_manifest_digest : String
  step_digest : String
  result_digest : String
  changed_paths : List String
  files : List (String × Bytes)

/-! ## The correction -/

/-- The check of the correction: its digest. -/
def check_correction (workspace : Workspace) (correction : Json) : Except Exn String :=
  or_error (branch_error "simulation step correction is invalid") (do
    validate correction LEARNING_CORRECTION_SCHEMA
    raise_if (type_is_dict correction = false) value_error
    let checkpoint_id ← item correction "checkpoint_id"
    let review_status ← item correction "review_status"
    raise_if (py_eq checkpoint_id workspace.checkpoint_id = false ∨
      py_eq review_status (.str (.text "rejected")) = true) value_error
    sha256_digest correction)

/-! ## The patch -/

/-- `patch.get(key)` of a dict. -/
def value (patch : Json) (key : String) : Json := (patch.get? key).getD .null

/-- `type(step_id) is str` and `_STEP_ID.fullmatch(step_id)`. -/
def step_id_ok : Json → Bool
  | .str (.text step_id) => is_identifier "step" step_id
  | _ => false

/-- `type(value) is int`. -/
def type_is_int : Json → Bool
  | .int _ => true
  | _ => false

/-- The keys of a patch. -/
def patch_keys : List String :=
  ["schema", "step_id", "correction_id", "correction_version", "correction_digest",
    "source_manifest_digest", "operations"]

/-- The check of the patch: its operations and its digest. -/
def check_patch (workspace : Workspace) (correction : Json) (correction_digest : String)
    (patch : Json) :
    Except Exn (List Json × String) := do
  let correction_id ← item correction "correction_id"
  let version ← item correction "version"
  raise_if (patch.has_keys patch_keys = false ∨
    py_eq (value patch "schema") (.str (.text "simulation-step-patch/v1")) = false ∨
    step_id_ok (value patch "step_id") = false ∨
    py_eq (value patch "correction_id") correction_id = false ∨
    type_is_int (value patch "correction_version") = false ∨
    py_eq (value patch "correction_version") version = false ∨
    py_eq (value patch "correction_digest") (.str (.text correction_digest)) = false ∨
    py_eq (value patch "source_manifest_digest") (.str (.text workspace.manifest_digest)) = false)
    patch_error
  match patch.get? "operations" with
  | some (.arr operations) => do
    raise_if (operations.length < 1 ∨ workspace.files.length < operations.length) patch_error
    let patch_bytes ← or_error patch_error (canonical_json patch)
    raise_if (_SIMULATION_PATCH_BYTES < patch_bytes.length) patch_error
    return (operations, sha256_bytes patch_bytes)
  | _ => .error patch_error

/-! ## Operations -/

/-- `SimulationBranchError("simulation step preimage or replacement is invalid")`. -/
def replacement_error : Exn := branch_error "simulation step preimage or replacement is invalid"

/-- A text of an operation; the patterns refuse any with a lone surrogate. -/
def operation_text (operation : Json) (key : String) : Except Exn String :=
  or_raise patch_error ((operation.get? key).bind Json.text?)

/-- A digest of an operation. -/
def operation_digest (operation : Json) (key : String) : Except Exn String := do
  let digest ← operation_text operation key
  raise_if (GitHubSnapshot.is_digest digest = false) patch_error
  return digest

/-- The keys of an operation. -/
def operation_keys : List String :=
  ["path", "expected_content_digest", "replacement_base64", "replacement_digest"]

/-- One turn of the loop over the operations: the path and its replacement. -/
def check_operation (source_files : List (String × Bytes)) (seen_operations : List String)
    (operation : Json) : Except Exn (String × Bytes) := do
  raise_if (operation.has_keys operation_keys = false) patch_error
  let path ← operation_text operation "path"
  raise_if (_workspace_path_is_safe path = false) patch_error
  let old_content ← or_raise patch_error (source_files.lookup path)
  raise_if (casefold path ∈ seen_operations) patch_error
  let expected ← operation_digest operation "expected_content_digest"
  let replacement_digest ← operation_digest operation "replacement_digest"
  let encoded ← operation_text operation "replacement_base64"
  raise_if ((encoded.toList.all fun c => decide (c.toNat < 128)) = false ∨
    _WORKSPACE_FILE_BASE64_BYTES < encoded.length) patch_error
  let replacement ← or_raise patch_error (b64decode encoded)
  raise_if (b64encode replacement ≠ encoded ∨ _WORKSPACE_FILE_BYTES < replacement.length ∨
    sha256_bytes (octets old_content) ≠ expected ∨
    sha256_bytes (octets replacement) ≠ replacement_digest ∨ replacement =
      old_content) replacement_error
  return (path, replacement)

/-- The loop over the operations: `replacements`, in the order of `operation_paths`. -/
def check_operations (source_files : List (String × Bytes)) :
    List Json → List String → Except Exn (List (String × Bytes))
  | [], _ => .ok []
  | operation :: rest, seen_operations => do
    let replaced ← check_operation source_files seen_operations operation
    let replacements ← check_operations source_files rest (casefold replaced.1 :: seen_operations)
    return replaced :: replacements

/-! ## The result -/

/-- `replacements.get(path, content)` for each file. -/
def replaced_files (replacements files : List (String × Bytes)) : List (String × Bytes) :=
  files.map fun f => (f.1, (replacements.lookup f.1).getD f.2)

/-- The dict `result_record`. -/
def result_record (result : SimulationStepResult) : Json :=
  Json.record
    [("schema", .str (.text "simulation-workspace-result/v1")), ("checkpoint_id", result.checkpoint_id),
      ("correction_id", result.correction_id), ("correction_version", result.correction_version),
      ("correction_digest", .str (.text result.correction_digest)),
      ("source_manifest_digest", .str (.text result.source_manifest_digest)),
      ("step_digest", .str (.text result.step_digest)),
      ("files", .arr (result.files.map fun f => Json.record
        [("path", .str (.text f.1)), ("content_digest", .str (.text (sha256_bytes (octets f.2)))),
          ("content_bytes", .int f.2.length)]))]

/-- The digest of the record ends a result. -/
def conclude (result : SimulationStepResult) : Except Exn SimulationStepResult := do
  let result_digest ← sha256_digest (result_record result)
  return { result with result_digest := result_digest }

/-- `apply_simulation_step(workspace, correction, patch)`. -/
def apply_simulation_step (workspace : Arg Workspace) (correction patch : PyValue) :
    Except Exn SimulationStepResult := do
  let workspace ← check_workspace workspace
  let correction_digest ← check_correction workspace correction.val
  let (operations, step_digest) ← check_patch workspace correction.val correction_digest patch.val
  let replacements ← check_operations workspace.files operations []
  let operation_paths := replacements.map Prod.fst
  raise_if (operation_paths.insertionSort (· ≤ ·) ≠ operation_paths) patch_error
  let result_files := replaced_files replacements workspace.files
  raise_if (_WORKSPACE_TOTAL_BYTES < total_bytes result_files)
    (branch_error "simulation step replacement exceeds size limit")
  or_error (branch_error "simulation step replacement is invalid")
    (assert_no_credential_pattern_content replacements)
  let correction_id ← item correction.val "correction_id"
  let version ← item correction.val "version"
  conclude
    { step_id := value patch.val "step_id", correction_id := correction_id
      correction_version := version, correction_digest := correction_digest
      checkpoint_id := workspace.checkpoint_id
      source_manifest_digest := workspace.manifest_digest, step_digest := step_digest
      result_digest := "", changed_paths := operation_paths, files := result_files }

/-! ## What an operation binds -/

/-- An operation binds the old content of a file and its replacement. -/
structure Binds (operation : Json) (path : String) (old new : Bytes) : Prop where
  path : operation.get? "path" = some (.str (.text path))
  expected : operation.get? "expected_content_digest" = some (.str (.text (sha256_bytes (octets old))))
  digest : operation.get? "replacement_digest" = some (.str (.text (sha256_bytes (octets new))))
  encoded : operation.get? "replacement_base64" = some (.str (.text (b64encode new)))
  differs : new ≠ old
  small : new.length ≤ _WORKSPACE_FILE_BYTES

variable {files : List (String × Bytes)} {seen : List String}

theorem operation_text_ok {operation : Json} {key text : String} :
    operation_text operation key = .ok text ↔ operation.get? key = some (.str (.text text)) := by
  rw [operation_text, or_raise_ok]
  cases operation.get? key with
  | none => exact iff_of_false nofun nofun
  | some v =>
    rw [Option.bind_some, Option.some.injEq]
    constructor
    · intro h
      match v, h with
      | .str (.text _), h => rw [Option.some.inj h]
    · rintro rfl
      rfl

theorem operation_digest_ok {operation : Json} {key digest : String}
    (h : operation_digest operation key = .ok digest) :
    operation.get? key = some (.str (.text digest)) := by
  obtain ⟨text, htext, h⟩ := bind_ok.mp h
  obtain ⟨-, h⟩ := raise_if_bind.mp h
  obtain rfl := Except.ok.inj h
  exact operation_text_ok.mp htext

/-- **A turn of the loop**: the operation binds what the workspace holds at its path. -/
theorem check_operation_ok {operation : Json} {f : String × Bytes}
    (h : check_operation files seen operation = .ok f) :
    casefold f.1 ∉ seen ∧ ∃ old, files.lookup f.1 = some old ∧ Binds operation f.1 old f.2 := by
  obtain ⟨-, h⟩ := raise_if_bind.mp h
  obtain ⟨path, hpath, h⟩ := bind_ok.mp h
  obtain ⟨-, h⟩ := raise_if_bind.mp h
  obtain ⟨old, hold, h⟩ := bind_ok.mp h
  obtain ⟨hnew, h⟩ := raise_if_bind.mp h
  obtain ⟨expected, hexpected, h⟩ := bind_ok.mp h
  obtain ⟨replacement_digest, hdigest, h⟩ := bind_ok.mp h
  obtain ⟨encoded, hencoded, h⟩ := bind_ok.mp h
  obtain ⟨-, h⟩ := raise_if_bind.mp h
  obtain ⟨replacement, -, h⟩ := bind_ok.mp h
  obtain ⟨hbinds, h⟩ := raise_if_bind.mp h
  obtain rfl := Except.ok.inj h
  rw [not_or, not_or, not_or, not_or, not_not, not_not, not_not, Nat.not_lt] at hbinds
  obtain ⟨rfl, hsmall, rfl, rfl, hdiffers⟩ := hbinds
  exact ⟨hnew, old, or_raise_ok.mp hold, operation_text_ok.mp hpath, operation_digest_ok hexpected,
    operation_digest_ok hdigest, operation_text_ok.mp hencoded, hdiffers, hsmall⟩

/-- **The loop over the operations**: each binds its file, and no path comes twice. -/
theorem check_operations_ok {operations : List Json} {replacements : List (String × Bytes)}
    (h : check_operations files operations seen = .ok replacements) :
    List.Forall₂ (fun operation f => ∃ old, files.lookup f.1 = some old ∧ Binds operation f.1 old f.2)
        operations replacements ∧
      (replacements.map fun f => casefold f.1).Nodup ∧ ∀ f ∈ replacements, casefold f.1 ∉ seen := by
  induction operations generalizing seen replacements with
  | nil =>
    obtain rfl := Except.ok.inj h
    exact ⟨.nil, List.nodup_nil, List.forall_mem_nil _⟩
  | cons operation rest ih =>
    obtain ⟨f, hf, h⟩ := bind_ok.mp h
    obtain ⟨replacements, hrest, h⟩ := bind_ok.mp h
    obtain rfl := Except.ok.inj h
    obtain ⟨hnew, hbinds⟩ := check_operation_ok hf
    obtain ⟨hall, hnodup, hunseen⟩ := ih hrest
    refine ⟨.cons hbinds hall, ?_, ?_⟩
    · rw [List.map_cons, List.nodup_cons, List.mem_map]
      refine ⟨?_, hnodup⟩
      rintro ⟨g, hg, heq⟩
      exact hunseen g hg (heq ▸ List.mem_cons_self)
    · refine List.forall_mem_cons.mpr ⟨hnew, fun g hg hmem => ?_⟩
      exact hunseen g hg (List.mem_cons_of_mem _ hmem)

/-! ## Replaced files -/

variable {replacements : List (String × Bytes)} {path : String}

theorem replaced_paths : (replaced_files replacements files).map Prod.fst = files.map Prod.fst := by
  rw [replaced_files, List.map_map]
  rfl

/-- What the result holds at a path. -/
theorem lookup_replaced : (replaced_files replacements files).lookup path =
    (files.lookup path).map fun content => (replacements.lookup path).getD content := by
  induction files with
  | nil => rfl
  | cons f rest ih =>
    obtain ⟨p, content⟩ := f
    rw [replaced_files, List.map_cons, List.lookup_cons, List.lookup_cons]
    cases hpath : path == p with
    | true =>
      rw [eq_of_beq hpath]
      rfl
    | false => exact ih

/-- A file that no operation names is as it was. -/
theorem lookup_kept (h : path ∉ replacements.map Prod.fst) :
    (replaced_files replacements files).lookup path = files.lookup path := by
  have hnone : replacements.lookup path = none := by
    rw [List.lookup_eq_none_iff]
    intro f hf
    rw [bne_iff_ne]
    rintro rfl
    exact h (List.mem_map_of_mem hf)
  rw [lookup_replaced, hnone]
  exact Option.map_id'

/-- A file that an operation names is its replacement. -/
theorem lookup_changed {new old : Bytes} (hnodup : (replacements.map Prod.fst).Nodup)
    (hmem : (path, new) ∈ replacements) (hold : files.lookup path = some old) :
    (replaced_files replacements files).lookup path = some new := by
  rw [lookup_replaced, hold, lookup_of_mem hnodup hmem]
  rfl

/-- The files of the result are no larger than a workspace's may be. -/
theorem replaced_small (hfiles : ∀ f ∈ files, f.2.length ≤ _WORKSPACE_FILE_BYTES)
    (hreplacements : ∀ f ∈ replacements, f.2.length ≤ _WORKSPACE_FILE_BYTES) :
    ∀ f ∈ replaced_files replacements files, f.2.length ≤ _WORKSPACE_FILE_BYTES := by
  intro g hg
  obtain ⟨f, hf, rfl⟩ := List.mem_map.mp hg
  cases hlookup : replacements.lookup f.1 with
  | none => exact hfiles f hf
  | some new => exact hreplacements _ (mem_of_lookup hlookup)

/-! ## A step that is applied -/

/-- What an accepted step has bound, and what it has done. -/
structure Applied (workspace : Workspace) (correction patch : Json) (result : SimulationStepResult) :
    Prop where
  checkpoint : ∃ id, correction.get? "checkpoint_id" = some id ∧ py_eq id workspace.checkpoint_id = true
  correction : sha256_digest correction = .ok result.correction_digest
  correction_bound : patch.get? "correction_digest" = some (.str (.text result.correction_digest))
  source_bound : patch.get? "source_manifest_digest" = some (.str (.text workspace.manifest_digest))
  step : sha256_digest patch = .ok result.step_digest
  operations : ∃ operations, patch.get? "operations" = some (.arr operations) ∧
    List.Forall₂ (fun operation path => ∃ old new, workspace.files.lookup path = some old ∧
      result.files.lookup path = some new ∧
        Binds operation path old new) operations result.changed_paths
  changed : ∀ path, result.files.lookup path ≠ workspace.files.lookup path ↔
    path ∈ result.changed_paths
  once : result.changed_paths.Nodup
  order : result.files.map Prod.fst = workspace.files.map Prod.fst
  small : ∀ f ∈ result.files, f.2.length ≤ _WORKSPACE_FILE_BYTES
  total : total_bytes result.files ≤ _WORKSPACE_TOTAL_BYTES

theorem check_workspace_ok {argument : Arg Workspace} {workspace : Workspace}
    (h : check_workspace argument = .ok workspace) : argument = .of workspace ∧
      checkpoint_id_ok workspace.checkpoint_id = true ∧ FilesOk workspace.files := by
  cases argument with
  | other => exact nomatch h
  | of w =>
    obtain ⟨hfields, h⟩ := raise_if_bind.mp h
    obtain ⟨u, hfiles, h⟩ := bind_ok.mp h
    obtain ⟨-, h⟩ := raise_if_bind.mp h
    obtain ⟨u', -, h⟩ := bind_ok.mp h
    obtain rfl := Except.ok.inj h
    rw [not_or, Bool.not_eq_false] at hfields
    exact ⟨rfl, hfields.1, check_files_iff.mp hfiles⟩

theorem check_correction_ok {workspace : Workspace} {correction : Json} {digest : String}
    (h : check_correction workspace correction = .ok digest) :
    sha256_digest correction = .ok digest ∧
      ∃ id, correction.get? "checkpoint_id" = some id ∧ py_eq id workspace.checkpoint_id = true := by
  obtain ⟨u, -, h⟩ := bind_ok.mp (or_error_ok.mp h)
  obtain ⟨-, h⟩ := raise_if_bind.mp h
  obtain ⟨id, hid, h⟩ := bind_ok.mp h
  obtain ⟨review_status, -, h⟩ := bind_ok.mp h
  obtain ⟨hchecked, h⟩ := raise_if_bind.mp h
  rw [not_or, Bool.not_eq_false] at hchecked
  exact ⟨h, id, item_ok.mp hid, hchecked.1⟩

theorem value_text {patch : Json} {key text : String}
    (h : py_eq (value patch key) (.str (.text text)) = true) :
    patch.get? key = some (.str (.text text)) := by
  rw [value] at h
  cases hkey : patch.get? key with
  | none =>
    rw [hkey] at h
    exact nomatch h
  | some v =>
    rw [hkey, Option.getD_some] at h
    cases v with
    | str s => rw [eq_of_beq h]
    | null => exact nomatch h
    | bool => exact nomatch h
    | int => exact nomatch h
    | float => exact nomatch h
    | arr => exact nomatch h
    | obj => exact nomatch h
    | number => exact nomatch h
    | other => exact nomatch h

theorem check_patch_ok {workspace : Workspace} {correction patch : Json}
    {correction_digest step_digest : String} {operations : List Json}
    (h : check_patch workspace correction correction_digest patch = .ok (operations, step_digest)) :
    patch.get? "correction_digest" = some (.str (.text correction_digest)) ∧
      patch.get? "source_manifest_digest" = some (.str (.text workspace.manifest_digest)) ∧
      patch.get? "operations" = some (.arr operations) ∧ sha256_digest patch = .ok step_digest := by
  obtain ⟨correction_id, -, h⟩ := bind_ok.mp h
  obtain ⟨version, -, h⟩ := bind_ok.mp h
  obtain ⟨hchecked, h⟩ := raise_if_bind.mp h
  simp only [not_or, Bool.not_eq_false] at hchecked
  obtain ⟨-, -, -, -, -, -, hdigest, hsource⟩ := hchecked
  split at h
  · rename_i items hitems
    obtain ⟨-, h⟩ := raise_if_bind.mp h
    obtain ⟨patch_bytes, hbytes, h⟩ := bind_ok.mp h
    obtain ⟨-, h⟩ := raise_if_bind.mp h
    obtain ⟨rfl, rfl⟩ := Prod.mk.inj (Except.ok.inj h)
    obtain ⟨hencodable, rfl⟩ := canonical_json_ok.mp (or_error_ok.mp hbytes)
    exact ⟨value_text hdigest, value_text hsource, hitems, sha256_digest_ok.mpr ⟨hencodable, rfl⟩⟩
  · exact nomatch h

/-- **What an accepted step has done.** -/
theorem applied {argument : Arg Workspace} {correction patch : PyValue} {result : SimulationStepResult}
    (h : apply_simulation_step argument correction patch = .ok result) :
    ∃ workspace, argument = .of workspace ∧ Applied workspace correction.val patch.val result := by
  obtain ⟨workspace, hworkspace, h⟩ := bind_ok.mp h
  obtain ⟨correction_digest, hcorrection, h⟩ := bind_ok.mp h
  obtain ⟨⟨operations, step_digest⟩, hpatch, h⟩ := bind_ok.mp h
  obtain ⟨replacements, hreplacements, h⟩ := bind_ok.mp h
  obtain ⟨-, h⟩ := raise_if_bind.mp h
  obtain ⟨htotal, h⟩ := raise_if_bind.mp h
  obtain ⟨u, -, h⟩ := bind_ok.mp h
  obtain ⟨correction_id, -, h⟩ := bind_ok.mp h
  obtain ⟨version, -, h⟩ := bind_ok.mp h
  obtain ⟨result_digest, -, h⟩ := bind_ok.mp h
  obtain rfl := Except.ok.inj h
  obtain ⟨rfl, -, hfiles⟩ := check_workspace_ok hworkspace
  obtain ⟨hdigest, hid⟩ := check_correction_ok hcorrection
  obtain ⟨hbound, hsource, hoperations, hstep⟩ := check_patch_ok hpatch
  obtain ⟨hall, hcasefold, -⟩ := check_operations_ok hreplacements
  -- distinct case folds are distinct paths
  have honce : (replacements.map Prod.fst).Nodup := by
    have hcomp : (replacements.map fun f => casefold f.1) =
      (replacements.map Prod.fst).map casefold := by
      rw [List.map_map]
      rfl
    rw [hcomp] at hcasefold
    exact .of_map _ hcasefold
  have hbinds : ∀ f ∈ replacements, ∃ operation old, workspace.files.lookup f.1 = some old ∧
      Binds operation f.1 old f.2 := by
    intro f hf
    obtain ⟨operation, -, old, hold, hbinds⟩ := exists_of_forall₂ hall hf
    exact ⟨operation, old, hold, hbinds⟩
  refine ⟨workspace, rfl, hid, hdigest, hbound, hsource, hstep, ⟨operations, hoperations, ?_⟩,
    fun path => ⟨fun hne => ?_, fun hmem => ?_⟩, honce, replaced_paths, ?_, Nat.not_lt.mp htotal⟩
  · have hmem := ((List.forall₂_and_left _ _).mpr ⟨fun _ (hf : _ ∈ replacements) => hf, hall.flip⟩).flip
    refine List.forall₂_map_right_iff.mpr (hmem.imp ?_)
    rintro operation f ⟨hf, old, hold, hbinds⟩
    exact ⟨old, f.2, hold, lookup_changed honce hf hold, hbinds⟩
  -- a path that no operation names keeps its content
  · by_contra hnot
    exact hne (lookup_kept hnot)
  · obtain ⟨f, hf, rfl⟩ := List.mem_map.mp hmem
    obtain ⟨operation, old, hold, hbinds⟩ := hbinds f hf
    rw [lookup_changed honce hf hold, hold]
    exact fun heq => hbinds.differs (Option.some.inj heq)
  · refine replaced_small hfiles.small fun f hf => ?_
    obtain ⟨operation, old, -, hbinds⟩ := hbinds f hf
    exact hbinds.small

/-! ## What a refused step raises -/

/-- What is raised is a `SimulationBranchError`. -/
abbrev Own {α : Type} (x : Except Exn α) : Prop := Raises (· = .SimulationBranchError) x

theorem own_if {p : Prop} [Decidable p] {e : Exn} (he : e.cls = .SimulationBranchError) :
    Own (raise_if p e) :=
  Raises.raise_if he

theorem own_or {α : Type} {e : Exn} {x : Option α} (he : e.cls = .SimulationBranchError) :
    Own (or_raise e x) :=
  Raises.or_raise he

theorem own_or_error {α : Type} {e : Exn} {x : Except Exn α} (he : e.cls = .SimulationBranchError) :
    Own (or_error e x) := by
  cases x with
  | error _ => exact Raises.error he
  | ok a => exact Raises.ok a

theorem own_files (total : ℕ) : Own (check_files files seen total) := by
  induction files generalizing seen total with
  | nil => exact Raises.ok ()
  | cons f rest ih => exact (own_if rfl).bind fun _ _ => (own_if rfl).bind fun _ _ => ih _

theorem own_workspace (argument : Arg Workspace) : Own (check_workspace argument) := by
  cases argument with
  | other => exact Raises.error rfl
  | of workspace =>
    exact (own_if rfl).bind fun _ _ => (own_files 0).bind fun _ _ => (own_if rfl).bind fun _ _ =>
      (own_or_error rfl).bind fun _ _ => Raises.ok _

theorem own_operation (operation : Json) : Own (check_operation files seen operation) := by
  have htext : ∀ key, Own (operation_text operation key) := fun _ => own_or rfl
  have hdigest : ∀ key, Own (operation_digest operation key) :=
    fun key => (htext key).bind fun _ _ => (own_if rfl).bind fun _ _ => Raises.ok _
  exact (own_if rfl).bind fun _ _ => (htext _).bind fun _ _ => (own_if rfl).bind fun _ _ =>
    (own_or rfl).bind fun _ _ => (own_if rfl).bind fun _ _ => (hdigest _).bind fun _ _ =>
    (hdigest _).bind fun _ _ => (htext _).bind fun _ _ => (own_if rfl).bind fun _ _ =>
    (own_or rfl).bind fun _ _ => (own_if rfl).bind fun _ _ => Raises.ok _

theorem own_operations (operations : List Json) : Own (check_operations files operations seen) := by
  induction operations generalizing seen with
  | nil => exact Raises.ok []
  | cons operation rest ih =>
    exact (own_operation operation).bind fun _ _ => ih.bind fun _ _ => Raises.ok _

/-- A checked correction has the fields that the schema requires. -/
theorem correction_item {workspace : Workspace} {correction : Json} {digest : String}
    (h : check_correction workspace correction = .ok digest) (key : String)
    (hkey : key ∈ LEARNING_CORRECTION_SCHEMA.required) :
    ∃ v, item correction key = .ok v ∧ v.encodable false = true := by
  obtain ⟨u, hvalid, -⟩ := bind_ok.mp (or_error_ok.mp h)
  obtain ⟨v, hv⟩ := required_field rfl hvalid hkey
  obtain ⟨hencodable, -⟩ := sha256_digest_ok.mp (check_correction_ok h).1
  exact ⟨v, item_ok.mpr hv, encodable_get hencodable hv⟩

theorem own_patch {workspace : Workspace} {correction patch : Json} {digest : String}
    (h : check_correction workspace correction = .ok digest) :
    Own (check_patch workspace correction digest patch) := by
  obtain ⟨correction_id, hid, -⟩ := correction_item h "correction_id" (by decide)
  obtain ⟨version, hversion, -⟩ := correction_item h "version" (by decide)
  rw [check_patch, hid, ok_bind, hversion, ok_bind]
  refine (own_if rfl).bind fun _ _ => ?_
  split
  · exact (own_if rfl).bind fun _ _ => (own_or_error rfl).bind fun _ _ => (own_if rfl).bind fun _ _ =>
      Raises.ok _
  · exact Raises.error rfl

/-- A result of encodable values has a digest. -/
theorem conclude_ok (result : SimulationStepResult)
    (hcheckpoint : result.checkpoint_id.encodable false = true)
    (hid : result.correction_id.encodable false = true)
    (hversion : result.correction_version.encodable false = true)
    (hsmall : ∀ f ∈ result.files, f.2.length ≤ _WORKSPACE_FILE_BYTES) :
    ∃ concluded, conclude result = .ok concluded := by
  have hfile : ∀ f ∈ result.files, (Json.record
      [("path", .str (.text f.1)), ("content_digest", .str (.text (sha256_bytes (octets f.2)))),
        ("content_bytes", .int f.2.length)]).encodable false = true := by
    intro f hf
    have hbytes := hsmall f hf
    rw [_WORKSPACE_FILE_BYTES] at hbytes
    refine Json.encodable_record ?_
    simp only [List.forall_mem_cons, List.not_mem_nil, false_imp_iff, implies_true, and_true]
    exact ⟨rfl, rfl, Json.encodable_int (by omega)⟩
  have hrecord : (result_record result).encodable false = true := by
    refine Json.encodable_record ?_
    simp only [List.forall_mem_cons, List.not_mem_nil, false_imp_iff, implies_true, and_true]
    exact ⟨rfl, hcheckpoint, hid, hversion, rfl, rfl, rfl,
      Json.encodable_items_iff.mpr (List.forall_mem_map.mpr hfile)⟩
  rw [conclude, sha256_digest_ok.mpr ⟨hrecord, rfl⟩, ok_bind]
  exact ⟨_, rfl⟩

theorem encodable_checkpoint_id {id : Json} (h : checkpoint_id_ok id = true) :
    id.encodable false = true := by
  match id, h with
  | .str (.text _), _ => rfl

/-- **A refused step raises the module's own error.** -/
theorem own_step (argument : Arg Workspace) (correction patch : PyValue) :
    Own (apply_simulation_step argument correction patch) := by
  refine (own_workspace argument).bind fun workspace hworkspace => ?_
  refine (own_or_error rfl).bind fun digest hcorrection =>
    (own_patch hcorrection).bind fun checked _ => ?_
  refine (own_operations checked.1).bind fun replacements hreplacements => ?_
  refine (own_if rfl).bind fun _ _ => (own_if rfl).bind fun _ _ => (own_or_error rfl).bind fun _ _ => ?_
  obtain ⟨correction_id, hid, hid'⟩ := correction_item hcorrection "correction_id" (by decide)
  obtain ⟨version, hversion, hversion'⟩ := correction_item hcorrection "version" (by decide)
  obtain ⟨-, hcheckpoint, hfiles⟩ := check_workspace_ok hworkspace
  have hsmall : ∀ f ∈ replaced_files replacements workspace.files,
      f.2.length ≤ _WORKSPACE_FILE_BYTES := by
    refine replaced_small hfiles.small fun f hf => ?_
    obtain ⟨operation, -, old, -, hbinds⟩ := exists_of_forall₂ (check_operations_ok hreplacements).1 hf
    exact hbinds.small
  rw [hid, ok_bind, hversion, ok_bind]
  intro e h
  obtain ⟨concluded, hconcluded⟩ := conclude_ok
    ⟨value patch.val "step_id", correction_id, version, digest, workspace.checkpoint_id,
      workspace.manifest_digest, checked.2, "", replacements.map Prod.fst,
      replaced_files replacements workspace.files⟩
    (encodable_checkpoint_id hcheckpoint) hid' hversion' hsmall
  exact nomatch hconcluded.symm.trans h

/-! ## The step -/

/-- **The frame of a step.** An accepted step changes exactly the files that it lists,
each to the replacement whose digest it binds, and keeps the rest, the order and the
bounds; a step with any mismatch raises. A workspace is never written to. -/
theorem step_frame (workspace : Workspace) (correction patch : PyValue) :
    (∀ result, apply_simulation_step (.of workspace) correction patch = .ok result →
      Applied workspace correction.val patch.val result) ∧
    ∀ e, apply_simulation_step (.of workspace) correction patch = .error e →
      e.cls = .SimulationBranchError := by
  refine ⟨fun result h => ?_, own_step _ _ _⟩
  obtain ⟨w, hw, happlied⟩ := applied h
  obtain rfl := Arg.of.inj hw
  exact happlied

/-! ## Materialized workspaces and steps -/

/-- A workspace that is not accepted takes no step. -/
theorem step_refused {workspace : Workspace} (h : check_workspace (.of workspace) ≠ .ok workspace)
    (correction patch : PyValue) :
    ∃ e, apply_simulation_step (.of workspace) correction patch = .error e := by
  cases hchecked : check_workspace (.of workspace) with
  | error e => exact ⟨e, by rw [apply_simulation_step, hchecked, error_bind]⟩
  | ok w =>
    obtain ⟨hw, -⟩ := check_workspace_ok hchecked
    obtain rfl := Arg.of.inj hw
    exact absurd hchecked h

/-- **When a materialized workspace takes steps**: exactly when its checkpoint's ID has
eight to sixty-four characters after the dash. Otherwise every step is refused. -/
theorem materialized_accepted_iff {checkpoint : PyValue} {store : Arg ArtifactStore}
    {workspace : Workspace} (h : materialize_simulation_workspace checkpoint store = .ok workspace) :
    (check_workspace (.of workspace) = .ok workspace ↔
      ∃ id, checkpoint.val.get? "checkpoint_id" = some (.str (.text id)) ∧
        is_identifier "checkpoint" id = true) ∧
    (check_workspace (.of workspace) ≠ .ok workspace → ∀ correction patch,
      ∃ e, apply_simulation_step (.of workspace) correction patch = .error e) := by
  have hmaterialized := materialized h
  refine ⟨?_, step_refused⟩
  rw [hmaterialized.accepted_iff, hmaterialized.checkpoint_id]
  constructor
  · intro hid
    match workspace.checkpoint_id, hid with
    | .str (.text id), hid => exact ⟨id, rfl, hid⟩
  · rintro ⟨id, hid, hok⟩
    rw [Option.some.inj hid]
    exact hok

/-- An empty file, and one of a byte. -/
def two_files : List (String × Bytes) := [("a", []), ("b", [0x79])]

/-- The digits of its manifest's digest. -/
def two_digits : String := "076f7f253d06e21bffd2f052e9c5088ecaf80ce6ba87a0a23fd0756b9727dcda"

/-- A checkpoint of a workspace with these files. -/
def file_checkpoint (id : String) : PyValue :=
  ⟨.obj
    [(.text "schema_version", .int 1), (.text "checkpoint_id", .str (.text id)),
      (.text "kind", .str (.text "decision")), (.text "process_id", .str (.text "process-1")),
      (.text "run_id", .str (.text "run-1")), (.text "branch_id", .str (.text "branch-1")),
      (.text "agent_id", .str (.text "agent-1")), (.text "trigger_event_id", .str (.text "event-1")),
      (.text "event_cursor", .int 0), (.text "state_ref", .str (.text "artifact://state-1")),
      (.text "workspace_manifest_ref", .str (.text ("artifact://sha256/" ++ two_digits))),
      (.text "completeness", .str (.text "complete")),
      (.text "restore_mode", .str (.text "simulation")),
      (.text "created_at", .str (.text "2026-01-01T00:00:00Z"))],
    by simp [Json.wf, Json.wf_fields]⟩

/-- A store that holds the manifest. -/
def file_store : Arg ArtifactStore := .of ⟨true, fun _ => .ok (manifest_bytes two_files)⟩

/-- What is materialized of the checkpoint. -/
def file_workspace (id : String) : Workspace :=
  ⟨.str (.text id), "artifact://sha256/" ++ two_digits, "sha256:" ++ two_digits, two_files⟩

theorem two_manifest_digest :
    sha256_bytes (octets []) = "sha256:e3b0c44298fc1c149afbf4c8996fb92427ae41e4649b934ca495991b7852b855" ∧
    sha256_bytes (octets (manifest_bytes two_files)) = "sha256:" ++ two_digits ∧
    manifest_bytes two_files ≠ [] ∧ (manifest_bytes two_files).length ≤ _WORKSPACE_MANIFEST_BYTES := by
  let manifest := Json.record
    [("schema", .str (.text "workspace-manifest/v1")),
      ("files", .arr [Json.record
        [("path", .str (.text "a")), ("content_base64", .str (.text "")),
          ("content_digest", .str (.text
            "sha256:e3b0c44298fc1c149afbf4c8996fb92427ae41e4649b934ca495991b7852b855"))],
        Json.record
        [("path", .str (.text "b")), ("content_base64", .str (.text "eQ==")),
          ("content_digest", .str (.text
            "sha256:a1fce4363854ff888cff4b8e7875d600c2682390412a8cf79b37d0b11148b0fa"))]])]
  have hempty : sha256_bytes (octets []) =
      "sha256:e3b0c44298fc1c149afbf4c8996fb92427ae41e4649b934ca495991b7852b855" :=
    sha256_bytes_of (by decide +kernel)
  have hbyte : sha256_bytes (octets [0x79]) =
      "sha256:a1fce4363854ff888cff4b8e7875d600c2682390412a8cf79b37d0b11148b0fa" :=
    sha256_bytes_of (by decide +kernel)
  have hcontents : b64encode [] = "" ∧ b64encode [0x79] = "eQ==" := by decide +kernel
  -- the digests of the contents go in as texts, so the manifest is rendered once
  have hbytes : octets (manifest_bytes two_files) = manifest.ascii_bytes := by
    have hfields : Json.record (manifest_fields two_files) = manifest := by
      rw [manifest_fields, two_files, List.map_cons, List.map_singleton, file_fields, file_fields,
        hcontents.1, hcontents.2, hempty, hbyte]
    have hascii : manifest.plain_ascii = true := by decide +kernel
    rw [manifest_bytes, hfields, octets_encode, ← canonical_bytes, Json.canonical_bytes_ascii hascii]
  have hlength : (manifest_bytes two_files).length = manifest.ascii_bytes.length := by
    rw [← hbytes, octets, List.length_map]
  have hdigits : "sha256:" ++ two_digits =
      "sha256:076f7f253d06e21bffd2f052e9c5088ecaf80ce6ba87a0a23fd0756b9727dcda" := by decide +kernel
  refine ⟨hempty, by rw [hbytes, hdigits]; exact sha256_bytes_of (by decide +kernel), ?_, ?_⟩
  · apply List.ne_nil_of_length_pos
    rw [hlength]
    decide +kernel
  · rw [hlength]
    decide +kernel

theorem file_materialized {id : String}
    (h : checkpoint_manifest (file_checkpoint id).val =
      .ok ("artifact://sha256/" ++ two_digits, two_digits)) :
    materialize_simulation_workspace (file_checkpoint id) file_store = .ok (file_workspace id) := by
  have hfiles : FilesOk two_files := check_files_iff.mp (by decide +kernel)
  have hclean : Clean two_files :=
    List.forall_mem_cons.mpr ⟨by decide +kernel, List.forall_mem_singleton.mpr (by decide +kernel)⟩
  exact materialize_files (by decide) (by decide) hfiles hclean h rfl rfl
    two_manifest_digest.2.2 two_manifest_digest.2.1

/-- The checkpoints with a long and with a short ID, both valid. -/
theorem file_checkpoints :
    checkpoint_manifest (file_checkpoint "checkpoint-00000001").val =
      .ok ("artifact://sha256/" ++ two_digits, two_digits) ∧
    checkpoint_manifest (file_checkpoint "checkpoint-1").val =
      .ok ("artifact://sha256/" ++ two_digits, two_digits) ∧
    validate (file_checkpoint "checkpoint-1").val CHECKPOINT_SCHEMA = .ok () :=
  ⟨by decide +kernel, by decide +kernel, by decide +kernel⟩

theorem long_id_materialized :
    materialize_simulation_workspace (file_checkpoint "checkpoint-00000001") file_store =
      .ok (file_workspace "checkpoint-00000001") :=
  file_materialized file_checkpoints.1

theorem short_id_materialized :
    materialize_simulation_workspace (file_checkpoint "checkpoint-1") file_store =
      .ok (file_workspace "checkpoint-1") :=
  file_materialized file_checkpoints.2.1

/-- A materialized workspace that is accepted. -/
theorem long_id_accepted : check_workspace (.of (file_workspace "checkpoint-00000001")) =
    .ok (file_workspace "checkpoint-00000001") :=
  (materialized_accepted_iff long_id_materialized).1.mpr ⟨_, rfl, by decide⟩

/-- A checkpoint with a short ID is valid, and its workspace is materialized, but takes
no step. -/
theorem short_id_refused :
    validate (file_checkpoint "checkpoint-1").val CHECKPOINT_SCHEMA = .ok () ∧
      materialize_simulation_workspace (file_checkpoint "checkpoint-1") file_store =
        .ok (file_workspace "checkpoint-1") ∧
      ∀ correction patch, apply_simulation_step (.of (file_workspace "checkpoint-1")) correction patch =
        .error workspace_error := by
  have hrefused : check_workspace (.of (file_workspace "checkpoint-1")) = .error workspace_error := by
    have hid : checkpoint_id_ok (.str (.text "checkpoint-1")) = false := by decide
    rw [check_workspace, raise_if, if_pos (.inl hid), error_bind]
  refine ⟨file_checkpoints.2.2, short_id_materialized, fun correction patch => ?_⟩
  rw [apply_simulation_step, hrefused, error_bind]

/-- The fields of a correction about the checkpoint. -/
def correction_fields : List (PyStr × Json) :=
  [(.text "schema_version", .int 1), (.text "correction_id", .str (.text "correction-1")),
    (.text "version", .int 1), (.text "checkpoint_id", .str (.text "checkpoint-00000001")),
    (.text "target_event_id", .str (.text "event-1")), (.text "author_id", .str (.text "human-1")),
    (.text "created_at", .str (.text "2026-01-01T00:00:00Z")),
    (.text "error_description", .str (.text "wrong")), (.text "explanation", .str (.text "why")),
    (.text "expected_action", .str (.text "right")), (.text "applicability", .str (.text "here")),
    (.text "evidence_refs", .arr [.str (.text "artifact://evidence-1")]),
    (.text "review_status", .str (.text "approved"))]

theorem correction_fields_wf : (Json.obj correction_fields).wf := by
  simp [correction_fields, Json.wf, Json.wf_fields, Json.wf_items]

/-- A correction about the checkpoint. -/
def file_correction : PyValue := ⟨.obj correction_fields, correction_fields_wf⟩

/-- A patch that writes one byte to the first file. -/
def file_patch : PyValue :=
  ⟨.obj
    [(.text "schema", .str (.text "simulation-step-patch/v1")),
      (.text "step_id", .str (.text "step-00000001")),
      (.text "correction_id", .str (.text "correction-1")), (.text "correction_version", .int 1),
      (.text "correction_digest",
        .str (.text "sha256:df74043851f40f592fb36286b7a2a530e44065e1630c8ca5c486abb3f8a85f49")),
      (.text "source_manifest_digest", .str (.text ("sha256:" ++ two_digits))),
      (.text "operations", .arr [.obj
        [(.text "path", .str (.text "a")),
          (.text "expected_content_digest",
            .str (.text "sha256:e3b0c44298fc1c149afbf4c8996fb92427ae41e4649b934ca495991b7852b855")),
          (.text "replacement_base64", .str (.text "eA==")),
          (.text "replacement_digest",
            .str (.text "sha256:2d711642b726b04401627ca9fbac32f5c8530fb1903cc4db02258717921a4881"))]])],
    by simp [Json.wf, Json.wf_fields, Json.wf_items]⟩

/-- The operation of the patch. -/
def file_operation : Json :=
  .obj
    [(.text "path", .str (.text "a")),
      (.text "expected_content_digest",
        .str (.text "sha256:e3b0c44298fc1c149afbf4c8996fb92427ae41e4649b934ca495991b7852b855")),
      (.text "replacement_base64", .str (.text "eA==")),
      (.text "replacement_digest",
        .str (.text "sha256:2d711642b726b04401627ca9fbac32f5c8530fb1903cc4db02258717921a4881"))]

theorem file_patch_checked :
    check_correction (file_workspace "checkpoint-00000001") file_correction.val =
      .ok "sha256:df74043851f40f592fb36286b7a2a530e44065e1630c8ca5c486abb3f8a85f49" ∧
    check_patch (file_workspace "checkpoint-00000001") file_correction.val
      "sha256:df74043851f40f592fb36286b7a2a530e44065e1630c8ca5c486abb3f8a85f49" file_patch.val =
        .ok ([file_operation], sha256_bytes (canonical_bytes file_patch.val)) := by
  have hid : item file_correction.val "correction_id" = .ok (.str (.text "correction-1")) := rfl
  have hversion : item file_correction.val "version" = .ok (.int 1) := rfl
  constructor
  · have hid : item file_correction.val "checkpoint_id" = .ok (.str (.text "checkpoint-00000001")) := rfl
    have hstatus : item file_correction.val "review_status" = .ok (.str (.text "approved")) := rfl
    have hvalid : validate file_correction.val LEARNING_CORRECTION_SCHEMA = .ok () := by decide +kernel
    have hdigest : sha256_digest file_correction.val =
        .ok "sha256:df74043851f40f592fb36286b7a2a530e44065e1630c8ca5c486abb3f8a85f49" :=
      sha256_digest_of (by decide +kernel) (by decide +kernel)
    rw [check_correction, hvalid, ok_bind, raise_if_ok.mpr (by decide), ok_bind, hid, ok_bind, hstatus,
      ok_bind, raise_if_ok.mpr (by decide), ok_bind, hdigest]
    rfl
  · have hoperations : file_patch.val.get? "operations" = some (.arr [file_operation]) := rfl
    have hbytes : canonical_json file_patch.val = .ok (canonical_bytes file_patch.val) :=
      canonical_json_ok.mpr ⟨by decide +kernel, rfl⟩
    have hsmall : ¬ _SIMULATION_PATCH_BYTES < (canonical_bytes file_patch.val).length := by
      rw [Json.canonical_bytes_ascii (by decide +kernel)]
      decide +kernel
    rw [check_patch, hid, ok_bind, hversion, ok_bind, raise_if_ok.mpr (by decide +kernel), ok_bind]
    simp only [hoperations]
    rw [raise_if_ok.mpr (by decide), ok_bind, hbytes, or_error, ok_bind, raise_if_ok.mpr hsmall, ok_bind]
    rfl

theorem file_step :
    (apply_simulation_step (.of (file_workspace "checkpoint-00000001")) file_correction file_patch).map
      (fun result => (result.changed_paths, result.files)) =
        .ok (["a"], [("a", [0x78]), ("b", [0x79])]) := by
  have hoperation : check_operation two_files [] file_operation = .ok ("a", [0x78]) := by
    have hpath : operation_text file_operation "path" = .ok "a" := rfl
    have hfound : two_files.lookup "a" = some [] := rfl
    have hexpected : operation_digest file_operation "expected_content_digest" =
        .ok "sha256:e3b0c44298fc1c149afbf4c8996fb92427ae41e4649b934ca495991b7852b855" := by
      decide +kernel
    have hdigest : operation_digest file_operation "replacement_digest" =
        .ok "sha256:2d711642b726b04401627ca9fbac32f5c8530fb1903cc4db02258717921a4881" := by
      decide +kernel
    have hencoded : operation_text file_operation "replacement_base64" = .ok "eA==" := rfl
    have hnew : sha256_bytes (octets [0x78]) =
        "sha256:2d711642b726b04401627ca9fbac32f5c8530fb1903cc4db02258717921a4881" :=
      sha256_bytes_of (by decide +kernel)
    have hdecoded : b64decode "eA==" = some [0x78] := by decide +kernel
    -- the replacement is canonical, small, of the named digests, and not what was there
    have hbound : ¬ (b64encode [0x78] ≠ "eA==" ∨ _WORKSPACE_FILE_BYTES < ([0x78] : Bytes).length ∨
        sha256_bytes (octets []) ≠
          "sha256:e3b0c44298fc1c149afbf4c8996fb92427ae41e4649b934ca495991b7852b855" ∨
        sha256_bytes (octets [0x78]) ≠
          "sha256:2d711642b726b04401627ca9fbac32f5c8530fb1903cc4db02258717921a4881" ∨
        ([0x78] : Bytes) = []) := by
      rw [two_manifest_digest.1, hnew]
      decide +kernel
    rw [check_operation, raise_if_ok.mpr (by decide), ok_bind, hpath, ok_bind,
      raise_if_ok.mpr (by decide +kernel), ok_bind, or_raise_ok.mpr hfound, ok_bind,
      raise_if_ok.mpr (by decide), ok_bind, hexpected, ok_bind, hdigest, ok_bind, hencoded, ok_bind,
      raise_if_ok.mpr (by decide +kernel), ok_bind, or_raise_ok.mpr hdecoded, ok_bind,
      raise_if_ok.mpr hbound, ok_bind]
    rfl
  have hreplacements : check_operations two_files [file_operation] [] = .ok [("a", [0x78])] := by
    rw [check_operations, hoperation, ok_bind]
    rfl
  have hfiles : (file_workspace "checkpoint-00000001").files = two_files := rfl
  have hclean : assert_no_credential_pattern_content [("a", [0x78])] = .ok () := by decide +kernel
  have hid : item file_correction.val "correction_id" = .ok (.str (.text "correction-1")) := rfl
  have hversion : item file_correction.val "version" = .ok (.int 1) := rfl
  rw [apply_simulation_step, long_id_accepted, ok_bind, file_patch_checked.1, ok_bind,
    file_patch_checked.2, ok_bind]
  simp only [hfiles, hreplacements, ok_bind]
  rw [raise_if_ok.mpr (by decide), ok_bind, raise_if_ok.mpr (by decide), ok_bind, hclean, or_error,
    ok_bind, hid, ok_bind, hversion, ok_bind, conclude, sha256_digest_ok.mpr ⟨by decide +kernel, rfl⟩,
    ok_bind]
  rfl

/-- The materialized workspace takes the step: one file is replaced, the other kept. -/
theorem file_step_applied : ∃ result,
    apply_simulation_step (.of (file_workspace "checkpoint-00000001")) file_correction file_patch =
      .ok result ∧ result.files = [("a", [0x78]), ("b", [0x79])] ∧
      Applied (file_workspace "checkpoint-00000001") file_correction.val file_patch.val result := by
  have hstep := file_step
  have hframe := (step_frame (file_workspace "checkpoint-00000001") file_correction file_patch).1
  cases happly : apply_simulation_step (.of (file_workspace "checkpoint-00000001")) file_correction
      file_patch with
  | error e =>
    rw [happly] at hstep
    exact nomatch hstep
  | ok result =>
    rw [happly] at hstep
    exact ⟨result, rfl, (Prod.mk.inj (Except.ok.inj hstep)).2, hframe result happly⟩

end AppContracts.SimulationBranch
