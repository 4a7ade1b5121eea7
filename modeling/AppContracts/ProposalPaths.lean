/-
The paths of a proposal along the executor: `validate_worker_proposal`, `prepare_change`
and `_build_verifier_input` of one request.

The executor admits a path in any spelling that normalizes to a declared one. The
preparation writes the POSIX form of a path and refuses a leading `./`, and the verifier's
input compares what was prepared with the proposal as it was spelled. It also reads the
snapshot of a bound request, within limits of its own. `paths_agree_iff` says that the
three agree exactly for the proposals whose paths have their POSIX form, over a snapshot
that this reader takes.

The work is in the paths. Two libraries normalize them, `posixpath.normpath` for the
scope and `Path.as_posix` for the plan; on a safe path both keep the same parts, so the
proposal, the plan and the verifier's input name the same files exactly where each path
is its own POSIX form.
-/
import AppContracts.ModelResult
import AppContracts.PublishManifest
import AppContracts.SnapshotAgreement
import AppContracts.VerifierProcess

set_option autoImplicit false

namespace AppContracts.Proposal

open GitHubSnapshot (_is_safe_relative_path as_posix DiskEntry TreeFile _read_pinned_snapshot_files
  collect_files collect_files_some content_bytes sorted_by_path verifier_snapshot_tree_digest
  MAX_VERIFIER_SNAPSHOT_FILES MAX_VERIFIER_SNAPSHOT_TOTAL_BYTES)
open PublicationSeed (starts ends_with contains)
open RepositoryProcess
open VerifierProcess (VerifierInput)

/-! ## Requests -/

/-- What a pinned or remote snapshot binds a request to, and what the snapshot directory
yields. -/
structure BoundSnapshot : Type where
  tree_digest : String
  claim_digest : Option String
  walk : List DiskEntry

/-- `ExecutionRequest`, as far as its proposals depend on it. -/
structure ExecutionRequest : Type where
  process_id : String
  task_id : String
  repository_id : String
  base_commit : String
  declared_change_paths : List String
  test_command : List String
  test_timeout_seconds : ℤ
  snapshot : Option BoundSnapshot

/-- `_validate_identity(value)`. -/
def valid_identity (value : String) : Bool :=
  value != "" && value == strip value && !value.toList.any is_control

/-- What `__post_init__` has checked of a request. -/
structure ExecutionRequest.Valid (request : ExecutionRequest) : Prop where
  identities : ∀ value ∈ [request.process_id, request.task_id, request.repository_id, request.base_commit],
    valid_identity value = true
  declared : request.declared_change_paths ≠ [] ∧
    ∀ path ∈ request.declared_change_paths, _is_safe_relative_path path = true
  command : request.test_command ≠ [] ∧ ∀ part ∈ request.test_command, part ≠ "" ∧ part = strip part
  timeout : 1 ≤ request.test_timeout_seconds ∧ request.test_timeout_seconds ≤ 300

/-- The arguments of `prepare_change` for a proposal: `dict(proposal.changes)` and the
request's own. -/
def ExecutionRequest.preparation (request : ExecutionRequest) (changes : WorkerProposal) (now : Timestamp)
    (workspace_apply : Option WorkspaceApply) : Preparation where
  process_id := .of request.process_id
  task_id := .of request.task_id
  repository_id := .of request.repository_id
  base_commit := .of request.base_commit
  changes := RepositoryProcess.proposal (dict_of changes)
  test_command := .of (request.test_command.map .of)
  now := now
  workspace_apply := workspace_apply.map .of

/-! ## The verifier's input -/

/-- `ExecutionError("execution verifier input: " + message)`. -/
def input_error (message : String) : Exn := ⟨.ExecutionError, "execution verifier input: " ++ message⟩

/-- The loop over the verified contents. -/
def check_contents (declared_paths : List String) : List Change → ℕ → Except Exn Unit
  | [], _ => .ok ()
  | entry :: rest, total_bytes => do
    raise_if (_is_safe_relative_path entry.1 = false ∨ normpath entry.1 ∉ declared_paths)
      (input_error "prepared scope is invalid")
    raise_if (MAX_PROPOSAL_PATH_BYTES < bytes_of entry.1 ∨ MAX_PROPOSAL_FILE_BYTES < bytes_of entry.2)
      (input_error "limits exceeded")
    raise_if (MAX_PROPOSAL_TOTAL_BYTES < total_after total_bytes entry) (input_error "limits exceeded")
    check_contents declared_paths rest (total_after total_bytes entry)

/-- `snapshot_files`: of a bound snapshot, what its directory holds. -/
def ExecutionRequest.snapshot_files (request : ExecutionRequest) : Except Exn (List TreeFile) :=
  match request.snapshot with
  | none => .ok []
  | some snapshot => _read_pinned_snapshot_files snapshot.walk snapshot.tree_digest

/-- `staged[key]`. -/
def staged_text (staged : Json) (key : String) : Except Exn String :=
  or_raise ⟨.KeyError, key⟩ ((staged.get? key).bind Json.text?)

/-- `_build_verifier_input(..)`. -/
def _build_verifier_input (request : ExecutionRequest) (proposal : WorkerProposal) (staged : Json)
    (verified_contents : List Change) (verified_contents_digest : String)
    (replay_result_digest : Option String) : Except Exn VerifierInput := do
  raise_if (verified_contents ≠ sorted_pairs proposal ∨ MAX_PROPOSAL_FILES < verified_contents.length)
    (input_error "prepared scope is invalid")
  check_contents (request.declared_change_paths.map normpath) verified_contents 0
  let snapshot_files ← request.snapshot_files
  let patch_digest ← staged_text staged "patch_digest"
  let evidence_digest ← staged_text staged "evidence_digest"
  let verification_digest ← staged_text staged "verification_digest"
  return {
    process_id := request.process_id
    repository_id := request.repository_id
    base_commit := request.base_commit
    snapshot_tree_digest := request.snapshot.map BoundSnapshot.tree_digest
    declared_change_paths := request.declared_change_paths
    verified_contents := verified_contents
    test_command := request.test_command
    test_timeout_seconds := request.test_timeout_seconds
    patch_digest := patch_digest
    evidence_digest := evidence_digest
    verification_digest := verification_digest
    verified_contents_digest := verified_contents_digest
    evidence_origin := "local_test"
    replay_result_digest := replay_result_digest
    snapshot_files := snapshot_files
    snapshot_claim_digest := request.snapshot.bind BoundSnapshot.claim_digest }

/-! ## The snapshot of a bound request -/

/-- The files of the snapshot directory. -/
def BoundSnapshot.files (snapshot : BoundSnapshot) : List TreeFile :=
  snapshot.walk.filterMap DiskEntry.file?

/-- The verifier's reader takes the snapshot directory: files and directories only, each file and
all files together within the reader's limits, and the digest that the request is bound to. -/
structure BoundSnapshot.Readable (snapshot : BoundSnapshot) : Prop where
  plain : ∀ e ∈ snapshot.walk, e.Plain
  each : ∀ f ∈ snapshot.files, GitHubSnapshot.Readable f
  count : snapshot.files.length ≤ MAX_VERIFIER_SNAPSHOT_FILES
  total : content_bytes snapshot.files ≤ MAX_VERIFIER_SNAPSHOT_TOTAL_BYTES
  digest : verifier_snapshot_tree_digest (sorted_by_path snapshot.files) = .ok snapshot.tree_digest

/-- A request without a bound snapshot, or with one that the reader takes. -/
def ExecutionRequest.Readable (request : ExecutionRequest) : Prop :=
  ∀ snapshot, request.snapshot = some snapshot → snapshot.Readable

/-- The loop gives up at anything but a file or a directory. -/
theorem collect_files_plain {walk : List DiskEntry} {collected result : List TreeFile} {total : ℕ}
    (h : collect_files walk collected total = some result) : ∀ e ∈ walk, e.Plain := by
  induction walk generalizing collected total with
  | nil => exact fun e he => absurd he List.not_mem_nil
  | cons e rest ih =>
    rw [List.forall_mem_cons]
    rw [collect_files] at h
    split at h
    · rename_i hkind
      exact ⟨.inl hkind, ih h⟩
    · rename_i content hkind
      split_ifs at h
      exact ⟨.inr (by rw [DiskEntry.file?, hkind]; rfl), ih h⟩
    · cases h

theorem BoundSnapshot.read_iff (snapshot : BoundSnapshot) :
    (∃ files, _read_pinned_snapshot_files snapshot.walk snapshot.tree_digest = .ok files) ↔
      snapshot.Readable := by
  rw [_read_pinned_snapshot_files]
  constructor
  · rintro ⟨files, h⟩
    split at h
    · cases h
    · rename_i collected hcollected
      have hplain := collect_files_plain hcollected
      obtain ⟨heach, hcount, htotal, rfl⟩ :=
        (collect_files_some hplain (Nat.zero_le _) (Nat.zero_le _)).mp hcollected
      rw [List.length_nil, Nat.zero_add] at hcount
      rw [Nat.zero_add] at htotal
      dsimp only at h
      split_ifs at h with hdigest
      exact ⟨hplain, heach, hcount, htotal, hdigest⟩
  -- the limits are counted while the files are collected, so they are limits on the whole
  · intro h
    have hcollected : collect_files snapshot.walk [] 0 = some snapshot.files := by
      refine (collect_files_some h.plain (Nat.zero_le _) (Nat.zero_le _)).mpr ⟨h.each, ?_, ?_, rfl⟩
      · rw [List.length_nil, Nat.zero_add]
        exact h.count
      · rw [Nat.zero_add]
        exact h.total
    rw [hcollected]
    exact ⟨_, if_pos h.digest⟩

/-- **When the snapshot of a request is read.** -/
theorem ExecutionRequest.snapshot_files_iff (request : ExecutionRequest) :
    (∃ files, request.snapshot_files = .ok files) ↔ request.Readable := by
  rw [ExecutionRequest.snapshot_files, ExecutionRequest.Readable]
  cases request.snapshot with
  | none => exact iff_of_true ⟨[], rfl⟩ fun _ h => by cases h
  | some snapshot =>
    simp only [Option.some.injEq, forall_eq']
    exact snapshot.read_iff

/-! ## One path in two libraries -/

/-- The parts `normpath` keeps of a path without `..`. -/
theorem norm_parts_filter {parts : List String} (h : ".." ∉ parts) (absolute : Bool) (new : List String) :
    norm_parts absolute parts new = new ++ parts.filter fun part => part ≠ "" && part ≠ "." := by
  induction parts generalizing new with
  | nil => simp [norm_parts]
  | cons part rest ih =>
    obtain ⟨hpart, hrest⟩ := not_or.mp (fun hmem => h (List.mem_cons.mpr hmem))
    rw [norm_parts]
    by_cases hdropped : part = "" ∨ part = "."
    · rw [if_pos hdropped, ih hrest, List.filter_cons_of_neg (by simpa [or_iff_not_imp_left] using hdropped)]
    · rw [if_neg hdropped, if_pos (.inl (Ne.symm hpart)), ih hrest,
        List.filter_cons_of_pos (by simpa using not_or.mp hdropped), List.append_assoc]
      rfl

/-- What a safe path is free of. -/
structure SafePath (path : String) : Prop where
  nonempty : path ≠ ""
  stripped : path = strip path
  relative : starts path "/" = false
  backslash : '\\' ∉ path.toList
  slashes : contains path "//" = false
  dot : contains path "/./" = false
  last : ends_with path "/." = false
  control : path.toList.any is_control = false
  parent : ".." ∉ split_path path
  here : path ≠ "."

theorem safe_path {path : String} (h : _is_safe_relative_path path = true) : SafePath path := by
  simp only [_is_safe_relative_path, Bool.and_eq_true, bne_iff_ne, beq_iff_eq, Bool.not_eq_true',
    List.contains_eq_mem, decide_eq_false_iff_not] at h
  obtain ⟨⟨⟨⟨⟨⟨⟨⟨⟨hne, hstrip⟩, hroot⟩, hback⟩, hslashes⟩, hdot⟩, hlast⟩, hcontrol⟩, hparent⟩, hhere⟩ := h
  exact ⟨hne, hstrip, hroot, hback, decide_eq_false hslashes, decide_eq_false hdot, hlast, hcontrol,
    hparent, hhere⟩

/-- `posixpath.normpath` and `Path.as_posix` give a safe path the same form. -/
theorem SafePath.normpath_eq {path : String} (h : SafePath path) : normpath path = as_posix path := by
  have hroot : "/".toList.isPrefixOf path.toList = false := h.relative
  rw [as_posix_relative h.relative, normpath]
  simp only [hroot, Bool.false_eq_true, if_false, List.replicate_zero, bne_self_eq_false]
  rw [norm_parts_filter h.parent, List.nil_append]
  show (if path = "" ∨ String.ofList [] ++ join_path (kept_parts path) = "" then "."
    else String.ofList [] ++ join_path (kept_parts path)) = _
  have hnil : String.ofList [] ++ join_path (kept_parts path) = join_path (kept_parts path) :=
    String.empty_append
  rw [hnil]
  simp only [h.nonempty, false_or]

/-- A path in its POSIX form has no part that is dropped. -/
theorem SafePath.kept {path : String} (h : SafePath path) (hposix : as_posix path = path) :
    "." ∉ split_path path := by
  intro hmem
  rw [as_posix_relative h.relative] at hposix
  split_ifs at hposix with hempty
  · exact h.here hposix.symm
  · have hne : kept_parts path ≠ [] := fun hnil => hempty (by rw [hnil]; rfl)
    have hsplit : split_path (join_path (kept_parts path)) = kept_parts path := split_join_path
      (fun part hpart => no_slash_of_mem_split (List.mem_filter.mp hpart).1) hne
    rw [hposix] at hsplit
    rw [hsplit] at hmem
    simpa using (List.mem_filter.mp hmem).2

/-- A path whose first part is a name starts with it. -/
theorem first_part {path part : String} (hpart : '/' ∉ part.toList) (h : starts path (part ++ "/") = true) :
    part ∈ split_path path := by
  obtain ⟨rest, hrest⟩ := List.isPrefixOf_iff_prefix.mp h
  rw [String.toList_append, List.append_assoc] at hrest
  rw [split_path, ← hrest]
  have hsplit : (part.toList ++ ("/".toList ++ rest)).splitOn '/' = part.toList :: rest.splitOn '/' :=
    List.splitOn_append_cons_self_of_not_mem hpart rest
  rw [hsplit, List.map_cons, String.ofList_toList]
  exact List.mem_cons_self

/-- The preparation accepts a safe path in its POSIX form. -/
theorem SafePath.accepted {path : String} (h : SafePath path) (hposix : as_posix path = path) :
    _safe_relative_path path = .ok (as_posix path) := by
  have hhere : starts path "./" = false := by
    by_contra hstarts
    exact h.kept hposix (first_part (by decide) (Bool.not_eq_false _ ▸ hstarts))
  have hparent : starts path "../" = false := by
    by_contra hstarts
    exact h.parent (first_part (by decide) (Bool.not_eq_false _ ▸ hstarts))
  rw [_safe_relative_path, if_neg]
  simp only [h.relative, h.parent, h.nonempty, h.here, ← h.stripped, hhere, hparent, h.dot, h.last,
    h.slashes, h.backslash, Bool.false_eq_true, ne_eq, not_true_eq_false, or_self, not_false_eq_true]

/-! ## What the verifier's input needs -/

section Contents

variable {declared_paths : List String}

theorem total_after_le (changes : WorkerProposal) (total_bytes : ℕ) :
    total_bytes ≤ changes.foldl total_after total_bytes := by
  induction changes generalizing total_bytes with
  | nil => exact Nat.le_refl _
  | cons change rest ih =>
    have hrest := ih (total_after total_bytes change)
    rw [List.foldl_cons]
    unfold total_after at hrest ⊢
    omega

/-- The loop accepts contents in scope whose bytes are within the limit together. -/
theorem check_contents_ok {contents : List Change} {total_bytes : ℕ}
    (hscope : ∀ entry ∈ contents, _is_safe_relative_path entry.1 = true ∧ normpath entry.1 ∈ declared_paths ∧
      bytes_of entry.1 ≤ MAX_PROPOSAL_PATH_BYTES ∧ bytes_of entry.2 ≤ MAX_PROPOSAL_FILE_BYTES)
    (htotal : contents.foldl total_after total_bytes ≤ MAX_PROPOSAL_TOTAL_BYTES) :
    check_contents declared_paths contents total_bytes = .ok () := by
  induction contents generalizing total_bytes with
  | nil => rfl
  | cons entry rest ih =>
    obtain ⟨⟨hsafe, hdeclared, hpath, hcontent⟩, hrest⟩ := List.forall_mem_cons.mp hscope
    rw [List.foldl_cons] at htotal
    have hle := total_after_le rest (total_after total_bytes entry)
    rw [check_contents, raise_if_ok.mpr (by simp [hsafe, hdeclared]), ok_bind,
      raise_if_ok.mpr (by omega), ok_bind, raise_if_ok.mpr (by omega), ok_bind]
    exact ih hrest htotal

/-- The order of the changes does not matter for their bytes. -/
theorem total_perm {contents changes : List Change} (h : contents.Perm changes) :
    contents.foldl total_after 0 = changes.foldl total_after 0 :=
  haveI : RightCommutative total_after := ⟨fun total_bytes a b => by unfold total_after; omega⟩
  h.foldl_eq 0

/-- The contents of an accepted proposal pass the loop in their sorted order. -/
theorem sorted_contents_ok {changes : WorkerProposal} (hne : changes ≠ [])
    (h : Admitted declared_paths changes [] 0) :
    check_contents declared_paths (sorted_pairs changes) 0 = .ok () := by
  have hperm : (sorted_pairs changes).Perm changes := sorted_items_perm changes
  refine check_contents_ok (fun entry hentry => h.scope entry (hperm.mem_iff.mp hentry)) ?_
  rw [total_perm hperm]
  exact h.total hne

end Contents

/-- What a prepared change stages. -/
theorem prepared_staged {unified_diff : UnifiedDiff} {run : Run} {request : Preparation}
    {before after : Sandbox} {prepared : PreparedChange}
    (h : prepare_change unified_diff run request before = (.ok prepared, after)) :
    ∃ a patch_digest evidence_digest verification_digest created_at expires_at, prepared.staged_change =
      staged_of a patch_digest evidence_digest verification_digest created_at expires_at := by
  unfold prepare_change at h
  split at h
  · exact nomatch (Prod.mk.inj h).1
  · rename_i a _
    split at h
    · exact nomatch (Prod.mk.inj h).1
    · split at h
      · exact nomatch (Prod.mk.inj h).1
      · split_ifs at h
        · exact nomatch (Prod.mk.inj h).1
        · split at h
          · exact nomatch (Prod.mk.inj h).1
          · have hverify := (Prod.mk.inj h).1
            simp only [verify_change, bind_ok] at hverify
            obtain ⟨_, -, created_at, -, evidence_digest, -, _, -, verification_digest, -, expires_at, -,
              hverify⟩ := hverify
            obtain rfl := Except.ok.inj hverify
            exact ⟨a, _, _, _, _, _, rfl⟩

section Accepted

variable {request : ExecutionRequest} {changes : WorkerProposal}

/-- **When the verifier's input accepts** what was prepared for an accepted proposal. -/
theorem verifier_input_iff (haccepted : changes ≠ [] ∧ changes.length ≤ MAX_PROPOSAL_FILES ∧
      Admitted (request.declared_change_paths.map normpath) changes [] 0)
    {a : Arguments} {patch_digest evidence_digest verification_digest created_at expires_at digest : String}
    {replay : Option String} (verified_contents : List Change) :
    (∃ input, _build_verifier_input request changes
        (staged_of a patch_digest evidence_digest verification_digest created_at expires_at)
        verified_contents digest replay = .ok input) ↔
      request.Readable ∧ verified_contents = sorted_pairs changes := by
  obtain ⟨hne, hlength, hadmitted⟩ := haccepted
  constructor
  · rintro ⟨input, h⟩
    rw [_build_verifier_input] at h
    obtain ⟨hcontents, h⟩ := raise_if_bind.mp h
    obtain ⟨-, -, h⟩ := bind_ok.mp h
    obtain ⟨files, hfiles, -⟩ := bind_ok.mp h
    exact ⟨request.snapshot_files_iff.mp ⟨files, hfiles⟩,
      not_not.mp fun hother => hcontents (.inl hother)⟩
  · rintro ⟨hreadable, rfl⟩
    obtain ⟨files, hfiles⟩ := request.snapshot_files_iff.mpr hreadable
    have hsame : (sorted_pairs changes).length = changes.length :=
      (sorted_items_perm changes).length_eq
    rw [_build_verifier_input, raise_if_ok.mpr (by simp [hsame, hlength]), ok_bind,
      sorted_contents_ok hne hadmitted, ok_bind, hfiles, ok_bind]
    exact ⟨_, rfl⟩

end Accepted

/-! ## Preparing an accepted proposal -/

/-- A callback that dispatches once and returns, as that of a gate that admits the step. -/
def Dispatches (callback : WorkspaceApply) : Prop :=
  ∀ (σ : Type) (step : Unit → σ → Except Exn Unit × σ) (before after : σ),
    step () before = (.ok (), after) → callback.exec step before = (.ok (), after)

/-- Applying the plan inside such a callback. -/
theorem run_apply_dispatches {unified_diff : UnifiedDiff} {workspace_apply : Option WorkspaceApply}
    (hdispatch : ∀ callback, workspace_apply = some callback → Dispatches callback)
    {planned : List Planned} {before after : Applied}
    (h : apply_planned_changes unified_diff planned before = (.ok (), after)) :
    run_apply unified_diff workspace_apply planned before = (.ok (), after) := by
  unfold run_apply
  split
  · exact h
  · rename_i callback
    have hexec := hdispatch callback rfl Guarded (guarded_apply unified_diff planned) ⟨before, false⟩
      ⟨after, true⟩ (by rw [guarded_apply, h]; rfl)
    rw [hexec]
    rfl

section Prepared

variable {unified_diff : UnifiedDiff} {run : Run} {request : ExecutionRequest} {source : Tree}
  {changes : WorkerProposal} {now : Timestamp} {workspace_apply : Option WorkspaceApply}

/-- The keys of the dict are the paths of the proposal, which are distinct. -/
theorem preparation_changes {declared : List String} (h : Admitted declared changes [] 0) :
    (request.preparation changes now workspace_apply).changes = RepositoryProcess.proposal changes := by
  have hdistinct : (changes.map Prod.fst).Nodup := by
    have hnodup := h.distinct.1
    rw [← Function.comp_def normpath Prod.fst, ← List.map_map] at hnodup
    exact hnodup.of_map
  exact congrArg RepositoryProcess.proposal (dict_of_distinct hdistinct)

/-- Paths prepared as they are spelled have their POSIX form, and every text is new. -/
theorem prepared_canonical {declared : List String} (hadmitted : Admitted declared changes [] 0)
    {prepared : PreparedChange} {sandbox : Sandbox}
    (h : prepare_change unified_diff run (request.preparation changes now workspace_apply)
      (Sandbox.create source) = (.ok prepared, sandbox))
    (hcontents : prepared.verified_contents = sorted_pairs changes) :
    ∀ change ∈ changes, as_posix change.1 = change.1 ∧
      read_text source (as_posix change.1) ≠ .ok change.2 := by
  obtain ⟨planned, front, hplan, hperm, -, hfront, -⟩ := prepared_plan (preparation_changes hadmitted) h
  intro change hchange
  have hmem : change ∈ prepared.verified_contents :=
    hcontents ▸ (sorted_items_perm changes).mem_iff.mpr hchange
  obtain ⟨p, hp, heq⟩ := List.mem_map.mp (hperm.mem_iff.mp hmem)
  obtain ⟨item, hitem, hposix⟩ := (hplan.mem_iff _).mp ⟨p, (hfront p hp).1, rfl⟩
  have hpath : p.posix = as_posix item.1 := (Prod.mk.inj hposix).1.symm
  obtain ⟨relative, hrelative⟩ := (hfront p hp).2
  rw [hpath] at hrelative
  have hself := as_posix_safe (hplan.safe item hitem) hrelative
  have hsame : as_posix change.1 = change.1 := by
    rw [← heq]
    show as_posix p.posix = p.posix
    rw [hpath, hself]
  refine ⟨hsame, ?_⟩
  rw [hsame, ← heq]
  exact hplan.changed p (hfront p hp).1

end Prepared

section Request

variable {unified_diff : UnifiedDiff} {run : Run} {request : ExecutionRequest} {source : Tree}
  {changes : WorkerProposal} {workspace_apply : Option WorkspaceApply}

/-- What the head of `prepare_change` makes of a valid request and an accepted proposal. -/
theorem preparation_arguments (hvalid : request.Valid) (hne : changes ≠ [])
    {declared : List String} (hadmitted : Admitted declared changes [] 0)
    (created_at expires_at : Except Exn String) :
    checked_arguments (request.preparation changes (.aware created_at expires_at) workspace_apply) =
      .ok ⟨request.process_id, request.task_id, request.repository_id, request.base_commit,
        changes.map fun change => (change.1, .of change.2), request.test_command, created_at, expires_at,
        workspace_apply⟩ := by
  have hidentity : ∀ label value, value ∈ [request.process_id, request.task_id, request.repository_id,
      request.base_commit] → checked_label label (.of value) = .ok value := by
    intro label value hvalue
    have hnonempty := hvalid.identities value hvalue
    simp only [valid_identity, Bool.and_eq_true, bne_iff_ne] at hnonempty
    exact if_neg hnonempty.1.1
  have hitems : (changes.map fun change => ((.of change.1, .of change.2) : Arg String × Arg String)) ≠ [] :=
    fun hnil => hne (List.map_eq_nil_iff.mp hnil)
  have hchecked : (changes.map fun change => ((.of change.1, .of change.2) : Arg String × Arg String)).mapM
      (checked_item "change proposal has invalid path") =
        .ok (changes.map fun change => (change.1, .of change.2)) := by
    rw [List.mapM_map]
    exact mapM_map fun change hchange =>
      checked_item_ok.mpr ⟨safe_ne_empty (hadmitted.scope change hchange).1, rfl⟩
  have hcommand : checked_command (.of (request.test_command.map .of)) = .ok request.test_command := by
    rw [checked_command, raise_if_ok.mpr (fun hnil => hvalid.command.1 (List.map_eq_nil_iff.mp hnil)),
      ok_bind, List.mapM_map]
    have hparts : request.test_command.mapM (fun part => command_part (.of part)) =
        .ok (request.test_command.map id) :=
      mapM_map fun part hpart => if_neg (hvalid.command.2 part hpart).1
    rwa [List.map_id] at hparts
  have happly : checked_apply (workspace_apply.map .of) = .ok workspace_apply := by
    cases workspace_apply <;> rfl
  rw [checked_arguments, preparation_changes hadmitted, RepositoryProcess.proposal,
    dict_items_of_ne hitems, ok_bind]
  simp only [ExecutionRequest.preparation]
  rw [hcommand, ok_bind, happly, ok_bind, hidentity _ _ (by simp), ok_bind, hidentity _ _ (by simp), ok_bind,
    hidentity _ _ (by simp), ok_bind, hidentity _ _ (by simp), ok_bind, hchecked, ok_bind]
  rfl

/-- At each declared path there is a UTF-8 text file, with another text than the proposal
has for that path. -/
def holds_other_texts (source : Tree) (request : ExecutionRequest) (changes : WorkerProposal) : Prop :=
  ∀ declared ∈ request.declared_change_paths, ∃ content text,
    source (as_posix declared) = some (.file content) ∧ decode_utf8 content = some text ∧
      ∀ change ∈ changes, normpath change.1 = normpath declared → text ≠ change.2

/-- The tests pass on the source with the proposed texts. -/
def tests_pass (run : Run) (request : ExecutionRequest) (source : Tree) (changes : WorkerProposal) : Prop :=
  ∃ stdout stderr, (run request.test_command (proposed_tree source changes)).1 =
    .ok ⟨.of 0, .of stdout, .of stderr⟩

/-- A change in scope has a text to replace. -/
theorem source_text (hvalid : request.Valid)
    (hadmitted : Admitted (request.declared_change_paths.map normpath) changes [] 0)
    (hsource : holds_other_texts source request changes) {change : Change} (hchange : change ∈ changes) :
    ∃ old, read_text source (as_posix change.1) = .ok old := by
  obtain ⟨hsafe, hscope, -⟩ := hadmitted.scope change hchange
  obtain ⟨declared, hdeclared, hnorm⟩ := List.mem_map.mp hscope
  obtain ⟨content, text, hfile, htext, -⟩ := hsource declared hdeclared
  have hposix : as_posix change.1 = as_posix declared := by
    rw [← (safe_path hsafe).normpath_eq, ← (safe_path (hvalid.declared.2 declared hdeclared)).normpath_eq,
      hnorm]
  rw [hposix, read_text, hfile]
  dsimp only
  rw [htext]
  exact ⟨_, rfl⟩

/-- `prepare_change` accepts the proposal as it is spelled, and the verifier's input accepts
the pair. -/
def agrees (unified_diff : UnifiedDiff) (run : Run) (request : ExecutionRequest) (source : Tree)
    (changes : WorkerProposal) (now : Timestamp) (workspace_apply : Option WorkspaceApply)
    (verified_contents_digest : String) (replay_result_digest : Option String) : Prop :=
  ∃ prepared sandbox input,
    prepare_change unified_diff run (request.preparation changes now workspace_apply)
      (Sandbox.create source) = (.ok prepared, sandbox) ∧
    prepared.verified_contents = sorted_pairs changes ∧
    _build_verifier_input request changes prepared.staged_change prepared.verified_contents
      verified_contents_digest replay_result_digest = .ok input

/-- A proposal in POSIX form that changes every text is prepared as it is spelled. -/
theorem agrees_of_canonical (hvalid : request.Valid) (haccepted : changes ≠ [] ∧
      changes.length ≤ MAX_PROPOSAL_FILES ∧
      Admitted (request.declared_change_paths.map normpath) changes [] 0)
    (hdiff : ∀ old new fromfile tofile, old ≠ new → ∃ line ∈ unified_diff old new fromfile tofile, line ≠ "")
    (hsource : holds_other_texts source request changes) (htests : tests_pass run request source changes)
    (hdispatch : ∀ callback, workspace_apply = some callback → Dispatches callback)
    (hreadable : request.Readable)
    (hcanonical : ∀ change ∈ changes, as_posix change.1 = change.1 ∧
      read_text source (as_posix change.1) ≠ .ok change.2)
    (created_at expires_at digest : String) (replay : Option String) :
    agrees unified_diff run request source changes (.aware (.ok created_at) (.ok expires_at)) workspace_apply
      digest replay := by
  obtain ⟨hne, hlength, hadmitted⟩ := haccepted
  obtain ⟨stdout, stderr, hrun⟩ := htests
  have hpath : ∀ change ∈ changes, SafePath change.1 := fun change hchange =>
    safe_path (hadmitted.scope change hchange).1
  have hsafe : ∀ change ∈ changes, _safe_relative_path change.1 = .ok (as_posix change.1) ∧
      _safe_relative_path (as_posix change.1) = .ok (as_posix change.1) := by
    intro change hchange
    have hself := (hcanonical change hchange).1
    have haccept := (hpath change hchange).accepted hself
    exact ⟨haccept, by rw [hself] at haccept ⊢; exact haccept⟩
  -- a canonical path is its own `normpath`, so the two notions of a repeated path agree
  have hdistinct : (changes.map fun change => as_posix change.1).Nodup := by
    have hnodup := hadmitted.distinct.1
    rwa [List.map_congr_left fun change hchange => (hpath change hchange).normpath_eq] at hnodup
  have hchanges : ∀ change ∈ changes, changes_text source change := by
    intro change hchange
    obtain ⟨hself, hother⟩ := hcanonical change hchange
    obtain ⟨old, hold⟩ := source_text hvalid hadmitted hsource hchange
    refine ⟨fun hnul => ?_, old, hold, fun heq => hother (heq ▸ hold)⟩
    rw [hself] at hnul
    have hcontrol := List.any_eq_false.mp (hpath change hchange).control _ hnul
    exact hcontrol (by decide)
  have harguments := @preparation_arguments request changes workspace_apply hvalid hne _ hadmitted
    (.ok created_at) (.ok expires_at)
  obtain ⟨prepared, hprepared⟩ := prepare_change_accepts changes _ harguments rfl
    (fun _ _ _ => run_apply_dispatches hdispatch) rfl rfl hne hsafe hdistinct hchanges hdiff hrun
  -- the prepared contents are sorted by path already
  have hcontents : prepared.verified_contents = sorted_pairs changes := by
    obtain ⟨_, planned, -, -, -, hplan, -, hcontents, -⟩ :=
      prepare_change_ok (preparation_changes hadmitted) hprepared
    rw [hcontents, (hplan.applied unified_diff fun change hchange => ⟨_, (hsafe change hchange).2⟩).2,
      hplan.changes]
    have hsorted : (sorted_items changes).map (fun change => (as_posix change.1, change.2)) =
        sorted_items changes := by
      rw [List.map_congr_left (g := id) fun change hchange => ?_, List.map_id]
      rw [(hcanonical change ((sorted_items_perm changes).mem_iff.mp hchange)).1]
      rfl
    rw [hsorted, sorted_pairs, sorted_pairs, sorted_items,
      List.Pairwise.insertionSort_eq (sorted_items_pairwise changes)]
  obtain ⟨a, _, _, _, _, _, hstaged⟩ := prepared_staged hprepared
  obtain ⟨input, hinput⟩ := (verifier_input_iff ⟨hne, hlength, hadmitted⟩
    prepared.verified_contents).mpr ⟨hreadable, hcontents⟩
  exact ⟨prepared, _, input, hprepared, hcontents, hstaged ▸ hinput⟩

end Request

/-! ## The agreement -/

/-- **Where the paths of a proposal agree.** What the parser returns is accepted; an accepted
proposal is prepared as it is spelled, and then accepted for the verifier, exactly when the
verifier's reader takes the snapshot of a bound request, every path has its POSIX form and no
source file reads as the text proposed for it. -/
theorem paths_agree_iff (unified_diff : UnifiedDiff)
    (hdiff : ∀ old new fromfile tofile, old ≠ new → ∃ line ∈ unified_diff old new fromfile tofile, line ≠ "")
    (run : Run) (request : ExecutionRequest) (hvalid : request.Valid) :
    (∀ result changes, parse_model_result result request.declared_change_paths = .ok (.proposal changes) →
      validate_worker_proposal (raw_proposal changes) request.declared_change_paths = .ok changes) ∧
    ∀ proposal changes, validate_worker_proposal proposal request.declared_change_paths = .ok changes →
      ∀ source, holds_other_texts source request changes → tests_pass run request source changes →
      ∀ workspace_apply, (∀ callback, workspace_apply = some callback → Dispatches callback) →
      ∀ created_at expires_at digest replay,
      (agrees unified_diff run request source changes (.aware (.ok created_at) (.ok expires_at)) workspace_apply
          digest replay ↔
        request.Readable ∧ ∀ change ∈ changes, as_posix change.1 = change.1 ∧
          read_text source (as_posix change.1) ≠ .ok change.2) := by
  refine ⟨fun result changes h => parsed_validated h, ?_⟩
  intro proposal changes hproposal source hsource htests workspace_apply hdispatch created_at expires_at
    digest replay
  obtain ⟨-, haccepted⟩ := validate_ok_iff.mp hproposal
  constructor
  -- the verifier's input was built, so the snapshot was read and the contents are the proposal's
  · rintro ⟨prepared, sandbox, input, hprepared, hcontents, hinput⟩
    obtain ⟨a, _, _, _, _, _, hstaged⟩ := prepared_staged hprepared
    rw [hstaged] at hinput
    obtain ⟨hreadable, -⟩ := (verifier_input_iff haccepted _).mp ⟨input, hinput⟩
    exact ⟨hreadable, prepared_canonical haccepted.2.2 hprepared hcontents⟩
  · rintro ⟨hreadable, hcanonical⟩
    exact agrees_of_canonical hvalid haccepted hdiff hsource htests hdispatch hreadable hcanonical created_at
      expires_at digest replay

/-! ## One request in two spellings -/

/-- A request for one file. -/
def calculator_request : ExecutionRequest where
  process_id := "process-1"
  task_id := "task-1"
  repository_id := "repository-1"
  base_commit := "base-1"
  declared_change_paths := ["calculator.py"]
  test_command := ["python3", "-m", "unittest"]
  test_timeout_seconds := 30
  snapshot := none

theorem calculator_request_valid : calculator_request.Valid where
  identities := by
    simp only [calculator_request, List.forall_mem_cons]
    exact ⟨by decide, by decide, by decide, by decide, fun _ h => by cases h⟩
  declared := ⟨by decide, by
    simp only [calculator_request, List.forall_mem_cons]
    exact ⟨by decide, fun _ h => by cases h⟩⟩
  command := ⟨by decide, by
    simp only [calculator_request, List.forall_mem_cons]
    exact ⟨by decide, by decide, by decide, fun _ h => by cases h⟩⟩
  timeout := by decide

/-- The diff of two lines is not empty. -/
theorem line_diff_ne (old new fromfile tofile : String) (h : old ≠ new) :
    ∃ line ∈ line_diff old new fromfile tofile, line ≠ "" := by
  rw [line_diff, if_neg h]
  exact ⟨"@@ -1 +1 @@\n", by simp, by decide⟩

/-- The snapshot of the calculator has another text than `"new\n"`. -/
theorem calculator_holds (path : String) :
    holds_other_texts calculator calculator_request [(path, "new\n")] := by
  simp only [holds_other_texts, calculator_request, List.mem_singleton, forall_eq]
  refine ⟨encode_utf8 "old\n", "old\n", if_pos (by decide), decode_utf8_some.mpr rfl, fun _ => by decide⟩

theorem paths_agree_calculator :
    agrees line_diff passing_tests calculator_request calculator [("calculator.py", "new\n")]
      (.aware (.ok "2026-09-04T12:00:00Z") (.ok "2026-09-05T12:00:00Z")) none "digest" none := by
  have hposix : as_posix "calculator.py" = "calculator.py" := by decide
  have hread : read_text calculator "calculator.py" = .ok "old\n" :=
    (read_back_iff (if_pos rfl)).mpr (by decide)
  refine ((paths_agree_iff line_diff line_diff_ne passing_tests calculator_request
    calculator_request_valid).2 (raw_proposal [("calculator.py", "new\n")]) [("calculator.py", "new\n")]
    (by decide) calculator (calculator_holds _) ⟨_, _, rfl⟩ none (fun _ h => nomatch h)
    _ _ _ _).mpr ⟨fun _ h => (nomatch h), ?_⟩
  simp only [List.mem_singleton, forall_eq, hposix, hread]
  exact ⟨trivial, by decide⟩

/-- The executor admits `calculator.py/` for the declared `calculator.py`. What is prepared is
`calculator.py`, which is not the proposal. -/
theorem trailing_slash_refused :
    ¬ ∀ (unified_diff : UnifiedDiff) (run : Run) (request : ExecutionRequest) (source : Tree)
      (proposal : RawProposal) (changes : WorkerProposal), request.Valid →
      (∀ old new fromfile tofile, old ≠ new → ∃ line ∈ unified_diff old new fromfile tofile, line ≠ "") →
      validate_worker_proposal proposal request.declared_change_paths = .ok changes →
      holds_other_texts source request changes → tests_pass run request source changes →
      request.Readable →
      agrees unified_diff run request source changes
        (.aware (.ok "2026-09-04T12:00:00Z") (.ok "2026-09-05T12:00:00Z")) none "digest" none := by
  intro hall
  have hvalidated : validate_worker_proposal (raw_proposal [("calculator.py/", "new\n")])
      calculator_request.declared_change_paths = .ok [("calculator.py/", "new\n")] := by decide
  obtain ⟨prepared, sandbox, input, hprepared, hcontents, -⟩ := hall line_diff passing_tests
    calculator_request calculator _ _ calculator_request_valid line_diff_ne hvalidated
    (calculator_holds _) ⟨_, _, rfl⟩ fun _ h => nomatch h
  have hcanonical := prepared_canonical (validate_ok_iff.mp hvalidated).2.2.2 hprepared hcontents
  exact absurd (hcanonical _ (List.mem_singleton.mpr rfl)).1 (by decide)

end AppContracts.Proposal
