/-
The manifest of a prepared change: `build_publish_manifest` on the sandbox that
`prepare_change` leaves.

`prepare_change` records the proposed text as it was given, and
`build_publish_manifest` compares it with what text mode reads back. Reading
turns every carriage return into a newline, so a proposal with a carriage return
is accepted, verified, and then refused as changed.

Most of the module follows `prepare_change` to the workspace it leaves (`PlanOf`, `written`): the
test run may change any file, and the manifest reads the proposed ones again. Where the two
texts agree is a question about text mode alone, answered in its first section.
-/
import AppContracts.RepositoryProcess
import AppContracts.Lib.ExceptLoop

set_option autoImplicit false

namespace AppContracts.RepositoryProcess

open GitHubSnapshot (as_posix json_text)
open PublicationSeed (starts ends_with contains)
open Interleave (Prog)

/-! ## Text mode -/

/-- Text mode never gives a carriage return. -/
theorem return_not_mem (cs : List Char) : '\r' ∉ universal_newlines cs := by
  fun_induction universal_newlines cs with
  | case1 => exact List.not_mem_nil
  | case2 rest ih => simpa using ih
  | case3 rest _ ih => simpa using ih
  | case4 c rest _ hne ih =>
    rw [List.mem_cons, not_or]
    exact ⟨fun h => hne h.symm, ih⟩

/-- Text without a carriage return is read as it stands. -/
theorem universal_newlines_eq {cs : List Char} (h : '\r' ∉ cs) : universal_newlines cs = cs := by
  fun_induction universal_newlines cs with
  | case1 => rfl
  | case2 rest _ => exact absurd List.mem_cons_self h
  | case3 rest _ _ => exact absurd List.mem_cons_self h
  | case4 c rest _ _ ih => rw [ih fun hmem => h (List.mem_cons_of_mem _ hmem)]

theorem read_text_no_return {tree : Tree} {path text : String} (h : read_text tree path = .ok text) :
    '\r' ∉ text.toList := by
  unfold read_text at h
  split at h
  · split at h
    · rw [← Except.ok.inj h, String.toList_ofList]
      exact return_not_mem _
    · exact nomatch h
  · exact nomatch h
  · exact nomatch h

/-- Reading a written text. -/
theorem read_text_written {tree : Tree} {path text : String}
    (h : tree path = some (.file (encode_utf8 text))) :
    read_text tree path = .ok (String.ofList (universal_newlines text.toList)) := by
  rw [read_text, h]
  simp only [decode_utf8_some.mpr rfl]

/-- A written text is read back as it was exactly when it has no carriage return. -/
theorem read_back_iff {tree : Tree} {path text : String}
    (h : tree path = some (.file (encode_utf8 text))) :
    read_text tree path = .ok text ↔ '\r' ∉ text.toList := by
  refine ⟨read_text_no_return, fun hreturn => ?_⟩
  rw [read_text_written h, universal_newlines_eq hreturn, String.ofList_toList]

/-- A path that is read is a file. -/
theorem is_file_of_read {tree : Tree} {path text : String} (h : read_text tree path = .ok text) :
    is_file tree path = true := by
  unfold read_text at h
  unfold is_file
  split at h
  · rename_i heq
    rw [heq]
  · exact nomatch h
  · exact nomatch h

theorem contained_of_file {tree : Tree} {path : String} (hnul : Char.ofNat 0 ∉ path.toList)
    (h : is_file tree path = true) : _contained_file tree path = .ok path := by
  have hne : tree path ≠ some .outside := by
    intro houtside
    rw [is_file, houtside] at h
    exact Bool.false_ne_true h
  rw [_contained_file, if_neg hnul, if_neg hne]

theorem contained_ok {tree : Tree} {path file : String} (h : _contained_file tree path = .ok file) :
    file = path ∧ Char.ofNat 0 ∉ path.toList := by
  unfold _contained_file at h
  split_ifs at h with hnul
  exact ⟨(Except.ok.inj h).symm, hnul⟩

/-! ## Accepted proposals -/

/-- A proposal with text contents. -/
def proposal (items : List (String × String)) : Changes :=
  .dict (items.map fun item => (.of item.1, .of item.2))

theorem checked_item_ok {message key : String} {value : Arg String} {x : String × Arg String} :
    checked_item message (.of key, value) = .ok x ↔ key ≠ "" ∧ (key, value) = x := by
  simp only [checked_item, guard_ok, Except.ok.injEq, ne_eq]

theorem dict_items_ok {empty malformed : String} {changes : Changes}
    {items : List (Arg String × Arg String)} (h : dict_items empty malformed changes = .ok items) :
    changes = .dict items ∧ items ≠ [] := by
  unfold dict_items at h
  split at h
  · exact nomatch h
  · rename_i items' hne
    rw [Except.ok.inj h] at hne ⊢
    exact ⟨rfl, hne⟩
  · exact nomatch h
  · exact nomatch h

theorem dict_items_of_ne {empty malformed : String} {items : List (Arg String × Arg String)}
    (h : items ≠ []) : dict_items empty malformed (.dict items) = .ok items := by
  cases items with
  | nil => exact absurd rfl h
  | cons item rest => rfl

/-- What the checks of `prepare_change` pass on. -/
theorem checked_arguments_ok {request : Preparation} {a : Arguments}
    (h : checked_arguments request = .ok a) {items : List (String × String)}
    (hitems : request.changes = proposal items) :
    items ≠ [] ∧ (∀ item ∈ items, item.1 ≠ "") ∧ checked_command request.test_command = .ok a.command ∧
      a.items = items.map fun item => (item.1, .of item.2) := by
  simp only [checked_arguments, bind_ok] at h
  obtain ⟨raw, hraw, command, hcommand, _, _, _, _, _, _, _, _, _, _, checked, hchecked, moment, _, h⟩ := h
  obtain rfl := Except.ok.inj h
  obtain ⟨hdict, hne⟩ := dict_items_ok hraw
  rw [hitems, proposal, Changes.dict.injEq] at hdict
  subst hdict
  rw [List.mapM_map] at hchecked
  refine ⟨fun hnil => hne (by rw [hnil]; rfl), fun item hmem => ?_, hcommand, ?_⟩
  · obtain ⟨x, hx⟩ := mem_of_mapM hchecked hmem
    exact (checked_item_ok.mp hx).1
  · exact map_of_mapM hchecked fun item x hx => (checked_item_ok.mp hx).2.symm

/-- What the loop over the sorted items gives. -/
theorem normalize_ok {items : List (String × Arg String)} {seen : List String}
    {normalized : List Normalized} (h : normalize items seen = .ok normalized) :
    normalized = items.map (fun item => ⟨as_posix item.1, item.1, item.2⟩) ∧
      (normalized.map Normalized.posix).Nodup ∧ (∀ n ∈ normalized, n.posix ∉ seen) ∧
      ∀ item ∈ items, _safe_relative_path item.1 = .ok (as_posix item.1) := by
  -- on the items, with the paths seen so far
  induction items generalizing seen normalized with
  | nil =>
    obtain rfl := Except.ok.inj h
    simp
  | cons item rest ih =>
    obtain ⟨name, content⟩ := item
    simp only [normalize, bind_ok, exists_unit, raise_if_ok] at h
    obtain ⟨posix, hposix, hseen, normalized', hrest, h⟩ := h
    obtain rfl := Except.ok.inj h
    obtain ⟨heq, hnodup, hfresh, hsafe⟩ := ih hrest
    obtain rfl := safe_path_ok hposix
    refine ⟨by rw [List.map_cons, heq], ?_, ?_, ?_⟩
    · rw [List.map_cons, List.nodup_cons]
      refine ⟨fun hmem => ?_, hnodup⟩
      obtain ⟨n, hn, hname⟩ := List.mem_map.mp hmem
      exact hfresh n hn (hname ▸ List.mem_cons_self)
    · intro n hn
      rcases List.mem_cons.mp hn with rfl | hn
      · exact hseen
      · exact fun hmem => hfresh n hn (List.mem_cons_of_mem _ hmem)
    · intro other hother
      rcases List.mem_cons.mp hother with rfl | hother
      · exact hposix
      · exact hsafe other hother

/-- What a turn of the planning loop establishes. -/
theorem plan_item_ok {sandbox : Sandbox} {name text : String} {p : Planned}
    (h : plan_item sandbox ⟨as_posix name, name, .of text⟩ = .ok p) :
    p.posix = as_posix name ∧ p.new_content = text ∧
      (is_file sandbox.snapshot p.posix = true ∧ Char.ofNat 0 ∉ p.posix.toList) ∧
      read_text sandbox.snapshot p.posix ≠ .ok p.new_content := by
  simp only [plan_item, bind_ok, exists_unit, raise_if_ok] at h
  obtain ⟨relative, hrelative, content, hcontent, file, hfile, -, -, his, old, hold, hother, h⟩ := h
  obtain rfl := Except.ok.inj h
  obtain rfl := safe_path_ok hrelative
  obtain ⟨rfl, hnul⟩ := contained_ok hfile
  refine ⟨rfl, (Except.ok.inj hcontent).symm, ⟨by simpa using his, hnul⟩, fun heq => ?_⟩
  exact hother (Except.ok.inj (hold.symm.trans heq))

theorem sorted_items_map {ν μ : Type} (f : ν → μ) (items : List (String × ν)) :
    sorted_items (items.map fun item => (item.1, f item.2)) =
      (sorted_items items).map fun item => (item.1, f item.2) :=
  (List.map_insertionSort (r := fun a b : String × ν => a.1 ≤ b.1)
    (s := fun a b : String × μ => a.1 ≤ b.1) (fun item => (item.1, f item.2)) items
    (fun _ _ _ _ => Iff.rfl)).symm

theorem sorted_items_perm {ν : Type} (items : List (String × ν)) : (sorted_items items).Perm items :=
  List.perm_insertionSort _ _

/-- A plan for a proposal: its changes in the order of their names, each of a
source file of its own. -/
structure PlanOf (source : Tree) (items : List (String × String)) (planned : List Planned) : Prop where
  changes : planned.map (fun p => (p.posix, p.new_content)) =
    (sorted_items items).map fun item => (as_posix item.1, item.2)
  distinct : (planned.map Planned.posix).Nodup
  file : ∀ p ∈ planned, is_file source p.posix = true ∧ Char.ofNat 0 ∉ p.posix.toList
  changed : ∀ p ∈ planned, read_text source p.posix ≠ .ok p.new_content
  safe : ∀ item ∈ items, _safe_relative_path item.1 = .ok (as_posix item.1)

/-- The planning loop over text contents. -/
theorem plan_items_ok {sandbox : Sandbox} {items : List (String × String)} {planned : List Planned}
    (h : List.Forall₂ (fun item p => plan_item sandbox ⟨as_posix item.1, item.1, .of item.2⟩ = .ok p)
      items planned) :
    planned.map (fun p => (p.posix, p.new_content)) = items.map (fun item => (as_posix item.1, item.2)) ∧
      (∀ p ∈ planned, is_file sandbox.snapshot p.posix = true ∧ Char.ofNat 0 ∉ p.posix.toList) ∧
      ∀ p ∈ planned, read_text sandbox.snapshot p.posix ≠ .ok p.new_content := by
  induction h with
  | nil => exact ⟨rfl, fun p hp => (nomatch hp), fun p hp => (nomatch hp)⟩
  | cons hp _ ih =>
    obtain ⟨hposix, hcontent, hfile, hchanged⟩ := plan_item_ok hp
    exact ⟨by rw [List.map_cons, List.map_cons, ih.1, hposix, hcontent],
      List.forall_mem_cons.mpr ⟨hfile, ih.2.1⟩, List.forall_mem_cons.mpr ⟨hchanged, ih.2.2⟩⟩

theorem plan_ok {sandbox : Sandbox} {items : List (String × String)} {planned : List Planned}
    (h : plan sandbox (items.map fun item => (item.1, .of item.2)) = .ok planned) :
    PlanOf sandbox.snapshot items planned := by
  simp only [plan, bind_ok, sorted_items_map] at h
  obtain ⟨normalized, hnormalize, hplan⟩ := h
  obtain ⟨rfl, hnodup, -, hsafe⟩ := normalize_ok hnormalize
  rw [List.map_map] at hplan hnodup
  rw [List.mapM_map, mapM_ok] at hplan
  obtain ⟨hchanges, hfile, hchanged⟩ := plan_items_ok hplan
  refine ⟨hchanges, ?_, hfile, hchanged, fun item hitem => ?_⟩
  · have hposix := congrArg (List.map Prod.fst) hchanges
    rw [List.map_map, List.map_map] at hposix
    rw [List.map_map] at hnodup
    exact hposix.symm ▸ hnodup
  · exact hsafe (item.1, .of item.2) (List.mem_map.mpr
      ⟨item, (sorted_items_perm items).mem_iff.mpr hitem, rfl⟩)

theorem PlanOf.mem_iff {source : Tree} {items : List (String × String)} {planned : List Planned}
    (h : PlanOf source items planned) (change : String × String) :
    (∃ p ∈ planned, (p.posix, p.new_content) = change) ↔
      ∃ item ∈ items, (as_posix item.1, item.2) = change := by
  rw [← List.mem_map, h.changes, List.mem_map]
  exact exists_congr fun item => and_congr_left fun _ => (sorted_items_perm items).mem_iff

/-! ## Written workspaces -/

/-- The workspace with the planned files. -/
def written (workspace : Tree) : List Planned → Tree
  | [] => workspace
  | p :: rest => written (workspace.put p.posix (encode_utf8 p.new_content)) rest

/-- A path that is still a file after a write to a file. -/
theorem is_file_put {tree : Tree} {path other : String} (content : Bytes)
    (h : is_file tree other = true) : is_file (tree.put path content) other = true := by
  by_cases heq : other = path
  · rw [is_file, heq, Tree.put_same]
  · rw [is_file, Tree.put_other tree content heq]
    exact h

theorem write_text_file {tree : Tree} {path : String} (text : String) (h : is_file tree path = true) :
    write_text tree path text = (.ok (), tree.put path (encode_utf8 text)) := by
  unfold is_file at h
  unfold write_text
  split at h
  · rename_i heq
    rw [heq]
  · exact absurd h Bool.false_ne_true

/-- Writing a plan whose paths are safe and files: every file is written and recorded. -/
theorem apply_ok (unified_diff : UnifiedDiff) {planned : List Planned} {s : Applied}
    (hfile : ∀ p ∈ planned, is_file s.workspace p.posix = true ∧ Char.ofNat 0 ∉ p.posix.toList)
    (hsafe : ∀ p ∈ planned, _safe_relative_path p.posix = .ok p.posix) :
    (apply_planned_changes unified_diff planned s).1 = .ok () ∧
      (apply_planned_changes unified_diff planned s).2.workspace = written s.workspace planned ∧
      (apply_planned_changes unified_diff planned s).2.verified_pairs =
        s.verified_pairs ++ planned.map (fun p => (p.posix, p.new_content)) ∧
      (apply_planned_changes unified_diff planned s).2.patch_parts =
        s.patch_parts ++ planned.flatMap fun p =>
          unified_diff p.old_content p.new_content ("a/" ++ p.posix) ("b/" ++ p.posix) := by
  -- on the plan: writing one file keeps every other one a file
  induction planned generalizing s with
  | nil => exact ⟨rfl, rfl, (List.append_nil _).symm, (List.append_nil _).symm⟩
  | cons p rest ih =>
    obtain ⟨hp, hnul⟩ := hfile p List.mem_cons_self
    have hentry : workspace_file s.workspace p = .ok p.posix := by
      rw [workspace_file, hsafe p List.mem_cons_self]
      exact contained_of_file hnul hp
    have hstep : apply_planned_changes unified_diff (p :: rest) s =
        apply_planned_changes unified_diff rest
          (s.record unified_diff p (s.workspace.put p.posix (encode_utf8 p.new_content))) := by
      rw [apply_planned_changes, hentry]
      dsimp only
      rw [write_text_file p.new_content hp]
    rw [hstep]
    obtain ⟨hok, hworkspace, hpairs, hparts⟩ := ih
      (s := s.record unified_diff p (s.workspace.put p.posix (encode_utf8 p.new_content)))
      (fun q hq => ⟨is_file_put _ (hfile q (List.mem_cons_of_mem _ hq)).1,
        (hfile q (List.mem_cons_of_mem _ hq)).2⟩)
      (fun q hq => hsafe q (List.mem_cons_of_mem _ hq))
    refine ⟨hok, hworkspace, ?_, ?_⟩
    · rw [hpairs, Applied.record, List.map_cons, List.append_assoc]
      rfl
    · rw [hparts, Applied.record, List.flatMap_cons, List.append_assoc]

/-- What is recorded is a first part of the plan, and its paths are safe. -/
theorem recorded_front (unified_diff : UnifiedDiff) (planned : List Planned) (s : Applied) :
    ∃ front rest, planned = front ++ rest ∧
      (apply_planned_changes unified_diff planned s).2.verified_pairs =
        s.verified_pairs ++ front.map (fun p => (p.posix, p.new_content)) ∧
      ∀ p ∈ front, ∃ relative, _safe_relative_path p.posix = .ok relative := by
  induction planned generalizing s with
  | nil => exact ⟨[], [], rfl, (List.append_nil _).symm, fun p hp => nomatch hp⟩
  | cons p planned ih =>
    -- an item that cannot be written stops the loop, which keeps what it has recorded
    have hnone : ∃ front rest, p :: planned = front ++ rest ∧
        s.verified_pairs = s.verified_pairs ++ front.map (fun p => (p.posix, p.new_content)) ∧
        ∀ p ∈ front, ∃ relative, _safe_relative_path p.posix = .ok relative :=
      ⟨[], p :: planned, rfl, (List.append_nil _).symm, fun p hp => nomatch hp⟩
    unfold apply_planned_changes
    split
    · exact hnone
    · rename_i file hfile
      simp only [workspace_file, bind_ok] at hfile
      obtain ⟨relative, hrelative, -⟩ := hfile
      split
      · exact hnone
      · rename_i workspace _
        obtain ⟨front, rest, hplanned, hpairs, hsafe⟩ := ih (s.record unified_diff p workspace)
        refine ⟨p :: front, rest, by rw [hplanned, List.cons_append], ?_, fun q hq => ?_⟩
        · rw [hpairs, Applied.record, List.map_cons, List.append_assoc]
          rfl
        · rcases List.mem_cons.mp hq with rfl | hq
          · exact ⟨relative, hrelative⟩
          · exact hsafe q hq

theorem written_other {workspace : Tree} {planned : List Planned} {path : String}
    (h : ∀ p ∈ planned, p.posix ≠ path) : written workspace planned path = workspace path := by
  induction planned generalizing workspace with
  | nil => rfl
  | cons p rest ih =>
    rw [written, ih fun q hq => h q (List.mem_cons_of_mem _ hq),
      Tree.put_other _ _ (h p List.mem_cons_self).symm]

theorem written_mem {workspace : Tree} {planned : List Planned}
    (hdistinct : (planned.map Planned.posix).Nodup) {p : Planned} (hp : p ∈ planned) :
    written workspace planned p.posix = some (.file (encode_utf8 p.new_content)) := by
  induction planned generalizing workspace with
  | nil => exact nomatch hp
  | cons q rest ih =>
    rw [List.map_cons, List.nodup_cons] at hdistinct
    rcases List.mem_cons.mp hp with rfl | hp
    · rw [written, written_other, Tree.put_same]
      exact fun r hr heq => hdistinct.1 (heq ▸ List.mem_map_of_mem hr)
    · exact ih hdistinct.2 hp

/-- The workspace the tests see: the source tree with the proposed files. -/
def proposed_tree (source : Tree) (items : List (String × String)) : Tree := fun path =>
  match items.find? fun item => as_posix item.1 = path with
  | some item => some (.file (encode_utf8 item.2))
  | none => source path

theorem PlanOf.written_eq {source : Tree} {items : List (String × String)} {planned : List Planned}
    (h : PlanOf source items planned) : written source planned = proposed_tree source items := by
  funext path
  unfold proposed_tree
  split
  · rename_i item hfind
    have hpath : as_posix item.1 = path := by simpa using List.find?_some hfind
    obtain ⟨p, hp, heq⟩ := (h.mem_iff _).mpr ⟨item, List.mem_of_find?_eq_some hfind, rfl⟩
    obtain ⟨hposix, hcontent⟩ := Prod.mk.inj heq
    rw [← hpath, ← hposix, written_mem h.distinct hp, hcontent]
  · rename_i hfind
    refine written_other fun p hp heq => ?_
    obtain ⟨item, hitem, hchange⟩ := (h.mem_iff _).mp ⟨p, hp, rfl⟩
    have hnone := List.find?_eq_none.mp hfind item hitem
    rw [decide_eq_true_eq] at hnone
    exact hnone ((Prod.mk.inj hchange).1.trans heq)

theorem PlanOf.proposed {source : Tree} {items : List (String × String)} {planned : List Planned}
    (h : PlanOf source items planned) {item : String × String} (hitem : item ∈ items) :
    proposed_tree source items (as_posix item.1) = some (.file (encode_utf8 item.2)) := by
  obtain ⟨p, hp, hchange⟩ := (h.mem_iff _).mpr ⟨item, hitem, rfl⟩
  obtain ⟨hposix, hcontent⟩ := Prod.mk.inj hchange
  rw [← h.written_eq, ← hposix, written_mem h.distinct hp, hcontent]

/-! ## The callback -/

/-- Once the callback has been used, further uses change nothing. -/
theorem guarded_used (unified_diff : UnifiedDiff) (planned : List Planned) (callback : WorkspaceApply)
    (applied : Applied) :
    (callback.exec (guarded_apply unified_diff planned) ⟨applied, true⟩).2 = ⟨applied, true⟩ := by
  induction callback with
  | ret _ => rfl
  | raise _ => rfl
  | call op next ih => exact ih _

/-- Whatever `workspace_apply` does, the changes are applied at most once. -/
theorem guarded_unused (unified_diff : UnifiedDiff) (planned : List Planned) (callback : WorkspaceApply)
    (applied : Applied) :
    (callback.exec (guarded_apply unified_diff planned) ⟨applied, false⟩).2 = ⟨applied, false⟩ ∨
      (callback.exec (guarded_apply unified_diff planned) ⟨applied, false⟩).2 =
        ⟨(apply_planned_changes unified_diff planned applied).2, true⟩ := by
  cases callback with
  | ret _ => exact Or.inl rfl
  | raise _ => exact Or.inl rfl
  | call op next => exact Or.inr (guarded_used unified_diff planned (next _) _)

/-- The writing that returns has applied the changes once. -/
theorem run_apply_ok {unified_diff : UnifiedDiff} {workspace_apply : Option WorkspaceApply}
    {planned : List Planned} {applied applied' : Applied}
    (h : run_apply unified_diff workspace_apply planned applied = (.ok (), applied')) :
    applied' = (apply_planned_changes unified_diff planned applied).2 := by
  unfold run_apply at h
  split at h
  · rw [h]
  · rename_i callback
    have hcases := guarded_unused unified_diff planned callback applied
    split at h
    · exact nomatch (Prod.mk.inj h).1
    · rename_i s hexec
      rw [hexec] at hcases
      split_ifs at h with hused
      · obtain rfl := (Prod.mk.inj h).2
        rcases hcases with rfl | rfl
        · exact absurd hused Bool.false_ne_true
        · rfl
      · exact nomatch (Prod.mk.inj h).1

/-! ## The prepared change -/

/-- What a prepared change fixes of the patch and of the contents. -/
theorem verify_change_ok {a : Arguments} {applied : Applied} {result : TestResult}
    {prepared : PreparedChange} (h : verify_change a applied result = .ok prepared) :
    prepared.verified_contents = sorted_pairs applied.verified_pairs ∧
      (prepared.staged_change.get? "patch_digest").bind Json.text? =
        some (sha256_bytes (utf8_bytes prepared.patch)) := by
  simp only [verify_change, bind_ok] at h
  obtain ⟨_, -, created_at, -, evidence_digest, -, _, -, verification_digest, -, expires_at, -, h⟩ := h
  obtain rfl := Except.ok.inj h
  refine ⟨rfl, ?_⟩
  rw [staged_of]
  simp only [Json.get?_obj_cons, String.reduceEq, if_false, if_true, Option.bind_some, json_text,
    Json.text?]

/-- A change that `prepare_change` prepares: the plan, what was applied, and the
workspace the tests left. -/
theorem prepare_change_ok {unified_diff : UnifiedDiff} {run : Run} {request : Preparation}
    {source : Tree} {items : List (String × String)} (hitems : request.changes = proposal items)
    {prepared : PreparedChange} {sandbox : Sandbox}
    (h : prepare_change unified_diff run request (Sandbox.create source) = (.ok prepared, sandbox)) :
    ∃ command planned, checked_command request.test_command = .ok command ∧ items ≠ [] ∧
      (∀ item ∈ items, item.1 ≠ "") ∧ PlanOf source items planned ∧
      sandbox.workspace = (run command
        (apply_planned_changes unified_diff planned ⟨source, [], [], []⟩).2.workspace).2 ∧
      prepared.verified_contents = sorted_pairs
        (apply_planned_changes unified_diff planned ⟨source, [], [], []⟩).2.verified_pairs ∧
      (prepared.staged_change.get? "patch_digest").bind Json.text? =
        some (sha256_bytes (utf8_bytes prepared.patch)) := by
  unfold prepare_change at h
  split at h
  · exact nomatch (Prod.mk.inj h).1
  · rename_i a harguments
    obtain ⟨hne, hkeys, hcommand, hraw⟩ := checked_arguments_ok harguments hitems
    rw [hraw] at h
    split at h
    · exact nomatch (Prod.mk.inj h).1
    · rename_i planned hplan
      split at h
      · exact nomatch (Prod.mk.inj h).1
      · rename_i applied happly
        -- a callback that returns has applied the plan exactly once
        obtain rfl := run_apply_ok happly
        split_ifs at h
        · exact nomatch (Prod.mk.inj h).1
        · split at h
          · exact nomatch (Prod.mk.inj h).1
          · rename_i result workspace hrun
            obtain ⟨hverify, rfl⟩ := Prod.mk.inj h
            obtain ⟨hcontents, hdigest⟩ := verify_change_ok hverify
            refine ⟨a.command, planned, hcommand, hne, hkeys, plan_ok hplan, ?_, hcontents, hdigest⟩
            exact (congrArg Prod.snd hrun).symm

/-! ## Paths -/

theorem safe_relative {value posix : String} (h : _safe_relative_path value = .ok posix) :
    starts value "/" = false ∧ value ≠ "." := by
  rw [_safe_relative_path] at h
  split_ifs at h with hunsafe
  simp only [not_or] at hunsafe
  exact ⟨by simpa using hunsafe.1, hunsafe.2.2.2.1⟩

/-- The parts a path keeps. -/
def kept_parts (value : String) : List String :=
  (split_path value).filter fun part => part ≠ "" && part ≠ "."

/-- The POSIX form of a relative path: its parts joined. -/
theorem as_posix_relative {value : String} (h : starts value "/" = false) :
    as_posix value = if join_path (kept_parts value) = "" then "." else join_path (kept_parts value) := by
  have hroot : "/".toList.isPrefixOf value.toList = false := h
  simp only [as_posix, hroot, Bool.false_eq_true, if_false, String.empty_append]
  rfl

/-- The POSIX form of a safe path is its own POSIX form, if it is safe. -/
theorem as_posix_safe {value relative : String}
    (hvalue : _safe_relative_path value = .ok (as_posix value))
    (h : _safe_relative_path (as_posix value) = .ok relative) :
    as_posix (as_posix value) = as_posix value := by
  have hvalue' := as_posix_relative (safe_relative hvalue).1
  by_cases hempty : join_path (kept_parts value) = ""
  · rw [if_pos hempty] at hvalue'
    exact absurd hvalue' (safe_relative h).2
  · rw [if_neg hempty] at hvalue'
    have hne : kept_parts value ≠ [] := fun hnil => hempty (by rw [hnil]; rfl)
    have hsplit : split_path (as_posix value) = kept_parts value := by
      rw [hvalue']
      exact split_join_path (fun part hpart => no_slash_of_mem_split (List.mem_filter.mp hpart).1) hne
    have hkept : kept_parts (as_posix value) = kept_parts value := by
      rw [kept_parts, hsplit]
      exact List.filter_eq_self.mpr fun part hpart => (List.mem_filter.mp hpart).2
    rw [as_posix_relative (safe_relative h).1, hkept, if_neg hempty, ← hvalue']

theorem sorted_items_pairwise {ν : Type} (items : List (String × ν)) :
    (sorted_items items).Pairwise fun a b => a.1 ≤ b.1 := by
  have : Std.Total fun a b : String × ν => a.1 ≤ b.1 := ⟨fun a b => String.le_total a.1 b.1⟩
  have : IsTrans (String × ν) fun a b => a.1 ≤ b.1 := ⟨fun _ _ _ h h' => String.le_trans h h'⟩
  exact List.pairwise_insertionSort _ _

theorem PlanOf.safe_posix {source : Tree} {items : List (String × String)} {planned : List Planned}
    (h : PlanOf source items planned)
    (hsafe : ∀ item ∈ items, ∃ relative, _safe_relative_path (as_posix item.1) = .ok relative) :
    ∀ p ∈ planned, _safe_relative_path p.posix = .ok p.posix := by
  intro p hp
  obtain ⟨item, hitem, hchange⟩ := (h.mem_iff _).mp ⟨p, hp, rfl⟩
  obtain ⟨relative, hrelative⟩ := hsafe item hitem
  have hposix := as_posix_safe (h.safe item hitem) hrelative
  rw [← (Prod.mk.inj hchange).1, hrelative, safe_path_ok hrelative, hposix]

/-- A proposal whose paths are safe is applied as a whole. -/
theorem PlanOf.applied {source : Tree} {items : List (String × String)} {planned : List Planned}
    (h : PlanOf source items planned) (unified_diff : UnifiedDiff)
    (hsafe : ∀ item ∈ items, ∃ relative, _safe_relative_path (as_posix item.1) = .ok relative) :
    (apply_planned_changes unified_diff planned ⟨source, [], [], []⟩).2.workspace =
        proposed_tree source items ∧
      (apply_planned_changes unified_diff planned ⟨source, [], [], []⟩).2.verified_pairs =
        planned.map fun p => (p.posix, p.new_content) := by
  obtain ⟨-, hworkspace, hpairs, -⟩ :=
    apply_ok unified_diff (s := ⟨source, [], [], []⟩) h.file (h.safe_posix hsafe)
  exact ⟨hworkspace.trans h.written_eq, hpairs⟩

/-! ## Accepting a proposal -/

theorem encodable_json_texts (texts : List String) :
    Json.encodable_items false (texts.map json_text) = true := by
  rw [Json.encodable_items_iff]
  intro j hj
  obtain ⟨s, -, rfl⟩ := List.mem_map.mp hj
  rfl

/-- Passing tests are verified. -/
theorem verify_change_accepts {a : Arguments} {created_at expires_at : String}
    (hcreated : a.created_at = .ok created_at) (hexpires : a.expires_at = .ok expires_at)
    (applied : Applied) (stdout stderr : String) :
    ∃ prepared, verify_change a applied ⟨.of 0, .of stdout, .of stderr⟩ = .ok prepared := by
  have hevidence : ∀ patch_digest report_digest,
      (evidence_of a applied "passed" patch_digest report_digest created_at).encodable false = true := by
    intro patch_digest report_digest
    have hone : (Json.int 1).encodable false = true := by decide
    have hitems : (Json.arr (applied.source_digests.map json_text)).encodable false = true := by
      rw [Json.encodable]
      exact encodable_json_texts _
    rw [evidence_of, Json.encodable, Json.encodable_fields_iff]
    simp only [List.forall_mem_cons]
    exact ⟨⟨rfl, hone⟩, ⟨rfl, rfl⟩, ⟨rfl, rfl⟩, ⟨rfl, rfl⟩, ⟨rfl, rfl⟩, ⟨rfl, rfl⟩, ⟨rfl, rfl⟩,
      ⟨rfl, hitems⟩, ⟨rfl, rfl⟩, ⟨rfl, rfl⟩, ⟨rfl, rfl⟩, fun _ h => by cases h⟩
  have hverification : ∀ evidence_digest,
      (verification_of a "passed" evidence_digest created_at).encodable false = true := fun _ => rfl
  simp only [verify_change, checked_result, bind_ok, hcreated, hexpires, exists_unit, raise_if_ok,
    sha256_digest_ok, hevidence, hverification, if_true, true_and, Except.ok.injEq, exists_eq_left',
    exists_eq_left, not_true_eq_false, ne_eq, not_false_eq_true]
  exact ⟨_, rfl⟩

/-- The loop over distinct safe paths. -/
theorem normalize_accepts (items : List (String × Arg String)) (seen : List String)
    (hsafe : ∀ item ∈ items, _safe_relative_path item.1 = .ok (as_posix item.1))
    (hdistinct : (items.map fun item => as_posix item.1).Nodup)
    (hseen : ∀ item ∈ items, as_posix item.1 ∉ seen) :
    normalize items seen = .ok (items.map fun item => ⟨as_posix item.1, item.1, item.2⟩) := by
  induction items generalizing seen with
  | nil => rfl
  | cons item rest ih =>
    rw [List.map_cons, List.nodup_cons] at hdistinct
    have hrest : normalize rest (as_posix item.1 :: seen) =
        .ok (rest.map fun item => ⟨as_posix item.1, item.1, item.2⟩) := by
      refine ih _ (fun other hother => hsafe other (List.mem_cons_of_mem _ hother)) hdistinct.2
        fun other hother hmem => ?_
      rcases List.mem_cons.mp hmem with heq | hmem
      · exact hdistinct.1 (heq ▸ List.mem_map_of_mem hother)
      · exact hseen other (List.mem_cons_of_mem _ hother) hmem
    simp only [normalize, bind_ok, exists_unit, raise_if_ok]
    exact ⟨_, hsafe item List.mem_cons_self, hseen item List.mem_cons_self, _, hrest, rfl⟩

/-- The source of a text to change: a file with another text. -/
def changes_text (source : Tree) (item : String × String) : Prop :=
  Char.ofNat 0 ∉ (as_posix item.1).toList ∧
    ∃ old, read_text source (as_posix item.1) = .ok old ∧ old ≠ item.2

theorem plan_item_accepts {source : Tree} {item : String × String}
    (hsafe : _safe_relative_path item.1 = .ok (as_posix item.1)) (h : changes_text source item) :
    ∃ p, plan_item (Sandbox.create source) ⟨as_posix item.1, item.1, .of item.2⟩ = .ok p := by
  obtain ⟨hnul, old, hread, hne⟩ := h
  have hfile := is_file_of_read hread
  have hentry := contained_of_file hnul hfile
  simp only [plan_item, bind_ok, exists_unit, raise_if_ok]
  exact ⟨_, _, hsafe, _, rfl, _, hentry, _, hentry, by simp [Sandbox.create, hfile], _, hread, hne, rfl⟩

/-- A plan changes every text. -/
theorem planned_changed {sandbox : Sandbox} {items : List (String × Arg String)} {planned : List Planned}
    (h : plan sandbox items = .ok planned) : ∀ p ∈ planned, p.old_content ≠ p.new_content := by
  simp only [plan, bind_ok] at h
  obtain ⟨normalized, -, hplan⟩ := h
  rw [mapM_ok] at hplan
  induction hplan with
  | nil => exact fun p hp => nomatch hp
  | cons hp _ ih =>
    intro p hmem
    rcases List.mem_cons.mp hmem with rfl | hmem
    · simp only [plan_item, bind_ok, exists_unit, raise_if_ok] at hp
      obtain ⟨_, -, _, -, _, -, _, -, -, _, -, hne, hp⟩ := hp
      rw [← Except.ok.inj hp]
      exact hne
    · exact ih p hmem

theorem plan_accepts {source : Tree} {items : List (String × String)}
    (hsafe : ∀ item ∈ items, _safe_relative_path item.1 = .ok (as_posix item.1))
    (hdistinct : (items.map fun item => as_posix item.1).Nodup)
    (hchanges : ∀ item ∈ items, changes_text source item) :
    ∃ planned, plan (Sandbox.create source) (items.map fun item => (item.1, .of item.2)) = .ok planned := by
  have hmem : ∀ item, item ∈ sorted_items items → item ∈ items :=
    fun item => (sorted_items_perm items).mem_iff.mp
  have hnormalize : normalize ((sorted_items items).map fun item => (item.1, .of item.2)) [] =
      .ok ((sorted_items items).map fun item => ⟨as_posix item.1, item.1, .of item.2⟩) := by
    have hloop := normalize_accepts
      ((sorted_items items).map fun item => ((item.1, .of item.2) : String × Arg String)) []
      (fun item hitem => by
        obtain ⟨other, hother, rfl⟩ := List.mem_map.mp hitem
        exact hsafe other (hmem other hother))
      (by rw [List.map_map]; exact ((sorted_items_perm items).map _).nodup_iff.mpr hdistinct)
      (fun _ _ => List.not_mem_nil)
    rwa [List.map_map] at hloop
  obtain ⟨planned, hplanned⟩ := mapM_exists
    (f := fun item : String × String =>
      plan_item (Sandbox.create source) ⟨as_posix item.1, item.1, .of item.2⟩)
    fun item hitem => plan_item_accepts (hsafe item (hmem item hitem)) (hchanges item (hmem item hitem))
  refine ⟨planned, ?_⟩
  simp only [plan, bind_ok, sorted_items_map, hnormalize, Except.ok.injEq, exists_eq_left']
  rw [List.mapM_map]
  exact hplanned

theorem join_ne_empty {parts : List String} (h : ∃ part ∈ parts, part ≠ "") : String.join parts ≠ "" := by
  obtain ⟨part, hmem, hne⟩ := h
  intro hjoin
  have hchars := congrArg String.toList hjoin
  rw [String.toList_join] at hchars
  have hpart := List.flatMap_eq_nil_iff.mp hchars part hmem
  exact hne (String.toList_eq_nil_iff.mp hpart)

/-- What is accepted: text changes at distinct safe paths, with passing tests. -/
theorem prepare_change_accepts {unified_diff : UnifiedDiff} {run : Run} {request : Preparation}
    {source : Tree} (items : List (String × String)) (a : Arguments)
    {created_at expires_at stdout stderr : String} (harguments : checked_arguments request = .ok a)
    (hraw : a.items = items.map fun item => (item.1, .of item.2))
    (happly : ∀ planned before after, apply_planned_changes unified_diff planned before = (.ok (), after) →
      run_apply unified_diff a.workspace_apply planned before = (.ok (), after))
    (hcreated : a.created_at = .ok created_at) (hexpires : a.expires_at = .ok expires_at)
    (hne : items ≠ [])
    (hsafe : ∀ item ∈ items, _safe_relative_path item.1 = .ok (as_posix item.1) ∧
      _safe_relative_path (as_posix item.1) = .ok (as_posix item.1))
    (hdistinct : (items.map fun item => as_posix item.1).Nodup)
    (hchanges : ∀ item ∈ items, changes_text source item)
    (hdiff : ∀ old new fromfile tofile, old ≠ new →
      ∃ line ∈ unified_diff old new fromfile tofile, line ≠ "")
    (hrun : (run a.command (proposed_tree source items)).1 = .ok ⟨.of 0, .of stdout, .of stderr⟩) :
    ∃ prepared, prepare_change unified_diff run request (Sandbox.create source) =
      (.ok prepared, ⟨source, (run a.command (proposed_tree source items)).2⟩) := by
  obtain ⟨planned, hplanned⟩ := plan_accepts (fun item hitem => (hsafe item hitem).1) hdistinct hchanges
  have hplan : PlanOf source items planned := plan_ok hplanned
  have hposix := hplan.safe_posix fun item hitem => ⟨_, (hsafe item hitem).2⟩
  obtain ⟨hok, hworkspace, -, hparts⟩ :=
    apply_ok unified_diff (s := ⟨source, [], [], []⟩) hplan.file hposix
  rw [hplan.written_eq] at hworkspace
  generalize happlied : apply_planned_changes unified_diff planned ⟨source, [], [], []⟩ = applied at *
  obtain ⟨outcome, applied⟩ := applied
  obtain rfl : outcome = .ok () := hok
  -- the patch is not empty, since every planned file differs from its source
  have hpatch : String.join applied.patch_parts ≠ "" := by
    obtain ⟨item, hitem⟩ := List.exists_mem_of_ne_nil items hne
    obtain ⟨p, hp, -⟩ := (hplan.mem_iff _).mpr ⟨item, hitem, rfl⟩
    obtain ⟨line, hline, hempty⟩ := hdiff _ _ ("a/" ++ p.posix) ("b/" ++ p.posix)
      (planned_changed hplanned p hp)
    refine join_ne_empty ⟨line, ?_, hempty⟩
    rw [hparts, List.nil_append]
    exact List.mem_flatMap.mpr ⟨p, hp, hline⟩
  obtain ⟨prepared, hverify⟩ := verify_change_accepts hcreated hexpires applied stdout stderr
  refine ⟨prepared, ?_⟩
  rw [← hworkspace] at hrun ⊢
  rw [← hraw] at hplanned
  rw [prepare_change, harguments]
  dsimp only
  rw [hplanned]
  dsimp only
  rw [show (Sandbox.create source).workspace = source from rfl, happly _ _ _ happlied]
  dsimp only
  rw [if_neg hpatch]
  rcases htests : run a.command applied.workspace with ⟨answer, workspace⟩
  rw [htests] at hrun
  obtain rfl : answer = .ok _ := hrun
  dsimp only
  rw [hverify]
  rfl

/-! ## The manifest -/

/-- The entry of a verified file. -/
def publishable (change : String × String) : PublishableFile :=
  ⟨change.1, change.2, sha256_bytes (utf8_bytes change.2)⟩

theorem set_item_fresh {d : List (String × String)} {key value : String} (h : key ∉ d.map Prod.fst) :
    set_item d key value = d ++ [(key, value)] := if_neg h

/-- The dict of pairs with distinct keys has these pairs. -/
theorem dict_of_distinct {pairs : List (String × String)} (h : (pairs.map Prod.fst).Nodup) :
    dict_of pairs = pairs := by
  have hstep : ∀ (rest d : List (String × String)), ((d ++ rest).map Prod.fst).Nodup →
      rest.foldl (fun d item => set_item d item.1 item.2) d = d ++ rest := by
    intro rest
    induction rest with
    | nil => exact fun d _ => (List.append_nil d).symm
    | cons item rest ih =>
      intro d hd
      have hfresh : item.1 ∉ d.map Prod.fst := by
        rw [List.map_append, List.map_cons] at hd
        exact fun hmem => (List.nodup_append.mp hd).2.2 _ hmem _ List.mem_cons_self rfl
      rw [List.foldl_cons, set_item_fresh hfresh, ih (d ++ [item]) (by simpa using hd),
        List.append_assoc]
      rfl
  exact hstep pairs [] h

/-- When a file of the manifest is the verified one. -/
theorem manifest_file_iff {workspace : Tree} {contents : List (String × String)}
    (hdistinct : (contents.map Prod.fst).Nodup) {change : String × String} (hmem : change ∈ contents) :
    manifest_file workspace contents change.1 = .ok (publishable change) ↔
      _safe_relative_path change.1 = .ok change.1 ∧ Char.ofNat 0 ∉ change.1.toList ∧
        read_text workspace change.1 = .ok change.2 := by
  have hlookup : contents.lookup change.1 = some change.2 := lookup_of_mem hdistinct hmem
  simp only [manifest_file, bind_ok, exists_unit, raise_if_ok, hlookup]
  constructor
  · rintro ⟨relative, hsafe, file, hfile, -, content, hread, -, h⟩
    obtain ⟨rfl, rfl, -⟩ := PublishableFile.mk.inj (Except.ok.inj h)
    obtain ⟨rfl, hnul⟩ := contained_ok hfile
    exact ⟨hsafe, hnul, hread⟩
  · rintro ⟨hsafe, hnul, hread⟩
    have hfile := is_file_of_read hread
    exact ⟨_, hsafe, _, contained_of_file hnul hfile, by simp [hfile], _, hread, by simp, rfl⟩

/-- The keys of a sorted dict are in order. -/
theorem sorted_keys {contents : List (String × String)}
    (h : contents.Pairwise fun a b => a.1 ≤ b.1) :
    (contents.map Prod.fst).insertionSort (· ≤ ·) = contents.map Prod.fst :=
  (List.pairwise_map.mpr h).insertionSort_eq

/-- When the manifest of a proposal is what was verified. -/
theorem build_ok_iff {sandbox : Sandbox} {prepared : PreparedChange} {items : List (String × String)}
    (hdigest : (prepared.staged_change.get? "patch_digest").bind Json.text? =
      some (sha256_bytes (utf8_bytes prepared.patch)))
    (hsorted : prepared.verified_contents.Pairwise fun a b => a.1 ≤ b.1)
    (hdistinct : (prepared.verified_contents.map Prod.fst).Nodup) (hne : items ≠ [])
    (hkeys : ∀ item ∈ items, item.1 ≠ "")
    (hsafe : ∀ item ∈ items, _safe_relative_path item.1 = .ok (as_posix item.1))
    (hposix : (items.map fun item => as_posix item.1).Nodup) :
    build_publish_manifest sandbox prepared (proposal items) =
        .ok (prepared.verified_contents.map publishable) ↔
      (items.map fun item => as_posix item.1).toFinset =
          (prepared.verified_contents.map Prod.fst).toFinset ∧
        ∀ change ∈ prepared.verified_contents, _safe_relative_path change.1 = .ok change.1 ∧
          Char.ofNat 0 ∉ change.1.toList ∧ read_text sandbox.workspace change.1 = .ok change.2 := by
  have hcheck : check_patch_digest prepared = .ok () := by
    obtain ⟨value, hvalue, htext⟩ := Option.bind_eq_some_iff.mp hdigest
    rw [check_patch_digest, hvalue]
    exact raise_if_ok.mpr (not_not.mpr htext)
  have hraw : (items.map fun item => ((.of item.1, .of item.2) : Arg String × Arg String)) ≠ [] :=
    fun hnil => hne (List.map_eq_nil_iff.mp hnil)
  have hchecked : (items.map fun item => ((.of item.1, .of item.2) : Arg String × Arg String)).mapM
      (checked_item "publish manifest request has invalid path") =
        .ok (items.map fun item => (item.1, .of item.2)) := by
    rw [List.mapM_map]
    exact mapM_map fun item hitem => checked_item_ok.mpr ⟨hkeys item hitem, rfl⟩
  have hrequested : (items.map fun item => ((item.1, .of item.2) : String × Arg String)).mapM
      (fun item => _safe_relative_path item.1) = .ok (items.map fun item => as_posix item.1) := by
    rw [List.mapM_map]
    exact mapM_map hsafe
  -- a file of the manifest is read again and compared, so it must read back as what was prepared
  have hmanifest : (prepared.verified_contents.map Prod.fst).mapM
      (manifest_file sandbox.workspace prepared.verified_contents) =
        .ok (prepared.verified_contents.map publishable) ↔
      ∀ change ∈ prepared.verified_contents, _safe_relative_path change.1 = .ok change.1 ∧
        Char.ofNat 0 ∉ change.1.toList ∧ read_text sandbox.workspace change.1 = .ok change.2 := by
    rw [List.mapM_map, mapM_ok, List.forall₂_map_right_iff, List.forall₂_same]
    exact forall₂_congr fun change hmem => manifest_file_iff hdistinct hmem
  simp only [build_publish_manifest, hcheck, bind_ok, exists_unit, true_and, raise_if_ok,
    dict_of_distinct hdistinct, proposal, dict_items_of_ne hraw, Except.ok.injEq, exists_eq_left',
    hchecked, hrequested, hposix.dedup, List.length_map, ne_eq, not_not, sorted_keys hsorted]
  constructor
  · rintro ⟨-, hset, manifest, hfiles, -, rfl⟩
    exact ⟨hset, hmanifest.mp hfiles⟩
  · rintro ⟨hset, hfiles⟩
    have hcontents : prepared.verified_contents ≠ [] := by
      obtain ⟨item, hitem⟩ := List.exists_mem_of_ne_nil items hne
      have hmem : as_posix item.1 ∈ (items.map fun item => as_posix item.1).toFinset :=
        List.mem_toFinset.mpr (List.mem_map_of_mem hitem)
      rw [hset, List.mem_toFinset] at hmem
      exact fun hnil => by simp [hnil] at hmem
    exact ⟨hcontents, hset, _, hmanifest.mpr hfiles,
      fun hnil => hcontents (List.map_eq_nil_iff.mp hnil), rfl⟩

/-! ## Main result -/

/-- The test run leaves every proposed file with the text it found there. -/
def tests_keep (run : Run) (request : Preparation) (source : Tree) (items : List (String × String)) :
    Prop :=
  ∀ command, checked_command request.test_command = .ok command → ∀ item ∈ items,
    read_text (run command (proposed_tree source items)).2 (as_posix item.1) =
      read_text (proposed_tree source items) (as_posix item.1)

section

variable {unified_diff : UnifiedDiff} {run : Run} {source : Tree} {request : Preparation}
  {items : List (String × String)} {prepared : PreparedChange} {sandbox : Sandbox}

/-- The plan behind a prepared change: its contents are a first part of it, in
order, and the manifest is exact where all of the proposal is in it and is read
back. -/
theorem prepared_plan (hitems : request.changes = proposal items)
    (h : prepare_change unified_diff run request (Sandbox.create source) = (.ok prepared, sandbox)) :
    ∃ (planned front : List Planned), PlanOf source items planned ∧
      prepared.verified_contents.Perm (front.map fun p => (p.posix, p.new_content)) ∧
      (apply_planned_changes unified_diff planned ⟨source, [], [], []⟩).2.verified_pairs =
        front.map (fun p => (p.posix, p.new_content)) ∧
      (∀ p ∈ front, p ∈ planned ∧ ∃ relative, _safe_relative_path p.posix = .ok relative) ∧
      (build_publish_manifest sandbox prepared request.changes =
          .ok (prepared.verified_contents.map publishable) ↔
        (items.map fun item => as_posix item.1).toFinset =
            (prepared.verified_contents.map Prod.fst).toFinset ∧
          ∀ change ∈ prepared.verified_contents, _safe_relative_path change.1 = .ok change.1 ∧
            Char.ofNat 0 ∉ change.1.toList ∧ read_text sandbox.workspace change.1 = .ok change.2) := by
  obtain ⟨command, planned, -, hne, hkeys, hplan, -, hcontents, hdigest⟩ := prepare_change_ok hitems h
  -- the callback may have stopped early, so only a front of the plan is known to be recorded
  obtain ⟨front, rest, hfront, hpairs, hrecorded⟩ :=
    recorded_front unified_diff planned ⟨source, [], [], []⟩
  rw [List.nil_append] at hpairs
  have hperm : prepared.verified_contents.Perm (front.map fun p => (p.posix, p.new_content)) := by
    rw [hcontents, hpairs]
    exact sorted_items_perm _
  have hdistinct : (prepared.verified_contents.map Prod.fst).Nodup := by
    rw [(hperm.map Prod.fst).nodup_iff, List.map_map]
    have hall := hplan.distinct
    rw [hfront, List.map_append] at hall
    exact (List.nodup_append.mp hall).1
  have hposix : (items.map fun item => as_posix item.1).Nodup := by
    have hnames := congrArg (List.map Prod.fst) hplan.changes
    rw [List.map_map, List.map_map] at hnames
    have hall : ((sorted_items items).map fun item => as_posix item.1).Nodup := hnames ▸ hplan.distinct
    exact ((sorted_items_perm items).map _).nodup_iff.mp hall
  refine ⟨planned, front, hplan, hperm, hpairs, fun p hp => ⟨?_, hrecorded p hp⟩, ?_⟩
  · rw [hfront]
    exact List.mem_append_left _ hp
  rw [hitems]
  exact build_ok_iff hdigest (hcontents ▸ sorted_items_pairwise _) hdistinct hne hkeys hplan.safe hposix

/-- An exact manifest has read every proposed text back, under a safe path. -/
theorem manifest_reads (hitems : request.changes = proposal items)
    (h : prepare_change unified_diff run request (Sandbox.create source) = (.ok prepared, sandbox))
    (hbuild : build_publish_manifest sandbox prepared request.changes =
      .ok (prepared.verified_contents.map publishable)) {item : String × String} (hitem : item ∈ items) :
    (∃ relative, _safe_relative_path (as_posix item.1) = .ok relative) ∧
      read_text sandbox.workspace (as_posix item.1) = .ok item.2 := by
  obtain ⟨planned, front, hplan, hperm, hpairs, hrecorded, hexact⟩ := prepared_plan hitems h
  obtain ⟨hset, hfiles⟩ := hexact.mp hbuild
  have hsafe : ∀ item ∈ items, ∃ relative, _safe_relative_path (as_posix item.1) = .ok relative := by
    intro item hitem
    have hmem : as_posix item.1 ∈ (items.map fun item => as_posix item.1).toFinset :=
      List.mem_toFinset.mpr (List.mem_map_of_mem hitem)
    rw [hset, List.mem_toFinset, (hperm.map Prod.fst).mem_iff, List.map_map] at hmem
    obtain ⟨p, hp, hname⟩ := List.mem_map.mp hmem
    exact hname ▸ (hrecorded p hp).2
  obtain ⟨-, hall⟩ := hplan.applied unified_diff hsafe
  obtain ⟨p, hp, hchange⟩ := (hplan.mem_iff _).mpr ⟨item, hitem, rfl⟩
  have hmem : (as_posix item.1, item.2) ∈ prepared.verified_contents := by
    rw [hperm.mem_iff, ← hpairs, hall, ← hchange]
    exact List.mem_map_of_mem hp
  exact ⟨hsafe item hitem, (hfiles _ hmem).2.2⟩

/-- Where every proposed text is read back under a safe path, the manifest is exact. -/
theorem manifest_of_reads (hitems : request.changes = proposal items)
    (h : prepare_change unified_diff run request (Sandbox.create source) = (.ok prepared, sandbox))
    (hsafe : ∀ item ∈ items, ∃ relative, _safe_relative_path (as_posix item.1) = .ok relative)
    (hread : ∀ item ∈ items, read_text sandbox.workspace (as_posix item.1) = .ok item.2) :
    build_publish_manifest sandbox prepared request.changes =
      .ok (prepared.verified_contents.map publishable) := by
  obtain ⟨planned, front, hplan, hperm, hpairs, -, hexact⟩ := prepared_plan hitems h
  obtain ⟨-, hall⟩ := hplan.applied unified_diff hsafe
  have hchanges : ∀ change : String × String, change ∈ prepared.verified_contents ↔
      ∃ item ∈ items, (as_posix item.1, item.2) = change := fun change => by
    rw [hperm.mem_iff, ← hpairs, hall, List.mem_map, hplan.mem_iff]
  refine hexact.mpr ⟨?_, fun change hmem => ?_⟩
  · ext path
    simp only [List.mem_toFinset, List.mem_map, hchanges]
    constructor
    · rintro ⟨item, hitem, rfl⟩
      exact ⟨_, ⟨item, hitem, rfl⟩, rfl⟩
    · rintro ⟨change, ⟨item, hitem, rfl⟩, rfl⟩
      exact ⟨item, hitem, rfl⟩
  · obtain ⟨item, hitem, rfl⟩ := (hchanges _).mp hmem
    obtain ⟨p, hp, hchange⟩ := (hplan.mem_iff _).mpr ⟨item, hitem, rfl⟩
    obtain ⟨relative, hrelative⟩ := hsafe item hitem
    have hself := as_posix_safe (hplan.safe item hitem) hrelative
    exact ⟨by rw [hrelative, safe_path_ok hrelative, hself],
      (Prod.mk.inj hchange).1 ▸ (hplan.file p hp).2, hread item hitem⟩

/-- The workspace that is left: what the tests made of the proposed files. -/
theorem left_workspace (hitems : request.changes = proposal items)
    (h : prepare_change unified_diff run request (Sandbox.create source) = (.ok prepared, sandbox))
    (hsafe : ∀ item ∈ items, ∃ relative, _safe_relative_path (as_posix item.1) = .ok relative) :
    ∃ command, checked_command request.test_command = .ok command ∧
      sandbox.workspace = (run command (proposed_tree source items)).2 ∧
      ∀ item ∈ items, proposed_tree source items (as_posix item.1) = some (.file (encode_utf8 item.2)) := by
  obtain ⟨command, planned, hcommand, -, -, hplan, hworkspace, -, -⟩ := prepare_change_ok hitems h
  refine ⟨command, hcommand, ?_, fun item => hplan.proposed⟩
  rw [hworkspace, (hplan.applied unified_diff hsafe).1]

end

/-! ## A proposal for one file -/

/-- A snapshot with one file. -/
def calculator : Tree := fun path =>
  if path = "calculator.py" then some (.file (encode_utf8 "old\n")) else none

/-- The arguments of a proposal for it. -/
def calculator_preparation (content : String) : Preparation where
  process_id := .of "process-1"
  task_id := .of "task-1"
  repository_id := .of "repository-1"
  base_commit := .of "base-1"
  changes := proposal [("calculator.py", content)]
  test_command := .of [.of "python3", .of "-m", .of "unittest"]
  now := .aware (.ok "2026-09-04T12:00:00Z") (.ok "2026-09-05T12:00:00Z")
  workspace_apply := none

/-- The diff of two texts of one line each. -/
def line_diff : UnifiedDiff := fun old new fromfile tofile =>
  if old = new then []
  else ["--- " ++ fromfile ++ "\n", "+++ " ++ tofile ++ "\n", "@@ -1 +1 @@\n", "-" ++ old, "+" ++ new]

/-- Tests that pass and write nothing. -/
def passing_tests : Run := fun _ workspace => (.ok ⟨.of 0, .of "", .of "OK\n"⟩, workspace)

/-- The proposal is accepted, whatever its text. -/
theorem calculator_accepted (content : String) (h : content ≠ "old\n") :
    ∃ prepared, prepare_change line_diff passing_tests (calculator_preparation content)
        (Sandbox.create calculator) =
      (.ok prepared, ⟨calculator, proposed_tree calculator [("calculator.py", content)]⟩) := by
  have hposix : as_posix "calculator.py" = "calculator.py" := by decide
  have hsafe : _safe_relative_path "calculator.py" = .ok "calculator.py" := by decide
  have hread : read_text calculator "calculator.py" = .ok "old\n" :=
    (read_back_iff (if_pos rfl)).mpr (by decide)
  refine prepare_change_accepts [("calculator.py", content)]
    ⟨"process-1", "task-1", "repository-1", "base-1", [("calculator.py", .of content)],
      ["python3", "-m", "unittest"], .ok "2026-09-04T12:00:00Z", .ok "2026-09-05T12:00:00Z", none⟩
    rfl rfl (fun _ _ _ => id) rfl rfl (List.cons_ne_nil _ _) ?_ (List.nodup_singleton _) ?_ ?_ rfl
  · simp only [List.mem_singleton, forall_eq, hposix]
    exact ⟨hsafe, hsafe⟩
  · simp only [List.mem_singleton, forall_eq, changes_text, hposix]
    exact ⟨by decide, _, hread, h.symm⟩
  · intro old new fromfile tofile hne
    rw [line_diff, if_neg hne]
    exact ⟨"@@ -1 +1 @@\n", by simp, by decide⟩

/-! ## The manifest of a prepared change -/

/-- The manifest of the sandbox left by `prepare_change` is what it recorded
exactly when no proposed text has a carriage return, every path is still safe in
its POSIX form, and the test run keeps the proposed texts. -/
theorem publish_manifest_exact_iff (unified_diff : UnifiedDiff) (run : Run) (source : Tree)
    (request : Preparation) (items : List (String × String))
    (hitems : request.changes = proposal items) (prepared : PreparedChange) (sandbox : Sandbox)
    (h : prepare_change unified_diff run request (Sandbox.create source) = (.ok prepared, sandbox)) :
    build_publish_manifest sandbox prepared request.changes =
        .ok (prepared.verified_contents.map publishable) ↔
      (∀ item ∈ items, '\r' ∉ item.2.toList) ∧
        (∀ item ∈ items, ∃ relative, _safe_relative_path (as_posix item.1) = .ok relative) ∧
        tests_keep run request source items := by
  constructor
  -- a carriage return is lost in the universal newlines of the second reading
  · intro hbuild
    have hsafe : ∀ item ∈ items, ∃ relative, _safe_relative_path (as_posix item.1) = .ok relative :=
      fun item hitem => (manifest_reads hitems h hbuild hitem).1
    have hread : ∀ item ∈ items, read_text sandbox.workspace (as_posix item.1) = .ok item.2 :=
      fun item hitem => (manifest_reads hitems h hbuild hitem).2
    have hreturn : ∀ item ∈ items, '\r' ∉ item.2.toList :=
      fun item hitem => read_text_no_return (hread item hitem)
    obtain ⟨command, hcommand, hworkspace, hproposed⟩ := left_workspace hitems h hsafe
    refine ⟨hreturn, hsafe, fun command' hcommand' item hitem => ?_⟩
    obtain rfl := Except.ok.inj (hcommand'.symm.trans hcommand)
    rw [← hworkspace, hread item hitem, (read_back_iff (hproposed item hitem)).mpr (hreturn item hitem)]
  · rintro ⟨hreturn, hsafe, hkeep⟩
    obtain ⟨command, hcommand, hworkspace, hproposed⟩ := left_workspace hitems h hsafe
    refine manifest_of_reads hitems h hsafe fun item hitem => ?_
    rw [hworkspace, hkeep command hcommand item hitem]
    exact (read_back_iff (hproposed item hitem)).mpr (hreturn item hitem)

/-- A proposal that is prepared, and published as it was verified. -/
theorem publish_manifest_exact_calculator :
    ∃ prepared sandbox, prepare_change line_diff passing_tests (calculator_preparation "new\n")
        (Sandbox.create calculator) = (.ok prepared, sandbox) ∧
      build_publish_manifest sandbox prepared (calculator_preparation "new\n").changes =
        .ok (prepared.verified_contents.map publishable) := by
  obtain ⟨prepared, hprepared⟩ := calculator_accepted "new\n" (by decide)
  have hposix : as_posix "calculator.py" = "calculator.py" := by decide
  have hsafe : _safe_relative_path "calculator.py" = .ok "calculator.py" := by decide
  refine ⟨prepared, _, hprepared, (publish_manifest_exact_iff line_diff passing_tests calculator
    (calculator_preparation "new\n") [("calculator.py", "new\n")] rfl prepared _ hprepared).mpr ⟨?_, ?_, ?_⟩⟩
  · simp only [List.mem_singleton, forall_eq]
    decide
  · simp only [List.mem_singleton, forall_eq, hposix]
    exact ⟨_, hsafe⟩
  · exact fun _ _ _ _ => rfl

/-- A proposal that ends its line as Windows does is accepted and verified, and
then refused as changed. -/
theorem carriage_return_refused :
    ¬ ∀ (unified_diff : UnifiedDiff) (run : Run) (source : Tree) (request : Preparation)
      (items : List (String × String)), request.changes = proposal items →
      (∀ command workspace, (run command workspace).2 = workspace) →
      ∀ prepared sandbox,
        prepare_change unified_diff run request (Sandbox.create source) = (.ok prepared, sandbox) →
        build_publish_manifest sandbox prepared request.changes =
          .ok (prepared.verified_contents.map publishable) := by
  intro hall
  obtain ⟨prepared, hprepared⟩ := calculator_accepted "new\r\n" (by decide)
  have hbuild := hall line_diff passing_tests calculator (calculator_preparation "new\r\n") _ rfl
    (fun _ _ => rfl) prepared _ hprepared
  have hread := (manifest_reads rfl hprepared hbuild List.mem_cons_self).2
  exact read_text_no_return hread (by decide)

end AppContracts.RepositoryProcess
