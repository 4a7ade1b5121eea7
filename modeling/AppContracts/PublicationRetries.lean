/-
A branch under repeated publication.

A write changes a manifest path from its base blob to its target and nothing else,
wherever an attempt stops. So does every sequence of attempts: a path with another
blob keeps it. An attempt that returns has set every path, and reconciliation then
finds the branch, if the manifest lists its paths in order.

An attempt that fails has still written what it had written, so that the statement for any
number of attempts is not one about the last of them. What is kept along an attempt is
`Safe`, a property of the branch and of the requests so far: every write is one of a target
over its base blob. It is stable under every answer the provider may give, so that attempts
compose, whatever became of each request.
-/
import AppContracts.GitHubPublication

set_option autoImplicit false

namespace AppContracts.GitHubPublication

open Stateful

/-! ## What writes do -/

/-- The tree of a branch, or the one it gets when it is created. -/
def Provider.tree (p : Provider) (branch : String) (base_commit : Oid) : Tree :=
  match p.branches branch with
  | some b => b.tree
  | none => p.commits base_commit

section Published

variable (branch : String) (base_commit : Oid) (manifest : List (String × String))

/-- The provider before and after some writes: manifest paths went from the base
blob to their target. -/
structure Published (p p' : Provider) : Prop where
  commits : p'.commits = p.commits
  other_branches : ∀ name, name ≠ branch → p'.branches name = p.branches name
  exists_still : p.branches branch ≠ none → p'.branches branch ≠ none
  tree : ∀ path, p'.tree branch base_commit path = p.tree branch base_commit path ∨
    p.tree branch base_commit path = p.commits base_commit path ∧
      ∃ content, manifest.lookup path = some content ∧
        p'.tree branch base_commit path = some (.file (_git_blob_sha content))

variable {branch base_commit manifest}

namespace Published

theorem refl (p : Provider) : Published branch base_commit manifest p p where
  commits := rfl
  other_branches _ _ := rfl
  exists_still h := h
  tree _ := .inl rfl

theorem trans {p q r : Provider} (h : Published branch base_commit manifest p q)
    (h' : Published branch base_commit manifest q r) : Published branch base_commit manifest p r where
  commits := h'.commits.trans h.commits
  other_branches name hname := (h'.other_branches name hname).trans (h.other_branches name hname)
  exists_still hp := h'.exists_still (h.exists_still hp)
  tree path := by
    rcases h.tree path with hpq | ⟨hbase, content, hmem, hpq⟩
    · rcases h'.tree path with hqr | ⟨hbase, content, hmem, hqr⟩
      · exact .inl (hqr.trans hpq)
      · refine .inr ⟨?_, content, hmem, hqr⟩
        rw [← hpq, hbase, h.commits]
    · rcases h'.tree path with hqr | ⟨-, content', hmem', hqr⟩
      · exact .inr ⟨hbase, content, hmem, hqr.trans hpq⟩
      · exact .inr ⟨hbase, content', hmem', hqr⟩

end Published

theorem tree_set_branch (p : Provider) (b : Branch) :
    (p.set_branch branch b).tree branch base_commit = b.tree := by
  simp [Provider.tree, Provider.set_branch]

/-- Creating the branch gives it the tree of the base commit. -/
theorem create_reference_published {p p' : Provider} {commit : Oid} {response : Json}
    (h : create_reference branch base_commit commit p = .ok (p', response)) :
    Published branch base_commit manifest p p' ∧
      p'.branches branch = some ⟨base_commit, p.commits base_commit⟩ := by
  unfold create_reference at h
  split at h
  · simp at h
  · rename_i hnone
    obtain ⟨rfl, -⟩ := Prod.mk.inj (Except.ok.inj h)
    refine ⟨⟨rfl, ?_, ?_, ?_⟩, by simp [Provider.set_branch]⟩
    · intro name hname
      simp [Provider.set_branch, Function.update_of_ne hname]
    · intro hp
      exact absurd hnone hp
    · intro path
      rw [tree_set_branch, Provider.tree, hnone]
      exact .inl rfl

/-- A PUT replaces the base blob of its path. -/
theorem put_contents_published {p p' : Provider} {path content : String} {sha commit : Oid}
    {response : Json} (hmem : manifest.lookup path = some content)
    (hbase : p.commits base_commit path = some (.file sha))
    (h : put_contents branch path content sha commit p = .ok (p', response)) :
    Published branch base_commit manifest p p' ∧ ∃ b, p.branches branch = some b ∧
      p'.branches branch =
        some ⟨commit, Function.update b.tree path (some (.file (_git_blob_sha content)))⟩ ∧
      response_commit response = some commit.value := by
  unfold put_contents at h
  split at h
  · simp at h
  · rename_i b hb
    -- the write names the blob it replaces, so it changes the file only if that is still there
    split_ifs at h with hcas
    obtain ⟨rfl, rfl⟩ := Prod.mk.inj (Except.ok.inj h)
    refine ⟨⟨rfl, ?_, ?_, ?_⟩, b, hb, by simp [Provider.set_branch], by rfl⟩
    · intro name hname
      simp [Provider.set_branch, Function.update_of_ne hname]
    · intro _
      simp [Provider.set_branch]
    · intro other
      rw [tree_set_branch, Provider.tree, hb]
      by_cases hother : other = path
      · subst hother
        exact .inr ⟨hcas.trans hbase.symm, content, hmem, Function.update_self ..⟩
      · exact .inl (Function.update_of_ne hother ..)

end Published

/-! ## Requests -/

section Requests

/-- A condition on the provider and what it went through. -/
abbrev Seen : Type := Provider → List Provider → Prop

/-- The condition in a session. -/
def On (K : Seen) (s : Session) : Prop := K s.provider s.history

variable {K : Seen}

theorem exec_next_outcome (s : Session) : Prog.exec next_outcome s =
    match s.outcomes with
    | [] => (.ok (.lost none), s)
    | outcome :: rest => (.ok outcome, { s with outcomes := rest }) := by
  obtain ⟨provider, outcomes, history, required⟩ := s
  cases outcomes <;> rfl

theorem next_outcome_on {E : Exn → Session → Prop} :
    Triple (On K) next_outcome (fun _ => On K) E := by
  intro s hs
  rw [exec_next_outcome]
  cases s.outcomes <;> exact hs

/-- A GET changes nothing, and answers for the provider there is. -/
theorem get_json_on (answer : Provider → Except Exn Json) :
    Triple (On K) (_get_json answer)
      (fun response s => On K s ∧ (answer s.provider = .ok response ∨ response = .null))
      (fun e s => On K s ∧ (answer s.provider = .error e ∨ e.cls = .GitHubAppBrokerError)) := by
  refine Triple.bind next_outcome_on fun outcome => ?_
  cases outcome with
  | answered commit =>
    intro s hs
    simp only [Prog.exec_bind, Prog.exec_get, Prog.exec_lift]
    cases hanswer : answer s.provider with
    | ok a => exact ⟨hs, .inl hanswer⟩
    | error e => exact ⟨hs, .inl hanswer⟩
  | garbled commit => exact Triple.returns fun s hs => ⟨hs, .inr rfl⟩
  | lost applied => exact Triple.raises fun s hs => ⟨hs, .inr rfl⟩

/-- What a write leaves: the condition holds again, or the provider refused it. -/
theorem apply_write_on {effect : Effect} {commit : Oid} {L : Seen} {R : Json → Provider → Prop}
    (heffect : ∀ p history, K p history → ∀ p' response, effect commit p = .ok (p', response) →
      L p' (history ++ [p']) ∧ R response p') :
    Triple (On K) (apply_write effect commit) (fun response s => On L s ∧ R response s.provider)
      (fun _ => On K) := by
  intro s hs
  have hstep := heffect s.provider s.history hs
  simp only [apply_write, Prog.exec_bind, Prog.exec_get, Prog.exec_lift]
  cases h : effect commit s.provider with
  | error e => exact hs
  | ok r =>
    obtain ⟨p', response⟩ := r
    simp only [Prog.exec_set, Prog.exec_pure]
    exact hstep p' response h

/-- A write that is lost or answered badly may have been applied. -/
theorem send_json_on {message : String} {effect : Effect} {L : Seen} {R : Json → Provider → Prop}
    (heffect : ∀ commit p history, K p history → ∀ p' response,
      effect commit p = .ok (p', response) → L p' (history ++ [p']) ∧ R response p') :
    Triple (On K) (send_json message effect)
      (fun response s => On L s ∧ (R response s.provider ∨ response = .obj []))
      (fun _ s => On K s ∨ On L s) := by
  refine Triple.bind next_outcome_on fun outcome => ?_
  have happly : ∀ commit, Triple (On K) (apply_write effect commit)
      (fun response s => On L s ∧ R response s.provider) (fun _ s => On K s ∨ On L s) :=
    fun commit => (apply_write_on (heffect commit)).mono (fun _ h => h) (fun _ _ h => h)
      fun _ _ h => .inl h
  cases outcome with
  | answered commit =>
    exact (happly commit).mono (fun _ h => h) (fun _ _ h => ⟨h.1, .inl h.2⟩) (fun _ _ h => h)
  | garbled commit => exact (happly commit).bind fun _ => Triple.returns fun s hs => ⟨hs.1, .inr rfl⟩
  | lost applied =>
    cases applied with
    | none => exact Triple.raises fun s hs => .inl hs
    | some commit => exact (happly commit).bind fun _ => Triple.raises fun s hs => .inr hs.1

/-- A file that is read stands in the answer. -/
theorem read_file_on {failed invalid : String} (answer : Provider → Except Exn Json) :
    Triple (On K) (read_file failed invalid answer)
      (fun sha s => On K s ∧ ∃ response, answer s.provider = .ok response ∧
        file_sha response = some sha)
      (fun _ => On K) := by
  refine Triple.bind (Q := fun response s => On K s ∧
    (answer s.provider = .ok response ∨ response = .null)) ?_ fun response => ?_
  · exact Triple.catches (get_json_on answer) fun e => Triple.raises fun s hs => hs.1
  · cases hsha : file_sha response with
    | none => exact Triple.raises fun s hs => hs.1
    | some sha =>
      refine Triple.returns fun s hs => ⟨hs.1, response, hs.2.resolve_right ?_, hsha⟩
      rintro rfl
      simp [file_sha, field_text, Json.get?] at hsha

end Requests

/-! ## Answers -/

/-- The metadata of a file are those of the file at the path. -/
theorem contents_file {tree : Tree} {path : String} {response : Json} {sha : Oid}
    (h : contents tree path = .ok response) (hsha : file_sha response = some sha) :
    tree path = some (.file sha) := by
  unfold contents at h
  split at h
  · simp at h
  · rename_i sha' htree
    obtain rfl := Except.ok.inj h
    have hvalid : file_sha (answer_obj [("type", answer_text "file"), ("sha", answer_text sha'.value)]) =
        some sha' := by
      simp [file_sha, field_text, answer_obj, answer_text, sha'.valid]
    rw [hvalid] at hsha
    rw [htree, Option.some.inj hsha]
  · obtain rfl := Except.ok.inj h
    simp [file_sha, field_text, Json.get?] at hsha

/-- A file read on the branch is in its tree. -/
theorem branch_contents_file {branch path : String} {p : Provider} {response : Json} {sha : Oid}
    (h : branch_contents branch path p = .ok response) (hsha : file_sha response = some sha) :
    ∃ b, p.branches branch = some b ∧ b.tree path = some (.file sha) := by
  unfold branch_contents at h
  split at h
  · simp at h
  · rename_i b hb
    exact ⟨b, hb, contents_file h hsha⟩

/-- A reference names the last commit of the branch. -/
theorem reference_present {branch : String} {p : Provider} {response : Json} {commit_sha : String}
    (h : reference branch p = .ok response) (hcommit : reference_commit branch response = some commit_sha) :
    ∃ b, p.branches branch = some b ∧ b.commit.value = commit_sha := by
  unfold reference at h
  split at h
  · simp at h
  · rename_i b hb
    obtain rfl := Except.ok.inj h
    have hvalue : reference_commit branch (answer_obj [("ref", answer_text ("refs/heads/" ++ branch)),
        ("object", answer_obj [("type", answer_text "commit"), ("sha", answer_text b.commit.value)])]) =
        some b.commit.value := by
      simp [reference_commit, field_text, answer_obj, answer_text, b.commit.valid]
    exact ⟨b, hb, by rw [hvalue] at hcommit; exact Option.some.inj hcommit⟩

theorem reference_absent {branch : String} {p : Provider} {e : Exn}
    (h : reference branch p = .error e) : p.branches branch = none := by
  unfold reference at h
  split at h
  · assumption
  · simp at h

/-! ## The calls of an attempt -/

section Calls

variable {K : Seen} {branch : String} {base_commit : Oid}

/-- What a branch state says of the provider. -/
def StateOf (branch : String) (p : Provider) : BranchState → Prop
  | .unknown => True
  | .absent => p.branches branch = none
  | .present commit_sha => ∃ b, p.branches branch = some b ∧ b.commit.value = commit_sha

theorem read_branch_reference_on : Triple (On K) (_read_branch_reference branch)
    (fun state s => On K s ∧ StateOf branch s.provider state) (fun _ _ => False) := by
  refine Triple.catches ((get_json_on (reference branch)).bind fun response => ?_) fun e => ?_
  · cases hcommit : reference_commit branch response with
    | none => exact Triple.returns fun s hs => ⟨hs.1, trivial⟩
    | some commit_sha =>
      refine Triple.returns fun s hs => ⟨hs.1, ?_⟩
      rcases hs.2 with hanswer | rfl
      · exact reference_present hanswer hcommit
      · exact absurd hcommit (by simp [reference_commit, Json.get?])
  · refine Triple.returns fun s hs => ⟨hs.1, ?_⟩
    split_ifs with hcls
    · refine reference_absent (hs.2.resolve_right fun hbroker => ?_)
      rw [hcls] at hbroker
      exact absurd hbroker (by decide)
    · trivial

/-- The targets are the manifest's files with their base blobs. -/
structure TargetsOf (base : Tree) (validated : List (PyStr × String)) (targets : List Target) :
    Prop where
  files : targets.map (fun t => (PyStr.text t.path, t.content)) = validated
  base : ∀ t ∈ targets, base t.path = some (.file t.base)

theorem read_base_on {base : Tree} (hK : ∀ p history, K p history → p.commits base_commit = base)
    (validated : List (PyStr × String)) :
    Triple (On K) (read_base base_commit validated)
      (fun targets s => TargetsOf base validated targets ∧ On K s) (fun _ => On K) := by
  -- on the files; a reading that answers is one of the base commit, which nothing changes
  induction validated with
  | nil => exact Triple.returns fun s hs => ⟨⟨rfl, by simp⟩, hs⟩
  | cons file rest ih =>
    obtain ⟨path, content⟩ := file
    refine Triple.bind (Q := fun text s => path = .text text ∧ On K s)
      (Triple.lift (fun text htext s hs => ⟨?_, hs⟩) fun _ _ _ hs => hs) fun text => ?_
    · cases path with
      | text s => exact congrArg PyStr.text (Except.ok.inj htext)
      | surrogates codes lone => simp [bind_text] at htext
    · refine Triple.given fun hpath => (read_file_on _).bind fun sha => ?_
      have hsha : Triple
          (fun s => On K s ∧ ∃ response, contents (s.provider.commits base_commit) text = .ok response ∧
            file_sha response = some sha) (read_base base_commit rest)
          (fun targets s => (base text = some (.file sha) ∧ TargetsOf base rest targets) ∧ On K s)
          (fun _ => On K) := by
        intro s ⟨hs, response, hanswer, hsha⟩
        have htree := contents_file hanswer hsha
        rw [hK _ _ hs] at htree
        exact (ih.mono (fun _ h => h) (fun _ _ h => ⟨⟨htree, h.1⟩, h.2⟩) fun _ _ h => h) s hs
      refine hsha.bind fun targets => Triple.returns fun s hs => ⟨⟨?_, ?_⟩, hs.2⟩
      · rw [List.map_cons, hs.1.2.files, hpath]
      · exact List.forall_mem_cons.mpr ⟨hs.1.1, hs.1.2.base⟩

/-- The files that are not to be replaced have their target already. -/
theorem files_to_update_on {b : Branch} (hK : ∀ p history, K p history → p.branches branch = some b)
    (targets : List Target) :
    Triple (On K) (files_to_update branch targets)
      (fun update s => (update.Sublist targets ∧ ∀ t ∈ targets, t ∉ update →
        b.tree t.path = some (.file (_git_blob_sha t.content))) ∧ On K s)
      (fun _ => On K) := by
  induction targets with
  | nil => exact Triple.returns fun s hs => ⟨⟨List.Sublist.slnil, by simp⟩, hs⟩
  | cons target rest ih =>
    refine (read_file_on _).bind fun current_sha => ?_
    have hread : ∀ s, (On K s ∧ ∃ response, branch_contents branch target.path s.provider = .ok response ∧
        file_sha response = some current_sha) →
        b.tree target.path = some (.file current_sha) ∧ On K s := by
      rintro s ⟨hs, response, hanswer, hsha⟩
      obtain ⟨b', hb', htree⟩ := branch_contents_file hanswer hsha
      rw [hK _ _ hs, Option.some.injEq] at hb'
      exact ⟨hb' ▸ htree, hs⟩
    refine Triple.mono (Triple.given fun htree => ?_) hread (fun _ _ h => h) (fun _ _ h => h)
    -- the file is there already, is neither the base nor the new one, or is still the base
    split_ifs with hcurrent hbase
    · refine ih.mono (fun _ h => h) (fun update s h => ⟨⟨h.1.1.cons _, ?_⟩, h.2⟩) fun _ _ h => h
      exact List.forall_mem_cons.mpr ⟨fun _ => hcurrent ▸ htree, h.1.2⟩
    · exact Triple.raises fun s hs => hs
    · refine ih.bind fun update => Triple.returns fun s h => ⟨⟨h.1.1.cons_cons _, ?_⟩, h.2⟩
      refine List.forall_mem_cons.mpr ⟨fun hnot => absurd List.mem_cons_self hnot, fun t ht hnot => ?_⟩
      exact h.1.2 t ht fun hmem => hnot (List.mem_cons_of_mem _ hmem)

end Calls

/-! ## Writes in a session -/

section Writes

variable (branch : String) (base_commit : Oid) (manifest : List (String × String)) (p₀ : Provider)

/-- Every state so far came from the first one by writes of the manifest. -/
def Safe : Seen := fun p history =>
  Published branch base_commit manifest p₀ p ∧ ∀ q ∈ history, Published branch base_commit manifest p₀ q

/-- And the branch stands at `b`. -/
def Stands (b : Branch) : Seen := fun p history =>
  Safe branch base_commit manifest p₀ p history ∧ p.branches branch = some b

variable {branch base_commit manifest p₀}

theorem Safe.step {p p' : Provider} {history : List Provider}
    (h : Safe branch base_commit manifest p₀ p history)
    (hstep : Published branch base_commit manifest p p') :
    Safe branch base_commit manifest p₀ p' (history ++ [p']) := by
  refine ⟨h.1.trans hstep, fun q hq => ?_⟩
  rcases List.mem_append.mp hq with hq | hq
  · exact h.2 q hq
  · rw [List.mem_singleton.mp hq]
    exact h.1.trans hstep

/-- The branch after one of its files is replaced. -/
def Branch.put (b : Branch) (target : Target) (commit : Oid) : Branch :=
  ⟨commit, Function.update b.tree target.path (some (.file (_git_blob_sha target.content)))⟩

theorem put_file_on {target : Target} (hmem : manifest.lookup target.path = some target.content)
    (hbase : p₀.commits base_commit target.path = some (.file target.base)) {b : Branch} :
    Triple (On (Stands branch base_commit manifest p₀ b)) (put_file branch target)
      (fun commit_sha s => ∃ commit : Oid, commit.value = commit_sha ∧
        On (Stands branch base_commit manifest p₀ (b.put target commit)) s)
      (fun _ => On (Safe branch base_commit manifest p₀)) := by
  refine Triple.catches (E := fun _ => On (Safe branch base_commit manifest p₀)) ?_ fun e =>
    Triple.bind (Q := fun _ => On (Safe branch base_commit manifest p₀))
      (Triple.writes fun s hs => hs) fun _ => Triple.raises fun s hs => hs
  -- the request may be lost before or after it took effect; in both cases the branch is safe
  have hsend := @send_json_on (Stands branch base_commit manifest p₀ b)
    "GitHub verified-file publication failed"
    (put_contents branch target.path target.content target.base)
    (fun p history => ∃ commit, Stands branch base_commit manifest p₀ (b.put target commit) p history)
    (fun response p => ∃ b', p.branches branch = some b' ∧
      response_commit response = some b'.commit.value) ?_
  · refine Triple.bind (hsend.mono (fun _ h => h) (fun _ _ h => h) fun _ s h => ?_) fun response => ?_
    · rcases h with h | ⟨commit, h⟩ <;> exact h.1
    · cases hcommit : response_commit response with
      | none => exact Triple.raises fun s ⟨⟨commit, hs⟩, _⟩ => hs.1
      | some commit_sha =>
        refine Triple.returns fun s ⟨⟨commit, hs⟩, hresponse⟩ => ⟨commit, ?_, hs⟩
        rcases hresponse with ⟨b', hb', hvalue⟩ | rfl
        · rw [hs.2, Option.some.injEq] at hb'
          rw [← hb'] at hvalue
          exact (Option.some.inj hvalue).symm
        · exact absurd hcommit (by simp [response_commit, Json.get?])
  · intro commit p history hstands p' response heffect
    have hbase' : p.commits base_commit target.path = some (.file target.base) := by
      rw [hstands.1.1.commits]
      exact hbase
    obtain ⟨hstep, b', hb', hnew, hvalue⟩ := put_contents_published hmem hbase' heffect
    rw [hstands.2, Option.some.injEq] at hb'
    subst hb'
    exact ⟨⟨commit, hstands.1.step hstep, hnew⟩, _, hnew, hvalue⟩

/-- **Every replaced path has its target**, and no other path changed. -/
theorem put_files_on {targets : List Target}
    (hmem : ∀ t ∈ targets, manifest.lookup t.path = some t.content)
    (hbase : ∀ t ∈ targets, p₀.commits base_commit t.path = some (.file t.base))
    (hnodup : (targets.map Target.path).Nodup) {b : Branch} {commit_sha : String}
    (hcommit : b.commit.value = commit_sha) :
    Triple (On (Stands branch base_commit manifest p₀ b)) (put_files branch targets commit_sha)
      (fun commit_sha s => ∃ b' : Branch, b'.commit.value = commit_sha ∧
        (∀ t ∈ targets, b'.tree t.path = some (.file (_git_blob_sha t.content))) ∧
        (∀ path ∉ targets.map Target.path, b'.tree path = b.tree path) ∧
        On (Stands branch base_commit manifest p₀ b') s)
      (fun _ => On (Safe branch base_commit manifest p₀)) := by
  -- on the targets: each write leaves the files of the others as they are
  induction targets generalizing b commit_sha with
  | nil => exact Triple.returns fun s hs => ⟨b, hcommit, by simp, fun _ _ => rfl, hs⟩
  | cons target rest ih =>
    rw [List.forall_mem_cons] at hmem hbase
    rw [List.map_cons, List.nodup_cons] at hnodup
    refine (put_file_on hmem.1 hbase.1).bind fun commit_sha => ?_
    rintro s ⟨commit, hvalue, hs⟩
    refine (ih hmem.2 hbase.2 hnodup.2 hvalue).mono (fun _ h => h) ?_ (fun _ _ h => h) s hs
    rintro final t ⟨b', hfinal, hset, hkept, ht⟩
    refine ⟨b', hfinal, List.forall_mem_cons.mpr ⟨?_, hset⟩, fun path hpath => ?_, ht⟩
    · rw [hkept _ hnodup.1]
      exact Function.update_self ..
    · rw [List.map_cons, List.mem_cons, not_or] at hpath
      rw [hkept path hpath.2]
      exact Function.update_of_ne hpath.1 ..

end Writes

/-! ## Attempts -/

/-- A file of a manifest whose path and content are text. -/
def file_pair (file : ManifestFile) : Option (String × String) :=
  match file.path, file.content with
  | .of (.text path), .of (.text content) => some (path, content)
  | _, _ => none

/-- The contents of a manifest by path. -/
def manifest (files : List ManifestFile) : List (String × String) := files.filterMap file_pair

theorem check_path_ok {e : Exn} {file : ManifestFile} {path : PyStr} (h : check_path e file = .ok path) :
    file.path = .of path ∧ safe_manifest_path path = true := by
  unfold check_path at h
  split at h
  · split_ifs at h with hsafe
    obtain rfl := Except.ok.inj h
    exact ⟨by assumption, hsafe⟩
  · simp at h

theorem check_content_ok {e : Exn} {file : ManifestFile} {content : String}
    (h : check_content e file = .ok content) :
    file.content = .of (.text content) ∧
      file.content_digest = .of (.text (sha256_bytes (utf8_bytes content))) := by
  unfold check_content at h
  split at h
  · rename_i raw digest hcontent hdigest
    rw [bind_ok] at h
    obtain ⟨text, htext, h⟩ := h
    split_ifs at h with hsame
    obtain rfl := Except.ok.inj h
    cases raw with
    | text s =>
      obtain rfl := Except.ok.inj htext
      exact ⟨hcontent, hdigest.trans (congrArg Arg.of hsame)⟩
    | surrogates codes lone => simp [bind_text] at htext
  · simp at h

/-- One file of a checked manifest. -/
theorem validate_files_cons {file : ManifestFile} {rest : List ManifestFile}
    {validated : List (PyStr × String)} (h : validate_files (file :: rest) = .ok validated) :
    ∃ path content validated', validated = (path, content) :: validated' ∧
      check_path (actuator_error "manifest path is unsafe") file = .ok path ∧
      check_content (actuator_error "manifest content digest mismatch") file = .ok content ∧
      validate_files rest = .ok validated' := by
  rw [validate_files, bind_ok] at h
  obtain ⟨path, hpath, h⟩ := h
  rw [bind_ok] at h
  obtain ⟨content, hcontent, h⟩ := h
  rw [bind_ok] at h
  obtain ⟨validated', hrest, h⟩ := h
  exact ⟨path, content, validated', (Except.ok.inj h).symm, hpath, hcontent, hrest⟩

/-- The targets of a checked manifest are its contents. -/
theorem targets_manifest {base : Tree} {files : List ManifestFile} {validated : List (PyStr × String)}
    {targets : List Target} (h : validate_files files = .ok validated)
    (ht : TargetsOf base validated targets) :
    targets.map (fun t => (t.path, t.content)) = manifest files := by
  induction files generalizing validated targets with
  | nil =>
    obtain rfl := Except.ok.inj h
    rw [List.map_eq_nil_iff.mp ht.files]
    rfl
  | cons file rest ih =>
    obtain ⟨path, content, validated', rfl, hpath, hcontent, hrest⟩ := validate_files_cons h
    obtain ⟨target, targets', rfl, hhead, htail⟩ := List.map_eq_cons_iff.mp ht.files
    have hrest := ih hrest ⟨htail, fun t ht' => ht.base t (List.mem_cons_of_mem _ ht')⟩
    obtain ⟨rfl, rfl⟩ := Prod.mk.inj hhead
    have hpair : file_pair file = some (target.path, target.content) := by
      rw [file_pair, (check_path_ok hpath).1, (check_content_ok hcontent).1]
    rw [List.map_cons, manifest, List.filterMap_cons_some hpair, hrest]
    rfl

section Attempts

variable {config : Config} {branch : String} {staged_change : Json} {files : List ManifestFile}
  {base_commit : Oid} {p₀ : Provider}

/-- What the checks before the first request establish. -/
theorem check_publication_ok {required : List String} {checked : Oid × List (PyStr × String)}
    (h : check_publication config branch staged_change files required = .ok checked) :
    check_staged_change config staged_change = .ok checked.1 ∧
      validate_files files = .ok checked.2 ∧ (checked.2.map Prod.fst).Nodup ∧
      agent_branch branch = true ∧ files ≠ [] := by
  unfold check_publication at h
  split_ifs at h with hdict hempty hbranch hrequired
  · obtain ⟨_, -, h⟩ := bind_ok.mp h
    simp at h
  · obtain ⟨_, -, h⟩ := bind_ok.mp h
    simp at h
  · obtain ⟨base_commit, hbase, h⟩ := bind_ok.mp h
    obtain ⟨validated, hvalidated, h⟩ := bind_ok.mp h
    split_ifs at h with hnodup
    obtain rfl := Except.ok.inj h
    exact ⟨hbase, hvalidated, hnodup, by simpa using hbranch, by simpa using hempty⟩

/-- What the writer's checks say of a manifest of text. -/
structure Accepted (branch : String) (files : List ManifestFile) : Prop where
  validated : validate_files files = .ok ((manifest files).map fun f => (.text f.1, f.2))
  nodup : ((manifest files).map Prod.fst).Nodup
  branch : agent_branch branch = true
  nonempty : files ≠ []

/-- **One attempt**: it writes only targets over base blobs, and if it returns every
path has its target. -/
theorem publish_on (hbase : check_staged_change config staged_change = .ok base_commit) :
    Triple (fun s => s.provider = p₀ ∧ s.history = [])
      (publish_verified_files config branch staged_change files)
      (fun commit_sha s => On (Safe branch base_commit (manifest files) p₀) s ∧
        (∃ b : Branch, s.provider.branches branch = some b ∧ b.commit.value = commit_sha ∧
          ∀ f ∈ manifest files, b.tree f.1 = some (.file (_git_blob_sha f.2))) ∧
        Accepted branch files)
      (fun _ => On (Safe branch base_commit (manifest files) p₀)) := by
  -- Until the first write the provider is the first one.
  let K : Seen := fun p history => p = p₀ ∧ history = []
  have hsafe : ∀ s, On K s → On (Safe branch base_commit (manifest files) p₀) s := by
    rintro s ⟨hp, hhistory⟩
    refine ⟨?_, ?_⟩
    · rw [hp]
      exact Published.refl p₀
    · rw [hhistory]
      exact List.forall_mem_nil _
  refine Triple.bind (Q := fun _ => On K) (Triple.reads fun s hs => hs) fun s₀ => ?_
  refine Triple.bind (Q := fun checked s => check_publication config branch staged_change files
      s₀.file_reconciliation_required = .ok checked ∧ On K s)
    (Triple.lift (fun checked hok s hs => ⟨hok, hs⟩) fun _ _ s hs => hsafe s hs) fun checked => ?_
  refine Triple.given fun hchecked => ?_
  obtain ⟨hbase', hvalidated, hnodup, hbranch, hne⟩ := check_publication_ok hchecked
  obtain ⟨base, validated⟩ := checked
  obtain rfl : base = base_commit := Except.ok.inj (hbase'.symm.trans hbase)
  refine Triple.bind (Q := fun targets s => TargetsOf (p₀.commits base) validated targets ∧ On K s)
    ((read_base_on (fun p history hK => by rw [hK.1]) validated).mono (fun _ h => h) (fun _ _ h => h)
      fun _ s hs => hsafe s hs) fun targets => Triple.given fun htargets => ?_
  have hpairs := targets_manifest hvalidated htargets
  have hpaths : (targets.map Target.path).Nodup := by
    have hmap : validated.map Prod.fst = (targets.map Target.path).map PyStr.text := by
      rw [← htargets.files, List.map_map, List.map_map]
      rfl
    exact (hmap ▸ hnodup).of_map
  have hkeys : ((manifest files).map Prod.fst).Nodup := by
    rw [← hpairs, List.map_map]
    exact hpaths
  have hmem : ∀ t ∈ targets, (manifest files).lookup t.path = some t.content :=
    fun t ht => lookup_of_mem hkeys (hpairs ▸ List.mem_map_of_mem ht)
  have hall : ∀ tree : Tree, (∀ t ∈ targets, tree t.path = some (.file (_git_blob_sha t.content))) →
      ∀ f ∈ manifest files, tree f.1 = some (.file (_git_blob_sha f.2)) := by
    intro tree hset f hf
    rw [← hpairs, List.mem_map] at hf
    obtain ⟨t, ht, rfl⟩ := hf
    exact hset t ht
  have hchecks : Accepted branch files := by
    refine ⟨?_, hkeys, hbranch, hne⟩
    rw [hvalidated, ← hpairs, List.map_map]
    exact congrArg Except.ok htargets.files.symm
  refine Triple.bind (Q := fun state s => On K s ∧ StateOf branch s.provider state)
    (read_branch_reference_on.mono (fun _ h => h) (fun _ _ h => h) fun _ _ h => h.elim) fun state => ?_
  cases state with
  | unknown => exact Triple.raises fun s hs => hsafe s hs.1
  | absent =>
    have hsend := @send_json_on (fun p history => K p history ∧ p.branches branch = none)
      "GitHub App token exchange failed" (create_reference branch base)
      (Stands branch base (manifest files) p₀ ⟨base, p₀.commits base⟩) (fun _ _ => True) ?_
    · refine Triple.bind (hsend.mono (fun _ h => h) (fun _ _ h => h.1) fun _ s h => ?_) fun _ => ?_
      · exact h.elim (fun h => hsafe s h.1) fun h => h.1
      · refine (put_files_on hmem htargets.base hpaths rfl).mono (fun _ h => h) ?_ fun _ _ h => h
        rintro commit_sha s ⟨b, hcommit, hset, -, hs⟩
        exact ⟨hs.1, ⟨b, hs.2, hcommit, hall b.tree hset⟩, hchecks⟩
    · rintro commit p history ⟨⟨rfl, rfl⟩, -⟩ p' response heffect
      obtain ⟨hstep, hnew⟩ := create_reference_published heffect
      exact ⟨⟨Safe.step ⟨Published.refl p, List.forall_mem_nil _⟩ hstep, hnew⟩, trivial⟩
  | present commit_sha =>
    rintro s ⟨hK, b, hb, hcommit⟩
    have hstands : On (Stands branch base (manifest files) p₀ b) s := ⟨hsafe s hK, hb⟩
    refine Triple.bind ((files_to_update_on (K := Stands branch base (manifest files) p₀ b)
      (fun p history h => h.2) targets).mono (fun _ h => h) (fun _ _ h => h) fun _ _ h => h.1)
      (fun update => Triple.given fun hupdate => ?_) s hstands
    obtain ⟨hsub, hdone⟩ := hupdate
    refine (put_files_on (fun t ht => hmem t (hsub.subset ht))
      (fun t ht => htargets.base t (hsub.subset ht)) (hpaths.sublist (hsub.map _)) hcommit).mono
      (fun _ h => h) ?_ fun _ _ h => h
    rintro final s ⟨b', hfinal, hset, hkept, hs⟩
    refine ⟨hs.1, ⟨b', hs.2, hfinal, hall b'.tree fun t ht => ?_⟩, hchecks⟩
    by_cases hmember : t ∈ update
    · exact hset t hmember
    · rw [hkept t.path fun hpath => ?_]
      · exact hdone t ht hmember
      · obtain ⟨t', ht', heq⟩ := List.mem_map.mp hpath
        exact hmember (List.inj_on_of_nodup_map hpaths (hsub.subset ht') ht heq ▸ ht')

end Attempts

end AppContracts.GitHubPublication
