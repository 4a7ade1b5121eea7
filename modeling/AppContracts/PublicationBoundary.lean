/-
The request that reaches the endpoint.

`execute_publication` takes the row of the request's process and asks the
endpoint to publish the request. The two are compared only afterwards, when the
receipt is recorded, so a request that is not the row's is published, and its row
is left attempting.
-/
import AppContracts.PublicationJournal

set_option autoImplicit false

namespace AppContracts.PublicationJournal

open Interleave Validator

section Run

variable {ω : Type} (outside : Outside ω)

/-- What every step of a program keeps, the program keeps. -/
theorem exec_keeps {P : Op → Prop} {I : World ω → Prop}
    (hkeeps : ∀ op, P op → ∀ w, I w → I (outside.answer op w).2) {α : Type} {p : Program α}
    (hp : p.All P) {w : World ω} (hw : I w) : I (p.exec outside.answer w).2 := by
  induction p generalizing w with
  | ret a => exact hw
  | raise e => exact hw
  | call op next ih => exact ih _ (hp.2 _) (hkeeps op hp.1 w hw)

/-! ## Rows -/

theorem row?_update {db : Db} {f : PublicationRecord → PublicationRecord}
    (hid : ∀ row, (f row).process_id = row.process_id)
    (hkey : ∀ row, (f row).idempotency_key = row.idempotency_key) (process_id : String) :
    (db.update f hid hkey).row? process_id = (db.row? process_id).map f := by
  have hsame : (fun row : PublicationRecord => decide (row.process_id = process_id)) ∘ f =
      fun row => decide (row.process_id = process_id) := by
    funext row
    rw [Function.comp_apply, hid]
  show (db.rows.map f).find? _ = _
  rw [List.find?_map, hsame]
  rfl

theorem row?_set_status (db : Db) (process_id id : String) (expected target : Status) :
    (db.set_status id expected target).2.row? process_id = (db.row? process_id).map
      (where_status id expected fun row => { row with status := target }) :=
  row?_update (fun row => by unfold where_status; split_ifs <;> rfl)
    (fun row => by unfold where_status; split_ifs <;> rfl) process_id

theorem row?_complete (db : Db) (process_id id : String) (receipt : ℤ) (url : Option String)
    (expected : Status) :
    (db.complete id receipt url expected).2.row? process_id = (db.row? process_id).map
      (where_status id expected fun row =>
        { row with
          status := .completed, pull_request_id := some receipt, pull_request_url := url }) :=
  row?_update (fun row => by unfold where_status; split_ifs <;> rfl)
    (fun row => by unfold where_status; split_ifs <;> rfl) process_id

/-- A new row is the row of its process, and changes no other. -/
theorem row?_insert (db : Db) (row : PublicationRecord) (process_id : String) :
    ((db.insert row).getD db).row? process_id =
      if (db.insert row).isSome ∧ row.process_id = process_id then some row else db.row? process_id := by
  unfold Db.insert
  split_ifs with hfresh hboth hboth
  · show (row :: db.rows).find? _ = _
    rw [List.find?_cons_of_pos (by simpa using hboth.2)]
  · show (row :: db.rows).find? _ = _
    have hother : row.process_id ≠ process_id := fun heq => hboth ⟨rfl, heq⟩
    rw [List.find?_cons_of_neg (by simpa using hother)]
    rfl
  · exact absurd hboth.1 nofun
  · rfl

/-- A process that has a row gets no other. -/
theorem row?_insert_some {db : Db} {process_id : String} {old : PublicationRecord}
    (h : db.row? process_id = some old) (row : PublicationRecord) :
    ((db.insert row).getD db).row? process_id = some old := by
  rw [row?_insert]
  split_ifs with hboth
  · obtain ⟨hsome, hid⟩ := hboth
    unfold Db.insert at hsome
    split_ifs at hsome with hfresh
    · refine absurd (List.mem_map.mpr ⟨old, List.mem_of_find?_eq_some h, ?_⟩) hfresh.1
      rw [hid]
      simpa using List.find?_some h
    · exact nomatch hsome
  · exact h

/-- A process has one row. -/
theorem count_row {db : Db} {process_id : String} {row : PublicationRecord}
    (h : db.row? process_id = some row) (expected : Status) :
    db.count process_id expected = if row.status = expected then 1 else 0 := by
  obtain ⟨hid, before, after, hrows, hbefore⟩ := List.find?_eq_some_iff_append.mp h
  have hid : row.process_id = process_id := by simpa using hid
  have hnodup := db.process_ids
  rw [hrows, List.map_append, List.map_cons] at hnodup
  have hafter : ∀ other ∈ after, other.process_id ≠ process_id := by
    intro other hother heq
    have htail := (List.nodup_append.mp hnodup).2.1
    exact (List.nodup_cons.mp htail).1 (List.mem_map.mpr ⟨other, hother, heq.trans hid.symm⟩)
  have hnone : ∀ rows : List PublicationRecord, (∀ other ∈ rows, other.process_id ≠ process_id) →
      rows.countP (fun row => row.process_id = process_id ∧ row.status = expected) = 0 := by
    intro rows hrows
    refine List.countP_eq_zero.mpr fun other hother => ?_
    simp [hrows other hother]
  rw [Db.count, hrows, List.countP_append, List.countP_cons,
    hnone before fun other hother => by simpa using hbefore other hother, hnone after hafter]
  simp [hid]

/-! ## The steps of a publication -/

variable {P : Op → Prop}

theorem get_all (hselect : ∀ process_id, P (.select process_id)) (process_id : Arg PyStr) :
    (get process_id).All P := by
  refine (Prog.All.lift _).bind fun _ => (Prog.All.lift _).bind fun _ => ⟨hselect _, fun row => ?_⟩
  cases row with
  | some row => trivial
  | none => trivial

theorem _mark_completed_all {expected : Status} (hselect : ∀ process_id, P (.select process_id))
    (hcomplete : ∀ process_id id url, P (.complete process_id id url expected)) (urlparse : UrlParse)
    (process_id : Arg PyStr) (pull_request : Arg PullRequest) :
    (_mark_completed urlparse process_id pull_request expected).All P := by
  refine (get_all hselect _).bind fun record => (Prog.All.lift _).bind fun _ => ?_
  refine (Prog.All.lift _).bind fun _ => (Prog.All.lift _).bind fun url => ⟨hcomplete _ _ _, fun _ => ?_⟩
  exact Prog.All.lift _

theorem dispatch_all (hselect : ∀ process_id, P (.select process_id))
    (hcomplete : ∀ process_id id url expected, P (.complete process_id id url expected))
    (hhook : P .before_publish) {request : Json} (hpublish : P (.publish_pull_request (boundary request)))
    (urlparse : UrlParse) (record : PublicationRecord) (crash hook : Bool) :
    (dispatch_publication urlparse record request crash hook).All P := by
  have hbefore : (run_hook hook).All P := by
    cases hook with
    | true => exact ⟨hhook, fun _ => Prog.All.lift _⟩
    | false => trivial
  have hcall : (attempt (step (.publish_pull_request (boundary request)))).All P :=
    ⟨hpublish, fun _ => Prog.All.lift _⟩
  refine hbefore.bind fun _ => hcall.bind fun result => (Prog.All.lift _).bind fun _ => ?_
  exact (_mark_completed_all hselect (fun _ _ _ => hcomplete _ _ _ _) _ _ _).bind fun _ => trivial

/-- **A row that left `prepared` does not return to it** while its publication
is dispatched. -/
theorem dispatch_started (request : Json) (urlparse : UrlParse) (record : PublicationRecord)
    (crash hook : Bool) (process_id : String) (w : World ω)
    (hw : ∃ row, w.db.row? process_id = some row ∧ row.status ≠ .prepared) :
    ∃ row, ((dispatch_publication urlparse record request crash hook).exec outside.answer w).2.db.row?
      process_id = some row ∧ row.status ≠ .prepared := by
  refine exec_keeps outside (P := fun op => ∀ process_id expected target,
      op ≠ .set_status process_id expected target)
    (I := fun w => ∃ row, w.db.row? process_id = some row ∧ row.status ≠ .prepared) ?_ (dispatch_all (fun _ _ _ _ => nofun)
      (fun _ _ _ _ _ _ _ => nofun) (fun _ _ _ => nofun) (fun _ _ _ => nofun) _ _ _ _) hw
  rintro op hop w ⟨row, hrow, hstatus⟩
  cases op with
  | set_status id expected target => exact absurd rfl (hop id expected target)
  | complete id receipt url expected =>
    refine ⟨_, (row?_complete w.db process_id id receipt url expected).trans (congrArg _ hrow), ?_⟩
    unfold where_status
    split_ifs
    · exact nofun
    · exact hstatus
  | select id => exact ⟨row, hrow, hstatus⟩
  | insert other => exact ⟨row, row?_insert_some hrow other, hstatus⟩
  | before_publish => exact ⟨row, hrow, hstatus⟩
  | publish_pull_request request => exact ⟨row, hrow, hstatus⟩
  | find_by_idempotency_key key repository_id base_branch => exact ⟨row, hrow, hstatus⟩

/-- Only the boundary fields of the request are published. -/
theorem dispatch_published (request : Json) (urlparse : UrlParse) (record : PublicationRecord)
    (crash hook : Bool) (w : World ω) :
    ∃ more, ((dispatch_publication urlparse record request crash hook).exec outside.answer w).2.published =
      w.published ++ more ∧ ∀ published ∈ more, published = boundary request := by
  refine exec_keeps outside (P := fun op => ∀ other, op = .publish_pull_request other →
      other = boundary request)
    (I := fun w' => ∃ more, w'.published = w.published ++ more ∧
      ∀ published ∈ more, published = boundary request) ?_ (dispatch_all (fun _ _ => nofun)
        (fun _ _ _ _ _ => nofun) (fun _ => nofun) (fun _ heq => (Op.publish_pull_request.inj heq).symm)
          _ _ _ _) ⟨[], (List.append_nil _).symm, fun _ hmem => nomatch hmem⟩
  rintro op hop w' ⟨more, hw', hmore⟩
  cases op with
  -- the one request that publishes
  | publish_pull_request other =>
    refine ⟨more ++ [other], ?_, fun published hpublished => ?_⟩
    · show w'.published ++ [other] = _
      rw [hw', List.append_assoc]
    · rcases List.mem_append.mp hpublished with hmem | hmem
      · exact hmore _ hmem
      · rw [List.mem_singleton.mp hmem, hop other rfl]
  | select id => exact ⟨more, hw', hmore⟩
  | insert other => exact ⟨more, hw', hmore⟩
  | set_status id expected target => exact ⟨more, hw', hmore⟩
  | complete id receipt url expected => exact ⟨more, hw', hmore⟩
  | before_publish => exact ⟨more, hw', hmore⟩
  | find_by_idempotency_key key repository_id base_branch => exact ⟨more, hw', hmore⟩

/-! ## Up to the dispatch -/

variable {request : Json} {row : PublicationRecord} {w : World ω}

theorem process_id_nonempty (hcheck : check_request request = .ok ()) {process_id : String}
    (hid : request.get? "process_id" = some (.str (.text process_id))) : process_id ≠ "" := by
  simp only [check_request, bind_ok, exists_unit, raise_if_ok, Bool.not_eq_false] at hcheck
  have hnonempty := hcheck.2.2.2
  rw [has_nonempty_str, hid] at hnonempty
  rintro rfl
  exact nomatch hnonempty

theorem get_exec (hrow : w.db.row? row.process_id = some row) (hne : row.process_id ≠ "") :
    (get (.of (.text row.process_id))).exec outside.answer w = (.ok row, w) := by
  have htext : PyStr.text row.process_id ≠ .text "" := fun heq => hne (PyStr.text.inj heq)
  simp [get, nonempty_str, htext, bind_text, step, Prog.perform, Prog.exec, Outside.answer, hrow]

/-- The row of a request is marked before anything compares the two. -/
theorem mark_attempting_exec (hrow : w.db.row? row.process_id = some row)
    (hstatus : row.status = .prepared) (hne : row.process_id ≠ "") :
    (mark_attempting (.of (.text row.process_id))).exec outside.answer w =
      (.ok (), { w with db := (w.db.set_status row.process_id .prepared .attempting).2 }) := by
  have htext : PyStr.text row.process_id ≠ .text "" := fun heq => hne (PyStr.text.inj heq)
  have hcount : (w.db.set_status row.process_id .prepared .attempting).1 = 1 := by
    rw [Db.set_status, count_row hrow, if_pos hstatus]
  simp [mark_attempting, _set_status, nonempty_str, htext, bind_text, step, Prog.perform, Prog.exec,
    Outside.answer, hcount, updated_one, raise_if]

theorem execute_exec (urlparse : UrlParse) (crash hook : Bool)
    (hcheck : check_request request = .ok ())
    (hid : request.get? "process_id" = some (.str (.text row.process_id)))
    (hrow : w.db.row? row.process_id = some row) (hstatus : row.status = .prepared) :
    (execute_publication urlparse request crash hook).exec outside.answer w =
      (dispatch_publication urlparse row request crash hook).exec outside.answer
        { w with db := (w.db.set_status row.process_id .prepared .attempting).2 } := by
  have hne := process_id_nonempty hcheck hid
  have hargument : argument request "process_id" = .of (.text row.process_id) := by
    rw [argument, hid]
  have hprepared : raise_if (row.status ≠ .prepared) (value_error "publication is not prepared") =
      .ok () := raise_if_ok.mpr (not_not.mpr hstatus)
  simp only [execute_publication, Prog.bind_eq, Prog.exec_bind, Prog.exec_lift, hcheck, hargument,
    get_exec outside hrow hne, hprepared, mark_attempting_exec outside hrow hstatus hne]

/-! ## The boundary -/

/-- The request has the key, the repository and the base branch of the row. -/
def Matches (request : Json) (row : PublicationRecord) : Prop :=
  request.get? "idempotency_key" = some (.str (.text row.idempotency_key)) ∧
    request.get? "repository_id" = some (.str (.text row.repository_id)) ∧
    ∃ base, row.base_branch = some base ∧ request.get? "base_branch" = some (.str (.text base))

theorem get_filtered (doc : Json) (fields : List String) (key : String) :
    (Json.obj (fields.filterMap fun field =>
      (doc.get? field).map fun v => (PyStr.text field, v))).get? key =
      if key ∈ fields then doc.get? key else none := by
  induction fields with
  | nil => rfl
  | cons field fields ih =>
    rw [List.filterMap_cons]
    by_cases hkey : key = field
    · subst hkey
      cases hget : doc.get? key with
      | none => simpa [hget] using ih
      | some v => simp
    · cases hget : doc.get? field with
      | none => simpa [hkey, hget] using ih
      | some v => simpa [hkey] using ih

theorem matches_boundary : Matches (boundary request) row ↔ Matches request row := by
  unfold Matches boundary
  rw [get_filtered, get_filtered, get_filtered]
  rfl

/-- Only requests that match the row are published, and any other is refused
before there is an effect on the journal or outside it. -/
def Guarded (urlparse : UrlParse) (request : Json) (crash hook : Bool) (w : World ω)
    (row : PublicationRecord) : Prop :=
  let run := (execute_publication urlparse request crash hook).exec outside.answer w
  (∃ more, run.2.published = w.published ++ more ∧ ∀ published ∈ more, Matches published row) ∧
    (¬ Matches request row → (∃ e, run.1 = .error e) ∧ run.2.published = w.published ∧
      run.2.outside = w.outside ∧ run.2.db.row? row.process_id = some row)

/-- **When a publication is that of its row**: the request is malformed, or it
has the row's key, repository and base branch to begin with. -/
theorem publication_matches_row_iff (urlparse : UrlParse) (crash hook : Bool)
    (hrow : w.db.row? row.process_id = some row) (hstatus : row.status = .prepared)
    (hid : request.get? "process_id" = some (.str (.text row.process_id))) :
    Guarded outside urlparse request crash hook w row ↔
      check_request request ≠ .ok () ∨ Matches request row := by
  cases hcheck : check_request request with
  | error e =>
    have hrun : (execute_publication urlparse request crash hook).exec outside.answer w = (.error e, w) := by
      simp only [execute_publication, Prog.bind_eq, Prog.exec_bind, Prog.exec_lift, hcheck]
    refine iff_of_true ?_ (.inl nofun)
    unfold Guarded
    rw [hrun]
    exact ⟨⟨[], (List.append_nil _).symm, fun _ hmem => nomatch hmem⟩, fun _ => ⟨⟨e, rfl⟩, rfl, rfl, hrow⟩⟩
  | ok =>
    have hrun := execute_exec outside urlparse crash hook hcheck hid hrow hstatus
    have hattempting : (w.db.set_status row.process_id .prepared .attempting).2.row? row.process_id =
        some { row with status := .attempting } := by
      rw [row?_set_status, hrow, Option.map_some, where_status, if_pos ⟨rfl, hstatus⟩]
    unfold Guarded
    rw [hrun]
    constructor
    · -- The row has left `prepared`, so a request that does not match is not refused in time.
      rintro ⟨-, hrefused⟩
      refine .inr (by_contra fun hmatch => ?_)
      obtain ⟨-, -, -, hkept⟩ := hrefused hmatch
      obtain ⟨row', hrow', hstarted⟩ := dispatch_started outside request urlparse row crash hook
        row.process_id { w with db := (w.db.set_status row.process_id .prepared .attempting).2 }
        ⟨_, hattempting, nofun⟩
      rw [hkept, Option.some.injEq] at hrow'
      exact hstarted (hrow' ▸ hstatus)
    · intro hcondition
      have hmatch : Matches request row := hcondition.resolve_left (fun h => h rfl)
      obtain ⟨more, hmore, hboundary⟩ := dispatch_published outside request urlparse row crash hook
        { w with db := (w.db.set_status row.process_id .prepared .attempting).2 }
      refine ⟨⟨more, hmore, fun published hpublished => ?_⟩, fun h => absurd hmatch h⟩
      rw [hboundary published hpublished]
      exact matches_boundary.mpr hmatch

end Run

/-! ## A request of another repository -/

/-- The digest of a staged change. -/
def sample_digest : String :=
  "sha256:0000000000000000000000000000000000000000000000000000000000000000"

/-- The key of its publication from `agent/fix` to `main`. -/
def sample_key : String :=
  "publish/fix/main/sha256:0000000000000000000000000000000000000000000000000000000000000000"

/-- A prepared row. -/
def sample_row : PublicationRecord where
  process_id := "process-1"
  idempotency_key := sample_key
  request_digest :=
    "sha256:1111111111111111111111111111111111111111111111111111111111111111"
  repository_id := "acme/service"
  base_branch := some "main"
  status := .prepared
  pull_request_id := none
  pull_request_url := none
  verified_files_digest := none
  verified_files_outcome := none
  verified_branch_commit_sha := none
  verified_files_observed_at := none

def sample_world : World Unit where
  db := ⟨[sample_row], List.nodup_singleton _, List.nodup_singleton _⟩
  outside := ()
  published := []

/-- An endpoint that breaks off after it was called. -/
def sample_outside : Outside Unit where
  before_publish := fun () => (.ok (), ())
  publish_pull_request := fun _ () => (.error ⟨.RuntimeError, "connection lost"⟩, ())
  find_by_idempotency_key := fun _ _ _ () => (.ok none, ())

/-- A request for the row's process. -/
def sample_request (repository_id : String) : Json :=
  let text := fun s => Json.str (.text s)
  .obj [(.text "process_id", text "process-1"), (.text "operation", text "publish_pull_request"),
    (.text "repository_id", text repository_id), (.text "branch", text "agent/fix"),
    (.text "base_branch", text "main"), (.text "staged_change_digest", text sample_digest),
    (.text "idempotency_key", text sample_key), (.text "policy_effect", text "allow"),
    (.text "approval_valid", .bool true)]

/-- The endpoint is asked to publish to a repository that is not the row's, and
the row is left attempting. -/
theorem foreign_request_published :
    ∃ e db, (execute_publication (fun _ => none) (sample_request "acme/other") false false).exec
        sample_outside.answer sample_world =
          (.error e, ⟨db, (), [boundary (sample_request "acme/other")]⟩) ∧
      (boundary (sample_request "acme/other")).get? "repository_id" =
        some (.str (.text "acme/other")) ∧
      db.row? "process-1" = some { sample_row with status := .attempting } ∧
      ¬ Guarded sample_outside (fun _ => none) (sample_request "acme/other") false false sample_world
        sample_row := by
  refine ⟨_, _, rfl, rfl, rfl, ?_⟩
  rintro ⟨-, hrefused⟩
  have hother : ¬ Matches (sample_request "acme/other") sample_row := by
    rintro ⟨-, hrepository, -⟩
    exact absurd (PyStr.text.inj (Json.str.inj (Option.some.inj hrepository))) (by decide)
  exact nomatch (hrefused hother).2.1

theorem publication_matches_row_sample :
    Guarded sample_outside (fun _ => none) (sample_request "acme/service") false false sample_world
      sample_row :=
  (publication_matches_row_iff sample_outside (fun _ => none) false false rfl rfl rfl).mpr
    (.inr ⟨rfl, rfl, _, rfl, rfl⟩)

end AppContracts.PublicationJournal
