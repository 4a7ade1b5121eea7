/-
Publications on one journal, by any number of workers: `prepare`, `execute_publication` and
`recover_publication` of `publication.py`, `reconcile_controlled_attempt_after_restart` and the
publishing part of `run_controlled_local_publication` of `controlled_publication.py`.

A step is one transaction of the journal or one call outside it. Any worker may take the next
step, and each may stop anywhere. A transaction may fail, and then it changes nothing; the
endpoint, the hook and the observer answer what they like.

A worker publishes only after its own update found the row in `prepared`, and a row leaves
`prepared` once. The proof follows that claim: a monitor tells from a worker's past which row
it has claimed (`noted`), every step of every program is allowed by it (`body_obeys`), and what
the worker knows (the claimed row exists and has left `prepared`) survives the steps of the
others, which therefore cannot claim the same row (`run_steps`). The run theorem only counts.

The endpoint is given the key of the request and not that of the row. The two are compared when
the receipt is recorded, after the call; what is promised of keys needs them to be equal.
-/
import AppContracts.PublicationRecovery

set_option autoImplicit false

namespace AppContracts.PublicationRuns

open Interleave PublicationJournal Validator
open PublicationRecovery (controlled_error recovery_required)

/-! ## Steps -/

/-- The steps of a worker: those of the journal and the channel, the lookup by a key alone,
and what the observer records. -/
inductive Op : Type
  | recovery (op : PublicationRecovery.Op)
  | find_by_key (idempotency_key : String)
  | observe

/-- The answers of a step. -/
abbrev Op.Res : Op → Type
  | .recovery op => op.Res
  | .find_by_key _ => Except Exn (Option (Arg PullRequest))
  | .observe => Except Exn Unit

/-- Code of a worker. -/
abbrev Program (α : Type) : Type := Prog Op Op.Res Exn α

/-- A program of the recovery. -/
def recovery {α : Type} (p : PublicationRecovery.Program α) : Program α :=
  p.embed Op.recovery fun _ r => .ok r

/-- A method of the journal. -/
def journal {α : Type} (p : PublicationJournal.Program α) : Program α :=
  recovery (PublicationRecovery.journal p)

/-- A step that may raise. -/
def attempt {α : Type} (p : Program (Except Exn α)) : Program α := do
  let answer ← p
  Prog.lift answer

/-- The transactions of one journal; everything outside it answers anything. -/
inductive Sem : Semantics Op Op.Res Db
  | recovery {db db' : Db} {op : PublicationRecovery.Op} {r : op.Res}
      (h : PublicationRecovery.Sem db op r db') : Sem db (.recovery op) r db'
  | before_publish (db : Db) (answer : Except Exn Unit) :
      Sem db (.recovery (.journal .before_publish)) (.ok answer) db
  | find_by_key (db : Db) (idempotency_key : String)
      (answer : Except Exn (Option (Arg PullRequest))) :
      Sem db (.find_by_key idempotency_key) answer db
  | observe (db : Db) (answer : Except Exn Unit) : Sem db .observe answer db

/-! ## The controlled publication -/

/-- What the gates of `run_controlled_local_publication` hand to its last part. They touch
neither the journal nor the endpoint, and a call that they refuse ends with an error of theirs. -/
structure Gated : Type where
  intent : PublicationRecovery.PublicationIntent
  request_digest : Arg PyStr
  verified_contents_digest : Arg PyStr
  effect : Json
  channel_matches : Bool
  publishes_files : Bool
  observed : Bool

/-- `request`. -/
def Gated.request (gated : Gated) : Json :=
  .obj [(.text "process_id", .str gated.intent.process_id),
    (.text "operation", .str (.text "publish_pull_request")),
    (.text "repository_id", .str gated.intent.repository_id),
    (.text "branch", .str (.text gated.intent.branch)),
    (.text "base_branch", .str (.text gated.intent.base_branch)),
    (.text "staged_change_digest", .str (.text gated.intent.digest)),
    (.text "idempotency_key", .str (.text gated.intent.key)),
    (.text "policy_effect", gated.effect), (.text "approval_valid", .bool true)]

/-- `observer.run_controlled_step("Publication.dispatch", ..)`: the observer records the
intent before the dispatch and the outcome after it, whatever the outcome is. -/
def run_controlled_step {α : Type} (observed : Bool) (dispatch : Program α) : Program α :=
  if observed then do
    attempt (Prog.perform Op.observe)
    let result ← dispatch.handle fun e => do
      attempt (Prog.perform Op.observe)
      throw e
    attempt (Prog.perform Op.observe)
    return result
  else dispatch

/-- The receipt of a row that the recovery completed, if the channel has it. -/
def recovered_receipt (urlparse : UrlParse) (gated : Gated) : Program (Option PullRequest) := do
  let recovered ← recovery
    (PublicationRecovery.recover_publication urlparse (.of gated.intent.process_id))
  if recovered.status = .completed then do
    let receipt ← attempt (Prog.perform (Op.find_by_key gated.intent.key))
    match receipt with
    | some (.of pull_request) => return some pull_request
    | _ => return none
  else return none

/-- An attempt that is left over requires reconciliation: whatever fails is passed. -/
def mark_left_over (gated : Gated) : Program Unit :=
  (do
    let current ← journal (get (.of gated.intent.process_id))
    if current.status = .attempting then
      journal (mark_reconciliation_required (.of gated.intent.process_id))
    else return () : Program _).handle fun _ => return ()

/-- `except SimulatedCrash` and `except Exception` of `publish_after_broker`. -/
def after_failure (urlparse : UrlParse) (gated : Gated) (e : Exn) : Program (Arg PullRequest) :=
  if e.cls = .SimulatedCrash then throw e
  else do
    let current ← journal (get (.of gated.intent.process_id))
    if current.status ≠ .attempting then throw e
    else do
      let receipt ← (recovered_receipt urlparse gated).handle fun _ => return none
      match receipt with
      | some pull_request => return .of pull_request
      | none => do
        mark_left_over gated
        throw recovery_required

/-- `publish_after_broker`. -/
def publish_after_broker (urlparse : UrlParse) (gated : Gated) : Program (Arg PullRequest) := do
  Prog.lift (raise_if (gated.channel_matches = false) (controlled_error "broker channel is invalid"))
  (run_controlled_step gated.observed
    (journal (execute_publication urlparse gated.request false gated.publishes_files))).handle
      fun e => after_failure urlparse gated e

/-- `run_controlled_local_publication` after its gates: the row is prepared, then published. -/
def run_controlled_local_publication (urlparse : UrlParse) (gated : Gated) :
    Program (Arg PullRequest) := do
  let _row ← journal (PublicationKeys.prepare (.of gated.intent.process_id)
    (.of (.text gated.intent.key)) gated.request_digest (.of gated.intent.repository_id)
    (some gated.verified_contents_digest))
  publish_after_broker urlparse gated

/-! ## Workers -/

/-- A call that a worker serves. -/
inductive Job : Type
  | prepare (process_id idempotency_key request_digest repository_id : Arg PyStr)
      (verified_files_digest : Option (Arg PyStr))
  | execute_publication (request : Json) (crash_after_external_effect before_publish : Bool)
  | recover_publication (process_id : Arg PyStr)
  | reconcile (c : PublicationRecovery.Call)
  | run_controlled_local_publication (gated : Gated)

/-- The program of a call. -/
def Job.body (urlparse : UrlParse) : Job → Program (PublicationRecord ⊕ Arg PullRequest)
  | .prepare process_id idempotency_key request_digest repository_id verified_files_digest =>
    Sum.inl <$> journal (PublicationKeys.prepare process_id idempotency_key request_digest
      repository_id verified_files_digest)
  | .execute_publication request crash_after_external_effect before_publish =>
    Sum.inr <$> journal (PublicationJournal.execute_publication urlparse request
      crash_after_external_effect before_publish)
  | .recover_publication process_id =>
    Sum.inl <$> recovery (PublicationRecovery.recover_publication urlparse process_id)
  | .reconcile c =>
    Sum.inl <$> recovery (PublicationRecovery.reconcile_controlled_attempt_after_restart urlparse c)
  | .run_controlled_local_publication gated =>
    Sum.inr <$> PublicationRuns.run_controlled_local_publication urlparse gated

/-- The request that a call publishes. -/
def Job.request : Job → Option Json
  | .execute_publication request _ _ => some request
  | .run_controlled_local_publication gated => some gated.request
  | _ => none

/-- The process of that request. -/
def Job.process_id (job : Job) : Option Json := job.request.bind fun request => request.get? "process_id"

/-- A worker of a run. -/
abbrev Worker : Type := Thread Job Op Op.Res Exn (PublicationRecord ⊕ Arg PullRequest) Db

/-- The states that workers on one journal can reach. -/
def Run (urlparse : UrlParse) (db : Db)
    (cfg : Config Job Op Op.Res Exn (PublicationRecord ⊕ Arg PullRequest) Db) : Prop :=
  Reachable (Job.body urlparse) Sem db cfg

/-! ## Rows -/

/-- The way of a status. -/
inductive Next : Status → Status → Prop
  | attempt : Next .prepared .attempting
  | complete : Next .attempting .completed
  | require : Next .attempting .reconciliation_required
  | reconcile : Next .reconciliation_required .completed

/-- The request that a row was prepared for. -/
def identity (row : PublicationRecord) : String × String × Option String × String :=
  (row.idempotency_key, row.repository_id, row.base_branch, row.request_digest)

/-- What one step may make of the row of a process. -/
inductive RowStep : Option PublicationRecord → Option PublicationRecord → Prop
  | same (row : Option PublicationRecord) : RowStep row row
  | prepared (row : PublicationRecord) (h : row.status = .prepared) : RowStep none (some row)
  | kept {row row' : PublicationRecord} (hidentity : identity row' = identity row)
      (hstatus : row'.status = row.status ∨ Next row.status row'.status) :
      RowStep (some row) (some row')

/-- One step on the whole table. -/
def Forward (before after : Db) : Prop :=
  ∀ process_id, RowStep (before.row? process_id) (after.row? process_id)

/-- The row of the process has left `prepared`, and is of the same request. -/
def Started (db : Db) (process_id : String) (row : PublicationRecord) : Prop :=
  ∃ row', db.row? process_id = some row' ∧ identity row' = identity row ∧ row'.status ≠ .prepared

theorem Next.started {a b : Status} (h : Next a b) : b ≠ .prepared := by
  cases h <;> exact nofun

/-- A row that has left `prepared` stays, and so does its request. -/
theorem Started.forward {before after : Db} {process_id : String} {row : PublicationRecord}
    (h : Started before process_id row) (hforward : Forward before after) :
    Started after process_id row := by
  obtain ⟨row', hrow', hidentity, hstatus⟩ := h
  have hstep := hforward process_id
  rw [hrow'] at hstep
  generalize hafter : after.row? process_id = found at hstep
  cases hstep with
  | same => exact ⟨row', hafter, hidentity, hstatus⟩
  | @kept _ row'' hsame hnext =>
    refine ⟨row'', hafter, hsame.trans hidentity, ?_⟩
    rcases hnext with heq | hnext
    · rwa [heq]
    · exact hnext.started

/-- An update of the rows in one status. -/
theorem RowStep.where {db db' : Db} {id process_id : String} {expected : Status}
    {f : PublicationRecord → PublicationRecord}
    (hupdate : db'.row? process_id = (db.row? process_id).map (where_status id expected f))
    (hidentity : ∀ row, identity (f row) = identity row)
    (hstatus : ∀ row, row.status = expected → (f row).status = expected ∨ Next expected (f row).status) :
    RowStep (db.row? process_id) (db'.row? process_id) := by
  cases hrow : db.row? process_id with
  | none =>
    rw [hupdate, hrow]
    exact .same none
  | some row =>
    rcases PublicationRecovery.row?_where hupdate hrow with hsame | ⟨-, hexpected, hnew⟩
    · rw [hsame]
      exact .same _
    · rw [hnew]
      exact .kept (hidentity row) (hexpected ▸ hstatus row hexpected)

/-! ## What a worker has done -/

/-- How far a worker is with the row it publishes. -/
inductive Attempt : Type
  | idle
  | read (asked found : String)
  | claimed (process_id : String)
  | published (process_id : String)

/-- The row that a worker has claimed. -/
def Attempt.claim : Attempt → Option String
  | .claimed process_id => some process_id
  | .published process_id => some process_id
  | _ => none

/-- A row was read. -/
def Attempt.reads (asked found : String) : Attempt → Attempt
  | .idle => .read asked found
  | .read _ _ => .read asked found
  | m => m

/-- An update found its row in `prepared`. -/
def Attempt.claims (process_id : String) (rowcount : Except Exn ℕ) (m : Attempt) : Attempt :=
  match rowcount with
  | .ok 1 => .claimed process_id
  | _ => m

/-- The endpoint was called. -/
def Attempt.publishes : Attempt → Attempt
  | .claimed process_id => .published process_id
  | m => m

/-- What a worker's steps tell of its claim. -/
def noted (m : Attempt) : (op : Op) → op.Res → Attempt
  | .recovery (.journal (.select asked)), .ok (some row) => m.reads asked row.process_id
  | .recovery (.journal (.set_status process_id .prepared _)), rowcount => m.claims process_id rowcount
  | .recovery (.journal (.publish_pull_request _)), _ => m.publishes
  | _, _ => m

/-- The steps that neither claim a row nor publish. -/
def quiet : Op → Prop
  | .recovery (.journal (.insert row)) => row.status = .prepared
  | .recovery (.journal (.set_status _ expected target)) =>
    expected = .attempting ∧ target = .reconciliation_required
  | .recovery (.journal (.complete _ _ _ expected)) =>
    expected = .attempting ∨ expected = .reconciliation_required
  | .recovery (.journal (.publish_pull_request _)) => False
  | .recovery (.publish_verified_files _ _ _) => False
  | _ => True

/-- What a worker may do next. -/
inductive Allowed (job : Job) (m : Attempt) : Op → Prop
  | quiet {op : Op} (h : quiet op) : Allowed job m op
  | claim {asked found : String} (hread : m = .read asked found)
      (hprocess : job.process_id = some (.str (.text asked))) :
      Allowed job m (.recovery (.journal (.set_status found .prepared .attempting)))
  | publish {process_id : String} {request : Json} (hclaimed : m = .claimed process_id)
      (hrequest : job.request = some request) :
      Allowed job m (.recovery (.journal (.publish_pull_request (boundary request))))

/-- **What one step does to the rows.** -/
theorem Allowed.forward {job : Job} {m : Attempt} {db db' : Db} {op : Op} {r : op.Res}
    (h : Allowed job m op) (hsem : Sem db op r db') : Forward db db' := by
  intro process_id
  cases hsem with
  | before_publish => exact .same _
  | find_by_key => exact .same _
  | observe => exact .same _
  | recovery hstep =>
    cases hstep with
    | insert _ row =>
      have hprepared : row.status = .prepared := by
        cases h with
        | quiet h => exact h
      rw [row?_insert]
      split_ifs with hnew
      · cases hrow : db.row? process_id with
        | none => exact .prepared row hprepared
        | some old =>
          have hkept := row?_insert_some hrow row
          rw [row?_insert, if_pos hnew] at hkept
          rw [hkept]
          exact .same _
      · exact .same _
    | set_status _ id expected target =>
      refine .where (row?_set_status db process_id id expected target) (fun _ => rfl)
        fun row _ => .inr ?_
      cases h with
      | quiet h =>
        obtain ⟨rfl, rfl⟩ := h
        exact .require
      | claim => exact .attempt
    | complete _ id number url expected =>
      refine .where (row?_complete db process_id id number url expected) (fun _ => rfl)
        fun row _ => .inr ?_
      cases h with
      | quiet h =>
        rcases h with rfl | rfl
        · exact .complete
        · exact .reconcile
    | record_verified_files _ id digest outcome commit observed =>
      exact .where (row?_record_verified_files db process_id id digest outcome commit observed)
        (fun _ => rfl) fun row hstatus => .inl hstatus
    | _ => exact .same _

/-! ## What a worker knows -/

/-- The row that was read is the one asked for; a claimed row is the one of the worker's
request, and has left `prepared`. -/
def Knows (job : Job) (db : Db) (m : Attempt) : Prop :=
  (∀ asked found, m = .read asked found → asked = found) ∧
    ∀ process_id, m.claim = some process_id →
      job.process_id = some (.str (.text process_id)) ∧ ∃ row, Started db process_id row

/-- Two workers have claimed different rows. -/
def Apart (m m' : Attempt) : Prop :=
  ∀ process_id, m.claim = some process_id → m'.claim ≠ some process_id

theorem Knows.forward {job : Job} {before after : Db} {m : Attempt} (h : Knows job before m)
    (hforward : Forward before after) : Knows job after m := by
  refine ⟨h.1, fun process_id hclaim => ?_⟩
  obtain ⟨hprocess, row, hstarted⟩ := h.2 process_id hclaim
  exact ⟨hprocess, row, hstarted.forward hforward⟩

/-- An update that changes one row found it in `prepared`. -/
theorem count_prepared {db : Db} {process_id : String}
    (h : (db.set_status process_id .prepared .attempting).1 = 1) :
    ∃ row, db.row? process_id = some row ∧ row.status = .prepared := by
  have hcount : db.count process_id .prepared = 1 := h
  cases hrow : db.row? process_id with
  | none =>
    have hnone : db.count process_id .prepared = 0 := by
      refine List.countP_eq_zero.mpr fun row hmem => ?_
      have hother := List.find?_eq_none.mp hrow row hmem
      simp only [decide_eq_true_eq] at hother ⊢
      exact fun hboth => hother hboth.1
    omega
  | some row =>
    rw [count_row hrow] at hcount
    split_ifs at hcount with hprepared
    exact ⟨row, rfl, hprepared⟩

/-- A worker that claims a row finds it in `prepared`. -/
theorem noted_claim {job : Job} {m : Attempt} {db db' : Db} {op : Op} {r : op.Res}
    (hallowed : Allowed job m op) (hsem : Sem db op r db') {process_id : String}
    (h : (noted m op r).claim = some process_id) :
    m.claim = some process_id ∨ ∃ asked row row', m = .read asked process_id ∧
      job.process_id = some (.str (.text asked)) ∧ db.row? process_id = some row ∧
      row.status = .prepared ∧ db'.row? process_id = some row' ∧ identity row' = identity row ∧
      row'.status = .attempting := by
  cases hsem with
  | before_publish => exact .inl h
  | find_by_key => exact .inl h
  | observe => exact .inl h
  | recovery hstep =>
    cases hstep with
    | select _ id =>
      revert h
      cases db.row? id with
      | none => exact .inl
      | some row => cases m <;> exact .inl
    | publish_pull_request => cases m <;> exact .inl h
    | set_status _ id expected target =>
      cases hallowed with
      | quiet hquiet =>
        obtain ⟨rfl, rfl⟩ := hquiet
        exact .inl h
      | @claim asked _ hread hprocess =>
        subst hread
        by_cases hone : (db.set_status id .prepared .attempting).1 = 1
        · obtain ⟨row, hrow, hprepared⟩ := count_prepared hone
          have hclaimed : id = process_id := by
            simpa [noted, Attempt.claims, hone, Attempt.claim] using h
          subst hclaimed
          have hnew := row?_set_status db id id .prepared .attempting
          have hid := PublicationRecovery.row?_process_id hrow
          rw [hrow, Option.map_some, where_status, if_pos ⟨hid, hprepared⟩] at hnew
          exact .inr ⟨asked, row, _, rfl, hprocess, hrow, hprepared, hnew, rfl, rfl⟩
        · exact absurd h (by simp [noted, Attempt.claims, hone, Attempt.claim])
    | journal_failed _ op e =>
      cases op with
      | select => exact .inl h
      | set_status id expected target => cases expected <;> exact .inl h
      | publish_pull_request => cases m <;> exact .inl h
      | _ => exact .inl h
    | _ => exact .inl h

/-- A row that was read is the one asked for. -/
theorem noted_read {m : Attempt} {db db' : Db} {op : Op} {r : op.Res} (hsem : Sem db op r db')
    (hread : ∀ asked found, m = .read asked found → asked = found) {asked found : String}
    (h : noted m op r = .read asked found) : asked = found := by
  cases hsem with
  | before_publish => exact hread asked found h
  | find_by_key => exact hread asked found h
  | observe => exact hread asked found h
  | recovery hstep =>
    cases hstep with
    | select _ id =>
      revert h
      cases hrow : db.row? id with
      | none => exact hread asked found
      | some row =>
        have hfound := PublicationRecovery.row?_process_id hrow
        intro h
        cases m with
        | idle =>
          cases h
          exact hfound.symm
        | read =>
          cases h
          exact hfound.symm
        | claimed => cases h
        | published => cases h
    | publish_pull_request =>
      cases m with
      | claimed => cases h
      | _ => exact hread asked found h
    | set_status _ id expected target =>
      cases expected with
      | prepared =>
        revert h
        show Attempt.claims id (.ok (db.set_status id .prepared target).1) m = _ → _
        unfold Attempt.claims
        split
        · exact nofun
        · exact hread asked found
      | _ => exact hread asked found h
    | journal_failed _ op e =>
      cases op with
      | select => exact hread asked found h
      | set_status id expected target => cases expected <;> exact hread asked found h
      | publish_pull_request =>
        cases m with
        | claimed => cases h
        | _ => exact hread asked found h
      | _ => exact hread asked found h
    | _ => exact hread asked found h

/-- A worker knows what it has read and claimed. -/
theorem step_knows {job : Job} {m : Attempt} {db db' : Db} {op : Op} {r : op.Res}
    (hknows : Knows job db m) (hallowed : Allowed job m op) (hsem : Sem db op r db') :
    Knows job db' (noted m op r) := by
  refine ⟨fun asked found hread => noted_read hsem hknows.1 hread, fun process_id hclaim => ?_⟩
  rcases noted_claim hallowed hsem hclaim with hold |
    ⟨asked, row, row', hread, hprocess, -, -, hrow', hsame, hnew⟩
  · exact (hknows.forward (hallowed.forward hsem)).2 process_id hold
  · obtain rfl := hknows.1 asked process_id hread
    exact ⟨hprocess, row, row', hrow', hsame, by rw [hnew]; exact nofun⟩

/-- A worker claims no row that another one has claimed: that row has left `prepared`. -/
theorem step_apart {job job' : Job} {m m' : Attempt} {db db' : Db} {op : Op} {r : op.Res}
    (hallowed : Allowed job m op) (hsem : Sem db op r db') (hother : Knows job' db m')
    (hapart : Apart m m') : Apart (noted m op r) m' := by
  intro process_id hclaim hclaim'
  rcases noted_claim hallowed hsem hclaim with hold | ⟨-, row, -, -, -, hrow, hprepared, -⟩
  · exact hapart process_id hold hclaim'
  · obtain ⟨-, -, row', hrow', -, hstarted⟩ := hother.2 process_id hclaim'
    obtain rfl : row' = row := Option.some.inj (hrow'.symm.trans hrow)
    exact hstarted hprepared

/-! ## What a worker does -/

section Programs

variable {P : PublicationJournal.Op → Prop} {P' : PublicationRecovery.Op → Prop}

theorem _set_status_all {expected target : Status}
    (hset : ∀ process_id, P (.set_status process_id expected target)) (process_id : Arg PyStr) :
    (_set_status process_id expected target).All P := by
  refine (Prog.All.lift _).bind fun _ => (Prog.All.lift _).bind fun id => ⟨hset id, fun _ => ?_⟩
  exact Prog.All.lift _

/-- The steps of `prepare`. -/
theorem prepare_all (hselect : ∀ process_id, P (.select process_id))
    (hinsert : ∀ row, row.status = .prepared → P (.insert row))
    (process_id key request_digest repository_id : Arg PyStr) (verified : Option (Arg PyStr)) :
    (PublicationKeys.prepare process_id key request_digest repository_id verified).All P := by
  refine (Prog.All.lift _).bind fun id => (Prog.All.lift _).bind fun key => ?_
  refine (Prog.All.lift _).bind fun base => (Prog.All.lift _).bind fun _ => ?_
  refine (Prog.All.lift _).bind fun digest => (Prog.All.lift _).bind fun repository => ?_
  refine (Prog.All.lift _).bind fun verified => ?_
  have hexisting : (PublicationKeys.existing_row id).All P := by
    refine Prog.All.handle ((get_all hselect _).bind fun _ => trivial) fun e => ?_
    show Prog.All P (ite _ _ _)
    split_ifs <;> trivial
  refine hexisting.bind fun existing => ?_
  cases existing with
  | some existing => exact (Prog.All.lift _).bind fun _ => trivial
  | none =>
    cases hrow : PublicationKeys.new_row id key digest repository base verified with
    | error e => trivial
    | ok row =>
      have hprepared : row.status = .prepared := by
        unfold PublicationKeys.new_row at hrow
        obtain ⟨_, -, hrow⟩ := bind_ok.mp hrow
        obtain ⟨_, -, hrow⟩ := bind_ok.mp hrow
        obtain ⟨_, -, hrow⟩ := bind_ok.mp hrow
        rw [← Except.ok.inj hrow]
      have hinserted : (PublicationKeys.insert_row row).All P :=
        Prog.All.bind ⟨hinsert row hprepared, fun _ => trivial⟩ fun _ => Prog.All.lift _
      show ((PublicationKeys.insert_row row).bind fun _ => get (.of id)).All P
      exact hinserted.bind fun _ => get_all hselect _

/-- The steps of `recover_publication`. -/
theorem recover_all (hselect : ∀ process_id, P' (.journal (.select process_id)))
    (hrequire : ∀ process_id,
      P' (.journal (.set_status process_id .attempting .reconciliation_required)))
    (hcomplete : ∀ process_id id url, P' (.journal (.complete process_id id url .attempting)))
    (hfind : ∀ key repository_id base_branch,
      P' (.find_by_idempotency_key key repository_id base_branch))
    (urlparse : UrlParse) (process_id : Arg PyStr) :
    (PublicationRecovery.recover_publication urlparse process_id).All P' := by
  have hget : (PublicationRecovery.journal (get process_id)).All P' := Prog.All.embed (get_all hselect _)
  have hmark : (PublicationRecovery.journal (mark_reconciliation_required process_id)).All P' :=
    Prog.All.embed (_set_status_all hrequire _)
  refine hget.bind fun record => ?_
  cases record.status with
  | completed => trivial
  | prepared => trivial
  | reconciliation_required => trivial
  | attempting =>
    show Prog.All P' (ite _ _ _)
    split_ifs
    · exact hmark.bind fun _ => trivial
    · have hlookup : (PublicationRecovery.find_receipt record).All P' :=
        Prog.All.bind ⟨hfind _ _ _, fun _ => trivial⟩ fun _ => Prog.All.lift _
      refine hlookup.bind fun external => ?_
      cases external with
      | some external =>
        exact (Prog.All.embed (_mark_completed_all hselect hcomplete _ _ _)).bind fun _ => hget
      | none => exact hmark.bind fun _ => trivial

end Programs

section Obeys

variable {urlparse : UrlParse} {job : Job} {m : Attempt} {allowed : Attempt → Op → Prop}

/-- Every step of a program is allowed by what its worker has done before. -/
abbrev Keeps {α : Type} (allowed : Attempt → Op → Prop) (m : Attempt) (p : Program α) : Prop :=
  Obeys noted allowed (fun _ _ => True) (fun _ _ => True) m p

/-- The same of a method of the journal. -/
abbrev JournalKeeps {α : Type} (allowed : Attempt → Op → Prop) (Q : Attempt → α → Prop) (m : Attempt)
    (p : PublicationJournal.Program α) : Prop :=
  Obeys (fun m op r => noted m (.recovery (.journal op)) (.ok r))
    (fun m op => allowed m (.recovery (.journal op))) Q (fun _ _ => True) m p

theorem JournalKeeps.journal {α : Type} {Q : Attempt → α → Prop} {p : PublicationJournal.Program α}
    (h : JournalKeeps allowed Q m p) :
    Obeys noted allowed Q (fun _ _ => True) m (journal p) := by
  have hrecovery : Obeys (fun m op r => noted m (.recovery op) r)
      (fun m op => allowed m (.recovery op)) Q (fun _ _ => True) m
      (Prog.embed PublicationRecovery.Op.journal (fun _ r => r) p) := by
    refine Obeys.embed ?_ ?_ ?_ h
    · rintro m op r answer rfl
      rfl
    · exact fun m op hallowed => hallowed
    · exact fun _ _ _ _ _ => trivial
  show Obeys noted allowed Q (fun _ _ => True) m (Prog.embed Op.recovery (fun _ r => .ok r) _)
  refine Obeys.embed ?_ ?_ ?_ hrecovery
  · rintro m op r answer heq
    rw [Except.ok.inj heq]
  · exact fun m op hallowed => hallowed
  · exact fun _ _ _ _ _ => trivial

/-- A program of quiet steps. -/
theorem keeps_quiet {α : Type} {p : Program α} (h : p.All quiet) : Keeps (Allowed job) m p :=
  (Obeys.keeps (J := fun _ => True) h (fun _ _ _ hop => ⟨.quiet hop, fun _ => trivial⟩) trivial).mono
    (fun _ _ _ => trivial) fun _ _ _ => trivial

theorem argument_of {request : Json} {field : String} {value : PyStr}
    (h : argument request field = .of value) : request.get? field = some (.str value) := by
  unfold argument at h
  split at h
  · rename_i hget
    rw [hget, Arg.of.inj h]
  · cases h

theorem get_keeps (process_id : Arg PyStr) (hidle : m.claim = none) :
    JournalKeeps (Allowed job) (fun m' row => ∃ asked, process_id = .of (.text asked) ∧
      m' = .read asked row.process_id) m (get process_id) := by
  refine PublicationRecovery.keeps_lift fun id hid =>
    PublicationRecovery.keeps_lift fun asked hasked => ⟨.quiet trivial, fun row => ?_⟩
  have hprocess : process_id = .of (.text asked) := by
    rw [(PublicationKeys.nonempty_str_ok.mp hid).1]
    cases id with
    | text s => rw [Except.ok.inj hasked]
    | surrogates codes lone => cases hasked
  cases row with
  | none => trivial
  | some row =>
    refine ⟨asked, hprocess, ?_⟩
    cases m with
    | idle => rfl
    | read => rfl
    | claimed => cases hidle
    | published => cases hidle

/-- The endpoint is called for a claimed row. -/
theorem dispatch_keeps {request : Json} {record : PublicationRecord} {crash hook : Bool} {id : String}
    (hrequest : job.request = some request) :
    JournalKeeps (Allowed job) (fun _ _ => True) (.claimed id)
      (dispatch_publication urlparse record request crash hook) := by
  have hcall : JournalKeeps (Allowed job) (fun _ _ => True) (.claimed id)
      (do
        let result ← PublicationJournal.attempt (step (.publish_pull_request (boundary request)))
        Prog.lift (raise_if (crash = true)
          ⟨.SimulatedCrash, "crash after external effect before local receipt"⟩)
        mark_completed urlparse (.of (.text record.process_id)) result
        return result : PublicationJournal.Program _) := by
    refine Obeys.bind (Obeys.bind ⟨.publish rfl hrequest, fun answer => Obeys.lift (fun result _ => ?_)
      fun _ _ => trivial⟩)
    have hquiet : (do
        Prog.lift (raise_if (crash = true)
          ⟨.SimulatedCrash, "crash after external effect before local receipt"⟩)
        mark_completed urlparse (.of (.text record.process_id)) result
        return result : PublicationJournal.Program _).All fun op => quiet (.recovery (.journal op)) :=
      (Prog.All.lift _).bind fun _ => Prog.All.bind
        (_mark_completed_all (fun _ => trivial) (fun _ _ _ => .inl rfl) _ _ _) fun _ => trivial
    exact (Obeys.keeps (J := fun _ => True) hquiet (fun _ _ _ hop => ⟨.quiet hop, fun _ => trivial⟩)
      trivial).mono (fun _ _ _ => trivial) fun _ _ _ => trivial
  cases hook with
  | false => exact hcall
  | true => exact Obeys.bind (Obeys.bind ⟨.quiet trivial, fun answer => Obeys.lift (fun _ _ => hcall)
      fun _ _ => trivial⟩)

/-- **A publication claims its row before it calls the endpoint.** -/
theorem execute_keeps {request : Json} {crash hook : Bool} (hrequest : job.request = some request)
    (hidle : m.claim = none) : JournalKeeps (Allowed job) (fun _ _ => True) m
      (execute_publication urlparse request crash hook) := by
  refine PublicationRecovery.keeps_lift fun _ _ => Obeys.bind ((get_keeps _ hidle).mono
    (fun m' record hread => ?_) fun _ _ _ => trivial)
  obtain ⟨asked, hasked, rfl⟩ := hread
  have hprocess : job.process_id = some (.str (.text asked)) := by
    rw [Job.process_id, hrequest]
    exact argument_of hasked
  refine PublicationRecovery.keeps_lift fun _ _ => ?_
  have hmark : JournalKeeps (Allowed job) (fun m' _ => m' = .claimed record.process_id)
      (.read asked record.process_id) (mark_attempting (.of (.text record.process_id))) := by
    refine PublicationRecovery.keeps_lift fun id hid => PublicationRecovery.keeps_lift fun id' hid' => ?_
    obtain rfl : record.process_id = id' := by
      rw [← Arg.of.inj (PublicationKeys.nonempty_str_ok.mp hid).1] at hid'
      exact Except.ok.inj hid'
    refine ⟨.claim rfl hprocess, fun rowcount => Obeys.lift (fun _ hone => ?_) fun _ _ => trivial⟩
    have hcount : rowcount = 1 := not_not.mp (raise_if_ok.mp hone)
    rw [hcount]
    rfl
  refine Obeys.bind (hmark.mono (fun m' _ hclaimed => ?_) fun _ _ _ => trivial)
  rw [hclaimed]
  exact dispatch_keeps hrequest

theorem noted_quiet {op : Op} (h : quiet op) (r : op.Res) : (noted m op r).claim = m.claim := by
  cases op with
  | recovery op =>
    cases op with
    | journal op =>
      cases op with
      | select id =>
        cases r with
        | error e => rfl
        | ok row => cases row <;> cases m <;> rfl
      | set_status id expected target =>
        obtain ⟨rfl, rfl⟩ := h
        rfl
      | publish_pull_request request => exact absurd h id
      | _ => rfl
    | _ => rfl
  | _ => rfl

theorem journal_quiet {α : Type} {p : PublicationJournal.Program α}
    (h : p.All fun op => quiet (.recovery (.journal op))) : (journal p).All quiet :=
  Prog.All.embed (Prog.All.embed h)

theorem get_quiet (process_id : Arg PyStr) : (journal (get process_id)).All quiet :=
  journal_quiet (get_all (fun _ => trivial) process_id)

theorem prepare_quiet (process_id key request_digest repository_id : Arg PyStr)
    (verified : Option (Arg PyStr)) :
    (journal (PublicationKeys.prepare process_id key request_digest repository_id verified)).All quiet :=
  journal_quiet (prepare_all (fun _ => trivial) (fun _ hprepared => hprepared) _ _ _ _ _)

theorem recover_quiet (urlparse : UrlParse) (process_id : Arg PyStr) :
    (recovery (PublicationRecovery.recover_publication urlparse process_id)).All quiet :=
  Prog.All.embed (recover_all (fun _ => trivial) (fun _ => ⟨rfl, rfl⟩) (fun _ _ _ => .inl rfl)
    (fun _ _ _ => trivial) _ _)

/-- Restart reconciliation claims nothing and never publishes. -/
theorem reconcile_quiet (urlparse : UrlParse) (c : PublicationRecovery.Call) :
    (recovery (PublicationRecovery.reconcile_controlled_attempt_after_restart urlparse c)).All quiet := by
  refine Prog.All.embed ((PublicationRecovery.reconcile_keeps urlparse c).all fun past op hallowed => ?_)
  cases op with
  | journal op =>
    cases op with
    | insert row => exact absurd hallowed id
    | set_status id expected target => exact hallowed
    | complete id number url expected => exact hallowed.1
    | publish_pull_request request => exact hallowed
    | _ => trivial
  | publish_verified_files => exact hallowed
  | _ => trivial

theorem after_failure_quiet (urlparse : UrlParse) (gated : Gated) (e : Exn) :
    (after_failure urlparse gated e).All quiet := by
  have hreceipt : (recovered_receipt urlparse gated).All quiet := by
    refine (recover_quiet urlparse _).bind fun recovered => ?_
    show Prog.All quiet (ite _ _ _)
    split_ifs
    · refine Prog.All.bind (Prog.All.bind ⟨trivial, fun _ => trivial⟩ fun _ => Prog.All.lift _)
        fun receipt => ?_
      cases receipt with
      | none => trivial
      | some receipt => cases receipt <;> trivial
    · trivial
  have hmark : (mark_left_over gated).All quiet := by
    refine Prog.All.handle ((get_quiet _).bind fun current => ?_) fun _ => trivial
    show Prog.All quiet (ite _ _ _)
    split_ifs
    · exact journal_quiet (_set_status_all (fun _ => ⟨rfl, rfl⟩) _)
    · trivial
  unfold after_failure
  split_ifs
  · trivial
  · refine (get_quiet _).bind fun current => ?_
    show Prog.All quiet (ite _ _ _)
    split_ifs
    · trivial
    · have hhandled : ((recovered_receipt urlparse gated).handle fun _ => return none).All quiet :=
        hreceipt.handle fun _ => trivial
      refine hhandled.bind fun receipt => ?_
      cases receipt with
      | some pull_request => trivial
      | none => exact hmark.bind fun _ => trivial

/-- The observer's records claim nothing. -/
theorem observe_keeps {α : Type} {Q : Attempt → α → Prop} {f : Unit → Program α}
    (hobserve : ∀ m, allowed m .observe) (h : Obeys noted allowed Q (fun _ _ => True) m (f ())) :
    Obeys noted allowed Q (fun _ _ => True) m ((attempt (Prog.perform Op.observe)).bind f) :=
  Obeys.bind (Obeys.bind ⟨hobserve m, fun _ => Obeys.lift (fun _ _ => h) fun _ _ => trivial⟩)

theorem controlled_step_keeps {α : Type} {observed : Bool} {dispatch : Program α}
    (hobserve : ∀ m, allowed m .observe) (h : Keeps allowed m dispatch) :
    Keeps allowed m (run_controlled_step observed dispatch) := by
  unfold run_controlled_step
  cases observed with
  | false => exact h
  | true =>
    have hhandled : Keeps allowed m (dispatch.handle fun e => do
        attempt (Prog.perform Op.observe)
        throw e) :=
      Obeys.handle (h.mono (fun _ _ _ => trivial) fun _ _ _ => observe_keeps hobserve trivial)
    exact observe_keeps hobserve (Obeys.bind (hhandled.mono
      (fun _ _ _ => observe_keeps hobserve trivial) fun _ _ _ => trivial))

theorem controlled_keeps {gated : Gated} (hrequest : job.request = some gated.request)
    (hidle : m.claim = none) :
    Keeps (Allowed job) m (run_controlled_local_publication urlparse gated) := by
  -- preparing the row claims nothing, so the publication starts without a claim
  have hprepare : Obeys noted (Allowed job) (fun m _ => m.claim = none) (fun m _ => m.claim = none) m
      (journal (PublicationKeys.prepare (.of gated.intent.process_id) (.of (.text gated.intent.key))
        gated.request_digest (.of gated.intent.repository_id) (some gated.verified_contents_digest))) :=
    Obeys.keeps (prepare_quiet _ _ _ _ _)
      (fun _ op hnone hop => ⟨.quiet hop, fun r => (noted_quiet hop r).trans hnone⟩) hidle
  refine Obeys.bind (hprepare.mono (fun m' _ hnone => ?_) fun _ _ _ => trivial)
  refine PublicationRecovery.keeps_lift fun _ _ => Obeys.handle ?_
  have hexecute : Keeps (Allowed job) m' (journal (execute_publication urlparse gated.request false
      gated.publishes_files)) := (execute_keeps hrequest hnone).journal
  exact (controlled_step_keeps (fun _ => .quiet trivial) hexecute).mono (fun _ _ _ => trivial)
    fun _ e _ => keeps_quiet (after_failure_quiet urlparse gated e)

/-- **What a worker does** is allowed by what it has done before. -/
theorem body_keeps (urlparse : UrlParse) (job : Job) :
    Keeps (Allowed job) .idle (job.body urlparse) := by
  cases job with
  | prepare => exact keeps_quiet ((prepare_quiet _ _ _ _ _).bind fun _ => trivial)
  | execute_publication request crash hook =>
    exact Obeys.bind ((execute_keeps rfl rfl).journal.mono (fun _ _ _ => trivial) fun _ _ _ => trivial)
  | recover_publication => exact keeps_quiet ((recover_quiet urlparse _).bind fun _ => trivial)
  | reconcile => exact keeps_quiet ((reconcile_quiet urlparse _).bind fun _ => trivial)
  | run_controlled_local_publication gated =>
    exact Obeys.bind ((controlled_keeps rfl rfl).mono (fun _ _ _ => trivial) fun _ _ _ => trivial)

end Obeys

/-! ## Runs -/

section Runs

variable {urlparse : UrlParse} {db : Db}
  {cfg : Config Job Op Op.Res Exn (PublicationRecord ⊕ Arg PullRequest) Db}

/-- Every step of a run was allowed, in a state its worker knew, and no two workers have
claimed one row. -/
theorem run_steps (h : Run urlparse db cfg) :
    (∀ t ∈ cfg.pool, Knows t.call cfg.shared (t.monitor noted .idle) ∧
      ∀ front e back, t.past = front ++ e :: back →
        Knows t.call e.before (front.foldl (fun m e => noted m e.op e.res) .idle) ∧
          Allowed t.call (front.foldl (fun m e => noted m e.op e.res) .idle) e.op ∧
          Sem e.before e.op e.res e.after) ∧
      cfg.pool.Pairwise fun t u => Apart (t.monitor noted .idle) (u.monitor noted .idle) := by
  have hrun := Reachable.undisturbed (I := fun _ => True) (K := fun job m db => Knows job db m)
    (R := fun _ m _ m' => Apart m m') trivial (body_keeps urlparse)
    (fun _ _ _ => ⟨nofun, nofun⟩) (fun _ _ _ _ hapart id hclaim hclaim' => hapart id hclaim' hclaim)
    (fun _ _ _ id _ => nofun)
    (fun _ _ _ _ _ _ _ hknows hallowed hsem => ⟨trivial, step_knows hknows hallowed hsem⟩)
    (fun _ _ _ _ _ _ _ _ hallowed hsem _ _ hother hapart =>
      ⟨hother.forward (hallowed.forward hsem), step_apart hallowed hsem hother hapart⟩) h
  refine ⟨fun t ht => ⟨(hrun.2.1 t ht).1, fun front e back heq => ?_⟩, hrun.2.2⟩
  exact ((hrun.2.1 t ht).2 front e back heq).2

/-- From whatever a step left, the rows only went on. -/
theorem run_forward (h : Run urlparse db cfg) :
    ∀ t ∈ cfg.pool, ∀ e ∈ t.past, Relation.ReflTransGen Forward e.after cfg.shared := by
  have hrun := Reachable.allowed_since (I := fun _ => True) (G := Forward) trivial (body_keeps urlparse)
    (fun _ _ _ _ _ _ _ hallowed hsem => ⟨trivial, hallowed.forward hsem⟩) h
  exact fun t ht e he => (hrun.2 t ht e he).2.2

/-! ## What is published -/

/-- The request of a call of the endpoint. -/
def Op.sent : Op → Option Json
  | .recovery (.journal (.publish_pull_request request)) => some request
  | _ => none

/-- The requests that a worker gave to the endpoint. -/
def sent (past : List (Record Op Op.Res Db)) : List Json := past.filterMap fun e => e.op.sent

/-- The calls of the endpoint in a run, each with the call that it was made for. -/
def published (cfg : Config Job Op Op.Res Exn (PublicationRecord ⊕ Arg PullRequest) Db) :
    List (Job × Json) := cfg.pool.flatMap fun t => (sent t.past).map fun request => (t.call, request)

/-- The number of calls that a worker has made. -/
def Attempt.count : Attempt → ℕ
  | .published _ => 1
  | _ => 0

theorem sent_quiet {op : Op} (h : quiet op) : op.sent = none := by
  unfold Op.sent
  split
  · exact absurd h id
  · rfl

theorem count_quiet {m : Attempt} {op : Op} (h : quiet op) (r : op.Res) :
    (noted m op r).count = m.count := by
  cases op with
  | recovery op =>
    cases op with
    | journal op =>
      cases op with
      | select id =>
        cases r with
        | error e => rfl
        | ok row => cases row <;> cases m <;> rfl
      | set_status id expected target =>
        obtain ⟨rfl, rfl⟩ := h
        rfl
      | publish_pull_request request => exact absurd h id
      | _ => rfl
    | _ => rfl
  | _ => rfl

/-- A worker calls the endpoint for the row it has claimed, and once. -/
theorem sent_length (job : Job) {past : List (Record Op Op.Res Db)}
    (h : ∀ front e back, past = front ++ e :: back →
      Allowed job (front.foldl (fun m e => noted m e.op e.res) .idle) e.op) :
    (sent past).length = (past.foldl (fun m e => noted m e.op e.res) .idle).count := by
  induction past using List.reverseRecOn with
  | nil => rfl
  | append_singleton past e ih =>
    have hfront := ih fun front e' back heq => h front e' (back ++ [e]) (by simp [heq])
    have hlast := h past e [] rfl
    rw [sent, List.filterMap_append, List.length_append, ← sent, hfront, List.foldl_append,
      List.foldl_cons, List.foldl_nil]
    generalize past.foldl (fun m e => noted m e.op e.res) Attempt.idle = m at hlast
    obtain ⟨op, r, before, after⟩ := e
    cases hlast with
    | quiet hquiet => simp [sent_quiet hquiet, count_quiet hquiet]
    | @claim asked found hread =>
      subst hread
      show _ = (Attempt.claims found r _).count
      unfold Attempt.claims
      split <;> rfl
    | publish hclaimed =>
      subst hclaimed
      rfl

theorem Started.along {before after : Db} {process_id : String} {row : PublicationRecord}
    (h : Started before process_id row) (hrun : Relation.ReflTransGen Forward before after) :
    Started after process_id row := by
  induction hrun with
  | refl => exact h
  | tail _ hforward ih => exact ih.forward hforward

/-- **A call of the endpoint** was made for a row that its worker claimed, which is there and
has left `prepared`. -/
theorem sent_claimed (h : Run urlparse db cfg) {t : Worker} (ht : t ∈ cfg.pool)
    {e : Record Op Op.Res Db} (he : e ∈ t.past) {request : Json} (hop : e.op.sent = some request) :
    ∃ process_id row, t.call.process_id = some (.str (.text process_id)) ∧
      (t.monitor noted .idle).claim = some process_id ∧ e.before.row? process_id = some row ∧
      Started cfg.shared process_id row := by
  obtain ⟨hnow, hsteps⟩ := (run_steps h).1 t ht
  obtain ⟨front, back, hpast⟩ := List.append_of_mem he
  obtain ⟨hknows, hallowed, hsem⟩ := hsteps front e back hpast
  obtain ⟨process_id, hclaimed⟩ : ∃ process_id,
      front.foldl (fun m e => noted m e.op e.res) Attempt.idle = .claimed process_id := by
    generalize front.foldl (fun m e => noted m e.op e.res) Attempt.idle = m at hallowed
    generalize e.op = op at hop hallowed
    cases hallowed with
    | quiet hquiet =>
      rw [sent_quiet hquiet] at hop
      cases hop
    | claim => cases hop
    | publish hclaimed => exact ⟨_, hclaimed⟩
  obtain ⟨hprocess, first, row, hrow, -, hstatus⟩ := hknows.2 process_id (by rw [hclaimed]; rfl)
  -- The worker still holds the claim it published with.
  obtain ⟨process_id', hpublished⟩ : ∃ process_id', t.monitor noted .idle = .published process_id' := by
    have hlength := sent_length t.call fun front e back heq => (hsteps front e back heq).2.1
    rw [← Thread.monitor] at hlength
    have hpos := List.length_pos_of_mem (List.mem_filterMap.mpr ⟨e, he, hop⟩ : request ∈ sent t.past)
    generalize t.monitor noted .idle = m at hlength
    cases m with
    | published process_id' => exact ⟨process_id', rfl⟩
    | _ => exact absurd hlength (Nat.ne_of_gt hpos)
  have hsame : process_id' = process_id := by
    have hboth := (hnow.2 process_id' (by rw [hpublished]; rfl)).1
    rw [hprocess] at hboth
    exact (PyStr.text.inj (Json.str.inj (Option.some.inj hboth))).symm
  refine ⟨process_id, row, hprocess, by rw [hpublished, hsame]; rfl, hrow, ?_⟩
  have hbefore : Started e.before process_id row := ⟨row, hrow, rfl, hstatus⟩
  exact (hbefore.forward (hallowed.forward hsem)).along (run_forward h t ht e he)

/-- What tells the calls of different workers apart, tells all calls apart. -/
theorem published_nodup {β : Type} (h : Run urlparse db cfg) (f : Job × Json → β)
    (hdiffer : ∀ t ∈ cfg.pool, ∀ u ∈ cfg.pool, Apart (t.monitor noted .idle) (u.monitor noted .idle) →
      ∀ a ∈ sent t.past, ∀ b ∈ sent u.past, f (t.call, a) ≠ f (u.call, b)) :
    ((published cfg).map f).Nodup := by
  rw [published, List.map_flatMap]
  refine List.nodup_flatMap.mpr ⟨fun t ht => ?_, ?_⟩
  · have hlength := sent_length t.call
      fun front e back heq => (((run_steps h).1 t ht).2 front e back heq).2.1
    have hone : (sent t.past).length ≤ 1 := by
      rw [hlength]
      generalize t.past.foldl (fun m e => noted m e.op e.res) Attempt.idle = m
      cases m <;> simp [Attempt.count]
    match hsent : sent t.past with
    | [] => simp
    | [request] => simp
    | _ :: _ :: _ => simp [hsent] at hone
  · refine (run_steps h).2.imp_of_mem fun {t u} ht hu hapart => ?_
    refine List.disjoint_left.mpr fun value hleft hright => ?_
    simp only [List.map_map, List.mem_map] at hleft hright
    obtain ⟨a, ha, rfl⟩ := hleft
    obtain ⟨b, hb, heq⟩ := hright
    exact hdiffer t ht u hu hapart a ha b hb heq.symm

/-- A key is that of one process. -/
theorem process_of_key {db : Db} {p q : String} {row row' : PublicationRecord}
    (hrow : db.row? p = some row) (hrow' : db.row? q = some row')
    (hkey : row.idempotency_key = row'.idempotency_key) : p = q := by
  have hsame : row = row' := List.inj_on_of_nodup_map db.keys (List.mem_of_find?_eq_some hrow)
    (List.mem_of_find?_eq_some hrow') hkey
  rw [← PublicationRecovery.row?_process_id hrow, ← PublicationRecovery.row?_process_id hrow', hsame]

/-- Whenever the endpoint is called, the request has the key of the row of its process. -/
def Keyed (cfg : Config Job Op Op.Res Exn (PublicationRecord ⊕ Arg PullRequest) Db) : Prop :=
  ∀ t ∈ cfg.pool, ∀ e ∈ t.past, ∀ request, e.op.sent = some request →
    ∀ process_id row, t.call.process_id = some (.str (.text process_id)) →
      e.before.row? process_id = some row →
      request.get? "idempotency_key" = some (.str (.text row.idempotency_key))

/-- What a journal promises of the publications of a run. -/
structure Once (cfg : Config Job Op Op.Res Exn (PublicationRecord ⊕ Arg PullRequest) Db) : Prop where
  /-- The endpoint is called at most once for a process. -/
  process_ids : ((published cfg).map fun call => call.1.process_id).Nodup
  /-- It is called for rows of the journal that have left `prepared`. -/
  rows : ∀ call ∈ published cfg, ∃ process_id row,
    call.1.process_id = some (.str (.text process_id)) ∧ cfg.shared.row? process_id = some row ∧
      row.status ≠ .prepared
  /-- The rows of different calls have different keys. -/
  row_keys : (published cfg).Pairwise fun call call' => ∀ p q row row',
    call.1.process_id = some (.str (.text p)) → call'.1.process_id = some (.str (.text q)) →
    cfg.shared.row? p = some row → cfg.shared.row? q = some row' →
      row.idempotency_key ≠ row'.idempotency_key
  /-- A row is inserted in `prepared`, its status goes its way, and its request stays. -/
  forward : ∀ t ∈ cfg.pool, ∀ e ∈ t.past, Forward e.before e.after

/-- **At most once.** In every run of every set of workers the endpoint is called at most once
for a process, and every row goes its way. Where each request has the key of its row, the
endpoint is called at most once with a key. -/
theorem published_once (urlparse : UrlParse) (db : Db)
    (cfg : Config Job Op Op.Res Exn (PublicationRecord ⊕ Arg PullRequest) Db)
    (h : Run urlparse db cfg) : Once cfg ∧
      (Keyed cfg → ((published cfg).map fun call => call.2.get? "idempotency_key").Nodup) := by
  have hprocesses : ((published cfg).map fun call => call.1.process_id).Nodup := by
    refine published_nodup h _ fun t ht u hu hapart a ha b hb heq => ?_
    obtain ⟨e, he, hop⟩ := List.mem_filterMap.mp ha
    obtain ⟨e', he', hop'⟩ := List.mem_filterMap.mp hb
    obtain ⟨p, -, hp, hclaim, -⟩ := sent_claimed h ht he hop
    obtain ⟨q, -, hq, hclaim', -⟩ := sent_claimed h hu he' hop'
    obtain rfl : p = q := by
      rw [show t.call.process_id = u.call.process_id from heq, hq] at hp
      exact (PyStr.text.inj (Json.str.inj (Option.some.inj hp))).symm
    exact hapart p hclaim hclaim'
  refine ⟨⟨hprocesses, ?_, ?_, ?_⟩, fun hkeyed => ?_⟩
  · intro call hcall
    obtain ⟨t, ht, hcall⟩ := List.mem_flatMap.mp hcall
    obtain ⟨request, hrequest, rfl⟩ := List.mem_map.mp hcall
    obtain ⟨e, he, hop⟩ := List.mem_filterMap.mp hrequest
    obtain ⟨p, -, hp, -, -, row, hrow, -, hstatus⟩ := sent_claimed h ht he hop
    exact ⟨p, row, hp, hrow, hstatus⟩
  · refine (List.pairwise_map.mp hprocesses).imp fun {a b} hne p q row row' hp hq hrow hrow' hkey => ?_
    rw [process_of_key hrow hrow' hkey, ← hq] at hp
    exact hne hp
  · intro t ht e he
    obtain ⟨front, back, heq⟩ := List.append_of_mem he
    obtain ⟨-, hallowed, hsem⟩ := ((run_steps h).1 t ht).2 front e back heq
    exact hallowed.forward hsem
  · refine published_nodup h _ fun t ht u hu hapart a ha b hb heq => ?_
    obtain ⟨e, he, hop⟩ := List.mem_filterMap.mp ha
    obtain ⟨e', he', hop'⟩ := List.mem_filterMap.mp hb
    obtain ⟨p, row, hp, hclaim, hrow, now, hnow, hidentity, -⟩ := sent_claimed h ht he hop
    obtain ⟨q, row', hq, hclaim', hrow', now', hnow', hidentity', -⟩ := sent_claimed h hu he' hop'
    have hkey := hkeyed t ht e he a hop p row hp hrow
    have hkey' := hkeyed u hu e' he' b hop' q row' hq hrow'
    rw [show a.get? "idempotency_key" = b.get? "idempotency_key" from heq, hkey'] at hkey
    have hrows : row'.idempotency_key = row.idempotency_key :=
      PyStr.text.inj (Json.str.inj (Option.some.inj hkey))
    have hkeys : now.idempotency_key = now'.idempotency_key := by
      rw [show now.idempotency_key = row.idempotency_key from congrArg Prod.fst hidentity,
        show now'.idempotency_key = row'.idempotency_key from congrArg Prod.fst hidentity', hrows]
    obtain rfl := process_of_key hnow hnow' hkeys
    exact hapart p hclaim hclaim'

end Runs

/-! ## Two processes -/

/-- A row with the key of another head. -/
def other_row : PublicationRecord :=
  { sample_row with
    process_id := "process-2"
    idempotency_key :=
      "publish/other/main/sha256:0000000000000000000000000000000000000000000000000000000000000000" }

/-- The two rows are prepared. -/
def sample_db : Db := ⟨[sample_row, other_row], by decide, by decide⟩

/-- A request for a process with a key. -/
def keyed_request (process_id idempotency_key : String) : Json :=
  let text := fun s => Json.str (.text s)
  .obj [(.text "process_id", text process_id), (.text "operation", text "publish_pull_request"),
    (.text "repository_id", text "acme/service"), (.text "branch", text "agent/fix"),
    (.text "base_branch", text "main"), (.text "staged_change_digest", text sample_digest),
    (.text "idempotency_key", text idempotency_key), (.text "policy_effect", text "allow"),
    (.text "approval_valid", .bool true)]

/-- A journal without failures, and an endpoint that breaks off after it was called. -/
def sample_answer (op : Op) (db : Db) : op.Res × Db :=
  match op with
  | .recovery op => PublicationRecovery.sample_answer op db
  | .find_by_key _ => (.ok none, db)
  | .observe => (.ok (), db)

theorem sample_answer_sem (db : Db) (op : Op) :
    Sem db op (sample_answer op db).1 (sample_answer op db).2 := by
  cases op with
  | recovery op => exact .recovery (PublicationRecovery.sample_answer_sem db op)
  | find_by_key => exact .find_by_key db _ _
  | observe => exact .observe db _

/-- The publication of a request. -/
def sample_job (process_id idempotency_key : String) : Job :=
  .execute_publication (keyed_request process_id idempotency_key) false false

/-- The endpoint is called twice with one key: the second request has the key of the first row,
and its own row another one. -/
theorem foreign_key_published_twice : ∃ cfg, Run (fun _ => none) sample_db cfg ∧
    (published cfg).map (fun call => call.2.get? "idempotency_key") =
      [some (.str (.text sample_key)), some (.str (.text sample_key))] ∧
    ¬ ((published cfg).map fun call => call.2.get? "idempotency_key").Nodup := by
  have hstart : Run (fun _ => none) sample_db ⟨sample_db, []⟩ := Relation.ReflTransGen.refl
  have hfirst := Reachable.serve sample_answer_sem hstart (sample_job "process-1" sample_key)
  have hsecond := Reachable.serve sample_answer_sem hfirst (sample_job "process-2" sample_key)
  refine ⟨_, hsecond, rfl, fun hnodup => ?_⟩
  exact (List.nodup_cons.mp (show [_, _].Nodup from hnodup)).1 (List.mem_singleton_self _)

/-- Two workers read one row, and the second claims it and publishes before the first goes on; a
third publishes for the other row. Each process is published once, and so is each key. -/
theorem published_once_sample : ∃ cfg, Run (fun _ => none) sample_db cfg ∧
    cfg.pool.map Thread.call = [sample_job "process-1" sample_key, sample_job "process-1" sample_key,
      sample_job "process-2" other_row.idempotency_key] ∧
    (published cfg).map (fun call => call.1) =
      [sample_job "process-1" sample_key, sample_job "process-2" other_row.idempotency_key] ∧
    Once cfg ∧ Keyed cfg ∧ ((published cfg).map fun call => call.2.get? "idempotency_key").Nodup := by
  have hrace : Run (fun _ => none) sample_db _ := Reachable.race sample_answer_sem sample_db
    (sample_job "process-1" sample_key) (sample_job "process-1" sample_key) 1 3 3
  have hrun := Reachable.serve sample_answer_sem hrace
    (sample_job "process-2" other_row.idempotency_key)
  generalize hcfg : (⟨_, _⟩ : Config Job Op Op.Res Exn (PublicationRecord ⊕ Arg PullRequest) Db) =
    cfg at hrun
  have hpublished : published cfg =
      [(sample_job "process-1" sample_key, boundary (keyed_request "process-1" sample_key)),
        (sample_job "process-2" other_row.idempotency_key,
          boundary (keyed_request "process-2" other_row.idempotency_key))] := by
    rw [← hcfg]
    rfl
  have hkeyed : Keyed cfg := by
    intro t ht e he request hop p row hp hrow
    have hcall : (t.call, request) ∈ published cfg :=
      List.mem_flatMap.mpr ⟨t, ht, List.mem_map.mpr ⟨request, List.mem_filterMap.mpr ⟨e, he, hop⟩, rfl⟩⟩
    obtain ⟨q, row', hq, -, hrow', now, hnow, hidentity, -⟩ := sent_claimed hrun ht he hop
    -- the row that was there has the key of the row that is there now
    have hcase : ∀ id key, (t.call, request) = (sample_job id key, boundary (keyed_request id key)) →
        (cfg.shared.row? id).map PublicationRecord.idempotency_key = some key →
        request.get? "idempotency_key" = some (.str (.text row.idempotency_key)) := by
      intro id key heq hstored
      obtain ⟨hjob, rfl⟩ := Prod.mk.inj heq
      rw [hjob] at hp hq
      obtain rfl : id = p := PyStr.text.inj (Json.str.inj (Option.some.inj hp))
      obtain rfl : id = q := PyStr.text.inj (Json.str.inj (Option.some.inj hq))
      obtain rfl : row' = row := Option.some.inj (hrow'.symm.trans hrow)
      rw [hnow] at hstored
      have hkey : row'.idempotency_key = key :=
        (congrArg Prod.fst hidentity).symm.trans (Option.some.inj hstored)
      rw [hkey]
      rfl
    rw [hpublished] at hcall
    rcases List.mem_cons.mp hcall with heq | hcall
    · exact hcase _ _ heq (by rw [← hcfg]; rfl)
    · exact hcase _ _ (List.mem_singleton.mp hcall) (by rw [← hcfg]; rfl)
  have honce := published_once _ _ _ hrun
  refine ⟨cfg, hrun, by rw [← hcfg]; rfl, by rw [hpublished]; rfl, honce.1, hkeyed, honce.2 hkeyed⟩

end AppContracts.PublicationRuns
