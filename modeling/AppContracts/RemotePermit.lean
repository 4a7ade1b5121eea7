/-
The one-use permit of a remote run: `RemoteExecutionPermit` and the remote
branch of `main` in `worker_cli.py`, and the journal gate of
`observer_runtime.py` around the consumption.

A lock section of the permit is one operation; the clock is read inside it. What
the journal, the journaling worker, the profile's dependencies and the pipeline
do is left open: every call to them may answer anything or raise.

The module is long because of `body_obeys`: `main` is followed through the journal gate and the
pipeline for every answer of the parts that are left open, to see that nothing enters
the pipeline before this call's own consume. That a consume succeeds once is then a fact
about the permit's two states only.
-/
import AppContracts.Python
import Mathlib.Algebra.Order.Ring.Rat

set_option autoImplicit false

namespace AppContracts.RemotePermit

open Interleave

/-! ## The permit -/

/-- `REMOTE_REPOSITORY_OWNER`. -/
def REMOTE_REPOSITORY_OWNER : PyStr := .text "SoldatovAlexander"

/-- `REMOTE_REPOSITORY_NAME`. -/
def REMOTE_REPOSITORY_NAME : PyStr := .text "brainbooster_full_v11"

/-- `REMOTE_REPOSITORY_COMMIT`. -/
def REMOTE_REPOSITORY_COMMIT : PyStr := .text "2c172801c27ec92e38835fbb0ddd6ab7b8fc0c0e"

/-- `_READINESS_THRESHOLD`. -/
def READINESS_THRESHOLD : ℤ := 36

/-- `_READINESS_MAX_AGE_SECONDS`. -/
def READINESS_MAX_AGE_SECONDS : ℚ := 120

/-- The evidence origins a remote run may have. -/
def EVIDENCE_ORIGINS : List PyStr :=
  [.text "github_rest_api_claim", .text "github_codeload_archive"]

/-- `GitHubRateLimitEvidence`. -/
structure GitHubRateLimitEvidence : Type where
  status : ℤ
  remaining : Option ℤ
  reset_unix : Option ℤ
  observed_monotonic : ℚ
  deriving DecidableEq

/-- The fields of a `RemoteExecutionPermit` that never change. -/
structure RemoteExecutionPermit : Type where
  card_id : PyStr
  process_id : PyStr
  task_id : PyStr
  owner : PyStr
  repository : PyStr
  commit_oid : PyStr
  readiness : GitHubRateLimitEvidence
  snapshot_evidence_origin : PyStr
  deriving DecidableEq

/-- The arguments of `validate` and `consume`. -/
structure Binding : Type where
  process_id : PyStr
  task_id : PyStr
  snapshot_evidence_origin : Option PyStr
  deriving DecidableEq

/-- `RemoteExecutionPermitError("remote CLI authorization is unavailable")`. -/
def unavailable : Exn := ⟨.RemoteExecutionPermitError, "remote CLI authorization is unavailable"⟩

/-- The readiness evidence is within its age and quota limits. -/
def GitHubRateLimitEvidence.Ready (readiness : GitHubRateLimitEvidence) (now : ℚ) : Prop :=
  readiness.status = 200 ∧ (∃ remaining, readiness.remaining = some remaining ∧
    READINESS_THRESHOLD ≤ remaining) ∧ readiness.reset_unix ≠ none ∧
    0 ≤ now - readiness.observed_monotonic ∧
    now - readiness.observed_monotonic ≤ READINESS_MAX_AGE_SECONDS

/-- `_validate_binding(..)` with the clock at `now`. -/
def RemoteExecutionPermit.validate_binding (self : RemoteExecutionPermit) (binding : Binding) (now : ℚ) :
    Except Exn Unit := do
  let age := now - self.readiness.observed_monotonic
  raise_if (self.process_id ≠ binding.process_id) unavailable
  raise_if (self.task_id ≠ binding.task_id) unavailable
  raise_if (self.owner ≠ REMOTE_REPOSITORY_OWNER) unavailable
  raise_if (self.repository ≠ REMOTE_REPOSITORY_NAME) unavailable
  raise_if (self.commit_oid ≠ REMOTE_REPOSITORY_COMMIT) unavailable
  raise_if (self.snapshot_evidence_origin ∉ EVIDENCE_ORIGINS) unavailable
  raise_if (binding.snapshot_evidence_origin ≠ none ∧
    binding.snapshot_evidence_origin ≠ some self.snapshot_evidence_origin) unavailable
  raise_if (self.readiness.status ≠ 200) unavailable
  match self.readiness.remaining with
  | none => .error unavailable
  | some remaining => do
    raise_if (remaining < READINESS_THRESHOLD) unavailable
    raise_if (self.readiness.reset_unix = none) unavailable
    raise_if (age < 0) unavailable
    raise_if (READINESS_MAX_AGE_SECONDS < age) unavailable

/-- **What a binding that passes says.** -/
theorem RemoteExecutionPermit.validate_binding_ok {self : RemoteExecutionPermit} {binding : Binding}
    {now : ℚ} (h : self.validate_binding binding now = .ok ()) :
    self.process_id = binding.process_id ∧ self.task_id = binding.task_id ∧
      (∀ origin, binding.snapshot_evidence_origin = some origin →
        self.snapshot_evidence_origin = origin) ∧
      self.snapshot_evidence_origin ∈ EVIDENCE_ORIGINS ∧ self.readiness.Ready now := by
  unfold validate_binding at h
  simp only [raise_if_bind, not_not] at h
  obtain ⟨hprocess, htask, -, -, -, horigins, horigin, hstatus, h⟩ := h
  rcases hremaining : self.readiness.remaining with _ | remaining
  · simp [hremaining] at h
  · rw [hremaining] at h
    simp only [raise_if_bind, raise_if_ok, not_lt] at h
    obtain ⟨hquota, hreset, hage, hmax⟩ := h
    refine ⟨hprocess, htask, fun origin ho => ?_, horigins, hstatus,
      ⟨remaining, hremaining, hquota⟩, hreset, hage, hmax⟩
    rw [ho] at horigin
    have hsome : some origin = some self.snapshot_evidence_origin :=
      not_not.mp fun hne => horigin ⟨by simp, hne⟩
    exact (Option.some.inj hsome).symm

/-- One lock section, as it happened. -/
structure Section : Type where
  consume : Bool
  binding : Binding
  now : ℚ
  succeeded : Bool
  deriving DecidableEq

/-- The part of the permit that changes, and the lock sections so far. -/
structure PermitState : Type where
  consumed : Bool
  sections : List Section
  deriving DecidableEq

/-- A permit that has not been used. -/
def PermitState.fresh : PermitState := ⟨false, []⟩

/-- The result of a lock section. -/
def PermitState.check (s : PermitState) (permit : RemoteExecutionPermit) (binding : Binding) (now : ℚ) :
    Except Exn Unit :=
  if s.consumed then .error unavailable else permit.validate_binding binding now

/-- `validate(..)`. -/
def PermitState.validate (s : PermitState) (permit : RemoteExecutionPermit) (binding : Binding) (now : ℚ) :
    Except Exn Unit × PermitState :=
  let result := s.check permit binding now
  (result, { s with sections := s.sections ++ [⟨false, binding, now, result.isOk⟩] })

/-- `consume(..)`: the permit is burnt before the binding is checked. -/
def PermitState.consume (s : PermitState) (permit : RemoteExecutionPermit) (binding : Binding) (now : ℚ) :
    Except Exn Unit × PermitState :=
  let result := s.check permit binding now
  (result, ⟨true, s.sections ++ [⟨true, binding, now, result.isOk⟩]⟩)

/-! ## Operations -/

/-- `RemoteSnapshotExecutionProfile`, as far as the authorization reads it;
`observed` when it has an observation store. -/
structure Profile : Type where
  process_id : PyStr
  task_id : PyStr
  snapshot_evidence_origin : PyStr
  observed : Bool
  deriving DecidableEq

/-- The binding a profile asks for. -/
def Profile.binding (profile : Profile) : Binding :=
  ⟨profile.process_id, profile.task_id, some profile.snapshot_evidence_origin⟩

/-- What `record_execution_authorization` reads of a `JournaledProposalWorker`. -/
structure WorkerFields : Type where
  process_id : PyStr
  task_id : PyStr
  run_id : PyStr
  branch_id : PyStr
  run_finished : Bool
  agent_finished : Bool
  execution_authorization_used : Bool
  last_event_id : Option PyStr
  last_event_cursor : Option ℤ
  sequence : ℤ

/-- How `_run_pinned_remote_execution` can end other than with a payload. -/
inductive PipelineFailure : Type
  | snapshot (http_status : Option ℤ)
  | preparation
  | pipeline
  | other
  deriving DecidableEq

/-- Calls into code the permit does not depend on. -/
inductive EnvOp : Type
  | validate_profile (profile : Profile)
  | construct_worker (process_id task_id : PyStr)
  | worker_fields
  | set_authorization_used
  | set_last_event (event_id : PyStr) (cursor : ℤ)
  | next_id
  | timestamp
  | store_is_callable (method : String)
  | record_checkpoint_and_intent (checkpoint intent : Json)
  | record_checkpoint (checkpoint : Json)
  | append (event : Json)
  | finish_agent_invocation (status : String)
  | observer_fields

/-- What they answer when they do not raise. -/
abbrev EnvOp.Res : EnvOp → Type
  | validate_profile _ => Unit
  | construct_worker _ _ => Unit
  | worker_fields => WorkerFields
  | set_authorization_used => Unit
  | set_last_event _ _ => Unit
  | next_id => PyStr
  | timestamp => PyStr
  | store_is_callable _ => Bool
  | record_checkpoint_and_intent _ _ => ℤ
  | record_checkpoint _ => ℤ
  | append _ => ℤ
  | finish_agent_invocation _ => Unit
  | observer_fields => List (PyStr × Json)

/-- The atomic operations of a call. -/
inductive Op : Type
  | validate (binding : Binding)
  | consume (binding : Binding)
  | env (op : EnvOp)
  | run_pinned_remote_execution (profile : Profile)

/-- What they answer. -/
abbrev Op.Res : Op → Type
  | validate _ => Except Exn Unit
  | consume _ => Except Exn Unit
  | env op => Except Exn op.Res
  | run_pinned_remote_execution _ => Except PipelineFailure (List (PyStr × Json))

/-- A computation of a call. -/
abbrev Call (α : Type) : Type := Prog Op Op.Res Exn α

/-- What an operation does: only the lock sections touch the permit. -/
inductive sem (permit : RemoteExecutionPermit) : Semantics Op Op.Res PermitState
  | validate (s : PermitState) (binding : Binding) (now : ℚ) :
    sem permit s (.validate binding) (s.validate permit binding now).1
      (s.validate permit binding now).2
  | consume (s : PermitState) (binding : Binding) (now : ℚ) :
    sem permit s (.consume binding) (s.consume permit binding now).1 (s.consume permit binding now).2
  | env (s : PermitState) (op : EnvOp) (r : Except Exn op.Res) : sem permit s (.env op) r s
  | run (s : PermitState) (profile : Profile) (r : Except PipelineFailure (List (PyStr × Json))) :
    sem permit s (.run_pinned_remote_execution profile) r s

/-- A call into the environment; what it raises is raised here. -/
def env (op : EnvOp) : Call op.Res := do
  let answer ← Prog.perform (.env op)
  Prog.lift answer

/-- `permit.consume(..)`. -/
def consume (binding : Binding) : Call Unit := do
  let answer ← Prog.perform (.consume binding)
  Prog.lift answer

/-- `permit.validate(..)`. -/
def validate (binding : Binding) : Call Unit := do
  let answer ← Prog.perform (.validate binding)
  Prog.lift answer

/-! ## The journal gate -/

/-- `ExecutionAuthorizationJournalError("execution authorization journal: " + message)`. -/
def journal_error (message : String) : Exn :=
  ⟨.ExecutionAuthorizationJournalError, "execution authorization journal: " ++ message⟩

/-- A dict. -/
def dict (fields : List (String × Json)) : List (PyStr × Json) :=
  fields.map fun field => (.text field.1, field.2)

/-- A string constant. -/
def text (s : String) : Json := .str (.text s)

/-- A formatted string that starts with a constant. -/
def prefixed (head : String) (tail : PyStr) : PyStr := .of_codes ((PyStr.text head).codes ++ tail.codes)

/-- `_base_event(event_type=.., sequence=.., event_id=.., agent_id=..)`. -/
def base_event (event_type : String) (event_id : PyStr) : Call (List (PyStr × Json)) := do
  let self ← env .worker_fields
  Prog.lift (raise_if self.run_finished ⟨.WorkerJournalError, "worker journal: run is terminal"⟩)
  Prog.lift (raise_if self.agent_finished
    ⟨.WorkerJournalError, "worker journal: invocation is terminal"⟩)
  let timestamp ← env .timestamp
  return dict [("schema_version", .int 1), ("event_id", .str event_id),
    ("event_type", text event_type), ("process_id", .str self.process_id),
    ("run_id", .str self.run_id), ("branch_id", .str self.branch_id),
    ("task_id", .str self.task_id), ("agent_id", text "service-execution-authorizer"),
    ("sequence", .int self.sequence), ("occurred_at", .str timestamp),
    ("recorded_at", .str timestamp), ("classification", text "internal"),
    ("redaction_status", text "complete")]

/-- `run_gated_dispatch(store, checkpoint=.., intent_event=.., dispatch=..)`. -/
def run_gated_dispatch (checkpoint intent : Json) (dispatch : Call Bool) : Call (ℤ × Bool) := do
  let recorder ← env (.store_is_callable "record_checkpoint")
  let appender ← env (.store_is_callable "append")
  Prog.lift (raise_if (¬ (recorder && appender))
    ⟨.PreDispatchError, "pre-dispatch gate refused: store is invalid"⟩)
  let pair ← env (.store_is_callable "record_checkpoint_and_intent")
  let cursor ←
    if pair then env (.record_checkpoint_and_intent checkpoint intent)
    else do
      let _ ← env (.record_checkpoint checkpoint)
      env (.append intent)
  let result ← dispatch
  return (cursor, result)

/-- The `dispatch` of the gate: an exception of the callback is a refusal. -/
def dispatch (consume_permit : Call Unit) : Call Bool :=
  (consume_permit.bind fun _ => .ret true).handle fun _ => .ret false

/-- `record_execution_authorization` after its guards, without the outer
handler. -/
def authorize_in_journal (self : WorkerFields) (last_event_id : PyStr) (last_event_cursor : ℤ)
    (consume_permit : Call Unit) : Call Bool := do
  let checkpoint_id := prefixed "checkpoint-" (← env .next_id)
  let invocation_id := prefixed "invocation-" (← env .next_id)
  let intent_id := prefixed "event-" (← env .next_id)
  let timestamp ← env .timestamp
  let checkpoint : Json := .obj (dict [("schema_version", .int 1), ("checkpoint_id", .str checkpoint_id),
    ("kind", text "decision"), ("process_id", .str self.process_id), ("run_id", .str self.run_id),
    ("branch_id", .str self.branch_id), ("agent_id", text "service-execution-authorizer"),
    ("trigger_event_id", .str last_event_id), ("event_cursor", .int last_event_cursor),
    ("state_ref", .str (.of_codes ((prefixed "artifact://observer-state/" self.run_id).codes ++
      (PyStr.text "/execution-authorization").codes))),
    ("completeness", text "partial"), ("restore_mode", text "none"), ("created_at", .str timestamp)])
  let base ← base_event "decision_proposed" intent_id
  let intent : Json := .obj (base ++ dict [("checkpoint_id", .str checkpoint_id),
    ("invocation_id", .str invocation_id), ("causal_event_ids", .arr [.str last_event_id]),
    ("decision_or_tool", text "RemoteExecutionPermit.consume"),
    ("expected_result", text "bounded execution authorization outcome"), ("status", text "pending")])
  let (cursor, accepted) ← (run_gated_dispatch checkpoint intent (dispatch consume_permit)).handle
    fun _ => .raise (journal_error "pre-dispatch gate refused")
  env (.set_last_event intent_id cursor)
  -- the permit has been asked for by now; only the append below is mapped to an unknown outcome
  let event_id := prefixed "event-" (← env .next_id)
  let base ← base_event "decision_applied" event_id
  let terminal : Json := .obj (base ++ dict ([("invocation_id", .str invocation_id),
    ("causal_event_ids", .arr [.str intent_id]),
    ("decision_or_tool", text "RemoteExecutionPermit.consume"),
    ("status", text (if accepted then "ok" else "denied"))] ++
    (if accepted then [] else [("error_code", text "execution-authorization-unavailable")])))
  let terminal_cursor ← (env (.append terminal)).handle fun _ => .raise
    ⟨.ExecutionAuthorizationOutcomeUnknownError,
      "execution authorization journal: outcome is unknown"⟩
  env (.set_last_event event_id terminal_cursor)
  return accepted

/-- `record_execution_authorization(consume_permit)`. -/
def record_execution_authorization (consume_permit : Call Unit) : Call Bool := do
  let self ← env .worker_fields
  Prog.lift (raise_if self.execution_authorization_used (journal_error "decision is unavailable"))
  env .set_authorization_used
  match self.last_event_id, self.last_event_cursor with
  | some last_event_id, some last_event_cursor =>
    (authorize_in_journal self last_event_id last_event_cursor consume_permit).handle fun e =>
      if e.cls = .ExecutionAuthorizationJournalError ∨
        e.cls = .ExecutionAuthorizationOutcomeUnknownError then .raise e
      else .raise (journal_error "decision gate unavailable")
  | _, _ => .raise (journal_error "execution run is unavailable")

/-! ## The command -/

/-- The worker supplied with a call of `main`: none, one whose `matches` gives
this answer, or an object of another type. -/
inductive SuppliedWorker : Type
  | none
  | journaled (matches_profile : Bool)
  | other
  deriving DecidableEq

/-- The arguments of `main(["--remote-snapshot-execute"], ..)`. -/
structure Invocation : Type where
  remote_execution_profile : Option Profile
  /-- Whether `execution_permit` is the permit. -/
  execution_permit : Bool
  execution_worker : SuppliedWorker
  deriving DecidableEq

/-- What a call gives: nothing, or an exit code and the line it wrote. -/
inductive Reply : Type
  | nothing
  | exit (code : ℕ) (payload : List (PyStr × Json))

/-- A payload of a status and a failure code. -/
def failure (status failure_code : String) : List (PyStr × Json) :=
  dict [("status", text status), ("failure_code", text failure_code)]

/-- `execution_permit.consume(..)` with the profile's binding, or the refusal of
an argument that is no permit. -/
def consume_permit (invocation : Invocation) (profile : Profile) : Call Unit :=
  if invocation.execution_permit then consume profile.binding else .raise unavailable

/-- The journaling worker of an observed run. -/
def obtain_worker (invocation : Invocation) (profile : Profile) : Call Unit :=
  match invocation.execution_worker with
  | .none => env (.construct_worker profile.process_id profile.task_id)
  | .journaled true => .ret ()
  | _ => .raise ⟨.ValueError, ""⟩

/-- The `try` of the authorization: whether there is a journaling worker, and
whether the run is authorized. -/
def authorize (invocation : Invocation) (profile : Profile) : Call (Bool × Bool) :=
  if profile.observed then
    ((obtain_worker invocation profile).bind fun _ =>
      ((record_execution_authorization (consume_permit invocation profile)).handle
        fun _ => .ret false).bind fun accepted => .ret (true, accepted)).handle
      fun _ => .ret (false, false)
  else if invocation.execution_worker ≠ .none then .ret (false, false)
  else ((consume_permit invocation profile).bind fun _ => .ret (false, true)).handle
    fun _ => .ret (false, false)

/-- The observer's part of a payload. -/
def observer_fields (observed : Bool) : Call (List (PyStr × Json)) :=
  if observed then (env .observer_fields).handle fun _ => .ret [] else .ret []

/-- The payload of a run that raised. -/
def pipeline_failure : PipelineFailure → List (PyStr × Json)
  | .snapshot none => failure "failed" "remote-snapshot-fetch-failed"
  | .snapshot (some http_status) => failure "failed" s!"remote-snapshot-http-{http_status}"
  | .preparation => failure "failed" "remote-snapshot-preparation-failed"
  | .pipeline => failure "failed" "remote-execution-pipeline-failed"
  | .other => failure "failed" "remote-snapshot-execution-failed"

/-- The status of a payload. -/
def payload_status (payload : List (PyStr × Json)) : Option String :=
  ((Json.obj payload).get? "status").bind Json.text?

/-- The end of the journaled invocation; if it cannot be written, the payload
says so. -/
def finish_invocation (observed : Bool) (status : String) (payload : List (PyStr × Json)) :
    Call (List (PyStr × Json)) :=
  if observed then
    ((env (.finish_agent_invocation status)).bind fun _ => .ret payload).handle fun e =>
      if e.cls = .WorkerJournalError then .ret (failure "failed" "observer-invocation-finish-failed")
      else .raise e
  else .ret payload

/-- `main` after the authorization. -/
def run_authorized (profile : Profile) (observed : Bool) : Call Reply := do
  let answer ← Prog.perform (.run_pinned_remote_execution profile)
  let payload := match answer with
    | .ok payload => payload
    | .error e => pipeline_failure e
  let status := match payload_status payload with
    | some "verified" => "ok"
    | some "blocked" => "denied"
    | some "denied" => "denied"
    | _ => "failed"
  let payload ← finish_invocation observed status payload
  let observer ← observer_fields observed
  return .exit (if payload_status payload = some "verified" then 0 else 1) (payload ++ observer)

/-- `main(["--remote-snapshot-execute"], ..)`. -/
def remote_snapshot_execute (invocation : Invocation) : Call Reply :=
  match invocation.remote_execution_profile with
  | none => .ret (.exit 2 (failure "error" "remote-execution-runtime-unavailable"))
  | some profile => do
    let valid ← ((env (.validate_profile profile)).bind fun _ => .ret true).handle fun _ => .ret false
    if ¬ valid then return .exit 2 (failure "error" "remote-execution-profile-invalid")
    else
      let (observed, authorized) ← authorize invocation profile
      if authorized then run_authorized profile observed
      else
        let _ ← (finish_invocation observed "failed" []).handle fun _ => .ret []
        let observer ← observer_fields observed
        return .exit 2 (failure "error" "remote-execution-authorization-unavailable" ++ observer)

/-- A call on the shared permit. -/
inductive Entry : Type
  | validate (binding : Binding)
  | consume (binding : Binding)
  | main (invocation : Invocation)
  deriving DecidableEq

/-- The program of a call. -/
def body : Entry → Call Reply
  | .validate binding => do
    validate binding
    return .nothing
  | .consume binding => do
    consume binding
    return .nothing
  | .main invocation => remote_snapshot_execute invocation

/-! ## The lock sections -/

/-- What holds of the permit in every run: the flag tells whether a consume was
attempted, no section after a consume succeeded, and a section that succeeded
found the binding valid. -/
structure PermitState.Valid (s : PermitState) (permit : RemoteExecutionPermit) : Prop where
  consumed : s.consumed = s.sections.any Section.consume
  burnt : s.sections.Pairwise fun a b => a.consume = true → b.succeeded = false
  bound : ∀ a ∈ s.sections, a.succeeded = true →
    permit.validate_binding a.binding a.now = .ok ()

theorem PermitState.Valid.fresh (permit : RemoteExecutionPermit) : PermitState.fresh.Valid permit :=
  ⟨rfl, by simp [PermitState.fresh], by simp [PermitState.fresh]⟩

theorem PermitState.check_ok {s : PermitState} {permit : RemoteExecutionPermit} {binding : Binding}
    {now : ℚ} : s.check permit binding now = .ok () ↔
      s.consumed = false ∧ permit.validate_binding binding now = .ok () := by
  rw [PermitState.check, guard_ok, Bool.not_eq_true]

theorem isOk_iff {x : Except Exn Unit} : x.isOk = true ↔ x = .ok () := by
  rcases x with e | ⟨⟩ <;> simp [Except.isOk, Except.toBool]

/-- One more lock section. -/
theorem PermitState.Valid.section {s : PermitState} {permit : RemoteExecutionPermit}
    (h : s.Valid permit) (consume : Bool) (binding : Binding) (now : ℚ) :
    PermitState.Valid ⟨s.consumed || consume,
      s.sections ++ [⟨consume, binding, now, (s.check permit binding now).isOk⟩]⟩ permit := by
  refine ⟨?_, ?_, ?_⟩
  · simp [h.consumed]
  · refine List.pairwise_append.mpr ⟨h.burnt, List.pairwise_singleton _ _, ?_⟩
    intro a ha b hb hconsume
    obtain rfl := List.mem_singleton.mp hb
    have hconsumed : s.consumed = true := by
      rw [h.consumed]
      exact List.any_eq_true.mpr ⟨a, ha, hconsume⟩
    rw [← Bool.not_eq_true, isOk_iff, PermitState.check_ok, hconsumed]
    simp
  · intro a ha hok
    rcases List.mem_append.mp ha with ha | ha
    · exact h.bound a ha hok
    · obtain rfl := List.mem_singleton.mp ha
      exact (PermitState.check_ok.mp (isOk_iff.mp hok)).2

/-- Every operation keeps the permit valid. -/
theorem PermitState.Valid.step {permit : RemoteExecutionPermit} {s s' : PermitState} {op : Op}
    {r : op.Res} (h : s.Valid permit) (hs : sem permit s op r s') : s'.Valid permit := by
  cases hs with
  | validate _ binding now =>
    have hnext := h.section false binding now
    rwa [Bool.or_false] at hnext
  | consume _ binding now =>
    have hnext := h.section true binding now
    rwa [Bool.or_true] at hnext
  | env _ op r => exact h
  | run _ profile r => exact h

/-! ## Who enters the pipeline -/

/-- The binding of a worker's last successful consume. -/
def granted (m : Option Binding) : (op : Op) → op.Res → Option Binding
  | .validate _, _ => m
  | .consume binding, .ok _ => some binding
  | .consume _, .error _ => m
  | .env _, _ => m
  | .run_pinned_remote_execution _, _ => m

/-- The pipeline is for the profile of the call, after a consume with its
binding. -/
def allowed (entry : Entry) (m : Option Binding) (op : Op) : Prop :=
  ∀ profile, op = .run_pinned_remote_execution profile →
    m = some profile.binding ∧ ∃ invocation, entry = .main invocation ∧
      invocation.remote_execution_profile = some profile

section Programs

variable {entry : Entry} {m : Option Binding} {α β : Type}

/-- A call into the environment in front of a program. -/
theorem env_obeys {Q : Option Binding → β → Prop} {X : Option Binding → Exn → Prop} {op : EnvOp}
    {f : op.Res → Call β} (hf : ∀ a, Obeys granted (allowed entry) Q X m (f a)) (hX : ∀ e, X m e) :
    Obeys granted (allowed entry) Q X m ((env op).bind f) := by
  rw [env, Prog.bind_eq, Prog.perform_bind, Prog.call_bind]
  refine ⟨fun profile heq => (nomatch heq), fun r => ?_⟩
  rcases r with e | a
  · exact hX e
  · exact hf a

/-- A check in front of a program. -/
theorem check_obeys {Q : Option Binding → β → Prop} {X : Option Binding → Exn → Prop} {p : Prop}
    [Decidable p] {e : Exn} {f : Unit → Call β} (hf : Obeys granted (allowed entry) Q X m (f ()))
    (hX : ∀ e, X m e) : Obeys granted (allowed entry) Q X m ((Prog.lift (raise_if p e)).bind f) := by
  by_cases hp : p
  · rw [raise_if, if_pos hp]
    exact hX e
  · rw [raise_if, if_neg hp]
    exact hf

/-- A call into the environment. -/
theorem env_keeps (op : EnvOp) :
    Obeys granted (allowed entry) (fun m' _ => m' = m) (fun m' _ => m' = m) m (env op) := by
  rw [env, Prog.bind_eq, Prog.perform_bind]
  refine ⟨fun profile heq => (nomatch heq), fun r => ?_⟩
  rcases r with e | a
  · rfl
  · rfl

/-- An event's common fields. -/
theorem base_event_keeps (event_type : String) (event_id : PyStr) :
    Obeys granted (allowed entry) (fun m' _ => m' = m) (fun m' _ => m' = m) m
      (base_event event_type event_id) := by
  refine env_obeys (fun self => ?_) fun _ => rfl
  refine check_obeys (check_obeys ?_ fun _ => rfl) fun _ => rfl
  exact env_obeys (fun _ => rfl) fun _ => rfl

/-- Consuming the permit. -/
theorem consume_obeys {binding : Binding} {Q : Option Binding → Unit → Prop}
    {X : Option Binding → Exn → Prop} (hQ : Q (some binding) ()) (hX : ∀ e, X m e) :
    Obeys granted (allowed entry) Q X m (consume binding) := by
  rw [consume, Prog.bind_eq, Prog.perform_bind]
  refine ⟨fun profile heq => (nomatch heq), fun r => ?_⟩
  rcases r with e | ⟨⟩
  · exact hX e
  · exact hQ

/-- The callback of a call with this profile. -/
theorem consume_permit_obeys (invocation : Invocation) (profile : Profile) :
    Obeys granted (allowed entry) (fun m' _ => m' = some profile.binding) (fun _ _ => True) m
      (consume_permit invocation profile) := by
  unfold consume_permit
  split_ifs
  · exact consume_obeys rfl fun _ => trivial
  · trivial

/-- `true` stands for a consume of one's own that succeeded. -/
def Granted (binding : Binding) (m : Option Binding) (accepted : Bool) : Prop :=
  accepted = true → m = some binding

/-- The gate's dispatch. -/
theorem dispatch_obeys (invocation : Invocation) (profile : Profile) :
    Obeys granted (allowed entry) (Granted profile.binding) (fun _ _ => True) m
      (dispatch (consume_permit invocation profile)) := by
  refine Obeys.handle (Obeys.bind ?_)
  exact (consume_permit_obeys invocation profile).mono (fun _ _ h _ => h) fun _ _ _ h => by cases h

/-- The gate, whatever the store does before the dispatch. -/
theorem gated_dispatch_obeys (checkpoint intent : Json) (invocation : Invocation) (profile : Profile) :
    Obeys granted (allowed entry) (fun m' answer => Granted profile.binding m' answer.2)
      (fun _ _ => True) m
      (run_gated_dispatch checkpoint intent (dispatch (consume_permit invocation profile))) := by
  have hdispatch (cursor : ℤ) : Obeys granted (allowed entry)
      (fun m' (answer : ℤ × Bool) => Granted profile.binding m' answer.2) (fun _ _ => True) m
      ((dispatch (consume_permit invocation profile)).bind fun result => .ret (cursor, result)) :=
    Obeys.bind ((dispatch_obeys invocation profile).mono (fun _ _ h => h) fun _ _ h => h)
  refine env_obeys (fun _ => env_obeys (fun _ => check_obeys ?_ fun _ => trivial) fun _ => trivial)
    fun _ => trivial
  refine env_obeys (fun pair => ?_) fun _ => trivial
  cases pair with
  | true => exact env_obeys hdispatch fun _ => trivial
  | false => exact env_obeys (fun _ => env_obeys hdispatch fun _ => trivial) fun _ => trivial

/-- The journaled authorization: nothing after the gate changes its answer. -/
theorem authorize_in_journal_obeys (self : WorkerFields) (last_event_id : PyStr)
    (last_event_cursor : ℤ) (invocation : Invocation) (profile : Profile) :
    Obeys granted (allowed entry) (Granted profile.binding) (fun _ _ => True) m
      (authorize_in_journal self last_event_id last_event_cursor
        (consume_permit invocation profile)) := by
  refine env_obeys (fun checkpoint_part => ?_) fun _ => trivial
  refine env_obeys (fun invocation_part => ?_) fun _ => trivial
  refine env_obeys (fun intent_part => ?_) fun _ => trivial
  refine env_obeys (fun timestamp => ?_) fun _ => trivial
  refine Obeys.bind ((base_event_keeps _ _).mono ?_ fun _ _ _ => trivial)
  rintro _ base rfl
  refine Obeys.bind (Obeys.handle ((gated_dispatch_obeys _ _ invocation profile).mono ?_
    fun _ _ _ => trivial))
  rintro m' ⟨cursor, accepted⟩ hgranted
  refine env_obeys (fun _ => ?_) fun _ => trivial
  refine env_obeys (fun event_part => ?_) fun _ => trivial
  refine Obeys.bind ((base_event_keeps _ _).mono ?_ fun _ _ _ => trivial)
  rintro _ base' rfl
  refine Obeys.bind (Obeys.handle ((env_keeps _).mono ?_ fun _ _ _ => trivial))
  rintro _ terminal_cursor rfl
  exact env_obeys (fun _ => hgranted) fun _ => trivial

/-- `record_execution_authorization` answers `True` only after a consume. -/
theorem record_execution_authorization_obeys (invocation : Invocation) (profile : Profile) :
    Obeys granted (allowed entry) (Granted profile.binding) (fun _ _ => True) m
      (record_execution_authorization (consume_permit invocation profile)) := by
  refine env_obeys (fun self => check_obeys ?_ fun _ => trivial) fun _ => trivial
  refine env_obeys (fun _ => ?_) fun _ => trivial
  split
  · refine Obeys.handle ((authorize_in_journal_obeys _ _ _ _ _).mono (fun _ _ h => h) ?_)
    intro m' e _
    by_cases hcls : e.cls = .ExecutionAuthorizationJournalError ∨
      e.cls = .ExecutionAuthorizationOutcomeUnknownError
    · rw [if_pos hcls]
      trivial
    · rw [if_neg hcls]
      trivial
  · trivial

/-- The authorization of a run, observed or not. -/
theorem authorize_obeys (invocation : Invocation) (profile : Profile) :
    Obeys granted (allowed entry) (fun m' answer => Granted profile.binding m' answer.2)
      (fun _ _ => True) m (authorize invocation profile) := by
  have hrefused : ∀ (m' : Option Binding) (observed : Bool), Granted profile.binding m' false :=
    fun _ _ h => by cases h
  unfold authorize
  split_ifs
  · refine Obeys.handle (Obeys.bind ?_)
    have hobtain : Obeys granted (allowed entry) (fun m' _ => m' = m) (fun _ _ => True) m
        (obtain_worker invocation profile) := by
      unfold obtain_worker
      split
      · exact (env_keeps _).mono (fun _ _ h => h) fun _ _ _ => trivial
      · rfl
      · trivial
    refine hobtain.mono ?_ fun m' _ _ => hrefused m' false
    rintro _ _ rfl
    refine Obeys.bind (Obeys.handle ?_)
    exact (record_execution_authorization_obeys invocation profile).mono (fun _ _ h => h)
      fun m' _ _ => hrefused m' true
  · exact hrefused m false
  · refine Obeys.handle (Obeys.bind ?_)
    exact (consume_permit_obeys invocation profile).mono (fun _ _ h _ => h)
      fun m' _ _ => hrefused m' false

/-- The observer's part of a payload. -/
theorem observer_fields_obeys (observed : Bool) :
    Obeys granted (allowed entry) (fun _ _ => True) (fun _ _ => True) m (observer_fields observed) := by
  unfold observer_fields
  split_ifs
  · exact Obeys.handle ((env_keeps _).mono (fun _ _ _ => trivial) fun _ _ _ => trivial)
  · trivial

/-- The end of the journaled invocation. -/
theorem finish_invocation_obeys (observed : Bool) (status : String) (payload : List (PyStr × Json)) :
    Obeys granted (allowed entry) (fun _ _ => True) (fun _ _ => True) m
      (finish_invocation observed status payload) := by
  unfold finish_invocation
  split_ifs
  · refine Obeys.handle (Obeys.bind ((env_keeps _).mono (fun _ _ _ => trivial) ?_))
    intro m' e _
    by_cases hcls : e.cls = .WorkerJournalError
    · rw [if_pos hcls]
      trivial
    · rw [if_neg hcls]
      trivial
  · trivial

/-- `main` after an authorization of its own profile. -/
theorem run_authorized_obeys {invocation : Invocation} {profile : Profile}
    (hprofile : invocation.remote_execution_profile = some profile) (observed : Bool) :
    Obeys granted (allowed (.main invocation)) (fun _ _ => True) (fun _ _ => True)
      (some profile.binding) (run_authorized profile observed) := by
  refine ⟨?_, fun answer => ?_⟩
  · rintro profile' heq
    obtain rfl := Op.run_pinned_remote_execution.inj heq
    exact ⟨rfl, invocation, rfl, hprofile⟩
  · refine Obeys.bind ?_
    refine Obeys.bind (p := finish_invocation observed _ _)
      ((finish_invocation_obeys _ _ _).mono (fun _ _ _ => ?_) fun _ _ h => h)
    exact Obeys.bind ((observer_fields_obeys observed).mono (fun _ _ _ => trivial) fun _ _ h => h)

/-- **Every call enters the pipeline only after its own consume.** -/
theorem body_obeys (entry : Entry) :
    Obeys granted (allowed entry) (fun _ _ => True) (fun _ _ => True) none (body entry) := by
  cases entry with
  | validate binding =>
    refine ⟨fun profile heq => (nomatch heq), fun r => ?_⟩
    rcases r with e | a <;> trivial
  | consume binding => exact Obeys.bind (consume_obeys trivial fun _ => trivial)
  | main invocation =>
    rw [body, remote_snapshot_execute]
    split
    · trivial
    · next profile hprofile =>
      refine Obeys.bind (Obeys.handle (Obeys.bind ((env_keeps _).mono ?_ ?_)))
      · rintro _ _ rfl
        refine Obeys.bind ((authorize_obeys invocation profile).mono ?_ fun _ _ h => h)
        rintro m' ⟨observed, authorized⟩ hgranted
        -- only a granted permit lets the execution run
        cases authorized with
        | true =>
          rw [hgranted rfl]
          exact run_authorized_obeys hprofile observed
        | false =>
          refine Obeys.bind (Obeys.handle ((finish_invocation_obeys _ _ _).mono
            (fun _ _ _ => ?_) fun _ _ _ => ?_)) <;>
          exact Obeys.bind ((observer_fields_obeys observed).mono (fun _ _ _ => trivial)
            fun _ _ h => h)
      · intro _ _ _
        trivial

end Programs

/-! ## Runs -/

section Runs

variable {permit : RemoteExecutionPermit} {cfg : Config Entry Op Op.Res Exn Reply PermitState}

/-- The permit is valid in every run. -/
theorem reachable_valid (h : Reachable body (sem permit) PermitState.fresh cfg) :
    cfg.shared.Valid permit := by
  refine h.invariant (fun c => c.shared.Valid permit) (.fresh permit) ?_
  intro c c' hc hstep
  cases hstep with
  | spawn _ => exact hc
  | exec i t op next r s' _ _ hsem => exact hc.step hsem
  | crash i t _ => exact hc

/-- Where no entry follows one of its kind, there is at most one. -/
theorem countP_le_one {α : Type} {p : α → Bool} {l : List α}
    (h : l.Pairwise fun a b => p a = true → p b = false) : l.countP p ≤ 1 := by
  induction l with
  | nil => simp
  | cons a l ih =>
    obtain ⟨ha, hl⟩ := List.pairwise_cons.mp h
    rw [List.countP_cons]
    by_cases hp : p a = true
    · have hnone : l.countP p = 0 :=
        List.countP_eq_zero.mpr fun b hb => Bool.not_eq_true _ ▸ ha b hb hp
      simp [hnone, hp]
    · simpa [hp] using ih hl

/-- A monitor that holds a binding has seen its consume succeed. -/
theorem granted_record {past : List (Record Op Op.Res PermitState)} {binding : Binding}
    (h : past.foldl (fun m e => granted m e.op e.res) none = some binding) :
    ∃ before after, (⟨.consume binding, .ok (), before, after⟩ : Record Op Op.Res PermitState) ∈ past := by
  have hstep : ∀ (m : Option Binding) (e : Record Op Op.Res PermitState),
      granted m e.op e.res = some binding →
      m = some binding ∨ ∃ before after, e = ⟨.consume binding, .ok (), before, after⟩ := by
    rintro m ⟨op, r, before, after⟩ hgranted
    cases op with
    | consume b =>
      rcases r with e | ⟨⟩
      · exact .inl hgranted
      · obtain rfl : b = binding := Option.some.inj hgranted
        exact .inr ⟨before, after, rfl⟩
    | validate b => exact .inl hgranted
    | env op => exact .inl hgranted
    | run_pinned_remote_execution profile => exact .inl hgranted
  rcases exists_of_foldl (Φ := fun m => m = some binding) hstep h with hnone | ⟨e, he, before, after, rfl⟩
  · cases hnone
  · exact ⟨before, after, he⟩

/-- A consume, as an operation. -/
theorem sem_consume {binding : Binding} {before after : PermitState} {r : Except Exn Unit}
    (h : sem permit before (.consume binding) r after) :
    ∃ now, (r, after) = before.consume permit binding now := by
  cases h with
  | consume now => exact ⟨_, rfl⟩

/-- What a successful consume found. -/
theorem consume_record {binding : Binding} {before after : PermitState}
    (h : sem permit before (.consume binding) (.ok ()) after) :
    ∃ now, after.sections = before.sections ++ [⟨true, binding, now, true⟩] ∧
      permit.validate_binding binding now = .ok () := by
  obtain ⟨now, hconsume⟩ := sem_consume h
  obtain ⟨hresult, rfl⟩ := Prod.mk.inj hconsume
  have hcheck : before.check permit binding now = .ok () := hresult.symm
  refine ⟨now, ?_, (PermitState.check_ok.mp hcheck).2⟩
  show before.sections ++ [⟨true, binding, now, (before.check permit binding now).isOk⟩] = _
  rw [hcheck]
  rfl

/-- **The permit is used once**: in every run, at most one consume succeeds, no
section succeeds after a consume was attempted, and whoever enters the pipeline
has consumed the permit for its own profile while the evidence was ready. -/
theorem remote_execution_permit (h : Reachable body (sem permit) PermitState.fresh cfg) :
    (cfg.shared.sections.countP fun a => a.consume && a.succeeded) ≤ 1 ∧
    (cfg.shared.sections.Pairwise fun a b => a.consume = true → b.succeeded = false) ∧
    ∀ t ∈ cfg.pool, ∀ front e back profile, t.past = front ++ e :: back →
      e.op = .run_pinned_remote_execution profile →
      ∃ invocation, t.call = .main invocation ∧
        invocation.remote_execution_profile = some profile ∧
        ∃ before after now,
          (⟨.consume profile.binding, .ok (), before, after⟩ : Record Op Op.Res PermitState) ∈ front ∧
          after.sections = before.sections ++ [⟨true, profile.binding, now, true⟩] ∧
          permit.process_id = profile.process_id ∧ permit.task_id = profile.task_id ∧
          permit.snapshot_evidence_origin = profile.snapshot_evidence_origin ∧
          permit.readiness.Ready now := by
  have hvalid := reachable_valid h
  refine ⟨countP_le_one (hvalid.burnt.imp ?_), hvalid.burnt, ?_⟩
  · intro a b hab ha
    obtain ⟨hconsume, -⟩ := Bool.and_eq_true_iff.mp ha
    rw [hab hconsume, Bool.and_false]
  · intro t ht front e back profile hpast hop
    obtain ⟨hm, invocation, hcall, hprofile⟩ := h.obeys body_obeys ht hpast profile hop
    -- the monitor knows of a permit only from a consumption that this call has made
    obtain ⟨before, after, hmem⟩ := granted_record hm
    have hrecord := (h.records (I := fun _ => True) (fun _ _ => trivial) t ht _
      (hpast ▸ List.mem_append_left _ hmem)).2
    obtain ⟨now, hsections, hbinding⟩ := consume_record hrecord
    obtain ⟨hprocess, htask, horigin, -, hready⟩ := RemoteExecutionPermit.validate_binding_ok hbinding
    exact ⟨invocation, hcall, hprofile, before, after, now, hmem, hsections, hprocess, htask,
      horigin _ rfl, hready⟩

end Runs

/-! ## A run -/

/-- A permit for the tests below. -/
def sample_permit : RemoteExecutionPermit where
  card_id := .text "EXP-001"
  process_id := .text "process-1"
  task_id := .text "task-1"
  owner := REMOTE_REPOSITORY_OWNER
  repository := REMOTE_REPOSITORY_NAME
  commit_oid := REMOTE_REPOSITORY_COMMIT
  readiness := ⟨200, some 60, some 1, 0⟩
  snapshot_evidence_origin := .text "github_codeload_archive"

/-- A profile the permit fits, observed or not. -/
def sample_profile (observed : Bool) : Profile :=
  ⟨.text "process-1", .text "task-1", .text "github_codeload_archive", observed⟩

/-- An environment in which nothing fails. -/
def calm : (op : EnvOp) → op.Res
  | .validate_profile _ => ()
  | .construct_worker _ _ => ()
  | .worker_fields => ⟨.text "process-1", .text "task-1", .text "run-00000001", .text "branch-main",
      false, false, false, some (.text "event-00000001"), some 0, 1⟩
  | .set_authorization_used => ()
  | .set_last_event _ _ => ()
  | .next_id => .text "00000002"
  | .timestamp => .text "2026-01-01T00:00:00Z"
  | .store_is_callable _ => true
  | .record_checkpoint_and_intent _ _ => 1
  | .record_checkpoint _ => 0
  | .append _ => 2
  | .finish_agent_invocation _ => ()
  | .observer_fields => []

/-- Its answers, one second after the evidence was observed. -/
def calm_answer (permit : RemoteExecutionPermit) : (op : Op) → PermitState → op.Res × PermitState
  | .validate binding, s => s.validate permit binding 1
  | .consume binding, s => s.consume permit binding 1
  | .env op, s => (.ok (calm op), s)
  | .run_pinned_remote_execution _, s => (.ok (dict [("status", text "verified")]), s)

theorem calm_sem (permit : RemoteExecutionPermit) (s : PermitState) (op : Op) :
    sem permit s op (calm_answer permit op s).1 (calm_answer permit op s).2 := by
  cases op with
  | validate binding => exact .validate s binding 1
  | consume binding => exact .consume s binding 1
  | env op => exact .env s op _
  | run_pinned_remote_execution profile => exact .run s profile _

/-- An observed run consumes the permit, and a second run is refused. -/
theorem remote_execution_permit_second_run : ∃ cfg : Config Entry Op Op.Res Exn Reply PermitState,
    (cfg.shared.sections.map fun a => (a.consume, a.succeeded)) = [(true, true), (true, false)] ∧
    (cfg.shared.sections.countP fun a => a.consume && a.succeeded) ≤ 1 := by
  obtain ⟨cfg, hcfg, hshared, -⟩ := Reachable.sequence (h := calm_answer sample_permit) body
    PermitState.fresh (calm_sem sample_permit)
    [.main ⟨some (sample_profile true), true, .none⟩, .main ⟨some (sample_profile false), true, .none⟩]
  refine ⟨cfg, ?_, (remote_execution_permit hcfg).1⟩
  rw [hshared]
  decide +kernel

end AppContracts.RemotePermit
