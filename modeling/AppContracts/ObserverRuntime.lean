/-
The journaled operations of `JournaledProposalWorker` in `observer_runtime.py`.

Every operation has the same course: it builds a checkpoint and an intent, lets
the gate of `observation_store.py` record both and make the wrapped call, and
appends a terminal event that tells the outcome. `Operation` has the parts in
which they differ and `Operation.run` is the course; each operation of the
source is its own guards in front of one `Operation`.

The operations are code over any monad that raises. `Ports` is what they work
with: the worker's attributes, its id factory, its clock and its store.
-/
import AppContracts.GatedDispatch

set_option autoImplicit false

namespace AppContracts.ObserverRuntime

open GatedDispatch

/-! ## The worker -/

/-- The attributes of a `JournaledProposalWorker` that its journaled operations
read. -/
structure Worker : Type where
  process_id : String
  run_id : String
  branch_id : String
  task_id : String
  sequence : ℕ
  last_event_id : Option String
  last_event_cursor : Option ℕ
  agent_finished : Bool
  run_finished : Bool
  used : Bool
  verifier_used : Bool
  snapshot_pin_decision_used : Bool
  execution_authorization_used : Bool
  controlled_publication_used : Bool
  controlled_steps_used : List String
  deriving DecidableEq

/-- What an operation of a worker works with. -/
structure Ports (m : Type → Type) : Type where
  self : m Worker
  update : (Worker → Worker) → m Unit
  id_factory : m (Arg String)
  clock : m Moment
  store : Store m

/-- A character of `_SAFE_ID_PART`. -/
def is_id_char (c : Char) : Bool := ('a' ≤ c ∧ c ≤ 'z') ∨ c.isDigit ∨ c = '-'

/-- `_SAFE_ID_PART.fullmatch(value)`. -/
def is_safe_id_part (value : String) : Bool :=
  8 ≤ value.toList.length ∧ value.toList.length ≤ 64 ∧ value.toList.all is_id_char

/-- `WorkerJournalError("worker journal: " + message)`. -/
def worker_error (message : String) : Exn := ⟨.WorkerJournalError, "worker journal: " ++ message⟩

/-- A string or `None`. -/
def optional (s : Option String) : Json := (s.map text).getD .null

/-- An integer or `None`. -/
def optional_int (n : Option ℕ) : Json := (n.map fun n => Json.int n).getD .null

/-- What distinguishes the two records an operation writes before its call. -/
structure Labels : Type where
  kind : String
  intent_type : String
  agent_id : String
  /-- The last part of the checkpoint's `state_ref`. -/
  state : String
  decision_or_tool : String
  expected_result : String
  deriving DecidableEq

/-- The checkpoint of an operation. -/
def checkpoint (self : Worker) (labels : Labels) (checkpoint_id timestamp : String) : Json :=
  dict [("schema_version", .int 1), ("checkpoint_id", text checkpoint_id), ("kind", text labels.kind),
    ("process_id", text self.process_id), ("run_id", text self.run_id),
    ("branch_id", text self.branch_id), ("agent_id", text labels.agent_id),
    ("trigger_event_id", optional self.last_event_id),
    ("event_cursor", optional_int self.last_event_cursor),
    ("state_ref", text ("artifact://observer-state/" ++ self.run_id ++ "/" ++ labels.state)),
    ("completeness", text "partial"), ("restore_mode", text "none"), ("created_at", text timestamp)]

/-- What the intent has besides the common fields. -/
def intent_fields (self : Worker) (labels : Labels) (checkpoint_id invocation_id : String) :
    List (String × Json) :=
  [("checkpoint_id", text checkpoint_id), ("invocation_id", text invocation_id),
    ("causal_event_ids", .arr [optional self.last_event_id]),
    ("decision_or_tool", text labels.decision_or_tool),
    ("expected_result", text labels.expected_result), ("status", text "pending")]

/-- `self._last_event_id = event_id`, `self._last_event_cursor = cursor`,
`self._sequence += 1`. -/
def Worker.advance (event_id : String) (cursor : ℕ) (self : Worker) : Worker :=
  { self with
    last_event_id := some event_id, last_event_cursor := some cursor, sequence := self.sequence + 1 }

section Generic

variable {m : Type → Type} [Monad m] [MonadExcept Exn m] {α β : Type}

/-! ## The parts of an operation -/

/-- `_next_id()`. -/
def next_id (ports : Ports m) : m String := do
  match ← ports.id_factory with
  | .of value =>
    if is_safe_id_part value then return value else throw (worker_error "identifier unavailable")
  | .other => throw (worker_error "identifier unavailable")

/-- `_timestamp()`. -/
def timestamp (ports : Ports m) : m String := do
  match ← ports.clock with
  | .invalid => throw (worker_error "clock unavailable")
  | .out_of_range => throw ⟨.OverflowError, "date value out of range"⟩
  | .at isoformat => return str_replace isoformat "+00:00" "Z"

/-- `_base_event(event_type=.., sequence=.., event_id=.., agent_id=..)`. -/
def base_event (ports : Ports m) (event_type : String) (sequence : ℕ) (event_id agent_id : String) :
    m (List (String × Json)) := do
  let self ← ports.self
  if self.run_finished ∧ event_type ≠ "run_finished" then
    throw (worker_error "run is terminal")
  else if self.agent_finished ∧ event_type ≠ "agent_finished" ∧ event_type ≠ "run_finished" then
    throw (worker_error "invocation is terminal")
  else do
    let timestamp ← timestamp ports
    return [("schema_version", .int 1), ("event_id", text event_id), ("event_type", text event_type),
      ("process_id", text self.process_id), ("run_id", text self.run_id),
      ("branch_id", text self.branch_id), ("task_id", text self.task_id),
      ("agent_id", text agent_id), ("sequence", .int sequence), ("occurred_at", text timestamp),
      ("recorded_at", text timestamp), ("classification", text "internal"),
      ("redaction_status", text "complete")]

/-- The three IDs of most operations. -/
def fresh_ids (ports : Ports m) : m (String × String × String) := do
  let checkpoint_id := "checkpoint-" ++ (← next_id ports)
  let invocation_id := "invocation-" ++ (← next_id ports)
  let intent_id := "event-" ++ (← next_id ports)
  return (checkpoint_id, invocation_id, intent_id)

/-- The guarded dispatch of an operation: an exception of the call is an outcome. -/
def guarded (call : m α) : m (Except Exn α) :=
  tryCatch (do return .ok (← call)) fun e => return .error e

/-- The IDs of an invocation and of its intent, and the two records. -/
structure Intention : Type where
  invocation_id : String
  intent_id : String
  checkpoint : Json
  intent : Json

/-- The records of an operation. -/
def intention (ports : Ports m) (labels : Labels) (ids : m (String × String × String)) :
    m Intention := do
  let (checkpoint_id, invocation_id, intent_id) ← ids
  let timestamp ← timestamp ports
  let self ← ports.self
  let base ← base_event ports labels.intent_type self.sequence intent_id labels.agent_id
  return ⟨invocation_id, intent_id, checkpoint self labels checkpoint_id timestamp,
    dict (base ++ intent_fields self labels checkpoint_id invocation_id)⟩

/-- The gate of an operation: where the intent is `reserved` the worker moves on
before the call, so that nested calls come after it, else after the call. -/
def dispatched (ports : Ports m) (intention : Intention) (once reserved : Bool)
    (gate_failed : Exn → m (ℕ × Except Exn α)) (call : m α) : m (Except Exn α) := do
  let advance := fun cursor => ports.update (Worker.advance intention.intent_id cursor)
  let (cursor, outcome) ← tryCatch
    (run_gated_dispatch ports.store intention.checkpoint intention.intent (some (guarded call)) once
      (if reserved then some (.of advance) else none))
    gate_failed
  if reserved then return outcome
  else do
    advance cursor
    return outcome

/-- A terminal event and its ID. -/
def terminal_event (ports : Ports m) (agent_id event_type : String) (fields : List (String × Json)) :
    m (String × Json) := do
  let self ← ports.self
  let event_id := "event-" ++ (← next_id ports)
  let base ← base_event ports event_type self.sequence event_id agent_id
  return (event_id, dict (base ++ fields))

/-- `self._store.append(event)` under its `try`. -/
def stored (ports : Ports m) (event : Json) (unknown : Exn) : m ℕ :=
  match ports.store.append with
  | some append => tryCatch (append event) fun _ => throw unknown
  | none => throw unknown

/-- The terminal event is stored, and the worker moves on. -/
def append_terminal (ports : Ports m) (event_id : String) (event : Json) (unknown : Exn) : m Unit := do
  let cursor ← stored ports event unknown
  ports.update (Worker.advance event_id cursor)

/-! ## Operations -/

/-- How a terminal event tells an outcome: its type, and its fields after
`causal_event_ids`. -/
structure Terminal : Type where
  event_type : String
  fields : List (String × Json)

/-- What distinguishes a journaled operation with a call that gives an `α`. -/
structure Operation (m : Type → Type) (α β : Type) : Type where
  labels : Labels
  ids : m (String × String × String)
  once : Bool
  reserved : Bool
  /-- The `except` clause around the gate. -/
  gate_failed : Exn → m (ℕ × Except Exn α)
  terminal : Except Exn α → m Terminal
  /-- The exception when the terminal event is not stored. -/
  unknown : Exn
  /-- The `except` clause around the terminal record. -/
  unrecorded : Except Exn α → Exn → m Unit
  finish : Except Exn α → m β
  /-- The classes that the outer `except` clauses raise again. -/
  kept : List ExnClass
  /-- What they raise for other classes. -/
  unavailable : Exn

/-- The outer `except` clauses of an operation. -/
def Operation.outer (op : Operation m α β) (e : Exn) : Exn :=
  if e.is_any op.kept then e else op.unavailable

/-- The terminal event of an outcome. -/
def Operation.tell (op : Operation m α β) (ports : Ports m) (intention : Intention)
    (terminal : Terminal) : m (String × Json) :=
  terminal_event ports op.labels.agent_id terminal.event_type
    ([("invocation_id", text intention.invocation_id),
      ("causal_event_ids", .arr [text intention.intent_id])] ++ terminal.fields)

/-- What an operation does after its call. -/
def Operation.conclude (op : Operation m α β) (ports : Ports m) (intention : Intention)
    (outcome : Except Exn α) : m β := do
  let terminal ← op.terminal outcome
  tryCatch
    (do
      let (event_id, event) ← op.tell ports intention terminal
      append_terminal ports event_id event op.unknown)
    (op.unrecorded outcome)
  op.finish outcome

/-- The `try` of an operation. -/
def Operation.attempt (op : Operation m α β) (ports : Ports m) (call : m α) : m β := do
  let intention ← intention ports op.labels op.ids
  let outcome ← dispatched ports intention op.once op.reserved op.gate_failed call
  op.conclude ports intention outcome

/-- The course of an operation after its guards. -/
def Operation.run (op : Operation m α β) (ports : Ports m) (call : m α) : m β :=
  tryCatch (op.attempt ports call) fun e => throw (op.outer e)

/-- An operation behind its guards. -/
def Operation.behind (op : Operation m α β) (guards : m Unit) (ports : Ports m) (call : m α) : m β := do
  guards
  op.run ports call

/-- `except PreDispatchError: raise refused`. -/
def refuses (refused : Exn) (e : Exn) : m (ℕ × Except Exn α) :=
  throw (if e.is_any [.PreDispatchError] then refused else e)

/-- A status, and the error code of a failure. -/
def status (status : String) (error_code : Option String) : List (String × Json) :=
  ("status", text status) :: (error_code.map fun code => ("error_code", text code)).toList

/-- `tool_failed` or `tool_completed`. -/
def tool_outcome (tool : List (String × Json)) (error_code : String) (outcome : Except Exn α) :
    Terminal :=
  match outcome with
  | .error _ => ⟨"tool_failed", tool ++ status "failed" (some error_code)⟩
  | .ok _ => ⟨"tool_completed", tool ++ status "ok" none⟩

/-- A result, or the exception that stands for a failed call. -/
def returns_or (failed : Exn) (outcome : Except Exn α) : m α :=
  match outcome with
  | .ok value => return value
  | .error _ => throw failed

/-- The worker has a last event. -/
def Worker.has_last_event (self : Worker) : Bool :=
  self.last_event_id.isSome && self.last_event_cursor.isSome

/-! ## The operations of the source -/

/-- `WorkerJournalError` and its siblings, with their `.. journal: ` prefix. -/
def journal_error (cls : ExnClass) (journal message : String) : Exn := ⟨cls, journal ++ " journal: " ++ message⟩

/-- `if flag: raise refused`, `flag = True`. -/
def claim (ports : Ports m) (flag : Worker → Bool) (set : Worker → Worker) (refused : Exn) : m Unit := do
  let self ← ports.self
  if flag self then throw refused else ports.update set

/-- `if self._last_event_id is None or self._last_event_cursor is None: raise refused`. -/
def require_last_event (ports : Ports m) (refused : Exn) : m Unit := do
  let self ← ports.self
  if self.has_last_event then return () else throw refused

/-- The operation of `record_snapshot_pin_decision`. Its call cannot fail. -/
def pin_decision (ports : Ports m) : Operation m Bool Bool :=
  let error := journal_error .SnapshotPinDecisionError "snapshot pin"
  let tool := "PinnedSnapshot.validate-fixed-pin"
  { labels := ⟨"decision", "decision_proposed", "service-snapshot-validator", "snapshot-pin", tool,
      "bounded pinned snapshot comparison result"⟩
    ids := fresh_ids ports
    once := false
    reserved := false
    gate_failed := refuses (error "pre-dispatch gate refused")
    terminal := fun outcome => return ⟨"decision_applied", ("decision_or_tool", text tool) ::
      match outcome with
      | .ok true => status "ok" none
      | _ => status "denied" (some "pinned-snapshot-rejected")⟩
    unknown := journal_error .SnapshotPinDecisionOutcomeUnknownError "snapshot pin"
      "decision outcome is unknown"
    unrecorded := fun _ e => throw e
    finish := fun outcome => pure (match outcome with
      | .ok accepted => accepted
      | .error _ => false)
    kept := [.SnapshotPinDecisionError, .SnapshotPinDecisionOutcomeUnknownError]
    unavailable := error "decision gate unavailable" }

/-- Its guards, after the type of its argument. -/
def pin_decision_guards (ports : Ports m) : m Unit := do
  let error := journal_error .SnapshotPinDecisionError "snapshot pin"
  claim ports (·.snapshot_pin_decision_used)
    (fun self => { self with snapshot_pin_decision_used := true }) (error "decision is unavailable")
  require_last_event ports (error "execution run is unavailable")

/-- `record_snapshot_pin_decision(accepted)`. The call is `lambda: accepted`. -/
def record_snapshot_pin_decision (ports : Ports m) (accepted : Arg Bool)
    (dispatch : Bool → m Bool := fun accepted => return accepted) : m Bool :=
  match accepted with
  | .other => throw (journal_error .SnapshotPinDecisionError "snapshot pin" "decision is unavailable")
  | .of accepted => (pin_decision ports).behind (pin_decision_guards ports) ports (dispatch accepted)

/-- The operation of `record_execution_authorization`: the permit's exception is
a refusal, and any exception of the gate is one of the journal. -/
def authorization (ports : Ports m) : Operation m Unit Bool :=
  let error := journal_error .ExecutionAuthorizationJournalError "execution authorization"
  let tool := "RemoteExecutionPermit.consume"
  { labels := ⟨"decision", "decision_proposed", "service-execution-authorizer",
      "execution-authorization", tool, "bounded execution authorization outcome"⟩
    ids := fresh_ids ports
    once := false
    reserved := false
    gate_failed := fun _ => throw (error "pre-dispatch gate refused")
    terminal := fun outcome => return ⟨"decision_applied", ("decision_or_tool", text tool) ::
      match outcome with
      | .ok () => status "ok" none
      | .error _ => status "denied" (some "execution-authorization-unavailable")⟩
    unknown := journal_error .ExecutionAuthorizationOutcomeUnknownError "execution authorization"
      "outcome is unknown"
    unrecorded := fun _ e => throw e
    finish := fun outcome => return outcome.toBool
    kept := [.ExecutionAuthorizationJournalError, .ExecutionAuthorizationOutcomeUnknownError]
    unavailable := error "decision gate unavailable" }

/-- Its guards, after `callable(consume_permit)`. -/
def authorization_guards (ports : Ports m) : m Unit := do
  let error := journal_error .ExecutionAuthorizationJournalError "execution authorization"
  claim ports (·.execution_authorization_used)
    (fun self => { self with execution_authorization_used := true }) (error "decision is unavailable")
  require_last_event ports (error "execution run is unavailable")

/-- `record_execution_authorization(consume_permit)`; `none` is not callable. -/
def record_execution_authorization (ports : Ports m) (consume_permit : Option (m Unit)) : m Bool :=
  match consume_permit with
  | none => throw (journal_error .ExecutionAuthorizationJournalError "execution authorization"
      "decision is unavailable")
  | some consume_permit =>
    (authorization ports).behind (authorization_guards ports) ports consume_permit

/-- `ControlledPublicationJournalError("controlled publication journal: " + message)`. -/
def publication_error (message : String) : Exn :=
  journal_error .ControlledPublicationJournalError "controlled publication" message

/-- Its outcome-unknown variant. -/
def publication_unknown : Exn :=
  journal_error .ControlledPublicationOutcomeUnknownError "controlled publication" "outcome is unknown"

/-- The classes its outer `except` clause raises again. -/
def publication_kept : List ExnClass :=
  [.ControlledPublicationJournalError, .ControlledPublicationOutcomeUnknownError]

/-- The IDs of a local mock publication are those of its run. -/
def claimed_ids (ports : Ports m) : m (String × String × String) := do
  let self ← ports.self
  let claim_suffix := ((Sha256.hexdigest (utf8_bytes self.run_id)).take 32).toString
  return ("checkpoint-" ++ claim_suffix ++ "-publication",
    "invocation-" ++ claim_suffix ++ "-publication", "event-" ++ claim_suffix ++ "-publication")

/-- The call told that its own outcome is unknown. -/
def outcome_unknown (outcome : Except Exn α) : Bool :=
  match outcome with
  | .error e => e.is_any [.ControlledPublicationOutcomeUnknownError]
  | .ok _ => false

/-- The operation of `run_local_mock_publication`. -/
def local_mock_publication (ports : Ports m) : Operation m α α :=
  let tool := "ControlledPublication.local-mock"
  { labels := ⟨"tool_call", "tool_requested", "service-publication-observer",
      "controlled-publication", tool, "bounded local mock publication outcome"⟩
    ids := claimed_ids ports
    once := true
    reserved := true
    gate_failed := refuses (publication_error "pre-dispatch gate refused")
    terminal := fun outcome => pure
      (if outcome_unknown outcome then
        ⟨"outcome_unknown", ("decision_or_tool", text tool) :: status "unknown" none⟩
      else tool_outcome [("decision_or_tool", text tool)] "local-mock-publication-failed" outcome)
    unknown := publication_unknown
    unrecorded := fun _ e => throw e
    finish := fun outcome => if outcome_unknown outcome then throw publication_unknown
      else returns_or (journal_error .ControlledPublicationCallFailedError "controlled publication"
        "call failed") outcome
    kept := publication_kept
    unavailable := publication_error "gate unavailable" }

/-- Its guards, after `callable(dispatch)`. -/
def local_mock_publication_guards (ports : Ports m) (process_id : Arg String) : m Unit := do
  let self ← ports.self
  if process_id ≠ .of self.process_id then throw (publication_error "configuration unavailable")
  else do
    claim ports (·.controlled_publication_used)
      (fun self => { self with controlled_publication_used := true })
      (publication_error "configuration unavailable")
    require_last_event ports (publication_error "execution run is unavailable")

/-- `run_local_mock_publication(dispatch, process_id=..)`. -/
def run_local_mock_publication (ports : Ports m) (dispatch : Option (m α)) (process_id : Arg String) :
    m α :=
  match dispatch with
  | none => throw (publication_error "configuration unavailable")
  | some dispatch => (local_mock_publication ports).behind
      (local_mock_publication_guards ports process_id) ports dispatch

/-- `allowed_steps`. -/
def allowed_steps : List String :=
  ["GitHubReadiness.fetch", "RemoteExecutionPermit.issue", "ModelChannel.create_chat_completion",
    "WorkerProposal.validate", "SandboxSnapshot.validate-binding", "PreparedChange.apply-proposal",
    "PreparedChange.validate-binding", "Approval.validate", "SignedApproval.verify",
    "PolicyEngine.evaluate", "Gateway.authorize", "CredentialBroker.open-channel",
    "Publication.dispatch"]

/-- `is_tool`. -/
def is_tool (step : String) : Bool :=
  step = "GitHubReadiness.fetch" ∨ step = "ModelChannel.create_chat_completion" ∨
    step = "Publication.dispatch"

/-- The `expected_result` of a step. -/
def expected_result (step : String) : String :=
  match [("GitHubReadiness.fetch", "bounded readiness response metadata"),
    ("RemoteExecutionPermit.issue", "bounded readiness eligibility result"),
    ("ModelChannel.create_chat_completion", "bounded model-call outcome metadata"),
    ("WorkerProposal.validate", "bounded proposal acceptance decision"),
    ("SandboxSnapshot.validate-binding", "bounded sandbox snapshot binding decision"),
    ("PreparedChange.apply-proposal", "bounded proposal workspace-application decision"),
    ("PreparedChange.validate-binding", "bounded prepared-change binding decision")].lookup step with
  | some result => result
  | none => "bounded publication-gate outcome"

/-- The `error_code` of a step. -/
def step_error_code (step : String) : String :=
  match [("GitHubReadiness.fetch", "readiness-fetch-failed"),
    ("RemoteExecutionPermit.issue", "readiness-ineligible"),
    ("ModelChannel.create_chat_completion", "model-request-failed"),
    ("Publication.dispatch", "publication-dispatch-failed")].lookup step with
  | some code => code
  | none => "publication-gate-denied"

/-- How the terminal event of a step tells its outcome. -/
def step_terminal (step : String) (outcome : Except Exn α) : Terminal :=
  let tool := [("decision_or_tool", text step)]
  if is_tool step then
    if step = "Publication.dispatch" ∧ ¬ outcome.toBool then
      ⟨"outcome_unknown", tool ++ status "unknown" none⟩
    else tool_outcome tool (step_error_code step) outcome
  else ⟨"decision_applied", tool ++ if outcome.toBool then status "ok" none
    else status "denied" (some (step_error_code step))⟩

/-- The operation of `run_controlled_step`. It ends with the outcome: the
exception that the call raised is raised after the outer `except` clauses, which
let it through. -/
def controlled_step (ports : Ports m) (step : String) : Operation m α (Except Exn α) :=
  { labels := ⟨if is_tool step then "tool_call" else "decision",
      if is_tool step then "tool_requested" else "decision_proposed",
      if step = "ModelChannel.create_chat_completion" then "service-model-channel"
        else "service-publication-observer",
      "publication-" ++ str_replace step.toLower "." "-", step, expected_result step⟩
    ids := fresh_ids ports
    once := false
    reserved := false
    gate_failed := refuses (publication_error "pre-dispatch gate refused")
    terminal := fun outcome => return step_terminal step outcome
    unknown := publication_unknown
    unrecorded := fun _ e => throw e
    finish := fun outcome => return outcome
    kept := publication_kept
    unavailable := publication_error "gate unavailable" }

/-- Its guards, after the types of its arguments. -/
def controlled_step_guards (ports : Ports m) (step : String) (process_id : Arg String) : m Unit := do
  let self ← ports.self
  if step ∉ allowed_steps ∨ process_id ≠ .of self.process_id then
    throw (publication_error "configuration unavailable")
  else do
    claim ports (fun self => self.controlled_steps_used.contains step)
      (fun self => { self with controlled_steps_used := step :: self.controlled_steps_used })
      (publication_error "configuration unavailable")
    require_last_event ports (publication_error "execution run is unavailable")

/-- `run_controlled_step(step, dispatch, process_id=..)`. -/
def run_controlled_step (ports : Ports m) (step : Arg String) (dispatch : Option (m α))
    (process_id : Arg String) : m α :=
  match step, dispatch with
  | .of step, some dispatch => do
    let outcome ← (controlled_step ports step).behind (controlled_step_guards ports step process_id)
      ports dispatch
    lift outcome
  | _, _ => throw (publication_error "configuration unavailable")

/-- The operation of `propose`. `worker_outcome` is the outcome of a
`WorkerTerminalOutcome`. -/
def proposal (ports : Ports m) (worker_outcome : α → Option String) : Operation m α α :=
  { labels := ⟨"tool_call", "tool_requested", "service-worker", "worker-call", "ProposalWorker.propose",
      "bounded proposal metadata"⟩
    ids := fresh_ids ports
    once := false
    reserved := true
    gate_failed := refuses (worker_error "pre-dispatch gate refused")
    terminal := fun outcome =>
      let told := tool_outcome [] "worker-call-failed" outcome
      return match outcome with
      | .ok value => ⟨told.event_type, told.fields ++ ((worker_outcome value).map fun outcome =>
          ("safe_parameters", dict [("worker_outcome", text outcome)])).toList⟩
      | .error _ => told
    unknown := journal_error .WorkerOutcomeUnknownError "worker" "proposal outcome is unknown"
    unrecorded := fun _ e => throw e
    finish := returns_or (journal_error .WorkerProposalFailedError "worker" "proposal call failed")
    kept := [.WorkerOutcomeUnknownError, .WorkerProposalFailedError, .WorkerJournalError]
    unavailable := worker_error "gate unavailable" }

/-- Its guards. -/
def proposal_guards (ports : Ports m) (process_id task_id : Arg String) : m Unit := do
  claim ports (·.used) (fun self => { self with used := true })
    (worker_error "proposal attempt already used")
  let self ← ports.self
  if process_id ≠ .of self.process_id ∨ task_id ≠ .of self.task_id then
    throw (worker_error "request binding mismatch")
  else return ()

/-- `propose(worker_input)`: the IDs are those of the input, the call is
`self._worker.propose(worker_input)`. -/
def propose (ports : Ports m) (process_id task_id : Arg String) (worker_outcome : α → Option String)
    (call : m α) : m α :=
  (proposal ports worker_outcome).behind (proposal_guards ports process_id task_id) ports call

/-- `SnapshotJournalError("snapshot journal: " + message)`. -/
def snapshot_error (message : String) : Exn := journal_error .SnapshotJournalError "snapshot" message

/-- `allowed_tools`. -/
def snapshot_tools : List String :=
  ["GitHubSnapshot.GET.commit", "GitHubSnapshot.GET.tree", "GitHubSnapshot.GET.blob",
    "GitHubRawCommitObjectSource.read", "GitHubCodeloadArchive.GET.archive"]

/-- The operation of `_invoke_snapshot_source`. -/
def snapshot_source (ports : Ports m) (tool_name : String) : Operation m α α :=
  { labels := ⟨"tool_call", "tool_requested", "service-snapshot-intake", "snapshot-intake", tool_name,
      "bounded pinned snapshot source result"⟩
    ids := fresh_ids ports
    once := false
    reserved := false
    gate_failed := refuses (snapshot_error "pre-dispatch gate refused")
    terminal := fun outcome => return tool_outcome [] "snapshot-source-call-failed" outcome
    unknown := journal_error .SnapshotOutcomeUnknownError "snapshot" "source outcome is unknown"
    unrecorded := fun _ e => throw e
    finish := returns_or (journal_error .SnapshotCallFailedError "snapshot" "source call failed")
    kept := [.SnapshotOutcomeUnknownError, .SnapshotCallFailedError, .SnapshotJournalError]
    unavailable := snapshot_error "gate unavailable" }

/-- Its guards, after `callable(dispatch)`. -/
def snapshot_source_guards (ports : Ports m) (tool_name : String) : m Unit :=
  if tool_name ∉ snapshot_tools then throw (snapshot_error "configuration unavailable")
  else require_last_event ports (snapshot_error "execution run is unavailable")

/-- `_invoke_snapshot_source(tool_name=.., dispatch=..)`. -/
def invoke_snapshot_source (ports : Ports m) (tool_name : String) (dispatch : Option (m α)) : m α :=
  match dispatch with
  | none => throw (snapshot_error "configuration unavailable")
  | some dispatch => (snapshot_source ports tool_name).behind (snapshot_source_guards ports tool_name)
      ports dispatch

/-- The operations of a stage sink. -/
inductive StageOperation : Type
  | save
  | load
  deriving DecidableEq

/-- Its name. -/
def StageOperation.name : StageOperation → String
  | .save => "save"
  | .load => "load"

/-- `StageJournalError("stage journal: " + message)`. -/
def stage_error (message : String) : Exn := journal_error .StageJournalError "stage" message

/-- The operation of `_invoke_stage_operation`. -/
def stage_operation (ports : Ports m) (operation : StageOperation) : Operation m α α :=
  { labels := ⟨"tool_call", "tool_requested", "service-stage-store", "stage-" ++ operation.name,
      "StagedArtifactStore." ++ operation.name, "bounded stage operation metadata"⟩
    ids := fresh_ids ports
    once := false
    reserved := false
    gate_failed := refuses (stage_error "pre-dispatch gate refused")
    terminal := fun outcome => return tool_outcome [] "stage-call-failed" outcome
    unknown := journal_error .StageOutcomeUnknownError "stage" "operation outcome is unknown"
    unrecorded := fun _ e => throw e
    finish := returns_or (journal_error .StageCallFailedError "stage" "operation failed")
    kept := [.StageOutcomeUnknownError, .StageCallFailedError, .StageJournalError]
    unavailable := stage_error "gate unavailable" }

/-- `_invoke_stage_operation(sink, operation=.., value=..)`. -/
def invoke_stage_operation (ports : Ports m) (operation : StageOperation) (call : m α) : m α :=
  (stage_operation ports operation).behind
    (require_last_event ports (stage_error "execution run is unavailable")) ports call

/-- `VerifierJournalError("verifier journal: " + message)`. -/
def verifier_error (message : String) : Exn := journal_error .VerifierJournalError "verifier" message

/-- The operation of `_invoke_verifier`. -/
def verification (ports : Ports m) : Operation m α α :=
  { labels := ⟨"tool_call", "tool_requested", "service-independent-verifier", "verifier-call",
      "IndependentVerifier.verify", "bounded verifier verdict metadata"⟩
    ids := fresh_ids ports
    once := false
    reserved := false
    gate_failed := refuses (verifier_error "pre-dispatch gate refused")
    terminal := fun outcome => return tool_outcome [] "verifier-call-failed" outcome
    unknown := journal_error .VerifierOutcomeUnknownError "verifier" "outcome is unknown"
    unrecorded := fun _ e => throw e
    finish := returns_or (journal_error .VerifierCallFailedError "verifier" "call failed")
    kept := [.VerifierOutcomeUnknownError, .VerifierCallFailedError, .VerifierJournalError]
    unavailable := verifier_error "gate unavailable" }

/-- Its guards, around `callable(verify)`. -/
def verification_guards (ports : Ports m) (is_callable : Bool) : m Unit := do
  claim ports (·.verifier_used) (fun self => { self with verifier_used := true })
    (verifier_error "attempt already used")
  if is_callable then require_last_event ports (verifier_error "configuration unavailable")
  else throw (verifier_error "configuration unavailable")

/-- `_invoke_verifier(verifier, verifier_input)`; `none` where the verifier has
no callable `verify`. -/
def invoke_verifier (ports : Ports m) (verify : Option (m α)) : m α :=
  (verification ports).behind (verification_guards ports verify.isSome) ports
    (verify.getD (throw (verifier_error "configuration unavailable")))

/-! ## Sandboxes -/

/-- The purposes of a sandbox. -/
inductive Purpose : Type
  | target_tests
  | verifier_replay
  deriving DecidableEq

/-- Its name. -/
def Purpose.name : Purpose → String
  | .target_tests => "target-tests"
  | .verifier_replay => "verifier-replay"

/-- What a command gives, by what the journal reads of it with `getattr`: the
read raises, or gives a value of the type that is looked for, or another one. -/
structure CommandResult : Type where
  argv : Except Exn (Arg (List String))
  returncode : Except Exn (Arg ℤ)
  stdout : Except Exn (Arg String)
  deriving DecidableEq

/-- `_NUMERIC_FIELDS`. -/
def NUMERIC_FIELDS : List String := ["level", "correct", "wrong", "total", "time_ms"]

/-- `_INVALID_CASES`. -/
def INVALID_CASES : List (String × String) :=
  [("malformed", "bool"), ("malformed", "fractional"), ("malformed", "numeric-string"),
    ("sqlite-range", "above"), ("sqlite-range", "below")]

/-- `PINNED_HTTP_DB_FAILURE_CATEGORIES`. -/
def PINNED_HTTP_DB_FAILURE_CATEGORIES : List String :=
  INVALID_CASES.flatMap fun (category, case) => NUMERIC_FIELDS.flatMap fun field =>
    ["status", "no-write"].map fun phase =>
      category ++ "-" ++ phase ++ "-" ++ field ++ "-" ++ case

/-- `PINNED_HTTP_DB_FIXED_FAILURE_CODES`. -/
def PINNED_HTTP_DB_FIXED_FAILURE_CODES : List String :=
  ["readiness-exit", "readiness-timeout", "overflow-status", "overflow-no-write", "valid-status",
    "valid-body", "valid-row"]

/-- `PINNED_HTTP_DB_FAILURE_CODES`. -/
def PINNED_HTTP_DB_FAILURE_CODES : List String :=
  PINNED_HTTP_DB_FAILURE_CATEGORIES ++ PINNED_HTTP_DB_FIXED_FAILURE_CODES

/-- `_TARGET_TEST_FAILURE_PREFIX`. -/
def TARGET_TEST_FAILURE_PREFIX : String := "agent00x:test-failure:"

/-- The code in a marker line. -/
def marker_code (stdout : String) : Option String :=
  let chars := stdout.toList
  if chars.getLast? = some '\n' ∧ chars.count '\n' = 1 ∧
      TARGET_TEST_FAILURE_PREFIX.toList.isPrefixOf chars then
    let code := String.ofList ((chars.drop TARGET_TEST_FAILURE_PREFIX.length).dropLast)
    if code ∈ PINNED_HTTP_DB_FAILURE_CODES then some code else none
  else none

/-- `_safe_target_test_failure_code(result, purpose=.., argv=..)`; `pinned` is
`PINNED_HTTP_DB_TEST_COMMAND`, `argv` a tuple or list of strings. -/
def safe_target_test_failure_code (pinned : List String) (result : CommandResult) (purpose : Purpose)
    (argv : Arg (List String)) : Option String :=
  if purpose = .target_tests ∧ argv = .of pinned then
    match result.argv, result.returncode, result.stdout with
    | .ok (.of command), .ok (.of returncode), .ok (.of stdout) =>
      if command = pinned ∧ returncode = 1 then marker_code stdout else none
    | _, _, _ => none
  else none

/-- `SandboxJournalError("sandbox journal: " + message)`. -/
def sandbox_error (message : String) : Exn := journal_error .SandboxJournalError "sandbox" message

/-- `SandboxCallFailedError("sandbox journal: " + message)`. -/
def sandbox_failed (message : String) : Exn :=
  journal_error .SandboxCallFailedError "sandbox" message

/-- `SandboxOutcomeUnknownError("sandbox journal: " + message)`. -/
def sandbox_unknown (message : String) : Exn :=
  journal_error .SandboxOutcomeUnknownError "sandbox" message

/-- The guards of the sandbox operations, after `callable`. -/
def sandbox_guards (ports : Ports m) : m Unit :=
  require_last_event ports (sandbox_error "execution run is unavailable")

/-- The classes the outer `except` clauses of the sandbox operations raise again. -/
def sandbox_kept : List ExnClass :=
  [.SandboxOutcomeUnknownError, .SandboxCallFailedError, .SandboxJournalError]

/-- The parameters of a command's terminal event. -/
def safe_parameters (returncode : Arg ℤ) (failure_code : Option String) : List (String × Json) :=
  let parameters := (match returncode with
    | .of code => if -255 ≤ code ∧ code ≤ 255 then [("sandbox_return_code", Json.int code)] else []
    | .other => []) ++
    (failure_code.map fun code => ("sandbox_failure_code", text code)).toList
  if parameters.isEmpty then [] else [("safe_parameters", dict parameters)]

/-- How the terminal event of a command tells its outcome. -/
def command_terminal (pinned : List String) (purpose : Purpose) (argv : Arg (List String)) :
    Except Exn CommandResult → Except Exn Terminal
  | .error _ => .ok ⟨"tool_failed", status "failed" (some "sandbox-call-failed")⟩
  | .ok result => do
    let returncode ← result.returncode
    let parameters := safe_parameters returncode
      (safe_target_test_failure_code pinned result purpose argv)
    return if returncode = .of 0 then ⟨"tool_completed", status "ok" none ++ parameters⟩
      else ⟨"tool_failed", status "failed" (some "sandbox-command-nonzero") ++ parameters⟩

/-- The operation of `_invoke_sandbox_run`. -/
def sandbox_run (ports : Ports m) (pinned : List String) (purpose : Purpose)
    (argv : Arg (List String)) : Operation m CommandResult CommandResult :=
  { labels := ⟨"tool_call", "tool_requested", "service-sandbox", purpose.name,
      "SandboxSession.run." ++ purpose.name, "bounded sandbox command metadata"⟩
    ids := fresh_ids ports
    once := false
    reserved := false
    gate_failed := refuses (sandbox_error "pre-dispatch gate refused")
    terminal := fun outcome => lift (command_terminal pinned purpose argv outcome)
    unknown := sandbox_unknown "command outcome is unknown"
    unrecorded := fun _ e => throw e
    finish := returns_or (sandbox_failed "command failed")
    kept := sandbox_kept
    unavailable := sandbox_error "gate unavailable" }

/-- `_invoke_sandbox_run(session, purpose=.., argv=.., timeout_seconds=..)`: the
call is `session.run(argv, timeout_seconds=timeout_seconds)`. -/
def invoke_sandbox_run (ports : Ports m) (pinned : List String) (purpose : Purpose)
    (argv : Arg (List String)) (call : m CommandResult) : m CommandResult :=
  (sandbox_run ports pinned purpose argv).behind (sandbox_guards ports) ports call

/-- A sandbox session, by what the journal reads of it: its `close`, where it is
callable. -/
structure SandboxSession (m : Type → Type) : Type where
  close : Option (m Unit)

/-- `SandboxBackend.create` and `SandboxSession.close` in the tool labels. -/
def lifecycle_tool (operation : String) (purpose : Purpose) : String :=
  (if operation = "create" then "SandboxBackend.create." else "SandboxSession.close.") ++
    match purpose with
    | .target_tests => "target-execution"
    | .verifier_replay => "verifier-replay"

/-- The labels of a lifecycle operation. -/
def lifecycle_labels (operation : String) (purpose : Purpose) : Labels :=
  ⟨"tool_call", "tool_requested", "service-sandbox-lifecycle", purpose.name ++ "-" ++ operation,
    lifecycle_tool operation purpose, "bounded sandbox lifecycle outcome"⟩

/-- The `close` of a session that was created but not recorded, its exceptions
passed over. -/
def discard (session : SandboxSession m) : m Unit :=
  match session.close with
  | some close => tryCatch close fun _ => return ()
  | none => return ()

/-- The operation `create` of `_invoke_sandbox_lifecycle`. -/
def sandbox_create (ports : Ports m) (purpose : Purpose) :
    Operation m (SandboxSession m) (SandboxSession m) :=
  { labels := lifecycle_labels "create" purpose
    ids := fresh_ids ports
    once := false
    reserved := false
    gate_failed := fun _ => throw (sandbox_error "lifecycle gate refused")
    terminal := fun outcome => return tool_outcome [] "sandbox-create-failed" outcome
    unknown := sandbox_unknown "lifecycle outcome is unknown"
    unrecorded := fun outcome e => match outcome with
      | .error _ => throw e
      | .ok session =>
        if e.is_any [.SandboxOutcomeUnknownError] then do
          discard session
          throw e
        else throw e
    finish := returns_or (sandbox_failed "lifecycle call failed")
    kept := sandbox_kept
    unavailable := sandbox_error "lifecycle gate unavailable" }

/-- The operation `close` of `_invoke_sandbox_lifecycle`: where the gate fails
the sandbox is closed without a record. -/
def sandbox_close (ports : Ports m) (purpose : Purpose) (close : m Unit) : Operation m Unit Unit :=
  { labels := lifecycle_labels "close" purpose
    ids := fresh_ids ports
    once := false
    reserved := false
    gate_failed := fun _ => do
      tryCatch close fun _ => throw (sandbox_failed "cleanup failed")
      throw (sandbox_unknown "cleanup outcome is unrecorded")
    terminal := fun outcome => return tool_outcome [] "sandbox-close-failed" outcome
    unknown := sandbox_unknown "lifecycle outcome is unknown"
    unrecorded := fun _ e => throw e
    finish := returns_or (sandbox_failed "lifecycle call failed")
    kept := sandbox_kept
    unavailable := sandbox_error "lifecycle gate unavailable" }

/-- `_invoke_sandbox_lifecycle(backend, operation="create", ..)`. -/
def invoke_sandbox_create (ports : Ports m) (purpose : Purpose)
    (create : Option (m (SandboxSession m))) : m (SandboxSession m) :=
  match create with
  | none => throw (sandbox_error "lifecycle call is unavailable")
  | some create => (sandbox_create ports purpose).behind (sandbox_guards ports) ports create

/-- `_invoke_sandbox_lifecycle(session, operation="close", ..)`. -/
def invoke_sandbox_close (ports : Ports m) (purpose : Purpose) (close : Option (m Unit)) : m Unit :=
  match close with
  | none => throw (sandbox_error "lifecycle call is unavailable")
  | some close => (sandbox_close ports purpose close).behind (sandbox_guards ports) ports close

end Generic

end AppContracts.ObserverRuntime
