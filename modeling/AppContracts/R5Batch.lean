/-
The preregistered batch: `run_first_five_r5_attempts` of
`run_r5_preregistered_batch.py` over an attempt ledger.

The runner lists the ledger once, decides from that listing what is left to do,
and then claims, executes and completes one attempt after the other. The ledger's
transactions and reads, the worker factory and the executor are the operations;
what the factory and the executor do is left open. A call may stop for good
between any two of them.
-/
import AppContracts.R5LedgerHistory
import AppContracts.Digests

set_option autoImplicit false

namespace AppContracts.R5Batch

open Interleave
open R5AttemptLedger (Db EventRow EventState is_attempt_id R5_EXECUTION_FAILURE_REASONS)

/-! ## Records -/

/-- `R5SelectedAttempt`, as far as it is compared. -/
structure R5SelectedAttempt : Type where
  attempt_id : String
  scenario_id : String
  arm_id : String
  repeat_ : ℕ
  casebook_digest : String
  source_digest : String
  context_digest : String
  input_digest : String
  deriving DecidableEq

/-- `R5AttemptRecord.state`. -/
inductive RecordState : Type
  | PENDING
  | CLAIMED
  | COMPLETED
  | UNKNOWN
  deriving DecidableEq

/-- `R5AttemptRecord`. -/
structure R5AttemptRecord : Type where
  attempt_id : String
  state : RecordState
  input_digest : Option String
  result_digest : Option String
  outcome : Option String
  reason_code : Option String
  deriving DecidableEq

/-- `R5BatchRecord`. -/
structure R5BatchRecord : Type where
  attempt_id : String
  state : RecordState
  input_digest : String
  result_digest : Option String
  outcome : Option String
  reason_code : Option String
  deriving DecidableEq

/-- The statuses of an `R5BatchResult`. -/
inductive BatchStatus : Type
  | complete
  | complete_with_failures
  | stopped_failed
  | stopped_unknown
  | stopped_preflight
  deriving DecidableEq

/-- `R5BatchResult`. -/
structure R5BatchResult : Type where
  status : BatchStatus
  records : List R5BatchRecord
  deriving DecidableEq

/-- `ExecutionStatus`. -/
inductive ExecutionStatus : Type
  | PREPARED
  | VERIFIED
  | FAILED
  deriving DecidableEq

/-- `ExecutionStatus.value`. -/
def ExecutionStatus.value : ExecutionStatus → String
  | PREPARED => "prepared"
  | VERIFIED => "verified"
  | FAILED => "failed"

/-- The fields of an `ExecutionResult` the runner reads. -/
structure ExecutionResult : Type where
  status : Arg ExecutionStatus
  patch_digest : Option (Arg PyStr)
  verification_digest : Option (Arg PyStr)
  verified_contents_digest : Option (Arg PyStr)
  staged_change_digest : Option (Arg PyStr)
  failure_code : Option (Arg PyStr)
  worker_terminal_outcome : Option (Arg PyStr)
  worker_terminal_reason_code : Json

/-- `R5ExecutionRecord`. -/
structure R5ExecutionRecord : Type where
  attempt_id : PyStr
  input_digest : PyStr
  result : ExecutionResult

/-- `R5BatchRunnerError("R5 batch runner: " + message)`. -/
def runner_error (message : String) : Exn := ⟨.R5BatchRunnerError, "R5 batch runner: " ++ message⟩

/-- A `ValueError` without a text. -/
def value_error : Exn := ⟨.ValueError, ""⟩

/-! ## Selection -/

/-- What the frozen casebook and the rendered contexts say of an attempt. -/
abbrev Schedule : Type := String → R5SelectedAttempt

/-- `EXPECTED_FIRST_FIVE`. -/
def EXPECTED_FIRST_FIVE : List String := ["R5-001", "R5-002", "R5-003", "R5-004", "R5-005"]

/-- `select_r5_attempts(attempt_ids)`. A caller whose fixtures are not the frozen
ones has no schedule. -/
def select_r5_attempts (schedule : Option Schedule) (attempt_ids : List String) :
    Except Exn (List R5SelectedAttempt) := do
  raise_if (¬ (1 ≤ attempt_ids.length ∧ attempt_ids.length ≤ 5)) value_error
  raise_if (∃ id ∈ attempt_ids, is_attempt_id id = false) value_error
  raise_if (¬ attempt_ids.Nodup) value_error
  match schedule with
  | none => .error value_error
  | some schedule => .ok (attempt_ids.map fun id => { schedule id with attempt_id := id })

/-! ## Results -/

/-- `_TERMINAL_OUTCOMES`: the ledger's outcome and reason, and the reason code
the worker must give. -/
def TERMINAL_OUTCOMES : List (PyStr × String × String × String) :=
  [(.text "clarification_required", "needs_input", "worker-clarification", "conflicting_requirements"),
    (.text "blocked", "blocked", "worker-blocked", "target_test_outcome_unknown"),
    (.text "denied", "denied", "worker-denied", "publication_not_authorized")]

/-- `_RESULT_REASON_CODES`. -/
def RESULT_REASON_CODES : List String :=
  ["none", "execution-failed", "worker-clarification", "worker-blocked", "worker-denied"] ++
    R5_EXECUTION_FAILURE_REASONS

/-- `_TERMINAL_OUTCOMES.get(outcome)`. -/
def terminal_outcome : Option (Arg PyStr) → Option (String × String × String)
  | some (.of outcome) => TERMINAL_OUTCOMES.lookup outcome
  | _ => none

/-- `_classify_result(record)`: the outcome and its reason code. -/
def classify_result (result : ExecutionResult) : Except Exn (String × String) :=
  let rejected := runner_error "result rejected"
  match result.status with
  | .other => .error rejected
  | .of .VERIFIED =>
    if result.worker_terminal_outcome ≠ none then .error rejected else .ok ("verified", "none")
  | .of _ =>
    match terminal_outcome result.worker_terminal_outcome with
    | some (outcome, reason_code, worker_reason) =>
      if result.worker_terminal_reason_code.text? ≠ some worker_reason then .error rejected
      else .ok (outcome, reason_code)
    | none =>
      if result.worker_terminal_outcome ≠ none then .error rejected
      else
        match result.failure_code with
        | some (.of (.text failure_code)) =>
          if failure_code ∈ R5_EXECUTION_FAILURE_REASONS then .ok ("failed", failure_code)
          else .ok ("failed", "execution-failed")
        | _ => .ok ("failed", "execution-failed")

/-- A digest of a result: `None`, or a canonical SHA-256. -/
def result_field (value : Option (Arg PyStr)) : Except Exn Json :=
  match value with
  | none => .ok .null
  | some (.of (.text text)) =>
    if R5AttemptLedger.is_digest text then .ok (.str (.text text))
    else .error (runner_error "result rejected")
  | _ => .error (runner_error "result rejected")

/-- The terminal outcome, once it is known to be none or a known text. -/
def outcome_field : Option (Arg PyStr) → Json
  | some (.of s) => .str s
  | _ => .null

/-- `_result_digest(record, reason_code=reason_code)`. -/
def result_digest (record : R5ExecutionRecord) (reason_code : String) : Except Exn String := do
  raise_if (reason_code ∉ RESULT_REASON_CODES) (runner_error "result rejected")
  let result := record.result
  let status ← match result.status with
    | .of status => .ok status.value
    | .other => .error (runner_error "result rejected")
  let patch_digest ← result_field result.patch_digest
  let verified_contents_digest ← result_field result.verified_contents_digest
  let verification_digest ← result_field result.verification_digest
  let staged_change_digest ← result_field result.staged_change_digest
  if result.worker_terminal_outcome ≠ none then
    match terminal_outcome result.worker_terminal_outcome with
    | none => .error (runner_error "result rejected")
    | some (_, _, worker_reason) =>
      raise_if (result.worker_terminal_reason_code.text? ≠ some worker_reason)
        (runner_error "result rejected")
  sha256_digest (.obj [(.text "attempt_id", .str record.attempt_id),
    (.text "input_digest", .str record.input_digest), (.text "status", .str (.text status)),
    (.text "reason_code", .str (.text reason_code)), (.text "patch_digest", patch_digest),
    (.text "verified_contents_digest", verified_contents_digest),
    (.text "verification_digest", verification_digest),
    (.text "staged_change_digest", staged_change_digest),
    (.text "worker_terminal_outcome", outcome_field result.worker_terminal_outcome),
    (.text "worker_terminal_reason_code", result.worker_terminal_reason_code)])

/-- `_batch_record(record)`. -/
def batch_record (record : R5AttemptRecord) : Except Exn R5BatchRecord :=
  match record.input_digest with
  | none => .error (runner_error "ledger record rejected")
  | some input_digest => .ok ⟨record.attempt_id, record.state, input_digest, record.result_digest,
      record.outcome, record.reason_code⟩

/-! ## Operations -/

/-- The operations of a batch. -/
inductive Op : Type
  | ledger (op : R5AttemptLedger.Op)
  | worker_factory (item : R5SelectedAttempt)
  | attempt_executor (item : R5SelectedAttempt) (worker : ℕ)

/-- What an executor raises: an `R5ExecutionError` with its reason code, or any
other exception. -/
inductive ExecutorFailure : Type
  | r5_execution_error (reason_code : Arg PyStr)
  | exception
  deriving DecidableEq

/-- The answers. A read of the ledger may fail. A worker is known by its identity;
the factory may also give an object that cannot propose. -/
abbrev Op.Res : Op → Type
  | .ledger op => Except Exn (R5AttemptLedger.Res op)
  | .worker_factory _ => Except Exn (Arg ℕ)
  | .attempt_executor _ _ => Except ExecutorFailure (Arg R5ExecutionRecord)

/-- The ledger's database, and the attempts the executor was invoked for. -/
structure World : Type where
  db : Db
  executed : List String
  deriving DecidableEq

/-- What an operation does. -/
inductive sem : Semantics Op Op.Res World
  | ledger (w : World) (op : R5AttemptLedger.Op) (r : R5AttemptLedger.Res op) (db : Db) :
    R5AttemptLedger.sem w.db op r db → sem w (.ledger op) (.ok r) { w with db := db }
  | read_failed (w : World) (op : R5AttemptLedger.Op) (e : Exn) :
    R5AttemptLedger.IsRead op → sem w (.ledger op) (.error e) w
  | worker_factory (w : World) (item : R5SelectedAttempt) (r : Except Exn (Arg ℕ)) :
    sem w (.worker_factory item) r w
  | attempt_executor (w : World) (item : R5SelectedAttempt) (worker : ℕ)
      (r : Except ExecutorFailure (Arg R5ExecutionRecord)) :
    sem w (.attempt_executor item worker) r { w with executed := w.executed ++ [item.attempt_id] }

/-- Code of the runner. -/
abbrev Program (α : Type) : Type := Prog Op Op.Res Exn α

/-- A method of the ledger, called by the runner. -/
def on_ledger {α : Type} : R5AttemptLedger.Program α → Program α
  | .ret a => .ret a
  | .raise e => .raise e
  | .call op next => .call (.ledger op) fun r => match r with
    | .ok r => on_ledger (next r)
    | .error e => .raise e

/-- The record of an attempt, from its last event. -/
def record_of (attempt_id : String) : Option EventRow → R5AttemptRecord
  | none => ⟨attempt_id, .PENDING, none, none, none, none⟩
  | some e =>
    let state := match e.state with
      | .CLAIMED => RecordState.CLAIMED
      | .COMPLETED => .COMPLETED
      | .UNKNOWN => .UNKNOWN
    ⟨attempt_id, state, some e.input_digest, e.result_digest, e.outcome, e.reason_code⟩

/-- `_read_record(connection, attempt_id)`. -/
def read_record (attempt_id : String) : R5AttemptLedger.Program R5AttemptRecord := do
  let found ← Prog.perform (R5AttemptLedger.Op.read_attempt attempt_id)
  Prog.lift (R5AttemptLedger.require found)
  let events ← Prog.perform (R5AttemptLedger.Op.read_events attempt_id)
  Prog.lift (R5AttemptLedger.require (events.getLast?.all R5AttemptLedger.valid_record))
  return record_of attempt_id events.getLast?

/-- Records one after the other. -/
def read_records : List String → R5AttemptLedger.Program (List R5AttemptRecord)
  | [] => pure []
  | id :: rest => do
    let record ← read_record id
    let records ← read_records rest
    return record :: records

/-- `ledger.records()`. -/
def records (closed : Bool) : Program (List R5AttemptRecord) := do
  Prog.lift (R5AttemptLedger.ensure_open closed)
  (on_ledger (do
    let ids ← Prog.perform R5AttemptLedger.Op.read_attempts
    read_records ids)).handle fun _ => .raise (R5AttemptLedger.ledger_error "records unavailable")

/-- `ledger.get(attempt_id)`. -/
def get (closed : Bool) (attempt_id : String) : Program R5AttemptRecord := do
  Prog.lift (R5AttemptLedger.ensure_open closed)
  (on_ledger (read_record attempt_id)).handle fun _ =>
    .raise (R5AttemptLedger.ledger_error "record unavailable")

/-! ## The runner -/

/-- The arguments of a call. -/
structure Call : Type where
  schedule : Option Schedule
  closed : Bool
  /-- Whether the collaborators have the methods the runner calls. -/
  collaborators : Bool
  selected_attempts : Option (Arg (List R5SelectedAttempt))
  continue_after_failed : Arg Bool

/-- The checks before the listing: the selection, and the opt-in. -/
def Call.selection (c : Call) : Except Exn (List R5SelectedAttempt × Bool) := do
  raise_if c.closed value_error
  let continue_after_failed ← match c.continue_after_failed with
    | .of b => .ok b
    | .other => .error value_error
  raise_if (continue_after_failed = true ∧ c.selected_attempts = none) value_error
  raise_if (c.collaborators = false) value_error
  let selected ← match c.selected_attempts with
    | none => select_r5_attempts c.schedule EXPECTED_FIRST_FIVE
    | some (.of selected) => .ok selected
    | some .other => .error value_error
  raise_if (¬ (1 ≤ selected.length ∧ selected.length ≤ 5)) value_error
  let expected ← select_r5_attempts c.schedule (selected.map R5SelectedAttempt.attempt_id)
  raise_if (selected ≠ expected) value_error
  return (selected, continue_after_failed)

/-- `{record.attempt_id: record for record in records}[attempt_id]`. -/
def find_record (records : List R5AttemptRecord) (attempt_id : String) : Option R5AttemptRecord :=
  records.reverse.find? fun record => record.attempt_id = attempt_id

/-- `prior.state == "PENDING" and prior.input_digest is None`. -/
def R5AttemptRecord.fresh (record : R5AttemptRecord) : Prop :=
  record.state = .PENDING ∧ record.input_digest = none

instance (record : R5AttemptRecord) : Decidable record.fresh :=
  inferInstanceAs (Decidable (_ ∧ _))

/-- What the review of the listing finds: the batch has already stopped, or it
may go on, and whether an attempt has failed. -/
inductive Review : Type
  | stopped (result : R5BatchResult)
  | go (saw_failure : Bool)

/-- The first loop: the state of every selected attempt. -/
def review (existing : List R5AttemptRecord) (continue_after_failed : Bool) :
    List R5SelectedAttempt → List R5BatchRecord → Bool → Except Exn Review
  | [], _, saw_failure => .ok (.go saw_failure)
  | item :: rest, output, saw_failure =>
    match find_record existing item.attempt_id with
    | none => .error value_error
    | some prior =>
      if prior.state = .COMPLETED then do
        raise_if (prior.input_digest ≠ some item.input_digest) value_error
        let record ← batch_record prior
        if prior.outcome = some "failed" then
          if continue_after_failed then
            review existing continue_after_failed rest (output ++ [record]) true
          else return .stopped ⟨.stopped_failed, output ++ [record]⟩
        else review existing continue_after_failed rest (output ++ [record]) saw_failure
      else if prior.state = .CLAIMED ∨ prior.state = .UNKNOWN then do
        let record ← batch_record prior
        return .stopped ⟨.stopped_unknown, output ++ [record]⟩
      else if prior.fresh then review existing continue_after_failed rest output saw_failure
      else .error value_error

/-- The second loop: every row and digest again. -/
def preflight (existing : List R5AttemptRecord) : List R5SelectedAttempt → Except Exn Unit
  | [] => .ok ()
  | item :: rest =>
    match find_record existing item.attempt_id with
    | none => .error value_error
    | some prior => do
      raise_if (prior.state = .PENDING ∧ prior.input_digest ≠ none) value_error
      raise_if (prior.state = .COMPLETED ∧ prior.input_digest ≠ some item.input_digest) value_error
      preflight existing rest

/-- What comes of an attempt after its claim. -/
inductive Attempt : Type
  | completed (record : R5BatchRecord) (outcome : String)
  | uncertain (record : R5BatchRecord)

/-- The `except` clause of an attempt: it is marked unknown if that still works. -/
def abandon (closed : Bool) (item : R5SelectedAttempt) (reason_code : Arg PyStr) : Program Attempt :=
  ((on_ledger (R5AttemptLedger.mark_unknown closed (.text item.attempt_id) reason_code none)).bind
    fun _ => (get closed item.attempt_id).bind fun unknown =>
      (Prog.lift (batch_record unknown)).bind fun record => .ret (.uncertain record)).handle
  fun _ => .ret (.uncertain ⟨item.attempt_id, .CLAIMED, item.input_digest, none, none, none⟩)

/-- The checks of an executor's record, and the completion of the attempt. -/
def complete_attempt (closed : Bool) (item : R5SelectedAttempt) (record : Arg R5ExecutionRecord) :
    Program Attempt :=
  match record with
  | .other => .raise value_error
  | .of record => do
    Prog.lift (raise_if (record.attempt_id ≠ .text item.attempt_id ∨
      record.input_digest ≠ .text item.input_digest) value_error)
    let (outcome, reason_code) ← Prog.lift (classify_result record.result)
    let digest ← Prog.lift (result_digest record reason_code)
    on_ledger (R5AttemptLedger.complete closed (.text item.attempt_id) (.of (.text digest))
      (.of (.text outcome)) (.of (.text reason_code)))
    return .completed ⟨item.attempt_id, .COMPLETED, item.input_digest, some digest, some outcome,
      some reason_code⟩ outcome

/-- The `try` of an attempt: execute it and complete it, or abandon it. -/
def execute_attempt (closed : Bool) (item : R5SelectedAttempt) (worker : ℕ) : Program Attempt := do
  let answer : Except ExecutorFailure (Arg R5ExecutionRecord) ←
    Prog.perform (Op.attempt_executor item worker)
  match answer with
  | .error (.r5_execution_error reason_code) => abandon closed item reason_code
  | .error .exception => abandon closed item (.of (.text "pipeline-error"))
  | .ok record =>
    (complete_attempt closed item record).handle fun _ =>
      abandon closed item (.of (.text "pipeline-error"))

/-- The third loop: the attempts that are left, one after the other. -/
def run_attempts (existing : List R5AttemptRecord) (closed continue_after_failed : Bool) :
    List R5SelectedAttempt → List R5BatchRecord → List ℕ → Bool → Program R5BatchResult
  | [], output, _, saw_failure =>
    return ⟨if saw_failure then .complete_with_failures else .complete, output⟩
  | item :: rest, output, seen_workers, saw_failure =>
    match find_record existing item.attempt_id with
    | none => .raise value_error
    | some prior =>
      if prior.state = .COMPLETED then do
        let record ← Prog.lift (batch_record prior)
        run_attempts existing closed continue_after_failed rest (output ++ [record]) seen_workers
          saw_failure
      else do
        let answer : Except Exn (Arg ℕ) ← Prog.perform (Op.worker_factory item)
        match answer with
        | .ok (.of worker) =>
          -- a factory that gives the same worker twice stops the batch before the second claim
          if worker ∈ seen_workers then return ⟨.stopped_preflight, output⟩
          else do
            on_ledger (R5AttemptLedger.claim closed (.text item.attempt_id)
              (.of (.text item.input_digest)))
            let attempt ← execute_attempt closed item worker
            match attempt with
            | .uncertain record => return ⟨.stopped_unknown, output ++ [record]⟩
            | .completed record outcome =>
              if outcome = "failed" ∧ continue_after_failed = false then
                return ⟨.stopped_failed, output ++ [record]⟩
              else do
                -- the row is read once more, and what it says is not used
                let _ ← get closed item.attempt_id
                run_attempts existing closed continue_after_failed rest (output ++ [record])
                  (worker :: seen_workers) (saw_failure || outcome == "failed")
        | _ => return ⟨.stopped_preflight, output⟩

/-- The `try` of the runner. -/
def run_batch (c : Call) : Program R5BatchResult := do
  let (selected, continue_after_failed) ← Prog.lift c.selection
  let existing ← records c.closed
  Prog.lift (raise_if (∃ item ∈ selected, find_record existing item.attempt_id = none) value_error)
  let reviewed ← Prog.lift (review existing continue_after_failed selected [] false)
  match reviewed with
  | .stopped result => return result
  | .go saw_failure => do
    Prog.lift (preflight existing selected)
    run_attempts existing c.closed continue_after_failed selected [] [] saw_failure

/-- `run_first_five_r5_attempts(..)`: what is not a runner error becomes one. -/
def run_first_five_r5_attempts (c : Call) : Program R5BatchResult :=
  (run_batch c).handle fun e =>
    if e.cls = .R5BatchRunnerError then .raise e else .raise (runner_error "fixed batch rejected")

end AppContracts.R5Batch
