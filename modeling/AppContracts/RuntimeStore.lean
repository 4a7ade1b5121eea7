/-
Durable SQLite process state and append-only transition audit:
`SQLiteProcessStore` of `runtime_store.py`.

The database is the three tables; a connection's method is a program over
transactions. `create` inserts a row and its first event in one transaction,
`advance` reads, checks and then updates the row and appends an event in one
transaction guarded by the version it read. A transaction may also fail with an
`OperationalError` and change nothing.
-/
import AppContracts.StateMachine

set_option autoImplicit false

namespace AppContracts.RuntimeStore

open Interleave StateMachine

/-! ## The tables -/

/-- A row of `processes`. -/
structure ProcessRow : Type where
  process_id : String
  state : String
  version : ℕ
  updated_at : String
  deriving DecidableEq

/-- A row of `process_events`. -/
structure EventRow : Type where
  event_id : ℕ
  process_id : String
  sequence : ℕ
  previous_state : Option String
  state : String
  evidence_json : String
  occurred_at : String
  deriving DecidableEq

/-- A row of `audit_events`. -/
structure AuditRow : Type where
  event_id : ℕ
  process_id : String
  actor_id : String
  event_type : String
  input_digest : String
  result : String
  reason_codes_json : String
  occurred_at : String
  deriving DecidableEq

/-- The database. The triggers forbid updates and deletes of events, so the
`AUTOINCREMENT` key of an event is one more than the number of events. -/
structure Db : Type where
  processes : List ProcessRow
  events : List EventRow
  audit : List AuditRow
  deriving DecidableEq

/-- A freshly created schema. -/
def Db.empty : Db := ⟨[], [], []⟩

/-- The events of one process, oldest first. -/
def Db.history (db : Db) (process_id : String) : List EventRow :=
  db.events.filter fun e => e.process_id = process_id

/-! ## Transactions -/

/-- The outcome of a writing transaction; all but `committed` roll it back.
`no_row` is an update whose `rowcount` is not one. -/
inductive TxnResult : Type
  | committed
  | no_row
  | integrity_error
  | operational_error
  deriving DecidableEq

/-- What one transaction does. -/
inductive Op : Type
  /-- `SELECT .. FROM processes WHERE process_id = ?`. -/
  | select_process (process_id : String)
  /-- The transaction of `create`. -/
  | insert_process (process_id timestamp : String)
  /-- The transaction of `advance`. -/
  | update_process (process_id : String) (expected_version : ℕ) (previous_state state : String)
      (evidence_json timestamp : String)
  /-- The transaction of `append_audit_event`. -/
  | insert_audit (row : AuditRow)
  deriving DecidableEq

/-- The answers of a transaction. -/
abbrev Res : Op → Type
  | .select_process _ => Option ProcessRow
  | .insert_process _ _ => TxnResult
  | .update_process _ _ _ _ _ _ => TxnResult
  | .insert_audit _ => TxnResult

/-- The events `create` and `advance` append. -/
def Db.next_event (db : Db) (process_id : String) (sequence : ℕ) (previous_state : Option String)
    (state evidence_json timestamp : String) : EventRow :=
  ⟨db.events.length + 1, process_id, sequence, previous_state, state, evidence_json, timestamp⟩

/-- `INSERT INTO processes` and its first event: both keys are unique. -/
def Db.insert_process (db : Db) (process_id timestamp : String) : TxnResult × Db :=
  if db.processes.any (fun r => r.process_id = process_id) ∨
      db.events.any (fun e => e.process_id = process_id ∧ e.sequence = 0) then
    (.integrity_error, db)
  else
    (.committed, { db with
      processes := db.processes ++
        [⟨process_id, ProcessState.received.value, 0, timestamp⟩]
      events := db.events ++
        [db.next_event process_id 0 none ProcessState.received.value "{}" timestamp] })

/-- `UPDATE processes .. WHERE process_id = ? AND version = ?` and the event of
the transition. -/
def Db.update_process (db : Db) (process_id : String) (expected_version : ℕ)
    (previous_state state evidence_json timestamp : String) : TxnResult × Db :=
  if db.processes.any (fun r => r.process_id = process_id ∧ r.version = expected_version) then
    if db.events.any
        (fun e => e.process_id = process_id ∧ e.sequence = expected_version + 1) then
      (.integrity_error, db)
    else
      (.committed, { db with
        processes := db.processes.map fun r =>
          if r.process_id = process_id ∧ r.version = expected_version then
            { r with state := state, version := expected_version + 1, updated_at := timestamp }
          else r
        events := db.events ++ [db.next_event process_id (expected_version + 1)
          (some previous_state) state evidence_json timestamp] })
  else (.no_row, db)

/-- `INSERT INTO audit_events`, with its foreign key. -/
def Db.insert_audit (db : Db) (row : AuditRow) : TxnResult × Db :=
  if db.processes.any (fun r => r.process_id = row.process_id) then
    (.committed, { db with audit := db.audit ++ [{ row with event_id := db.audit.length + 1 }] })
  else (.integrity_error, db)

/-- A writing transaction does its work or fails with an `OperationalError`. -/
def txn (work : Db → TxnResult × Db) (db : Db) (r : TxnResult) (db' : Db) : Prop :=
  work db = (r, db') ∨ (r = .operational_error ∧ db' = db)

/-- The transactions of the store. -/
def sem : Semantics Op Res Db
  | db, .select_process pid, r, db' =>
    r = db.processes.find? (fun row => row.process_id = pid) ∧ db' = db
  | db, .insert_process pid timestamp, r, db' =>
    txn (fun db => db.insert_process pid timestamp) db r db'
  | db, .update_process pid version previous state evidence timestamp, r, db' =>
    txn (fun db => db.update_process pid version previous state evidence timestamp) db r db'
  | db, .insert_audit row, r, db' => txn (fun db => db.insert_audit row) db r db'

/-- The answer of a database that is not busy. -/
def answer : (op : Op) → Db → Res op × Db
  | .select_process pid, db => (db.processes.find? (fun row => row.process_id = pid), db)
  | .insert_process pid timestamp, db => db.insert_process pid timestamp
  | .update_process pid version previous state evidence timestamp, db =>
    db.update_process pid version previous state evidence timestamp
  | .insert_audit row, db => db.insert_audit row

theorem sem_answer (db : Db) (op : Op) : sem db op (answer op db).1 (answer op db).2 := by
  cases op with
  | select_process pid => exact ⟨rfl, rfl⟩
  | insert_process pid timestamp => exact .inl rfl
  | update_process pid version previous state evidence timestamp => exact .inl rfl
  | insert_audit row => exact .inl rfl

/-! ## The methods -/

/-- `ProcessRecord`. -/
structure ProcessRecord : Type where
  process_id : String
  state : ProcessState
  version : ℕ
  updated_at : String
  deriving DecidableEq

/-- Code of the store. -/
abbrev Program (α : Type) : Type := Prog Op Res Exn α

/-- `ContractValidationError(message)`. -/
def contract_error (message : String) : Exn := ⟨.ContractValidationError, message⟩

/-- `_timestamp(value)`. -/
def timestamp : Moment → Except Exn String
  | .invalid => .error (contract_error "runtime: timestamp must be timezone-aware")
  | .out_of_range => .error ⟨.OverflowError, "date value out of range"⟩
  | .at isoformat => .ok (str_replace isoformat "+00:00" "Z")

/-- The process ID check, and the ID as an SQL parameter. -/
def process_key (process_id : Arg PyStr) : Except Exn String := do
  bind_text (← nonempty_str process_id (contract_error "runtime: process ID is invalid"))

/-- The row `get` read, decoded. -/
def decode_row (row : Option ProcessRow) : Except Exn ProcessRecord :=
  match row with
  | none => .error ⟨.ProcessNotFound, "process not found"⟩
  | some row =>
    match ProcessState.of_value row.state with
    | none => .error ⟨.ProcessStoreError, "runtime: stored state is corrupt"⟩
    | some state => .ok ⟨row.process_id, state, row.version, row.updated_at⟩

/-- `get(process_id)`. -/
def get (process_id : Arg PyStr) : Program ProcessRecord := do
  let pid ← Prog.lift (process_key process_id)
  let row ← Prog.perform (Op.select_process pid)
  Prog.lift (decode_row row)

/-- What a transaction's outcome raises. -/
def txn_error : TxnResult → Except Exn Unit
  | .committed => .ok ()
  | .no_row => .error ⟨.VersionConflict, "concurrent update"⟩
  | .integrity_error => .error ⟨.sqlite3_IntegrityError, "constraint failed"⟩
  | .operational_error => .error ⟨.sqlite3_OperationalError, "database is locked"⟩

/-- `except sqlite3.IntegrityError` of `create`. -/
def create_error (r : TxnResult) : Except Exn Unit :=
  match r with
  | .integrity_error => .error ⟨.ProcessStoreError, "process already exists"⟩
  | r => txn_error r

/-- `create(process_id, now=..)`. The ID is bound when the insert runs, after
the timestamp is computed. -/
def create (process_id : Arg PyStr) (now : Moment) : Program ProcessRecord := do
  let id ← Prog.lift (nonempty_str process_id (contract_error "runtime: process ID is invalid"))
  let at_time ← Prog.lift (timestamp now)
  let pid ← Prog.lift (bind_text id)
  let r ← Prog.perform (Op.insert_process pid at_time)
  Prog.lift (create_error r)
  get process_id

/-- The expected-version checks of `advance`. -/
def check_version (expected_version : Arg ℤ) (current : ℕ) : Except Exn ℕ :=
  match expected_version with
  | .other => .error ⟨.VersionConflict, "expected version is invalid"⟩
  | .of n =>
    if n < 0 then .error ⟨.VersionConflict, "expected version is invalid"⟩
    else if (current : ℤ) ≠ n then .error ⟨.VersionConflict, "version conflict"⟩
    else .ok n.toNat

/-- The evidence text of an event. -/
def evidence_json (evidence : Arg (Evidence (Arg Bool))) : Except Exn String :=
  match evidence with
  | .other => .error ⟨.TypeError, "not JSON serializable"⟩
  | .of raw =>
    match raw.dict.dumps true with
    | none => .error ⟨.TypeError, "not JSON serializable"⟩
    | some text => .ok text

/-- The largest integer SQLite stores. -/
def max_integer : ℕ := 2 ^ 63 - 1

/-- The new version as an SQL parameter. -/
def bind_version (version : ℕ) : Except Exn ℕ :=
  if version ≤ max_integer then .ok version
  else .error ⟨.OverflowError, "Python int too large to convert to SQLite INTEGER"⟩

/-- `advance(process_id, target, evidence, expected_version=.., now=..)`. -/
def advance (process_id : Arg PyStr) (target : Arg ProcessState)
    (evidence : Arg (Evidence (Arg Bool))) (expected_version : Arg ℤ) (now : Moment) :
    Program ProcessRecord := do
  let current ← get process_id
  let version ← Prog.lift (check_version expected_version current.version)
  let next_state ← Prog.lift (transition (.of current.state) target evidence)
  let at_time ← Prog.lift (timestamp now)
  let text ← Prog.lift (evidence_json evidence)
  let _ ← Prog.lift (bind_version (current.version + 1))
  let r ← Prog.perform (Op.update_process current.process_id version current.state.value
    next_state.value text at_time)
  Prog.lift (txn_error r)
  get process_id

/-- `_MAX_REASON_CODE_LENGTH`. -/
def MAX_REASON_CODE_LENGTH : ℕ := 128

/-- A reason code `_validate_reason_codes` accepts. -/
def valid_reason_code : Arg PyStr → Option PyStr
  | .of code =>
    if code.codes ≠ [] ∧ code.codes.length ≤ MAX_REASON_CODE_LENGTH then some code else none
  | .other => none

/-- `_validate_reason_codes(reason_codes)`, for a list, a tuple or another
object. -/
def validate_reason_codes (reason_codes : Arg (List (Arg PyStr))) : Except Exn (List PyStr) :=
  match reason_codes with
  | .other => .error (contract_error "audit: reason code is invalid")
  | .of codes =>
    match codes.mapM valid_reason_code with
    | none => .error (contract_error "audit: reason code is invalid")
    | some [] => .error (contract_error "audit: reason code is invalid")
    | some codes => .ok codes

/-- The arguments of `append_audit_event`. -/
structure AuditArgs : Type where
  actor_id : Arg PyStr
  event_type : Arg PyStr
  input_digest : Arg PyStr
  result : Arg PyStr
  reason_codes : Arg (List (Arg PyStr))
  now : Moment

/-- `json.dumps(reason_codes, separators=(",", ":"))`: every string is encoded. -/
def reason_codes_json (codes : List PyStr) : String :=
  String.ofList (Json.print true (.arr (codes.map .str)))

/-- The parameters of the audit insert, in the order they are computed and
bound. -/
def audit_row (pid : String) (actor_id event_type input_digest result : PyStr)
    (codes : List PyStr) (now : Moment) : Except Exn AuditRow := do
  let at_time ← timestamp now
  let actor_id ← bind_text actor_id
  let event_type ← bind_text event_type
  let input_digest ← bind_text input_digest
  let result ← bind_text result
  return ⟨0, pid, actor_id, event_type, input_digest, result, reason_codes_json codes, at_time⟩

/-- `append_audit_event(process_id, ..)`. -/
def append_audit_event (process_id : Arg PyStr) (args : AuditArgs) : Program Unit := do
  let bad := contract_error "audit: event field is invalid"
  let codes ← Prog.lift (validate_reason_codes args.reason_codes)
  let actor_id ← Prog.lift (nonempty_str args.actor_id bad)
  let event_type ← Prog.lift (nonempty_str args.event_type bad)
  let input_digest ← Prog.lift (nonempty_str args.input_digest bad)
  let result ← Prog.lift (nonempty_str args.result bad)
  let current ← get process_id
  let row ← Prog.lift (audit_row current.process_id actor_id event_type input_digest result codes
    args.now)
  let r ← Prog.perform (Op.insert_audit row)
  Prog.lift (txn_error r)

/-- The calls a connection serves. -/
inductive Call : Type
  | create (process_id : Arg PyStr) (now : Moment)
  | advance (process_id : Arg PyStr) (target : Arg ProcessState)
      (evidence : Arg (Evidence (Arg Bool))) (expected_version : Arg ℤ) (now : Moment)
  | append_audit_event (process_id : Arg PyStr) (args : AuditArgs)
  | get (process_id : Arg PyStr)

/-- What a call runs; only `append_audit_event` returns no record. -/
def body : Call → Program (Option ProcessRecord)
  | .create pid now => some <$> create pid now
  | .advance pid target evidence version now => some <$> advance pid target evidence version now
  | .append_audit_event pid args => (fun _ => none) <$> append_audit_event pid args
  | .get pid => some <$> get pid

/-- What any number of connections can make of a fresh database. -/
abbrev Run (cfg : Config Call Op Res Exn (Option ProcessRecord) Db) : Prop :=
  Reachable body sem Db.empty cfg

end AppContracts.RuntimeStore
