/-
Append-only, no-repeat ledger for bounded attempts: `SQLiteR5AttemptLedger` of
`r5_attempt_ledger.py`.

Claiming, completing and extending are one `BEGIN IMMEDIATE` transaction each.
Reopening is a sequence of reads that checks the whole ledger against an
independently written definition of well-formedness,
`validate_existing_schema`. The `CHECK` constraint of `attempt_events` is part
of the model, and so are the fixed texts of outcomes and reasons.
-/
import AppContracts.Python

set_option autoImplicit false

namespace AppContracts.R5AttemptLedger

open Interleave

/-! ## Fixed texts -/

/-- `R5AttemptLedgerError(f"R5 attempt ledger: {message}")`. -/
def ledger_error (message : String) : Exn := ⟨.R5AttemptLedgerError, s!"R5 attempt ledger: {message}"⟩

/-- `_FIRST_FIVE`. -/
def FIRST_FIVE : List String := ["R5-001", "R5-002", "R5-003", "R5-004", "R5-005"]

/-- `_OUTCOMES`. -/
def OUTCOMES : List String := ["verified", "failed", "needs_input", "blocked", "denied"]

/-- `_UNKNOWN_PHASE_REASONS`. -/
def UNKNOWN_PHASE_REASONS : List String :=
  ["input-validation-error", "executor-uncaught-error", "result-validation-error",
    "executor-request-rejected", "executor-worker-rejected", "executor-sandbox-rejected",
    "executor-snapshot-rejected", "executor-preparation-rejected", "executor-verifier-rejected",
    "executor-stage-rejected", "executor-marker-unmapped", "executor-value-error",
    "executor-type-error", "executor-os-error", "executor-runtime-error", "executor-key-error",
    "executor-attribute-error", "executor-workspace-error", "executor-contract-invalid",
    "executor-test-result-malformed"]

/-- `_DETAIL_FIELDS` of `repository_process`. -/
def DETAIL_FIELDS : List String := ["level", "correct", "wrong", "total", "time_ms"]

/-- `_DETAIL_CASES` of `repository_process`. -/
def DETAIL_CASES : List (String × String) :=
  [("malformed", "bool"), ("malformed", "fractional"), ("malformed", "numeric-string"),
    ("sqlite-range", "above"), ("sqlite-range", "below")]

/-- `_DETAILED_TEST_FAILURE_CATEGORIES` of `repository_process`. -/
def DETAILED_TEST_FAILURE_CATEGORIES : List String :=
  DETAIL_CASES.flatMap fun c => DETAIL_FIELDS.flatMap fun field =>
    ["status", "no-write"].map fun phase => s!"{c.1}-{phase}-{field}-{c.2}"

/-- `_SAFE_TEST_FAILURE_CATEGORIES` of `repository_process`. -/
def SAFE_TEST_FAILURE_CATEGORIES : List String :=
  ["readiness-exit", "readiness-timeout", "malformed-status", "malformed-no-write",
    "overflow-status", "overflow-no-write", "sqlite-range-status", "sqlite-range-no-write",
    "valid-status", "valid-body", "valid-row"] ++ DETAILED_TEST_FAILURE_CATEGORIES

/-- `SAFE_TARGET_TEST_FAILURE_CODES` of `repository_process`. -/
def SAFE_TARGET_TEST_FAILURE_CODES : List String :=
  (SAFE_TEST_FAILURE_CATEGORIES ++ ["allowlisted-tests-failed"]).map fun c => s!"target-test-{c}"

/-- `R5_EXECUTION_FAILURE_REASONS`. -/
def R5_EXECUTION_FAILURE_REASONS : List String :=
  ["observation-gate-failed", "sandbox-command-failed", "sandbox-create-failed",
    "sandbox-observation-gate-failed", "sandbox-outcome-unknown", "stage-observation-gate-failed",
    "stage-operation-failed", "stage-outcome-unknown", "stage-persistence-failed",
    "verification-replay-failed", "verifier-attestation-invalid", "verifier-failed",
    "verifier-not-pass", "verifier-observation-gate-failed", "verifier-outcome-unknown",
    "verifier-trust-unestablished", "worker-failed", "worker-outcome-unknown",
    "worker-proposal-invalid", "target-tests-failed", "target-test-readiness-exit",
    "target-test-readiness-timeout", "target-test-overflow-status",
    "target-test-overflow-no-write", "target-test-valid-status", "target-test-valid-body",
    "target-test-valid-row"] ++ SAFE_TARGET_TEST_FAILURE_CODES

/-- `_REASONS`. -/
def REASONS : List String :=
  ["none", "execution-failed", "worker-clarification", "worker-blocked", "worker-denied",
    "worker-error", "pipeline-error", "interrupted", "result-unavailable"] ++
    R5_EXECUTION_FAILURE_REASONS ++ UNKNOWN_PHASE_REASONS

/-- `_UNKNOWN_REASONS`. -/
def UNKNOWN_REASONS : List String :=
  ["interrupted", "result-unavailable", "pipeline-error"] ++ UNKNOWN_PHASE_REASONS

/-- `_SCHEMA_VERSION`. -/
def SCHEMA_VERSION : ℕ := 1

/-! ## Identifiers and digests -/

/-- `_ATTEMPT_ID.fullmatch`: `R5-(?:00[1-9]|0[1-9][0-9]|100)`. -/
def is_attempt_id (id : String) : Bool :=
  match id.toList with
  | ['R', '5', '-', a, b, c] =>
    (a = '0' && b = '0' && c.isDigit && c ≠ '0') ||
      (a = '0' && b.isDigit && b ≠ '0' && c.isDigit) ||
      (a = '1' && b = '0' && c = '0')
  | _ => false

/-- `int(value[3:])`. -/
def attempt_number (id : String) : ℕ := Nat.ofDigitChars 10 (id.toList.drop 3) 0

/-- `_DIGEST.fullmatch`: `sha256:[0-9a-f]{64}`. -/
def is_digest (text : String) : Bool :=
  "sha256:".toList.isPrefixOf text.toList && text.toList.length = 71 &&
    (text.toList.drop 7).all fun c => c.isDigit || ('a' ≤ c && c ≤ 'f')

/-- `_validate_digest(value)`. -/
def validate_digest (value : Arg PyStr) : Except Exn String :=
  match value with
  | .of (.text text) => if is_digest text then .ok text else .error (ledger_error "digest rejected")
  | _ => .error (ledger_error "digest rejected")

/-- `sorted(values, key=lambda value: int(value[3:]))`. -/
def sort_by_number (ids : List String) : List String :=
  ids.insertionSort fun a b => attempt_number a ≤ attempt_number b

/-- The string attempt ID a list entry is, if it is one. -/
def attempt_id? : Json → Option String
  | .str (.text id) => if is_attempt_id id then some id else none
  | _ => none

/-- `_validate_attempt_ids(values)` of a tuple, `none` where it raises. -/
def validate_attempt_ids (values : List Json) : Option (List String) :=
  if values = [] ∨ 100 < values.length then none
  else
    match values.mapM attempt_id? with
    | none => none
    | some ids => if ids.Nodup ∧ ids = sort_by_number ids then some ids else none

/-- `tuple(value)` of a decoded JSON value, `none` for a `TypeError`. -/
def tuple_of_json : Json → Option (List Json)
  | .arr items => some items
  | .obj fields => some (fields.map fun f => .str f.1)
  | .str s => some (s.codes.map fun c => .str (PyStr.of_codes [c]))
  | _ => none

/-- `json.dumps(ids, separators=(",", ":"))`. -/
def dumps_ids (ids : List String) : String :=
  String.ofList (Json.print true (.arr (ids.map fun id => .str (.text id))))

/-- The attempt IDs a stored text lists: `_validate_attempt_ids(tuple(json.loads(text)))`. -/
def loads_ids (text : String) : Option (List String) := do
  validate_attempt_ids (← tuple_of_json (← Json.loads text))

/-! ## The tables -/

/-- The states the `CHECK` constraint of `attempt_events` lists. -/
inductive EventState : Type
  | CLAIMED
  | COMPLETED
  | UNKNOWN
  deriving DecidableEq

/-- A row of `attempt_events`. -/
structure EventRow : Type where
  event_id : ℕ
  attempt_id : String
  state : EventState
  input_digest : String
  result_digest : Option String
  outcome : Option String
  reason_code : Option String
  deriving DecidableEq

/-- The `CHECK` constraint of `attempt_events`. -/
def EventRow.check (e : EventRow) : Bool :=
  match e.state with
  | .CLAIMED => e.result_digest.isNone && e.outcome.isNone && e.reason_code.isNone
  | .COMPLETED => e.result_digest.isSome && e.outcome.isSome && e.reason_code.isSome
  | .UNKNOWN => e.outcome.isNone && e.reason_code.isSome

/-- The database: `PRAGMA user_version`, the row of `ledger_meta`, and the two
append-only tables. -/
structure Db : Type where
  user_version : ℕ
  schema_version : ℕ
  allowed_attempt_ids : String
  attempts : List String
  events : List EventRow
  deriving DecidableEq

/-- The ledger that `create` initializes. -/
def Db.created : Db := ⟨1, SCHEMA_VERSION, dumps_ids FIRST_FIVE, FIRST_FIVE, []⟩

/-- The events of one attempt, oldest first. -/
def Db.history (db : Db) (attempt_id : String) : List EventRow :=
  db.events.filter fun e => e.attempt_id = attempt_id

/-- `SELECT .. ORDER BY attempt_id`. -/
def sort_ids (ids : List String) : List String :=
  ids.insertionSort fun a b => (PyStr.text a).le (.text b)

/-! ## Transactions -/

/-- How a writing transaction ends: committed, rolled back because the row it
needs is not there, or rolled back by a database error. -/
inductive Outcome : Type
  | committed
  | unavailable
  | failed
  deriving DecidableEq

/-- What one transaction, or one read, does. -/
inductive Op : Type
  | claim (attempt_id input_digest : String)
  | transition (attempt_id : String) (state : EventState) (result_digest outcome : Option String)
      (reason_code : String)
  | extend (additions : List String)
  | read_user_version
  | read_meta
  | read_attempts
  | read_attempt (attempt_id : String)
  | read_events (attempt_id : String)
  deriving DecidableEq

/-- The answers of a transaction; an extension answers the list it stored. -/
abbrev Res : Op → Type
  | .claim _ _ => Outcome
  | .transition _ _ _ _ _ => Outcome
  | .extend _ => Option (List String)
  | .read_user_version => ℕ
  | .read_meta => ℕ × String
  | .read_attempts => List String
  | .read_attempt _ => Bool
  | .read_events _ => List EventRow

/-- `INSERT INTO attempt_events`, with its foreign key and its `CHECK`. -/
def Db.insert_event (db : Db) (e : EventRow) : Outcome × Db :=
  if e.attempt_id ∈ db.attempts ∧ e.check = true then
    (.committed, { db with events := db.events ++ [{ e with event_id := db.events.length + 1 }] })
  else (.failed, db)

/-- The transaction of `claim`. -/
def Db.claim (db : Db) (attempt_id input_digest : String) : Outcome × Db :=
  if attempt_id ∉ db.attempts ∨ (db.history attempt_id).getLast? ≠ none then (.unavailable, db)
  else db.insert_event ⟨0, attempt_id, .CLAIMED, input_digest, none, none, none⟩

/-- The transaction of `_transition`. -/
def Db.transition (db : Db) (attempt_id : String) (state : EventState)
    (result_digest outcome : Option String) (reason_code : String) : Outcome × Db :=
  match (db.history attempt_id).getLast? with
  | none => (.unavailable, db)
  | some last =>
    if last.state ≠ .CLAIMED then (.unavailable, db)
    else db.insert_event
      ⟨0, attempt_id, state, last.input_digest, result_digest, outcome, some reason_code⟩

/-- The checks of an extension against the stored list. -/
def extension_accepted (current additions attempts : List String) : Bool :=
  (∀ id ∈ additions, id ∉ current) &&
    additions = sort_by_number additions &&
    (match additions.head?, current.getLast? with
      | some first, some last => attempt_number last < attempt_number first
      | _, _ => false) &&
    (current ++ additions) = sort_by_number (current ++ additions) &&
    sort_ids attempts = sort_ids current

/-- The transaction of `extend_allowed_attempt_ids`, with the primary key of
`attempts`. -/
def Db.extend (db : Db) (additions : List String) : Option (List String) × Db :=
  match loads_ids db.allowed_attempt_ids with
  | none => (none, db)
  | some current =>
    if extension_accepted current additions db.attempts = true ∧
        (∀ id ∈ additions, id ∉ db.attempts) ∧ additions.Nodup then
      (some (current ++ additions), { db with
        attempts := db.attempts ++ additions
        allowed_attempt_ids := dumps_ids (current ++ additions) })
    else (none, db)

/-- The answer of a database that does not fail. -/
def answer : (op : Op) → Db → Res op × Db
  | .claim id digest, db => db.claim id digest
  | .transition id state digest outcome reason, db => db.transition id state digest outcome reason
  | .extend additions, db => db.extend additions
  | .read_user_version, db => (db.user_version, db)
  | .read_meta, db => ((db.schema_version, db.allowed_attempt_ids), db)
  | .read_attempts, db => (sort_ids db.attempts, db)
  | .read_attempt id, db => (decide (id ∈ db.attempts), db)
  | .read_events id, db => (db.history id, db)

/-- The answer of a writing transaction that a database error rolls back. -/
def failure : (op : Op) → Option (Res op)
  | .claim _ _ => some Outcome.failed
  | .transition _ _ _ _ _ => some Outcome.failed
  | .extend _ => some none
  | _ => none

/-- A transaction does its work or fails and changes nothing. -/
def sem : Semantics Op Res Db := fun db op r db' =>
  answer op db = (r, db') ∨ (failure op = some r ∧ db' = db)

theorem sem_answer (db : Db) (op : Op) : sem db op (answer op db).1 (answer op db).2 := .inl rfl

/-! ## The methods -/

/-- Code of the ledger. -/
abbrev Program (α : Type) : Type := Prog Op Res Exn α

/-- `_ensure_open`. -/
def ensure_open (closed : Bool) : Except Exn Unit :=
  if closed then .error (ledger_error "ledger is closed") else .ok ()

/-- An attempt ID as an SQL parameter; a parameter SQLite refuses fails the
transaction. -/
def bind_id (attempt_id : PyStr) (message : String) : Except Exn String :=
  match attempt_id with
  | .text id => .ok id
  | .surrogates _ _ => .error (ledger_error message)

/-- What the outcome of a transaction raises. -/
def outcome_error (name : String) : Outcome → Except Exn Unit
  | .committed => .ok ()
  | .unavailable => .error (ledger_error s!"{name} unavailable")
  | .failed => .error (ledger_error s!"{name} failed")

/-- `claim(attempt_id, input_digest)`. -/
def claim (closed : Bool) (attempt_id : PyStr) (input_digest : Arg PyStr) : Program Unit := do
  let digest ← Prog.lift (validate_digest input_digest)
  Prog.lift (ensure_open closed)
  let id ← Prog.lift (bind_id attempt_id "claim failed")
  let r ← Prog.perform (Op.claim id digest)
  Prog.lift (outcome_error "claim" r)

/-- `_transition(attempt_id, ..)`. -/
def transition (closed : Bool) (attempt_id : PyStr) (state : EventState)
    (result_digest outcome : Option String) (reason_code : String) : Program Unit := do
  Prog.lift (ensure_open closed)
  let id ← Prog.lift (bind_id attempt_id "transition failed")
  let r ← Prog.perform (Op.transition id state result_digest outcome reason_code)
  Prog.lift (outcome_error "transition" r)

/-- Membership of a fixed set of texts. -/
def one_of (texts : List String) (value : Arg PyStr) : Except Exn String :=
  match value with
  | .of (.text text) =>
    if text ∈ texts then .ok text else .error (ledger_error "result rejected")
  | _ => .error (ledger_error "result rejected")

/-- `complete(attempt_id, result_digest=.., outcome=.., reason_code=..)`. -/
def complete (closed : Bool) (attempt_id : PyStr) (result_digest outcome reason_code : Arg PyStr) :
    Program Unit := do
  let digest ← Prog.lift (validate_digest result_digest)
  let outcome ← Prog.lift (one_of OUTCOMES outcome)
  let reason ← Prog.lift (one_of REASONS reason_code)
  transition closed attempt_id .COMPLETED (some digest) (some outcome) reason

/-- The optional result digest of `mark_unknown`. -/
def optional_digest (result_digest : Option (Arg PyStr)) : Except Exn (Option String) :=
  match result_digest with
  | none => .ok none
  | some value => some <$> validate_digest value

/-- `mark_unknown(attempt_id, reason_code=.., result_digest=..)`. -/
def mark_unknown (closed : Bool) (attempt_id : PyStr) (reason_code : Arg PyStr)
    (result_digest : Option (Arg PyStr)) : Program Unit := do
  let reason ← Prog.lift (one_of UNKNOWN_REASONS reason_code)
  let digest ← Prog.lift (optional_digest result_digest)
  transition closed attempt_id .UNKNOWN digest none reason

/-- The additions `_validate_attempt_ids` accepts. -/
def check_additions (additional_ids : Arg (List Json)) : Except Exn (List String) :=
  match additional_ids with
  | .other => .error (ledger_error "attempt list rejected")
  | .of values =>
    match validate_attempt_ids values with
    | none => .error (ledger_error "attempt list rejected")
    | some ids => .ok ids

/-- What an extension's answer raises. -/
def extension_error (r : Option (List String)) : Except Exn Unit :=
  match r with
  | some _ => .ok ()
  | none => .error (ledger_error "extension rejected")

/-- `extend_allowed_attempt_ids(additional_ids)`. -/
def extend_allowed_attempt_ids (closed : Bool) (additional_ids : Arg (List Json)) :
    Program Unit := do
  let additions ← Prog.lift (check_additions additional_ids)
  Prog.lift (ensure_open closed)
  let r ← Prog.perform (Op.extend additions)
  Prog.lift (extension_error r)

/-! ## Reopening -/

/-- A check of the reopening validation; its `ValueError` carries no text. -/
def require (ok : Bool) : Except Exn Unit := if ok then .ok () else .error ⟨.ValueError, ""⟩

/-- The checks of `_read_record` on the last event. -/
def valid_record (e : EventRow) : Bool :=
  is_digest e.input_digest &&
    match e.state with
    | .CLAIMED => e.result_digest.isNone && e.outcome.isNone && e.reason_code.isNone
    | .COMPLETED => e.result_digest.any is_digest && e.outcome.any (· ∈ OUTCOMES) &&
        e.reason_code.any (· ∈ REASONS)
    | .UNKNOWN => e.result_digest.all is_digest && e.outcome.isNone &&
        e.reason_code.any (· ∈ UNKNOWN_REASONS)

/-- `_read_record(connection, attempt_id)`, as far as it can raise. -/
def read_record (attempt_id : String) : Program Unit := do
  let found ← Prog.perform (Op.read_attempt attempt_id)
  Prog.lift (require found)
  let events ← Prog.perform (Op.read_events attempt_id)
  Prog.lift (require (events.getLast?.all valid_record))

/-- The checks of `_validate_existing_schema` on the events of one attempt. -/
def valid_events : List EventRow → Bool
  | [] => true
  | [e] => e.state = .CLAIMED && is_digest e.input_digest &&
      (e.result_digest.isNone && e.outcome.isNone && e.reason_code.isNone)
  | [e, last] => e.state = .CLAIMED && is_digest e.input_digest &&
      (e.result_digest.isNone && e.outcome.isNone && e.reason_code.isNone) &&
      (e.input_digest = last.input_digest && (last.state = .COMPLETED || last.state = .UNKNOWN))
  | _ => false

/-- The loop of `_validate_existing_schema` over the attempts. A second event
and a claim that is still the last event are read as records too. -/
def validate_attempts : List String → Program Unit
  | [] => pure ()
  | id :: rest => do
    let events ← Prog.perform (Op.read_events id)
    Prog.lift (require (valid_events events))
    bif events.isEmpty then validate_attempts rest
    else do
      read_record id
      validate_attempts rest

/-- The attempt IDs of the metadata row. -/
def meta_ids (meta_row : ℕ × String) : Except Exn (List String) :=
  if meta_row.1 ≠ SCHEMA_VERSION then .error ⟨.ValueError, ""⟩
  else
    match loads_ids meta_row.2 with
    | none => .error ⟨.ValueError, ""⟩
    | some ids => .ok ids

/-- `set(actual) == set(validated)` and as many of them. -/
def same_ids (actual validated : List String) : Bool :=
  actual.all (· ∈ validated) && validated.all (· ∈ actual) && actual.length = validated.length

/-- `_validate_existing_schema(connection)`. -/
def validate_existing_schema : Program Unit := do
  let version ← Prog.perform Op.read_user_version
  Prog.lift (require (version = SCHEMA_VERSION))
  let meta_row ← Prog.perform Op.read_meta
  let validated ← Prog.lift (meta_ids meta_row)
  let actual ← Prog.perform Op.read_attempts
  Prog.lift (require (same_ids actual validated))
  validate_attempts validated

/-- `open_existing(path)` of a file that is there: whatever the validation
raises is one fixed error. -/
def open_existing : Program Unit :=
  tryCatch validate_existing_schema fun _ => throw (ledger_error "existing ledger rejected")

/-- The calls on a ledger. -/
inductive Call : Type
  | claim (closed : Bool) (attempt_id : PyStr) (input_digest : Arg PyStr)
  | complete (closed : Bool) (attempt_id : PyStr) (result_digest outcome reason_code : Arg PyStr)
  | mark_unknown (closed : Bool) (attempt_id : PyStr) (reason_code : Arg PyStr)
      (result_digest : Option (Arg PyStr))
  | extend_allowed_attempt_ids (closed : Bool) (additional_ids : Arg (List Json))
  | open_existing

/-- What a call runs. -/
def body : Call → Program Unit
  | .claim closed id digest => claim closed id digest
  | .complete closed id digest outcome reason => complete closed id digest outcome reason
  | .mark_unknown closed id reason digest => mark_unknown closed id reason digest
  | .extend_allowed_attempt_ids closed ids => extend_allowed_attempt_ids closed ids
  | .open_existing => open_existing

/-- What any number of connections can make of a new ledger. -/
abbrev Run (cfg : Config Call Op Res Exn Unit Db) : Prop := Reachable body sem Db.created cfg

end AppContracts.R5AttemptLedger
