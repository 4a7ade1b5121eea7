/-
The durable publication journal of `publication.py`, and the publication that it
guards: `PublicationJournal`, `execute_publication` and `recover_publication`.

The database is the table of attempts. A method is a program over its
transactions and over the calls of the endpoint, which are separate steps.
`urlparse` is a parameter: nothing but a receipt's link is read with it.
-/
import AppContracts.PublicationSeed
import AppContracts.Validator

set_option autoImplicit false

namespace AppContracts.PublicationJournal

open Interleave PublicationSeed Validator

/-! ## The table -/

/-- The values of `status`. -/
inductive Status : Type
  | prepared
  | attempting
  | completed
  | reconciliation_required
  deriving DecidableEq

/-- The name of a status. -/
def Status.name : Status → String
  | .prepared => "prepared"
  | .attempting => "attempting"
  | .completed => "completed"
  | .reconciliation_required => "reconciliation_required"

/-- A row of `publication_attempts`; also a `PublicationRecord`. -/
structure PublicationRecord : Type where
  process_id : String
  idempotency_key : String
  request_digest : String
  repository_id : String
  base_branch : Option String
  status : Status
  pull_request_id : Option ℤ
  pull_request_url : Option String
  verified_files_digest : Option String
  verified_files_outcome : Option String
  verified_branch_commit_sha : Option String
  verified_files_observed_at : Option String
  deriving DecidableEq

/-- The database: the process is the primary key, and the key is unique. -/
structure Db : Type where
  rows : List PublicationRecord
  process_ids : (rows.map PublicationRecord.process_id).Nodup
  keys : (rows.map PublicationRecord.idempotency_key).Nodup

/-- `SELECT .. WHERE process_id = ?`. -/
def Db.row? (db : Db) (process_id : String) : Option PublicationRecord :=
  db.rows.find? fun row => row.process_id = process_id

/-- An update of the rows that keeps both keys. -/
def Db.update (db : Db) (f : PublicationRecord → PublicationRecord)
    (hid : ∀ row, (f row).process_id = row.process_id)
    (hkey : ∀ row, (f row).idempotency_key = row.idempotency_key) : Db where
  rows := db.rows.map f
  process_ids := by
    rw [List.map_map]
    exact (List.map_congr_left fun row _ => hid row) ▸ db.process_ids
  keys := by
    rw [List.map_map]
    exact (List.map_congr_left fun row _ => hkey row) ▸ db.keys

/-- The row of an update, where its status is the expected one. -/
def where_status (process_id : String) (expected : Status)
    (f : PublicationRecord → PublicationRecord) (row : PublicationRecord) : PublicationRecord :=
  if row.process_id = process_id ∧ row.status = expected then f row else row

/-- The number of rows that an update finds. -/
def Db.count (db : Db) (process_id : String) (expected : Status) : ℕ :=
  db.rows.countP fun row => row.process_id = process_id ∧ row.status = expected

/-- `UPDATE publication_attempts SET status = ? WHERE process_id = ? AND status = ?`. -/
def Db.set_status (db : Db) (process_id : String) (expected target : Status) : ℕ × Db :=
  (db.count process_id expected,
    db.update (where_status process_id expected fun row => { row with status := target })
      (fun row => by unfold where_status; split_ifs <;> rfl)
      (fun row => by unfold where_status; split_ifs <;> rfl))

/-- The update of `_mark_completed`. -/
def Db.complete (db : Db) (process_id : String) (pull_request_id : ℤ)
    (pull_request_url : Option String) (expected : Status) : ℕ × Db :=
  (db.count process_id expected,
    db.update (where_status process_id expected fun row =>
        { row with
          status := .completed, pull_request_id := some pull_request_id,
          pull_request_url := pull_request_url })
      (fun row => by unfold where_status; split_ifs <;> rfl)
      (fun row => by unfold where_status; split_ifs <;> rfl))

/-- `INSERT INTO publication_attempts`; `none` is an `IntegrityError`. -/
def Db.insert (db : Db) (row : PublicationRecord) : Option Db :=
  if h : row.process_id ∉ db.rows.map PublicationRecord.process_id ∧
      row.idempotency_key ∉ db.rows.map PublicationRecord.idempotency_key then
    some
      { rows := row :: db.rows
        process_ids := List.nodup_cons.mpr ⟨h.1, db.process_ids⟩
        keys := List.nodup_cons.mpr ⟨h.2, db.keys⟩ }
  else none

/-! ## Receipts -/

/-- A `GitHubPullRequest`, or a `MockPullRequest`, which has no link. The classes
do not check their fields. -/
structure PullRequest : Type where
  is_github : Bool
  pull_request_id : Json
  pull_request_url : Json
  repository_id : Json
  branch : Json
  staged_change_digest : Json
  idempotency_key : Json
  base_branch : Json

/-- What `_mark_completed` reads of `urlparse(url)`. -/
structure ParsedUrl : Type where
  scheme : String
  netloc : String
  has_username : Bool
  has_password : Bool
  fragment : String

/-- `urlparse`; `none` is a `ValueError`. -/
abbrev UrlParse : Type := PyStr → Option ParsedUrl

/-- The link of a receipt is one of a pull request page. -/
def is_receipt_url (urlparse : UrlParse) (receipt_url : Json) : Bool :=
  match receipt_url with
  | .str url => (urlparse url).any fun parsed =>
    parsed.scheme == "https" && parsed.netloc != "" && !parsed.has_username &&
      !parsed.has_password && parsed.fragment == ""
  | _ => false

/-- A string of at least one character. -/
def is_nonempty_str : Json → Bool
  | .str s => s != .text ""
  | _ => false

/-- `isinstance(value, bool)`. -/
def is_bool : Json → Bool
  | .bool _ => true
  | _ => false

/-! ## Programs -/

/-- The steps of a publication: the transactions of the journal, the calls of the
endpoint and the hook before them. -/
inductive Op : Type
  | select (process_id : String)
  | insert (row : PublicationRecord)
  | set_status (process_id : String) (expected target : Status)
  | complete (process_id : String) (pull_request_id : ℤ) (pull_request_url : Option String)
      (expected : Status)
  | before_publish
  | publish_pull_request (request : Json)
  | find_by_idempotency_key (idempotency_key repository_id base_branch : String)

/-- The answers of a step. -/
abbrev Op.Res : Op → Type
  | .select _ => Option PublicationRecord
  | .insert _ => Bool
  | .set_status _ _ _ => ℕ
  | .complete _ _ _ _ => ℕ
  | .before_publish => Except Exn Unit
  | .publish_pull_request _ => Except Exn (Arg PullRequest)
  | .find_by_idempotency_key _ _ _ => Except Exn (Option (Arg PullRequest))

/-- Code of the journal. -/
abbrev Program (α : Type) : Type := Prog Op Op.Res Exn α

/-- One step. -/
def step (op : Op) : Program op.Res := Prog.perform op

/-- A step that may raise. -/
def attempt {α : Type} (p : Program (Except Exn α)) : Program α := do
  let answer ← p
  Prog.lift answer

/-- `ValueError(message)`. -/
def value_error (message : String) : Exn := ⟨.ValueError, message⟩

/-! ## The methods of the journal -/

/-- `get(process_id)`. -/
def get (process_id : Arg PyStr) : Program PublicationRecord := do
  let process_id ← Prog.lift (nonempty_str process_id (value_error "publication process ID is invalid"))
  let process_id ← Prog.lift (bind_text process_id)
  match ← step (.select process_id) with
  | some row => return row
  | none => throw ⟨.KeyError, process_id⟩

/-- One row is updated. -/
def updated_one (rowcount : ℕ) (expected : Status) : Except Exn Unit :=
  raise_if (rowcount ≠ 1) (value_error ("publication is not " ++ expected.name))

/-- `_set_status(process_id, expected, target)`. -/
def _set_status (process_id : Arg PyStr) (expected target : Status) : Program Unit := do
  let process_id ← Prog.lift (nonempty_str process_id (value_error "publication process ID is invalid"))
  let process_id ← Prog.lift (bind_text process_id)
  let rowcount ← step (.set_status process_id expected target)
  Prog.lift (updated_one rowcount expected)

/-- `mark_attempting(process_id)`. -/
def mark_attempting (process_id : Arg PyStr) : Program Unit := _set_status process_id .prepared .attempting

/-- `mark_reconciliation_required(process_id)`. -/
def mark_reconciliation_required (process_id : Arg PyStr) : Program Unit :=
  _set_status process_id .attempting .reconciliation_required

/-- The ID of a receipt. -/
def receipt_id (pull_request : PullRequest) : Except Exn ℤ :=
  match pull_request.pull_request_id with
  | .int n => if n < 1 then .error (value_error "publication receipt is invalid") else .ok n
  | _ => .error (value_error "publication receipt is invalid")

/-- `publication_idempotency_key` of a receipt's branch and digest; `quote` takes
no lone surrogate, and a digest with one is in no key. -/
def receipt_key (branch : PyStr) (base_branch : String) (digest : PyStr) :
    Except Exn (Option String) := do
  let branch ← bind_text branch
  return match digest with
    | .text digest => some (publication_idempotency_key branch base_branch digest)
    | .surrogates _ _ => none

/-- The receipt is that of the record. -/
def receipt_matches (record : PublicationRecord) (pull_request : PullRequest) : Except Exn Unit := do
  match pull_request.branch, pull_request.staged_change_digest with
  | .str branch, .str digest => do
    let expected_key ← receipt_key branch (record.base_branch.getD "") digest
    raise_if (expected_key ≠ some record.idempotency_key ∨
        py_eq pull_request.idempotency_key (.str (.text record.idempotency_key)) = false ∨
        py_eq pull_request.repository_id (.str (.text record.repository_id)) = false ∨
        ¬ ∃ base ∈ record.base_branch, py_eq pull_request.base_branch (.str (.text base)) = true)
      (value_error "publication receipt mismatch")
  | _, _ => .error (value_error "publication receipt is invalid")

/-- The checks of `_mark_completed` before its update: the ID and the link it
stores. A link that SQLite cannot bind fails with the update. -/
def check_receipt (urlparse : UrlParse) (record : PublicationRecord) (pull_request : Arg PullRequest) :
    Except Exn (ℤ × Option PyStr) :=
  match pull_request with
  | .other => .error (value_error "publication receipt is invalid")
  | .of pull_request => do
    let id ← receipt_id pull_request
    raise_if (is_nonempty_str pull_request.branch = false ∨
        is_nonempty_str pull_request.staged_change_digest = false)
      (value_error "publication receipt is invalid")
    raise_if (pull_request.is_github ∧ is_receipt_url urlparse pull_request.pull_request_url = false)
      (value_error "publication receipt is invalid")
    receipt_matches record pull_request
    return (id, match pull_request.is_github, pull_request.pull_request_url with
      | true, .str url => some url
      | _, _ => none)

/-- The parameters of the update: SQLite's integers have 64 bits. -/
def bind_receipt (id : ℤ) (url : Option PyStr) : Except Exn (Option String) := do
  raise_if (2 ^ 63 ≤ id) ⟨.OverflowError, "Python int too large to convert to SQLite INTEGER"⟩
  match url with
  | none => .ok none
  | some url => do
    let url ← bind_text url
    return some url

/-- `_mark_completed(process_id, pull_request, expected_status=..)`. -/
def _mark_completed (urlparse : UrlParse) (process_id : Arg PyStr) (pull_request : Arg PullRequest)
    (expected : Status) : Program Unit := do
  let record ← get process_id
  Prog.lift (raise_if (record.status ≠ expected) (value_error ("publication is not " ++ expected.name)))
  let (id, url) ← Prog.lift (check_receipt urlparse record pull_request)
  let url ← Prog.lift (bind_receipt id url)
  let rowcount ← step (.complete record.process_id id url expected)
  Prog.lift (updated_one rowcount expected)

/-- `mark_completed(process_id, pull_request)`. -/
def mark_completed (urlparse : UrlParse) (process_id : Arg PyStr) (pull_request : Arg PullRequest) :
    Program Unit := _mark_completed urlparse process_id pull_request .attempting

/-- `mark_completed_from_reconciliation(process_id, pull_request)`. -/
def mark_completed_from_reconciliation (urlparse : UrlParse) (process_id : Arg PyStr)
    (pull_request : Arg PullRequest) : Program Unit :=
  _mark_completed urlparse process_id pull_request .reconciliation_required

/-! ## Publication -/

/-- `boundary_fields`. -/
def boundary_fields : List String :=
  ["operation", "repository_id", "branch", "base_branch", "staged_change_digest", "idempotency_key",
    "policy_effect", "approval_valid"]

/-- The boundary fields that are strings. -/
def text_fields : List String :=
  ["operation", "repository_id", "branch", "base_branch", "staged_change_digest", "idempotency_key",
    "policy_effect"]

/-- `ContractValidationError("publication: " + message)`. -/
def boundary_error (message : String) : Exn := ⟨.ContractValidationError, "publication: " ++ message⟩

/-- The field is a string of at least one character. -/
def has_nonempty_str (request : Json) (field : String) : Bool := (request.get? field).any is_nonempty_str

/-- The checks of the request. -/
def check_request (request : Json) : Except Exn Unit := do
  raise_if (∃ field ∈ "process_id" :: boundary_fields, request.get? field = none)
    (boundary_error "request is malformed")
  raise_if (∃ field ∈ text_fields, has_nonempty_str request field = false)
    (boundary_error "request value is invalid")
  raise_if ((request.get? "approval_valid").any is_bool = false)
    (boundary_error "request value is invalid")
  raise_if (has_nonempty_str request "process_id" = false) (boundary_error "request value is invalid")

/-- A field of a checked request, as an argument. -/
def argument (request : Json) (field : String) : Arg PyStr :=
  match request.get? field with
  | some (.str s) => .of s
  | _ => .other

/-- `\x7bfield: request[field] for field in boundary_fields\x7d`. -/
def boundary (request : Json) : Json :=
  .obj (boundary_fields.filterMap fun field => (request.get? field).map fun v => (.text field, v))

/-- `if before_publish is not None: before_publish()`. -/
def run_hook (before_publish : Bool) : Program Unit :=
  if before_publish then attempt (step .before_publish) else return ()

/-- `execute_publication` after the row is attempting. -/
def dispatch_publication (urlparse : UrlParse) (record : PublicationRecord) (request : Json)
    (crash_after_external_effect before_publish : Bool) : Program (Arg PullRequest) := do
  run_hook before_publish
  let result ← attempt (step (.publish_pull_request (boundary request)))
  Prog.lift (raise_if (crash_after_external_effect = true)
    ⟨.SimulatedCrash, "crash after external effect before local receipt"⟩)
  mark_completed urlparse (.of (.text record.process_id)) result
  return result

/-- `execute_publication(journal, endpoint, request, ..)`. -/
def execute_publication (urlparse : UrlParse) (request : Json)
    (crash_after_external_effect before_publish : Bool) : Program (Arg PullRequest) := do
  Prog.lift (check_request request)
  let record ← get (argument request "process_id")
  Prog.lift (raise_if (record.status ≠ .prepared) (value_error "publication is not prepared"))
  mark_attempting (.of (.text record.process_id))
  dispatch_publication urlparse record request crash_after_external_effect before_publish

/-! ## One caller -/

/-- What is outside the journal: the endpoint and the hook. -/
structure Outside (ω : Type) : Type where
  before_publish : ω → Except Exn Unit × ω
  publish_pull_request : Json → ω → Except Exn (Arg PullRequest) × ω
  find_by_idempotency_key : String → String → String → ω →
    Except Exn (Option (Arg PullRequest)) × ω

/-- The journal, what is outside it, and the requests that the endpoint was asked
to publish. -/
structure World (ω : Type) : Type where
  db : Db
  outside : ω
  published : List Json

/-- The answer of a step. -/
def Outside.answer {ω : Type} (outside : Outside ω) : (op : Op) → World ω → op.Res × World ω
  | .select process_id, w => (w.db.row? process_id, w)
  | .insert row, w => ((w.db.insert row).isSome, { w with db := (w.db.insert row).getD w.db })
  | .set_status process_id expected target, w =>
    ((w.db.set_status process_id expected target).1,
      { w with db := (w.db.set_status process_id expected target).2 })
  | .complete process_id id url expected, w =>
    ((w.db.complete process_id id url expected).1,
      { w with db := (w.db.complete process_id id url expected).2 })
  | .before_publish, w =>
    ((outside.before_publish w.outside).1, { w with outside := (outside.before_publish w.outside).2 })
  | .publish_pull_request request, w =>
    ((outside.publish_pull_request request w.outside).1,
      { w with
        outside := (outside.publish_pull_request request w.outside).2
        published := w.published ++ [request] })
  | .find_by_idempotency_key key repository_id base_branch, w =>
    ((outside.find_by_idempotency_key key repository_id base_branch w.outside).1,
      { w with
        outside := (outside.find_by_idempotency_key key repository_id base_branch w.outside).2 })

end AppContracts.PublicationJournal
