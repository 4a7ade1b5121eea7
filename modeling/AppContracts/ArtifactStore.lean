/-
Immutable content-addressed artifacts: `SQLiteObserverArtifactStore` of
`observer_artifact_store.py`.

The store is one table of canonical JSON objects, each under a reference made of its
own digest. A method is a program over statements, and every statement commits
alone: `put_json` looks a reference up and inserts it later, and the statements that
create the schema are four transactions, not one. A statement may fail and change
nothing.

Connections that only read are opened with `immutable=1`, which presumes that nobody
writes; they are run alone.
-/
import AppContracts.HistoryReport
import AppContracts.SimulationWorkspace

set_option autoImplicit false

namespace AppContracts.ArtifactStore

open Interleave SecretScan
open HistoryReport (ArtifactResolution)
open SimulationBranch (value_error type_is_dict manifest_match)

/-- `MAX_ARTIFACT_BYTES`. -/
def MAX_ARTIFACT_BYTES : ℕ := 1048576

/-- `MAX_DATABASE_BYTES`. -/
def MAX_DATABASE_BYTES : ℕ := 268435456

/-- `ObserverArtifactStoreError("observer artifact store: " + message)`. -/
def store_error (message : String) : Exn :=
  ⟨.ObserverArtifactStoreError, "observer artifact store: " ++ message⟩

/-- An `sqlite3.Error`. -/
def sqlite_error : Exn := ⟨.sqlite3_OperationalError, ""⟩

/-- `AssertionError()`. -/
def assertion_error : Exn := ⟨.Exception, "AssertionError"⟩

/-- `_ARTIFACT_REF.fullmatch(artifact_ref).group(1)`: the pattern of a workspace
manifest's reference is the same. -/
def artifact_match (artifact_ref : String) : Option String := manifest_match artifact_ref

/-! ## Contents -/

/-- `_JSON_CREDENTIAL_ASSIGNMENT`. -/
def JSON_CREDENTIAL_ASSIGNMENT : Regex := sequence [
  .lit "\"", choice (sequence [any_case "api", joint, any_case "key"])
    [sequence [any_case "access", joint, any_case "token"],
      sequence [any_case "auth", joint, any_case "token"], any_case "secret", any_case "password",
      any_case "passwd"],
  .lit "\"", .cls space 0 none, .lit ":", .cls space 0 none, .lit "\"",
  .cls ⟨[(0x22, 0x22), (0x0d, 0x0d), (0x0a, 0x0a)], true⟩ 8 none, .lit "\""]

/-- `_assert_safe_payload(payload)`. -/
def assert_safe_payload (payload : Bytes) : Except Exn Unit := do
  assert_no_credential_pattern_content [("artifact.json", payload)]
  raise_if (found_in JSON_CREDENTIAL_ASSIGNMENT payload = true)
    ⟨.CredentialLeakDetected, "credential-shaped content detected"⟩

/-- What `_canonical_payload` and `_validate_record` both ask of a content. -/
def check_content (content : Bytes) : Except Exn Unit := do
  let text ← or_raise value_error (decode_utf8 content)
  let decoded ← or_raise value_error (Json.loads text)
  raise_if (type_is_dict decoded = false) value_error
  let canonical ← canonical_json decoded
  raise_if (canonical ≠ octets content) value_error
  assert_safe_payload content

/-- A size that the store takes. -/
def size_ok (content : Bytes) : Bool :=
  decide (0 < content.length) && decide (content.length ≤ MAX_ARTIFACT_BYTES)

/-- The digest of a content. -/
def digest_of (content : Bytes) : String := sha256_bytes (octets content)

/-- `_canonical_payload(payload)`. -/
def canonical_payload : Arg Bytes → Except Exn (Bytes × String)
  | .other => .error (store_error "content rejected")
  | .of payload =>
    SimulationBranch.or_error (store_error "content rejected") do
      raise_if (size_ok payload = false) value_error
      check_content payload
      return (payload, digest_of payload)

/-- `f"artifact://sha256/{digest.removeprefix('sha256:')}"`. -/
def reference_of (digest : String) : String :=
  "artifact://sha256/" ++ String.ofList (digest.toList.drop "sha256:".length)

/-- The reference of a content. -/
def ref_of (content : Bytes) : String := reference_of (digest_of content)

/-- The evidence `put_json` returns of a content. -/
def resolution_of (content : Bytes) : ArtifactResolution :=
  ⟨ref_of content, digest_of content, content.length⟩

/-! ## Rows -/

/-- A row of `observer_artifacts`. -/
@[ext] structure Row : Type where
  artifact_ref : String
  content_digest : String
  content_json : Bytes
  content_bytes : ℕ
  classification : String
  redaction_status : String
  deriving DecidableEq

/-- `classification in {"public", "internal"}`. -/
def classification_ok (classification : String) : Bool :=
  classification == "public" || classification == "internal"

/-- `_validate_record(..)`: every cell of a row has the type of its column. -/
def validate_record (row : Row) : Except Exn ArtifactResolution := do
  let digits ← or_raise value_error (artifact_match row.artifact_ref)
  raise_if (row.content_digest ≠ "sha256:" ++ digits ∨
    row.content_bytes ≠ row.content_json.length ∨ size_ok row.content_json = false ∨
    classification_ok row.classification = false ∨ row.redaction_status ≠ "complete" ∨
    digest_of row.content_json ≠ row.content_digest) value_error
  check_content row.content_json
  return ⟨row.artifact_ref, row.content_digest, row.content_bytes⟩

/-- The loop of `_validate_persisted_rows`. -/
def validate_rows : List Row → Except Exn Unit
  | [] => .ok ()
  | row :: rest => do
    let _ ← validate_record row
    validate_rows rest

/-! ## The database -/

/-- `_TABLES`. -/
def TABLES : List String := ["observer_artifacts"]

/-- `_COLUMNS`. -/
def COLUMNS : List String := ["artifact_ref", "content_digest", "content_json", "content_bytes",
  "classification", "redaction_status"]

/-- The names of the triggers that forbid updates and deletions. -/
def TRIGGERS : List String := ["observer_artifacts_no_update", "observer_artifacts_no_delete"]

/-- `SCHEMA_VERSION`. -/
def SCHEMA_VERSION : ℕ := 1

/-- The database: the version pragma, the rows of the table if it has been created,
in the order they were inserted, and the triggers. -/
structure Db : Type where
  user_version : ℕ
  table : Option (List Row)
  triggers : List String
  deriving DecidableEq

namespace Db

/-- An empty file. -/
def fresh : Db := ⟨0, none, []⟩

/-- The rows there are. -/
def rows (db : Db) : List Row := db.table.getD []

/-- `INSERT INTO observer_artifacts ..`: the reference is the primary key. -/
def insert (db : Db) (row : Row) : Option Db :=
  match db.table with
  | none => none
  | some rows =>
    if rows.any fun r => r.artifact_ref = row.artifact_ref then none
    else some { db with table := some (rows ++ [row]) }

/-- `CREATE TABLE observer_artifacts ..`. -/
def create_table (db : Db) : Option Db :=
  match db.table with
  | none => some { db with table := some [] }
  | some _ => none

/-- `CREATE TRIGGER name BEFORE .. ON observer_artifacts ..`. -/
def create_trigger (db : Db) (name : String) : Option Db :=
  if db.table.isSome ∧ name ∉ db.triggers then some { db with triggers := db.triggers ++ [name] }
  else none

end Db

/-- What the file system says of the database file. -/
structure FileFacts : Type where
  is_symlink : Bool
  present : Bool
  is_file : Bool
  size : ℕ
  wal : Bool
  shm : Bool

/-- The statements, and what opening asks of the file system first. -/
inductive Op : Type
  | file
  | connect
  | user_version
  | tables
  | columns
  | triggers
  | create_table
  | create_trigger (name : String)
  | set_version (version : ℕ)
  | rows
  | find (artifact_ref : String)
  | insert (row : Row)

/-- The answers: `none` and `false` are an `sqlite3.Error`. -/
abbrev Res : Op → Type
  | .file => FileFacts
  | .connect => Bool
  | .user_version => Option ℕ
  | .tables => Option (List String)
  | .columns => Option (List String)
  | .triggers => Option (List String)
  | .create_table => Bool
  | .create_trigger _ => Bool
  | .set_version _ => Bool
  | .rows => Option (List Row)
  | .find _ => Option (Option Row)
  | .insert _ => Bool

/-- A write that is committed or refused. -/
def written (db : Db) : Option Db → Bool × Db
  | some db' => (true, db')
  | none => (false, db)

/-- The answer of a database that is not busy, in a file with these facts. -/
def answer (facts : FileFacts) : (op : Op) → Db → Res op × Db
  | .file, db => (facts, db)
  | .connect, db => (true, db)
  | .user_version, db => (some db.user_version, db)
  | .tables, db => (some (if db.table.isSome then TABLES else []), db)
  | .columns, db => (some (if db.table.isSome then COLUMNS else []), db)
  | .triggers, db => (some db.triggers, db)
  | .create_table, db => written db db.create_table
  | .create_trigger name, db => written db (db.create_trigger name)
  | .set_version version, db => (true, { db with user_version := version })
  | .rows, db =>
    (db.table.map fun rows => rows.insertionSort fun a b => a.artifact_ref ≤ b.artifact_ref, db)
  | .find artifact_ref, db =>
    (db.table.map fun rows => rows.find? fun row => row.artifact_ref = artifact_ref, db)
  | .insert row, db => written db (db.insert row)

/-- The answer of a statement that SQLite refuses, for instance because the database
is locked. -/
def refused : (op : Op) → Option (Res op)
  | .file => none
  | .connect => some false
  | .user_version => some none
  | .tables => some none
  | .columns => some none
  | .triggers => some none
  | .create_table => some false
  | .create_trigger _ => some false
  | .set_version _ => some false
  | .rows => some none
  | .find _ => some none
  | .insert _ => some false

/-- The statements do their work, or fail and change nothing. -/
def sem : Semantics Op Res Db := fun db op r db' =>
  (∃ facts, answer facts op db = (r, db')) ∨ (refused op = some r ∧ db' = db)

/-! ## Opening -/

/-- Code of the store. -/
abbrev Program (α : Type) : Type := Prog Op Res Exn α

/-- A statement that fails raises. -/
def committed (done : Bool) : Except Exn Unit := raise_if (done = false) sqlite_error

/-- What `__init__` asks of the file. -/
def check_file (read_only : Bool) (file : FileFacts) : Except Exn Unit := do
  raise_if (file.is_symlink = true) value_error
  if read_only then
    raise_if (file.present = false ∨ file.is_file = false ∨ MAX_DATABASE_BYTES < file.size ∨
      file.wal = true ∨ file.shm = true) value_error
  else
    raise_if (file.present = true ∧ (file.is_file = false ∨ MAX_DATABASE_BYTES < file.size)) value_error

/-- Comparison of sets of names. -/
def same_names (a b : List String) : Bool := a.all b.contains && b.all a.contains

/-- The statements that create the schema, each of them a transaction. -/
def create_schema : Program Unit := do
  let done ← Prog.perform Op.create_table
  Prog.lift (committed done)
  let done ← Prog.perform (Op.create_trigger "observer_artifacts_no_update")
  Prog.lift (committed done)
  let done ← Prog.perform (Op.create_trigger "observer_artifacts_no_delete")
  Prog.lift (committed done)
  let done ← Prog.perform (Op.set_version SCHEMA_VERSION)
  Prog.lift (committed done)

/-- The checks of a schema that is not new. -/
def check_schema (version : ℕ) (tables : List String) : Program Unit := do
  Prog.lift (raise_if (version ≠ SCHEMA_VERSION ∨ same_names tables TABLES = false) value_error)
  let answer ← Prog.perform Op.columns
  let columns ← Prog.lift (or_raise sqlite_error answer)
  Prog.lift (raise_if (same_names columns COLUMNS = false) value_error)
  let answer ← Prog.perform Op.triggers
  let triggers ← Prog.lift (or_raise sqlite_error answer)
  Prog.lift (raise_if (same_names triggers TRIGGERS = false) value_error)

/-- `_initialize_schema()`. -/
def initialize_schema (read_only : Bool) : Program Unit := do
  let answer ← Prog.perform Op.user_version
  let version ← Prog.lift (or_raise sqlite_error answer)
  let answer ← Prog.perform Op.tables
  let tables ← Prog.lift (or_raise sqlite_error answer)
  if version = 0 ∧ tables = [] ∧ read_only = false then create_schema
  else check_schema version tables

/-- `_validate_persisted_rows()`. -/
def validate_persisted_rows : Program Unit := do
  let answer ← Prog.perform Op.rows
  let rows ← Prog.lift (or_raise sqlite_error answer)
  Prog.lift (SimulationBranch.or_error value_error (validate_rows rows))

/-- `SQLiteObserverArtifactStore(path, read_only=read_only)`. -/
def open_store (read_only : Bool) : Program Unit :=
  tryCatch
    (do
      let file ← Prog.perform Op.file
      Prog.lift (check_file read_only file)
      let connected ← Prog.perform Op.connect
      Prog.lift (committed connected)
      initialize_schema read_only
      validate_persisted_rows)
    fun _ => Prog.raise (store_error "database unavailable")

/-! ## The methods -/

/-- What the methods read of an instance: `_read_only`, and whether `_connection` is
not `None`. -/
structure Connection : Type where
  read_only : Bool
  connected : Bool

/-- The policy of `put_json`: the classification and the redaction status it
accepts. -/
def write_policy (c : Connection) (classification redaction_status : Arg String) :
    Except Exn (String × String) :=
  match classification, redaction_status with
  | .of classification, .of redaction_status =>
    if c.read_only = true ∨ classification_ok classification = false ∨
        redaction_status ≠ "complete" then
      .error (store_error "write policy refused")
    else .ok (classification, redaction_status)
  | _, _ => .error (store_error "write policy refused")

/-- The row `put_json` inserts. -/
def row_of (content : Bytes) (classification redaction_status : String) : Row :=
  ⟨ref_of content, digest_of content, content, content.length, classification, redaction_status⟩

/-- What `put_json` does with a row that is there already. -/
def check_existing (existing : Row) (classification redaction_status : String) : Except Exn Unit := do
  let _ ← validate_record existing
  raise_if (existing.classification ≠ classification ∨ existing.redaction_status ≠ redaction_status)
    (store_error "write policy refused")

/-- `except ObserverArtifactStoreError: raise`, `except Exception: raise ..`. -/
def write_failure (e : Exn) : Exn :=
  if e.cls = .ObserverArtifactStoreError then e else store_error "write failed"

/-- The `try` of `put_json`. -/
def put_row (c : Connection) (row : Row) : Program Unit := do
  Prog.lift (raise_if (c.connected = false) assertion_error)
  let answer ← Prog.perform (Op.find row.artifact_ref)
  let existing ← Prog.lift (or_raise sqlite_error answer)
  match existing with
  | none => do
    let done ← Prog.perform (Op.insert row)
    Prog.lift (committed done)
  | some existing => Prog.lift (check_existing existing row.classification row.redaction_status)

/-- `put_json(payload, classification=.., redaction_status=..)`. -/
def put_json (c : Connection) (payload : Arg Bytes) (classification redaction_status : Arg String) :
    Program ArtifactResolution := do
  let (classification, redaction_status) ← Prog.lift (write_policy c classification redaction_status)
  let (encoded, _) ← Prog.lift (canonical_payload payload)
  tryCatch (put_row c (row_of encoded classification redaction_status))
    fun e => Prog.raise (write_failure e)
  return resolution_of encoded

/-- The reference of a read, with its digits. -/
def check_reference : Arg String → Except Exn (String × String)
  | .other => .error (store_error "reference unavailable")
  | .of artifact_ref => do
    let digits ← or_raise (store_error "reference unavailable") (artifact_match artifact_ref)
    return (artifact_ref, digits)

/-- The `try` of `read_json`. -/
def read_row (c : Connection) (artifact_ref : String) : Program Bytes := do
  Prog.lift (raise_if (c.connected = false) assertion_error)
  let answer ← Prog.perform (Op.find artifact_ref)
  let row ← Prog.lift (or_raise sqlite_error answer)
  let row ← Prog.lift (or_raise value_error row)
  let _ ← Prog.lift (validate_record row)
  return row.content_json

/-- `read_json(artifact_ref)`. -/
def read_json (c : Connection) (artifact_ref : Arg String) : Program Bytes := do
  let (artifact_ref, _) ← Prog.lift (check_reference artifact_ref)
  tryCatch (read_row c artifact_ref) fun _ => Prog.raise (store_error "reference unavailable")

/-- `resolve(artifact_ref)`. -/
def resolve (c : Connection) (artifact_ref : Arg String) : Program ArtifactResolution := do
  let content ← read_json c artifact_ref
  let (artifact_ref, digits) ← Prog.lift (check_reference artifact_ref)
  return ⟨artifact_ref, "sha256:" ++ digits, content.length⟩

/-! ## Calls -/

/-- The calls of a process that writes: it opens a store, or uses an instance that it
opened and may have closed. A `str` with a lone surrogate is refused as a value of
another type is. -/
inductive Call : Type
  | open_store
  | put_json (connected : Bool) (payload : Arg Bytes) (classification redaction_status : Arg String)
  | read_json (connected : Bool) (artifact_ref : Arg String)
  | resolve (connected : Bool) (artifact_ref : Arg String)

/-- What a call returns. -/
inductive Reply : Type
  | opened
  | stored (resolution : ArtifactResolution)
  | read (content : Bytes)
  | resolved (resolution : ArtifactResolution)

/-- What a call runs. -/
def body : Call → Program Reply
  | .open_store => (fun _ => .opened) <$> open_store false
  | .put_json connected payload classification redaction_status =>
    Reply.stored <$> put_json ⟨false, connected⟩ payload classification redaction_status
  | .read_json connected artifact_ref => Reply.read <$> read_json ⟨false, connected⟩ artifact_ref
  | .resolve connected artifact_ref => Reply.resolved <$> resolve ⟨false, connected⟩ artifact_ref

/-- What any number of processes can make of a file. -/
abbrev RunFrom (db : Db) (cfg : Config Call Op Res Exn Reply Db) : Prop := Reachable body sem db cfg

end AppContracts.ArtifactStore
