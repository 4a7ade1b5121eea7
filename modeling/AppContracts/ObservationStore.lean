/-
The append-only journal of observation events: `ObservationStore` and
`SQLiteObservationStore` of `observation_store.py`.

The in-memory store is a record of lists and digest tables. The durable store is
two tables; a method is a program over statements, each of which commits alone,
except that the writes of one transaction are one operation. A statement that
writes may fail and change nothing.

The checks of a checkpoint and of a result's causality are written twice in the
source, word for word; here they are functions of the event list.
-/
import AppContracts.Schemas
import AppContracts.Digests

set_option autoImplicit false

namespace AppContracts.ObservationStore

open Interleave Validator

/-! ## Reading documents -/

/-- `ContractValidationError(message)`. -/
def contract_error (message : String) : Exn := ⟨.ContractValidationError, message⟩

/-- `EventConflictError(message)`. -/
def conflict (message : String) : Exn := ⟨.EventConflictError, message⟩

/-- `ObservationStoreError("observation journal: " + message)`. -/
def store_error (message : String) : Exn :=
  ⟨.ObservationStoreError, "observation journal: " ++ message⟩

/-- `doc[key]`. -/
def item (doc : Json) (key : String) : Except Exn Json :=
  match doc.get? key with
  | some v => .ok v
  | none => .error ⟨.KeyError, key⟩

/-- `doc[key]`, used as a string. -/
def str_item (doc : Json) (key : String) : Except Exn PyStr :=
  match doc.get? key with
  | some (.str s) => .ok s
  | some _ => .error ⟨.TypeError, "unhashable type"⟩
  | none => .error ⟨.KeyError, key⟩

/-- `doc[key]`, bound as an SQL parameter. -/
def bound_item (doc : Json) (key : String) : Except Exn String := do
  bind_text (← str_item doc key)

/-- The first stored document whose `event_id` is `event_id`, with its position
from `position` on. -/
def find_event (event_id : Json) : List Json → ℕ → Except Exn (Option (ℕ × Json))
  | [], _ => .ok none
  | stored :: rest, position => do
    let id ← item stored "event_id"
    if py_eq id event_id then .ok (some (position, stored)) else find_event event_id rest (position + 1)

/-- `checkpoint["event_cursor"]`, an int. -/
def cursor_item (checkpoint : Json) : Except Exn ℤ := do
  match ← item checkpoint "event_cursor" with
  | .int n => .ok n
  | _ => .error ⟨.TypeError, "unorderable types"⟩

/-- The trigger of a checkpoint carries the same field. -/
def check_trigger_field (trigger_event checkpoint : Json) (field : String) : Except Exn Unit := do
  let a ← item trigger_event field
  let b ← item checkpoint field
  if py_eq a b then .ok () else .error (contract_error s!"checkpoint trigger {field} mismatch")

/-- What `check_checkpoint` checks before it looks at the journal. -/
def check_checkpoint_shape (checkpoint : Json) : Except Exn Unit :=
  if checkpoint.is_dict then validate checkpoint CHECKPOINT_SCHEMA
  else .error (contract_error "checkpoint is malformed")

/-- What `check_checkpoint` checks against the recorded events. -/
def check_trigger (events : List Json) (checkpoint : Json) : Except Exn ℤ := do
  let trigger ← item checkpoint "trigger_event_id"
  match ← find_event trigger events 0 with
  | none => .error (contract_error "unknown trigger event")
  | some (trigger_position, trigger_event) =>
    check_trigger_field trigger_event checkpoint "process_id"
    check_trigger_field trigger_event checkpoint "run_id"
    check_trigger_field trigger_event checkpoint "branch_id"
    let cursor ← cursor_item checkpoint
    if events.length ≤ cursor then
      .error (contract_error "checkpoint cursor is beyond journal end")
    else if cursor ≠ trigger_position then
      .error (contract_error "checkpoint cursor does not match trigger position")
    else .ok cursor

/-- `check_checkpoint(checkpoint)` on a list of recorded events. -/
def check_checkpoint (events : List Json) (checkpoint : Json) : Except Exn ℤ := do
  check_checkpoint_shape checkpoint
  check_trigger events checkpoint

/-- `_INTENT_EVENT_TYPES`. -/
def INTENT_EVENT_TYPES : List String := ["decision_proposed", "tool_requested"]

/-- `stored.get("event_type") in _INTENT_EVENT_TYPES`. -/
def is_intent (stored : Json) : Bool :=
  match stored.get? "event_type" with
  | some (.str (.text s)) => INTENT_EVENT_TYPES.contains s
  | _ => false

/-- `stored.get("invocation_id") == invocation_id`. -/
def has_invocation (stored invocation_id : Json) : Bool :=
  match stored.get? "invocation_id" with
  | some v => py_eq v invocation_id
  | none => false

/-- What the loop over the recorded events has seen: the positions of earlier
intents, an event that is no intent, and a later intent. -/
structure Seen : Type where
  preceding : List ℕ
  saw_non_intent : Bool
  saw_later_intent : Bool
  deriving DecidableEq

/-- The loop over the recorded events, for events that carry the invocation and
are not the result itself. -/
def scan_events (invocation_id event_id : Json) (own_position : Option ℕ) :
    List Json → ℕ → Seen → Except Exn Seen
  | [], _, seen => .ok seen
  | stored :: rest, position, seen => do
    let id ← item stored "event_id"
    let later := match own_position with
      | some own => decide (own ≤ position)
      | none => false
    scan_events invocation_id event_id own_position rest (position + 1)
      (if !has_invocation stored invocation_id || py_eq id event_id then seen
       else if !is_intent stored then { seen with saw_non_intent := true }
       else if later then { seen with saw_later_intent := true }
       else { seen with preceding := seen.preceding ++ [position] })

/-- What the loop's findings mean. -/
def causality (seen : Seen) : Except Exn ℕ :=
  match seen.preceding with
  | [position] => .ok position
  | _ :: _ :: _ => .error (contract_error "ambiguous invocation reference")
  | [] =>
    if seen.saw_later_intent then
      .error (contract_error "invocation reference is not preceding")
    else if seen.saw_non_intent then
      .error (contract_error "invocation reference is not an intent")
    else .error (contract_error "unknown invocation reference")

/-- The arguments' part of `check_result_causality`: the invocation the result
names. -/
def result_invocation (result_event : Json) : Except Exn Json := do
  validate result_event EVENT_SCHEMA
  match result_event.get? "invocation_id" with
  | some (.str s) =>
    if s = .text "" then .error (contract_error "result has no invocation reference")
    else .ok (.str s)
  | _ => .error (contract_error "result has no invocation reference")

/-- `check_result_causality(result_event)` against the recorded events. -/
def result_causality (events : List Json) (invocation_id result_event : Json) : Except Exn ℕ := do
  let event_id ← item result_event "event_id"
  let own ← find_event event_id events 0
  let seen ← scan_events invocation_id event_id (own.map Prod.fst) events 0 ⟨[], false, false⟩
  causality seen

/-! ## The in-memory store -/

/-- `_events` with `_digests`, or `_checkpoints` with `_checkpoint_digests`: the
documents in insertion order and their digests by ID. -/
structure Shelf : Type where
  docs : List Json
  digests : List (PyStr × String)

/-- `ObservationStore`. -/
structure Memory : Type where
  events : Shelf
  checkpoints : Shelf

/-- `_position(event_id)` and `_checkpoint_position(checkpoint_id)`: the index
of the first document with an ID, counted from `i` on. -/
def position (key : String) (id : PyStr) : List Json → ℕ → Except Exn ℕ
  | [], _ => .error ⟨.KeyError, show_str id⟩
  | stored :: rest, i => do
    let stored_id ← item stored key
    if py_eq stored_id (.str id) then .ok i else position key id rest (i + 1)

/-- The last lines of `append` and `record_checkpoint`: a known ID must come
with the known digest, a new one is appended. -/
def Shelf.record (shelf : Shelf) (doc : Json) (key : String) (id : PyStr) (digest message : String) :
    Except Exn ℕ × Shelf :=
  match shelf.digests.lookup id with
  | some known =>
    if known = digest then (position key id shelf.docs 0, shelf)
    else (.error (conflict message), shelf)
  | none => (.ok shelf.docs.length, ⟨shelf.docs ++ [doc], shelf.digests ++ [(id, digest)]⟩)

namespace Memory

/-- `ObservationStore()`. -/
def empty : Memory := ⟨⟨[], []⟩, ⟨[], []⟩⟩

/-- `append(event)`: the cursor, and the store after the call. -/
def append (event : Json) (store : Memory) : Except Exn ℕ × Memory :=
  let prepared : Except Exn (String × PyStr) := do
    validate event EVENT_SCHEMA
    let digest ← sha256_digest event
    let event_id ← str_item event "event_id"
    return (digest, event_id)
  match prepared with
  | .error e => (.error e, store)
  | .ok (digest, event_id) =>
    let (result, events) := store.events.record event "event_id" event_id digest "event id conflict"
    (result, { store with events := events })

/-- `record_checkpoint(checkpoint)`. -/
def record_checkpoint (checkpoint : Json) (store : Memory) : Except Exn ℕ × Memory :=
  let prepared : Except Exn (String × PyStr) := do
    let _ ← check_checkpoint store.events.docs checkpoint
    let digest ← sha256_digest checkpoint
    let checkpoint_id ← str_item checkpoint "checkpoint_id"
    return (digest, checkpoint_id)
  match prepared with
  | .error e => (.error e, store)
  | .ok (digest, checkpoint_id) =>
    let (result, checkpoints) := store.checkpoints.record checkpoint "checkpoint_id" checkpoint_id
      digest "checkpoint id conflict"
    (result, { store with checkpoints := checkpoints })

/-- `record_checkpoint_and_intent_once(checkpoint, intent_event)`: what the
first of its two writes did stays when the second fails. -/
def record_checkpoint_and_intent_once (checkpoint intent_event : Json) (store : Memory) :
    Except Exn ℕ × Memory :=
  let prepared : Except Exn PyStr := do
    validate intent_event EVENT_SCHEMA
    str_item intent_event "event_id"
  match prepared with
  | .error e => (.error e, store)
  | .ok event_id =>
    if (store.events.digests.lookup event_id).isSome then
      (.error (conflict "one-shot intent already recorded"), store)
    else
      match record_checkpoint checkpoint store with
      | (.error e, store) => (.error e, store)
      | (.ok _, store) => append intent_event store

/-- `check_result_causality(result_event)`. -/
def check_result_causality (result_event : Json) (store : Memory) : Except Exn ℕ := do
  let invocation_id ← result_invocation result_event
  result_causality store.events.docs invocation_id result_event

end Memory

/-! ## The tables -/

/-- A row of `observation_events` or `observation_checkpoints`: the ID, the
cursor, the JSON text and the digest. -/
structure Row : Type where
  id : String
  cursor : ℕ
  json : String
  digest : String
  deriving DecidableEq

/-- A table, its rows in the order they were inserted. -/
abbrev Table : Type := List Row

namespace Table

/-- `SELECT COALESCE(MAX(cursor) + 1, 0)`. -/
def next_cursor (table : Table) : ℕ := table.foldl (fun n row => max n (row.cursor + 1)) 0

/-- `SELECT .. ORDER BY cursor`. -/
def in_order (table : Table) : List Row := table.insertionSort (fun a b => a.cursor ≤ b.cursor)

/-- `SELECT cursor, digest .. WHERE id = ?`. -/
def find (table : Table) (id : String) : Option (ℕ × String) :=
  (table.find? fun row => row.id = id).map fun row => (row.cursor, row.digest)

/-- `INSERT INTO ..`: ID and cursor are unique. -/
def insert (table : Table) (row : Row) : Option Table :=
  if table.any fun r => r.id = row.id ∨ r.cursor = row.cursor then none else some (table ++ [row])

end Table

/-- The database. -/
structure Db : Type where
  events : Table
  checkpoints : Table
  deriving DecidableEq

/-- The names of the tables. -/
inductive TableName : Type
  | observation_events
  | observation_checkpoints
  deriving DecidableEq

namespace Db

/-- A freshly created schema. -/
def empty : Db := ⟨[], []⟩

/-- The table of a name. -/
def table (db : Db) : TableName → Table
  | .observation_events => db.events
  | .observation_checkpoints => db.checkpoints

/-- The database with another table under a name. -/
def set_table (db : Db) : TableName → Table → Db
  | .observation_events, table => { db with events := table }
  | .observation_checkpoints, table => { db with checkpoints := table }

end Db

/-- `json.loads` of every text. -/
def load_all : List String → Except Exn (List Json)
  | [] => .ok []
  | text :: rest =>
    match Json.loads text with
    | none => .error ⟨.ValueError, "JSONDecodeError"⟩
    | some doc => do
      let docs ← load_all rest
      return doc :: docs

/-- `json.dumps(doc, sort_keys=True, separators=(",", ":"))`. -/
def dump (doc : Json) : Except Exn String :=
  match doc.dumps true with
  | some text => .ok text
  | none => .error ⟨.ValueError, "not JSON serializable"⟩

/-! ## Transactions -/

/-- The values of an insert besides the cursor. -/
structure Parameters : Type where
  id : String
  json : String
  digest : String
  deriving DecidableEq

/-- The row of an insert at a cursor. -/
def Parameters.at_cursor (p : Parameters) (cursor : ℕ) : Row := ⟨p.id, cursor, p.json, p.digest⟩

namespace Db

/-- The insert of an intent event at the next cursor. -/
def insert_intent (db : Db) (intent : Parameters) : Option (ℕ × Db) :=
  let cursor := db.events.next_cursor
  (db.events.insert (intent.at_cursor cursor)).map fun events => (cursor, { db with events := events })

/-- The transaction of `record_checkpoint_and_intent` when neither record is
known: it begins with the insert of the checkpoint. -/
def insert_pair (db : Db) (checkpoint : Row) (intent : Parameters) : Option (ℕ × Db) :=
  (db.checkpoints.insert checkpoint).bind fun checkpoints =>
    insert_intent { db with checkpoints := checkpoints } intent

/-- The transaction of `record_checkpoint_and_intent_once`, from
`BEGIN IMMEDIATE` on. It raises, or gives the event's cursor and the database
to commit; `none` is an `sqlite3.Error`. -/
def insert_once (db : Db) (checkpoint : Json) (checkpoint_digest : String) (intent_event : Json)
    (intent_id intent_digest : String) : Except Exn (Option (ℕ × Db)) := do
  check_checkpoint_shape checkpoint
  let events ← load_all (db.events.in_order.map Row.json)
  let _ ← check_trigger events checkpoint
  if (db.events.find intent_id).isSome then
    .error (conflict "one-shot intent already recorded")
  else
    let checkpoint_id ← bound_item checkpoint "checkpoint_id"
    match db.checkpoints.find checkpoint_id with
    | some known =>
      if known.2 ≠ checkpoint_digest then .error (conflict "checkpoint id conflict")
      else
        let text ← dump intent_event
        .ok (db.insert_intent ⟨intent_id, text, intent_digest⟩)
    | none =>
      let checkpoint_text ← dump checkpoint
      let text ← dump intent_event
      .ok (db.insert_pair
        ⟨checkpoint_id, db.checkpoints.next_cursor, checkpoint_text, checkpoint_digest⟩
        ⟨intent_id, text, intent_digest⟩)

end Db

/-- The statements and transactions. -/
inductive Op : Type
  | rows (name : TableName)
  | find (name : TableName) (id : String)
  | next_cursor (name : TableName)
  | insert (name : TableName) (row : Row)
  | insert_pair (checkpoint : Row) (intent : Parameters)
  | insert_once (checkpoint : Json) (checkpoint_digest : String) (intent_event : Json)
      (intent_id intent_digest : String)

/-- The answers: an insert answers whether it was committed, a transaction with
the event's cursor. -/
abbrev Res : Op → Type
  | .rows _ => List Row
  | .find _ _ => Option (ℕ × String)
  | .next_cursor _ => ℕ
  | .insert _ _ => Bool
  | .insert_pair _ _ => Option ℕ
  | .insert_once _ _ _ _ _ => Except Exn (Option ℕ)

/-- The answer of a database that is not busy. -/
def answer : (op : Op) → Db → Res op × Db
  | .rows name, db => ((db.table name).in_order, db)
  | .find name id, db => ((db.table name).find id, db)
  | .next_cursor name, db => ((db.table name).next_cursor, db)
  | .insert name row, db =>
    match (db.table name).insert row with
    | some table => (true, db.set_table name table)
    | none => (false, db)
  | .insert_pair checkpoint intent, db =>
    match db.insert_pair checkpoint intent with
    | some (cursor, db') => (some cursor, db')
    | none => (none, db)
  | .insert_once checkpoint checkpoint_digest intent_event intent_id intent_digest, db =>
    match db.insert_once checkpoint checkpoint_digest intent_event intent_id intent_digest with
    | .ok (some (cursor, db')) => (.ok (some cursor), db')
    | .ok none => (.ok none, db)
    | .error e => (.error e, db)

/-- The answer of a write that SQLite refuses, for instance because the
database is locked. -/
def refused : (op : Op) → Option (Res op)
  | .insert _ _ => some false
  | .insert_pair _ _ => some none
  | .insert_once _ _ _ _ _ => some (.ok none)
  | _ => none

/-- The statements of the store: they do their work, or a write fails and
changes nothing. -/
def sem : Semantics Op Res Db := fun db op r db' =>
  answer op db = (r, db') ∨ (refused op = some r ∧ db' = db)

theorem sem_answer (db : Db) (op : Op) : sem db op (answer op db).1 (answer op db).2 := .inl rfl

/-! ## The methods of `SQLiteObservationStore` -/

/-- Code of the store. -/
abbrev Program (α : Type) : Type := Prog Op Res Exn α

/-- `events()` and `checkpoints()`. -/
def documents (name : TableName) : Program (List Json) := do
  let rows ← Prog.perform (Op.rows name)
  Prog.lift (load_all (rows.map Row.json))

/-- The digest of a checked document and its ID as an SQL parameter. -/
def prepare (doc : Json) (key : String) : Except Exn (String × String) := do
  let digest ← sha256_digest doc
  let id ← bound_item doc key
  return (digest, id)

/-- The `try` blocks of `append` and `record_checkpoint`: a known ID must come
with the known digest, a new one is inserted at the next cursor. -/
def store_record (name : TableName) (doc : Json) (id digest message failure : String) :
    Program ℕ := do
  let known ← Prog.perform (Op.find name id)
  match known with
  | some (cursor, known_digest) =>
    Prog.lift (if known_digest = digest then .ok cursor else .error (conflict message))
  | none => do
    let cursor ← Prog.perform (Op.next_cursor name)
    let text ← Prog.lift (dump doc)
    let stored ← Prog.perform (Op.insert name ⟨id, cursor, text, digest⟩)
    Prog.lift (bif stored then .ok cursor else .error (store_error failure))

/-- `append(event)`. -/
def append (event : Json) : Program ℕ := do
  Prog.lift (validate event EVENT_SCHEMA)
  let (digest, event_id) ← Prog.lift (prepare event "event_id")
  store_record .observation_events event event_id digest "event id conflict"
    "event could not be stored"

/-- `check_checkpoint(checkpoint)` of the durable store. -/
def check_recorded (checkpoint : Json) : Program ℤ := do
  Prog.lift (check_checkpoint_shape checkpoint)
  let docs ← documents .observation_events
  Prog.lift (check_trigger docs checkpoint)

/-- `record_checkpoint(checkpoint)`. -/
def record_checkpoint (checkpoint : Json) : Program ℕ := do
  let _ ← check_recorded checkpoint
  let (digest, checkpoint_id) ← Prog.lift (prepare checkpoint "checkpoint_id")
  store_record .observation_checkpoints checkpoint checkpoint_id digest "checkpoint id conflict"
    "checkpoint could not be stored"

/-- `check_result_causality(result_event)`. -/
def check_result_causality (result_event : Json) : Program ℕ := do
  let invocation_id ← Prog.lift (result_invocation result_event)
  let docs ← documents .observation_events
  Prog.lift (result_causality docs invocation_id result_event)

/-- The intent event of a gated write is checked first. -/
def prepare_intent (intent_event : Json) : Except Exn (String × String) := do
  validate intent_event EVENT_SCHEMA
  prepare intent_event "event_id"

/-- `sha256_digest(checkpoint) if isinstance(checkpoint, dict) else ""`. -/
def dict_digest (checkpoint : Json) : Except Exn String :=
  if checkpoint.is_dict then sha256_digest checkpoint else .ok ""

/-- A record looked up by ID must have the digest. -/
def check_known (known : Option (ℕ × String)) (digest message : String) : Except Exn Unit :=
  match known with
  | some (_, known_digest) =>
    if known_digest = digest then .ok () else .error (conflict message)
  | none => .ok ()

/-- The writes of `record_checkpoint_and_intent`, once both records are looked
up. The first insert begins the transaction. -/
def write_pair (checkpoint intent_event : Json) (checkpoint_id checkpoint_digest : String)
    (intent_id intent_digest : String) (known_checkpoint known_event : Option (ℕ × String)) :
    Program ℕ := do
  let failed := store_error "gated records could not be stored"
  match known_checkpoint, known_event with
  -- both are recorded already: nothing is written
  | some _, some (event_cursor, _) => Prog.lift (.ok event_cursor)
  | some _, none => do
    let cursor ← Prog.perform (Op.next_cursor .observation_events)
    let text ← Prog.lift (dump intent_event)
    let stored ← Prog.perform
      (Op.insert .observation_events ⟨intent_id, cursor, text, intent_digest⟩)
    Prog.lift (bif stored then .ok cursor else .error failed)
  | none, some (event_cursor, _) => do
    let cursor ← Prog.perform (Op.next_cursor .observation_checkpoints)
    let text ← Prog.lift (dump checkpoint)
    let stored ← Prog.perform
      (Op.insert .observation_checkpoints ⟨checkpoint_id, cursor, text, checkpoint_digest⟩)
    Prog.lift (bif stored then .ok event_cursor else .error failed)
  | none, none => do
    let cursor ← Prog.perform (Op.next_cursor .observation_checkpoints)
    let checkpoint_text ← Prog.lift (dump checkpoint)
    let text ← Prog.lift (dump intent_event)
    let stored ← Prog.perform (Op.insert_pair
      ⟨checkpoint_id, cursor, checkpoint_text, checkpoint_digest⟩ ⟨intent_id, text, intent_digest⟩)
    Prog.lift (match stored with
      | some cursor => .ok cursor
      | none => .error failed)

/-- `record_checkpoint_and_intent(checkpoint, intent_event)`. -/
def record_checkpoint_and_intent (checkpoint intent_event : Json) : Program ℕ := do
  let (intent_digest, intent_id) ← Prog.lift (prepare_intent intent_event)
  let checkpoint_digest ← Prog.lift (dict_digest checkpoint)
  let _ ← check_recorded checkpoint
  let checkpoint_id ← Prog.lift (bound_item checkpoint "checkpoint_id")
  let known_checkpoint ← Prog.perform (Op.find .observation_checkpoints checkpoint_id)
  Prog.lift (check_known known_checkpoint checkpoint_digest "checkpoint id conflict")
  let known_event ← Prog.perform (Op.find .observation_events intent_id)
  Prog.lift (check_known known_event intent_digest "event id conflict")
  write_pair checkpoint intent_event checkpoint_id checkpoint_digest intent_id intent_digest
    known_checkpoint known_event

/-- `record_checkpoint_and_intent_once(checkpoint, intent_event)`. -/
def record_checkpoint_and_intent_once (checkpoint intent_event : Json) : Program ℕ := do
  let (intent_digest, intent_id) ← Prog.lift (prepare_intent intent_event)
  let checkpoint_digest ← Prog.lift (dict_digest checkpoint)
  let stored ← Prog.perform
    (Op.insert_once checkpoint checkpoint_digest intent_event intent_id intent_digest)
  Prog.lift (match stored with
    | .error e => .error e
    | .ok (some cursor) => .ok cursor
    | .ok none => .error (store_error "one-shot intent could not be stored"))

/-! ## Opening an existing journal -/

/-- The checks of a persisted row: its document meets the schema, and ID,
cursor and digest are the document's own. -/
def check_row (schema : Schema) (key mismatch : String) (row : Row) (expected : ℕ) :
    Except Exn Json :=
  match Json.loads row.json with
  | none => .error ⟨.ValueError, "JSONDecodeError"⟩
  | some doc => do
    validate doc schema
    if row.cursor ≠ expected then .error ⟨.ValueError, mismatch⟩
    else
      let id ← item doc key
      if !py_eq id (.str (.text row.id)) then .error ⟨.ValueError, mismatch⟩
      else
        let digest ← sha256_digest doc
        if digest ≠ row.digest then .error ⟨.ValueError, mismatch⟩ else .ok doc

/-- The loop over the event rows of `_validate_persisted_rows`. -/
def check_event_rows : List Row → ℕ → Except Exn Unit
  | [], _ => .ok ()
  | row :: rest, expected => do
    let _ ← check_row EVENT_SCHEMA "event_id" "event row mismatch" row expected
    check_event_rows rest (expected + 1)

/-- The loop over the checkpoint rows, each checked against the journal. -/
def check_checkpoint_rows : List Row → ℕ → Program Unit
  | [], _ => Prog.lift (.ok ())
  | row :: rest, expected => do
    let checkpoint ← Prog.lift
      (check_row CHECKPOINT_SCHEMA "checkpoint_id" "checkpoint row mismatch" row expected)
    let _ ← check_recorded checkpoint
    check_checkpoint_rows rest (expected + 1)

/-- `except (ContractValidationError, TypeError, ValueError, KeyError,
IndexError)`. -/
def persisted_error (e : Exn) : Exn :=
  match e.cls with
  | .ContractValidationError | .TypeError | .ValueError | .KeyError =>
    store_error "persisted records are malformed"
  | _ => e

/-- `_validate_persisted_rows()`. -/
def validate_persisted_rows : Program Unit :=
  tryCatch
    (do
      let event_rows ← Prog.perform (Op.rows .observation_events)
      Prog.lift (check_event_rows event_rows 0)
      let checkpoint_rows ← Prog.perform (Op.rows .observation_checkpoints)
      check_checkpoint_rows checkpoint_rows 0)
    fun e => Prog.raise (persisted_error e)

/-! ## Calls -/

/-- The calls a connection serves. Opening an existing journal is one of
them. -/
inductive Call : Type
  | open_journal
  | append (event : PyValue)
  | record_checkpoint (checkpoint : PyValue)
  | record_checkpoint_and_intent (checkpoint intent_event : PyValue)
  | record_checkpoint_and_intent_once (checkpoint intent_event : PyValue)
  | check_result_causality (result_event : PyValue)

/-- What a call runs; opening returns no cursor. -/
def body : Call → Program (Option ℕ)
  | .open_journal => (fun _ => none) <$> validate_persisted_rows
  | .append event => some <$> append event.val
  | .record_checkpoint checkpoint => some <$> record_checkpoint checkpoint.val
  | .record_checkpoint_and_intent checkpoint intent =>
    some <$> record_checkpoint_and_intent checkpoint.val intent.val
  | .record_checkpoint_and_intent_once checkpoint intent =>
    some <$> record_checkpoint_and_intent_once checkpoint.val intent.val
  | .check_result_causality result => some <$> check_result_causality result.val

/-- What any number of connections can make of a fresh journal. -/
abbrev Run (cfg : Config Call Op Res Exn (Option ℕ) Db) : Prop := Reachable body sem Db.empty cfg

end AppContracts.ObservationStore
