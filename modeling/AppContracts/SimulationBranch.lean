/-
Declaring a simulation branch: `create_simulation_branch` of
`simulation_branch.py`, on the durable observation store.

The shared state is the store's database. Each method of the store that the
function calls is one operation here; it does its work, or fails and changes
nothing.
-/
import AppContracts.ObservationJournal

set_option autoImplicit false

namespace AppContracts

open Schemas Validator

/-- `{"type": "string", "minLength": 1, "maxLength": bound}`. -/
def bounded (bound : ℕ) : Schema := { type := some .string, min_length := 1, max_length := some bound }

/-- `LEARNING_CORRECTION_SCHEMA`. -/
def LEARNING_CORRECTION_SCHEMA : Schema :=
  { type := some .object
    unknown_fields := false
    required :=
      ["schema_version", "correction_id", "version", "checkpoint_id", "target_event_id", "author_id",
       "created_at", "error_description", "explanation", "expected_action", "applicability",
       "evidence_refs", "review_status"]
    properties :=
      [("schema_version", { const := some (.int 1) }),
       ("correction_id", identifier "correction"),
       ("version", integer_from 1),
       ("checkpoint_id", identifier "checkpoint"),
       ("target_event_id", identifier "event"),
       ("author_id",
         { type := some .string
           pattern := some
             { body := .seq (.alt (.lit "agent") (.alt (.lit "service") (.lit "human")))
                 (.seq (.lit "-") (.cls slug_class 1 none)) } }),
       ("created_at", date_time),
       ("error_description", bounded 2000),
       ("explanation", bounded 2000),
       ("expected_action", bounded 2000),
       ("applicability", bounded 2000),
       ("counterexamples", some_of (bounded 2000)),
       ("proposed_configuration_change", bounded 2000),
       ("evidence_refs", some_of artifact_ref),
       ("evaluation_case_refs", some_of artifact_ref),
       ("baseline_build_id", bounded 256),
       ("candidate_build_id", bounded 256),
       ("review_status", one_of ["proposed", "evaluated", "approved", "rejected"]),
       ("approval_ref", artifact_ref),
       ("supersedes", identifier "correction")] }

namespace SimulationBranch

open Interleave Validator ObservationStore

/-- `SimulationBranchError(message)`. -/
def branch_error (message : String) : Exn := ⟨.SimulationBranchError, message⟩

/-! ## The store -/

/-- The methods of the store. -/
inductive Op : Type
  | events
  | checkpoints
  | check_checkpoint (checkpoint : Json)
  | append (event : Json)

/-- What a method returns. -/
abbrev Val : Op → Type
  | .events => List Json
  | .checkpoints => List Json
  | .check_checkpoint _ => ℤ
  | .append _ => ℕ

/-- A method returns or raises. -/
abbrev Res (op : Op) : Type := Except Exn (Val op)

/-- What a method does on a database that is not busy. -/
def method : (op : Op) → Db → Res op × Db
  | .events, db => (documents .observation_events).exec answer db
  | .checkpoints, db => (documents .observation_checkpoints).exec answer db
  | .check_checkpoint checkpoint, db => (check_recorded checkpoint).exec answer db
  | .append event, db => (append event).exec answer db

/-- The methods: they do their work, or fail and change nothing. -/
def sem : Semantics Op Res Db := fun db op r db' =>
  method op db = (r, db') ∨ (∃ e, r = .error e) ∧ db' = db

/-- Code that uses the store. -/
abbrev Program (α : Type) : Type := Prog Op Res Exn α

/-- A call of a method. -/
def ask (op : Op) : Program (Val op) := do
  let answer : Res op ← Prog.perform op
  Prog.lift answer

/-! ## Requests -/

/-- The arguments besides the store, with what the clock answers. -/
structure Request : Type where
  checkpoint_id : Arg PyStr
  correction : PyValue
  run_id : Arg PyStr
  branch_id : Arg PyStr
  clock : Except Exn Moment

/-- The fullmatch of `<kind>-[a-z0-9-]{8,64}`. -/
def is_identifier (kind value : String) : Bool :=
  let rest := value.toList.drop (kind.length + 1)
  (kind ++ "-").toList.isPrefixOf value.toList && 8 ≤ rest.length && rest.length ≤ 64 &&
    rest.all fun c => ('a' ≤ c && c ≤ 'z') || c.isDigit || c == '-'

/-- The identifiers of a request. -/
structure Identifiers : Type where
  checkpoint_id : String
  run_id : String
  branch_id : String

/-- A checked identifier. -/
def identifier_of (kind : String) : Arg PyStr → Except Exn String
  | .of (.text value) =>
    if is_identifier kind value then .ok value
    else .error (branch_error "simulation branch request is invalid")
  | _ => .error (branch_error "simulation branch request is invalid")

/-- The check of the arguments. -/
def identifiers (request : Request) : Except Exn Identifiers := do
  let checkpoint_id ← identifier_of "checkpoint" request.checkpoint_id
  let run_id ← identifier_of "run" request.run_id
  let branch_id ← identifier_of "branch" request.branch_id
  return ⟨checkpoint_id, run_id, branch_id⟩

/-! ## The source -/

/-- `doc.get(key)`: only dicts have it. -/
def get (doc : Json) (key : String) : Except Exn Json :=
  if doc.is_dict then .ok ((doc.get? key).getD .null) else .error ⟨.AttributeError, "get"⟩

/-- Python's truth value. -/
def truthy : Json → Bool
  | .null => false
  | .bool b => b
  | .int n => n != 0
  | .float repr => Json.float_value repr != 0
  | .str s => s != .text ""
  | .arr items => !items.isEmpty
  | .obj fields => !fields.isEmpty
  | .number n => n != 0
  | .other _ _ => true

/-- `next(item for item in checkpoints if item.get("checkpoint_id") == checkpoint_id)`.
A `StopIteration` ends as the error it becomes. -/
def find_checkpoint (checkpoint_id : String) : List Json → Except Exn Json
  | [] => .error (branch_error "simulation branch source is invalid")
  | item :: rest => do
    if py_eq (← get item "checkpoint_id") (.str (.text checkpoint_id)) then .ok item
    else find_checkpoint checkpoint_id rest

/-- The classes that mean an invalid source, with those derived from them here. -/
def source_error (e : Exn) : Exn :=
  match e.cls with
  | .ObservationStoreError | .KeyError | .RuntimeError | .OverflowError | .sqlite3_OperationalError
  | .sqlite3_IntegrityError => branch_error "simulation branch source is unavailable"
  | _ => branch_error "simulation branch source is invalid"

/-- What the first `try` block reads. -/
structure Source : Type where
  events : List Json
  checkpoint : Json
  cursor : ℤ

/-- The first `try` block. -/
def read_source (checkpoint_id : String) (correction : Json) : Program Source :=
  tryCatch
    (do
      Prog.lift (validate correction LEARNING_CORRECTION_SCHEMA)
      let events ← ask .events
      let checkpoints ← ask .checkpoints
      let checkpoint ← Prog.lift (find_checkpoint checkpoint_id checkpoints)
      Prog.lift (validate checkpoint CHECKPOINT_SCHEMA)
      let cursor ← ask (.check_checkpoint checkpoint)
      return ⟨events, checkpoint, cursor⟩)
    fun e => Prog.raise (source_error e)

/-- The checkpoint may be branched from. -/
def check_eligible (checkpoint_id : String) (correction checkpoint : Json) : Except Exn Unit := do
  let restore_mode ← item checkpoint "restore_mode"
  let completeness ← item checkpoint "completeness"
  let in_flight ← get checkpoint "in_flight_invocation_ids"
  let pending ← get checkpoint "pending_action_ref"
  let effects ← get checkpoint "external_effect_refs"
  let corrected ← item correction "checkpoint_id"
  raise_if (py_eq restore_mode (.str (.text "simulation")) = false ∨
      py_eq completeness (.str (.text "complete")) = false ∨ truthy in_flight = true ∨
      truthy pending = true ∨ truthy effects = true ∨
      py_eq corrected (.str (.text checkpoint_id)) = false)
    (branch_error "simulation branch checkpoint is not eligible")

/-- The loop that looks for the target event. -/
def find_target (target : Json) : List Json → ℕ → Except Exn (Option (ℕ × Json))
  | [], _ => .ok none
  | event :: rest, position => do
    if py_eq (← get event "event_id") target then .ok (some (position, event))
    else find_target target rest (position + 1)

/-- The event and the checkpoint agree on the fields. -/
def agrees (event checkpoint : Json) : List String → Except Exn Bool
  | [] => .ok true
  | field :: rest => do
    if py_eq (← get event field) (← get checkpoint field) then agrees event checkpoint rest
    else .ok false

/-- The event that the correction is about. -/
def source_event (correction : Json) (source : Source) : Except Exn Json := do
  let outside := branch_error "simulation branch target is outside checkpoint history"
  match ← find_target (← item correction "target_event_id") source.events 0 with
  | none => .error outside
  | some (position, event) =>
    if (position : ℤ) > source.cursor then .error outside
    else if ← agrees event source.checkpoint ["process_id", "run_id", "branch_id"] then .ok event
    else .error outside

/-- `event.get("branch_id") == branch_id or event.get("run_id") == run_id`. -/
def uses (ids : Identifiers) (event : Json) : Except Exn Bool := do
  let branch_id ← get event "branch_id"
  let run_id ← get event "run_id"
  return py_eq branch_id (.str (.text ids.branch_id)) || py_eq run_id (.str (.text ids.run_id))

/-- The identifiers are new to the events. -/
def check_new (ids : Identifiers) : List Json → Except Exn Unit
  | [] => .ok ()
  | event :: rest => do
    raise_if ((← uses ids event) = true) (branch_error "simulation branch identifier already exists")
    check_new ids rest

/-! ## The event -/

/-- The timestamp of the branch event. -/
def timestamp : Except Exn Moment → Except Exn String
  | .error e => .error e
  | .ok .invalid => .error (branch_error "simulation branch clock is invalid")
  | .ok .out_of_range => .error ⟨.OverflowError, "date value out of range"⟩
  | .ok (.at isoformat) => .ok (str_replace isoformat "+00:00" "Z")

/-- `f"event-branch-{branch_id.removeprefix('branch-')}"`. -/
def event_id (branch_id : String) : String :=
  "event-branch-" ++ String.ofList (branch_id.toList.drop 7)

/-- The dict `branch_event`. -/
def branch_event (ids : Identifiers) (process_id task_id source_id : Json) (timestamp : String) : Json :=
  .obj
    [(.text "schema_version", .int 1), (.text "event_id", .str (.text (event_id ids.branch_id))),
      (.text "event_type", .str (.text "branch_created")), (.text "process_id", process_id),
      (.text "run_id", .str (.text ids.run_id)), (.text "branch_id", .str (.text ids.branch_id)),
      (.text "task_id", task_id), (.text "agent_id", .str (.text "service-simulation-branch")),
      (.text "sequence", .int 0), (.text "occurred_at", .str (.text timestamp)),
      (.text "recorded_at", .str (.text timestamp)), (.text "causal_event_ids", .arr [source_id]),
      (.text "checkpoint_id", .str (.text ids.checkpoint_id)),
      (.text "decision_or_tool", .str (.text "SimulationBranch.create")),
      (.text "rationale",
        .str (.text "Declare an isolated simulation branch; no replay is performed.")),
      (.text "expected_result",
        .str (.text "A separate branch locator is recorded without external effects.")),
      (.text "classification", .str (.text "internal")),
      (.text "redaction_status", .str (.text "complete"))]

/-- What is recorded, with the source event it names. -/
structure Declared : Type where
  source_id : Json
  event : Json

/-- The checks on what was read, up to the event. -/
def declare (request : Request) (ids : Identifiers) (source : Source) : Except Exn Declared := do
  check_eligible ids.checkpoint_id request.correction.val source.checkpoint
  let target ← source_event request.correction.val source
  check_new ids source.events
  let timestamp ← timestamp request.clock
  let process_id ← item source.checkpoint "process_id"
  let task_id ← item target "task_id"
  let source_id ← item target "event_id"
  return ⟨source_id, branch_event ids process_id task_id source_id timestamp⟩

/-- The second `try` block: the cursor of the event, and the events read after. -/
def record (event : Json) : Program (ℕ × List Json) :=
  tryCatch
    (do
      Prog.lift (validate event EVENT_SCHEMA)
      let observer_cursor ← ask (.append event)
      let after ← ask .events
      return (observer_cursor, after))
    fun _ => Prog.raise (branch_error "simulation branch event could not be recorded")

/-- `len(after) != before + 1 or after[-1].get("event_id") != event_id`. -/
def check_recorded_last (ids : Identifiers) (before after : List Json) : Except Exn Unit := do
  let exists_error := branch_error "simulation branch identifier already exists"
  raise_if (after.length ≠ before.length + 1) exists_error
  match after.getLast? with
  | none => .error ⟨.AttributeError, "get"⟩
  | some last =>
    raise_if (py_eq (← get last "event_id") (.str (.text (event_id ids.branch_id))) = false) exists_error

/-- `SimulationBranch`. -/
structure Locator : Type where
  process_id : Json
  source_run_id : Json
  source_branch_id : Json
  source_checkpoint_id : String
  source_event_id : Json
  run_id : String
  branch_id : String
  event_id : String
  observer_cursor : ℕ

/-- The locator that is returned. -/
def locate (ids : Identifiers) (source : Source) (source_id : Json) (observer_cursor : ℕ) :
    Except Exn Locator := do
  let process_id ← item source.checkpoint "process_id"
  let source_run_id ← item source.checkpoint "run_id"
  let source_branch_id ← item source.checkpoint "branch_id"
  return ⟨process_id, source_run_id, source_branch_id, ids.checkpoint_id, source_id, ids.run_id,
    ids.branch_id, event_id ids.branch_id, observer_cursor⟩

/-- `create_simulation_branch(store, ...)`. -/
def create_simulation_branch (request : Request) : Program Locator := do
  let ids ← Prog.lift (identifiers request)
  let source ← read_source ids.checkpoint_id request.correction.val
  let declared ← Prog.lift (declare request ids source)
  let (observer_cursor, after) ← record declared.event
  Prog.lift (check_recorded_last ids source.events after)
  Prog.lift (locate ids source declared.source_id observer_cursor)

/-- What any number of concurrent calls can make of a store. -/
abbrev Run (db : Db) (cfg : Config Request Op Res Exn Locator Db) : Prop :=
  Reachable create_simulation_branch sem db cfg

end SimulationBranch

end AppContracts
