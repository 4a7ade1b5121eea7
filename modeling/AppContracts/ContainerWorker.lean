/-
The container worker: `ContainerProposalWorker` of `container_proposal_worker.py`, the
program that its container runs, and `StdioChatCompletionsChannel` of
`worker_model_ipc.py` between them.

The host writes the task to the child, asks the model for what the child requests, and
reads the child's proposal. Four values cross the pipes as JSON frames: the task, the
request, the result and the proposal. The host renders the proposal once more and parses
it with the parser that the child has used.

A read gives some of what is asked for; any step may fail, which stands for time that has
run out as well; the channel answers anything. Each process has an interpreter of its own,
which may refuse JSON that is nested too deeply for it.

The second half says what a process has done that returns: `Returns` is closed under the
steps of a program, so one lemma for each function gives what the host has read, written and
noted (`HostReturned`) and what the child has (`ChildEnded`). The last part compares these two:
what the one has encoded is what the other has decoded, value by value.
-/
import AppContracts.ChatCompletions
import AppContracts.Lib.ExceptLoop
import AppContracts.Lib.Pipes

set_option autoImplicit false

namespace AppContracts.ContainerWorker

open Interleave (Prog)
open Pipes (PipeOp Answer)
open Json (record)
open GitHubSnapshot (json_text)
open Validator (py_eq)
open ChatCompletions
open WorkerModelIPC (_decode_json _encode_json _encode_result _decode_result ipc_error frame unpack_size Within
  _FRAME_PREFIX_BYTES ChatCompletionsModelResult RecursionLimit)
open Proposal (WorkerResult ResponsesModelResult parse_model_result)

/-! ## Constants -/

def REQUEST_SCHEMA : String := "agent00x-worker-model-request/v1"
def WORKER_INPUT_SCHEMA : String := "agent00x-worker-input/v2"
def PROPOSAL_SCHEMA : String := "agent00x-worker-proposal/v1"
def RESULT_SCHEMA : String := "agent00x-worker-result/v2"
def STATUS_SCHEMA : String := "agent00x-worker-status/v1"

/-- The modules that the child imports, with the statuses of a failure and of a success. -/
def CHILD_IMPORTS : List (String × String × String) :=
  [("app_contracts.repository_process", "dependency-1-import-failed", "dependency-1-imported"),
    ("app_contracts.observation_store", "observation-store-import-failed",
      "observation-store-imported"),
    ("app_contracts.observer_runtime", "observer-runtime-import-failed", "observer-runtime-imported"),
    ("app_contracts.sandbox", "dependency-3-import-failed", "dependency-3-imported"),
    ("app_contracts.digests", "dependency-4-import-failed", "dependency-4-imported"),
    ("app_contracts.pinned_snapshot", "dependency-5-import-failed", "dependency-5-imported"),
    ("app_contracts.executor", "worker-input-import-failed", "worker-input-imported"),
    ("app_contracts.deepseek_worker", "deepseek-worker-import-failed", "deepseek-worker-imported"),
    ("app_contracts.worker_model_ipc", "stdio-ipc-import-failed", "stdio-ipc-imported")]

def WORKER_STARTUP_STATUSES : List String :=
  ["source-package-visible", "dependency-1-imported", "observation-store-imported",
    "observer-runtime-imported",
    "dependency-3-imported", "dependency-4-imported", "dependency-5-imported", "worker-input-imported",
    "deepseek-worker-imported", "stdio-ipc-imported", "task-accepted", "network-probes-blocked",
      "ready"]

def WORKER_STATUS_CATEGORIES : List String :=
  ["source-package-unavailable", "source-package-visible", "dependency-1-import-failed",
    "dependency-1-imported",
    "observation-store-import-failed", "observation-store-imported", "observer-runtime-import-failed",
    "observer-runtime-imported", "dependency-3-import-failed", "dependency-3-imported",
    "dependency-4-import-failed", "dependency-4-imported", "dependency-5-import-failed",
      "dependency-5-imported",
    "deepseek-worker-import-failed", "deepseek-worker-imported", "worker-input-import-failed",
    "worker-input-imported", "stdio-ipc-import-failed", "stdio-ipc-imported", "task-frame-invalid",
    "task-accepted", "direct-ip-unblocked", "dns-unblocked", "network-probes-blocked", "ready",
    "worker-runtime-failed"]

/-- Every status that the host waits for is one that it knows. -/
example : ∀ status ∈ WORKER_STARTUP_STATUSES, status ∈ WORKER_STATUS_CATEGORIES := by decide

/-! ## Surroundings -/

/-- The interpreters of the two processes, each with its recursion limit. -/
class Interpreters : Type where
  host : RecursionLimit
  child : RecursionLimit

/-- A result of the declared types whose tool calls are JSON data. -/
abbrev ChannelResult : Type := { result : ChatCompletionsModelResult // result.JsonCalls }

/-- What a channel returns, of any type. -/
def returned : Arg ChannelResult → Arg ChatCompletionsModelResult
  | .of result => .of result.val
  | .other => .other

/-- Steps of the host that may raise. -/
inductive HostStep : Type
  | stage_worker_schemas
  | image_environment
  | popen
  | assert_container
  | close_stdin

/-- Conditions that the child checks. -/
inductive ChildCheck : Type
  | package_visible
  | imports (module_name : String)
  | streams_are_pipes
  | set_blocking
  | restore_blocking

/-- `probe_network()`. -/
inductive NetworkStatus : Type
  | direct_ip_unblocked
  | dns_unblocked
  | network_probes_blocked

/-- What the host and the child ask their surroundings. -/
inductive Query : Type
  /-- The source and schema directories are directories. -/
  | directories
  | host_step (step : HostStep)
  | create_chat_completion (payload timeout_seconds : Json)
  | wait
  /-- The container and its streams are gone. -/
  | cleanup
  | child_check (check : ChildCheck)
  | probe_network

/-- The answer to a query. -/
abbrev Query.Ans : Query → Type
  | .directories => Bool
  | .host_step _ => Except Exn Unit
  | .create_chat_completion _ _ => Except Exn (Arg ChannelResult)
  | .wait => Except Exn ℤ
  | .cleanup => Bool
  | .child_check _ => Bool
  | .probe_network => NetworkStatus

/-- A process that reads and writes bytes. -/
abbrev Program (α : Type) : Type := Prog (PipeOp UInt8 Query) (Answer Query.Ans) Exn α

/-- A question. -/
def ask (query : Query) : Program query.Ans := Prog.perform (PipeOp.ask query)

/-- A step that may raise. -/
def attempt {α : Type} (p : Program (Except Exn α)) : Program α := p.bind Prog.lift

/-- A condition that has to hold. -/
def check (condition : ChildCheck) (e : Exn) : Program Unit := do
  let holds ← ask (.child_check condition)
  Prog.lift (raise_if (holds = false) e)

/-! ## Frames -/

/-- The loop of the readers: each turn reads at least one byte, so `fuel` turns read as much. -/
def read_loop (failed : Exn) : (fuel remaining : ℕ) → Program Bytes
  | _, 0 => .ret []
  | 0, _ + 1 => .raise failed
  | fuel + 1, remaining + 1 => .call (.read (remaining + 1)) fun answer =>
    match (answer : Option Bytes) with
    | none => .raise failed
    | some [] => .raise failed
    | some (byte :: chunk) =>
      (read_loop failed fuel (remaining - chunk.length)).bind fun rest => .ret (byte :: chunk ++ rest)

/-- `_read_exact(stream, size)`. -/
def read_exact (failed : Exn) (size : ℕ) : Program Bytes := read_loop failed size size

/-- The body of a frame. -/
def read_body (failed exceeds : Exn) (maximum : ℕ) : Program Bytes := do
  let header ← read_exact failed _FRAME_PREFIX_BYTES
  Prog.lift (raise_if (unpack_size header = 0 ∨ maximum < unpack_size header) exceeds)
  read_exact failed (unpack_size header)

/-- `stream.write(data)`. -/
def write (failed : Exn) (data : Bytes) : Program Unit :=
  .call (.write data) fun answer =>
    match (answer : Option ℕ) with
    | none => .ret ()
    | some _ => .raise failed

/-- `json.dumps(value, ensure_ascii=False, allow_nan=False, separators=(",", ":"))`. -/
def dumps (limit : RecursionLimit) (invalid : Exn) (value : Json) : Except Exn String := do
  raise_if (value.encodable false = false ∨ limit.dumps value = false) invalid
  return String.ofList (value.print false)

/-- A bounded JSON text, encoded. -/
def encode (limit : RecursionLimit) (invalid exceeds : Exn) (value : Json) (maximum : ℕ) :
    Except Exn Bytes := do
  let text ← dumps limit invalid value
  raise_if (encode_utf8 text = [] ∨ maximum < (encode_utf8 text).length) exceeds
  return encode_utf8 text

/-- `ExecutionError("execution worker: ...")`. -/
def worker_error (message : String) : Exn := ⟨.ExecutionError, "execution worker: " ++ message⟩

/-- `ValueError("worker container ...")`. -/
def container_error (message : String) : Exn := ⟨.ValueError, "worker container " ++ message⟩

section Programs

variable [Interpreters]

/-- `_read_frame(stream, maximum=maximum)` of the host. -/
def _read_frame (maximum : ℕ) : Program Json := do
  let body ← read_body (container_error "transport failed")
    (container_error "frame exceeds limit") maximum
  Prog.lift (_decode_json Interpreters.host body maximum)

/-- `_write_frame(stream, value, maximum=maximum)` of the host. -/
def _write_frame (value : Json) (maximum : ℕ) : Program Unit := do
  let body ← Prog.lift (encode Interpreters.host (container_error "frame invalid")
    (container_error "frame exceeds limit") value maximum)
  write ⟨.OSError, "Broken pipe"⟩ (frame body)

/-- `raise SystemExit(status)`. -/
def exit (status : String) : Exn := ⟨.SystemExit, status⟩

/-- The hooks of the child: `reject_pairs`, and no hook for constants. -/
def child_hooks : Json.Hooks := ⟨Json.strict_hooks.object_pairs, true⟩

/-- `json.loads(body.decode("utf-8"), object_pairs_hook=reject_pairs)`. -/
def child_loads (body : Bytes) : Except Exn Json := do
  let text ← or_raise ⟨.ValueError, ""⟩ (decode_utf8 body)
  let value ← or_raise ⟨.ValueError, ""⟩ (Json.loads_with child_hooks text)
  raise_if (Interpreters.child.loads value = false) ⟨.RuntimeError, "maximum recursion depth exceeded"⟩
  return value

/-- `read_frame(stream, maximum)` of the child. -/
def read_frame (maximum : ℕ) : Program Json := do
  let body ← read_body (exit "31") (exit "32") maximum
  Prog.lift (child_loads body)

/-- `write_frame(stream, value, maximum)` of the child. -/
def write_frame (value : Json) (maximum : ℕ) : Program Unit := do
  let body ← Prog.lift (encode Interpreters.child ⟨.ValueError, ""⟩ (exit "33") value maximum)
  write ⟨.OSError, "Broken pipe"⟩ (frame body)

/-! ## Task frames -/

/-- `ValueError` of a task envelope. -/
def envelope_error : Exn := ⟨.ValueError, ""⟩

/-- A string. -/
def str : Codec Exn PyStr := Codec.any_str envelope_error

/-- A string or `None`. -/
def optional_str : Codec Exn (Option PyStr) := str.nullable fun _ h => by cases h

/-- A string that can be encoded. -/
def text : Codec Exn String := Codec.text envelope_error envelope_error

/-- Such a string, or `None`. -/
def optional_text : Codec Exn (Option String) := text.nullable fun _ h => by cases h

/-- A tuple of strings. -/
def strs : Codec Exn (List PyStr) := Codec.list envelope_error str

/-- `{"path": path, "content": content}`. -/
def entry_json (entry : String × String) : Json :=
  record [("path", text.json entry.1), ("content", text.json entry.2)]

/-- The fields of `_worker_input_frame(task, model_timeout_seconds=model_timeout_seconds)`. -/
def input_fields (task : WorkerInput) (model_timeout_seconds : Json) : List (String × Json) :=
  [("schema", text.json WORKER_INPUT_SCHEMA), ("process_id", str.json task.process_id),
    ("task_id", str.json task.task_id), ("repository_id", str.json task.repository_id),
    ("base_commit", str.json task.base_commit),
    ("declared_change_paths", strs.json task.declared_change_paths),
    ("snapshot_tree_digest", optional_str.json task.snapshot_tree_digest),
    ("snapshot_origin", str.json task.snapshot_origin),
    ("task_instruction", optional_text.json task.task_instruction),
    ("context_files", .arr (task.context_files.map entry_json)),
    ("snapshot_claim_digest", optional_str.json task.snapshot_claim_digest),
    ("model_timeout_seconds", model_timeout_seconds)]

/-- The keys of a task envelope. -/
def INPUT_KEYS : List String :=
  ["schema", "process_id", "task_id", "repository_id", "base_commit", "declared_change_paths",
    "snapshot_tree_digest", "snapshot_origin", "task_instruction", "context_files",
      "snapshot_claim_digest",
    "model_timeout_seconds"]

/-- `(item["path"], item["content"])`. -/
def context_entry (item : Json) : Except Exn (String × String) := do
  let path ← text.field envelope_error item "path"
  let content ← text.field envelope_error item "content"
  return (path, content)

/-- A list. -/
def items_of : Json → Except Exn (List Json)
  | .arr items => .ok items
  | _ => .error envelope_error

/-- `WorkerInput(...)` of the envelope. A field of another type than `WorkerInput` declares
is refused here; the host sends none. -/
def input_of (isprintable : Char → Bool) (envelope : Json) : Except Exn WorkerInput := do
  let process_id ← str.field envelope_error envelope "process_id"
  let task_id ← str.field envelope_error envelope "task_id"
  let repository_id ← str.field envelope_error envelope "repository_id"
  let base_commit ← str.field envelope_error envelope "base_commit"
  let declared_change_paths ← strs.field envelope_error envelope "declared_change_paths"
  let snapshot_tree_digest ← optional_str.field envelope_error envelope "snapshot_tree_digest"
  let snapshot_origin ← str.field envelope_error envelope "snapshot_origin"
  let task_instruction ← optional_text.field envelope_error envelope "task_instruction"
  let context ← or_raise envelope_error (envelope.get? "context_files")
  let items ← items_of context
  let context_files ← items.mapM context_entry
  let snapshot_claim_digest ← optional_str.field envelope_error envelope "snapshot_claim_digest"
  let task : WorkerInput := ⟨process_id, task_id, repository_id, base_commit, declared_change_paths,
    snapshot_tree_digest, snapshot_origin, task_instruction, context_files, snapshot_claim_digest⟩
  task.post_init isprintable
  return task

/-- The task and the timeout of an envelope. -/
def accept_task (isprintable : Char → Bool) (envelope : Json) : Except Exn (WorkerInput × Json) := do
  raise_if (envelope.has_keys INPUT_KEYS = false ∨
    (envelope.get? "schema").bind Json.text? ≠ some WORKER_INPUT_SCHEMA) envelope_error
  let model_timeout_seconds ← or_raise envelope_error (envelope.get? "model_timeout_seconds")
  checked_timeout model_timeout_seconds
  let task ← input_of isprintable envelope
  return (task, model_timeout_seconds)

/-! ## The child -/

/-- `status(value)`. -/
def status (value : String) : Program Unit :=
  write_frame (record [("schema", json_text STATUS_SCHEMA), ("status", json_text value)]) 4096

/-- A condition that fails with a status and an exit. -/
def require (condition : ChildCheck) (failure : String) : Program Unit := do
  let holds ← ask (.child_check condition)
  if holds then return ()
  else do
    status failure
    Prog.raise (exit "40")

/-- The imports, each with its status. -/
def import_all : List (String × String × String) → Program Unit
  | [] => .ret ()
  | (module_name, failure, success) :: rest => do
    require (.imports module_name) failure
    status success
    import_all rest

/-- `except Exception: status(value); raise SystemExit(code)`. -/
def or_exit {α : Type} (p : Program α) (value code : String) : Program α :=
  p.handle fun e =>
    if e.cls = .SystemExit then .raise e
    else (status value).bind fun _ => .raise (exit code)

/-- `float(value)`, of a float or an int that a bound keeps below `10 ^ 16`. -/
def to_float : Json → Json
  | .int n => .float (toString n ++ ".0")
  | value => value

/-- `_validate_timeout(value, maximum=maximum)`. -/
def _validate_timeout (value : Json) (maximum : ℚ) : Except Exn Json := do
  raise_if (is_number value = false ∨ within value maximum = false) (ipc_error "timeout is invalid")
  return to_float value

/-- The fields of a request. -/
def request_fields (timeout payload : Json) : List (String × Json) :=
  [("schema", json_text REQUEST_SCHEMA), ("timeout_seconds", timeout), ("payload", payload)]

/-- The request, encoded; its own checks come first. -/
def encoded_request (timeout payload : Json) : Except Exn Bytes := do
  let _ ← encode_chat_completions_request payload
  _encode_json Interpreters.child (record (request_fields timeout payload)) MAX_REQUEST_BYTES

/-- The response that reports a failure. -/
def is_failure (response : Json) : Bool :=
  response.has_keys ["schema", "error"] &&
    ((response.get? "schema").bind Json.text? == some WorkerModelIPC._RESPONSE_SCHEMA &&
      (response.get? "error").bind Json.text? == some "request_failed")

/-- What a response says. -/
def response_result (response : Bytes) : Except Exn ChatCompletionsModelResult := do
  let decoded ← _decode_json Interpreters.child response MAX_RESPONSE_BYTES
  raise_if (is_failure decoded = true) (ipc_error "request failed")
  _decode_result Interpreters.child response

/-- The exchange of a request and its response over the pipes. -/
def exchange (request : Bytes) : Program ChatCompletionsModelResult := do
  write (ipc_error "transport failed") (frame request)
  let response ← read_body (ipc_error "transport failed")
    (ipc_error "message exceeds limit") MAX_RESPONSE_BYTES
  Prog.lift (response_result response)

/-- `StdioChatCompletionsChannel(..., maximum_timeout_seconds=maximum).create_chat_completion(payload,
timeout_seconds=timeout_seconds)`: the first call of a channel. -/
def StdioChatCompletionsChannel.create_chat_completion (maximum : Json)
    (payload timeout_seconds : Json) :
    Program (Arg ChatCompletionsModelResult) := do
  let limit ← Prog.lift (or_raise (ipc_error "timeout is invalid") maximum.number?)
  let timeout ← Prog.lift (_validate_timeout timeout_seconds limit)
  let request ← (Prog.lift (encoded_request timeout payload)).handle fun _ => .raise
    (ipc_error "request is invalid")
  check .set_blocking (ipc_error "stream unavailable")
  let result ← (exchange request).handle fun e =>
    (check .restore_blocking (ipc_error "stream cleanup failed")).bind fun _ => .raise e
  check .restore_blocking (ipc_error "stream cleanup failed")
  return .of result

/-- `network_status`, if it is no success. -/
def NetworkStatus.failure : NetworkStatus → Option String
  | .direct_ip_unblocked => some "direct-ip-unblocked"
  | .dns_unblocked => some "dns-unblocked"
  | .network_probes_blocked => none

/-- The probes of the network. -/
def probe_network : Program Unit := do
  let network_status ← ask .probe_network
  match network_status.failure with
  | none => return ()
  | some failure => do
    status failure
    Prog.raise (exit "42")

/-- A change as the child sends it. -/
def change_json (change : String × String) : Json := .arr [json_text change.1, json_text change.2]

/-- The child's last frame. -/
def result_frame : WorkerResult → Json
  | .terminal outcome reason_code => record
    [("schema", json_text RESULT_SCHEMA), ("outcome", json_text outcome),
      ("changes", .null), ("reason_code", json_text reason_code)]
  | .proposal changes => record [("schema", json_text PROPOSAL_SCHEMA),
    ("changes", .arr (changes.map change_json))]

/-- What precedes the task. -/
def start_up : Program Unit := do
  require .package_visible "source-package-unavailable"
  status "source-package-visible"
  import_all CHILD_IMPORTS

/-- The task, read from the host. -/
def read_task (isprintable : Char → Bool) : Program (WorkerInput × Json) := do
  let envelope ← read_frame MAX_REQUEST_BYTES
  Prog.lift (accept_task isprintable envelope)

/-- The channel's constructor, with `MAX_LOCAL_MODEL_TIMEOUT_SECONDS` as its maximum. -/
def open_channel (model_timeout_seconds : Json) : Program Json := do
  check .streams_are_pipes (ipc_error "stream unavailable")
  Prog.lift (_validate_timeout model_timeout_seconds MAX_LOCAL_MODEL_TIMEOUT_SECONDS)

/-- `WORKER_CHILD_PROGRAM`. It returns where the child ends with exit status 0, with the task
it has decoded and the result it has sent. -/
def worker_child (isprintable : Char → Bool) : Program (WorkerInput × WorkerResult) := do
  start_up
  let accepted ← or_exit (read_task isprintable) "task-frame-invalid" "41"
  status "task-accepted"
  probe_network
  status "network-probes-blocked"
  let maximum ← open_channel accepted.2
  status "ready"
  let proposal ← or_exit (DeepSeekProposalWorker.propose
    (StdioChatCompletionsChannel.create_chat_completion maximum) accepted.2 accepted.1) "worker-runtime-failed" "43"
  write_frame (result_frame proposal) MAX_RESPONSE_BYTES
  return (accepted.1, proposal)

/-! ## The host -/

/-- `ContainerProposalWorker`: its timeout is a float. -/
structure ContainerProposalWorker : Type where
  model_timeout_seconds : Json
  used : Bool
  is_float : ∃ repr, model_timeout_seconds = .float repr ∧ Json.is_float_repr repr = true

/-- `_status_category(frame)`. -/
def _status_category (status_frame : Json) : Option String :=
  if status_frame.has_keys ["schema", "status"] = false ∨
      (status_frame.get? "schema").bind Json.text? ≠ some STATUS_SCHEMA then none
  else ((status_frame.get? "status").bind Json.text?).filter (· ∈ WORKER_STATUS_CATEGORIES)

/-- `_expect_status(process, expected)`. -/
def _expect_status (expected : String) : Program Unit := do
  let status_frame ← (_read_frame 4096).handle fun _ => .raise
    (worker_error "isolated worker startup failed")
  Prog.lift (raise_if (_status_category status_frame ≠ some expected)
    (worker_error "isolated worker startup failed"))

/-- The loop over the expected statuses. -/
def expect_all : List String → Program Unit
  | [] => .ret ()
  | expected :: rest => do
    _expect_status expected
    expect_all rest

/-- The request's timeout and payload, if it asks for this payload. -/
def check_request (model_timeout_seconds payload request : Json) : Except Exn (Json × Json) := do
  let invalid := worker_error "isolated worker request invalid"
  raise_if (request.has_keys ["schema", "timeout_seconds", "payload"] = false ∨
    (request.get? "schema").bind Json.text? ≠ some REQUEST_SCHEMA) invalid
  let timeout_seconds ← or_raise invalid (request.get? "timeout_seconds")
  let limit ← or_raise invalid model_timeout_seconds.number?
  raise_if (is_number timeout_seconds = false ∨ within timeout_seconds limit = false) invalid
  let requested ← or_raise invalid (request.get? "payload")
  raise_if (py_eq requested payload = false) invalid
  let _ ← encode_chat_completions_request requested
  return (timeout_seconds, requested)

/-- `_encode_result(result)` of any object. -/
def encoded_result : Arg ChannelResult → Except Exn Bytes
  | .of result => _encode_result Interpreters.host result.val
  | .other => .error (ipc_error "channel result invalid")

/-- `_decode_json(_encode_result(result), maximum=MAX_RESPONSE_BYTES)`. -/
def response_of (result : Arg ChannelResult) : Except Exn Json := do
  let encoded_response ← encoded_result result
  _decode_json Interpreters.host encoded_response MAX_RESPONSE_BYTES

/-- The call of the host's channel. -/
def call_channel (payload timeout_seconds : Json) : Program Json :=
  (do let result ← attempt (ask (.create_chat_completion payload timeout_seconds))
      Prog.lift (response_of result) : Program Json).handle fun _ => .raise
        (worker_error "model channel failed")

/-- `parse_model_result` of a value rendered as a completed output. -/
def parse_rendered (value : Json) (task : WorkerInput) : Except Exn WorkerResult := do
  let output ← dumps Interpreters.host ⟨.ValueError, ""⟩ value
  parse_model_result (.of ⟨.text "completed", some (.text output), none⟩) task.declared_texts

/-- `type(result) is WorkerTerminalOutcome`. -/
def is_terminal : WorkerResult → Bool
  | .terminal _ _ => true
  | .proposal _ => false

/-- A change as the host reads it. -/
def change_of : Json → Except Exn (PyStr × PyStr)
  | .arr [.str path, .str content] => .ok (path, content)
  | _ => .error ⟨.ValueError, ""⟩

/-- The changes of a proposal, rendered in the legacy form. -/
def legacy_form (changes : List (PyStr × PyStr)) : Json :=
  record [("changes", .arr (changes.map fun change =>
    record [("path", .str change.1), ("content", .str change.2)]))]

/-- The outcome of a terminal frame. -/
def terminal_outcome (result_json : Json) (task : WorkerInput) : Except Exn WorkerResult := do
  let result ← parse_rendered result_json task
  raise_if (is_terminal result = false) ⟨.ValueError, ""⟩
  return result

/-- The proposal of a proposal frame. -/
def checked_proposal (items : List Json) (task : WorkerInput) : Except Exn WorkerResult := do
  let changes ← items.mapM change_of
  parse_rendered (legacy_form changes) task

/-- An exception of a proposal's checks. -/
def or_invalid {α : Type} : Except Exn α → Except Exn α
  | .ok a => .ok a
  | .error _ => .error (worker_error "proposal is invalid")

/-- `_validated_proposal(frame, task)`. -/
def _validated_proposal (result_json : Json) (task : WorkerInput) : Except Exn WorkerResult :=
  if result_json.has_keys ["schema", "outcome", "changes", "reason_code"] = true ∧
      (result_json.get? "schema").bind Json.text? = some RESULT_SCHEMA then
    or_invalid (terminal_outcome result_json task)
  else do
    raise_if (result_json.has_keys ["schema", "changes"] = false ∨
      (result_json.get? "schema").bind Json.text? ≠ some PROPOSAL_SCHEMA)
        (worker_error "proposal is invalid")
    match result_json.get? "changes" with
    | some (.arr items) => or_invalid (checked_proposal items task)
    | _ => .error (worker_error "proposal is invalid")

/-- The host's exchange with the child, from the process that has started to its end. -/
def converse (worker : ContainerProposalWorker) (task : WorkerInput) : Program WorkerResult := do
  _write_frame (record (input_fields task worker.model_timeout_seconds)) MAX_REQUEST_BYTES
  expect_all WORKER_STARTUP_STATUSES
  let request ← _read_frame MAX_REQUEST_BYTES
  let payload ← Prog.lift (build_chat_completions_payload task)
  let requested ← Prog.lift (check_request worker.model_timeout_seconds payload request)
  attempt (ask (.host_step .assert_container))
  let response ← call_channel requested.2 requested.1
  _write_frame response MAX_RESPONSE_BYTES
  let result_json ← _read_frame MAX_RESPONSE_BYTES
  let proposal ← Prog.lift (_validated_proposal result_json task)
  let returncode ← (do
    attempt (ask (.host_step .close_stdin))
    attempt (ask .wait) : Program ℤ).handle fun _ => .raise (worker_error "isolated worker failed")
  Prog.lift (raise_if (returncode ≠ 0) (worker_error "isolated worker failed"))
  return proposal

/-- The body of the `try`. -/
def run_container (worker : ContainerProposalWorker) (task : WorkerInput) : Program WorkerResult := do
  attempt (ask (.host_step .stage_worker_schemas))
  attempt (ask (.host_step .image_environment))
  (attempt (ask (.host_step .popen))).handle fun _ => .raise
    (worker_error "isolated worker unavailable")
  converse worker task

/-- The `finally` block. -/
def clean_up : Program Unit := do
  let confirmed ← ask .cleanup
  Prog.lift (raise_if (confirmed = false) (worker_error "isolated worker cleanup failed"))

/-- What the `except` clauses raise. -/
def redacted (e : Exn) : Exn := if e.cls =
    .ExecutionError then e else worker_error "isolated worker failed"

/-- `ContainerProposalWorker.propose(task)`. -/
def ContainerProposalWorker.propose (worker : ContainerProposalWorker) (task : WorkerInput) :
    Program WorkerResult := do
  Prog.lift (raise_if (worker.used = true) (worker_error "isolated worker unavailable"))
  let available ← ask .directories
  Prog.lift (raise_if (available = false) (worker_error "isolated worker unavailable"))
  let proposal ← (run_container worker task).handle fun e => clean_up.bind fun _ => .raise (redacted e)
  clean_up
  return proposal

end Programs

/-! ## What the processes note -/

/-- What the host notes: the calls of its channel, and the exit status of the child. -/
inductive Note : Type
  | called (payload timeout_seconds : Json) (answer : Except Exn (Arg ChannelResult))
  | exited (returncode : ℤ)

/-- What an answer adds to the notes. -/
def note : (query : Query) → query.Ans → List Note
  | .create_chat_completion payload timeout_seconds, answer => [.called payload timeout_seconds answer]
  | .wait, .ok returncode => [.exited returncode]
  | .wait, .error _ => []
  | .directories, _ => []
  | .host_step _, _ => []
  | .cleanup, _ => []
  | .child_check _, _ => []
  | .probe_network, _ => []

/-- `docker run` exits with the status of its program: with 0 only where the child returned. -/
def truth : Note → Program (WorkerInput × WorkerResult) → Prop
  | .called _ _ _, _ => True
  | .exited returncode, child => returncode = 0 → ∃ result, child = .ret result

/-- What a process has done so far. -/
abbrev Trace : Type := Pipes.Trace UInt8 Note

/-- From trace `t`, the process returns with `Q`, whatever it is answered. -/
abbrev Returns {α : Type} (Q : α → Trace → Prop) (p : Program α) (t : Trace) : Prop :=
  Pipes.Returns note Q p t

section Specs

variable {α β : Type} {t : Trace}

theorem lift_returns {x : Except Exn α} : Returns (fun a t' => x = .ok a ∧ t' = t) (Prog.lift x) t :=
  Pipes.Returns.lift fun _ h => ⟨h, rfl⟩

theorem ask_returns (query : Query) :
    Returns (fun answer t' => t' = t.keep (note query answer)) (ask query) t :=
  Pipes.Returns.ask fun _ => Pipes.Returns.ret rfl

theorem check_returns (condition : ChildCheck) (e : Exn) :
    Returns (fun _ t' => t' = t) (check condition e) t := by
  refine Pipes.Returns.bind ((ask_returns _).mono ?_)
  rintro holds _ rfl
  refine lift_returns.mono ?_
  rintro _ _ ⟨-, rfl⟩
  exact Pipes.Trace.keep_nil

/-- A step of the host that may raise, and leaves no note. -/
theorem host_step_returns (step : HostStep) :
    Returns (fun _ t' => t' = t) (attempt (ask (.host_step step))) t := by
  refine Pipes.Returns.bind ((ask_returns (.host_step step)).mono ?_)
  rintro answer _ rfl
  refine lift_returns.mono ?_
  rintro _ _ ⟨-, rfl⟩
  exact Pipes.Trace.keep_nil

/-- An exception is replaced by another. -/
theorem reraised_returns {Q : α → Trace → Prop} {p : Program α} {e : Exn} (h : Returns Q p t) :
    Returns Q (p.handle fun _ => .raise e) t :=
  Pipes.Returns.handle h fun _ _ => Pipes.Returns.raise e

theorem open_channel_returns (model_timeout_seconds : Json) :
    Returns (fun _ t' => t' = t) (open_channel model_timeout_seconds) t := by
  refine Pipes.Returns.bind ((check_returns _ _).mono ?_)
  rintro _ _ rfl
  refine lift_returns.mono ?_
  rintro _ _ ⟨-, rfl⟩
  rfl

/-- The child has ended, with this status. -/
theorem wait_returns {e : Exn} :
    Returns (fun returncode t' => t' = t.keep [.exited returncode])
      ((do
        attempt (ask (.host_step .close_stdin))
        attempt (ask .wait) : Program ℤ).handle fun _ => .raise e) t := by
  refine reraised_returns (Pipes.Returns.bind ((host_step_returns .close_stdin).mono ?_))
  rintro _ _ rfl
  refine Pipes.Returns.bind ((ask_returns .wait).mono ?_)
  rintro answer _ rfl
  refine lift_returns.mono ?_
  rintro returncode _ ⟨hanswer, rfl⟩
  rw [show answer = .ok returncode from hanswer]
  rfl

theorem clean_up_returns : Returns (fun _ t' => t' = t) clean_up t := by
  refine Pipes.Returns.bind ((ask_returns .cleanup).mono ?_)
  rintro confirmed _ rfl
  refine lift_returns.mono ?_
  rintro _ _ ⟨-, rfl⟩
  exact Pipes.Trace.keep_nil

/-- The worker, with a channel that does something. -/
theorem deepseek_returns
    {create : (payload timeout_seconds : Json) → Program (Arg ChatCompletionsModelResult)}
    {R : Json → Arg ChatCompletionsModelResult → Trace → Prop} {timeout_seconds : Json}
    {task : WorkerInput}
    (hcreate : ∀ payload, Returns (R payload) (create payload timeout_seconds) t) :
    Returns (fun value t' => ∃ payload result, model_input task = .ok payload ∧
      checked_timeout timeout_seconds = .ok () ∧ model_output task result = .ok value ∧
        R payload result t')
        (DeepSeekProposalWorker.propose create timeout_seconds task) t := by
  refine Pipes.Returns.lift_bind fun payload hpayload => ?_
  have hcall : Returns (fun result t' => checked_timeout timeout_seconds = .ok () ∧ R payload result t')
      ((Prog.lift (checked_timeout timeout_seconds)).bind fun _ => create payload timeout_seconds) t :=
    Pipes.Returns.lift_bind fun _ hchecked => (hcreate payload).mono fun _ _ hR => ⟨hchecked, hR⟩
  refine Pipes.Returns.bind ((reraised_returns hcall).mono ?_)
  rintro result t' ⟨hchecked, hR⟩
  refine lift_returns.mono ?_
  rintro value _ ⟨hvalue, rfl⟩
  exact ⟨payload, result, hpayload, hchecked, hvalue, hR⟩

/-! ### Frames -/

theorem read_loop_returns (failed : Exn) (fuel remaining : ℕ) :
    Returns (fun data t' => data.length = remaining ∧ t' = t.receive data)
      (read_loop failed fuel remaining) t := by
  induction fuel generalizing remaining t with
  | zero =>
    cases remaining with
    | zero => exact Pipes.Returns.ret ⟨rfl, Pipes.Trace.receive_nil.symm⟩
    | succ remaining => exact Pipes.Returns.raise failed
  | succ fuel ih =>
    cases remaining with
    | zero => exact Pipes.Returns.ret ⟨rfl, Pipes.Trace.receive_nil.symm⟩
    | succ remaining =>
      refine Pipes.Returns.read (Pipes.Returns.raise failed) fun data hlimit => ?_
      cases data with
      | nil => exact Pipes.Returns.raise failed
      | cons byte chunk =>
        rw [List.length_cons] at hlimit
        refine Pipes.Returns.bind ((ih (remaining - chunk.length)).mono ?_)
        rintro rest _ ⟨hrest, rfl⟩
        refine Pipes.Returns.ret ⟨?_, Pipes.Trace.receive_receive _ _⟩
        rw [List.length_append, List.length_cons, hrest]
        omega

theorem read_body_returns (failed exceeds : Exn) (maximum : ℕ) :
    Returns (fun body t' => Within maximum body ∧ t' = t.receive (frame body))
      (read_body failed exceeds maximum)
      t := by
  refine Pipes.Returns.bind ((read_loop_returns failed _ _).mono ?_)
  rintro header _ ⟨hheader, rfl⟩
  refine Pipes.Returns.lift_bind fun _ hsize => ?_
  rw [raise_if_ok, not_or, Nat.not_lt] at hsize
  refine (read_loop_returns failed _ _).mono ?_
  rintro body _ ⟨hbody, rfl⟩
  have hlt := WorkerModelIPC.unpack_size_lt hheader
  refine ⟨⟨?_, by omega, by omega⟩, ?_⟩
  · rintro rfl
    exact hsize.1 hbody.symm
  · rw [Pipes.Trace.receive_receive, frame, hbody, WorkerModelIPC.pack_unpack_size hheader]

theorem write_returns (failed : Exn) (data : Bytes) :
    Returns (fun _ t' => t' = t.send data) (write failed data) t :=
  Pipes.Returns.write (fun _ _ => Pipes.Returns.raise failed) (Pipes.Returns.ret rfl)

/-- What is encoded has been bounded. -/
theorem encode_ok {limit : RecursionLimit} {invalid exceeds : Exn} {value : Json} {maximum : ℕ}
    {body : Bytes} : encode limit invalid exceeds value maximum = .ok body ↔
      (value.encodable false = true ∧ limit.dumps value = true) ∧ (body ≠ [] ∧ body.length ≤ maximum) ∧
        body = encode_utf8 (String.ofList (value.print false)) := by
  rw [encode, dumps]
  by_cases hvalue : value.encodable false = true ∧ limit.dumps value = true
  · rw [raise_if_ok.mpr (by simp [hvalue]), ok_bind]
    simp only [pure, Except.pure, ok_bind, raise_if_bind, Except.ok.injEq, hvalue, true_and,
      not_or, Nat.not_lt]
    constructor
    · rintro ⟨hbounded, rfl⟩
      exact ⟨hbounded, rfl⟩
    · rintro ⟨hbounded, rfl⟩
      exact ⟨hbounded, rfl⟩
  · have hraised : value.encodable false = false ∨ limit.dumps value = false := by
      rwa [not_and_or, Bool.not_eq_true, Bool.not_eq_true] at hvalue
    rw [raise_if, if_pos hraised]
    exact iff_of_false (by rintro ⟨⟩) fun h => hvalue h.1

theorem within_of_encode {limit : RecursionLimit} {invalid exceeds : Exn} {value : Json} {maximum : ℕ}
    {body : Bytes} (h : encode limit invalid exceeds value maximum = .ok body)
    (hmaximum : maximum < 4294967296) : Within maximum body := by
  obtain ⟨-, ⟨hne, hle⟩, -⟩ := encode_ok.mp h
  exact ⟨hne, hle, by omega⟩

theorem within_of_encode_json {limit : RecursionLimit} {value : Json} {maximum : ℕ} {body : Bytes}
    (h : _encode_json limit value maximum = .ok body) (hmaximum : maximum < 4294967296) :
    Within maximum body := by
  obtain ⟨-, h⟩ := raise_if_bind.mp h
  obtain ⟨hbounded, h⟩ := raise_if_bind.mp h
  obtain rfl := Except.ok.inj h
  rw [not_or, Nat.not_lt] at hbounded
  exact ⟨hbounded.1, hbounded.2, by omega⟩

/-- Some frames, one after the other. -/
def frames (bodies : List Bytes) : Bytes := bodies.flatMap frame

/-- The bodies of some statuses. -/
structure Statuses (n : ℕ) (bodies : List Bytes) : Prop where
  length : bodies.length = n
  within : ∀ body ∈ bodies, Within 4096 body

theorem Statuses.nil : Statuses 0 [] := ⟨rfl, by simp⟩

theorem Statuses.cons {n : ℕ} {body : Bytes} {bodies : List Bytes} (hbody : Within 4096 body)
    (h : Statuses n bodies) : Statuses (n + 1) (body :: bodies) :=
  ⟨by rw [List.length_cons, h.length], by simpa using ⟨hbody, h.within⟩⟩

theorem Statuses.append {n m : ℕ} {bodies bodies' : List Bytes} (h : Statuses n bodies)
    (h' : Statuses m bodies') :
    Statuses (n + m) (bodies ++ bodies') := by
  refine ⟨by rw [List.length_append, h.length, h'.length], fun body hbody => ?_⟩
  rcases List.mem_append.mp hbody with hbody | hbody
  · exact h.within body hbody
  · exact h'.within body hbody

/-- As many frames end at the same place. -/
theorem frames_append_inj {n : ℕ} {bodies bodies' : List Bytes} {later later' : Bytes}
    (h : Statuses n bodies) (h' : Statuses n bodies')
    (heq : frames bodies ++ later = frames bodies' ++ later') : later = later' := by
  induction n generalizing bodies bodies' with
  | zero =>
    obtain rfl := List.length_eq_zero_iff.mp h.length
    obtain rfl := List.length_eq_zero_iff.mp h'.length
    exact heq
  | succ n ih =>
    match bodies, bodies', h, h' with
    | body :: bodies, body' :: bodies', h, h' =>
      rw [frames, frames, List.flatMap_cons, List.flatMap_cons, List.append_assoc,
        List.append_assoc] at heq
      have hrest := (WorkerModelIPC.frame_append_inj (h.within body List.mem_cons_self).length_lt
        (h'.within body' List.mem_cons_self).length_lt heq).2
      exact ih ⟨Nat.succ.inj h.length, fun b hb => h.within b (List.mem_cons_of_mem _ hb)⟩
        ⟨Nat.succ.inj h'.length, fun b hb => h'.within b (List.mem_cons_of_mem _ hb)⟩ hrest

variable [Interpreters]

theorem host_read_returns (maximum : ℕ) :
    Returns (fun value t' => ∃ body, Within maximum body ∧
      _decode_json Interpreters.host body maximum = .ok value ∧ t' = t.receive (frame body))
        (_read_frame maximum) t := by
  refine Pipes.Returns.bind ((read_body_returns _ _ maximum).mono ?_)
  rintro body _ ⟨hwithin, rfl⟩
  refine lift_returns.mono ?_
  rintro value _ ⟨hvalue, rfl⟩
  exact ⟨body, hwithin, hvalue, rfl⟩

theorem host_write_returns (value : Json) (maximum : ℕ) :
    Returns (fun _ t' => ∃ body invalid exceeds,
      encode Interpreters.host invalid exceeds value maximum = .ok body ∧ t' = t.send (frame body))
        (_write_frame value maximum) t := by
  refine Pipes.Returns.lift_bind fun body hbody => (write_returns _ _).mono ?_
  rintro _ _ rfl
  exact ⟨body, _, _, hbody, rfl⟩

theorem child_read_returns (maximum : ℕ) :
    Returns (fun value t' => ∃ body, Within maximum body ∧ child_loads body = .ok value ∧
      t' = t.receive (frame body)) (read_frame maximum) t := by
  refine Pipes.Returns.bind ((read_body_returns _ _ maximum).mono ?_)
  rintro body _ ⟨hwithin, rfl⟩
  refine lift_returns.mono ?_
  rintro value _ ⟨hvalue, rfl⟩
  exact ⟨body, hwithin, hvalue, rfl⟩

theorem child_write_returns (value : Json) (maximum : ℕ) :
    Returns (fun _ t' => ∃ body invalid exceeds,
      encode Interpreters.child invalid exceeds value maximum = .ok body ∧ t' = t.send (frame body))
        (write_frame value maximum) t := by
  refine Pipes.Returns.lift_bind fun body hbody => (write_returns _ _).mono ?_
  rintro _ _ rfl
  exact ⟨body, _, _, hbody, rfl⟩

/-! ### Statuses -/

theorem expect_all_returns (statuses : List String) :
    Returns (fun _ t' => ∃ bodies, Statuses statuses.length bodies ∧ t' = t.receive (frames bodies))
      (expect_all statuses) t := by
  induction statuses generalizing t with
  | nil => exact Pipes.Returns.ret ⟨[], Statuses.nil, Pipes.Trace.receive_nil.symm⟩
  | cons expected rest ih =>
    have hexpect : Returns (fun _ t' => ∃ body, Within 4096 body ∧ t' = t.receive (frame body))
        (_expect_status expected) t := by
      refine Pipes.Returns.bind ((reraised_returns (host_read_returns 4096)).mono ?_)
      rintro value _ ⟨body, hwithin, -, rfl⟩
      refine lift_returns.mono ?_
      rintro _ _ ⟨-, rfl⟩
      exact ⟨body, hwithin, rfl⟩
    refine Pipes.Returns.bind (hexpect.mono ?_)
    rintro _ _ ⟨body, hbody, rfl⟩
    refine ih.mono ?_
    rintro _ _ ⟨bodies, hbodies, rfl⟩
    exact ⟨body :: bodies, hbodies.cons hbody, Pipes.Trace.receive_receive _ _⟩

/-- The trace with one more status. -/
theorem status_returns (value : String) :
    Returns (fun _ t' => ∃ body, Within 4096 body ∧ t' = t.send (frame body)) (status value) t := by
  refine (child_write_returns _ 4096).mono ?_
  rintro _ _ ⟨body, _, _, hbody, rfl⟩
  exact ⟨body, within_of_encode hbody (by omega), rfl⟩

theorem require_returns (condition : ChildCheck) (failure : String) :
    Returns (fun _ t' => t' = t) (require condition failure) t := by
  refine Pipes.Returns.bind ((ask_returns _).mono ?_)
  rintro holds _ rfl
  cases holds with
  | true => exact Pipes.Returns.ret Pipes.Trace.keep_nil
  | false => exact Pipes.Returns.never _ _ _

theorem import_all_returns (modules : List (String × String × String)) :
    Returns (fun _ t' => ∃ bodies, Statuses modules.length bodies ∧ t' = t.send (frames bodies))
      (import_all modules) t := by
  induction modules generalizing t with
  | nil => exact Pipes.Returns.ret ⟨[], Statuses.nil, Pipes.Trace.send_nil.symm⟩
  | cons entry rest ih =>
    obtain ⟨module_name, failure, success⟩ := entry
    refine Pipes.Returns.bind ((require_returns (.imports module_name) failure).mono ?_)
    rintro _ _ rfl
    refine Pipes.Returns.bind ((status_returns success).mono ?_)
    rintro _ _ ⟨body, hbody, rfl⟩
    refine ih.mono ?_
    rintro _ _ ⟨bodies, hbodies, rfl⟩
    exact ⟨body :: bodies, hbodies.cons hbody, Pipes.Trace.send_send _ _⟩

/-! ### The child -/

/-- An exception ends the child with a status. -/
theorem or_exit_returns {Q : α → Trace → Prop} {p : Program α} {value code : String}
    (h : Returns Q p t) :
    Returns Q (or_exit p value code) t := by
  refine Pipes.Returns.handle h fun e t => ?_
  split_ifs
  · exact Pipes.Returns.raise e
  · exact Pipes.Returns.never _ _ _

theorem start_up_returns :
    Returns (fun _ t' => ∃ bodies, Statuses 10 bodies ∧ t' = t.send (frames bodies)) start_up t := by
  refine Pipes.Returns.bind ((require_returns _ _).mono ?_)
  rintro _ _ rfl
  refine Pipes.Returns.bind ((status_returns _).mono ?_)
  rintro _ _ ⟨body, hbody, rfl⟩
  refine (import_all_returns _).mono ?_
  rintro _ _ ⟨bodies, hbodies, rfl⟩
  exact ⟨body :: bodies, hbodies.cons hbody, Pipes.Trace.send_send _ _⟩

theorem read_task_returns (isprintable : Char → Bool) :
    Returns (fun accepted t' => ∃ input envelope, Within MAX_REQUEST_BYTES input ∧
      child_loads input = .ok envelope ∧
      accept_task isprintable envelope = .ok accepted ∧ t' = t.receive (frame input))
        (read_task isprintable) t := by
  refine Pipes.Returns.bind ((child_read_returns _).mono ?_)
  rintro envelope _ ⟨input, hwithin, hinput, rfl⟩
  refine lift_returns.mono ?_
  rintro accepted _ ⟨haccepted, rfl⟩
  exact ⟨input, envelope, hwithin, hinput, haccepted, rfl⟩

theorem probe_network_returns : Returns (fun _ t' => t' = t) probe_network t := by
  refine Pipes.Returns.bind ((ask_returns _).mono ?_)
  rintro network_status _ rfl
  cases network_status with
  | direct_ip_unblocked => exact Pipes.Returns.never _ _ _
  | dns_unblocked => exact Pipes.Returns.never _ _ _
  | network_probes_blocked => exact Pipes.Returns.ret Pipes.Trace.keep_nil

theorem exchange_returns (request : Bytes) :
    Returns (fun result t' => ∃ response, Within MAX_RESPONSE_BYTES response ∧
      response_result response = .ok result ∧
      t' = (t.send (frame request)).receive (frame response)) (exchange request) t := by
  refine Pipes.Returns.bind ((write_returns _ _).mono ?_)
  rintro _ _ rfl
  refine Pipes.Returns.bind ((read_body_returns _ _ _).mono ?_)
  rintro response _ ⟨hwithin, rfl⟩
  refine lift_returns.mono ?_
  rintro result _ ⟨hresult, rfl⟩
  exact ⟨response, hwithin, hresult, rfl⟩

/-- What the child's channel has sent and received. -/
def Exchanged (t : Trace) (timeout_seconds payload : Json)
    (result : Arg ChatCompletionsModelResult) (t' : Trace) :
    Prop :=
  ∃ request response value, encoded_request (to_float timeout_seconds) payload = .ok request ∧
    Within MAX_RESPONSE_BYTES response ∧ response_result response = .ok value ∧ result = .of value ∧
    t' = (t.send (frame request)).receive (frame response)

theorem channel_returns (maximum payload timeout_seconds : Json) :
    Returns (fun result t' => Exchanged t timeout_seconds payload result t')
      (StdioChatCompletionsChannel.create_chat_completion maximum payload timeout_seconds) t := by
  refine Pipes.Returns.lift_bind fun limit _ => Pipes.Returns.lift_bind fun timeout htimeout => ?_
  obtain rfl : to_float timeout_seconds = timeout := Except.ok.inj (raise_if_bind.mp htimeout).2
  refine Pipes.Returns.bind ((reraised_returns lift_returns).mono ?_)
  rintro request _ ⟨hrequest, rfl⟩
  refine Pipes.Returns.bind ((check_returns _ _).mono ?_)
  rintro _ _ rfl
  refine Pipes.Returns.bind ((Pipes.Returns.handle (exchange_returns request)
    fun _ _ => Pipes.Returns.never _ _ _).mono ?_)
  rintro value t' ⟨response, hwithin, hresponse, ht'⟩
  refine Pipes.Returns.bind ((check_returns _ _).mono ?_)
  rintro _ _ rfl
  exact Pipes.Returns.ret ⟨request, response, value, hrequest, hwithin, hresponse, rfl, ht'⟩

/-- The bodies of the frames of one exchange. -/
structure Bodies : Type where
  input : Bytes
  statuses : List Bytes
  request : Bytes
  response : Bytes
  last : Bytes

/-- What a child that has ended with status 0 has read and written. -/
structure ChildEnded (isprintable : Char → Bool) (done : WorkerInput × WorkerResult) (b : Bodies)
    (t : Trace) :
    Prop where
  statuses : Statuses 13 b.statuses
  within : Within MAX_REQUEST_BYTES b.input ∧ Within MAX_RESPONSE_BYTES b.response
  task : ∃ envelope timeout payload, child_loads b.input = .ok envelope ∧
    accept_task isprintable envelope = .ok (done.1, timeout) ∧ model_input done.1 = .ok payload ∧
    checked_timeout timeout = .ok () ∧ encoded_request (to_float timeout) payload = .ok b.request
  result : ∃ value, response_result b.response = .ok value ∧
    model_output done.1 (.of value) = .ok done.2
  last : ∃ invalid exceeds,
    encode Interpreters.child invalid exceeds (result_frame done.2) MAX_RESPONSE_BYTES = .ok b.last
  received : t.received = frame b.input ++ frame b.response
  sent : t.sent = frames b.statuses ++ (frame b.request ++ frame b.last)

theorem worker_child_returns (isprintable : Char → Bool) :
    Returns (fun done t' => ∃ b, ChildEnded isprintable done b t')
      (worker_child isprintable) .start := by
  -- one stage after another; each says what the child has read and sent by then
  refine Pipes.Returns.bind (start_up_returns.mono ?_)
  rintro _ _ ⟨first, hfirst, rfl⟩
  refine Pipes.Returns.bind ((or_exit_returns (read_task_returns isprintable)).mono ?_)
  rintro ⟨task, timeout⟩ _ ⟨input, envelope, hinput, henvelope, haccepted, rfl⟩
  refine Pipes.Returns.bind ((status_returns _).mono ?_)
  rintro _ _ ⟨accepted, hstatus, rfl⟩
  refine Pipes.Returns.bind (probe_network_returns.mono ?_)
  rintro _ _ rfl
  refine Pipes.Returns.bind ((status_returns _).mono ?_)
  rintro _ _ ⟨blocked, hblocked, rfl⟩
  refine Pipes.Returns.bind ((open_channel_returns _).mono ?_)
  rintro maximum _ rfl
  refine Pipes.Returns.bind ((status_returns _).mono ?_)
  rintro _ _ ⟨ready, hready, rfl⟩
  refine Pipes.Returns.bind ((or_exit_returns (deepseek_returns fun payload =>
    channel_returns maximum payload timeout)).mono ?_)
  rintro proposal _ ⟨payload, _, hpayload, hchecked, hvalue, request, response, value, hrequest,
    hresponse, hresult, rfl, rfl⟩
  refine Pipes.Returns.bind ((child_write_returns _ _).mono ?_)
  rintro _ _ ⟨last, invalid, exceeds, hlast, rfl⟩
  refine Pipes.Returns.ret ⟨⟨input, first ++ [accepted, blocked, ready], request, response, last⟩, ?_⟩
  -- the last three statuses follow those of the start-up
  have hlater : Statuses 3 [accepted, blocked, ready] :=
    Statuses.nil.cons hready |>.cons hblocked |>.cons hstatus
  refine ⟨hfirst.append hlater, ⟨hinput, hresponse⟩,
    ⟨envelope, timeout, payload, henvelope, haccepted, hpayload,
    hchecked, hrequest⟩, ⟨value, hresult, hvalue⟩, ⟨invalid, exceeds, hlast⟩, ?_, ?_⟩
  · simp [Pipes.Trace.start, Pipes.Trace.send, Pipes.Trace.receive]
  · simp [Pipes.Trace.start, Pipes.Trace.send, Pipes.Trace.receive, frames]

/-! ### The host -/

/-- What a host that has returned has read, written and noted. -/
structure HostReturned (worker : ContainerProposalWorker) (task : WorkerInput)
    (proposal : WorkerResult) (b : Bodies) (t : Trace) : Prop where
  statuses : Statuses 13 b.statuses
  within : Within MAX_REQUEST_BYTES b.request ∧ Within MAX_RESPONSE_BYTES b.last
  input : ∃ invalid exceeds, encode Interpreters.host invalid exceeds
    (record (input_fields task worker.model_timeout_seconds)) MAX_REQUEST_BYTES = .ok b.input
  call : ∃ payload request requested result response invalid exceeds,
    build_chat_completions_payload task = .ok payload ∧
    _decode_json Interpreters.host b.request MAX_REQUEST_BYTES = .ok request ∧
    check_request worker.model_timeout_seconds payload request = .ok requested ∧
    response_of result = .ok response ∧
    encode Interpreters.host invalid exceeds response MAX_RESPONSE_BYTES = .ok b.response ∧
    t.notes = [.called requested.2 requested.1 (.ok result), .exited 0]
  last : ∃ result_json, _decode_json Interpreters.host b.last MAX_RESPONSE_BYTES = .ok result_json ∧
    _validated_proposal result_json task = .ok proposal
  sent : t.sent = frame b.input ++ frame b.response
  received : t.received = frames b.statuses ++ (frame b.request ++ frame b.last)

theorem call_channel_returns (payload timeout_seconds : Json) :
    Returns (fun response t' => ∃ result, response_of result = .ok response ∧
      t' = t.keep [.called payload timeout_seconds (.ok result)])
        (call_channel payload timeout_seconds) t := by
  refine reraised_returns (Pipes.Returns.bind (Pipes.Returns.bind
    ((ask_returns (.create_chat_completion payload timeout_seconds)).mono ?_)))
  rintro answer _ rfl
  refine lift_returns.mono ?_
  rintro result _ ⟨hresult, rfl⟩
  refine lift_returns.mono ?_
  rintro response _ ⟨hresponse, rfl⟩
  refine ⟨result, hresponse, ?_⟩
  rw [show answer = .ok result from hresult]
  rfl

theorem converse_returns (worker : ContainerProposalWorker) (task : WorkerInput) :
    Returns (fun proposal t' => ∃ b, HostReturned worker task proposal b t')
      (converse worker task) .start := by
  -- the host's side of the same conversation, stage by stage
  refine Pipes.Returns.bind ((host_write_returns _ _).mono ?_)
  rintro _ _ ⟨input, invalid, exceeds, hinput, rfl⟩
  refine Pipes.Returns.bind ((expect_all_returns _).mono ?_)
  rintro _ _ ⟨statuses, hstatuses, rfl⟩
  refine Pipes.Returns.bind ((host_read_returns _).mono ?_)
  rintro request_json _ ⟨request, hrequest, hdecoded, rfl⟩
  refine Pipes.Returns.lift_bind fun payload hpayload => ?_
  refine Pipes.Returns.lift_bind fun requested hrequested => ?_
  refine Pipes.Returns.bind ((host_step_returns .assert_container).mono ?_)
  rintro _ _ rfl
  refine Pipes.Returns.bind ((call_channel_returns _ _).mono ?_)
  rintro response_json _ ⟨result, hresult, rfl⟩
  refine Pipes.Returns.bind ((host_write_returns _ _).mono ?_)
  rintro _ _ ⟨response, invalid', exceeds', hresponse, rfl⟩
  refine Pipes.Returns.bind ((host_read_returns _).mono ?_)
  rintro result_json _ ⟨last, hlast, hjson, rfl⟩
  refine Pipes.Returns.lift_bind fun proposal hproposal => ?_
  refine Pipes.Returns.bind (wait_returns.mono ?_)
  rintro returncode _ rfl
  refine Pipes.Returns.lift_bind fun _ hcode => ?_
  obtain rfl : returncode = 0 := not_not.mp (raise_if_ok.mp hcode)
  refine Pipes.Returns.ret ⟨⟨input, statuses, request, response, last⟩, hstatuses, ⟨hrequest, hlast⟩,
    ⟨invalid, exceeds, hinput⟩, ⟨payload, request_json, requested, result, response_json, invalid',
      exceeds', hpayload,
      hdecoded, hrequested, hresult, hresponse, ?_⟩, ⟨result_json, hjson, hproposal⟩, ?_, ?_⟩
  · simp [Pipes.Trace.start, Pipes.Trace.send, Pipes.Trace.receive, Pipes.Trace.keep]
  · simp [Pipes.Trace.start, Pipes.Trace.send, Pipes.Trace.receive, Pipes.Trace.keep]
  · simp [Pipes.Trace.start, Pipes.Trace.send, Pipes.Trace.receive, Pipes.Trace.keep]

theorem propose_returns (worker : ContainerProposalWorker) (task : WorkerInput) :
    Returns (fun proposal t' => ∃ b, HostReturned worker task proposal b t')
      (worker.propose task) .start := by
  refine Pipes.Returns.lift_bind fun _ _ => Pipes.Returns.bind ((ask_returns .directories).mono ?_)
  rintro available _ rfl
  rw [show Pipes.Trace.start.keep (note .directories available) =
    Pipes.Trace.start from Pipes.Trace.keep_nil]
  refine Pipes.Returns.lift_bind fun _ _ => ?_
  have hrun : Returns (fun proposal t' => ∃ b, HostReturned worker task proposal b t')
    (run_container worker task)
      .start := by
    refine Pipes.Returns.bind ((host_step_returns .stage_worker_schemas).mono ?_)
    rintro _ _ rfl
    refine Pipes.Returns.bind ((host_step_returns .image_environment).mono ?_)
    rintro _ _ rfl
    refine Pipes.Returns.bind ((reraised_returns (host_step_returns .popen)).mono ?_)
    rintro _ _ rfl
    exact converse_returns worker task
  refine Pipes.Returns.bind ((Pipes.Returns.handle hrun fun _ _ => Pipes.Returns.never _ _ _).mono ?_)
  rintro proposal t' hreturned
  refine Pipes.Returns.bind (clean_up_returns.mono ?_)
  rintro _ _ rfl
  exact Pipes.Returns.ret hreturned

end Specs

/-! ## What crosses the pipes -/

section Frames

variable {limit limit' : RecursionLimit} {invalid exceeds : Exn} {value value' : Json} {maximum : ℕ}
  {body : Bytes}

/-- The encoders differ in their errors only. -/
theorem encode_json_of_encode (h : encode limit invalid exceeds value maximum = .ok body) :
    _encode_json limit value maximum = .ok body := by
  obtain ⟨⟨hencodable, hdumps⟩, ⟨hne, hle⟩, rfl⟩ := encode_ok.mp h
  rw [_encode_json, raise_if_ok.mpr (by simp [hencodable, hdumps]), ok_bind]
  dsimp only
  rw [raise_if_ok.mpr (by simp [hne, hle]), ok_bind]
  rfl

/-- The host reads what was encoded. -/
theorem decoded_of_encode (hw : value.wf) (hp : value.plain)
    (h : encode limit invalid exceeds value maximum = .ok body)
    (h' : _decode_json limit' body maximum = .ok value') : value' = value :=
  WorkerModelIPC.decoded_encoded hw hp (encode_json_of_encode h) h'

/-- The parser of model outputs reads what was rendered. -/
theorem parsed_of_dumps {output : String} {parsed : Json} (hw : value.wf) (hp : value.plain)
    (houtput : dumps limit invalid value = .ok output)
    (h : Proposal.parsed_output (.text output) = .ok parsed) : parsed = value := by
  obtain ⟨hencodable, hdumps⟩ := raise_if_bind.mp houtput
  rw [not_or, Bool.not_eq_false] at hencodable
  obtain rfl := Except.ok.inj hdumps
  rw [Proposal.parsed_output] at h
  obtain ⟨-, h⟩ := raise_if_bind.mp h
  obtain ⟨text', htext, h⟩ := bind_ok.mp h
  obtain rfl := Except.ok.inj htext
  obtain ⟨-, h⟩ := raise_if_bind.mp h
  rw [Json.loads_with_reads hw hp (Json.reads_encodable (fun _ h => if_pos h) hw hp hencodable.1)] at h
  exact (Except.ok.inj h).symm

variable [Interpreters]

/-- The child reads what was encoded, where its limit allows it. -/
theorem child_loads_encoded (hw : value.wf) (hp : value.plain)
    (h : encode limit invalid exceeds value maximum = .ok body) : child_loads body =
      if Interpreters.child.loads value = true then .ok value
      else .error ⟨.RuntimeError, "maximum recursion depth exceeded"⟩ := by
  obtain ⟨⟨hencodable, -⟩, -, rfl⟩ := encode_ok.mp h
  have hkeeps : child_hooks.Keeps := fun _ h => if_pos h
  have hloads : Json.loads_with child_hooks (String.ofList (value.print false)) = some value :=
    Json.loads_with_reads hw hp (Json.reads_encodable hkeeps hw hp hencodable)
  rw [child_loads, or_raise_ok.mpr (decode_utf8_some.mpr rfl), ok_bind, or_raise_ok.mpr hloads, ok_bind]
  cases Interpreters.child.loads value with
  | true => rfl
  | false => rfl

/-- It reads nothing else. -/
theorem child_loads_of_encode (hw : value.wf) (hp : value.plain)
    (h : encode limit invalid exceeds value maximum = .ok body) (h' : child_loads body = .ok value') :
    value' = value := by
  rw [child_loads_encoded hw hp h] at h'
  split_ifs at h'
  exact (Except.ok.inj h').symm

end Frames

/-! ### The task -/

section Task

variable {task : WorkerInput} {timeout : Json}

theorem entry_wf (entry : String × String) : (entry_json entry).wf ∧ (entry_json entry).plain := by
  constructor
  · refine Json.wf_record (by simp) ?_
    simp only [List.forall_mem_cons, List.not_mem_nil, false_imp_iff, implies_true, and_true]
    exact ⟨text.wf_json _, text.wf_json _⟩
  · refine Json.plain_record ?_
    simp only [List.forall_mem_cons, List.not_mem_nil, false_imp_iff, implies_true, and_true]
    exact ⟨text.plain_json _, text.plain_json _⟩

theorem input_wf (htimeout : timeout.wf) : (record (input_fields task timeout)).wf := by
  refine Json.wf_record (by decide : INPUT_KEYS.Nodup) ?_
  simp only [input_fields, List.forall_mem_cons, List.not_mem_nil, false_imp_iff, implies_true,
    and_true]
  exact ⟨text.wf_json _, str.wf_json _, str.wf_json _, str.wf_json _, str.wf_json _, strs.wf_json _,
    optional_str.wf_json _, str.wf_json _, optional_text.wf_json _,
    Json.wf_items_iff.mpr (List.forall_mem_map.mpr fun entry _ => (entry_wf entry).1),
      optional_str.wf_json _, htimeout⟩

theorem input_plain (htimeout : timeout.plain) : (record (input_fields task timeout)).plain := by
  refine Json.plain_record ?_
  simp only [input_fields, List.forall_mem_cons, List.not_mem_nil, false_imp_iff, implies_true,
    and_true]
  exact ⟨text.plain_json _, str.plain_json _, str.plain_json _, str.plain_json _, str.plain_json _,
    strs.plain_json _, optional_str.plain_json _, str.plain_json _, optional_text.plain_json _,
    Json.plain_items_iff.mpr (List.forall_mem_map.mpr fun entry _ => (entry_wf entry).2),
      optional_str.plain_json _,
    htimeout⟩

theorem context_entry_json {entry entry' : String × String}
    (h : context_entry (entry_json entry) = .ok entry') :
    entry' = entry := by
  have hget := Json.get_record (entry_wf entry).1
  obtain ⟨path, hpath, h⟩ := bind_ok.mp h
  obtain ⟨content, hcontent, h⟩ := bind_ok.mp h
  obtain rfl := Except.ok.inj h
  have hpath' := (Codec.field_ok.mp hpath).symm.trans (hget ("path", text.json entry.1) (by simp))
  have hcontent' := (Codec.field_ok.mp hcontent).symm.trans
    (hget ("content", text.json entry.2) (by simp))
  rw [text.json_inj (Option.some.inj hpath'), text.json_inj (Option.some.inj hcontent')]

/-- **The child decodes the task that the host has encoded.** -/
theorem accept_task_input {isprintable : Char → Bool} {accepted : WorkerInput × Json}
    (htimeout : timeout.wf)
    (h : accept_task isprintable (record (input_fields task timeout)) = .ok accepted) :
    accepted = (task, timeout) := by
  have hw : (record (input_fields task timeout)).wf := input_wf htimeout
  have hget := Json.get_record hw
  have read {α : Type} {c : Codec Exn α} {key : String} {a b : α} (hfield : c.field envelope_error
      (record (input_fields task timeout)) key = .ok a)
        (hmem : (key, c.json b) ∈ input_fields task timeout) : a = b :=
    c.json_inj (Option.some.inj ((Codec.field_ok.mp hfield).symm.trans (hget _ hmem)))
  rw [accept_task] at h
  obtain ⟨-, h⟩ := raise_if_bind.mp h
  obtain ⟨seconds, hseconds, h⟩ := bind_ok.mp h
  obtain ⟨-, -, h⟩ := bind_ok.mp h
  obtain ⟨task', htask, h⟩ := bind_ok.mp h
  obtain rfl := Except.ok.inj h
  obtain rfl : seconds = timeout := Option.some.inj ((or_raise_ok.mp hseconds).symm.trans
    (hget ("model_timeout_seconds", timeout) (by simp [input_fields])))
  -- the ten fields in the order of the constructor's arguments
  rw [input_of] at htask
  obtain ⟨_, h₁, htask⟩ := bind_ok.mp htask
  obtain ⟨_, h₂, htask⟩ := bind_ok.mp htask
  obtain ⟨_, h₃, htask⟩ := bind_ok.mp htask
  obtain ⟨_, h₄, htask⟩ := bind_ok.mp htask
  obtain ⟨_, h₅, htask⟩ := bind_ok.mp htask
  obtain ⟨_, h₆, htask⟩ := bind_ok.mp htask
  obtain ⟨_, h₇, htask⟩ := bind_ok.mp htask
  obtain ⟨_, h₈, htask⟩ := bind_ok.mp htask
  obtain ⟨context, hcontext, htask⟩ := bind_ok.mp htask
  obtain ⟨items, hitems, htask⟩ := bind_ok.mp htask
  obtain ⟨files, hfiles, htask⟩ := bind_ok.mp htask
  obtain ⟨_, h₉, htask⟩ := bind_ok.mp htask
  obtain ⟨-, -, htask⟩ := bind_ok.mp htask
  obtain rfl := Except.ok.inj htask
  obtain rfl : context = .arr (task.context_files.map entry_json) :=
    Option.some.inj ((or_raise_ok.mp hcontext).symm.trans
      (hget ("context_files", .arr (task.context_files.map entry_json)) (by simp [input_fields])))
  obtain rfl : task.context_files.map entry_json = items := Except.ok.inj hitems
  have hcontext' : files = task.context_files := by
    rw [mapM_ok, List.forall₂_map_left_iff] at hfiles
    have hsame : List.Forall₂ Eq task.context_files files :=
      hfiles.imp fun entry entry' hentry => (context_entry_json hentry).symm
    rw [List.forall₂_eq_eq_eq] at hsame
    exact hsame.symm
  -- each is the field that the host wrote
  rw [read h₁ (b := task.process_id) (by simp [input_fields]),
    read h₂ (b := task.task_id) (by simp [input_fields]),
    read h₃ (b := task.repository_id) (by simp [input_fields]),
    read h₄ (b := task.base_commit) (by simp [input_fields]),
    read h₅ (b := task.declared_change_paths) (by simp [input_fields]),
    read h₆ (b := task.snapshot_tree_digest) (by simp [input_fields]),
    read h₇ (b := task.snapshot_origin) (by simp [input_fields]),
    read h₈ (b := task.task_instruction) (by simp [input_fields]), hcontext',
    read h₉ (b := task.snapshot_claim_digest) (by simp [input_fields])]

end Task

/-! ### The request -/

theorem text_wf (value : String) : (json_text value).wf := trivial
theorem text_plain (value : String) : (json_text value).plain := trivial

section Request

variable {task : WorkerInput} {payload timeout : Json}

theorem message_wf (role content : String) :
    (request_message role content).wf ∧ (request_message role content).plain := by
  constructor
  · refine Json.wf_record (by simp) ?_
    simp only [List.forall_mem_cons, List.not_mem_nil, false_imp_iff, implies_true, and_true]
    exact ⟨text_wf _, text_wf _⟩
  · refine Json.plain_record ?_
    simp only [List.forall_mem_cons, List.not_mem_nil, false_imp_iff, implies_true, and_true]
    exact ⟨text_plain _, text_plain _⟩

theorem payload_wf (h : build_chat_completions_payload task = .ok payload) :
    payload.wf ∧ payload.plain := by
  obtain ⟨instruction, -, h⟩ := bind_ok.mp h
  obtain rfl := Except.ok.inj h
  have hformat : (record [("type", json_text "json_object")]).wf ∧
    (record [("type", json_text "json_object")]).plain :=
    ⟨Json.wf_record (by simp) (by simpa using text_wf _),
      Json.plain_record (by simpa using text_plain _)⟩
  have hmessages := message_wf "user" (user_content instruction task.context_files)
  have hsystem := message_wf "system" SYSTEM_INSTRUCTION
  constructor
  · refine Json.wf_record (by simp [payload_fields]) ?_
    simp only [payload_fields, List.forall_mem_cons, List.not_mem_nil, false_imp_iff, implies_true,
      and_true]
    exact ⟨text_wf _, text_wf _, trivial, trivial, hformat.1,
      Json.wf_items_iff.mpr (by simpa using ⟨hsystem.1, hmessages.1⟩)⟩
  · refine Json.plain_record ?_
    simp only [payload_fields, List.forall_mem_cons, List.not_mem_nil, false_imp_iff, implies_true,
      and_true]
    exact ⟨text_plain _, text_plain _, trivial, trivial, hformat.2,
      Json.plain_items_iff.mpr (by simpa using ⟨hsystem.2, hmessages.2⟩)⟩

theorem request_wf (htimeout : timeout.wf ∧ timeout.plain) (hpayload : payload.wf ∧ payload.plain) :
    (record (request_fields timeout payload)).wf ∧ (record (request_fields timeout payload)).plain := by
  constructor
  · refine Json.wf_record (by simp [request_fields]) ?_
    simp only [request_fields, List.forall_mem_cons, List.not_mem_nil, false_imp_iff, implies_true,
      and_true]
    exact ⟨text_wf _, htimeout.1, hpayload.1⟩
  · refine Json.plain_record ?_
    simp only [request_fields, List.forall_mem_cons, List.not_mem_nil, false_imp_iff, implies_true,
      and_true]
    exact ⟨text_plain _, htimeout.2, hpayload.2⟩

variable [Interpreters]

/-- **The host calls its channel with what the child has encoded.** -/
theorem check_request_encoded {limit expected request : Json} {requested : Json × Json} {body : Bytes}
    (htimeout : timeout.wf ∧ timeout.plain) (hpayload : payload.wf ∧ payload.plain)
    (hbody : encoded_request timeout payload = .ok body)
    (hrequest : _decode_json Interpreters.host body MAX_REQUEST_BYTES = .ok request)
    (h : check_request limit expected request = .ok requested) : requested = (timeout, payload) := by
  obtain ⟨hw, hp⟩ := request_wf htimeout hpayload
  obtain ⟨_, -, hbody⟩ := bind_ok.mp hbody
  obtain rfl := WorkerModelIPC.decoded_encoded hw hp hbody hrequest
  have hget := Json.get_record hw
  rw [check_request] at h
  obtain ⟨-, h⟩ := raise_if_bind.mp h
  obtain ⟨seconds, hseconds, h⟩ := bind_ok.mp h
  obtain ⟨_, -, h⟩ := bind_ok.mp h
  obtain ⟨-, h⟩ := raise_if_bind.mp h
  obtain ⟨asked, hasked, h⟩ := bind_ok.mp h
  obtain ⟨-, h⟩ := raise_if_bind.mp h
  obtain ⟨_, -, h⟩ := bind_ok.mp h
  obtain rfl := Except.ok.inj h
  have hseconds' := (or_raise_ok.mp hseconds).symm.trans
    (hget ("timeout_seconds", timeout) (by simp [request_fields]))
  have hasked' := (or_raise_ok.mp hasked).symm.trans
    (hget ("payload", payload) (by simp [request_fields]))
  rw [Option.some.inj hseconds', Option.some.inj hasked']

end Request

/-! ### The result -/

/-- **The child receives the channel's result**, but for its reasoning. -/
theorem response_of_result [Interpreters] {result : Arg ChannelResult} {response : Json} {invalid exceeds : Exn}
    {body : Bytes} {value : ChatCompletionsModelResult} (hresult : response_of result = .ok response)
    (hbody : encode Interpreters.host invalid exceeds response MAX_RESPONSE_BYTES = .ok body)
    (h : response_result body = .ok value) : ∃ r, result = .of r ∧ value = r.val.without_reasoning := by
  obtain ⟨encoded, hencoded, hdecoded⟩ := bind_ok.mp hresult
  cases result with
  | other => cases hencoded
  | of r =>
    refine ⟨r, rfl, ?_⟩
    obtain ⟨_, -, h⟩ := bind_ok.mp h
    obtain ⟨-, h⟩ := raise_if_bind.mp h
    -- The host decodes its own response and encodes it once more: the bytes are the same.
    obtain ⟨choice, hr, hchoice⟩ := WorkerModelIPC.encoded_choice hencoded
    have hjson : ∀ j ∈ choice.message.tool_calls, j.wf ∧ j.plain :=
      r.property choice (by rw [hr]; exact List.mem_cons_self)
    obtain rfl := WorkerModelIPC.decoded_encoded (WorkerModelIPC.response_wf hjson)
      (WorkerModelIPC.response_plain hjson) hchoice hdecoded
    obtain rfl := Except.ok.inj ((encode_json_of_encode hbody).symm.trans hchoice)
    exact WorkerModelIPC.decoded_result r.property hencoded h

/-! ### The proposal -/

section Proposal

variable {task : WorkerInput}

theorem change_wf (change : String × String) : (change_json change).wf ∧ (change_json change).plain :=
  ⟨⟨trivial, trivial, trivial⟩, ⟨trivial, trivial, trivial⟩⟩

theorem result_frame_wf (result : WorkerResult) :
    (result_frame result).wf ∧ (result_frame result).plain := by
  cases result with
  | terminal outcome reason_code =>
    constructor
    · refine Json.wf_record (by simp) ?_
      simp only [List.forall_mem_cons, List.not_mem_nil, false_imp_iff, implies_true, and_true]
      exact ⟨text_wf _, text_wf _, trivial, text_wf _⟩
    · refine Json.plain_record ?_
      simp only [List.forall_mem_cons, List.not_mem_nil, false_imp_iff, implies_true, and_true]
      exact ⟨text_plain _, text_plain _, trivial, text_plain _⟩
  | proposal changes =>
    constructor
    · refine Json.wf_record (by simp) ?_
      simp only [List.forall_mem_cons, List.not_mem_nil, false_imp_iff, implies_true, and_true]
      exact ⟨text_wf _, Json.wf_items_iff.mpr
        (List.forall_mem_map.mpr fun change _ => (change_wf change).1)⟩
    · refine Json.plain_record ?_
      simp only [List.forall_mem_cons, List.not_mem_nil, false_imp_iff, implies_true, and_true]
      exact ⟨text_plain _, Json.plain_items_iff.mpr
        (List.forall_mem_map.mpr fun change _ => (change_wf change).2)⟩

theorem legacy_entry (change : String × String) :
    Proposal.entry_texts (record [("path", .str (.text change.1)),
      ("content", .str (.text change.2))]) =
      .ok (.text change.1, .text change.2) := by
  rfl

theorem legacy_wf (changes : List (PyStr × PyStr)) :
    (legacy_form changes).wf ∧ (legacy_form changes).plain := by
  have hentry (change : PyStr × PyStr) :
    (record [("path", .str change.1), ("content", .str change.2)]).wf ∧
      (record [("path", .str change.1), ("content", .str change.2)]).plain :=
    ⟨Json.wf_record (by simp) (by simpa using ⟨trivial, trivial⟩),
      Json.plain_record (by simpa using ⟨trivial, trivial⟩)⟩
  constructor
  · refine Json.wf_record (by simp) ?_
    simp only [List.forall_mem_cons, List.not_mem_nil, false_imp_iff, implies_true, and_true]
    exact Json.wf_items_iff.mpr (List.forall_mem_map.mpr fun change _ => (hentry change).1)
  · refine Json.plain_record ?_
    simp only [List.forall_mem_cons, List.not_mem_nil, false_imp_iff, implies_true, and_true]
    exact Json.plain_items_iff.mpr (List.forall_mem_map.mpr fun change _ => (hentry change).2)

theorem or_invalid_ok {α : Type} {x : Except Exn α} {a : α} (h : or_invalid x = .ok a) : x = .ok a := by
  cases x with
  | ok a => exact h
  | error e => cases h

variable [Interpreters]

/-- A rendered value is parsed as itself. -/
theorem parse_rendered_ok {value : Json} {result : WorkerResult} (hw : value.wf) (hp : value.plain)
    (h : parse_rendered value task = .ok result) :
      Proposal.parse_parsed value task.declared_texts = .ok result := by
  obtain ⟨output, houtput, h⟩ := bind_ok.mp h
  rw [parse_model_result] at h
  obtain ⟨_, hresult, h⟩ := bind_ok.mp h
  obtain rfl := Except.ok.inj hresult
  obtain ⟨-, h⟩ := raise_if_bind.mp h
  obtain ⟨-, h⟩ := raise_if_bind.mp h
  obtain ⟨_, htext, h⟩ := bind_ok.mp h
  obtain rfl := Option.some.inj (or_raise_ok.mp htext)
  obtain ⟨parsed, hparsed, h⟩ := bind_ok.mp h
  obtain ⟨-, h⟩ := raise_if_bind.mp h
  rwa [parsed_of_dumps hw hp houtput hparsed] at h

/-- A terminal outcome is parsed as itself. -/
theorem terminal_outcome_same {outcome reason_code : String} {result : WorkerResult}
    (h : terminal_outcome (result_frame (.terminal outcome reason_code)) task = .ok result) :
    result = .terminal outcome reason_code := by
  obtain ⟨hw, hp⟩ := result_frame_wf (.terminal outcome reason_code)
  obtain ⟨parsed, hparsed, h⟩ := bind_ok.mp h
  obtain ⟨-, h⟩ := raise_if_bind.mp h
  obtain rfl := Except.ok.inj h
  have hparse := parse_rendered_ok hw hp hparsed
  have houtcome : (result_frame (.terminal outcome reason_code)).get? "outcome" =
    some (json_text outcome) := rfl
  have hchanges : (result_frame (.terminal outcome reason_code)).get? "changes" = some .null := rfl
  have hreason : (result_frame (.terminal outcome reason_code)).get? "reason_code" =
    some (json_text reason_code) :=
    rfl
  have htext (value : String) : (some (json_text value)).bind Json.text? = some value := rfl
  rw [Proposal.parse_parsed, if_pos (by simp [houtcome])] at hparse
  obtain ⟨-, hparse⟩ := raise_if_bind.mp hparse
  rw [houtcome, htext] at hparse
  -- a proposal would need its changes, which this frame has as null
  split_ifs at hparse with hkind
  · obtain ⟨-, hparse⟩ := raise_if_bind.mp hparse
    rw [hchanges] at hparse
    cases hparse
  · rw [Proposal.parse_terminal, houtcome, htext] at hparse
    dsimp only at hparse
    split at hparse
    · cases hparse
    · rename_i expected _
      split_ifs at hparse with hwrong
      rw [hreason, htext, not_or] at hwrong
      obtain rfl : reason_code = expected := Option.some.inj (not_not.mp hwrong.2)
      exact (Except.ok.inj hparse).symm

/-- Changes are parsed as themselves. -/
theorem checked_proposal_same {changes : List (String × String)} {result : WorkerResult}
    (h : checked_proposal (changes.map change_json) task = .ok result) :
    result = .proposal changes := by
  obtain ⟨texts, htexts, h⟩ := bind_ok.mp h
  have hread : (changes.map change_json).mapM change_of =
      .ok (changes.map fun change => (PyStr.text change.1, PyStr.text change.2)) := by
    rw [mapM_ok, List.forall₂_map_left_iff, List.forall₂_map_right_iff, List.forall₂_same]
    exact fun _ _ => rfl
  obtain rfl := Except.ok.inj (htexts.symm.trans hread)
  obtain ⟨hw, hp⟩ := legacy_wf (changes.map fun change => (PyStr.text change.1, PyStr.text change.2))
  have hparse := parse_rendered_ok hw hp h
  have hlegacy : ¬ (["schema", "outcome", "reason_code"].any fun key =>
    ((legacy_form (changes.map fun change =>
      (PyStr.text change.1, PyStr.text change.2))).get? key).isSome) = true := by
    simp [legacy_form, record]
  have hchanges : (legacy_form (changes.map fun change =>
    (PyStr.text change.1, PyStr.text change.2))).get? "changes" =
      some (.arr (changes.map fun change =>
        record [("path", .str (.text change.1)), ("content", .str (.text change.2))])) := by
    rw [legacy_form, List.map_map]
    rfl
  rw [Proposal.parse_parsed, if_neg hlegacy] at hparse
  obtain ⟨-, hparse⟩ := raise_if_bind.mp hparse
  rw [hchanges, Proposal.parse_proposal] at hparse
  obtain ⟨entries, hentries, hparse⟩ := bind_ok.mp hparse
  obtain rfl := Except.ok.inj hentries
  obtain ⟨-, hparse⟩ := raise_if_bind.mp hparse
  obtain ⟨-, hparse⟩ := raise_if_bind.mp hparse
  obtain ⟨detached, hdetached, hparse⟩ := bind_ok.mp hparse
  obtain ⟨-, hparse⟩ := raise_if_bind.mp hparse
  obtain rfl := Except.ok.inj hparse
  -- detaching the changes keeps path and content of each
  have hsame := (Proposal.parse_changes_iff.mp hdetached).1
  rw [List.forall₂_map_left_iff] at hsame
  have heq : List.Forall₂ Eq changes detached := hsame.imp fun change change' hchange => by
    obtain ⟨hpath, hcontent⟩ := Prod.mk.inj (Except.ok.inj ((legacy_entry change).symm.trans hchange))
    exact Prod.ext (PyStr.text.inj hpath) (PyStr.text.inj hcontent)
  rw [List.forall₂_eq_eq_eq] at heq
  rw [heq]

/-- **The host parses the child's proposal as itself.** -/
theorem validated_proposal_same {result result' : WorkerResult}
    (h : _validated_proposal (result_frame result) task = .ok result') : result' = result := by
  rw [_validated_proposal] at h
  cases result with
  | terminal outcome reason_code =>
    rw [if_pos ⟨Json.has_keys_record [("schema", _), ("outcome", _), ("changes", _),
      ("reason_code", _)], rfl⟩] at h
    exact terminal_outcome_same (or_invalid_ok h)
  | proposal changes =>
    have hschema : (result_frame (.proposal changes)).get? "schema" =
      some (json_text PROPOSAL_SCHEMA) := rfl
    have hchanges : (result_frame (.proposal changes)).get? "changes" =
      some (.arr (changes.map change_json)) := rfl
    rw [hschema, if_neg (by rintro ⟨-, hwrong⟩; exact absurd hwrong (by decide))] at h
    obtain ⟨-, h⟩ := raise_if_bind.mp h
    rw [hchanges] at h
    exact checked_proposal_same (or_invalid_ok h)

end Proposal

end AppContracts.ContainerWorker
