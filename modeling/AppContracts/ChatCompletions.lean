/-
The proposal worker behind a model channel: `WorkerInput` of `executor.py`,
`DeepSeekProposalWorker` of `deepseek_worker.py`, and the request of
`worker_model_protocol.py`.

The worker asks its channel once. What it makes of the answer does not look at the
provider's reasoning.
-/
import AppContracts.ModelResult
import AppContracts.Validator
import AppContracts.WorkerModelResult

set_option autoImplicit false

namespace AppContracts.ChatCompletions

open GitHubSnapshot (_is_safe_relative_path is_digest json_text)
open Validator (py_eq)
open Interleave (Prog)
open Json (record)
open Proposal (WorkerResult ResponsesModelResult parse_model_result bytes_of encoded MAX_MODEL_OUTPUT_BYTES)
open WorkerModelIPC (ChatCompletionMessage ChatCompletionChoice ChatCompletionsModelResult)

/-! ## Worker inputs -/

/-- `MAX_TASK_INSTRUCTION_BYTES`. -/
def MAX_TASK_INSTRUCTION_BYTES : ℕ := 4096

/-- `MAX_CONTEXT_FILES`. -/
def MAX_CONTEXT_FILES : ℕ := 8

/-- `MAX_CONTEXT_FILE_BYTES`. -/
def MAX_CONTEXT_FILE_BYTES : ℕ := 12000

/-- `MAX_CONTEXT_TOTAL_BYTES`. -/
def MAX_CONTEXT_TOTAL_BYTES : ℕ := 20000

/-- `MAX_RENDERED_USER_BYTES`. -/
def MAX_RENDERED_USER_BYTES : ℕ := 20000

/-- `MAX_LOCAL_MODEL_TIMEOUT_SECONDS`. -/
def MAX_LOCAL_MODEL_TIMEOUT_SECONDS : ℚ := 180

/-- `MAX_REQUEST_BYTES`. -/
def MAX_REQUEST_BYTES : ℕ := 128000

/-- `MAX_RESPONSE_BYTES`. -/
def MAX_RESPONSE_BYTES : ℕ := 65536

/-- `WorkerInput`. The instruction and the context files have been encoded by its checks, so
they are text; the identifiers and the declared paths are any strings. -/
structure WorkerInput : Type where
  process_id : PyStr
  task_id : PyStr
  repository_id : PyStr
  base_commit : PyStr
  declared_change_paths : List PyStr
  snapshot_tree_digest : Option PyStr
  snapshot_origin : PyStr
  task_instruction : Option String
  context_files : List (String × String)
  snapshot_claim_digest : Option PyStr

/-- `ExecutionError("execution request: worker input is invalid")`. -/
def input_error : Exn := ⟨.ExecutionError, "execution request: worker input is invalid"⟩

/-- The declared paths without lone surrogates. A request declares safe paths only, whose normal
form keeps every part, so that one with a lone surrogate is no path of a proposal; a path that
is not safe, as `"\ud800/../a.py"`, could be. -/
def WorkerInput.declared_texts (task : WorkerInput) : List String :=
  task.declared_change_paths.filterMap fun path => (encoded input_error path).toOption

/-- The checks of the instruction; `isprintable` is that of one character. -/
def check_instruction (isprintable : Char → Bool) : Option String → Except Exn Unit
  | none => .ok ()
  | some instruction => do
    raise_if (instruction = "") input_error
    raise_if (MAX_TASK_INSTRUCTION_BYTES < bytes_of instruction) input_error
    raise_if ((instruction.toList.all fun c => c == '\n' || c == '\t' || isprintable c) =
      false) input_error

/-- The loop over the context files. -/
def check_context (declared : List PyStr) : List (String × String) → List String → ℕ → Except Exn Unit
  | [], _, _ => .ok ()
  | (path, text) :: rest, seen, total_bytes => do
    raise_if (path = "" ∨ .text path ∉ declared ∨ _is_safe_relative_path path = false) input_error
    raise_if (path ∈ seen) input_error
    raise_if (MAX_CONTEXT_FILE_BYTES < bytes_of text) input_error
    raise_if (MAX_CONTEXT_TOTAL_BYTES < total_bytes + (bytes_of path + bytes_of text)) input_error
    check_context declared rest (path :: seen) (total_bytes + (bytes_of path + bytes_of text))

/-- `_is_safe_digest(value)`. -/
def is_safe_digest : Option PyStr → Bool
  | some (.text value) => is_digest value
  | _ => false

/-- `WorkerInput.__post_init__`. -/
def WorkerInput.post_init (isprintable : Char → Bool) (task : WorkerInput) : Except Exn Unit := do
  check_instruction isprintable task.task_instruction
  raise_if (MAX_CONTEXT_FILES < task.context_files.length) input_error
  check_context task.declared_change_paths task.context_files [] 0
  if task.snapshot_origin ∈ [.text "github_rest_api_claim", .text "github_codeload_archive"] then
    raise_if (is_safe_digest task.snapshot_claim_digest = false) input_error
  else raise_if (task.snapshot_claim_digest ≠ none) input_error

/-! ## Timeouts -/

/-- `isinstance(value, (int, float))` of a value that is no bool. -/
def is_number : Json → Bool
  | .int _ => true
  | .float _ => true
  | _ => false

/-- `0 < value <= maximum`. -/
def within (value : Json) (maximum : ℚ) : Bool :=
  match value.number? with
  | some seconds => 0 < seconds && seconds ≤ maximum
  | none => false

/-! ## The request -/

/-- `_SYSTEM_INSTRUCTION`. -/
def SYSTEM_INSTRUCTION : String :=
  "Return only one JSON object with exactly these keys: schema, outcome, changes, reason_code. " ++
  "schema must be \"agent00x-worker-result/v2\". For a patch use outcome \"changes\", " ++
  "a non-empty changes array of \x7b\"path\":\"relative/path\",\"content\":\"complete file text\"\x7d, " ++
  "and reason_code null. For no-patch outcomes set changes null and use exactly one pair: " ++
  "\"clarification_required\" / \"conflicting_requirements\", \"blocked\" / " ++
  "\"target_test_outcome_unknown\", or \"denied\" / \"publication_not_authorized\". " ++
  "Do not use markdown fences, extra keys, free-form explanations, or tool calls."

/-- `user_content`. -/
def user_content (instruction : String) (context : List (String × String)) : String :=
  context.foldl (fun content entry => content ++ "\n\nContext file: " ++ entry.1 ++ "\n" ++
    entry.2) instruction

/-- A message of the request. -/
def request_message (role content : String) : Json :=
  record [("role", json_text role), ("content", json_text content)]

/-- The fields of the payload. -/
def payload_fields (instruction : String) (context : List (String × String)) : List (String × Json) :=
  [("model", json_text "deepseek-flash"), ("reasoning_effort", json_text "low"),
    ("max_tokens", .int 4096),
    ("stream", .bool false), ("response_format", record [("type", json_text "json_object")]),
    ("messages", .arr [request_message "system" SYSTEM_INSTRUCTION,
      request_message "user" (user_content instruction context)])]

/-- `build_chat_completions_payload(task)`; without an instruction its assertion fails. -/
def build_chat_completions_payload (task : WorkerInput) : Except Exn Json := do
  let instruction ← or_raise ⟨.Exception, ""⟩ task.task_instruction
  return record (payload_fields instruction task.context_files)

/-- A message that the protocol admits. -/
def is_message (message : Json) : Bool :=
  message.has_keys ["role", "content"] &&
    ((message.get? "role").any is_str && (message.get? "content").any is_str)
where
  /-- `type(value) is str`. -/
  is_str : Json → Bool
    | .str _ => true
    | _ => false

/-- The messages of the request. -/
def are_messages : Option Json → Bool
  | some (.arr [system, user]) => is_message system && is_message user &&
      ((system.get? "role").bind Json.text? == some "system" &&
        (user.get? "role").bind Json.text? == some "user")
  | _ => false

/-- `max_tokens` is an int of the range. -/
def is_token_limit : Option Json → Bool
  | some (.int n) => 0 < n && n ≤ 4096
  | _ => false

/-- `stream` is `False`. -/
def is_false : Option Json → Bool
  | some (.bool false) => true
  | _ => false

/-- `encode_chat_completions_request(payload)`. -/
def encode_chat_completions_request (payload : Json) : Except Exn Bytes := do
  raise_if (payload.has_keys ["model", "reasoning_effort", "max_tokens", "stream",
    "response_format", "messages"]
    = false) ⟨.ModelRequestProtocolError, "invalid"⟩
  raise_if ((payload.get? "model").bind Json.text? ≠ some "deepseek-flash" ∨
    (payload.get? "reasoning_effort").bind Json.text? ≠ some "low" ∨
      is_false (payload.get? "stream") = false ∨
    is_token_limit (payload.get? "max_tokens") = false) ⟨.ModelRequestProtocolError, "invalid"⟩
  let response_format ← or_raise ⟨.ModelRequestProtocolError, "invalid"⟩
    (payload.get? "response_format")
  raise_if (py_eq response_format (record [("type", json_text "json_object")]) = false)
    ⟨.ModelRequestProtocolError, "invalid"⟩
  raise_if (are_messages (payload.get? "messages") = false) ⟨.ModelRequestProtocolError, "invalid"⟩
  raise_if (payload.encodable false = false) ⟨.ModelRequestProtocolError, "invalid"⟩
  let encoded := encode_utf8 (String.ofList (payload.print false))
  raise_if (MAX_REQUEST_BYTES < encoded.length) ⟨.ModelRequestProtocolError, "too_large"⟩
  return encoded

/-! ## The worker -/

/-- `ExecutionError("execution worker: model input is invalid")`. -/
def model_input_error : Exn := ⟨.ExecutionError, "execution worker: model input is invalid"⟩

/-- `ExecutionError("execution worker: provider request failed")`. -/
def request_failed : Exn := ⟨.ExecutionError, "execution worker: provider request failed"⟩

/-- What precedes the call: the payload. -/
def model_input (task : WorkerInput) : Except Exn Json := do
  let instruction ← or_raise model_input_error task.task_instruction
  raise_if (instruction = "") model_input_error
  raise_if (task.context_files = []) model_input_error
  let payload ← build_chat_completions_payload task
  raise_if (MAX_RENDERED_USER_BYTES < bytes_of
    (user_content instruction task.context_files)) model_input_error
  return payload

/-- The check of `timeout_seconds`. -/
def checked_timeout (timeout_seconds : Json) : Except Exn Unit :=
  raise_if (is_number timeout_seconds = false ∨
    within timeout_seconds MAX_LOCAL_MODEL_TIMEOUT_SECONDS = false)
    ⟨.ValueError, ""⟩

/-- What `_extract_content` returns of a choice. -/
def choice_content (choice : ChatCompletionChoice) : Except Exn String := do
  raise_if (choice.finish_reason ≠ .text "stop") Proposal.response_error
  raise_if (choice.message.role ≠ .text "assistant" ∨ choice.message.tool_calls ≠ [] ∨
    choice.message.refusal ≠ none) Proposal.response_error
  let output ← or_raise Proposal.response_error choice.message.content
  raise_if (output = .text "") Proposal.response_error
  let output ← encoded Proposal.response_error output
  raise_if (MAX_MODEL_OUTPUT_BYTES < bytes_of output) Proposal.response_error
  return output

/-- `_extract_content(result)`. -/
def _extract_content : Arg ChatCompletionsModelResult → Except Exn String
  | .of ⟨[choice]⟩ => choice_content choice
  | _ => .error Proposal.response_error

/-- What follows the call. -/
def model_output (task : WorkerInput) (result : Arg ChatCompletionsModelResult) :
    Except Exn WorkerResult := do
  let output ← _extract_content result
  parse_model_result (.of ⟨.text "completed", some (.text output), none⟩) task.declared_texts

/-- `DeepSeekProposalWorker(channel, timeout_seconds).propose(task)`; `create` is the channel's
`create_chat_completion`. -/
def DeepSeekProposalWorker.propose {Op : Type} {Res : Op → Type}
    (create : (payload timeout_seconds : Json) → Prog Op Res Exn (Arg ChatCompletionsModelResult))
    (timeout_seconds : Json) (task : WorkerInput) : Prog Op Res Exn WorkerResult :=
  (Prog.lift (model_input task)).bind fun payload =>
    (((Prog.lift (checked_timeout timeout_seconds)).bind fun _ => create payload timeout_seconds).handle
      fun _ => .raise request_failed).bind fun result =>
        Prog.lift (model_output task result)

/-! ## What the worker makes of an answer -/

/-- The provider's reasoning is not looked at. -/
theorem extract_without_reasoning (result : ChatCompletionsModelResult) :
    _extract_content (.of result.without_reasoning) = _extract_content (.of result) := by
  obtain ⟨choices⟩ := result
  match choices with
  | [] => rfl
  | [_] => rfl
  | _ :: _ :: _ => rfl

theorem model_output_without_reasoning (task : WorkerInput) (result : ChatCompletionsModelResult) :
    model_output task (.of result.without_reasoning) = model_output task (.of result) := by
  rw [model_output, extract_without_reasoning]
  rfl

/-- A result that is taken calls no tool. -/
theorem extract_no_calls {result : ChatCompletionsModelResult} {output : String}
    (h : _extract_content (.of result) = .ok output) :
    ∃ choice, result.choices = [choice] ∧ choice.message.tool_calls = [] := by
  obtain ⟨choices⟩ := result
  match choices, h with
  | [choice], h =>
    refine ⟨choice, rfl, ?_⟩
    change choice_content choice = _ at h
    rw [choice_content] at h
    obtain ⟨-, h⟩ := raise_if_bind.mp h
    obtain ⟨hmessage, -⟩ := raise_if_bind.mp h
    simp only [not_or, not_not] at hmessage
    exact hmessage.2.1

/-- The payload of an accepted input is the one that `build_chat_completions_payload` builds. -/
theorem model_input_ok {task : WorkerInput} {payload : Json} (h : model_input task = .ok payload) :
    build_chat_completions_payload task = .ok payload := by
  rw [model_input] at h
  obtain ⟨instruction, -, h⟩ := bind_ok.mp h
  obtain ⟨-, h⟩ := raise_if_bind.mp h
  obtain ⟨-, h⟩ := raise_if_bind.mp h
  obtain ⟨payload', hpayload, h⟩ := bind_ok.mp h
  obtain ⟨-, h⟩ := raise_if_bind.mp h
  rw [hpayload, Except.ok.inj h]

/-- **The worker over a channel that answers** with one result. -/
theorem DeepSeekProposalWorker.propose_answered {Op : Type} {Res : Op → Type}
    {result : Arg ChatCompletionsModelResult} {timeout_seconds payload : Json} {task : WorkerInput}
    {value : WorkerResult} (hinput : model_input task = .ok payload)
    (htimeout : checked_timeout timeout_seconds = .ok ())
    (houtput : model_output task result = .ok value) :
    @DeepSeekProposalWorker.propose Op Res (fun _ _ => .ret result) timeout_seconds task =
      .ret value := by
  rw [DeepSeekProposalWorker.propose, hinput, htimeout]
  simp only [Prog.lift_ok, Prog.ret_bind, Prog.ret_handle, houtput]

end AppContracts.ChatCompletions
