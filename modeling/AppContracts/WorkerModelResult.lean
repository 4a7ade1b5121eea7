/-
Results on the worker's model channel: `_encode_result` and `_decode_result` of
`worker_model_ipc.py`, and the frames that carry them.

The encoder leaves the provider's reasoning out, and writes the tool calls as
JSON. So a result is read back as it was, but for its reasoning, if its tool
calls are JSON data that the reader can take.

`json` recurses where its data nests. The writer and the reader may stand at
different depths of their own stacks, so each has a recursion limit of its own,
and what the one writes the other may still refuse.
-/
import AppContracts.Lib.JsonCodec
import AppContracts.WireSize
import AppContracts.WorkerModelFrames

set_option autoImplicit false

namespace AppContracts.WorkerModelIPC

open Json (record)

/-- `_RESPONSE_SCHEMA`. -/
def _RESPONSE_SCHEMA : String := "agent00x-worker-model-response/v1"

/-! ## Results -/

/-- `ChatCompletionMessage`. -/
structure ChatCompletionMessage : Type where
  role : PyStr
  content : Option PyStr
  tool_calls : List Json
  refusal : Option PyStr
  reasoning_content : Option Json

/-- `ChatCompletionChoice`. -/
structure ChatCompletionChoice : Type where
  finish_reason : PyStr
  message : ChatCompletionMessage

/-- `ChatCompletionsModelResult`. -/
structure ChatCompletionsModelResult : Type where
  choices : List ChatCompletionChoice

/-- A message without the provider's reasoning. -/
def ChatCompletionMessage.without_reasoning (m : ChatCompletionMessage) : ChatCompletionMessage :=
  { m with reasoning_content := none }

/-- A result without the provider's reasoning. -/
def ChatCompletionsModelResult.without_reasoning (r : ChatCompletionsModelResult) :
    ChatCompletionsModelResult :=
  ⟨r.choices.map fun c => { c with message := c.message.without_reasoning }⟩

/-! ## The recursion limit -/

/-- The interpreter's recursion limit, as `json` meets it: the values that a call of
`json.dumps` writes, and that one of `json.loads` reads, without a `RecursionError`. How
deeply these may be nested depends on the interpreter and on the frames below the call. -/
structure RecursionLimit : Type where
  dumps : Json → Bool
  loads : Json → Bool

/-- Values nested at most `depth` deep are read. -/
def RecursionLimit.Reads (limit : RecursionLimit) (depth : ℕ) : Prop :=
  ∀ value : Json, value.depth ≤ depth → limit.loads value = true

/-- A limit that counts lists and dicts only. -/
def RecursionLimit.levels (depth : ℕ) : RecursionLimit :=
  ⟨fun value => value.depth ≤ depth, fun value => value.depth ≤ depth⟩

theorem RecursionLimit.reads_levels (depth : ℕ) : (RecursionLimit.levels depth).Reads depth :=
  fun _ h => decide_eq_true h

/-! ## Encoding -/

/-- `_encode_json(value, maximum=maximum)`. -/
def _encode_json (limit : RecursionLimit) (value : Json) (maximum : ℕ) : Except Exn Bytes := do
  raise_if (value.encodable false = false ∨ limit.dumps value = false) (ipc_error "message is invalid")
  let encoded := encode_utf8 (String.ofList (value.print false))
  raise_if (encoded = [] ∨ maximum < encoded.length) (ipc_error "message exceeds limit")
  return encoded

/-- `_decode_json(encoded, maximum=maximum)`. -/
def _decode_json (limit : RecursionLimit) (encoded : Bytes) (maximum : ℕ) : Except Exn Json := do
  raise_if (encoded = [] ∨ maximum < encoded.length) (ipc_error "message exceeds limit")
  let text ← or_raise (ipc_error "message is invalid") (decode_utf8 encoded)
  let value ← or_raise (ipc_error "message is invalid") (Json.loads_with Json.strict_hooks text)
  -- A text that is no JSON is refused alike, however deep the reader has come.
  raise_if (limit.loads value = false) (ipc_error "message is invalid")
  return value

/-- `WorkerModelIPCError("worker model IPC: response is invalid")`. -/
def response_error : Exn := ipc_error "response is invalid"

/-- A string. -/
def str : Codec Exn PyStr := Codec.any_str response_error

/-- A string or `None`. -/
def optional_str : Codec Exn (Option PyStr) := str.nullable fun _ h => nomatch h

/-- The dict of a message. -/
def message_fields (m : ChatCompletionMessage) : List (String × Json) :=
  [("role", str.json m.role), ("content", optional_str.json m.content),
    ("tool_calls", .arr m.tool_calls), ("refusal", optional_str.json m.refusal)]

/-- The dict `result`. -/
def choice_fields (c : ChatCompletionChoice) : List (String × Json) :=
  [("finish_reason", str.json c.finish_reason), ("message", record (message_fields c.message))]

/-- The dict of a response. -/
def response_fields (c : ChatCompletionChoice) : List (String × Json) :=
  [("schema", str.json (.text _RESPONSE_SCHEMA)), ("result", record (choice_fields c))]

/-- `_encode_result(result)`, for a result of the declared types. -/
def _encode_result (limit : RecursionLimit) (result : ChatCompletionsModelResult) : Except Exn Bytes :=
  match result.choices with
  | [choice] => _encode_json limit (record (response_fields choice)) _MAX_RESPONSE_FRAME_BYTES
  | _ => .error (ipc_error "channel result invalid")

/-- A list. -/
def list_of : Json → Except Exn (List Json)
  | .arr items => .ok items
  | _ => .error response_error

/-- `_decode_result(encoded)`. -/
def _decode_result (limit : RecursionLimit) (encoded : Bytes) :
    Except Exn ChatCompletionsModelResult := do
  let value ← _decode_json limit encoded _MAX_RESPONSE_FRAME_BYTES
  raise_if (value.has_keys ["schema", "result"] = false) response_error
  let schema ← str.field response_error value "schema"
  raise_if (schema ≠ .text _RESPONSE_SCHEMA) response_error
  let result ← or_raise response_error (value.get? "result")
  raise_if (result.has_keys ["finish_reason", "message"] = false) response_error
  let message ← or_raise response_error (result.get? "message")
  raise_if (message.has_keys ["role", "content", "tool_calls", "refusal"] = false) response_error
  let finish_reason ← str.field response_error result "finish_reason"
  let role ← str.field response_error message "role"
  let content ← optional_str.field response_error message "content"
  let items ← or_raise response_error (message.get? "tool_calls")
  let tool_calls ← list_of items
  let refusal ← optional_str.field response_error message "refusal"
  return ⟨[⟨finish_reason, ⟨role, content, tool_calls, refusal, none⟩⟩]⟩

/-! ## The round trip -/

/-- Tool calls that are JSON data. -/
def ChatCompletionsModelResult.JsonCalls (r : ChatCompletionsModelResult) : Prop :=
  ∀ c ∈ r.choices, ∀ j ∈ c.message.tool_calls, j.wf ∧ j.plain

/-- Tool calls that leave room for the dicts around them: those of the response, of its result
and of its message, and the list of the calls. -/
def ChatCompletionsModelResult.Nested (r : ChatCompletionsModelResult) (depth : ℕ) : Prop :=
  ∀ c ∈ r.choices, ∀ j ∈ c.message.tool_calls, j.depth + 4 ≤ depth

section Json

variable {limit limit' : RecursionLimit} {value value' : Json} {maximum : ℕ} {encoded : Bytes}

/-- Reading what `_encode_json` wrote, with a limit that may be another one. -/
theorem decode_encode_json (hw : value.wf) (hp : value.plain)
    (h : _encode_json limit value maximum = .ok encoded) : _decode_json limit' encoded maximum =
      if limit'.loads value = true then .ok value else .error (ipc_error "message is invalid") := by
  simp only [_encode_json, raise_if_bind, pure, Except.pure, Except.ok.injEq, not_or, Bool.not_eq_false] at h
  obtain ⟨⟨hencodable, -⟩, ⟨hne, hlength⟩, rfl⟩ := h
  have hkeeps : Json.strict_hooks.Keeps := fun _ h => if_pos h
  have hloads : Json.loads_with Json.strict_hooks (String.ofList (value.print false)) = some value :=
    Json.loads_with_reads hw hp (Json.reads_encodable hkeeps hw hp hencodable)
  rw [_decode_json, raise_if_ok.mpr (not_or.mpr ⟨hne, hlength⟩), ok_bind,
    or_raise_ok.mpr (decode_utf8_some.mpr rfl), ok_bind, or_raise_ok.mpr hloads, ok_bind]
  cases limit'.loads value with
  | true => rfl
  | false => rfl

/-- What is read is what was written. -/
theorem decoded_encoded (hw : value.wf) (hp : value.plain)
    (h : _encode_json limit value maximum = .ok encoded)
    (h' : _decode_json limit' encoded maximum = .ok value') : value' = value := by
  rw [decode_encode_json hw hp h] at h'
  split_ifs at h'
  exact (Except.ok.inj h').symm

/-- What was written is read where the limit allows. -/
theorem decode_written (hw : value.wf) (hp : value.plain) (hloads : limit'.loads value = true)
    (h : _encode_json limit value maximum = .ok encoded) :
    _decode_json limit' encoded maximum = .ok value := by
  rw [decode_encode_json hw hp h, if_pos hloads]

end Json

section Response

variable {limit limit' : RecursionLimit} {c : ChatCompletionChoice} (hcalls : ∀ j ∈ c.message.tool_calls, j.wf ∧ j.plain)

include hcalls

theorem message_wf : (record (message_fields c.message)).wf := by
  refine Json.wf_record (by simp [message_fields]) ?_
  simp only [message_fields, List.forall_mem_cons, List.not_mem_nil, false_imp_iff, implies_true,
    and_true]
  exact ⟨str.wf_json _, optional_str.wf_json _, Json.wf_items_iff.mpr fun j hj => (hcalls j hj).1,
    optional_str.wf_json _⟩

theorem choice_wf : (record (choice_fields c)).wf := by
  refine Json.wf_record (by simp [choice_fields]) ?_
  simp only [choice_fields, List.forall_mem_cons, List.not_mem_nil, false_imp_iff, implies_true,
    and_true]
  exact ⟨str.wf_json _, message_wf hcalls⟩

theorem response_wf : (record (response_fields c)).wf := by
  refine Json.wf_record (by simp [response_fields]) ?_
  simp only [response_fields, List.forall_mem_cons, List.not_mem_nil, false_imp_iff, implies_true,
    and_true]
  exact ⟨str.wf_json _, choice_wf hcalls⟩

theorem response_plain : (record (response_fields c)).plain := by
  have hmessage : (record (message_fields c.message)).plain := by
    refine Json.plain_record ?_
    simp only [message_fields, List.forall_mem_cons, List.not_mem_nil, false_imp_iff, implies_true,
      and_true]
    exact ⟨str.plain_json _, optional_str.plain_json _,
      Json.plain_items_iff.mpr fun j hj => (hcalls j hj).2,
      optional_str.plain_json _⟩
  have hchoice : (record (choice_fields c)).plain := by
    refine Json.plain_record ?_
    simp only [choice_fields, List.forall_mem_cons, List.not_mem_nil, false_imp_iff, implies_true,
      and_true]
    exact ⟨str.plain_json _, hmessage⟩
  refine Json.plain_record ?_
  simp only [response_fields, List.forall_mem_cons, List.not_mem_nil, false_imp_iff, implies_true,
    and_true]
  exact ⟨str.plain_json _, hchoice⟩

/-- The dict of a response is read back. -/
theorem decode_response {encoded : Bytes}
    (h : _decode_json limit encoded _MAX_RESPONSE_FRAME_BYTES = .ok (record (response_fields c))) :
    _decode_result limit encoded = .ok ⟨[{ c with message := c.message.without_reasoning }]⟩ := by
  have hresponse := Json.get_record (response_wf hcalls)
  have hchoice := Json.get_record (choice_wf hcalls)
  have hmessage := Json.get_record (message_wf hcalls)
  have hschema := hresponse ("schema", str.json (.text _RESPONSE_SCHEMA)) (by simp [response_fields])
  have hresult := hresponse ("result", record (choice_fields c)) (by simp [response_fields])
  have hfinish := hchoice ("finish_reason", str.json c.finish_reason) (by simp [choice_fields])
  have hbody := hchoice ("message", record (message_fields c.message)) (by simp [choice_fields])
  have hrole := hmessage ("role", str.json c.message.role) (by simp [message_fields])
  have hcontent := hmessage ("content", optional_str.json c.message.content) (by simp [message_fields])
  have htools := hmessage ("tool_calls", .arr c.message.tool_calls) (by simp [message_fields])
  have hrefusal := hmessage ("refusal", optional_str.json c.message.refusal) (by simp [message_fields])
  have hkeys₁ : (record (response_fields c)).has_keys ["schema", "result"] = true :=
    Json.has_keys_record (response_fields c)
  have hkeys₂ : (record (choice_fields c)).has_keys ["finish_reason", "message"] = true :=
    Json.has_keys_record (choice_fields c)
  have hkeys₃ : (record (message_fields c.message)).has_keys
    ["role", "content", "tool_calls", "refusal"] = true :=
    Json.has_keys_record (message_fields c.message)
  -- the decoder's steps in their order, each with the field that was written for it
  rw [_decode_result, h, ok_bind, raise_if_ok.mpr (by rw [hkeys₁]; decide), ok_bind,
    Codec.field_ok.mpr hschema, ok_bind, raise_if_ok.mpr (not_not.mpr rfl), ok_bind,
    or_raise_ok.mpr hresult, ok_bind, raise_if_ok.mpr (by rw [hkeys₂]; decide), ok_bind,
    or_raise_ok.mpr hbody, ok_bind, raise_if_ok.mpr (by rw [hkeys₃]; decide), ok_bind,
    Codec.field_ok.mpr hfinish, ok_bind, Codec.field_ok.mpr hrole, ok_bind, Codec.field_ok.mpr hcontent,
    ok_bind, or_raise_ok.mpr htools, ok_bind, list_of, ok_bind, Codec.field_ok.mpr hrefusal, ok_bind]
  rfl

end Response

/-- The depth of a response is that of its tool calls, with four levels around them. -/
theorem response_depth {c : ChatCompletionChoice} {depth : ℕ} (hfour : 4 ≤ depth)
    (h : ∀ j ∈ c.message.tool_calls, j.depth + 4 ≤ depth) :
    (record (response_fields c)).depth ≤ depth := by
  obtain ⟨n, rfl⟩ := Nat.exists_eq_add_of_le' hfour
  have hleaf : ∀ value, (optional_str.json value).depth = 0 := fun value => by cases value <;> rfl
  have hcalls : (Json.arr c.message.tool_calls).depth ≤ n + 1 :=
    Json.depth_arr_le fun j hj => by
      have := h j hj
      omega
  have hmessage : (record (message_fields c.message)).depth ≤ n + 2 := by
    refine Json.depth_record_le ?_
    simp only [message_fields, List.forall_mem_cons, List.not_mem_nil, false_imp_iff, implies_true,
      and_true, hleaf]
    exact ⟨Nat.zero_le _, Nat.zero_le _, hcalls, Nat.zero_le _⟩
  have hchoice : (record (choice_fields c)).depth ≤ n + 3 := by
    refine Json.depth_record_le ?_
    simp only [choice_fields, List.forall_mem_cons, List.not_mem_nil, false_imp_iff, implies_true,
      and_true]
    exact ⟨Nat.zero_le _, hmessage⟩
  refine Json.depth_record_le ?_
  simp only [response_fields, List.forall_mem_cons, List.not_mem_nil, false_imp_iff, implies_true,
    and_true]
  exact ⟨Nat.zero_le _, hchoice⟩

section Results

variable {limit limit' : RecursionLimit} {result value : ChatCompletionsModelResult} {encoded : Bytes}

/-- The response that an encoded result is. -/
theorem encoded_choice (h : _encode_result limit result = .ok encoded) : ∃ choice,
    result = ⟨[choice]⟩ ∧
      _encode_json limit (record (response_fields choice)) _MAX_RESPONSE_FRAME_BYTES = .ok encoded := by
  obtain ⟨choices⟩ := result
  match choices, h with
  | [choice], h => exact ⟨choice, rfl, h⟩

/-- **A result is read back**, but for its reasoning, where the reader's limit allows it. -/
theorem result_round_trip {depth : ℕ} (hfour : 4 ≤ depth) (hreads : limit'.Reads depth)
    (hcalls : result.JsonCalls) (hnested : result.Nested depth)
    (h : _encode_result limit result = .ok encoded) :
    _decode_result limit' encoded = .ok result.without_reasoning := by
  obtain ⟨choice, rfl, hchoice⟩ := encoded_choice h
  have hjson := hcalls choice List.mem_cons_self
  have hloads := hreads _ (response_depth hfour (hnested choice List.mem_cons_self))
  exact decode_response hjson (decode_written (response_wf hjson) (response_plain hjson) hloads hchoice)

/-- Nothing else is read. -/
theorem decoded_result (hcalls : result.JsonCalls) (h : _encode_result limit result = .ok encoded)
    (h' : _decode_result limit' encoded = .ok value) : value = result.without_reasoning := by
  obtain ⟨choice, rfl, hchoice⟩ := encoded_choice h
  have hjson := hcalls choice List.mem_cons_self
  obtain ⟨response, hresponse, -⟩ := bind_ok.mp h'
  obtain rfl := decoded_encoded (response_wf hjson) (response_plain hjson) hchoice hresponse
  exact Except.ok.inj (h'.symm.trans (decode_response hjson hresponse))

end Results

/-! ## The channel -/

/-- **The channel's frames and results.** Whatever the schedule, the writer writes the
head of the frame, and the frame if it returns; the reader of that frame, whatever
follows it, returns the payload or nothing, and reads nothing that follows. Without
failing turns both return. A frame that is cut short, or whose size is none or beyond
the limit, is refused. An encoded result is read back, but for its reasoning, by a reader
whose recursion limit allows for the nesting of its tool calls.

The two loops are followed turn by turn: what is left to write, or has been read, is the
invariant, and a turn that blocks or gives less than was asked for keeps it. -/
theorem channel_round_trip (maximum : ℕ) (hmaximum : maximum < 2 ^ 32) (payload : Bytes)
    (hnonempty : payload ≠ []) (hpayload : payload.length ≤ maximum) :
    (∀ turns, (_write_stream_frame payload maximum ⟨[], turns⟩).2.written <+: frame payload ∧
      (∀ w, _write_stream_frame payload maximum ⟨[], turns⟩ = (.returned (), w) →
        w.written = frame payload) ∧
      (Ready WriteTurn.kind (frame payload).length turns →
        ∃ w, _write_stream_frame payload maximum ⟨[], turns⟩ = (.returned (), w))) ∧
    (∀ later turns, (∀ d r, _read_stream_frame maximum ⟨frame payload ++ later, turns⟩ =
      (.returned d, r) →
        d = payload ∧ r.stream = later) ∧
      (Ready ReadTurn.kind (frame payload).length turns →
        ∃ r, _read_stream_frame maximum ⟨frame payload ++ later, turns⟩ = (.returned payload, r))) ∧
    (∀ stream, stream <+: frame payload → stream ≠ frame payload → Refused maximum stream) ∧
    (∀ size later, size = 0 ∨ maximum < size → size < 2 ^ 32 →
      Refused maximum (pack_size size ++ later)) ∧
    ∀ (limit limit' : RecursionLimit) (depth : ℕ) (result : ChatCompletionsModelResult) encoded,
      4 ≤ depth → limit'.Reads depth → result.JsonCalls → result.Nested depth →
      _encode_result limit result = .ok encoded →
      _decode_result limit' encoded = .ok result.without_reasoning := by
  have hlength : payload.length < 2 ^ 32 := Nat.lt_of_le_of_lt hpayload hmaximum
  have hwithin : Within maximum payload := ⟨hnonempty, hpayload, hlength⟩
  -- writing, reading, the two refusals, and the result inside the frame
  refine ⟨fun turns => ⟨write_frame_head turns, fun w hw => (write_frame_returned hw).2,
    fun hturns => ?_⟩,
    fun later turns => ⟨fun d r hread => ?_, fun hturns => ?_⟩, fun stream => truncated_refused hlength,
    fun size later => oversized_refused, fun limit limit' depth result encoded => result_round_trip⟩
  · obtain ⟨rest, hwrite⟩ := write_frame_ready hwithin hturns
    exact ⟨_, hwrite⟩
  · obtain ⟨hd, hstream⟩ := read_frame_returned hread
    obtain ⟨hpayload', hlater⟩ := frame_append_inj hlength hd.length_lt hstream
    exact ⟨hpayload'.symm, hlater.symm⟩
  · obtain ⟨rest, hread⟩ := read_frame_ready hwithin hturns
    exact ⟨_, hread⟩

/-- A result with reasoning. -/
def reasoned : ChatCompletionsModelResult :=
  ⟨[⟨.text "stop", ⟨.text "assistant", some (.text ""), [], none, some .null⟩⟩]⟩

/-- Its dict. -/
def reasoned_json : Json :=
  record (response_fields ⟨.text "stop", ⟨.text "assistant", some (.text ""), [], none, some .null⟩⟩)

set_option maxRecDepth 100000 in
theorem reasoned_length :
    0 < (reasoned_json.print false).length ∧ (reasoned_json.print false).length ≤ 1000 := by
  simp only [reasoned_json, record, response_fields, choice_fields, message_fields, str, optional_str,
    Codec.nullable, Codec.any_str, List.map_cons, List.map_nil, Json.print, Json.print_fields,
    Json.print_items, Json.print_str, PyStr.codes]
  decide

theorem reasoned_depth : reasoned_json.depth ≤ 900 :=
  (response_depth (by omega) fun _ hj => absurd hj List.not_mem_nil : reasoned_json.depth ≤ 4).trans
    (by omega)

theorem reasoned_encoded : ∃ encoded, _encode_result (.levels 900) reasoned = .ok encoded := by
  have hencodable : reasoned_json.encodable false = true := by rfl
  have hwidth := width_le (reasoned_json.print false)
  have hlow := length_le_width (reasoned_json.print false)
  obtain ⟨hpos, hprint⟩ := reasoned_length
  have hlimit : ¬ (encode_utf8 (String.ofList (reasoned_json.print false)) = [] ∨
      _MAX_RESPONSE_FRAME_BYTES < (encode_utf8
        (String.ofList (reasoned_json.print false))).length) := by
    have hlength := length_encode_utf8 (String.ofList (reasoned_json.print false))
    rw [String.toList_ofList] at hlength
    rw [← List.length_eq_zero_iff, hlength, _MAX_RESPONSE_FRAME_BYTES]
    omega
  have hdumps : (RecursionLimit.levels 900).dumps reasoned_json = true := decide_eq_true reasoned_depth
  have hjson : _encode_json (.levels 900) reasoned_json _MAX_RESPONSE_FRAME_BYTES =
      .ok (encode_utf8 (String.ofList (reasoned_json.print false))) := by
    have hprintable : ¬ (reasoned_json.encodable false = false ∨
        (RecursionLimit.levels 900).dumps reasoned_json = false) := by
      rw [hencodable, hdumps]
      decide
    simp only [_encode_json, raise_if_ok.mpr hprintable, ok_bind, raise_if_ok.mpr hlimit]
    rfl
  exact ⟨_, hjson⟩

theorem reasoned_calls : reasoned.JsonCalls ∧ reasoned.Nested 900 := by
  constructor
  · intro c hc j hj
    rw [List.mem_singleton.mp hc] at hj
    cases hj
  · intro c hc j hj
    rw [List.mem_singleton.mp hc] at hj
    cases hj

/-- Two bytes, read in pieces between turns that block, with a byte after the frame; and a
result that is read back without its reasoning. -/
theorem pieces_read : (∃ r, _read_stream_frame _MAX_RESPONSE_FRAME_BYTES
    ⟨frame [7, 8] ++ [9], [.would_block, .reads 0, .reads 1, .would_block, .reads 5, .reads 0,
      .reads 0, .reads 0]⟩ = (.returned [7, 8], r)) ∧
    ∃ encoded, _encode_result (.levels 900) reasoned = .ok encoded ∧
      _decode_result (.levels 900) encoded = .ok reasoned.without_reasoning := by
  obtain ⟨-, hread, -, -, hresult⟩ :=
    channel_round_trip _MAX_RESPONSE_FRAME_BYTES (by decide) [7, 8] (by decide) (by decide)
  obtain ⟨encoded, hencoded⟩ := reasoned_encoded
  exact ⟨(hread [9] _).2 (by decide), encoded, hencoded, hresult (.levels 900) (.levels 900) 900 reasoned
    encoded (by omega) (RecursionLimit.reads_levels 900) reasoned_calls.1 reasoned_calls.2 hencoded⟩

/-- The reasoning of a result is not read back. -/
theorem reasoning_left_out :
    ∃ encoded, _encode_result (.levels 900) reasoned = .ok encoded ∧
      _decode_result (.levels 900) encoded ≠ .ok reasoned := by
  obtain ⟨encoded, hencoded⟩ := reasoned_encoded
  refine ⟨encoded, hencoded, fun hdecoded => ?_⟩
  have hread := decoded_result reasoned_calls.1 hencoded hdecoded
  cases hread

end AppContracts.WorkerModelIPC
