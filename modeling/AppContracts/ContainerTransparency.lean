/-
The container is transparent: what `ContainerProposalWorker.propose` returns is what the
worker without a container returns over the same answer of the channel.

`container_transparent` says so of every run of the host and its child. `container_complete`
is the other direction: what the worker without a container returns, the container returns in
some run, if the frames are within their limits.

For the first, each process is known by itself, by what it has read and written when it returns;
the pipes then equate the frames of both. For the second a run is played: `Plays` says what a
program receives, sends and notes between two waits, lemma by lemma along the program, and
`undisturbed_run` lets the two processes take these turns in order.
-/
import AppContracts.ContainerWorker

set_option autoImplicit false

namespace AppContracts.ContainerWorker

open Interleave (Prog)
open Pipes (PipeOp Answer)
open Json (record)
open GitHubSnapshot (json_text)
open Validator (py_eq)
open ChatCompletions
open WorkerModelIPC (_decode_json _encode_json _encode_result _decode_result ipc_error frame unpack_size Within
  _FRAME_PREFIX_BYTES ChatCompletionsModelResult RecursionLimit)
open Proposal (WorkerResult ResponsesModelResult parse_model_result bytes_of encoded)

/-! ## Undisturbed runs -/

/-- What a process receives, sends and notes before it waits. -/
abbrev Turn : Type := Pipes.Turn UInt8 Note

/-- Answered suitably, the program returns `a` after these turns. -/
abbrev Plays {α : Type} (p : Program α) (turns : List Turn) (a : α) : Prop := Pipes.Plays note p turns a

/-- Turns of one kind. -/
def receives (data : Bytes) : Turn := ⟨data, [], []⟩
def sends (data : Bytes) : Turn := ⟨[], data, []⟩
def notes (n : Note) : Turn := ⟨[], [], [n]⟩

theorem receives_append (data data' : Bytes) :
    (receives data).append (receives data') = receives (data ++ data') :=
  Pipes.Turn.ext rfl rfl rfl

theorem sends_append (data data' : Bytes) : (sends data).append (sends data') = sends (data ++ data') :=
  Pipes.Turn.ext rfl rfl rfl

theorem receives_sends (data data' : Bytes) :
    (receives data).append (sends data') = ⟨data, data', []⟩ :=
  Pipes.Turn.ext (List.append_nil data) rfl rfl

theorem sends_before (data data' data'' : Bytes) :
    (sends data).append ⟨data', data'', []⟩ = ⟨data', data ++ data'', []⟩ :=
  Pipes.Turn.ext rfl rfl rfl

section Plays

variable {α β : Type}

theorem ret_plays (a : α) : Plays (.ret a) [.empty] a := .wait (.ret a)

theorem ask_plays (query : Query) (answer : query.Ans) :
    Plays (ask query) [⟨[], [], note query answer⟩] answer := by
  apply Pipes.Plays.of_eq
  · apply Pipes.Plays.ask answer
    exact ret_plays answer
  · rw [Pipes.Turn.empty, List.append_nil]

/-- A step of the host that succeeds. -/
theorem host_step_plays (step : HostStep) : Plays (attempt (ask (.host_step step))) [.empty] () := by
  apply Pipes.Plays.of_eq
  · apply Pipes.Plays.seq_one (ask_plays (.host_step step) (.ok ()))
    exact ret_plays ()
  · rfl

/-- A condition that holds. -/
theorem check_plays (condition : ChildCheck) (e : Exn) : Plays (check condition e) [.empty] () := by
  apply Pipes.Plays.of_eq
  · apply Pipes.Plays.seq_one (ask_plays (.child_check condition) true)
    exact Pipes.Plays.lift rfl
  · rfl

theorem require_plays [Interpreters] (condition : ChildCheck) (failure : String) :
    Plays (require condition failure) [.empty] () := by
  apply Pipes.Plays.of_eq
  · apply Pipes.Plays.seq_one (ask_plays (.child_check condition) true)
    exact ret_plays ()
  · rfl

/-! ### Frames -/

theorem read_loop_zero (failed : Exn) (fuel : ℕ) : read_loop failed fuel 0 = .ret [] := by
  cases fuel <;> rfl

/-- One read may find all that is asked for. -/
theorem read_exact_plays (failed : Exn) {data : Bytes} {size : ℕ} (hsize : data.length = size)
    (hne : data ≠ []) :
    Plays (read_exact failed size) [receives data] data := by
  subst hsize
  obtain ⟨byte, chunk, rfl⟩ := List.exists_cons_of_ne_nil hne
  have hrest : Plays ((read_loop failed chunk.length (chunk.length - chunk.length)).bind fun rest =>
      .ret (byte :: chunk ++ rest)) [.empty] (byte :: chunk) := by
    rw [Nat.sub_self, read_loop_zero, Prog.ret_bind, List.append_nil]
    exact ret_plays _
  apply Pipes.Plays.of_eq
  · apply Pipes.Plays.read (Nat.le_refl (byte :: chunk).length)
    exact hrest
  · rw [Pipes.Turn.empty, List.append_nil]
    rfl

theorem read_body_plays (failed exceeds : Exn) {maximum : ℕ} {body : Bytes} (h : Within maximum body) :
    Plays (read_body failed exceeds maximum) [receives (frame body)] body := by
  have hsize : unpack_size (WorkerModelIPC.pack_size body.length) = body.length :=
    WorkerModelIPC.unpack_pack_size h.length_lt
  have hpos := List.length_pos_of_ne_nil h.nonempty
  have hle := h.length_le
  apply Pipes.Plays.of_eq
  · apply Pipes.Plays.seq_one (read_exact_plays failed
      (WorkerModelIPC.length_pack_size body.length) (by simp
      [← List.length_pos_iff]))
    apply Pipes.Plays.lift_bind (raise_if_ok.mpr (by rw [hsize]; omega))
    exact read_exact_plays failed hsize.symm h.nonempty
  · rw [receives_append, frame]

theorem write_plays (failed : Exn) (data : Bytes) : Plays (write failed data) [sends data] () := by
  apply Pipes.Plays.of_eq
  · apply Pipes.Plays.write
    exact ret_plays ()
  · rw [Pipes.Turn.empty, List.append_nil]
    rfl

/-! ### Texts within their limits -/

/-- The text of a value. -/
def rendered (value : Json) : Bytes := encode_utf8 (String.ofList (value.print false))

/-- The value can be encoded within `maximum` bytes. -/
def Fits (maximum : ℕ) (value : Json) : Prop :=
  value.encodable false = true ∧ (rendered value).length ≤ maximum

/-- A value that crosses a pipe. -/
structure Sendable (maximum : ℕ) (value : Json) : Prop where
  wf : value.wf
  plain : value.plain
  fits : Fits maximum value
  nonempty : rendered value ≠ []
  depth : value.depth ≤ 4

/-- Both interpreters write and read JSON that is nested at most four deep. -/
structure Interpreters.Ample [Interpreters] : Prop where
  host_dumps : ∀ value : Json, value.depth ≤ 4 → host.dumps value = true
  host_reads : host.Reads 4
  child_dumps : ∀ value : Json, value.depth ≤ 4 → child.dumps value = true
  child_reads : child.Reads 4

/-- A dict has a text. -/
theorem rendered_ne_nil (fields : List (String × Json)) : rendered (record fields) ≠ [] := by
  rw [← List.length_pos_iff, rendered, length_encode_utf8, String.toList_ofList]
  exact Nat.lt_of_lt_of_le (by simp [record, Json.print]) (length_le_width _)

/-- A record is no longer than its fields: each takes its key, its value and four more
bytes. -/
theorem length_rendered_record {fields : List (String × Json)}
    (hkeys : (fields.map Prod.fst).all (fun key => key.toList.all is_bare) = true) :
    (rendered (record fields)).length ≤
      (fields.map fun f => f.1.length + (rendered f.2).length + 4).sum + 2 := by
  have hopen : Char.utf8Size '\x7b' = 1 ∧ Char.utf8Size '\x7d' = 1 := by decide
  have hlength (value : Json) : (rendered value).length = width (value.print false) := by
    rw [rendered, length_encode_utf8, String.toList_ofList]
  have hfields := width_print_fields (fields.map fun f => (PyStr.text f.1, f.2))
  have hsum : ((fields.map fun f => (PyStr.text f.1, f.2)).map fun f =>
        width (Json.print_str false f.1) + width (f.2.print false) + 2).sum =
      (fields.map fun f => f.1.length + (rendered f.2).length + 4).sum := by
    rw [List.map_map]
    refine congrArg List.sum (List.map_congr_left fun f hf => ?_)
    have hkey := List.all_eq_true.mp hkeys f.1 (List.mem_map_of_mem hf)
    rw [Function.comp_apply, width_print_bare hkey, hlength]
    dsimp only
    omega
  rw [hsum] at hfields
  rw [hlength, record, Json.print, width_cons, width_append, width_cons, width_nil, hopen.1, hopen.2]
  omega

/-- Keys without escapes, and few of them. -/
structure ShortKeys (n : ℕ) (keys : List String) : Prop where
  bare : (keys.all fun key => (utf8_bytes key).all bare_byte) = true
  short : (keys.map fun key => (utf8_bytes key).length).sum ≤ n

instance (n : ℕ) (keys : List String) : Decidable (ShortKeys n keys) :=
  decidable_of_iff ((keys.all fun key => (utf8_bytes key).all bare_byte) = true ∧
    (keys.map fun key => (utf8_bytes key).length).sum ≤ n)
    ⟨fun h => ⟨h.1, h.2⟩, fun h => ⟨h.bare, h.short⟩⟩

/-- A record of bounded values. -/
theorem length_rendered_bounded (fields : List (String × Json)) {bounds : List ℕ} {k : ℕ}
    (hkeys : ShortKeys k (fields.map Prod.fst))
    (hvalues : List.Forall₂ (fun f n => (rendered f.2).length ≤ n) fields bounds) :
    (rendered (record fields)).length ≤ k + (bounds.map (· + 4)).sum + 2 := by
  have hrecord := length_rendered_record (bare_names hkeys.bare)
  have hnames := names_length_le hkeys.short
  have hsum : (fields.map fun f => f.1.length + (rendered f.2).length + 4).sum ≤
      ((fields.map Prod.fst).map String.length).sum + (bounds.map (· + 4)).sum := by
    clear hrecord hnames hkeys
    induction hvalues with
    | nil => exact Nat.le_refl 0
    | cons hvalue _ ih =>
      simp only [List.map_cons, List.sum_cons]
      omega
  omega

/-- A text has at most four times as many bytes as characters. -/
theorem length_rendered_le {value : Json} {n : ℕ} (h : 4 * (value.print false).length ≤ n) :
    (rendered value).length ≤ n := by
  refine le_trans ?_ h
  rw [rendered, length_encode_utf8, String.toList_ofList]
  exact width_le _

theorem fits_of_length {maximum : ℕ} {value : Json} (hencodable : value.encodable false = true)
    (hlength : 4 * (value.print false).length ≤ maximum) : Fits maximum value :=
  ⟨hencodable, length_rendered_le hlength⟩

/-- A bare text takes a byte a character, and its quotes. -/
theorem length_rendered_text {value : String} {n : ℕ} (hbare : (utf8_bytes value).all bare_byte = true)
    (hlength : (utf8_bytes value).length ≤ n) : (rendered (json_text value)).length ≤ n + 2 := by
  have htext : (rendered (json_text value)).length = value.length + 2 := by
    rw [rendered, length_encode_utf8, String.toList_ofList]
    exact width_print_bare (bare_of_bytes hbare)
  rw [htext]
  exact Nat.add_le_add_right ((length_le_bytes value).trans hlength) 2

section Sendable

variable {maximum : ℕ} {value : Json}

theorem Sendable.encode_of (h : Sendable maximum value) {limit : RecursionLimit}
    (hdumps : limit.dumps value = true) (invalid exceeds : Exn) :
    encode limit invalid exceeds value maximum = .ok (rendered value) :=
  encode_ok.mpr ⟨⟨h.fits.1, hdumps⟩, ⟨h.nonempty, h.fits.2⟩, rfl⟩

theorem Sendable.within (h : Sendable maximum value) (hmaximum : maximum < 4294967296) :
    Within maximum (rendered value) :=
  ⟨h.nonempty, h.fits.2, h.fits.2.trans_lt hmaximum⟩

variable [Interpreters]

theorem Sendable.encode_host (h : Sendable maximum value) (hample : Interpreters.Ample)
    (invalid exceeds : Exn) :
    encode Interpreters.host invalid exceeds value maximum = .ok (rendered value) :=
  h.encode_of (hample.host_dumps value h.depth) invalid exceeds

theorem Sendable.encode_child (h : Sendable maximum value) (hample : Interpreters.Ample)
    (invalid exceeds : Exn) :
    encode Interpreters.child invalid exceeds value maximum = .ok (rendered value) :=
  h.encode_of (hample.child_dumps value h.depth) invalid exceeds

/-- Either process can decode what either has rendered. -/
theorem Sendable.decode (h : Sendable maximum value) (hample : Interpreters.Ample)
    {limit : RecursionLimit} (hreads : limit.Reads 4) :
    _decode_json limit (rendered value) maximum = .ok value :=
  WorkerModelIPC.decode_written h.wf h.plain (hreads value h.depth)
    (encode_json_of_encode (h.encode_host hample envelope_error envelope_error))

theorem host_write_plays (hample : Interpreters.Ample) (h : Sendable maximum value) :
    Plays (_write_frame value maximum) [sends (frame (rendered value))] () := by
  apply Pipes.Plays.lift_bind (h.encode_host hample _ _)
  exact write_plays _ _

theorem child_write_plays (hample : Interpreters.Ample) (h : Sendable maximum value) :
    Plays (write_frame value maximum) [sends (frame (rendered value))] () := by
  apply Pipes.Plays.lift_bind (h.encode_child hample _ _)
  exact write_plays _ _

theorem host_read_plays (hample : Interpreters.Ample) (h : Sendable maximum value)
    (hmaximum : maximum < 4294967296) :
    Plays (_read_frame maximum) [receives (frame (rendered value))] value := by
  apply Pipes.Plays.of_eq
  · apply Pipes.Plays.seq_one (read_body_plays _ _ (h.within hmaximum))
    exact Pipes.Plays.lift (h.decode hample hample.host_reads)
  · rw [Pipes.Turn.append_empty]

theorem child_read_plays (hample : Interpreters.Ample) (h : Sendable maximum value)
    (hmaximum : maximum < 4294967296) :
    Plays (read_frame maximum) [receives (frame (rendered value))] value := by
  have hloads := child_loads_encoded h.wf h.plain (h.encode_host hample envelope_error envelope_error)
  rw [if_pos (hample.child_reads value h.depth)] at hloads
  apply Pipes.Plays.of_eq
  · apply Pipes.Plays.seq_one (read_body_plays _ _ (h.within hmaximum))
    exact Pipes.Plays.lift hloads
  · rw [Pipes.Turn.append_empty]

end Sendable

/-! ### Statuses -/

/-- A status as the child sends it. -/
def status_json (value : String) : Json := record
    [("schema", json_text STATUS_SCHEMA), ("status", json_text value)]

/-- Every text of a status is short, and has letters only. -/
theorem status_short : (∀ value ∈ STATUS_SCHEMA :: WORKER_STATUS_CATEGORIES,
    (utf8_bytes value).all bare_byte = true ∧ (utf8_bytes value).length ≤ 100) ∧
    ShortKeys 100 ["schema", "status"] := by
  decide +kernel

theorem status_fits {value : String} (h : value ∈ WORKER_STATUS_CATEGORIES) :
    Fits 4096 (status_json value) := by
  obtain ⟨htexts, hkeys⟩ := status_short
  have hschema := htexts STATUS_SCHEMA List.mem_cons_self
  obtain ⟨hbare, hlength⟩ := htexts value (List.mem_cons_of_mem _ h)
  have hrecord := length_rendered_bounded
    [("schema", json_text STATUS_SCHEMA), ("status", json_text value)] hkeys
    (.cons (length_rendered_text hschema.1 hschema.2) (.cons (length_rendered_text hbare hlength) .nil))
  exact ⟨rfl, hrecord.trans (by decide)⟩

theorem status_sendable {value : String} (h : value ∈ WORKER_STATUS_CATEGORIES) :
    Sendable 4096 (status_json value) := by
  refine ⟨?_, ?_, status_fits h, rendered_ne_nil _, by simp [status_json, record, Json.depth, Json.depth_fields,
    json_text]⟩
  · refine Json.wf_record (by simp) ?_
    simp only [List.forall_mem_cons, List.not_mem_nil, false_imp_iff, implies_true, and_true]
    exact ⟨text_wf _, text_wf _⟩
  · refine Json.plain_record ?_
    simp only [List.forall_mem_cons, List.not_mem_nil, false_imp_iff, implies_true, and_true]
    exact ⟨text_plain _, text_plain _⟩

/-- The frame of a status. -/
def status_frame (value : String) : Bytes := frame (rendered (status_json value))

section Statuses

variable [Interpreters] (hample : Interpreters.Ample)

include hample

theorem status_plays {value : String} (h : value ∈ WORKER_STATUS_CATEGORIES) :
    Plays (status value) [sends (status_frame value)] () :=
  child_write_plays hample (status_sendable h)

theorem import_all_plays (modules : List (String × String × String))
    (h : ∀ entry ∈ modules, entry.2.2 ∈ WORKER_STATUS_CATEGORIES) :
    Plays (import_all modules) [sends (modules.flatMap fun entry => status_frame entry.2.2)] () := by
  induction modules with
  | nil => exact ret_plays ()
  | cons entry rest ih =>
    obtain ⟨module_name, failure, success⟩ := entry
    obtain ⟨hsuccess, hrest⟩ := List.forall_mem_cons.mp h
    apply Pipes.Plays.of_eq
    · apply Pipes.Plays.seq_one (require_plays (.imports module_name) failure)
      apply Pipes.Plays.seq_one (status_plays hample hsuccess)
      exact ih hrest
    · rw [Pipes.Turn.empty_append, sends_append, List.flatMap_cons]

theorem start_up_plays :
    Plays start_up [sends (status_frame "source-package-visible" ++
      CHILD_IMPORTS.flatMap fun entry => status_frame entry.2.2)] () := by
  apply Pipes.Plays.of_eq
  · apply Pipes.Plays.seq_one (require_plays .package_visible "source-package-unavailable")
    apply Pipes.Plays.seq_one (status_plays hample (by decide))
    exact import_all_plays hample CHILD_IMPORTS (by decide)
  · rw [Pipes.Turn.empty_append, sends_append]

theorem expect_status_plays {expected : String} (h : expected ∈ WORKER_STATUS_CATEGORIES) :
    Plays (_expect_status expected) [receives (status_frame expected)] () := by
  have hkeys : (status_json expected).has_keys ["schema", "status"] = true :=
    Json.has_keys_record [("schema", json_text STATUS_SCHEMA), ("status", json_text expected)]
  have hschema : ((status_json expected).get? "schema").bind Json.text? = some STATUS_SCHEMA := rfl
  have hstatus : ((status_json expected).get? "status").bind Json.text? = some expected := rfl
  have hcategory : _status_category (status_json expected) = some expected := by
    rw [_status_category, hkeys, hschema, if_neg (by simp), hstatus, Option.filter_some,
      if_pos (by simpa using h)]
  apply Pipes.Plays.of_eq
  · apply Pipes.Plays.seq_one (host_read_plays hample (status_sendable h) (by decide)).handle
    exact Pipes.Plays.lift (raise_if_ok.mpr (by rw [hcategory]; exact not_not.mpr rfl))
  · rw [Pipes.Turn.append_empty, status_frame]

theorem expect_all_plays (statuses : List String)
    (h : ∀ value ∈ statuses, value ∈ WORKER_STATUS_CATEGORIES) :
    Plays (expect_all statuses) [receives (statuses.flatMap status_frame)] () := by
  induction statuses with
  | nil => exact ret_plays ()
  | cons expected rest ih =>
    obtain ⟨hexpected, hrest⟩ := List.forall_mem_cons.mp h
    apply Pipes.Plays.of_eq
    · apply Pipes.Plays.seq_one (expect_status_plays hample hexpected)
      exact ih hrest
    · rw [receives_append, List.flatMap_cons]

end Statuses

/-! ### The child -/

section Inputs

variable {isprintable : Char → Bool} {task : WorkerInput} {timeout : Json}

theorem context_entry_of (entry : String × String) : context_entry (entry_json entry) = .ok entry := by
  have hget := Json.get_record (entry_wf entry).1
  rw [context_entry, Codec.field_ok.mpr (hget ("path", text.json entry.1) (by simp)), ok_bind,
    Codec.field_ok.mpr (hget ("content", text.json entry.2) (by simp)), ok_bind]
  rfl

/-- The child accepts the task that the host has encoded. -/
theorem accept_task_of (htimeout : timeout.wf) (hchecked : checked_timeout timeout = .ok ())
    (hvalid : task.post_init isprintable = .ok ()) :
    accept_task isprintable (record (input_fields task timeout)) = .ok (task, timeout) := by
  have hw : (record (input_fields task timeout)).wf := input_wf htimeout
  have hget := Json.get_record hw
  -- every field is read back from the record by its own codec
  have read {α : Type} {c : Codec Exn α} {key : String} {a : α}
    (hmem : (key, c.json a) ∈ input_fields task timeout) :
      c.field envelope_error (record (input_fields task timeout)) key = .ok a :=
    Codec.field_ok.mpr (hget _ hmem)
  have hkeys : (record (input_fields task timeout)).has_keys INPUT_KEYS = true :=
    Json.has_keys_record (input_fields task timeout)
  have hschema : ((record (input_fields task timeout)).get? "schema").bind Json.text? =
    some WORKER_INPUT_SCHEMA := by
    rw [hget ("schema", text.json WORKER_INPUT_SCHEMA) (by simp [input_fields])]
    rfl
  have hitems : (task.context_files.map entry_json).mapM context_entry = .ok task.context_files := by
    rw [mapM_ok, List.forall₂_map_left_iff, List.forall₂_same]
    exact fun entry _ => context_entry_of entry
  have hinput : input_of isprintable (record (input_fields task timeout)) = .ok task := by
    rw [input_of, read (c := str) (a := task.process_id) (by simp [input_fields]), ok_bind,
      read (c := str) (a := task.task_id) (by simp [input_fields]), ok_bind,
      read (c := str) (a := task.repository_id) (by simp [input_fields]), ok_bind,
      read (c := str) (a := task.base_commit) (by simp [input_fields]), ok_bind,
      read (c := strs) (a := task.declared_change_paths) (by simp [input_fields]), ok_bind,
      read (c := optional_str) (a := task.snapshot_tree_digest) (by simp [input_fields]), ok_bind,
      read (c := str) (a := task.snapshot_origin) (by simp [input_fields]), ok_bind,
      read (c := optional_text) (a := task.task_instruction) (by simp [input_fields]), ok_bind,
      or_raise_ok.mpr (hget ("context_files", .arr (task.context_files.map entry_json))
        (by simp [input_fields])),
      ok_bind, items_of, ok_bind, hitems, ok_bind,
      read (c := optional_str) (a := task.snapshot_claim_digest) (by simp [input_fields]), ok_bind]
    dsimp only
    rw [hvalid]
    rfl
  rw [accept_task, hkeys, hschema, raise_if_ok.mpr (by simp), ok_bind,
    or_raise_ok.mpr (hget ("model_timeout_seconds", timeout) (by simp [input_fields])), ok_bind,
      hchecked, ok_bind,
    hinput]
  rfl

end Inputs

/-! ### The request -/

/-- A value is equal to itself. -/
theorem py_eq_self {value : Json} (hw : value.wf) (hp : value.plain) : py_eq value value = true := by
  -- a float is excluded by `plain`: a nan is not equal to itself
  induction value using Json.induction_on with
  | leaf value ha ho =>
    cases value with
    | arr items => exact absurd rfl (ha items)
    | obj fields => exact absurd rfl (ho fields)
    | number n => exact hp.elim
    | other type text => exact hp.elim
    | _ => simp [py_eq, Json.number?]
  | arr items ih =>
    have hw' := Json.wf_items_iff.mp hw
    have hp' := Json.plain_items_iff.mp hp
    clear hw hp
    rw [py_eq]
    induction items with
    | nil => rfl
    | cons item rest ihrest =>
      rw [Validator.eq_items, ih item List.mem_cons_self (hw' item List.mem_cons_self)
        (hp' item List.mem_cons_self)]
      exact ihrest (fun j hj => ih j (List.mem_cons_of_mem _ hj))
        (fun j hj => hw' j (List.mem_cons_of_mem _ hj))
        fun j hj => hp' j (List.mem_cons_of_mem _ hj)
  | obj fields ih =>
    have hw' := Json.wf_fields_iff.mp hw.2
    have hp' := Json.plain_fields_iff.mp hp
    rw [py_eq, Validator.eq_fields_all, beq_self_eq_true, Bool.true_and]
    refine List.all_eq_true.mpr fun f hf => ?_
    rw [(Json.lookup_iff_mem hw.1 f.1 f.2).mpr hf]
    exact ih f hf (hw' f hf) (hp' f hf)

section Request

variable {task : WorkerInput} {payload timeout : Json}

/-- A payload that fits into its request fits alone. -/
theorem payload_fits (h : Fits MAX_REQUEST_BYTES (record (request_fields timeout payload))) :
    Fits MAX_REQUEST_BYTES payload := by
  obtain ⟨hencodable, hlength⟩ := h
  refine ⟨?_, ?_⟩
  · exact (Json.encodable_fields_iff.mp hencodable (.text "payload", payload)
      (by simp [request_fields])).2
  · refine le_trans ?_ hlength
    simp only [rendered, length_encode_utf8, String.toList_ofList, record, request_fields,
      List.map_cons, List.map_nil,
      Json.print, Json.print_fields, width_cons, width_append]
    omega

/-- The payload of a task keeps to the protocol. -/
theorem payload_admitted (h : build_chat_completions_payload task = .ok payload)
    (hfits : Fits MAX_REQUEST_BYTES payload) :
    ∃ encoded, encode_chat_completions_request payload = .ok encoded := by
  obtain ⟨instruction, -, h⟩ := bind_ok.mp h
  obtain rfl := Except.ok.inj h
  have hkeys : (record (payload_fields instruction task.context_files)).has_keys
      ["model", "reasoning_effort", "max_tokens", "stream", "response_format", "messages"] = true :=
    Json.has_keys_record (payload_fields instruction task.context_files)
  refine ⟨rendered (record (payload_fields instruction task.context_files)), ?_⟩
  -- the payload was built here, so its fixed fields are the ones the encoder asks for
  have hmodel : ((record (payload_fields instruction task.context_files)).get? "model").bind Json.text? =
      some "deepseek-flash" := rfl
  have heffort : ((record (payload_fields instruction task.context_files)).get? "reasoning_effort").bind Json.text? =
      some "low" := rfl
  have hstream : is_false ((record (payload_fields instruction task.context_files)).get? "stream") = true := rfl
  have htokens : is_token_limit ((record
    (payload_fields instruction task.context_files)).get? "max_tokens") = true :=
    rfl
  have hformat : (record (payload_fields instruction task.context_files)).get? "response_format" =
      some (record [("type", json_text "json_object")]) := rfl
  have hequal : py_eq (record [("type", json_text "json_object")])
    (record [("type", json_text "json_object")]) = true :=
    py_eq_self (Json.wf_record (by simp) (by simpa using text_wf _))
      (Json.plain_record (by simpa using text_plain _))
  have hmessages : are_messages ((record
    (payload_fields instruction task.context_files)).get? "messages") = true := rfl
  rw [encode_chat_completions_request, hkeys, raise_if_ok.mpr (by simp), ok_bind, hmodel, heffort,
    hstream, htokens,
    raise_if_ok.mpr (by simp), ok_bind, hformat, or_raise_ok.mpr rfl, ok_bind, hequal,
      raise_if_ok.mpr (by simp), ok_bind,
    hmessages, raise_if_ok.mpr (by simp), ok_bind, raise_if_ok.mpr (by simp [hfits.1]), ok_bind]
  exact raise_if_bind.mpr ⟨Nat.not_lt.mpr hfits.2, rfl⟩

end Request

/-! ### The proposal -/

section Parsed

variable {task : WorkerInput} {declared : List String} {value : WorkerResult}

/-- What the parser of model outputs gives. -/
def Acceptable (declared : List String) : WorkerResult → Prop
  | .proposal changes => changes ≠ [] ∧ declared ≠ [] ∧ changes.length ≤ Proposal.MAX_PROPOSAL_FILES ∧
      Proposal.Admitted (declared.map normpath) changes [] 0
  | .terminal outcome reason_code => outcome ≠ "changes" ∧
    Proposal.EXPECTED_REASONS.lookup outcome = some reason_code

theorem parse_proposal_acceptable {changes : Option Json}
    (h : Proposal.parse_proposal changes declared = .ok value) :
    Acceptable declared value := by
  rw [Proposal.parse_proposal] at h
  obtain ⟨entries, -, h⟩ := bind_ok.mp h
  obtain ⟨hentries, h⟩ := raise_if_bind.mp h
  obtain ⟨hdeclared, h⟩ := raise_if_bind.mp h
  obtain ⟨detached, hdetached, h⟩ := bind_ok.mp h
  obtain ⟨hlength, h⟩ := raise_if_bind.mp h
  obtain rfl := Except.ok.inj h
  obtain ⟨hsame, hadmitted⟩ := Proposal.parse_changes_iff.mp hdetached
  refine ⟨?_, hdeclared, Nat.not_lt.mp hlength, hadmitted⟩
  rintro rfl
  exact hentries (List.length_eq_zero_iff.mp hsame.length_eq)

theorem parse_parsed_acceptable {parsed : Json}
    (h : Proposal.parse_parsed parsed declared = .ok value) :
    Acceptable declared value := by
  rw [Proposal.parse_parsed] at h
  by_cases hsecond : (["schema", "outcome", "reason_code"].any fun key =>
    (parsed.get? key).isSome) = true
  · rw [if_pos hsecond] at h
    obtain ⟨-, h⟩ := raise_if_bind.mp h
    by_cases hkind : (parsed.get? "outcome").bind Json.text? = some "changes"
    · rw [if_pos hkind] at h
      exact parse_proposal_acceptable (raise_if_bind.mp h).2
    · rw [if_neg hkind, Proposal.parse_terminal] at h
      split at h
      · cases h
      · rename_i outcome houtcome
        split at h
        · cases h
        · rename_i reason_code hreason
          split_ifs at h
          obtain rfl := Except.ok.inj h
          rw [houtcome] at hkind
          exact ⟨fun heq => hkind (congrArg some heq), hreason⟩
  · rw [if_neg hsecond] at h
    exact parse_proposal_acceptable (raise_if_bind.mp h).2

/-- What the host renders to parse it again. -/
def parsed_again : WorkerResult → Json
  | .terminal outcome reason_code => result_frame (.terminal outcome reason_code)
  | .proposal changes => legacy_form (changes.map fun change =>
    (PyStr.text change.1, PyStr.text change.2))

/-- The parser of model outputs reads what is rendered. -/
theorem parse_model_result_of {rendering : Json} (hw : rendering.wf) (hp : rendering.plain)
    (hdict : rendering.is_dict = true) (hfits : Fits Proposal.MAX_MODEL_OUTPUT_BYTES rendering)
    (h : Proposal.parse_parsed rendering declared = .ok value) :
    parse_model_result (.of ⟨.text "completed",
      some (.text (String.ofList (rendering.print false))), none⟩) declared =
      .ok value := by
  obtain ⟨hencodable, hlength⟩ := hfits
  have hkeeps : Json.strict_hooks.Keeps := fun _ h => if_pos h
  -- what the host dumps it loads again, as long as the text is within the limits
  have hloads : Json.loads_with Json.strict_hooks (String.ofList (rendering.print false)) =
    some rendering :=
    Json.loads_with_reads hw hp (Json.reads_encodable hkeeps hw hp hencodable)
  have hbytes : bytes_of (String.ofList (rendering.print false)) ≤ Proposal.MAX_MODEL_OUTPUT_BYTES := by
    rwa [bytes_of, utf8_bytes, List.length_map]
  have hne : String.ofList (rendering.print false) ≠ "" := by
    intro hempty
    rw [hempty] at hloads
    cases hloads
  have hparsed : Proposal.parsed_output (.text (String.ofList (rendering.print false))) =
    .ok rendering := by
    rw [Proposal.parsed_output, raise_if_ok.mpr (by simpa using hne), ok_bind, encoded, ok_bind,
      raise_if_ok.mpr (Nat.not_lt.mpr hbytes), ok_bind, hloads]
    rfl
  exact bind_ok.mpr ⟨_, rfl, raise_if_bind.mpr ⟨by simp,
    raise_if_bind.mpr ⟨by simp, bind_ok.mpr ⟨_, rfl,
    bind_ok.mpr ⟨rendering, hparsed, raise_if_bind.mpr ⟨by simp [hdict], h⟩⟩⟩⟩⟩⟩

theorem parse_rendered_of [Interpreters] {rendering : Json} (hw : rendering.wf) (hp : rendering.plain)
    (hdict : rendering.is_dict = true) (hdumps : Interpreters.host.dumps rendering = true)
    (hfits : Fits Proposal.MAX_MODEL_OUTPUT_BYTES rendering)
    (h : Proposal.parse_parsed rendering task.declared_texts = .ok value) :
    parse_rendered rendering task = .ok value :=
  bind_ok.mpr ⟨_, raise_if_bind.mpr ⟨by simp [hfits.1, hdumps], rfl⟩, parse_model_result_of hw hp hdict hfits h⟩

/-- A terminal outcome is parsed as itself. -/
theorem terminal_parsed {outcome reason_code : String}
    (h : Acceptable declared (.terminal outcome reason_code)) :
    Proposal.parse_parsed (result_frame (.terminal outcome reason_code)) declared =
      .ok (.terminal outcome reason_code) := by
  obtain ⟨hkind, hlookup⟩ := h
  have hkeys : (result_frame (.terminal outcome reason_code)).has_keys
    ["schema", "outcome", "changes", "reason_code"]
      = true :=
    Json.has_keys_record [("schema", _), ("outcome", _), ("changes", _), ("reason_code", _)]
  have hschema : (result_frame (.terminal outcome reason_code)).get? "schema" =
    some (json_text RESULT_SCHEMA) := rfl
  have houtcome : (result_frame (.terminal outcome reason_code)).get? "outcome" =
    some (json_text outcome) := rfl
  have hchanges : (result_frame (.terminal outcome reason_code)).get? "changes" = some .null := rfl
  have hreason : (result_frame (.terminal outcome reason_code)).get? "reason_code" =
    some (json_text reason_code) :=
    rfl
  have htext (value : String) : (some (json_text value)).bind Json.text? = some value := rfl
  rw [Proposal.parse_parsed, if_pos (by simp [houtcome])]
  refine raise_if_bind.mpr ⟨by rw [hkeys, hschema, htext]; simp [RESULT_SCHEMA], ?_⟩
  -- the outcome is no proposal, so the table of terminal outcomes decides
  rw [houtcome, htext, if_neg (by simpa using hkind), Proposal.parse_terminal, houtcome, htext]
  dsimp only
  rw [hlookup]
  dsimp only
  rw [hchanges, hreason, htext, if_neg (by simp [Proposal.is_null])]

/-- Changes are parsed as themselves. -/
theorem proposal_parsed {changes : List (String × String)}
    (h : Acceptable declared (.proposal changes)) :
    Proposal.parse_parsed (legacy_form (changes.map fun change =>
      (PyStr.text change.1, PyStr.text change.2))) declared =
      .ok (.proposal changes) := by
  obtain ⟨hne, hdeclared, hlength, hadmitted⟩ := h
  -- the legacy form has none of the three keys that select the other format
  have hlegacy : ¬ (["schema", "outcome", "reason_code"].any fun key =>
    ((legacy_form (changes.map fun change =>
      (PyStr.text change.1, PyStr.text change.2))).get? key).isSome) = true := by
    simp [legacy_form, record]
  have hkeys : (legacy_form (changes.map fun change =>
    (PyStr.text change.1, PyStr.text change.2))).has_keys ["changes"]
      = true := Json.has_keys_record [("changes", _)]
  have hchanges : (legacy_form (changes.map fun change =>
    (PyStr.text change.1, PyStr.text change.2))).get? "changes" =
      some (.arr (changes.map fun change =>
        record [("path", .str (.text change.1)), ("content", .str (.text change.2))])) := by
    rw [legacy_form, List.map_map]
    rfl
  have hparse : Proposal.parse_changes (declared.map normpath) (changes.map fun change =>
      record [("path", .str (.text change.1)), ("content", .str (.text change.2))]) [] 0 =
        .ok changes := by
    refine Proposal.parse_changes_iff.mpr ⟨?_, hadmitted⟩
    rw [List.forall₂_map_left_iff, List.forall₂_same]
    exact fun change _ => legacy_entry change
  rw [Proposal.parse_parsed, if_neg hlegacy]
  refine raise_if_bind.mpr ⟨by simp [hkeys], ?_⟩
  rw [hchanges, Proposal.parse_proposal]
  exact bind_ok.mpr ⟨_, rfl, raise_if_bind.mpr ⟨by simpa using hne, raise_if_bind.mpr ⟨hdeclared,
    bind_ok.mpr ⟨changes, hparse, raise_if_bind.mpr ⟨Nat.not_lt.mpr hlength, rfl⟩⟩⟩⟩⟩

/-- No value that the host renders is nested deeper than four levels. -/
theorem result_frame_depth (value : WorkerResult) : (result_frame value).depth ≤ 4 := by
  cases value with
  | terminal outcome reason_code =>
    simp [result_frame, record, Json.depth, Json.depth_fields, json_text]
  | proposal changes =>
    have hchange : ∀ j ∈ changes.map change_json, j.depth ≤ 1 := by
      refine List.forall_mem_map.mpr fun change _ => ?_
      simp [change_json, Json.depth, Json.depth_items, json_text]
    refine Json.depth_record_le ?_
    simp only [List.forall_mem_cons, List.not_mem_nil, false_imp_iff, implies_true, and_true]
    exact ⟨Nat.zero_le _, (Json.depth_arr_le hchange).trans (by omega)⟩

theorem legacy_depth (changes : List (PyStr × PyStr)) : (legacy_form changes).depth ≤ 4 := by
  have hentry : ∀ j ∈ changes.map fun change : PyStr × PyStr =>
      record [("path", .str change.1), ("content", .str change.2)], j.depth ≤ 1 := by
    refine List.forall_mem_map.mpr fun change _ => ?_
    simp [record, Json.depth, Json.depth_fields]
  refine Json.depth_record_le ?_
  simp only [List.forall_mem_cons, List.not_mem_nil, false_imp_iff, implies_true, and_true]
  exact (Json.depth_arr_le hentry).trans (by omega)

/-- The host accepts what the child has parsed. -/
theorem validated_proposal_of [Interpreters] (hample : Interpreters.Ample)
    (h : Acceptable task.declared_texts value)
    (hfits : Fits Proposal.MAX_MODEL_OUTPUT_BYTES (parsed_again value)) :
    _validated_proposal (result_frame value) task = .ok value := by
  cases value with
  | terminal outcome reason_code =>
    obtain ⟨hw, hp⟩ := result_frame_wf (.terminal outcome reason_code)
    have hparsed : parse_rendered (result_frame (.terminal outcome reason_code)) task =
      .ok (.terminal outcome reason_code) :=
      parse_rendered_of hw hp rfl (hample.host_dumps _ (result_frame_depth _)) hfits (terminal_parsed h)
    have hterminal : terminal_outcome (result_frame (.terminal outcome reason_code)) task =
        .ok (.terminal outcome reason_code) :=
      bind_ok.mpr ⟨_, hparsed, raise_if_bind.mpr ⟨by simp [is_terminal], rfl⟩⟩
    rw [_validated_proposal,
      if_pos ⟨Json.has_keys_record [("schema", _), ("outcome", _), ("changes", _),
        ("reason_code", _)], rfl⟩, hterminal,
      or_invalid]
  -- a proposal is rendered in the legacy form and parsed once more
  | proposal changes =>
    have hschema : (result_frame (.proposal changes)).get? "schema" =
      some (json_text PROPOSAL_SCHEMA) := rfl
    have hkeys : (result_frame (.proposal changes)).has_keys ["schema", "changes"] = true :=
      Json.has_keys_record [("schema", _), ("changes", _)]
    have hchanges : (result_frame (.proposal changes)).get? "changes" =
      some (.arr (changes.map change_json)) := rfl
    have htext : (some (json_text PROPOSAL_SCHEMA)).bind Json.text? = some PROPOSAL_SCHEMA := rfl
    have hread : (changes.map change_json).mapM change_of =
        .ok (changes.map fun change => (PyStr.text change.1, PyStr.text change.2)) := by
      rw [mapM_ok, List.forall₂_map_left_iff, List.forall₂_map_right_iff, List.forall₂_same]
      exact fun _ _ => rfl
    obtain ⟨hw, hp⟩ := legacy_wf (changes.map fun change => (PyStr.text change.1, PyStr.text change.2))
    have hproposal : checked_proposal (changes.map change_json) task = .ok (.proposal changes) :=
      bind_ok.mpr ⟨_, hread, parse_rendered_of hw hp rfl (hample.host_dumps _ (legacy_depth _)) hfits
        (proposal_parsed h)⟩
    rw [_validated_proposal, hschema, htext,
      if_neg (by rintro ⟨-, hwrong⟩; exact absurd hwrong (by decide))]
    refine raise_if_bind.mpr ⟨by rw [hkeys]; simp, ?_⟩
    rw [hchanges]
    dsimp only
    rw [hproposal, or_invalid]

end Parsed

/-! ### The whole exchange -/

/-- The worker without a container returns `value`, if its channel answers `result`. -/
def WorkerReturns (task : WorkerInput) (timeout : Json) (result : Arg ChatCompletionsModelResult)
    (value : WorkerResult) : Prop :=
  ∀ {Op : Type} {Res : Op → Type},
    @DeepSeekProposalWorker.propose Op Res (fun _ _ => .ret result) timeout task = .ret value

/-- A worker that returns has been given its payload and its answer. -/
theorem propose_parts {result : Arg ChatCompletionsModelResult} {timeout : Json}
    {task : WorkerInput} {value : WorkerResult}
    (h : @DeepSeekProposalWorker.propose Empty (fun _ => Empty)
      (fun _ _ => .ret result) timeout task = .ret value) :
    (∃ payload, model_input task = .ok payload) ∧ checked_timeout timeout = .ok () ∧
      model_output task result = .ok value := by
  rw [DeepSeekProposalWorker.propose] at h
  -- the three stages of the in-process worker, each of which must have succeeded
  cases hpayload : model_input task with
  | error e =>
    rw [hpayload] at h
    cases h
  | ok payload =>
    cases hchecked : checked_timeout timeout with
    | error e =>
      rw [hpayload, hchecked] at h
      cases h
    | ok _ =>
      cases houtput : model_output task result with
      | error e =>
        rw [hpayload, hchecked] at h
        simp only [Prog.lift_ok, Prog.ret_bind, Prog.ret_handle, houtput] at h
        cases h
      | ok value' =>
        rw [hpayload, hchecked] at h
        simp only [Prog.lift_ok, Prog.ret_bind, Prog.ret_handle, houtput] at h
        exact ⟨⟨payload, rfl⟩, rfl, congrArg _ (Prog.ret.inj h)⟩

/-- The statuses of a child that starts. -/
def startup_frames : Bytes := WORKER_STARTUP_STATUSES.flatMap status_frame

theorem startup_frames_eq (more : Bytes) : status_frame "source-package-visible" ++
    (CHILD_IMPORTS.flatMap fun entry => status_frame entry.2.2) ++ (status_frame "task-accepted" ++
      (status_frame "network-probes-blocked" ++ (status_frame "ready" ++ more))) =
        startup_frames ++ more := by
  have hstatuses : WORKER_STARTUP_STATUSES =
    "source-package-visible" :: (CHILD_IMPORTS.map fun entry => entry.2.2) ++
      ["task-accepted", "network-probes-blocked", "ready"] := rfl
  rw [startup_frames, hstatuses, List.flatMap_append, List.flatMap_cons, List.flatMap_map]
  simp only [List.flatMap_cons, List.flatMap_nil, List.append_nil, List.append_assoc]

theorem wait_plays (e : Exn) :
    Plays ((do
      attempt (ask (.host_step .close_stdin))
      attempt (ask .wait) : Program ℤ).handle fun _ => .raise e) [notes (.exited 0)] 0 := by
  apply Pipes.Plays.handle
  apply Pipes.Plays.of_eq
  · apply Pipes.Plays.seq_one (host_step_plays .close_stdin)
    apply Pipes.Plays.seq_silent (by simp) (ask_plays .wait (.ok 0))
    exact Pipes.Plays.lift rfl
  · rw [Pipes.Turn.empty_append]
    rfl

/-- The values that are sent are nested at most four deep. -/
theorem input_depth {timeout : Json} (htimeout : timeout.depth = 0) (task : WorkerInput) :
    (record (input_fields task timeout)).depth ≤ 4 := by
  have hoptional : ∀ value, (optional_str.json value).depth = 0 := fun value => by cases value <;> rfl
  have hinstruction : ∀ value, (optional_text.json value).depth = 0 := fun value => by
    cases value <;> rfl
  have hpaths : (strs.json task.declared_change_paths).depth ≤ 1 := by
    refine Json.depth_arr_le (List.forall_mem_map.mpr fun path _ => ?_)
    exact Nat.zero_le _
  have hfiles : (Json.arr (task.context_files.map entry_json)).depth ≤ 2 := by
    refine Json.depth_arr_le (List.forall_mem_map.mpr fun entry _ => ?_)
    simp [entry_json, record, Json.depth, Json.depth_fields, text, Codec.text]
  refine Json.depth_record_le ?_
  simp only [input_fields, List.forall_mem_cons, List.not_mem_nil, false_imp_iff, implies_true,
    and_true, hoptional, hinstruction, htimeout]
  exact ⟨Nat.zero_le _, Nat.zero_le _, Nat.zero_le _, Nat.zero_le _, Nat.zero_le _,
    hpaths.trans (by omega), Nat.zero_le _, Nat.zero_le _, Nat.zero_le _, hfiles.trans (by omega),
    Nat.zero_le _, Nat.zero_le _⟩

theorem request_depth {task : WorkerInput} {timeout payload : Json} (htimeout : timeout.depth = 0)
    (hpayload : build_chat_completions_payload task = .ok payload) :
    (record (request_fields timeout payload)).depth ≤ 4 := by
  obtain ⟨instruction, -, hpayload⟩ := bind_ok.mp hpayload
  obtain rfl := Except.ok.inj hpayload
  simp [request_fields, payload_fields, request_message, record, Json.depth, Json.depth_fields,
    Json.depth_items, json_text, htimeout]

variable [Interpreters]

/-- Nothing is in the way of a call whose channel answers `result`: the worker without a
container returns `value` then, the frames are within their limits, and so is what the host
renders to parse it again; both interpreters take JSON of four levels. -/
structure Undisturbed (isprintable : Char → Bool) (worker : ContainerProposalWorker)
    (task : WorkerInput) (result : ChannelResult) (value : WorkerResult) : Prop where
  recursion : Interpreters.Ample
  unused : worker.used = false
  valid : task.post_init isprintable = .ok ()
  returns : WorkerReturns task worker.model_timeout_seconds (.of result.val) value
  input : Fits MAX_REQUEST_BYTES (record (input_fields task worker.model_timeout_seconds))
  request : ∀ payload, build_chat_completions_payload task = .ok payload →
    Fits MAX_REQUEST_BYTES (record (request_fields worker.model_timeout_seconds payload))
  response : ∀ choice ∈ result.val.choices,
    Fits MAX_RESPONSE_BYTES (record (WorkerModelIPC.response_fields choice))
  last : Fits MAX_RESPONSE_BYTES (result_frame value)
  rendering : Fits Proposal.MAX_MODEL_OUTPUT_BYTES (parsed_again value)

/-- What is exchanged. -/
structure Exchange (isprintable : Char → Bool) (task : WorkerInput) (timeout payload response : Json)
    (result : ChannelResult) (value : WorkerResult) : Prop where
  recursion : Interpreters.Ample
  float : timeout.wf ∧ timeout.plain ∧ to_float timeout = timeout
  checked : checked_timeout timeout = .ok ()
  valid : task.post_init isprintable = .ok ()
  payload_ok : model_input task = .ok payload
  output_ok : model_output task (.of result.val) = .ok value
  input_sent : Sendable MAX_REQUEST_BYTES (record (input_fields task timeout))
  request_sent : Sendable MAX_REQUEST_BYTES (record (request_fields timeout payload))
  response_sent : Sendable MAX_RESPONSE_BYTES response
  response_ok : response_of (.of result) = .ok response
  read : response_result (rendered response) = .ok result.val.without_reasoning
  last_sent : Sendable MAX_RESPONSE_BYTES (result_frame value)
  last_ok : _validated_proposal (result_frame value) task = .ok value

theorem Undisturbed.exchange {isprintable : Char → Bool} {worker : ContainerProposalWorker}
    {task : WorkerInput} {result : ChannelResult} {value : WorkerResult}
    (h : Undisturbed isprintable worker task result value) :
    ∃ payload response, Exchange isprintable task worker.model_timeout_seconds payload response result value := by
  obtain ⟨repr, hrepr, hfloat⟩ := worker.is_float
  have htimeout : worker.model_timeout_seconds.wf ∧ worker.model_timeout_seconds.plain ∧
      to_float worker.model_timeout_seconds = worker.model_timeout_seconds := by
    rw [hrepr]
    exact ⟨hfloat, trivial, rfl⟩
  have hflat : worker.model_timeout_seconds.depth = 0 := by
    rw [hrepr]
    rfl
  obtain ⟨⟨payload, hpayload⟩, hchecked, houtput⟩ := propose_parts h.returns
  have hbuild := model_input_ok hpayload
  obtain ⟨text, htext, hparse⟩ := bind_ok.mp houtput
  -- a result that was accepted has one choice without tool calls, and what crosses the pipe
  -- keeps all of it but the reasoning
  obtain ⟨choice, hchoices, hcalls⟩ := extract_no_calls htext
  have hresponse := h.response choice (by rw [hchoices]; exact List.mem_cons_self)
  have hjson : ∀ j ∈ choice.message.tool_calls, j.wf ∧ j.plain := by
    rw [hcalls]
    exact fun j hj => absurd hj List.not_mem_nil
  have hsend : Sendable MAX_RESPONSE_BYTES (record (WorkerModelIPC.response_fields choice)) :=
    ⟨WorkerModelIPC.response_wf hjson, WorkerModelIPC.response_plain hjson, hresponse,
      rendered_ne_nil _, WorkerModelIPC.response_depth (Nat.le_refl 4) (by
        rw [hcalls]
        exact fun j hj => absurd hj List.not_mem_nil)⟩
  have hencoded : _encode_result Interpreters.host result.val =
      .ok (rendered (record (WorkerModelIPC.response_fields choice))) := by
    rw [_encode_result, hchoices]
    exact encode_json_of_encode (hsend.encode_host h.recursion envelope_error envelope_error)
  have hdecoded : _decode_json Interpreters.child
      (rendered (record (WorkerModelIPC.response_fields choice))) MAX_RESPONSE_BYTES =
        .ok (record (WorkerModelIPC.response_fields choice)) :=
    hsend.decode h.recursion h.recursion.child_reads
  have hnested : result.val.Nested 4 := by
    intro c hc j hj
    rw [hchoices, List.mem_singleton] at hc
    rw [hc, hcalls] at hj
    exact absurd hj List.not_mem_nil
  have hnone : is_failure (record (WorkerModelIPC.response_fields choice)) = false := rfl
  have hread : response_result (rendered (record (WorkerModelIPC.response_fields choice))) =
      .ok result.val.without_reasoning :=
    bind_ok.mpr ⟨_, hdecoded, raise_if_bind.mpr ⟨by simp [hnone],
      WorkerModelIPC.result_round_trip (Nat.le_refl 4) h.recursion.child_reads result.property hnested
        hencoded⟩⟩
  -- the value was parsed once, so it passes when the host parses it again
  have hacceptable : Acceptable task.declared_texts value := by
    rw [parse_model_result] at hparse
    obtain ⟨_, -, hparse⟩ := bind_ok.mp hparse
    obtain ⟨-, hparse⟩ := raise_if_bind.mp hparse
    obtain ⟨-, hparse⟩ := raise_if_bind.mp hparse
    obtain ⟨_, -, hparse⟩ := bind_ok.mp hparse
    obtain ⟨_, -, hparse⟩ := bind_ok.mp hparse
    exact parse_parsed_acceptable (raise_if_bind.mp hparse).2
  obtain ⟨hpw, hpp⟩ := payload_wf hbuild
  obtain ⟨hrw, hrp⟩ := request_wf ⟨htimeout.1, htimeout.2.1⟩ ⟨hpw, hpp⟩
  obtain ⟨hlw, hlp⟩ := result_frame_wf value
  have hlast : rendered (result_frame value) ≠ [] := by
    cases value with
    | terminal outcome reason_code => exact rendered_ne_nil _
    | proposal changes => exact rendered_ne_nil _
  exact ⟨payload, _, h.recursion, htimeout, hchecked, h.valid, hpayload, houtput,
    ⟨input_wf htimeout.1, input_plain htimeout.2.1, h.input, rendered_ne_nil _, input_depth hflat task⟩,
    ⟨hrw, hrp, h.request payload hbuild, rendered_ne_nil _, request_depth hflat hbuild⟩, hsend,
    bind_ok.mpr ⟨_, hencoded, hsend.decode h.recursion h.recursion.host_reads⟩, hread,
    ⟨hlw, hlp, h.last, hlast, result_frame_depth value⟩,
    validated_proposal_of h.recursion hacceptable h.rendering⟩

section Exchange

variable {isprintable : Char → Bool} {worker : ContainerProposalWorker} {task : WorkerInput}
  {timeout payload response : Json} {result : ChannelResult} {value : WorkerResult}

/-- The frames of an exchange. -/
def input_frame (task : WorkerInput) (timeout : Json) : Bytes := frame
    (rendered (record (input_fields task timeout)))
def request_frame (timeout payload : Json) : Bytes := frame
    (rendered (record (request_fields timeout payload)))
def last_frame (value : WorkerResult) : Bytes := frame (rendered (result_frame value))

theorem Exchange.limit (h : Exchange isprintable task timeout payload response result value) :
    is_number timeout = true ∧ ∃ limit, timeout.number? = some limit ∧ within timeout limit = true := by
  have hchecked := raise_if_ok.mp h.checked
  simp only [not_or, Bool.not_eq_false] at hchecked
  obtain ⟨hnumber, hwithin⟩ := hchecked
  rw [within] at hwithin
  split at hwithin
  · rename_i limit hlimit
    simp only [Bool.and_eq_true, decide_eq_true_eq] at hwithin
    exact ⟨hnumber, limit, hlimit, by rw [within, hlimit]; simpa using hwithin.1⟩
  · cases hwithin

theorem channel_plays (h : Exchange isprintable task timeout payload response result value) :
    Plays (StdioChatCompletionsChannel.create_chat_completion timeout payload timeout)
      [sends (request_frame timeout payload), receives (frame (rendered response))]
      (.of result.val.without_reasoning) := by
  obtain ⟨hnumber, limit, hlimit, hwithin⟩ := h.limit
  have htimeout : _validate_timeout timeout limit = .ok timeout := by
    rw [_validate_timeout, raise_if_ok.mpr (by simp [hnumber, hwithin]), ok_bind, h.float.2.2]
    rfl
  obtain ⟨encoded, hencoded⟩ := payload_admitted (model_input_ok h.payload_ok)
    (payload_fits h.request_sent.fits)
  have hrequest : encoded_request timeout payload =
    .ok (rendered (record (request_fields timeout payload))) :=
    bind_ok.mpr ⟨encoded, hencoded, encode_json_of_encode
      (h.request_sent.encode_child h.recursion envelope_error envelope_error)⟩
  have hexchange : Plays (exchange (rendered (record (request_fields timeout payload))))
      [sends (request_frame timeout payload),
        receives (frame (rendered response))] result.val.without_reasoning := by
    apply Pipes.Plays.bind (write_plays _ _)
    apply Pipes.Plays.seq_silent (by simp) (read_body_plays _ _ (h.response_sent.within (by decide)))
    exact Pipes.Plays.lift h.read
  apply Pipes.Plays.lift_bind (or_raise_ok.mpr hlimit)
  apply Pipes.Plays.lift_bind htimeout
  apply Pipes.Plays.of_eq
  · apply Pipes.Plays.seq_one (Pipes.Plays.lift hrequest).handle
    apply Pipes.Plays.seq_one (check_plays .set_blocking _)
    apply Pipes.Plays.seq_silent (by simp) hexchange.handle
    apply Pipes.Plays.seq_silent (by simp) (check_plays .restore_blocking _)
    exact ret_plays _
  · rw [Pipes.Turn.empty_append, Pipes.Turn.empty_append]

theorem deepseek_plays (h : Exchange isprintable task timeout payload response result value) :
    Plays (DeepSeekProposalWorker.propose
      (StdioChatCompletionsChannel.create_chat_completion timeout) timeout task)
      [sends (request_frame timeout payload), receives (frame (rendered response))] value := by
  apply Pipes.Plays.lift_bind h.payload_ok
  apply Pipes.Plays.seq_silent (by simp)
  · apply Pipes.Plays.handle
    apply Pipes.Plays.lift_bind h.checked
    exact channel_plays h
  · exact Pipes.Plays.lift ((model_output_without_reasoning task result.val).trans h.output_ok)

theorem worker_child_plays (h : Exchange isprintable task timeout payload response result value) :
    Plays (worker_child isprintable)
      [⟨input_frame task timeout, startup_frames ++ request_frame timeout payload, []⟩,
        ⟨frame (rendered response), last_frame value, []⟩] (task, value) := by
  have htask : Plays (read_task isprintable) [receives (input_frame task timeout)] (task, timeout) := by
    apply Pipes.Plays.seq_silent (by simp) (child_read_plays h.recursion h.input_sent (by decide))
    exact Pipes.Plays.lift (accept_task_of h.float.1 h.checked h.valid)
  have hprobe : Plays probe_network [.empty] () := by
    apply Pipes.Plays.seq_silent (by simp) (ask_plays .probe_network .network_probes_blocked)
    exact ret_plays ()
  have hopen : Plays (open_channel timeout) [.empty] timeout := by
    have hchecked := raise_if_ok.mp h.checked
    apply Pipes.Plays.seq_silent (by simp) (check_plays .streams_are_pipes _)
    refine Pipes.Plays.lift (raise_if_bind.mpr ⟨hchecked, ?_⟩)
    rw [h.float.2.2]
    rfl
  apply Pipes.Plays.of_eq
  · apply Pipes.Plays.seq_one (start_up_plays h.recursion)
    apply Pipes.Plays.seq_one htask.handle
    apply Pipes.Plays.seq_one (status_plays h.recursion (by decide))
    apply Pipes.Plays.seq_one hprobe
    apply Pipes.Plays.seq_one (status_plays h.recursion (by decide))
    apply Pipes.Plays.seq_one hopen
    apply Pipes.Plays.seq_one (status_plays h.recursion (by decide))
    apply Pipes.Plays.seq_two (deepseek_plays h).handle
    apply Pipes.Plays.seq_one (child_write_plays h.recursion h.last_sent)
    exact ret_plays (task, value)
  -- the turns that only write join with the one that reads next
  · rw [Pipes.Turn.empty_append, Pipes.Turn.empty_append, Pipes.Turn.append_empty, sends_append,
      sends_append,
      sends_append, receives_sends, receives_sends, sends_before, startup_frames_eq, last_frame]

theorem call_channel_plays (h : response_of (.of result) = .ok response) :
    Plays (call_channel payload timeout)
      [notes (.called payload timeout (.ok (.of result)))] response := by
  apply Pipes.Plays.handle
  apply Pipes.Plays.seq_silent (by simp)
  · apply Pipes.Plays.seq_silent (by simp) (ask_plays (.create_chat_completion payload timeout)
      (.ok (.of result)))
    exact Pipes.Plays.lift rfl
  · exact Pipes.Plays.lift h

/-- The host finds its payload in the request. -/
theorem check_request_of (h : Exchange isprintable task timeout payload response result value) :
    check_request timeout payload (record (request_fields timeout payload)) =
      .ok (timeout, payload) := by
  obtain ⟨hnumber, limit, hlimit, hwithin⟩ := h.limit
  have hbuild := model_input_ok h.payload_ok
  obtain ⟨encoded, hencoded⟩ := payload_admitted hbuild (payload_fits h.request_sent.fits)
  obtain ⟨hpw, hpp⟩ := payload_wf hbuild
  have hkeys : (record (request_fields timeout payload)).has_keys
    ["schema", "timeout_seconds", "payload"] = true :=
    Json.has_keys_record (request_fields timeout payload)
  have hschema : ((record (request_fields timeout payload)).get? "schema").bind Json.text? =
    some REQUEST_SCHEMA := rfl
  have hget := Json.get_record h.request_sent.wf
  exact raise_if_bind.mpr ⟨by rw [hkeys, hschema]; simp,
    bind_ok.mpr ⟨timeout, or_raise_ok.mpr
      (hget ("timeout_seconds", timeout) (by simp [request_fields])),
      bind_ok.mpr ⟨limit, or_raise_ok.mpr hlimit, raise_if_bind.mpr ⟨by simp [hnumber, hwithin],
        bind_ok.mpr ⟨payload, or_raise_ok.mpr (hget ("payload", payload) (by simp [request_fields])),
          raise_if_bind.mpr ⟨by simp [py_eq_self hpw hpp], bind_ok.mpr ⟨encoded, hencoded, rfl⟩⟩⟩⟩⟩⟩⟩

theorem converse_plays (h : Exchange isprintable task worker.model_timeout_seconds payload response result value) :
    Plays (converse worker task)
      [sends (input_frame task worker.model_timeout_seconds),
        ⟨startup_frames ++ request_frame worker.model_timeout_seconds payload,
          frame (rendered response),
          [.called payload worker.model_timeout_seconds (.ok (.of result))]⟩,
        ⟨last_frame value, [], [.exited 0]⟩] value := by
  have hstatuses : Plays (expect_all WORKER_STARTUP_STATUSES) [receives startup_frames] () :=
    expect_all_plays h.recursion _ (by decide)
  apply Pipes.Plays.of_eq
  · apply Pipes.Plays.bind (host_write_plays h.recursion h.input_sent)
    apply Pipes.Plays.seq_one hstatuses
    apply Pipes.Plays.seq_one (host_read_plays h.recursion h.request_sent (by decide))
    apply Pipes.Plays.lift_bind (model_input_ok h.payload_ok)
    apply Pipes.Plays.lift_bind (check_request_of h)
    apply Pipes.Plays.seq_one (host_step_plays .assert_container)
    apply Pipes.Plays.seq_one (call_channel_plays h.response_ok)
    apply Pipes.Plays.bind (host_write_plays h.recursion h.response_sent)
    apply Pipes.Plays.seq_one (host_read_plays h.recursion h.last_sent (by decide))
    apply Pipes.Plays.lift_bind h.last_ok
    apply Pipes.Plays.seq_one (wait_plays _)
    apply Pipes.Plays.lift_bind (raise_if_ok.mpr (not_not.mpr rfl))
    exact ret_plays value
  · simp only [Pipes.Turn.append, Pipes.Turn.empty, sends, receives, notes, List.nil_append,
      List.append_nil,
      List.append_eq, List.singleton_append, input_frame, request_frame, last_frame]

theorem propose_plays (h : Exchange isprintable task worker.model_timeout_seconds payload response result value)
    (hunused : worker.used = false) :
    Plays (worker.propose task)
      [sends (input_frame task worker.model_timeout_seconds),
        ⟨startup_frames ++ request_frame worker.model_timeout_seconds payload,
          frame (rendered response),
          [.called payload worker.model_timeout_seconds (.ok (.of result))]⟩,
        ⟨last_frame value, [], [.exited 0]⟩] value := by
  have hrun : Plays (run_container worker task)
      [sends (input_frame task worker.model_timeout_seconds),
        ⟨startup_frames ++ request_frame worker.model_timeout_seconds payload,
          frame (rendered response),
          [.called payload worker.model_timeout_seconds (.ok (.of result))]⟩,
        ⟨last_frame value, [], [.exited 0]⟩] value := by
    apply Pipes.Plays.of_eq
    · apply Pipes.Plays.seq_one (host_step_plays .stage_worker_schemas)
      apply Pipes.Plays.seq_one (host_step_plays .image_environment)
      apply Pipes.Plays.seq_one (host_step_plays .popen).handle
      exact converse_plays h
    · rw [Pipes.Turn.empty_append, Pipes.Turn.empty_append, Pipes.Turn.empty_append]
  have hclean : Plays clean_up [.empty] () := by
    apply Pipes.Plays.seq_silent (by simp) (ask_plays .cleanup true)
    exact Pipes.Plays.lift rfl
  apply Pipes.Plays.lift_bind (raise_if_ok.mpr (by simp [hunused]))
  apply Pipes.Plays.of_eq
  · apply Pipes.Plays.seq_one (ask_plays .directories true)
    apply Pipes.Plays.lift_bind (raise_if_ok.mpr (by simp))
    apply Pipes.Plays.seq_silent (by simp) hrun.handle
    apply Pipes.Plays.seq_silent (by simp) hclean
    exact ret_plays value
  · exact congrArg (· :: _) (Pipes.Turn.empty_append _)

end Exchange

end Plays

/-! ## Transparency -/

/-- A host and a child that are joined by two pipes. -/
abbrev System : Type := Pipes.Duplex UInt8 Query Query.Ans Note Exn WorkerResult
  (WorkerInput × WorkerResult)

/-- What a process that has ended notes stays true. -/
theorem truth_stable (n : Note) (op : PipeOp UInt8 Query)
    (next : Answer Query.Ans op → Program (WorkerInput × WorkerResult)) (r : Answer Query.Ans op)
    (h : truth n (.call op next)) : truth n (next r) := by
  cases n with
  | called _ _ _ => trivial
  | exited returncode =>
    intro hcode
    obtain ⟨result, hresult⟩ := h hcode
    cases hresult

/-- The calls of the host's channel. -/
def channel_calls (t : Trace) : List (Json × Json × Except Exn (Arg ChannelResult)) :=
  t.notes.filterMap fun n => match n with
    | .called payload timeout_seconds answer => some (payload, timeout_seconds, answer)
    | .exited _ => none

/-- A call that returns has called its channel once, with the payload of its task, and returns
what a worker without a container returns over the channel's result; its child has decoded its
task. -/
structure Transparent (worker : ContainerProposalWorker) (task : WorkerInput) (s : System) : Prop where
  once : ∀ value, s.left.program = .ret value → ∃ payload result,
    build_chat_completions_payload task = .ok payload ∧
    channel_calls s.left.trace = [(payload, worker.model_timeout_seconds, .ok result)] ∧
    WorkerReturns task worker.model_timeout_seconds (returned result) value
  decoded : ∀ value, s.left.program = .ret value → s.right.program = .ret (task, value)

section Runs

variable [Interpreters]

/-- What a call and its child can reach, whatever their surroundings do. -/
def Run (isprintable : Char → Bool) (worker : ContainerProposalWorker) (task : WorkerInput)
    (s : System) : Prop :=
  Pipes.Reachable note truth (worker.propose task) (worker_child isprintable) s

/-- **An undisturbed run**: both processes take turns until they have returned. -/
theorem undisturbed_run {isprintable : Char → Bool} {worker : ContainerProposalWorker}
    {task : WorkerInput} {result : ChannelResult} {value : WorkerResult}
    (h : Undisturbed isprintable worker task result value) :
    ∃ payload s, Run isprintable worker task s ∧ s.left.program = .ret value ∧
      s.right.program = .ret (task, value) ∧ build_chat_completions_payload task = .ok payload ∧
      channel_calls s.left.trace = [(payload, worker.model_timeout_seconds, .ok (.of result))] := by
  obtain ⟨payload, response, hexchange⟩ := h.exchange
  have hstart : Run isprintable worker task
    (.start (worker.propose task) (worker_child isprintable)) := .refl
  -- The host writes the task.
  obtain ⟨s₁, hrun₁, hleft₁, hin₁, hright₁, hout₁, hnotes₁⟩ := Pipes.Reachable.play_left hstart
    (propose_plays hexchange h.unused) rfl (by simp [sends])
  -- The child starts, reads it and asks.
  have hwaiting : s₁.right.program = worker_child isprintable := by rw [hright₁]; rfl
  have hchild₁ := worker_child_plays hexchange
  rw [← hwaiting] at hchild₁
  obtain ⟨s₂, hrun₂, hright₂, hin₂, hleft₂, hout₂⟩ := Pipes.Reachable.play_right hrun₁ hchild₁
    (by rw [hout₁]; exact List.nil_append _)
  -- The host calls its channel and answers.
  rw [← hleft₂] at hleft₁
  obtain ⟨s₃, hrun₃, hleft₃, hin₃, hright₃, hout₃, hnotes₃⟩ := Pipes.Reachable.play_left hrun₂ hleft₁
    (by rw [hout₂, hin₁]; exact List.nil_append _) (by simp [truth])
  -- The child sends its proposal and ends.
  rw [← hright₃] at hright₂
  obtain ⟨s₄, hrun₄, hright₄, hin₄, hleft₄, hout₄⟩ := Pipes.Reachable.play_right hrun₃ hright₂
    (by rw [hout₃, hin₂]; exact List.nil_append _)
  have hended : s₄.right.program = .ret (task, value) := hright₄.of_nil
  -- The host reads it, and the exit status of the child.
  rw [← hleft₄] at hleft₃
  obtain ⟨s₅, hrun₅, hleft₅, hin₅, hright₅, hout₅, hnotes₅⟩ := Pipes.Reachable.play_left hrun₄ hleft₃
    (by rw [hout₄, hin₃]; exact List.nil_append _) (by simp [truth, hended])
  refine ⟨payload, s₅, hrun₅, hleft₅.of_nil, by rw [hright₅, hended],
    model_input_ok hexchange.payload_ok, ?_⟩
  rw [channel_calls, hnotes₅, hleft₄, hnotes₃, hleft₂, hnotes₁]
  rfl

/-- **Every result of the worker without a container can be returned.** If nothing is in the way,
some run of the host and its child returns what the worker without a container returns, after
one call of the channel, and the child has decoded the task. -/
theorem container_complete (isprintable : Char → Bool) (worker : ContainerProposalWorker)
    (task : WorkerInput) (result : ChannelResult) (value : WorkerResult)
    (h : Undisturbed isprintable worker task result value) :
    ∃ payload s, Run isprintable worker task s ∧ s.left.program = .ret value ∧
      s.right.program = .ret (task, value) ∧ build_chat_completions_payload task = .ok payload ∧
      channel_calls s.left.trace = [(payload, worker.model_timeout_seconds, .ok (.of result))] :=
  undisturbed_run h

/-- The frames of both processes are the same. -/
theorem bodies_same {isprintable : Char → Bool} {worker : ContainerProposalWorker} {task : WorkerInput}
    {proposal : WorkerResult} {done : WorkerInput × WorkerResult} {b b' : Bodies} {t t' : Trace}
    {rightward leftward : Bytes} (hhost : HostReturned worker task proposal b t)
    (hchild : ChildEnded isprintable done b' t') (hright : t.sent = t'.received ++ rightward)
    (hleft : t'.sent = t.received ++ leftward) :
    b'.input = b.input ∧ b'.response = b.response ∧ b'.request = b.request ∧ b'.last = b.last := by
  obtain ⟨_, _, hinput⟩ := hhost.input
  obtain ⟨_, _, _, _, _, _, _, -, -, -, -, hresponse, -⟩ := hhost.call
  obtain ⟨_, _, _, -, -, -, -, hrequest⟩ := hchild.task
  obtain ⟨_, _, hlast⟩ := hchild.last
  have hinput' := within_of_encode hinput (by decide)
  have hresponse' := within_of_encode hresponse (by decide)
  have hrequest' := within_of_encode_json (bind_ok.mp hrequest).choose_spec.2 (by decide)
  have hlast' := within_of_encode hlast (by decide)
  rw [hhost.sent, hchild.received, List.append_assoc] at hright
  -- each stream is a row of frames, and a frame says its own length, so the two sides agree
  -- on the first frame, then on the next
  obtain ⟨hsame₁, hright⟩ := WorkerModelIPC.frame_append_inj hinput'.length_lt hchild.within.1.length_lt hright
  rw [← List.append_nil (frame b.response)] at hright
  obtain ⟨hsame₂, -⟩ := WorkerModelIPC.frame_append_inj hresponse'.length_lt hchild.within.2.length_lt hright
  rw [hhost.received, hchild.sent, List.append_assoc] at hleft
  have hleft' := frames_append_inj hchild.statuses hhost.statuses hleft
  rw [List.append_assoc] at hleft'
  obtain ⟨hsame₃, hleft'⟩ := WorkerModelIPC.frame_append_inj hrequest'.length_lt hhost.within.1.length_lt hleft'
  rw [← List.append_nil (frame b'.last)] at hleft'
  obtain ⟨hsame₄, -⟩ := WorkerModelIPC.frame_append_inj hlast'.length_lt hhost.within.2.length_lt hleft'
  exact ⟨hsame₁.symm, hsame₂.symm, hsame₃, hsame₄⟩

/-- What both processes agree on, where the host has returned and the child has ended. -/
theorem exchanged_same {isprintable : Char → Bool} {worker : ContainerProposalWorker}
    {task : WorkerInput} {proposal : WorkerResult} {done : WorkerInput × WorkerResult}
    {b b' : Bodies} {t t' : Trace} (hhost : HostReturned worker task proposal b t)
    (hchild : ChildEnded isprintable done b' t')
    (hsame : b'.input = b.input ∧ b'.response = b.response ∧ b'.request = b.request ∧
      b'.last = b.last) :
    done = (task, proposal) ∧ ∃ payload result, build_chat_completions_payload task = .ok payload ∧
      t.notes = [.called payload worker.model_timeout_seconds (.ok result), .exited 0] ∧
      model_input task = .ok payload ∧ checked_timeout worker.model_timeout_seconds = .ok () ∧
      model_output task (returned result) = .ok proposal := by
  obtain ⟨repr, hrepr, hfloat⟩ := worker.is_float
  have htimeout : worker.model_timeout_seconds.wf ∧ worker.model_timeout_seconds.plain := by
    rw [hrepr]
    exact ⟨hfloat, trivial⟩
  obtain ⟨task', value'⟩ := done
  obtain ⟨envelope, timeout, payload, henvelope, haccepted, hpayload, hchecked, hrequest⟩ := hchild.task
  obtain ⟨value, hvalue, houtput⟩ := hchild.result
  obtain ⟨_, _, hlast⟩ := hchild.last
  obtain ⟨_, _, hinput⟩ := hhost.input
  obtain ⟨payload', request, requested, result, response, _, _, hbuild, hdecoded, hrequested,
    hresult, hresponse, hnotes⟩ := hhost.call
  obtain ⟨result_json, hjson, hproposal⟩ := hhost.last
  obtain ⟨hinput', hresponse', hrequest', hlast'⟩ := hsame
  rw [hinput'] at henvelope
  rw [hresponse'] at hvalue
  rw [hrequest'] at hrequest
  rw [hlast'] at hlast
  -- The task.
  obtain rfl := child_loads_of_encode (input_wf htimeout.1) (input_plain htimeout.2) hinput henvelope
  obtain ⟨rfl, rfl⟩ := Prod.mk.inj (accept_task_input htimeout.1 haccepted)
  -- The request.
  have hbuilt := model_input_ok hpayload
  obtain rfl := Except.ok.inj (hbuild.symm.trans hbuilt)
  have hseconds : to_float worker.model_timeout_seconds = worker.model_timeout_seconds := by
    rw [hrepr]
    rfl
  rw [hseconds] at hrequest
  obtain rfl := check_request_encoded htimeout (payload_wf hbuild) hrequest hdecoded hrequested
  -- The result.
  obtain ⟨r, rfl, rfl⟩ := response_of_result hresult hresponse hvalue
  rw [model_output_without_reasoning] at houtput
  -- The proposal.
  obtain ⟨hw, hp⟩ := result_frame_wf value'
  obtain rfl := decoded_of_encode hw hp hlast hjson
  obtain rfl := validated_proposal_same hproposal
  exact ⟨rfl, payload', .of r, hbuild, hnotes, hpayload, hchecked, houtput⟩

/-- **The container is transparent.** What either process has read and written is known of it
alone, whatever the other does. The pipes join the two: what one has sent is what the other has
received and what is still under way, and since every frame says its own length, the frames of
both sides are the same one by one. That the child has ended at all is what exit status 0 says;
a host that has returned has seen it. -/
theorem container_transparent (isprintable : Char → Bool) (worker : ContainerProposalWorker)
    (task : WorkerInput) (s : System) (h : Run isprintable worker task s) :
    Transparent worker task s := by
  have hmain (value : WorkerResult) (hret : s.left.program = .ret value) :
      s.right.program = .ret (task, value) ∧
      ∃ payload result, build_chat_completions_payload task = .ok payload ∧
        s.left.trace.notes = [.called payload worker.model_timeout_seconds (.ok result), .exited 0] ∧
        model_input task = .ok payload ∧ checked_timeout worker.model_timeout_seconds = .ok () ∧
        model_output task (returned result) = .ok value := by
    have hleft := Pipes.Reachable.left h (propose_returns worker task)
    rw [hret] at hleft
    obtain ⟨b, hhost⟩ := Pipes.Returns.of_ret hleft
    -- The host has seen exit status 0, so the child has ended.
    have hexited : Note.exited 0 ∈ s.left.trace.notes := by
      obtain ⟨_, _, _, _, _, _, _, -, -, -, -, -, hnotes⟩ := hhost.call
      rw [hnotes]
      simp
    obtain ⟨done, hdone⟩ := Pipes.Reachable.noted_true h truth_stable _ hexited rfl
    have hright := Pipes.Reachable.right h (worker_child_returns isprintable)
    rw [hdone] at hright
    obtain ⟨b', hchild⟩ := Pipes.Returns.of_ret hright
    obtain ⟨hsent, hsent'⟩ := Pipes.Reachable.streams h
    obtain ⟨hsame, hrest⟩ := exchanged_same hhost hchild (bodies_same hhost hchild hsent hsent')
    exact ⟨hsame ▸ hdone, hrest⟩
  refine ⟨fun value hret => ?_, fun value hret => (hmain value hret).1⟩
  obtain ⟨-, payload, result, hbuild, hnotes, hinput, htimeout, houtput⟩ := hmain value hret
  refine ⟨payload, result, hbuild, ?_, DeepSeekProposalWorker.propose_answered hinput htimeout houtput⟩
  rw [channel_calls, hnotes]
  rfl

end Runs

/-! ## A call -/

section Sample

/-- No character of a string takes more than six times its bytes. -/
theorem width_escape_le (c : Char) : width (Json.escape false c.toNat) ≤ 6 * c.utf8Size := by
  have hpos := c.utf8Size_pos
  by_cases hlow : c.toNat < 0x80
  · have hall : ∀ n < 0x80, width (Json.escape false n) ≤ 6 := by decide +kernel
    have hwidth := hall c.toNat hlow
    omega
  · rw [Json.escape, if_neg (by omega), if_neg (by omega), if_neg (by omega), if_neg (by omega),
      if_neg (by omega),
      if_neg (by omega), if_neg (by omega), if_neg (by simp; omega), Char.ofNat_toNat, width_cons,
        width_nil]
    omega

theorem length_rendered_str (text : String) :
    (rendered (.str (.text text))).length ≤ 6 * (utf8_bytes text).length + 2 := by
  have hbody : ∀ cs : List Char, width ((cs.map Char.toNat).flatMap (Json.escape false)) ≤
    6 * width cs := by
    intro cs
    induction cs with
    | nil => exact Nat.le_refl 0
    | cons c rest ih =>
      have hfirst := width_escape_le c
      rw [List.map_cons, List.flatMap_cons, width_append, width_cons]
      omega
  have hquote : Char.utf8Size '"' = 1 := by decide
  have htext := hbody text.toList
  rw [rendered, length_encode_utf8, String.toList_ofList, Json.print, Json.print_str, PyStr.codes,
    width_cons,
    width_append, width_cons, width_nil, hquote, utf8_bytes, List.length_map]
  have hbytes : text.toByteArray.data.toList.length = width text.toList := length_encode_utf8 text
  omega

/-- A list of bounded items. -/
theorem length_rendered_arr {items : List Json} {bounds : List ℕ}
    (hitems : List.Forall₂ (fun item n => (rendered item).length ≤ n) items bounds) :
    (rendered (.arr items)).length ≤ (bounds.map (· + 1)).sum + 2 := by
  have hlength (value : Json) : (rendered value).length = width (value.print false) := by
    rw [rendered, length_encode_utf8, String.toList_ofList]
  have hopen : Char.utf8Size '[' = 1 ∧ Char.utf8Size ']' = 1 ∧ Char.utf8Size ',' = 1 := by decide
  have hprint : width (Json.print_items false items) ≤ (bounds.map (· + 1)).sum := by
    induction hitems with
    | nil => exact Nat.le_refl 0
    | @cons item n rest bounds hitem hrest ih =>
      rw [hlength] at hitem
      cases rest with
      | nil =>
        simp only [Json.print_items, List.map_cons, List.sum_cons]
        omega
      | cons next rest =>
        simp only [Json.print_items, width_append, width_cons, hopen, List.map_cons,
          List.sum_cons] at ih ⊢
        omega
  rw [hlength, Json.print, width_cons, width_append, width_cons, width_nil, hopen.1, hopen.2.1]
  omega

/-- A worker with a minute for its model. -/
def minute_worker : ContainerProposalWorker := ⟨.float "60.0", false, ⟨"60.0", rfl, by decide +kernel⟩⟩

/-- A task on one file. -/
def file_task : WorkerInput :=
  ⟨.text "p", .text "t", .text "r", .text "c", [.text "a.py"], none, .text "local", some "Fix it.",
    [("a.py", "x = 1")],
    none⟩

/-- A change of its file. -/
def file_changes : List (String × String) := [("a.py", "x = 2")]

/-- The output that proposes it. -/
def file_output : Json := legacy_form (file_changes.map fun change =>
    (PyStr.text change.1, PyStr.text change.2))

/-- An answer with this output. -/
def file_choice : WorkerModelIPC.ChatCompletionChoice :=
  ⟨.text "stop", .text "assistant", some (.text (String.ofList (file_output.print false))), [],
    none, none⟩

theorem file_calls : ChatCompletionsModelResult.JsonCalls ⟨[file_choice]⟩ := by
  intro choice hchoice j hj
  rw [List.mem_singleton.mp hchoice] at hj
  cases hj

def file_answer : ChannelResult := ⟨⟨[file_choice]⟩, file_calls⟩

/-- The payload of the task. -/
def file_payload : Json := record (payload_fields "Fix it." [("a.py", "x = 1")])

/-- The names of the records of the call are short. -/
theorem file_keys : ShortKeys 1000 INPUT_KEYS ∧ ShortKeys 100 ["role", "content"] ∧
    ShortKeys 100 ["model", "reasoning_effort", "max_tokens", "stream", "response_format",
      "messages"] ∧
    ShortKeys 100 ["schema", "timeout_seconds", "payload"] ∧
    ShortKeys 100 ["role", "content", "tool_calls", "refusal"] ∧
    ShortKeys 100 ["finish_reason", "message"] ∧ ShortKeys 100 ["schema", "result"] := by
  decide +kernel

/-- The values of the records of the call are short. -/
theorem file_lengths :
    (∀ value ∈ [json_text "system", json_text "deepseek-flash", json_text "low", .int 4096,
      .bool false, WorkerModelIPC.str.json (.text "assistant"), .arr [], .null,
      WorkerModelIPC.str.json (.text "stop")], 4 * (value.print false).length ≤ 100) ∧
    (∀ value ∈ [request_message "user" (user_content "Fix it." [("a.py", "x = 1")]),
      record [("type", json_text "json_object")], json_text REQUEST_SCHEMA,
      minute_worker.model_timeout_seconds,
      WorkerModelIPC.str.json (.text WorkerModelIPC._RESPONSE_SCHEMA), file_output,
      result_frame (.proposal file_changes)], 4 * (value.print false).length ≤ 1000) ∧
    List.Forall₂ (fun f n => 4 * (f.2.print false).length ≤ n)
      (input_fields file_task minute_worker.model_timeout_seconds) (List.replicate 12 1000) ∧
    (utf8_bytes SYSTEM_INSTRUCTION).length ≤ 700 := by
  decide +kernel

theorem file_output_length : 4 * (file_output.print false).length ≤ 1000 := by
  obtain ⟨-, hlong, -⟩ := file_lengths
  rw [List.forall_mem_cons, List.forall_mem_cons, List.forall_mem_cons, List.forall_mem_cons,
    List.forall_mem_cons, List.forall_mem_cons] at hlong
  exact hlong.2.2.2.2.2.1

theorem file_acceptable : Acceptable file_task.declared_texts (.proposal file_changes) := by
  refine ⟨by decide, by decide, by decide, ⟨?_, trivial⟩⟩
  decide +kernel

theorem file_input_fits : Fits MAX_REQUEST_BYTES
    (record (input_fields file_task minute_worker.model_timeout_seconds)) := by
  obtain ⟨-, -, hvalues, -⟩ := file_lengths
  have hrecord := length_rendered_bounded
    (input_fields file_task minute_worker.model_timeout_seconds) file_keys.1
    (hvalues.imp fun _ _ h => length_rendered_le h)
  exact ⟨by rfl, hrecord.trans (by decide)⟩

theorem file_messages_length : (rendered (.arr [request_message "system" SYSTEM_INSTRUCTION,
    request_message "user" (user_content "Fix it." [("a.py", "x = 1")])])).length ≤ 10000 := by
  obtain ⟨hshort, hlong, -, hbytes⟩ := file_lengths
  have hcontent := (length_rendered_str SYSTEM_INSTRUCTION).trans
    (Nat.add_le_add_right (Nat.mul_le_mul_left 6 hbytes) 2)
  have hrole := hshort (json_text "system") List.mem_cons_self
  have huser := hlong (request_message "user" (user_content "Fix it." [("a.py", "x = 1")]))
    List.mem_cons_self
  have hsystem := length_rendered_bounded
    [("role", json_text "system"), ("content", json_text SYSTEM_INSTRUCTION)] file_keys.2.1
    (.cons (length_rendered_le hrole) (.cons hcontent .nil))
  exact (length_rendered_arr (.cons hsystem (.cons (length_rendered_le huser) .nil))).trans (by decide)

theorem file_payload_length : (rendered file_payload).length ≤ 20000 := by
  obtain ⟨-, -, hkeys, -⟩ := file_keys
  obtain ⟨hshort, hlong, -⟩ := file_lengths
  rw [List.forall_mem_cons, List.forall_mem_cons, List.forall_mem_cons, List.forall_mem_cons,
    List.forall_mem_cons] at hshort
  obtain ⟨-, hmodel, heffort, htokens, hstream, -⟩ := hshort
  rw [List.forall_mem_cons, List.forall_mem_cons] at hlong
  obtain ⟨-, hformat, -⟩ := hlong
  have hrecord := length_rendered_bounded (payload_fields "Fix it." [("a.py", "x = 1")]) hkeys
    (.cons (length_rendered_le hmodel) (.cons (length_rendered_le heffort)
    (.cons (length_rendered_le htokens) (.cons (length_rendered_le hstream)
      (.cons (length_rendered_le hformat)
      (.cons file_messages_length .nil))))))
  exact hrecord.trans (by decide)

theorem file_request_fits : Fits MAX_REQUEST_BYTES
    (record (request_fields minute_worker.model_timeout_seconds file_payload)) := by
  obtain ⟨-, -, -, hkeys, -⟩ := file_keys
  obtain ⟨-, hlong, -⟩ := file_lengths
  rw [List.forall_mem_cons, List.forall_mem_cons, List.forall_mem_cons, List.forall_mem_cons] at hlong
  obtain ⟨-, -, hschema, hseconds, -⟩ := hlong
  have hrecord := length_rendered_bounded
    (request_fields minute_worker.model_timeout_seconds file_payload) hkeys
    (.cons (length_rendered_le hschema) (.cons (length_rendered_le hseconds)
    (.cons file_payload_length .nil)))
  exact ⟨by rfl, hrecord.trans (by decide)⟩

theorem file_response_fits : Fits MAX_RESPONSE_BYTES
    (record (WorkerModelIPC.response_fields file_choice)) := by
  obtain ⟨-, -, -, -, hkeys, hkeys', hkeys''⟩ := file_keys
  obtain ⟨hshort, hlong, -⟩ := file_lengths
  rw [List.forall_mem_cons, List.forall_mem_cons, List.forall_mem_cons, List.forall_mem_cons,
    List.forall_mem_cons, List.forall_mem_cons, List.forall_mem_cons, List.forall_mem_cons,
    List.forall_mem_cons] at hshort
  obtain ⟨-, -, -, -, -, hrole, hcalls, hrefusal, hreason, -⟩ := hshort
  rw [List.forall_mem_cons, List.forall_mem_cons, List.forall_mem_cons, List.forall_mem_cons,
    List.forall_mem_cons] at hlong
  obtain ⟨-, -, -, -, hschema, -⟩ := hlong
  -- the texts are bounded, not computed: a rendered text is at most six times as long, and two
  have hbytes : (utf8_bytes (String.ofList (file_output.print false))).length ≤ 1000 := by
    rw [utf8_bytes, List.length_map]
    exact length_rendered_le file_output_length
  have hcontent := (length_rendered_str (String.ofList (file_output.print false))).trans
    (Nat.add_le_add_right (Nat.mul_le_mul_left 6 hbytes) 2)
  -- from the inside out, one record around the next
  have hmessage := length_rendered_bounded
    (WorkerModelIPC.message_fields file_choice.message) hkeys
    (.cons (length_rendered_le hrole) (.cons hcontent
    (.cons (length_rendered_le hcalls) (.cons (length_rendered_le hrefusal) .nil))))
  have hchoice := length_rendered_bounded (WorkerModelIPC.choice_fields file_choice) hkeys'
    (.cons (length_rendered_le hreason) (.cons hmessage .nil))
  have hrecord := length_rendered_bounded (WorkerModelIPC.response_fields file_choice) hkeys''
    (.cons (length_rendered_le hschema) (.cons hchoice .nil))
  exact ⟨by rfl, hrecord.trans (by decide)⟩

theorem file_output_fits : Fits Proposal.MAX_MODEL_OUTPUT_BYTES file_output :=
  ⟨rfl, (length_rendered_le file_output_length).trans (by decide)⟩

theorem file_output_taken : model_output file_task (.of ⟨[file_choice]⟩) = .ok
    (.proposal file_changes) := by
  obtain ⟨hw, hp⟩ := legacy_wf (file_changes.map fun change =>
    (PyStr.text change.1, PyStr.text change.2))
  have hparse := parse_model_result_of hw hp rfl file_output_fits (proposal_parsed file_acceptable)
  have hbytes : bytes_of (String.ofList (file_output.print false)) ≤
    Proposal.MAX_MODEL_OUTPUT_BYTES := by
    rw [bytes_of, utf8_bytes, List.length_map]
    exact file_output_fits.2
  have hne : PyStr.text (String.ofList (file_output.print false)) ≠ .text "" := by
    intro hempty
    have hlength := congrArg String.toList (PyStr.text.inj hempty)
    rw [String.toList_ofList] at hlength
    cases hlength
  have hcontent : choice_content file_choice = .ok (String.ofList (file_output.print false)) :=
    raise_if_bind.mpr ⟨by simp [file_choice],
      raise_if_bind.mpr ⟨by simp [file_choice], bind_ok.mpr ⟨_, rfl,
      raise_if_bind.mpr ⟨hne, bind_ok.mpr ⟨_, rfl, raise_if_bind.mpr ⟨Nat.not_lt.mpr hbytes, rfl⟩⟩⟩⟩⟩⟩
  exact bind_ok.mpr ⟨_, hcontent, hparse⟩

theorem file_input_taken : model_input file_task = .ok file_payload := by rfl

theorem minute_taken : checked_timeout minute_worker.model_timeout_seconds = .ok () := by
  have hminute : within minute_worker.model_timeout_seconds MAX_LOCAL_MODEL_TIMEOUT_SECONDS =
    true := by decide +kernel
  exact raise_if_ok.mpr (by rw [hminute]; simp [minute_worker, is_number])

theorem file_last_fits : Fits MAX_RESPONSE_BYTES (result_frame (.proposal file_changes)) := by
  obtain ⟨-, hlong, -⟩ := file_lengths
  rw [List.forall_mem_cons, List.forall_mem_cons, List.forall_mem_cons, List.forall_mem_cons,
    List.forall_mem_cons, List.forall_mem_cons, List.forall_mem_cons] at hlong
  obtain ⟨-, -, -, -, -, -, hlength, -⟩ := hlong
  exact fits_of_length rfl (hlength.trans (by decide))

/-- Two interpreters with room for 900 levels. -/
@[reducible] def file_interpreters : Interpreters := ⟨.levels 900, .levels 900⟩

theorem file_ample : @Interpreters.Ample file_interpreters := by
  have hshallow : ∀ value : Json, value.depth ≤ 4 → decide (value.depth ≤ 900) = true :=
    fun _ h => decide_eq_true (h.trans (by omega))
  exact @Interpreters.Ample.mk file_interpreters hshallow hshallow hshallow hshallow

theorem file_undisturbed : @Undisturbed file_interpreters (fun _ => true) minute_worker file_task
    file_answer (.proposal file_changes) := by
  let _ : Interpreters := file_interpreters
  refine ⟨file_ample, rfl, by rfl, ?_, file_input_fits, ?_, ?_, file_last_fits, file_output_fits⟩
  · exact DeepSeekProposalWorker.propose_answered file_input_taken minute_taken file_output_taken
  · intro payload hpayload
    obtain rfl : file_payload = payload := Except.ok.inj hpayload
    exact file_request_fits
  · intro choice hchoice
    rw [List.mem_singleton.mp hchoice]
    exact file_response_fits

/-- The container returns the change. -/
theorem file_change_returned : ∃ payload s, @Run file_interpreters (fun _ => true) minute_worker file_task s ∧
    s.left.program = .ret (.proposal file_changes) ∧ s.right.program =
      .ret (file_task, .proposal file_changes) ∧
    build_chat_completions_payload file_task = .ok payload ∧
    channel_calls s.left.trace = [(payload, minute_worker.model_timeout_seconds,
      .ok (.of file_answer))] :=
  @container_complete file_interpreters (fun _ => true) minute_worker file_task file_answer
    (.proposal file_changes) file_undisturbed

/-- It has been transparent. -/
theorem file_change_transparent : ∃ s : System, s.left.program = .ret (.proposal file_changes) ∧
    Transparent minute_worker file_task s := by
  obtain ⟨payload, s, hrun, hret, -⟩ := @undisturbed_run file_interpreters _ _ _ _ _ file_undisturbed
  exact ⟨s, hret, @container_transparent file_interpreters (fun _ => true) minute_worker file_task s hrun⟩

end Sample

end AppContracts.ContainerWorker
