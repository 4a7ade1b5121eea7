/-
Structural history reports of an observation journal: `build_history_report` of
`observer_report.py`.

A report selects events and checkpoints of the journal, copies their structural
fields, and lists what the journal leaves open. The gaps are listed in the order
the source finds them and then sorted; the sort is stable.

The text fields of a selected event are read once, into a record; the journal is
validated before, so the fields the schema requires are there.
-/
import AppContracts.ObservationJournal
import Mathlib.Data.List.Sort
import Mathlib.Data.String.Basic

set_option autoImplicit false

namespace AppContracts.HistoryReport

open Validator

/-- `HistoryReportError("history report: " + message)`. -/
def report_error (message : String) : Exn := ⟨.HistoryReportError, "history report: " ++ message⟩

/-- `MAX_RECORDS`. -/
def MAX_RECORDS : ℕ := 100000

/-- `MAX_RECORD_BYTES`. -/
def MAX_RECORD_BYTES : ℤ := 1048576

/-- `MAX_ARTIFACT_REFERENCES`. -/
def MAX_ARTIFACT_REFERENCES : ℕ := 10000

/-! ## Records -/

/-- A string field that the schema requires. -/
def text (doc : Json) (key : String) : String :=
  match doc.get? key with
  | some (.str (.text s)) => s
  | _ => ""

/-- A string field that may be left out. -/
def text? (doc : Json) (key : String) : Option String :=
  match doc.get? key with
  | some (.str (.text s)) => some s
  | _ => none

/-- An integer field that may be left out. -/
def int? (doc : Json) (key : String) : Option ℤ :=
  match doc.get? key with
  | some (.int n) => some n
  | _ => none

/-- A list field that may be left out. -/
def list? (doc : Json) (key : String) : Option (List Json) :=
  match doc.get? key with
  | some (.arr items) => some items
  | _ => none

/-- The texts of a list. -/
def texts (items : List Json) : List String :=
  items.filterMap fun item => match item with
    | .str (.text s) => some s
    | _ => none

/-- What a report reads of an event. -/
structure Event : Type where
  event_id : String
  event_type : String
  process_id : String
  run_id : String
  branch_id : String
  task_id : String
  agent_id : String
  sequence : ℤ
  occurred_at : String
  recorded_at : String
  classification : String
  redaction_status : String
  status : Option String
  checkpoint_id : Option String
  invocation_id : Option String
  decision_or_tool : Option String
  sandbox_return_code : Option ℤ
  sandbox_failure_code : Option String
  causal_event_ids : Option (List String)
  input_refs : Option (List Json)
  output_refs : Option (List Json)

/-- The fields of an event. -/
def Event.of (doc : Json) : Event where
  event_id := text doc "event_id"
  event_type := text doc "event_type"
  process_id := text doc "process_id"
  run_id := text doc "run_id"
  branch_id := text doc "branch_id"
  task_id := text doc "task_id"
  agent_id := text doc "agent_id"
  sequence := (int? doc "sequence").getD 0
  occurred_at := text doc "occurred_at"
  recorded_at := text doc "recorded_at"
  classification := text doc "classification"
  redaction_status := text doc "redaction_status"
  status := text? doc "status"
  checkpoint_id := text? doc "checkpoint_id"
  invocation_id := text? doc "invocation_id"
  decision_or_tool := text? doc "decision_or_tool"
  sandbox_return_code := (doc.get? "safe_parameters").bind fun p => int? p "sandbox_return_code"
  sandbox_failure_code := (doc.get? "safe_parameters").bind fun p => text? p "sandbox_failure_code"
  causal_event_ids := (list? doc "causal_event_ids").map texts
  input_refs := list? doc "input_refs"
  output_refs := list? doc "output_refs"

/-- What a report reads of a checkpoint. -/
structure Checkpoint : Type where
  checkpoint_id : String
  kind : String
  process_id : String
  run_id : String
  branch_id : String
  trigger_event_id : String
  event_cursor : ℤ
  completeness : String
  restore_mode : String
  created_at : String
  state_ref : Option Json
  /-- The reference fields the checkpoint has, in the order of the source. -/
  references : List (String × List Json)

/-- `checkpoint_reference_fields`. -/
def checkpoint_reference_fields : List String :=
  ["state_ref", "context_manifest_ref", "workspace_manifest_ref", "configuration_refs",
    "authority_refs", "pending_action_ref", "external_effect_refs"]

/-- `tuple(raw_refs) if type(raw_refs) is list else (raw_refs,)`. -/
def as_refs : Json → List Json
  | .arr items => items
  | item => [item]

/-- The fields of a checkpoint. -/
def Checkpoint.of (doc : Json) : Checkpoint where
  checkpoint_id := text doc "checkpoint_id"
  kind := text doc "kind"
  process_id := text doc "process_id"
  run_id := text doc "run_id"
  branch_id := text doc "branch_id"
  trigger_event_id := text doc "trigger_event_id"
  event_cursor := (int? doc "event_cursor").getD 0
  completeness := text doc "completeness"
  restore_mode := text doc "restore_mode"
  created_at := text doc "created_at"
  state_ref := doc.get? "state_ref"
  references := checkpoint_reference_fields.filterMap fun field =>
    (doc.get? field).map fun raw => (field, as_refs raw)

/-! ## The report -/

/-- A fact: an event with its cursor, less its free text. -/
structure Fact : Type where
  cursor : ℕ
  event_id : String
  event_type : String
  process_id : String
  run_id : String
  branch_id : String
  task_id : String
  agent_id : String
  sequence : ℤ
  occurred_at : String
  recorded_at : String
  classification : String
  redaction_status : String
  recorded_after_about_time : Option Bool
  status : Option String
  checkpoint_id : Option String
  invocation_id : Option String
  sandbox_return_code : Option ℤ
  sandbox_failure_code : Option String
  causal_event_ids : Option (List String)
  input_refs : Option (List String)
  output_refs : Option (List String)
  deriving DecidableEq

/-- A gap: its code, the events it is about, and what some codes add. -/
structure Gap : Type where
  code : String
  event_ids : List String
  referenced_event_ids : Option (List String) := none
  checkpoint_ids : Option (List String) := none
  missing_sequences : Option (List ℤ) := none
  duplicate_sequences : Option (List ℤ) := none
  deriving DecidableEq

/-- `ArtifactResolution`. -/
structure ArtifactResolution : Type where
  artifact_ref : String
  content_digest : String
  content_bytes : ℤ
  deriving DecidableEq

/-- A fact about a checkpoint. -/
structure CheckpointFact : Type where
  cursor : ℕ
  checkpoint_id : String
  kind : String
  event_cursor : ℤ
  trigger_event_id : String
  completeness : String
  restore_mode : String
  artifact_refs : List (String × List String)
  deriving DecidableEq

/-- A report, less its constant fields; instants are in microseconds. -/
structure Report : Type where
  as_of_cursor : Option ℤ
  as_of_recorded_at : Option ℤ
  about_occurred_at : Option ℤ
  event_count : ℕ
  checkpoint_count : ℕ
  facts : List Fact
  resolved_artifacts : List ArtifactResolution
  checkpoints : List CheckpointFact
  gaps : List Gap
  deriving DecidableEq

/-- The artifact resolver: `none` where `resolve` raises, or where `read_json`
raises or its text is not JSON. -/
structure Resolver : Type where
  resolve : String → Option ArtifactResolution
  read_json : Option (String → Option Json)

/-- The selectors of a report. -/
structure Selectors : Type where
  process_id : Option String := none
  run_id : Option String := none
  branch_id : Option String := none
  as_of_cursor : Option ℤ := none
  as_of_recorded_at : Option String := none
  about_occurred_at : Option String := none

/-! ## Verified rows -/

/-- The cursor and the event of an ID. -/
def event_by_id (events : List (ℕ × Json)) (event_id : String) : Option (ℕ × Json) :=
  events.reverse.find? fun row => text row.2 "event_id" = event_id

/-- `validate(doc, schema)` returns. -/
def is_valid (doc : Json) (schema : Schema) : Bool :=
  match validate doc schema with
  | .ok _ => true
  | .error _ => false

/-- The cursors count from zero. -/
def counted (rows : List (ℕ × Json)) : Bool := rows.map Prod.fst == List.range rows.length

/-- A checkpoint belongs to its trigger. -/
def triggered (events : List (ℕ × Json)) (checkpoint : Json) : Bool :=
  match event_by_id events (text checkpoint "trigger_event_id") with
  | none => false
  | some (cursor, trigger) =>
    is_valid checkpoint CHECKPOINT_SCHEMA && int? checkpoint "event_cursor" == some cursor &&
      ["process_id", "run_id", "branch_id"].all fun field =>
        text checkpoint field == text trigger field

/-- What the report demands of the rows it is given. -/
def verified (events checkpoints : List (ℕ × Json)) : Bool :=
  counted events && (events.all fun row => is_valid row.2 EVENT_SCHEMA) &&
    decide (events.map fun row => text row.2 "event_id").Nodup &&
    counted checkpoints && checkpoints.all fun row => triggered events row.2

/-! ## Selectors -/

/-- `_ID_PATTERNS[name].fullmatch(value)`, for the pattern of a kind. -/
def is_identifier (kind value : String) : Bool :=
  let rest := value.toList.drop (kind.length + 1)
  (kind ++ "-").toList.isPrefixOf value.toList && 1 ≤ rest.length && rest.length ≤ 120 &&
    rest.all fun c => ('a' ≤ c && c ≤ 'z') || c.isDigit || c == '-'

/-- `_validate_selector(name, value)`. -/
def _validate_selector (kind : String) (value : Option String) : Except Exn Unit :=
  if value.all (is_identifier kind) then .ok () else .error (report_error "selector is invalid")

/-- `_parse_recorded_time(value)`: the instant, where UTC can express it. -/
def parse_time (value : String) : Option ℤ :=
  let codes := value.toList.map Char.toNat
  let codes := if codes.getLast? = some 0x5a then
      codes.dropLast ++ "+00:00".toList.map Char.toNat else codes
  let first := Datetime.local_microseconds ⟨1, 1, 1, 0, 0, 0, 0, none⟩
  let last := Datetime.local_microseconds ⟨9999, 12, 31, 23, 59, 59, 999999, none⟩
  if value = "" ∨ 64 < value.length then none
  else ((Datetime.fromisoformat codes).bind Datetime.instant).filter fun t => first ≤ t ∧ t ≤ last

/-- `_parse_recorded_time(value)`. -/
def _parse_recorded_time (value : String) : Except Exn ℤ :=
  match parse_time value with
  | some t => .ok t
  | none => .error (report_error "timestamp is invalid")

/-- `_parse_recorded_time(value) if value is not None else None`. -/
def parse_cutoff : Option String → Except Exn (Option ℤ)
  | none => .ok none
  | some value => do
    let t ← _parse_recorded_time value
    return some t

/-- An instant against a cutoff, which parses it only if there is one. -/
def within (cutoff : Option ℤ) (value : String) : Except Exn Bool :=
  match cutoff with
  | none => .ok true
  | some cutoff => do
    let t ← _parse_recorded_time value
    return t ≤ cutoff

/-- The checked cutoffs: `cutoff` and `about_cutoff`. -/
structure Cutoffs : Type where
  cutoff : Option ℤ
  about_cutoff : Option ℤ

/-- The checks of the selectors. -/
def check_selectors (s : Selectors) (events : List (ℕ × Json)) : Except Exn Cutoffs := do
  _validate_selector "process" s.process_id
  _validate_selector "run" s.run_id
  _validate_selector "branch" s.branch_id
  let temporal := [s.as_of_cursor.isSome, s.as_of_recorded_at.isSome, s.about_occurred_at.isSome]
  if 1 < temporal.count true then .error (report_error "temporal selector is invalid")
  else
    let cutoff ← parse_cutoff s.as_of_recorded_at
    let about_cutoff ← parse_cutoff s.about_occurred_at
    -- An empty journal has cursor zero.
    if s.as_of_cursor.any fun c => c < 0 ∨ max 1 (events.length : ℤ) ≤ c then
      .error (report_error "cursor is invalid")
    else .ok ⟨cutoff, about_cutoff⟩

/-- The value of a selector, if it is given. -/
def matches_selector (selector : Option String) (value : String) : Bool :=
  selector.all fun s => s == value

/-- The body of the loop that selects events. -/
def selects (s : Selectors) (c : Cutoffs) (cursor : ℕ) (event : Event) : Except Exn Bool := do
  if s.as_of_cursor.any fun a => a < (cursor : ℤ) then .ok false
  else
    let recorded ← within c.cutoff event.recorded_at
    if recorded = false then .ok false
    else
      let occurred ← within c.about_cutoff event.occurred_at
      return occurred && matches_selector s.process_id event.process_id &&
        matches_selector s.run_id event.run_id && matches_selector s.branch_id event.branch_id

/-- `selected`. -/
def select_events (s : Selectors) (c : Cutoffs) :
    List (ℕ × Event) → Except Exn (List (ℕ × Event))
  | [] => .ok []
  | (cursor, event) :: rest => do
    let keep ← selects s c cursor event
    let selected ← select_events s c rest
    return if keep then (cursor, event) :: selected else selected

/-- A checkpoint is available under a cutoff if its trigger is selected and it was
created in time. -/
def available (cutoff : Option ℤ) (selected_ids : List String) (checkpoint : Checkpoint) :
    Except Exn Bool :=
  if cutoff.isNone then .ok true
  else if checkpoint.trigger_event_id ∈ selected_ids then within cutoff checkpoint.created_at
  else .ok false

/-- The condition of `selected_checkpoints`. -/
def selects_checkpoint (s : Selectors) (c : Cutoffs) (selected_ids : List String)
    (checkpoint : Checkpoint) : Except Exn Bool := do
  if s.as_of_cursor.any fun a => a < checkpoint.event_cursor then .ok false
  else
    let in_time ← available c.cutoff selected_ids checkpoint
    if in_time = false then .ok false
    else
      let about ← available c.about_cutoff selected_ids checkpoint
      return about && matches_selector s.process_id checkpoint.process_id &&
        matches_selector s.run_id checkpoint.run_id &&
        matches_selector s.branch_id checkpoint.branch_id

/-- `selected_checkpoints`. -/
def select_checkpoints (s : Selectors) (c : Cutoffs) (selected_ids : List String) :
    List (ℕ × Checkpoint) → Except Exn (List (ℕ × Checkpoint))
  | [] => .ok []
  | (cursor, checkpoint) :: rest => do
    let keep ← selects_checkpoint s c selected_ids checkpoint
    let selected ← select_checkpoints s c selected_ids rest
    return if keep then (cursor, checkpoint) :: selected else selected

/-! ## Artifacts -/

/-- A character of `_SAFE_ARTIFACT_REF`. -/
def is_ref_char (c : Char) : Bool :=
  c.isAlpha || c.isDigit || c == '_' || c == '.' || c == '/' || c == '-'

/-- A reference that `_SAFE_ARTIFACT_REF` matches. -/
def safe_ref : Json → Option String
  | .str (.text s) =>
    let rest := s.toList.drop "artifact://".length
    if "artifact://".toList.isPrefixOf s.toList && 1 ≤ rest.length && rest.length ≤ 256 &&
        rest.all is_ref_char then some s else none
  | _ => none

/-- The references of a field, if all are safe. -/
def safe_refs (refs : List Json) : Option (List String) :=
  if refs.all fun ref => (safe_ref ref).isSome then some (refs.filterMap safe_ref) else none

/-- `re.fullmatch(r"sha256:[0-9a-f]{64}", value)`. -/
def is_sha256 (value : String) : Bool :=
  let digits := value.toList.drop "sha256:".length
  "sha256:".toList.isPrefixOf value.toList && digits.length == 64 &&
    digits.all fun c => c.isDigit || ('a' ≤ c && c ≤ 'f')

/-- A resolution the report takes. -/
def accepted_resolution (resolver : Resolver) (ref : String) : Option ArtifactResolution :=
  (resolver.resolve ref).filter fun r =>
    r.artifact_ref = ref ∧ is_sha256 r.content_digest ∧ 0 < r.content_bytes ∧
      r.content_bytes ≤ MAX_RECORD_BYTES

/-- What becomes of a reference; under a recording cutoff it is not looked up. -/
inductive RefOutcome : Type
  | resolved
  | unresolved
  | untimely
  deriving DecidableEq

/-- The error of a report with too many references. -/
def limit_error : Exn := report_error "artifact reference limit exceeded"

/-- The body of the loops over artifact references. -/
def resolve_ref (c : Cutoffs) (resolver : Option Resolver) (raw : Json)
    (resolved : List ArtifactResolution) : Except Exn (RefOutcome × List ArtifactResolution) :=
  match safe_ref raw with
  | none => .ok (.unresolved, resolved)
  | some ref =>
    if ref ∈ resolved.map ArtifactResolution.artifact_ref then .ok (.resolved, resolved)
    else if c.cutoff.isSome then .ok (.untimely, resolved)
    else
      match resolver with
      | none => .ok (.unresolved, resolved)
      | some resolver =>
        if MAX_ARTIFACT_REFERENCES ≤ resolved.length then .error limit_error
        else
          match accepted_resolution resolver ref with
          | some resolution => .ok (.resolved, resolved ++ [resolution])
          | none => .ok (.unresolved, resolved)

/-- The loops over artifact references. -/
def resolve_refs (c : Cutoffs) (resolver : Option Resolver) :
    List Json → List ArtifactResolution → Except Exn (List RefOutcome × List ArtifactResolution)
  | [], resolved => .ok ([], resolved)
  | raw :: rest, resolved => do
    let (outcome, resolved) ← resolve_ref c resolver raw resolved
    let (outcomes, resolved) ← resolve_refs c resolver rest resolved
    return (outcome :: outcomes, resolved)

/-- What the loops keep of artifacts: `resolved_artifacts`,
`artifact_reference_count` and `temporally_unverified_event_ids`. -/
structure Artifacts : Type where
  resolved : List ArtifactResolution
  count : ℕ
  unverified : List String

/-- The references of an event or checkpoint, counted and resolved. -/
def use_refs (c : Cutoffs) (resolver : Option Resolver) (event_id : String) (refs : List Json)
    (acc : Artifacts) : Except Exn (List RefOutcome × Artifacts) := do
  if refs = [] then .ok ([], acc)
  else if MAX_ARTIFACT_REFERENCES < acc.count + refs.length then .error limit_error
  else
    let (outcomes, resolved) ← resolve_refs c resolver refs acc.resolved
    let untimely := c.about_cutoff.isSome || outcomes.contains .untimely
    return (outcomes, ⟨resolved, acc.count + refs.length,
      if untimely then acc.unverified ++ [event_id] else acc.unverified⟩)

/-! ## Events -/

/-- The fact of an event. -/
def event_fact (c : Cutoffs) (cursor : ℕ) (e : Event) : Except Exn Fact := do
  let after_about ← match c.about_cutoff with
    | none => .ok none
    | some _ => (within c.about_cutoff e.recorded_at).map fun b => some !b
  let is_target_tests := e.decision_or_tool = some "SandboxSession.run.target-tests"
  let is_sandbox := is_target_tests ∨ e.decision_or_tool = some "SandboxSession.run.verifier-replay"
  return {
    cursor := cursor
    event_id := e.event_id
    event_type := e.event_type
    process_id := e.process_id
    run_id := e.run_id
    branch_id := e.branch_id
    task_id := e.task_id
    agent_id := e.agent_id
    sequence := e.sequence
    occurred_at := e.occurred_at
    recorded_at := e.recorded_at
    classification := e.classification
    redaction_status := e.redaction_status
    recorded_after_about_time := after_about
    status := e.status
    checkpoint_id := e.checkpoint_id
    invocation_id := e.invocation_id
    -- both codes are read by the tool's name: an event without one shows neither
    sandbox_return_code := if is_sandbox then
      e.sandbox_return_code.filter fun code => -255 ≤ code ∧ code ≤ 255 else none
    sandbox_failure_code := if is_target_tests then
      e.sandbox_failure_code.filter Schemas.sandbox_failure_codes.contains else none
    causal_event_ids := e.causal_event_ids
    input_refs := e.input_refs.bind safe_refs
    output_refs := e.output_refs.bind safe_refs }

/-- A gap about one event. -/
def gap (code event_id : String) : Gap := { code := code, event_ids := [event_id] }

/-- A gap, if the condition holds. -/
def gap_if (condition : Bool) (code event_id : String) : List Gap :=
  if condition then [gap code event_id] else []

/-- `event["event_type"] in {"agent_started", "agent_finished"}`. -/
def is_agent_event (e : Event) : Bool :=
  e.event_type == "agent_started" || e.event_type == "agent_finished"

/-- The gaps an event shows by itself. -/
def event_gaps (e : Event) : List Gap :=
  let invalid (refs : Option (List Json)) : Bool := refs.any fun refs => (safe_refs refs).isNone
  let nameless := is_agent_event e && e.invocation_id.isNone
  gap_if (invalid e.input_refs) "artifact_reference_invalid" e.event_id ++
    gap_if (invalid e.output_refs) "artifact_reference_invalid" e.event_id ++
    gap_if (e.event_type == "tool_requested" && (e.invocation_id.getD "" == ""))
      "tool_invocation_id_missing" e.event_id ++
    gap_if nameless "agent_invocation_id_missing" e.event_id ++
    gap_if (nameless && e.event_type == "agent_started") "agent_terminal_event_missing" e.event_id ++
    gap_if (e.redaction_status == "redacted") "event_content_redacted" e.event_id ++
    gap_if (e.event_type == "outcome_unknown" || e.status == some "unknown")
      "external_outcome_unknown" e.event_id

/-- The gaps of an event's causes. -/
def causal_gaps (cursor_by_event_id : String → Option ℕ) (selected_ids : List String) (cursor : ℕ)
    (e : Event) : List Gap :=
  (e.causal_event_ids.getD []).flatMap fun causal_id =>
    match cursor_by_event_id causal_id with
    | none => [gap "causal_reference_missing" e.event_id]
    | some cause =>
      (if cursor ≤ cause then
        [{ gap "causal_reference_not_prior" e.event_id with referenced_event_ids := some [causal_id] }]
      else []) ++ gap_if (!selected_ids.contains causal_id) "causal_reference_out_of_view" e.event_id

/-- `input_refs` and `output_refs`. -/
def event_refs (e : Event) : List Json := e.input_refs.getD [] ++ e.output_refs.getD []

/-- The loop over the selected events. -/
def event_loop (cursor_by_event_id : String → Option ℕ) (selected_ids : List String) (c : Cutoffs)
    (resolver : Option Resolver) :
    List (ℕ × Event) → Artifacts → Except Exn (List Fact × List Gap × Artifacts)
  | [], acc => .ok ([], [], acc)
  | (cursor, e) :: rest, acc => do
    let fact ← event_fact c cursor e
    let (outcomes, acc) ← use_refs c resolver e.event_id (event_refs e) acc
    let (facts, gaps, acc) ← event_loop cursor_by_event_id selected_ids c resolver rest acc
    return (fact :: facts,
      event_gaps e ++ causal_gaps cursor_by_event_id selected_ids cursor e ++
        gap_if (outcomes.any (· ≠ .resolved)) "artifact_content_unresolved" e.event_id ++ gaps, acc)

/-! ## Checkpoints -/

/-- The text of a field is the given one. -/
def has_text (doc : Json) (key value : String) : Bool := text? doc key == some value

/-- The manifest of a logical state that has metadata only. -/
def is_metadata_only (manifest : Json) : Bool :=
  has_text manifest "schema" "observer-logical-state/v1" &&
    has_text manifest "scope" "checkpoint-metadata-only" &&
    has_text manifest "capture_mode" "metadata_only" &&
    match manifest.get? "restorable" with
    | some (.bool false) => true
    | _ => false

/-- `state_manifest_metadata_only`: the state reference is resolved and its
manifest has metadata only. -/
def state_metadata_only (resolver : Option Resolver) (checkpoint : Checkpoint)
    (refs : List Json) (outcomes : List RefOutcome) : Bool :=
  match checkpoint.state_ref.bind safe_ref with
  | none => false
  | some state_ref =>
    ((refs.zip outcomes).any fun p => safe_ref p.1 == some state_ref && p.2 == .resolved) &&
      ((resolver.bind Resolver.read_json).bind fun read => read state_ref).any is_metadata_only

/-- A gap about a checkpoint. -/
def checkpoint_gap_if (condition : Bool) (code : String) (checkpoint : Checkpoint) : List Gap :=
  if condition then [{ gap code checkpoint.trigger_event_id with
    checkpoint_ids := some [checkpoint.checkpoint_id] }] else []

/-- The gaps of a checkpoint. -/
def checkpoint_gaps (resolver : Option Resolver) (checkpoint : Checkpoint) (refs : List Json)
    (outcomes : List RefOutcome) : List Gap :=
  checkpoint_gap_if (checkpoint.references.any fun f => (safe_refs f.2).isNone)
      "artifact_reference_invalid" checkpoint ++
    checkpoint_gap_if (outcomes.any (· ≠ .resolved)) "artifact_content_unresolved" checkpoint ++
    checkpoint_gap_if (state_metadata_only resolver checkpoint refs outcomes)
      "checkpoint_state_metadata_only" checkpoint ++
    gap_if (checkpoint.completeness == "partial") "checkpoint_partial" checkpoint.trigger_event_id

/-- The fact of a checkpoint. -/
def checkpoint_fact (cursor : ℕ) (checkpoint : Checkpoint) : CheckpointFact where
  cursor := cursor
  checkpoint_id := checkpoint.checkpoint_id
  kind := checkpoint.kind
  event_cursor := checkpoint.event_cursor
  trigger_event_id := checkpoint.trigger_event_id
  completeness := checkpoint.completeness
  restore_mode := checkpoint.restore_mode
  artifact_refs := checkpoint.references.filterMap fun f =>
    (safe_refs f.2).map fun refs => (f.1, refs)

/-- The loop over the selected checkpoints. -/
def checkpoint_loop (c : Cutoffs) (resolver : Option Resolver) :
    List (ℕ × Checkpoint) → Artifacts → Except Exn (List CheckpointFact × List Gap × Artifacts)
  | [], acc => .ok ([], [], acc)
  | (cursor, checkpoint) :: rest, acc => do
    let refs := checkpoint.references.flatMap Prod.snd
    let (outcomes, acc) ← use_refs c resolver checkpoint.trigger_event_id refs acc
    let (facts, gaps, acc) ← checkpoint_loop c resolver rest acc
    return (checkpoint_fact cursor checkpoint :: facts,
      checkpoint_gaps resolver checkpoint refs outcomes ++ gaps, acc)

/-! ## Runs, lifecycles and invocations -/

/-- A dict of lists: the groups of a key, in the order the keys come first. -/
def group_by {κ : Type} [DecidableEq κ] (key : Event → κ) (selected : List (ℕ × Event)) :
    List (List (ℕ × Event)) :=
  (selected.map fun row => key row.2).eraseDups.map fun k =>
    selected.filter fun row => key row.2 = k

/-- The IDs of some rows. -/
def event_ids (rows : List (ℕ × Event)) : List String := rows.map fun row => row.2.event_id

/-- `sys.maxsize`. -/
def MAXSIZE : ℤ := 2 ^ 63 - 1

/-- The items that a list has room for: its pointers, eight bytes each, must fit
into `sys.maxsize`. -/
def MAX_LIST_ITEMS : ℤ := 2 ^ 60 - 1

/-- `list(range(0, sequences[-1] + 1))` of one run: a range with more items than
`sys.maxsize` has no length, and one with more than a list has room for is refused
before any memory is asked for. -/
def check_run (run_events : List (ℕ × Event)) : Except Exn Unit := do
  raise_if (∃ row ∈ run_events, MAXSIZE < row.2.sequence + 1)
    ⟨.OverflowError, "Python int too large to convert to C ssize_t"⟩
  raise_if (∃ row ∈ run_events, MAX_LIST_ITEMS < row.2.sequence + 1) ⟨.MemoryError, ""⟩

/-- The gap of a run whose sequence numbers do not count from zero once each. -/
def sequence_gaps (run_events : List (ℕ × Event)) : List Gap :=
  let sequences := (run_events.map fun row => row.2.sequence).insertionSort (· ≤ ·)
  let expected := (List.range ((sequences.getLast?.getD (-1)) + 1).toNat).map Int.ofNat
  let missing := expected.filter fun n => !sequences.contains n
  let duplicated := sequences.dedup.filter fun n => 1 < sequences.count n
  if missing = [] ∧ duplicated = [] then []
  else [{ code := "event_sequence_gap", event_ids := event_ids run_events,
          missing_sequences := some missing, duplicate_sequences := some duplicated }]

/-- `event_ids` of rows in the order of their cursors. -/
def ids_by_cursor (rows : List (ℕ × Event)) : List String :=
  event_ids (rows.insertionSort fun a b => a.1 ≤ b.1)

/-- The gaps of a lifecycle. -/
def lifecycle_gaps (lifecycle : List (ℕ × Event)) : List Gap :=
  let starts := lifecycle.filter fun row => row.2.event_type = "agent_started"
  let finishes := lifecycle.filter fun row => row.2.event_type ≠ "agent_started"
  (if 1 < starts.length ∨ 1 < finishes.length then
    [{ code := "agent_lifecycle_pair_ambiguous", event_ids := ids_by_cursor (starts ++ finishes) }]
  else []) ++
  (if starts ≠ [] ∧ finishes = [] then
    [{ code := "agent_terminal_event_missing", event_ids := event_ids starts }] else []) ++
  (if finishes ≠ [] ∧ starts = [] then
    [{ code := "agent_start_event_missing", event_ids := event_ids finishes }] else []) ++
  match starts, finishes with
  | [(start_cursor, start)], [(finish_cursor, finish)] =>
    if finish_cursor ≤ start_cursor ∨ start.event_id ∉ finish.causal_event_ids.getD [] then
      [{ code := "agent_lifecycle_causality_missing", event_ids := [start.event_id, finish.event_id] }]
    else []
  | _, _ => []

/-- `_TERMINAL_TOOL_EVENTS`. -/
def TERMINAL_TOOL_EVENTS : List String :=
  ["tool_completed", "tool_failed", "tool_denied", "outcome_unknown"]

/-- The gap of an invocation that was requested and has no outcome. -/
def invocation_gaps (invocation_events : List (ℕ × Event)) : List Gap :=
  let requested := invocation_events.filter fun row => row.2.event_type = "tool_requested"
  let terminal := invocation_events.filter fun row => row.2.event_type ∈ TERMINAL_TOOL_EVENTS
  if requested ≠ [] ∧ terminal = [] then
    [{ code := "tool_invocation_outcome_missing", event_ids := event_ids requested }]
  else []

/-- `by_run`. -/
def by_run (selected : List (ℕ × Event)) : List (List (ℕ × Event)) :=
  group_by (fun e => (e.process_id, e.run_id, e.branch_id)) selected

/-- The sequence numbers of every run are listed. -/
def check_sequences (selected : List (ℕ × Event)) : Except Exn Unit :=
  forM (by_run selected) check_run

/-- `agent_lifecycle`. -/
def agent_lifecycle (selected : List (ℕ × Event)) : List (List (ℕ × Event)) :=
  group_by (fun e => (e.process_id, e.run_id, e.branch_id, e.agent_id, e.invocation_id))
    (selected.filter fun row => is_agent_event row.2 && row.2.invocation_id.isSome)

/-- `invocations`. -/
def invocations (selected : List (ℕ × Event)) : List (List (ℕ × Event)) :=
  group_by Event.invocation_id (selected.filter fun row => row.2.invocation_id.getD "" ≠ "")

/-- The gaps found after the loops over events and checkpoints. -/
def group_gaps (selected : List (ℕ × Event)) : List Gap :=
  (by_run selected).flatMap sequence_gaps ++ (agent_lifecycle selected).flatMap lifecycle_gaps ++
    (invocations selected).flatMap invocation_gaps

/-! ## The builder -/

/-- `sorted(ids)`. -/
def sorted_ids (ids : List String) : List String := ids.insertionSort (· ≤ ·)

/-- The gaps every report starts with. -/
def header_gaps (c : Cutoffs) (selected_checkpoints : List (ℕ × Checkpoint)) : List Gap :=
  [{ code := "collector_coverage_unverified", event_ids := [] }] ++
    (if c.cutoff.isSome then [{ code := "recorded_timestamps_unattested", event_ids := [] }]
      else []) ++
    (if c.about_cutoff.isSome then
      { code := "occurred_timestamps_unattested", event_ids := [] } ::
        if selected_checkpoints = [] then [] else
          [{ code := "checkpoint_availability_at_time_unverified",
             event_ids := sorted_ids (selected_checkpoints.map fun row => row.2.trigger_event_id) }]
      else [])

/-- `(gap["code"], tuple(gap["event_ids"]))`, in order. -/
def gap_le (a b : Gap) : Prop := a.code < b.code ∨ a.code = b.code ∧ a.event_ids ≤ b.event_ids

instance : DecidableRel gap_le := fun _ _ => inferInstanceAs (Decidable (_ ∨ _))

/-- The report of the selected rows. -/
def report_view (s : Selectors) (c : Cutoffs) (resolver : Option Resolver)
    (cursor_by_event_id : String → Option ℕ) (selected : List (ℕ × Event))
    (selected_checkpoints : List (ℕ × Checkpoint)) : Except Exn Report := do
  let (facts, gaps, acc) ←
    event_loop cursor_by_event_id (event_ids selected) c resolver selected ⟨[], 0, []⟩
  let (checkpoint_facts, more_gaps, acc) ← checkpoint_loop c resolver selected_checkpoints acc
  check_sequences selected
  let unverified_gaps : List Gap := if acc.unverified = [] then [] else
    [{ code := "artifact_availability_at_time_unverified",
       event_ids := sorted_ids acc.unverified.dedup }]
  let all_gaps := header_gaps c selected_checkpoints ++ gaps ++ more_gaps ++ group_gaps selected ++
    unverified_gaps
  return {
    as_of_cursor := s.as_of_cursor
    as_of_recorded_at := c.cutoff
    about_occurred_at := c.about_cutoff
    event_count := facts.length
    checkpoint_count := selected_checkpoints.length
    facts := facts
    resolved_artifacts := acc.resolved.insertionSort fun a b => a.artifact_ref ≤ b.artifact_ref
    checkpoints := checkpoint_facts
    gaps := all_gaps.insertionSort gap_le }

/-- `cursor_by_event_id.get(event_id)`. -/
def cursor_by_event_id (events : List (ℕ × Json)) (event_id : String) : Option ℕ :=
  (event_by_id events event_id).map Prod.fst

/-- `build_history_report(events, checkpoints, ..)`. -/
def build_history_report (events checkpoints : List (ℕ × Json)) (s : Selectors)
    (resolver : Option Resolver) : Except Exn Report := do
  if MAX_RECORDS < events.length + checkpoints.length then
    .error (report_error "journal is unavailable")
  else if verified events checkpoints = false then .error (report_error "journal is unavailable")
  else
    let c ← check_selectors s events
    let selected ← select_events s c (events.map fun row => (row.1, Event.of row.2))
    let selected_checkpoints ← select_checkpoints s c (event_ids selected)
      (checkpoints.map fun row => (row.1, Checkpoint.of row.2))
    report_view s c resolver (cursor_by_event_id events) selected selected_checkpoints

end AppContracts.HistoryReport
