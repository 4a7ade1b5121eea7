/-
The schemas of the observation journal: `observation-event.schema.json` and
`checkpoint.schema.json`.

Both are closed: what they accept, and canonical JSON can encode, is plain JSON.
-/
import AppContracts.Validator

set_option autoImplicit false

namespace AppContracts

open Validator

namespace Schemas

/-- `[a-z0-9-]`. -/
def slug_class : CharClass := ⟨[(0x61, 0x7a), (0x30, 0x39), (0x2d, 0x2d)], false⟩

/-- `A-Za-z0-9_.`, the slash and the dash. -/
def path_class : CharClass :=
  ⟨[(0x41, 0x5a), (0x61, 0x7a), (0x30, 0x39), (0x5f, 0x5f), (0x2e, 0x2f), (0x2d, 0x2d)], false⟩

/-- `{"type": "string", "pattern": "^<kind>-[a-z0-9-]+$"}`. -/
def identifier (kind : String) : Schema :=
  { type := some .string
    pattern := some { body := .seq (.lit (kind ++ "-")) (.cls slug_class 1 none) } }

/-- `{"type": "string", "pattern": "^(agent|service)-[a-z0-9-]+$"}`. -/
def agent_identifier : Schema :=
  { type := some .string
    pattern := some
      { body := .seq (.alt (.lit "agent") (.lit "service"))
          (.seq (.lit "-") (.cls slug_class 1 none)) } }

/-- `{"type": "string", "pattern": "^artifact://"}`. -/
def artifact_prefix : Schema :=
  { type := some .string, pattern := some { body := .lit "artifact://", finish := false } }

/-- A reference to a named artifact. -/
def artifact_ref : Schema :=
  { type := some .string
    pattern := some { body := .seq (.lit "artifact://") (.cls path_class 1 none) }
    min_length := 12
    max_length := some 256 }

/-- `{"type": "array", "minItems": 1, "items": items}`. -/
def some_of (items : Schema) : Schema := { type := some .array, min_items := 1, items := some items }

/-- `{"enum": [..]}` of strings. -/
def one_of (members : List String) : Schema :=
  { enum := some (members.map fun m => .str (.text m)) }

/-- `{"type": "integer", "minimum": bound}`. -/
def integer_from (bound : ℚ) : Schema := { type := some .integer, minimum := some bound }

/-- `{"type": "string", "minLength": 1}`. -/
def nonempty : Schema := { type := some .string, min_length := 1 }

/-- `{"type": "string", "format": "date-time"}`. -/
def date_time : Schema := { type := some .string, date_time := true }

/-- The codes of failed sandbox checks: the general ones, those of the level,
and those of the counters. -/
def sandbox_failure_codes : List String :=
  let malformed (field : String) : List String :=
    ["bool", "fractional", "numeric-string"].flatMap fun kind =>
      [s!"malformed-status-{field}-{kind}", s!"malformed-no-write-{field}-{kind}"]
  let range (field : String) : List String :=
    ["above", "below"].flatMap fun side =>
      [s!"sqlite-range-status-{field}-{side}", s!"sqlite-range-no-write-{field}-{side}"]
  ["readiness-exit", "readiness-timeout", "overflow-status", "overflow-no-write",
    "valid-status", "valid-body", "valid-row"] ++
    ["level", "correct", "wrong", "total", "time_ms"].flatMap fun field =>
      malformed field ++ range field

/-- The allowlist of redacted metadata. -/
def safe_parameters : Schema :=
  { type := some .object
    unknown_fields := false
    properties :=
      [("path", { type := some .string, pattern := some { body := .cls path_class 1 none },
                  min_length := 1, max_length := some 256 }),
       ("max_bytes", integer_from 0),
       ("limit", integer_from 0),
       ("offset", integer_from 0),
       ("artifact_ref", artifact_ref),
       ("worker_outcome", one_of ["clarification_required", "blocked", "denied"]),
       ("sandbox_return_code",
         { type := some .integer, minimum := some (-255), maximum := some 255 }),
       ("sandbox_failure_code", one_of sandbox_failure_codes)] }

end Schemas

open Schemas

/-- `EVENT_SCHEMA`. -/
def EVENT_SCHEMA : Schema :=
  { type := some .object
    unknown_fields := false
    required :=
      ["schema_version", "event_id", "event_type", "process_id", "run_id", "branch_id", "task_id",
       "agent_id", "sequence", "occurred_at", "recorded_at", "classification", "redaction_status"]
    properties :=
      [("schema_version", { const := some (.int 1) }),
       ("event_id", identifier "event"),
       ("event_type", one_of
         ["decision_proposed", "decision_applied", "tool_requested", "tool_completed",
          "tool_failed", "tool_denied", "outcome_unknown", "agent_started", "agent_finished",
          "run_finished", "correction_proposed", "branch_created"]),
       ("process_id", identifier "process"),
       ("run_id", identifier "run"),
       ("branch_id", identifier "branch"),
       ("task_id", identifier "task"),
       ("agent_id", agent_identifier),
       ("parent_agent_id", agent_identifier),
       ("sequence", integer_from 0),
       ("occurred_at", date_time),
       ("recorded_at", date_time),
       ("causal_event_ids", some_of (identifier "event")),
       ("checkpoint_id", identifier "checkpoint"),
       ("invocation_id", identifier "invocation"),
       ("state_version", integer_from 1),
       ("agent_build_id", nonempty),
       ("procedure_version", nonempty),
       ("input_refs", some_of artifact_prefix),
       ("output_refs", some_of artifact_prefix),
       ("decision_or_tool", nonempty),
       ("safe_parameters", safe_parameters),
       ("rationale", nonempty),
       ("expected_result", nonempty),
       ("authority_refs", some_of artifact_prefix),
       ("status", one_of ["pending", "ok", "failed", "denied", "unknown"]),
       ("error_code", nonempty),
       ("classification", one_of ["public", "internal", "confidential", "restricted"]),
       ("redaction_status", one_of ["complete", "redacted"])] }

/-- `CHECKPOINT_SCHEMA`. -/
def CHECKPOINT_SCHEMA : Schema :=
  { type := some .object
    unknown_fields := false
    required :=
      ["schema_version", "checkpoint_id", "kind", "process_id", "run_id", "branch_id", "agent_id",
       "trigger_event_id", "event_cursor", "state_ref", "completeness", "restore_mode",
       "created_at"]
    properties :=
      [("schema_version", { const := some (.int 1) }),
       ("checkpoint_id", identifier "checkpoint"),
       ("kind", one_of ["decision", "tool_call"]),
       ("process_id", identifier "process"),
       ("run_id", identifier "run"),
       ("branch_id", identifier "branch"),
       ("agent_id", agent_identifier),
       ("trigger_event_id", identifier "event"),
       ("parent_checkpoint_id", identifier "checkpoint"),
       ("event_cursor", integer_from 0),
       ("state_ref", artifact_ref),
       ("context_manifest_ref", artifact_ref),
       ("workspace_manifest_ref", artifact_ref),
       ("configuration_refs", some_of artifact_ref),
       ("authority_refs", some_of artifact_ref),
       ("pending_action_ref", artifact_ref),
       ("in_flight_invocation_ids", some_of (identifier "invocation")),
       ("external_effect_refs", some_of artifact_ref),
       ("restore_mode", one_of ["simulation", "supervised", "none"]),
       ("completeness", one_of ["complete", "partial"]),
       ("created_at", date_time)] }

namespace Schemas

theorem closed_one_of (members : List String) : Closed (one_of members) :=
  .enum rfl (by simp [is_scalar])

theorem closed_some_of {items : Schema} (h : Closed items) : Closed (some_of items) :=
  .array rfl rfl h

theorem closed_safe_parameters : Closed safe_parameters := by
  refine .object rfl rfl ?_
  simp only [safe_parameters, List.forall_mem_cons]
  exact ⟨.string rfl, .integer rfl, .integer rfl, .integer rfl, .string rfl, closed_one_of _,
    .integer rfl, closed_one_of _, by simp⟩

end Schemas

theorem closed_EVENT_SCHEMA : Closed EVENT_SCHEMA := by
  refine .object rfl rfl ?_
  simp only [EVENT_SCHEMA, List.forall_mem_cons]
  exact ⟨.const rfl rfl, .string rfl, closed_one_of _, .string rfl, .string rfl, .string rfl,
    .string rfl, .string rfl, .string rfl, .integer rfl, .string rfl, .string rfl,
    closed_some_of (.string rfl), .string rfl, .string rfl, .integer rfl, .string rfl,
    .string rfl, closed_some_of (.string rfl), closed_some_of (.string rfl), .string rfl,
    closed_safe_parameters, .string rfl, .string rfl, closed_some_of (.string rfl),
    closed_one_of _, .string rfl, closed_one_of _, closed_one_of _, by simp⟩

theorem closed_CHECKPOINT_SCHEMA : Closed CHECKPOINT_SCHEMA := by
  refine .object rfl rfl ?_
  simp only [CHECKPOINT_SCHEMA, List.forall_mem_cons]
  exact ⟨.const rfl rfl, .string rfl, closed_one_of _, .string rfl, .string rfl, .string rfl,
    .string rfl, .string rfl, .string rfl, .integer rfl, .string rfl, .string rfl, .string rfl,
    closed_some_of (.string rfl), closed_some_of (.string rfl), .string rfl,
    closed_some_of (.string rfl), closed_some_of (.string rfl), closed_one_of _, closed_one_of _,
    .string rfl, by simp⟩

end AppContracts
