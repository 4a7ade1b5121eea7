/-
The report of a batch: `_print_result` of `run_r5_batch_cli.py` over what
`run_first_five_r5_attempts` returns.

The runner takes its records from two passes. The first skips an attempt that is
still pending, so a row that stops the batch may end up in a place of the report that
belongs to another attempt; and a row that is marked unknown is read a second time, and
told as claimed where that reading fails. `reported_iff` says that these two, and an
unknown row with a result digest, are all that keeps the printer from accepting a report
that is the ledger's.
-/
import AppContracts.R5BatchHistory
import AppContracts.Lib.Solo

set_option autoImplicit false

namespace AppContracts.R5Batch

open Interleave
open R5AttemptLedger (Db EventRow EventState is_digest R5_EXECUTION_FAILURE_REASONS)

/-! ## The printer -/

/-- `R5BatchCLIError("R5 batch: result rejected")`. -/
def cli_error : Exn := ⟨.R5BatchCLIError, "R5 batch: result rejected"⟩

/-- `R5BatchResult.status`. -/
def BatchStatus.value : BatchStatus → String
  | complete => "complete"
  | complete_with_failures => "complete-with-failures"
  | stopped_failed => "stopped-failed"
  | stopped_unknown => "stopped-unknown"
  | stopped_preflight => "stopped-preflight"

/-- `R5BatchRecord.state`. -/
def RecordState.value : RecordState → String
  | PENDING => "PENDING"
  | CLAIMED => "CLAIMED"
  | COMPLETED => "COMPLETED"
  | UNKNOWN => "UNKNOWN"

/-- `R5_UNKNOWN_PHASE_CODES`. -/
def R5_UNKNOWN_PHASE_CODES : List String :=
  ["input-validation-error", "executor-uncaught-error", "result-validation-error",
    "executor-request-rejected", "executor-worker-rejected", "executor-sandbox-rejected",
    "executor-snapshot-rejected", "executor-preparation-rejected", "executor-verifier-rejected",
    "executor-stage-rejected", "executor-marker-unmapped", "executor-value-error",
    "executor-type-error", "executor-os-error", "executor-runtime-error", "executor-key-error",
    "executor-attribute-error", "executor-workspace-error", "executor-contract-invalid",
    "executor-test-result-malformed"]

/-- The outcomes the printer knows. -/
def PRINTED_OUTCOMES : List String := ["verified", "failed", "needs_input", "blocked", "denied"]

/-- The reason codes the printer knows. -/
def PRINTED_REASONS : List String :=
  ["none", "execution-failed", "worker-clarification", "worker-blocked", "worker-denied",
    "worker-error", "pipeline-error", "interrupted", "result-unavailable"] ++
    R5_EXECUTION_FAILURE_REASONS ++ R5_UNKNOWN_PHASE_CODES

/-- `MAX_R5_BATCH_SECONDS`. -/
def MAX_R5_BATCH_SECONDS : ℕ := 2400

/-- The fields of a record are what the printer expects of its state. -/
def printable (record : R5BatchRecord) : Bool :=
  is_digest record.input_digest && record.result_digest.all is_digest &&
    record.outcome.all (· ∈ PRINTED_OUTCOMES) && record.reason_code.all (· ∈ PRINTED_REASONS) &&
    (record.state ≠ .COMPLETED ||
      (record.result_digest.isSome && record.outcome.isSome && record.reason_code.isSome)) &&
    (record.state = .COMPLETED || (record.result_digest.isNone && record.outcome.isNone))

/-- An optional text of a report. -/
def optional_text : Option String → Json
  | none => .null
  | some text => .str (.text text)

/-- A record as the report has it. -/
def attempt_json (record : R5BatchRecord) : Json :=
  .obj [(.text "attempt_id", .str (.text record.attempt_id)),
    (.text "state", .str (.text record.state.value)),
    (.text "input_digest", .str (.text record.input_digest)),
    (.text "result_digest", optional_text record.result_digest),
    (.text "outcome", optional_text record.outcome),
    (.text "reason_code", optional_text record.reason_code)]

/-- The loop over the records, next to the expected attempts. -/
def safe_attempts : List String → List R5BatchRecord → List String → Except Exn (List Json)
  | _, [], _ => .ok []
  | [], _ :: _, _ => .error ⟨.IndexError, "tuple index out of range"⟩
  | expected :: expected_ids, record :: records, seen => do
    raise_if (record.attempt_id ≠ expected ∨ record.attempt_id ∈ seen ∨ printable record = false)
      cli_error
    let rest ← safe_attempts expected_ids records (record.attempt_id :: seen)
    return attempt_json record :: rest

/-- A status of a batch that came to its end. -/
def BatchStatus.is_complete (status : BatchStatus) : Prop :=
  status = .complete ∨ status = .complete_with_failures

instance (status : BatchStatus) : Decidable status.is_complete := inferInstanceAs (Decidable (_ ∨ _))

/-- The report. -/
def report (result : R5BatchResult) (deadline_expired : Bool) (attempts : List Json) : Json :=
  .obj [(.text "status", .str (.text result.status.value)),
    (.text "deadline_expired", .bool deadline_expired),
    (.text "batch_deadline_seconds", .int MAX_R5_BATCH_SECONDS),
    (.text "attempts", .arr attempts),
    (.text "limitations", .arr [
      .str (.text "same-host Docker verifier and host/kernel are trusted"),
      .str (.text "GitHub REST snapshot is an API claim; commit bytes are hash-checked"),
      .str (.text "no approval or external publication is performed")])]

/-- `_print_result(output, result, deadline_expired=.., selected_attempts=selected)`: the
line it prints. -/
def print_result (result : R5BatchResult) (deadline_expired : Bool)
    (selected : List R5SelectedAttempt) : Except Exn String := do
  raise_if (selected.length < result.records.length ∨
    (result.status.is_complete ∧ result.records.length ≠ selected.length)) cli_error
  let attempts ← safe_attempts (selected.map R5SelectedAttempt.attempt_id) result.records []
  raise_if (result.status.is_complete ∧
    ¬ (result.status = .complete_with_failures ↔
      ∃ record ∈ result.records, record.outcome = some "failed")) cli_error
  match (report result deadline_expired attempts).dumps true with
  | some line => .ok line
  | none => .error ⟨.ValueError, "not JSON serializable"⟩

/-! ## The ledger's own records -/

/-- The record of an attempt in the ledger. -/
def record_in (db : Db) (attempt_id : String) : R5AttemptRecord :=
  record_of attempt_id (db.history attempt_id).getLast?

/-- A row that ends the runner's first pass. -/
def stops (continue_after_failed : Bool) (record : R5AttemptRecord) : Bool :=
  record.state = .CLAIMED || record.state = .UNKNOWN ||
    (record.state = .COMPLETED && record.outcome = some "failed" && !continue_after_failed)

/-- The selected attempts before the first that ends the pass have run, and the one that
ends it has no result digest of an unknown end. -/
def InOrder (db : Db) (continue_after_failed : Bool) (selected : List R5SelectedAttempt) : Prop :=
  ∀ before item after, selected = before ++ item :: after →
    stops continue_after_failed (record_in db item.attempt_id) = true →
    (∀ other ∈ before, stops continue_after_failed (record_in db other.attempt_id) = false) →
    (∀ other ∈ before, (record_in db other.attempt_id).state = .COMPLETED) ∧
      ((record_in db item.attempt_id).state = .UNKNOWN →
        (record_in db item.attempt_id).result_digest = none)

/-- The printer accepts a result, and its records are those of the first selected
attempts in the ledger. -/
def Reported (db : Db) (selected : List R5SelectedAttempt) (result : R5BatchResult) : Prop :=
  (∀ deadline_expired, ∃ line, print_result result deadline_expired selected = .ok line) ∧
    ∃ told left, selected = told ++ left ∧
      List.Forall₂ (fun item record => batch_record (record_in db item.attempt_id) = .ok record)
        told result.records

/-! ## What the printer accepts -/

theorem known_reasons : R5AttemptLedger.REASONS ⊆ PRINTED_REASONS := List.Subset.refl _

theorem known_unknown_reasons {reason : String} (h : reason ∈ R5AttemptLedger.UNKNOWN_REASONS) :
    reason ∈ PRINTED_REASONS := by
  rw [R5AttemptLedger.UNKNOWN_REASONS, List.mem_append] at h
  rw [PRINTED_REASONS, List.mem_append, List.mem_append]
  rcases h with h | h
  · refine .inl (.inl ?_)
    simp only [List.mem_cons, List.not_mem_nil, or_false] at h
    rcases h with rfl | rfl | rfl <;> decide
  · exact .inr h

/-- The records of a report, next to the first of the expected attempts. -/
theorem safe_attempts_ok {expected_ids : List String} {records : List R5BatchRecord}
    (seen : List String) (hids : records.map R5BatchRecord.attempt_id <+: expected_ids)
    (hnodup : expected_ids.Nodup) (hseen : ∀ id ∈ seen, id ∉ expected_ids)
    (hprintable : ∀ record ∈ records, printable record = true) :
    ∃ attempts, safe_attempts expected_ids records seen = .ok attempts ∧
      Json.encodable_items true attempts = true := by
  -- on the records: the rest of `expected_ids` and the IDs seen so far stay apart
  induction records generalizing expected_ids seen with
  | nil => exact ⟨[], by rw [safe_attempts], rfl⟩
  | cons record records ih =>
    obtain ⟨left, rfl⟩ := hids
    rw [List.map_cons, List.cons_append, List.nodup_cons] at hnodup
    obtain ⟨hrecord, hrest⟩ := List.forall_mem_cons.mp hprintable
    have hnew : record.attempt_id ∉ seen := fun hmem =>
      hseen _ hmem (by rw [List.map_cons, List.cons_append]; exact List.mem_cons_self)
    obtain ⟨attempts, hattempts, hencodable⟩ := ih (record.attempt_id :: seen)
      (List.prefix_append _ left) hnodup.2 (by
        rintro id hid hmem
        rcases List.mem_cons.mp hid with rfl | hid
        · exact hnodup.1 hmem
        · exact hseen id hid (by rw [List.map_cons, List.cons_append]; exact .tail _ hmem)) hrest
    refine ⟨attempt_json record :: attempts, ?_, ?_⟩
    · rw [List.map_cons, List.cons_append, safe_attempts, raise_if_ok.mpr, ok_bind, hattempts]
      · rfl
      · simp [hnew, hrecord]
    · have hjson : (attempt_json record).encodable true = true := by
        obtain ⟨id, state, input_digest, result_digest, outcome, reason_code⟩ := record
        cases result_digest <;> cases outcome <;> cases reason_code <;> rfl
      rw [Json.encodable_items, hjson, hencodable]
      rfl

/-- Records the loop accepts are printable. -/
theorem safe_attempts_printable {expected_ids : List String} {records : List R5BatchRecord}
    {seen : List String} {attempts : List Json}
    (h : safe_attempts expected_ids records seen = .ok attempts) :
    ∀ record ∈ records, printable record = true := by
  induction records generalizing expected_ids seen attempts with
  | nil => exact fun _ hrecord => nomatch hrecord
  | cons record records ih =>
    cases expected_ids with
    | nil => rw [safe_attempts] at h; cases h
    | cons expected expected_ids =>
      rw [safe_attempts] at h
      obtain ⟨hcheck, h⟩ := raise_if_bind.mp h
      obtain ⟨rest, hrest, -⟩ := bind_ok.mp h
      simp only [not_or, Bool.not_eq_false] at hcheck
      exact List.forall_mem_cons.mpr ⟨hcheck.2.2, ih hrest⟩

/-- A record is that of its attempt in the ledger, and the printer knows its fields. -/
def Told (db : Db) (item : R5SelectedAttempt) (record : R5BatchRecord) : Prop :=
  batch_record (record_in db item.attempt_id) = .ok record ∧ printable record = true

/-- A result that is the ledger's. -/
structure Accounted (db : Db) (selected : List R5SelectedAttempt) (result : R5BatchResult) : Prop where
  told : ∃ told left, selected = told ++ left ∧ List.Forall₂ (Told db) told result.records
  complete : result.status.is_complete → result.records.length = selected.length ∧
    (result.status = .complete_with_failures ↔
      ∃ record ∈ result.records, record.outcome = some "failed")

/-- The record of a row keeps its attempt. -/
theorem batch_record_id {db : Db} {id : String} {record : R5BatchRecord}
    (h : batch_record (record_in db id) = .ok record) : record.attempt_id = id := by
  rw [batch_record] at h
  split at h
  · cases h
  · obtain rfl := Except.ok.inj h
    exact record_of_attempt_id id _

theorem told_ids {db : Db} {told : List R5SelectedAttempt} {records : List R5BatchRecord}
    (h : List.Forall₂ (Told db) told records) :
    records.map R5BatchRecord.attempt_id = told.map R5SelectedAttempt.attempt_id := by
  induction h with
  | nil => rfl
  | cons hrecord _ ih => rw [List.map_cons, List.map_cons, batch_record_id hrecord.1, ih]

theorem told_printable {db : Db} {told : List R5SelectedAttempt} {records : List R5BatchRecord}
    (h : List.Forall₂ (Told db) told records) : ∀ record ∈ records, printable record = true := by
  induction h with
  | nil => exact fun _ hrecord => nomatch hrecord
  | cons hrecord _ ih => exact List.forall_mem_cons.mpr ⟨hrecord.2, ih⟩

/-- Such a result is printed. -/
theorem Accounted.reported {db : Db} {selected : List R5SelectedAttempt} {result : R5BatchResult}
    (h : Accounted db selected result) (hnodup : (selected.map R5SelectedAttempt.attempt_id).Nodup) :
    Reported db selected result := by
  obtain ⟨told, left, rfl, htold⟩ := h.told
  refine ⟨fun deadline_expired => ?_, told, left, rfl, htold.imp fun _ _ h => h.1⟩
  have hlength : result.records.length = told.length := htold.length_eq.symm
  obtain ⟨attempts, hattempts, hencodable⟩ := safe_attempts_ok []
    (told_ids htold ▸ by rw [List.map_append]; exact List.prefix_append _ _) hnodup (by simp)
      (told_printable htold)
  have hdumps : ∃ line, (report result deadline_expired attempts).dumps true = some line := by
    refine ⟨_, if_pos ?_⟩
    have hseconds : (Json.digits MAX_R5_BATCH_SECONDS).length ≤ Json.max_str_digits := by decide
    simp [report, Json.encodable_fields, Json.encodable, Json.encodable_items, Json.encodable_str,
      hencodable, hseconds]
  obtain ⟨line, hline⟩ := hdumps
  refine ⟨line, ?_⟩
  rw [print_result, raise_if_ok.mpr, ok_bind, hattempts, ok_bind, raise_if_ok.mpr, ok_bind, hline]
  · rintro ⟨hcomplete, hfailed⟩
    exact hfailed (h.complete hcomplete).2
  · rintro (hlt | ⟨hcomplete, hne⟩)
    · rw [List.length_append] at hlt
      omega
    · exact hne (h.complete hcomplete).1

/-- A report that is printed has printable records. -/
theorem Reported.printable {db : Db} {selected : List R5SelectedAttempt} {result : R5BatchResult}
    (h : Reported db selected result) : ∀ record ∈ result.records, printable record = true := by
  obtain ⟨line, hline⟩ := h.1 false
  rw [print_result] at hline
  obtain ⟨-, hline⟩ := raise_if_bind.mp hline
  obtain ⟨attempts, hattempts, -⟩ := bind_ok.mp hline
  exact safe_attempts_printable hattempts

/-- A valid row is printable, unless it is unknown with a result digest. -/
theorem printable_of_valid {db : Db} {id : String} {record : R5BatchRecord}
    (hvalid : (db.history id).getLast?.all R5AttemptLedger.valid_record = true)
    (hrecord : batch_record (record_in db id) = .ok record)
    (hunknown : (record_in db id).state = .UNKNOWN → (record_in db id).result_digest = none) :
    printable record = true := by
  rw [record_in] at hrecord hunknown
  rcases hlast : (db.history id).getLast? with _ | event
  · rw [hlast] at hrecord
    cases hrecord
  · rw [hlast] at hrecord hunknown hvalid
    obtain ⟨n, i, state, input_digest, result_digest, outcome, reason_code⟩ := event
    obtain rfl := Except.ok.inj hrecord
    rw [Option.all_some] at hvalid
    -- `valid_record` says which of the last three columns each state has
    cases state with
    | CLAIMED =>
      simp only [R5AttemptLedger.valid_record, Bool.and_eq_true, Option.isNone_iff_eq_none] at hvalid
      obtain ⟨hinput, ⟨rfl, rfl⟩, rfl⟩ := hvalid
      simp [printable, record_of, hinput]
    | COMPLETED =>
      simp only [R5AttemptLedger.valid_record, Bool.and_eq_true, Option.any_eq_true] at hvalid
      obtain ⟨hinput, ⟨⟨digest, rfl, hdigest⟩, outcome, rfl, houtcome⟩, reason, rfl, hreason⟩ := hvalid
      have houtcome' : outcome ∈ PRINTED_OUTCOMES := of_decide_eq_true houtcome
      have hreason' : reason ∈ PRINTED_REASONS := known_reasons (of_decide_eq_true hreason)
      simp [printable, record_of, hinput, hdigest, houtcome', hreason']
    | UNKNOWN =>
      simp only [R5AttemptLedger.valid_record, Bool.and_eq_true, Option.any_eq_true,
        Option.isNone_iff_eq_none] at hvalid
      obtain ⟨hinput, ⟨-, rfl⟩, reason, rfl, hreason⟩ := hvalid
      obtain rfl : result_digest = none := hunknown rfl
      have hreason' : reason ∈ PRINTED_REASONS := known_unknown_reasons (of_decide_eq_true hreason)
      simp [printable, record_of, hinput, hreason']

/-! ## The operations, run alone -/

section Solo

/-- Whether a read of the ledger has failed. -/
def failed_read (failed : Bool) : (op : Op) → op.Res → Bool
  | .ledger _, .error _ => true
  | _, _ => failed

variable {α β : Type} {Q : Bool → α → World → Prop} {R : Bool → β → World → Prop}
  {X : Bool → Exn → World → Prop} {m : Bool} {w : World}

/-- Code of the runner, run alone. -/
abbrev Alone (Q : Bool → α → World → Prop) (X : Bool → Exn → World → Prop) (m : Bool) (p : Program α)
    (w : World) : Prop :=
  Solo sem failed_read Q X m p w

/-- What an answered operation of the ledger leaves. -/
theorem ledger_step {w' : World} {op : R5AttemptLedger.Op} {r : R5AttemptLedger.Res op}
    (h : sem w (.ledger op) (.ok r) w') :
    ∃ db, w' = { w with db := db } ∧ R5AttemptLedger.sem w.db op r db := by
  generalize hr : (Except.ok r : Except Exn (R5AttemptLedger.Res op)) = x at h
  cases h with
  | ledger _ op r' db h =>
    obtain rfl := Except.ok.inj hr
    exact ⟨db, rfl, h⟩
  | read_failed _ op e _ => cases hr

/-- Only a read fails, and it leaves the ledger as it was. -/
theorem read_failed_step {w' : World} {op : R5AttemptLedger.Op} {e : Exn}
    (h : sem w (.ledger op) (.error e) w') : w' = w ∧ R5AttemptLedger.IsRead op := by
  generalize hr : (Except.error e : Except Exn (R5AttemptLedger.Res op)) = x at h
  cases h with
  | ledger _ op r' db h => cases hr
  | read_failed _ op e hread => exact ⟨rfl, hread⟩

/-- An operation of the ledger, and what follows each of its answers. -/
theorem ledger_alone {op : R5AttemptLedger.Op} {f : R5AttemptLedger.Res op → Program β}
    (hok : ∀ r db, R5AttemptLedger.sem w.db op r db → Alone R X m (f r) { w with db := db })
    (herr : ∀ e, R5AttemptLedger.IsRead op → X true e w) :
    Alone R X m ((on_ledger (Prog.perform op)).bind f) w := by
  rw [on_ledger_perform]
  intro r w' h
  rcases r with e | r
  · obtain ⟨rfl, hread⟩ := read_failed_step h
    exact herr e hread
  · obtain ⟨db, rfl, hanswer⟩ := ledger_step h
    exact hok r db hanswer

/-- A read of the ledger. -/
theorem read_alone {op : R5AttemptLedger.Op} {f : R5AttemptLedger.Res op → Program β}
    (hop : R5AttemptLedger.IsRead op) (hok : Alone R X m (f (R5AttemptLedger.answer op w.db).1) w)
    (herr : ∀ e, X true e w) : Alone R X m ((on_ledger (Prog.perform op)).bind f) w := by
  refine ledger_alone (fun r db h => ?_) fun e _ => herr e
  obtain ⟨rfl, -⟩ := R5AttemptLedger.sem_read (m := []) hop h
  rcases h with h | ⟨h, -⟩
  · rw [h] at hok
    exact hok
  · cases op <;> first | exact False.elim hop | cases h

theorem require_ok {ok : Bool} {u : Unit} (h : R5AttemptLedger.require ok = .ok u) : ok = true := by
  cases ok with
  | true => rfl
  | false => cases h

theorem require_error {ok : Bool} {e : Exn} (h : R5AttemptLedger.require ok = .error e) :
    ok ≠ true := by
  rintro rfl
  cases h

/-- The last event of an attempt is one the ledger could have written. -/
def ValidLast (db : Db) (id : String) : Prop :=
  (db.history id).getLast?.all R5AttemptLedger.valid_record = true

/-- Reading a record fails for an attempt that is not listed or not valid, or else because a
read failed. -/
theorem read_record_alone {id : String} : Alone
    (fun m' record w' => m' = m ∧ w' = w ∧ record = record_in w.db id ∧ ValidLast w.db id)
    (fun m' _ w' => w' = w ∧ (id ∈ w.db.attempts → ValidLast w.db id → m' = true)) m
    (on_ledger (read_record id)) w := by
  simp only [read_record, Prog.bind_eq, on_ledger_bind, on_ledger_lift]
  refine read_alone trivial ?_ fun e => ⟨rfl, fun _ _ => rfl⟩
  refine Solo.lift_bind (fun e he => ⟨rfl, fun hmem => ?_⟩) fun _ _ => ?_
  · exact absurd (decide_eq_true hmem) (require_error he)
  refine read_alone trivial ?_ fun e => ⟨rfl, fun _ _ => rfl⟩
  refine Solo.lift_bind (fun e he => ⟨rfl, fun _ hvalid => ?_⟩) fun _ hvalid => ?_
  · exact absurd hvalid (require_error he)
  · exact ⟨rfl, rfl, rfl, require_ok hvalid⟩

/-- Reading records one after the other. -/
theorem read_records_alone {ids : List String} : Alone
    (fun m' records w' => m' = m ∧ w' = w ∧ records = ids.map (record_in w.db) ∧
      ∀ id ∈ ids, ValidLast w.db id) (fun _ _ _ => True) m (on_ledger (read_records ids)) w := by
  induction ids with
  | nil => exact ⟨rfl, rfl, rfl, by simp⟩
  | cons id ids ih =>
    simp only [read_records, Prog.bind_eq, on_ledger_bind]
    refine Solo.bind (read_record_alone.mono ?_ fun _ _ _ _ => trivial)
    rintro _ record _ ⟨rfl, rfl, rfl, hvalid⟩
    refine Solo.bind (ih.mono ?_ fun _ _ _ h => h)
    rintro _ records _ ⟨rfl, rfl, rfl, hvalids⟩
    exact ⟨rfl, rfl, rfl, List.forall_mem_cons.mpr ⟨hvalid, hvalids⟩⟩

/-- The rows of a listing are those of the ledger. -/
def Listed (db : Db) (existing : List R5AttemptRecord) : Prop :=
  ∀ id record, find_record existing id = some record → record = record_in db id ∧ ValidLast db id

/-- `ledger.records()`. -/
theorem records_alone {closed : Bool} : Alone
    (fun m' existing w' => m' = m ∧ w' = w ∧ Listed w.db existing) (fun _ _ _ => True) m
    (records closed) w := by
  simp only [records, Prog.bind_eq]
  refine Solo.lift_bind (fun _ _ => trivial) fun _ _ => ?_
  simp only [on_ledger_bind]
  refine Solo.handle (read_alone trivial ?_ fun _ => trivial)
  refine read_records_alone.mono ?_ fun _ _ _ _ => trivial
  rintro _ existing _ ⟨rfl, rfl, rfl, hvalid⟩
  refine ⟨rfl, rfl, fun id record hfound => ?_⟩
  have hmem := List.mem_of_find?_eq_some hfound
  rw [List.mem_reverse] at hmem
  obtain ⟨id', hid', rfl⟩ := List.mem_map.mp hmem
  have hid : id' = id := by simpa [record_in] using List.find?_some hfound
  subst hid
  exact ⟨rfl, hvalid id' hid'⟩

/-- `ledger.get(..)`. -/
theorem get_alone {closed : Bool} {id : String} : Alone
    (fun m' record w' => m' = m ∧ w' = w ∧ record = record_in w.db id)
    (fun m' _ w' => w' = w ∧ (closed = false → id ∈ w.db.attempts → ValidLast w.db id → m' = true)) m
    (get closed id) w := by
  simp only [get, Prog.bind_eq]
  refine Solo.lift_bind (fun e he => ⟨rfl, fun hclosed => ?_⟩) fun _ _ => ?_
  · rw [hclosed] at he
    cases he
  · refine Solo.handle (read_record_alone.mono ?_ ?_)
    · rintro _ record _ ⟨rfl, rfl, hrecord, -⟩
      exact ⟨rfl, rfl, hrecord⟩
    · rintro m' e _ ⟨rfl, hfailed⟩
      exact ⟨rfl, fun _ => hfailed⟩

/-! ### Writing -/

/-- An operation that changed the attempt `id` only. -/
def Kept (id : String) (db db' : Db) : Prop := ∀ other, other ≠ id → db'.history other =
    db.history other

/-- An event that was inserted is the last of its attempt. -/
theorem insert_last {db db' : Db} {row : EventRow}
    (h : db.insert_event row = (R5AttemptLedger.Outcome.committed, db')) :
    Kept row.attempt_id db db' ∧ row.attempt_id ∈ db'.attempts ∧
      ∃ n, (db'.history row.attempt_id).getLast? = some { row with event_id := n } := by
  obtain ⟨n, hhistory⟩ := insert_committed h
  unfold Db.insert_event at h
  split_ifs at h with hrow
  · obtain ⟨-, rfl⟩ := Prod.mk.inj h
    refine ⟨fun other hother => ?_, hrow.1, n, ?_⟩
    · rw [R5AttemptLedger.history_append, if_neg (Ne.symm hother)]
    · rw [hhistory, List.getLast?_concat]
  · cases h

/-- Claiming an attempt. -/
theorem claim_alone {closed : Bool} {id digest : String} : Alone
    (fun m' _ w' => m' = m ∧ is_digest digest = true ∧ Kept id w.db w'.db ∧
      ∃ n, (w'.db.history id).getLast? = some ⟨n, id, .CLAIMED, digest, none, none, none⟩)
    (fun _ _ _ => True) m (on_ledger (R5AttemptLedger.claim closed (.text id)
      (.of (.text digest)))) w := by
  simp only [R5AttemptLedger.claim, Prog.bind_eq, on_ledger_bind, on_ledger_lift]
  refine Solo.lift_bind (fun _ _ => trivial) fun d hd => ?_
  refine Solo.lift_bind (fun _ _ => trivial) fun _ _ => ?_
  refine Solo.lift_bind (fun _ _ => trivial) fun i hi => ?_
  obtain ⟨heq, hvalid⟩ := R5AttemptLedger.validate_digest_ok hd
  obtain rfl : digest = d := PyStr.text.inj (Arg.of.inj heq)
  obtain rfl : id = i := PyStr.text.inj (R5AttemptLedger.bind_id_ok hi)
  refine ledger_alone (fun r db h => ?_) fun _ _ => trivial
  cases r with
  | unavailable => trivial
  | failed => trivial
  | committed =>
    rcases h with h | ⟨h, -⟩
    · simp only [R5AttemptLedger.answer, Db.claim] at h
      split_ifs at h
      · cases h
      · obtain ⟨hkept, -, n, hlast⟩ := insert_last h
        exact ⟨rfl, hvalid, hkept, n, hlast⟩
    · cases h

/-- Ending an attempt that was claimed. A transition that raises changes nothing. -/
theorem transition_alone {closed : Bool} {id : String} {state : EventState}
    {digest outcome : Option String} {reason : String} {last : EventRow}
    (hclaimed : (w.db.history id).getLast? = some last) : Alone
    (fun m' _ w' => m' = m ∧ Kept id w.db w'.db ∧ id ∈ w'.db.attempts ∧
      ∃ n, (w'.db.history id).getLast? =
        some ⟨n, id, state, last.input_digest, digest, outcome, some reason⟩)
    (fun m' _ w' => m' = m ∧ w' = w) m
    (on_ledger (R5AttemptLedger.transition closed (.text id) state digest outcome reason)) w := by
  simp only [R5AttemptLedger.transition, Prog.bind_eq, on_ledger_bind, on_ledger_lift]
  refine Solo.lift_bind (fun _ _ => ⟨rfl, rfl⟩) fun _ _ => ?_
  refine Solo.lift_bind (fun _ _ => ⟨rfl, rfl⟩) fun i hi => ?_
  obtain rfl : id = i := PyStr.text.inj (R5AttemptLedger.bind_id_ok hi)
  refine ledger_alone (fun r db h => ?_) fun _ hread => hread.elim
  -- only a committed transaction has written; the other two answers leave the rows as they were
  by_cases hr : r = R5AttemptLedger.Outcome.committed
  · subst hr
    rcases h with h | ⟨h, -⟩
    · simp only [R5AttemptLedger.answer, Db.transition, hclaimed] at h
      split_ifs at h
      · cases h
      · exact ⟨rfl, insert_last h⟩
    · cases h
  · have hdb : db = w.db := R5AttemptLedger.sem_unchanged h
      (by cases r <;> first | rfl | exact absurd rfl hr)
    subst hdb
    cases r with
    | committed => exact absurd rfl hr
    | unavailable => exact ⟨rfl, rfl⟩
    | failed => exact ⟨rfl, rfl⟩

/-! ### One attempt -/

variable {closed : Bool} {item : R5SelectedAttempt}

/-- The row of an attempt this call has claimed. -/
def ClaimedRow (db : Db) (item : R5SelectedAttempt) : Prop :=
  is_digest item.input_digest = true ∧ ∃ n, (db.history item.attempt_id).getLast? =
    some ⟨n, item.attempt_id, .CLAIMED, item.input_digest, none, none, none⟩

/-- Abandoning an attempt tells what the ledger holds, unless it was marked unknown and then
could not be read. -/
theorem abandon_alone {reason : Arg PyStr} (hopen : closed = false) (hclaimed : ClaimedRow w.db item) :
    Alone (fun m' attempt w' => Kept item.attempt_id w.db w'.db ∧ ∃ record, attempt =
      .uncertain record ∧
        (m' = false → Told w'.db item record) ∧ (m' = true → ¬ Told w'.db item record))
      (fun _ _ _ => False) false (abandon closed item reason) w := by
  obtain ⟨hdigest, n, hlast⟩ := hclaimed
  have htold : Told w.db item ⟨item.attempt_id, .CLAIMED, item.input_digest, none, none, none⟩ := by
    refine ⟨by rw [record_in, hlast]; rfl, ?_⟩
    simp [printable, hdigest]
  -- what a refused `mark_unknown` leaves
  have hrefused (m' : Bool) (e : Exn) (w' : World) (h : m' = false ∧ w' = w) :
      Kept item.attempt_id w.db w'.db ∧ ∃ record : R5BatchRecord,
        Attempt.uncertain ⟨item.attempt_id, .CLAIMED, item.input_digest, none, none, none⟩ =
          .uncertain record ∧
        (m' = false → Told w'.db item record) ∧ (m' = true → ¬ Told w'.db item record) := by
    obtain ⟨rfl, rfl⟩ := h
    exact ⟨fun _ _ => rfl, _, rfl, fun _ => htold, (by rintro ⟨⟩)⟩
  rw [abandon]
  refine Solo.handle (Solo.bind ?_)
  simp only [R5AttemptLedger.mark_unknown, Prog.bind_eq, on_ledger_bind, on_ledger_lift]
  refine Solo.lift_bind (fun e _ => hrefused _ e _ ⟨rfl, rfl⟩) fun r hr => ?_
  refine Solo.lift_bind (fun e _ => hrefused _ e _ ⟨rfl, rfl⟩) fun d hd => ?_
  obtain rfl : none = d := Except.ok.inj hd
  refine (transition_alone hlast).mono ?_ hrefused
  rintro m' _ w' ⟨rfl, hkept, hlisted, n', hlast'⟩
  have hunknown : Told w'.db item ⟨item.attempt_id, .UNKNOWN, item.input_digest, none, none,
    some r⟩ := by
    refine ⟨by rw [record_in, hlast']; rfl, ?_⟩
    simp [printable, hdigest, known_unknown_reasons (R5AttemptLedger.one_of_ok hr)]
  have hvalid : ValidLast w'.db item.attempt_id := by
    rw [ValidLast, hlast']
    simp [R5AttemptLedger.valid_record, hdigest, R5AttemptLedger.one_of_ok hr]
  refine Solo.bind (get_alone.mono ?_ ?_)
  · rintro m' _ w'' ⟨rfl, rfl, rfl⟩
    rw [hunknown.1]
    exact ⟨hkept, _, rfl, fun _ => hunknown, (by rintro ⟨⟩)⟩
  · rintro m' e w'' ⟨rfl, hfailed⟩
    refine ⟨hkept, _, rfl, fun hm => ?_, fun _ htold' => ?_⟩
    · rw [hfailed hopen hlisted hvalid] at hm
      cases hm
    · have heq := hunknown.1.symm.trans htold'.1
      cases heq

/-- Completing an attempt; where it is refused nothing has changed. -/
theorem complete_attempt_alone {record : Arg R5ExecutionRecord} (hclaimed : ClaimedRow w.db item) :
    Alone (fun m' attempt w' => m' = m ∧ Kept item.attempt_id w.db w'.db ∧ ∃ record outcome,
        attempt = .completed record outcome ∧ record.outcome = some outcome ∧ Told w'.db item record)
      (fun m' _ w' => m' = m ∧ w' = w) m (complete_attempt closed item record) w := by
  obtain ⟨hdigest, n, hlast⟩ := hclaimed
  cases record with
  | other => exact ⟨rfl, rfl⟩
  | of record =>
    rw [complete_attempt]
    refine Solo.lift_bind (fun _ _ => ⟨rfl, rfl⟩) fun _ _ => ?_
    refine Solo.lift_bind (fun _ _ => ⟨rfl, rfl⟩) fun classified _ => ?_
    refine Solo.lift_bind (fun _ _ => ⟨rfl, rfl⟩) fun digest _ => ?_
    obtain ⟨outcome, reason⟩ := classified
    simp only [R5AttemptLedger.complete, Prog.bind_eq, on_ledger_bind, on_ledger_lift]
    refine Solo.bind ?_
    refine Solo.lift_bind (fun _ _ => ⟨rfl, rfl⟩) fun d hd => ?_
    refine Solo.lift_bind (fun _ _ => ⟨rfl, rfl⟩) fun o ho => ?_
    refine Solo.lift_bind (fun _ _ => ⟨rfl, rfl⟩) fun r hr => ?_
    obtain ⟨heq, hvalid⟩ := R5AttemptLedger.validate_digest_ok hd
    obtain rfl : digest = d := PyStr.text.inj (Arg.of.inj heq)
    -- the ledger checks the outcome and the reason again, so what is kept is printable
    obtain rfl : outcome = o := one_of_text ho
    obtain rfl : reason = r := one_of_text hr
    refine (transition_alone hlast).mono ?_ fun _ _ _ h => h
    rintro m' _ w' ⟨rfl, hkept, -, n', hlast'⟩
    refine ⟨rfl, hkept, _, _, rfl, rfl, by rw [record_in, hlast']; rfl, ?_⟩
    have houtcome : outcome ∈ PRINTED_OUTCOMES := R5AttemptLedger.one_of_ok ho
    have hreason : reason ∈ PRINTED_REASONS := known_reasons (R5AttemptLedger.one_of_ok hr)
    simp [printable, hdigest, hvalid, houtcome, hreason]

/-- How an attempt ended: it is uncertain, or completed. -/
def Ended (item : R5SelectedAttempt) (db : Db) (m : Bool) (attempt : Attempt) (w : World) : Prop :=
  Kept item.attempt_id db w.db ∧
    ((∃ record, attempt = .uncertain record ∧ (m = false → Told w.db item record) ∧
        (m = true → ¬ Told w.db item record)) ∨
      m = false ∧ ∃ record outcome, attempt = .completed record outcome ∧
        record.outcome = some outcome ∧ Told w.db item record)

/-- Executing an attempt that was claimed. -/
theorem execute_attempt_alone {worker : ℕ} (hopen : closed = false) (hclaimed : ClaimedRow w.db item) :
    Alone (Ended item w.db) (fun _ _ _ => False) false (execute_attempt closed item worker) w := by
  intro answer w' h
  obtain ⟨executed, rfl⟩ : ∃ executed, w' = ⟨w.db, executed⟩ := by
    cases h
    exact ⟨_, rfl⟩
  have habandon (reason : Arg PyStr) : Alone (Ended item w.db) (fun _ _ _ => False) false
      (abandon closed item reason) ⟨w.db, executed⟩ :=
    (abandon_alone (w := ⟨w.db, executed⟩) hopen hclaimed).mono (fun _ _ _ h => ⟨h.1, .inl h.2⟩)
      fun _ _ _ h => h
  rcases answer with failure | record
  · cases failure with
    | r5_execution_error reason => exact habandon reason
    | exception => exact habandon _
  · refine Solo.handle ((complete_attempt_alone (w := ⟨w.db, executed⟩) hclaimed).mono ?_ ?_)
    · rintro _ attempt w'' ⟨rfl, hkept, h⟩
      exact ⟨hkept, .inr ⟨rfl, h⟩⟩
    · rintro _ e _ ⟨rfl, rfl⟩
      exact habandon _

end Solo

/-! ## The loop over the attempts -/

theorem Kept.record_in {id other : String} {db db' : Db} (h : Kept id db db') (hne : other ≠ id) :
    record_in db' other = record_in db other := by
  rw [R5Batch.record_in, R5Batch.record_in, h other hne]

theorem Kept.told {id : String} {db db' : Db} (h : Kept id db db') {told : List R5SelectedAttempt}
    {records : List R5BatchRecord} (hne : ∀ item ∈ told, item.attempt_id ≠ id)
    (htold : List.Forall₂ (Told db) told records) : List.Forall₂ (Told db') told records := by
  induction htold with
  | nil => exact .nil
  | cons hrecord _ ih =>
    obtain ⟨hitem, hrest⟩ := List.forall_mem_cons.mp hne
    refine .cons ⟨?_, hrecord.2⟩ (ih hrest)
    rw [h.record_in hitem]
    exact hrecord.1

/-- Where the loop stands: the attempts before `items` are told. -/
structure Progress (db : Db) (existing : List R5AttemptRecord) (done items : List R5SelectedAttempt)
    (output : List R5BatchRecord) (saw_failure : Bool) : Prop where
  told : List.Forall₂ (Told db) done output
  rows : ∀ item ∈ items, ∀ prior, find_record existing item.attempt_id = some prior →
    prior = record_in db item.attempt_id ∧ ValidLast db item.attempt_id
  nodup : ((done ++ items).map R5SelectedAttempt.attempt_id).Nodup
  saw : saw_failure = true ↔
    (∃ record ∈ output, record.outcome = some "failed") ∨ ∃ item ∈ items, failing existing item = true

section Loop

variable {db : Db} {existing : List R5AttemptRecord} {done rest : List R5SelectedAttempt}
  {item : R5SelectedAttempt} {output : List R5BatchRecord} {saw : Bool} {record : R5BatchRecord}

/-- The attempt whose turn it is has not been told. -/
theorem Progress.fresh (h : Progress db existing done (item :: rest) output saw) :
    (∀ other ∈ done, other.attempt_id ≠ item.attempt_id) ∧
      ∀ other ∈ rest, other.attempt_id ≠ item.attempt_id := by
  have hnodup := h.nodup
  rw [List.map_append, List.map_cons, List.nodup_middle, List.nodup_cons, List.mem_append] at hnodup
  obtain ⟨hdone, hrest⟩ := not_or.mp hnodup.1
  exact ⟨fun other hother heq => hdone (heq ▸ List.mem_map_of_mem hother),
    fun other hother heq => hrest (heq ▸ List.mem_map_of_mem hother)⟩

/-- One more attempt is told, in a ledger that changed for this attempt only. -/
theorem Progress.tell {db' : Db} (h : Progress db existing done (item :: rest) output saw)
    (hkept : Kept item.attempt_id db db') (hrecord : Told db' item record) :
    List.Forall₂ (Told db') (done ++ [item]) (output ++ [record]) :=
  List.rel_append (hkept.told h.fresh.1 h.told) (.cons hrecord .nil)

/-- The loop after it. -/
theorem Progress.next {db' : Db} {saw' : Bool} (h : Progress db existing done (item :: rest) output saw)
    (hkept : Kept item.attempt_id db db') (hrecord : Told db' item record)
    (hsaw : saw' = true ↔ (∃ record ∈ output, record.outcome = some "failed") ∨
      record.outcome = some "failed" ∨ ∃ item ∈ rest, failing existing item = true) :
    Progress db' existing (done ++ [item]) rest (output ++ [record]) saw' := by
  refine ⟨h.tell hkept hrecord, fun other hother prior hprior => ?_, ?_, ?_⟩
  · have hne := h.fresh.2 other hother
    obtain ⟨rfl, hvalid⟩ := h.rows other (.tail _ hother) prior hprior
    refine ⟨(hkept.record_in hne).symm, ?_⟩
    rw [ValidLast, hkept other.attempt_id hne]
    exact hvalid
  · rw [List.append_assoc, List.singleton_append]
    exact h.nodup
  · rw [hsaw]
    simp only [List.mem_append, List.mem_singleton, or_and_right, exists_or, exists_eq_left, or_assoc]

/-- The loop after an attempt whose row was completed already. -/
theorem Progress.skip {prior : R5AttemptRecord}
    (h : Progress db existing done (item :: rest) output saw)
    (hprior : find_record existing item.attempt_id = some prior) (hcompleted : prior.state = .COMPLETED)
    (hrecord : batch_record prior = .ok record) :
    Progress db existing (done ++ [item]) rest (output ++ [record]) saw := by
  obtain ⟨rfl, hvalid⟩ := h.rows item List.mem_cons_self prior hprior
  refine h.next (fun _ _ => rfl) ⟨hrecord, printable_of_valid hvalid hrecord fun hunknown => ?_⟩ ?_
  · rw [hcompleted] at hunknown
    cases hunknown
  · have hfailing : failing existing item = true ↔ record.outcome = some "failed" := by
      rw [batch_record] at hrecord
      split at hrecord
      · cases hrecord
      · obtain rfl := Except.ok.inj hrecord
        simp [failing, hprior, hcompleted]
    rw [h.saw, List.exists_mem_cons_iff, hfailing]

/-- A result of a batch that stopped after the attempts that were told. -/
theorem accounted_stopped {status : BatchStatus} (h : List.Forall₂ (Told db) done output)
    (hstatus : ¬ status.is_complete) : Accounted db (done ++ rest) ⟨status, output⟩ :=
  ⟨⟨done, rest, rfl, h⟩, fun hcomplete => absurd hcomplete hstatus⟩

/-- The last record of a reported result is told. -/
theorem Reported.last {result : R5BatchResult} (h : Reported db (done ++ item :: rest) result)
    (hrecords : result.records = output ++ [record]) (hlength : done.length = output.length) :
    Told db item record := by
  refine ⟨?_, h.printable record (hrecords ▸ by simp)⟩
  obtain ⟨-, told, left, hsplit, htold⟩ := h
  rw [hrecords] at htold
  have hlen := htold.length_eq
  rw [List.length_append, List.length_singleton] at hlen
  obtain ⟨rfl, -⟩ : done ++ [item] = told ∧ rest = left := by
    refine List.append_inj (by rw [List.append_assoc, List.singleton_append, hsplit]) ?_
    rw [List.length_append, List.length_singleton, hlen, hlength]
  have hdrop := List.forall₂_drop_append _ _ _ htold
  rw [← hlength, List.drop_left] at hdrop
  exact (List.forall₂_cons.mp hdrop).1

/-- What the loop leaves: the ledger's own result, unless a read has failed. -/
def Settled (selected : List R5SelectedAttempt) (m : Bool) (result : R5BatchResult) (w : World) :
    Prop :=
  (m = false → Accounted w.db selected result) ∧ (m = true → ¬ Reported w.db selected result)

/-- **The loop, run alone.** -/
theorem run_attempts_alone {closed continue_after_failed : Bool} (hopen : closed = false)
    {items : List R5SelectedAttempt} {seen : List ℕ} {w : World}
    (h : Progress w.db existing done items output saw) :
    Alone (Settled (done ++ items)) (fun _ _ _ => True) false
      (run_attempts existing closed continue_after_failed items output seen saw) w := by
  -- on the attempts that are left; `Progress` is what the report has told so far
  induction items generalizing done output seen saw w with
  | nil =>
    refine ⟨fun _ => ⟨⟨done, [], rfl, h.told⟩, fun _ => ⟨?_, ?_⟩⟩, (by rintro ⟨⟩)⟩
    · rw [List.append_nil]
      exact h.told.length_eq.symm
    · have hsaw := h.saw
      simp only [List.not_mem_nil, false_and, exists_false, or_false] at hsaw
      rw [← hsaw]
      cases saw <;> simp
  | cons item rest ih =>
    have hstopped (status : BatchStatus) (hstatus : ¬ status.is_complete) :
        Settled (done ++ item :: rest) false ⟨status, output⟩ w :=
      ⟨fun _ => accounted_stopped h.told hstatus, (by rintro ⟨⟩)⟩
    have happend : done ++ item :: rest = (done ++ [item]) ++ rest := by simp
    rw [run_attempts]
    rcases hprior : find_record existing item.attempt_id with _ | prior
    · trivial
    -- a completed row is reported as it is, without a call
    · by_cases hcompleted : prior.state = .COMPLETED
      · simp only [hcompleted, if_true]
        refine Solo.lift_bind (fun _ _ => trivial) fun record hrecord => ?_
        rw [happend]
        exact ih (h.skip hprior hcompleted hrecord)
      · have hpending : failing existing item = false := by simp [failing, hprior, hcompleted]
        simp only [hcompleted, if_false]
        intro answer w' hfactory
        obtain rfl : w = w' := by
          cases hfactory
          rfl
        rcases answer with e | (worker | _)
        · exact hstopped .stopped_preflight (by decide)
        · by_cases hseen : worker ∈ seen
          · simp only [Prog.ret_bind, hseen, if_true]
            exact hstopped .stopped_preflight (by decide)
          · simp only [Prog.ret_bind, hseen, if_false]
            refine Solo.bind (claim_alone.mono ?_ fun _ _ _ _ => trivial)
            rintro _ _ w₁ ⟨rfl, hdigest, hkept, hlast⟩
            refine Solo.bind ((execute_attempt_alone hopen ⟨hdigest,
              hlast⟩).mono ?_ fun _ _ _ h => h.elim)
            -- a completed attempt goes on; an unknown one stops the batch, and if it was reported
            -- although its row could not be read, the report is off by that row
            rintro m' attempt w₂ ⟨hkept', ⟨record, rfl, htold, hmistold⟩ |
              ⟨rfl, record, outcome, rfl, houtcome, htold⟩⟩
            all_goals
              have hkept₂ : Kept item.attempt_id w.db w₂.db := fun other hne =>
                (hkept' other hne).trans (hkept other hne)
            · refine ⟨fun hm => ?_, fun hm hreported => ?_⟩
              · rw [happend]
                exact accounted_stopped (h.tell hkept₂ (htold hm)) (by decide)
              · exact hmistold hm (hreported.last rfl h.told.length_eq)
            · have hnext : Progress w₂.db existing (done ++ [item]) rest (output ++ [record])
                  (saw || outcome == "failed") := by
                refine h.next hkept₂ htold ?_
                rw [Bool.or_eq_true, h.saw, List.exists_mem_cons_iff, hpending, houtcome]
                simp only [Bool.false_eq_true, false_or, beq_iff_eq, Option.some.injEq]
                rw [or_assoc, or_comm (a := outcome = "failed")]
              -- a failed attempt stops the batch unless the caller asked to go on
              by_cases hstop : outcome = "failed" ∧ continue_after_failed = false
              · simp only [hstop, if_true, and_self]
                rw [happend]
                exact ⟨fun _ => accounted_stopped hnext.told (by decide), (by rintro ⟨⟩)⟩
              · simp only [hstop, if_false]
                refine Solo.bind (get_alone.mono ?_ fun _ _ _ _ => trivial)
                rintro _ _ w₃ ⟨rfl, rfl, -⟩
                rw [happend]
                exact ih hnext
        · exact hstopped .stopped_preflight (by decide)

end Loop

/-! ## The review -/

section Review

variable {db : Db} {existing : List R5AttemptRecord} {continue_after_failed saw : Bool}
  {items : List R5SelectedAttempt} {output : List R5BatchRecord}

/-- The listing has the ledger's row of every attempt. -/
def Rows (db : Db) (existing : List R5AttemptRecord) (items : List R5SelectedAttempt) : Prop :=
  ∀ item ∈ items, ∀ prior, find_record existing item.attempt_id = some prior →
    prior = record_in db item.attempt_id ∧ ValidLast db item.attempt_id

/-- A batch that goes on has no row that stops it. -/
theorem review_go_rows {saw' : Bool} (hrows : Rows db existing items)
    (h : review existing continue_after_failed items output saw = .ok (.go saw')) :
    ∀ item ∈ items, stops continue_after_failed (record_in db item.attempt_id) = false := by
  -- the review goes past a row only where `stops` is false of it
  induction items generalizing output saw with
  | nil => exact fun _ hitem => nomatch hitem
  | cons item rest ih =>
    rw [review] at h
    rcases hprior : find_record existing item.attempt_id with _ | prior
    · simp [hprior] at h
    · obtain ⟨rfl, -⟩ := hrows item List.mem_cons_self prior hprior
      have ih := fun {output saw} => @ih output saw fun other hother => hrows other (.tail _ hother)
      simp only [hprior] at h
      split_ifs at h with hcompleted hfailed hcontinue hspent hfresh
      · obtain ⟨-, h⟩ := raise_if_bind.mp h
        obtain ⟨record, -, h⟩ := bind_ok.mp h
        exact List.forall_mem_cons.mpr ⟨by simp [stops, hcompleted, hcontinue], ih h⟩
      · obtain ⟨-, h⟩ := raise_if_bind.mp h
        obtain ⟨record, -, h⟩ := bind_ok.mp h
        cases h
      · obtain ⟨-, h⟩ := raise_if_bind.mp h
        obtain ⟨record, -, h⟩ := bind_ok.mp h
        exact List.forall_mem_cons.mpr ⟨by simp [stops, hcompleted, hfailed], ih h⟩
      · obtain ⟨record, -, h⟩ := bind_ok.mp h
        cases h
      · obtain ⟨hclaimed, hunknown⟩ := not_or.mp hspent
        exact List.forall_mem_cons.mpr ⟨by simp [stops, hcompleted, hclaimed, hunknown], ih h⟩

/-- An attempt the ledger has as completed. -/
def is_completed (db : Db) (item : R5SelectedAttempt) : Bool :=
  (record_in db item.attempt_id).state = .COMPLETED

/-- What a batch that stopped at its review reports: the completed attempts before the row that
stopped it, and this row. -/
def StoppedAt (db : Db) (continue_after_failed : Bool) (items : List R5SelectedAttempt)
    (output : List R5BatchRecord) (result : R5BatchResult) : Prop :=
  ∃ before item after middle record, items = before ++ item :: after ∧
    stops continue_after_failed (record_in db item.attempt_id) = true ∧
    (∀ other ∈ before, stops continue_after_failed (record_in db other.attempt_id) = false) ∧
    batch_record (record_in db item.attempt_id) = .ok record ∧
    result.records = output ++ middle ++ [record] ∧
    List.Forall₂ (fun other record => batch_record (record_in db other.attempt_id) = .ok record)
      (before.filter (is_completed db)) middle

theorem review_stopped_at {result : R5BatchResult} (hrows : Rows db existing items)
    (h : review existing continue_after_failed items output saw = .ok (.stopped result)) :
    StoppedAt db continue_after_failed items output result := by
  induction items generalizing output saw with
  | nil => cases h
  | cons item rest ih =>
    have ih := fun {output saw} => @ih output saw fun other hother => hrows other (.tail _ hother)
    rw [review] at h
    rcases hprior : find_record existing item.attempt_id with _ | prior
    · simp [hprior] at h
    · obtain ⟨rfl, -⟩ := hrows item List.mem_cons_self prior hprior
      -- a completed row before the one that stops the batch
      have hnext {record : R5BatchRecord} {saw' : Bool}
          (hcompleted : (record_in db item.attempt_id).state = .COMPLETED)
          (hgo : stops continue_after_failed (record_in db item.attempt_id) = false)
          (hrecord : batch_record (record_in db item.attempt_id) = .ok record)
          (h : review existing continue_after_failed rest (output ++ [record]) saw' =
            .ok (.stopped result)) : StoppedAt db continue_after_failed
              (item :: rest) output result := by
        obtain ⟨before, last, after, middle, final, rfl, hstops, hbefore, hfinal, hrecords,
          hmiddle⟩ := ih h
        refine ⟨item :: before, last, after, record :: middle, final, rfl, hstops,
          List.forall_mem_cons.mpr ⟨hgo, hbefore⟩, hfinal, by rw [hrecords]; simp, ?_⟩
        rw [List.filter_cons_of_pos (show is_completed db item = true from decide_eq_true hcompleted)]
        exact .cons hrecord hmiddle
      simp only [hprior] at h
      split_ifs at h with hcompleted hfailed hcontinue hspent hfresh
      · obtain ⟨-, h⟩ := raise_if_bind.mp h
        obtain ⟨record, hrecord, h⟩ := bind_ok.mp h
        exact hnext hcompleted (by simp [stops, hcompleted, hcontinue]) hrecord h
      · obtain ⟨-, h⟩ := raise_if_bind.mp h
        obtain ⟨record, hrecord, h⟩ := bind_ok.mp h
        obtain rfl := Review.stopped.inj (Except.ok.inj h)
        exact ⟨[], item, rest, [], record, rfl, by simp [stops, hcompleted, hfailed, hcontinue],
          by simp,
          hrecord, by simp, .nil⟩
      · obtain ⟨-, h⟩ := raise_if_bind.mp h
        obtain ⟨record, hrecord, h⟩ := bind_ok.mp h
        exact hnext hcompleted (by simp [stops, hcompleted, hfailed]) hrecord h
      · obtain ⟨record, hrecord, h⟩ := bind_ok.mp h
        obtain rfl := Review.stopped.inj (Except.ok.inj h)
        refine ⟨[], item, rest, [], record, rfl, ?_, by simp, hrecord, by simp, .nil⟩
        rcases hspent with hspent | hspent <;> simp [stops, hspent]
      · obtain ⟨hclaimed, hunknown⟩ := not_or.mp hspent
        obtain ⟨before, last, after, middle, final, rfl, hstops, hbefore, hfinal, hrecords,
          hmiddle⟩ := ih h
        refine ⟨item :: before, last, after, middle, final, rfl, hstops, List.forall_mem_cons.mpr
          ⟨by simp [stops, hcompleted, hclaimed, hunknown], hbefore⟩, hfinal, hrecords, ?_⟩
        rw [List.filter_cons_of_neg (by simp [is_completed, hcompleted])]
        exact hmiddle

/-- A list has one first element with a property. -/
theorem first_unique {α : Type} {p : α → Bool} {before before' after after' : List α} {a a' : α}
    (h : before ++ a :: after = before' ++ a' :: after') (hbefore : ∀ x ∈ before, p x = false)
    (ha : p a = true) (hbefore' : ∀ x ∈ before', p x = false) (ha' : p a' = true) :
    before = before' ∧ a = a' := by
  have htake (after : List α) {before : List α} {a : α} (hbefore : ∀ x ∈ before, p x = false) (ha : p a = true) :
      (before ++ a :: after).takeWhile (fun x => !p x) = before := by
    rw [List.takeWhile_append_of_pos (by simpa using hbefore),
      List.takeWhile_cons_of_neg (by simp [ha]),
      List.append_nil]
  have heq : before = before' := by
    rw [← htake after hbefore ha, h, htake _ hbefore' ha']
  subst heq
  exact ⟨rfl, (List.cons.inj (List.append_cancel_left h)).1⟩

/-- A row that is told and does not stop the batch is completed. -/
theorem completed_of_told {item : R5SelectedAttempt} {record : R5BatchRecord}
    (hrecord : batch_record (record_in db item.attempt_id) = .ok record)
    (hgo : stops continue_after_failed (record_in db item.attempt_id) = false) :
    is_completed db item = true := by
  rw [record_in] at hrecord hgo
  rw [is_completed, record_in]
  rcases hlast : (db.history item.attempt_id).getLast? with _ | event
  · rw [hlast] at hrecord
    cases hrecord
  · rw [hlast] at hgo
    rcases hstate : event.state with _ | _ | _
    · simp [stops, record_of, hstate] at hgo
    · simp [record_of, hstate]
    · simp [stops, record_of, hstate] at hgo

theorem told_completed {told : List R5SelectedAttempt} {records : List R5BatchRecord}
    (h : List.Forall₂ (fun item record => batch_record (record_in db item.attempt_id) = .ok record)
      told records)
    (hgo : ∀ item ∈ told, stops continue_after_failed (record_in db item.attempt_id) = false) :
    ∀ item ∈ told, is_completed db item = true := by
  induction h with
  | nil => exact fun _ hitem => nomatch hitem
  | cons hrecord _ ih =>
    obtain ⟨hitem, hrest⟩ := List.forall_mem_cons.mp hgo
    exact List.forall_mem_cons.mpr ⟨completed_of_told hrecord hitem, ih hrest⟩

/-- Completed rows are told. -/
theorem told_of_completed {told : List R5SelectedAttempt} {records : List R5BatchRecord}
    (h : List.Forall₂ (fun item record => batch_record (record_in db item.attempt_id) = .ok record)
      told records)
    (hrows : ∀ item ∈ told, ValidLast db item.attempt_id ∧
      (record_in db item.attempt_id).state = .COMPLETED) : List.Forall₂ (Told db) told records := by
  induction h with
  | nil => exact .nil
  | cons hrecord _ ih =>
    obtain ⟨⟨hvalid, hcompleted⟩, hrest⟩ := List.forall_mem_cons.mp hrows
    refine .cons ⟨hrecord, printable_of_valid hvalid hrecord fun hunknown => ?_⟩ (ih hrest)
    rw [hcompleted] at hunknown
    cases hunknown

/-- **A stopped batch is reported if it is in order.** -/
theorem stopped_reported {result : R5BatchResult} (hrows : Rows db existing items)
    (hlisted : ∀ item ∈ items, ∃ prior, find_record existing item.attempt_id = some prior)
    (hnodup : (items.map R5SelectedAttempt.attempt_id).Nodup)
    (h : review existing continue_after_failed items [] saw = .ok (.stopped result)) :
    Reported db items result ↔ InOrder db continue_after_failed items := by
  have hstatus : ¬ result.status.is_complete := by
    rcases review_stopped h with hs | hs <;> rw [hs] <;> decide
  obtain ⟨before, item, after, middle, record, rfl, hstops, hbefore, hrecord, hrecords, hmiddle⟩ :=
    review_stopped_at hrows h
  rw [List.nil_append] at hrecords
  have hvalid (other : R5SelectedAttempt) (hother : other ∈ before ++ item :: after) :
      ValidLast db other.attempt_id := by
    obtain ⟨prior, hprior⟩ := hlisted other hother
    exact (hrows other hother prior hprior).2
  constructor
  -- the first row that stops is the one the review stopped at
  · intro hreported before' item' after' hsplit hstops' hbefore'
    obtain ⟨rfl, rfl⟩ := first_unique
      (p := fun item => stops continue_after_failed (record_in db item.attempt_id))
      hsplit.symm hbefore' hstops' hbefore hstops
    constructor
    · by_contra hpending
      push Not at hpending
      obtain ⟨other, hother, hstate⟩ := hpending
      -- were a row before it not completed, the report would be too short to be a prefix
      have hfewer : (before'.filter (is_completed db)).length < before'.length :=
        List.length_filter_lt_length_iff_exists.mpr ⟨other, hother,
          by simpa [is_completed] using hstate⟩
      obtain ⟨-, told, left, htold_split, htold⟩ := hreported
      rw [hrecords] at htold
      have hlength : told.length = (before'.filter (is_completed db)).length + 1 := by
        rw [htold.length_eq, List.length_append, List.length_singleton, hmiddle.length_eq]
      have hfront : told <+: before' :=
        List.prefix_of_prefix_length_le ⟨left, htold_split.symm⟩ (List.prefix_append _ _) (by omega)
      have hall := told_completed htold fun item hitem => hbefore item (hfront.subset hitem)
      have hcount := (hfront.filter (is_completed db)).length_le
      rw [List.filter_eq_self.mpr hall] at hcount
      omega
    · intro hunknown
      have hprintable := hreported.printable record (hrecords ▸ by simp)
      rw [batch_record] at hrecord
      split at hrecord
      · cases hrecord
      · obtain rfl := Except.ok.inj hrecord
        simp only [printable, hunknown] at hprintable
        simp at hprintable
        exact hprintable.2.1
  -- conversely the completed rows before it and the row itself are the report
  · intro horder
    obtain ⟨hcompleted, hunknown⟩ := horder before item after rfl hstops hbefore
    have hfilter : before.filter (is_completed db) = before :=
      List.filter_eq_self.mpr fun other hother => decide_eq_true (hcompleted other hother)
    rw [hfilter] at hmiddle
    refine Accounted.reported ⟨⟨before ++ [item], after, by simp, ?_⟩,
      fun hc => absurd hc hstatus⟩ hnodup
    rw [hrecords]
    refine List.rel_append (told_of_completed hmiddle fun other hother =>
      ⟨hvalid other (by simp [hother]), hcompleted other hother⟩) (.cons ⟨hrecord, ?_⟩ .nil)
    exact printable_of_valid (hvalid item (by simp)) hrecord hunknown

end Review

/-! ## A batch -/

/-- The selected attempts of a call are different, and its ledger is open. -/
theorem selection_ok {c : Call} {selected : List R5SelectedAttempt} {continue_after_failed : Bool}
    (h : c.selection = .ok (selected, continue_after_failed)) :
    c.closed = false ∧ (selected.map R5SelectedAttempt.attempt_id).Nodup := by
  rw [Call.selection] at h
  obtain ⟨hclosed, h⟩ := raise_if_bind.mp h
  refine ⟨by simpa using hclosed, ?_⟩
  -- both ways of choosing end in the same checks
  have hchecked {chosen : List R5SelectedAttempt} {flag : Bool}
      (h : (do
        raise_if (¬ (1 ≤ chosen.length ∧ chosen.length ≤ 5)) value_error
        let expected ← select_r5_attempts c.schedule (chosen.map R5SelectedAttempt.attempt_id)
        raise_if (chosen ≠ expected) value_error
        return (chosen, flag)) = .ok (selected, continue_after_failed)) :
      (selected.map R5SelectedAttempt.attempt_id).Nodup := by
    obtain ⟨-, h⟩ := raise_if_bind.mp h
    obtain ⟨expected, hexpected, h⟩ := bind_ok.mp h
    obtain ⟨-, h⟩ := raise_if_bind.mp h
    obtain ⟨rfl, -⟩ := Prod.mk.inj (Except.ok.inj h)
    unfold select_r5_attempts at hexpected
    obtain ⟨-, hexpected⟩ := raise_if_bind.mp hexpected
    obtain ⟨-, hexpected⟩ := raise_if_bind.mp hexpected
    exact not_not.mp (raise_if_bind.mp hexpected).1
  rcases hflag : c.continue_after_failed with flag | _
  · rw [hflag] at h
    obtain ⟨-, h⟩ := raise_if_bind.mp h
    obtain ⟨-, h⟩ := raise_if_bind.mp h
    rcases hattempts : c.selected_attempts with _ | (chosen | _)
    · rw [hattempts] at h
      obtain ⟨chosen, -, h⟩ := bind_ok.mp h
      exact hchecked h
    · rw [hattempts] at h
      exact hchecked h
    · rw [hattempts] at h
      cases h
  · rw [hflag] at h
    cases h

/-- **A call, run alone**: its result is reported if the selection is in order and no read of the
ledger failed. -/
theorem batch_alone {c : Call} {selected : List R5SelectedAttempt} {continue_after_failed : Bool}
    (hselection : c.selection = .ok (selected, continue_after_failed)) (w : World) :
    Alone (fun m' result w' => Reported w'.db selected result ↔
        InOrder w.db continue_after_failed selected ∧ m' = false) (fun _ _ _ => True) false
      (run_first_five_r5_attempts c) w := by
  obtain ⟨hopen, hnodup⟩ := selection_ok hselection
  refine Solo.handle (Solo.mono (Q := fun m' result w' => Reported w'.db selected result ↔
    InOrder w.db continue_after_failed selected ∧ m' = false) (X := fun _ _ _ => True) ?_
    (fun _ _ _ h => h) fun m e w' _ => ?_)
  · refine Solo.lift_bind (fun _ _ => trivial) fun selection hselection' => ?_
    obtain rfl : (selected, continue_after_failed) = selection :=
      Except.ok.inj (hselection.symm.trans hselection')
    refine Solo.bind (records_alone.mono ?_ fun _ _ _ _ => trivial)
    rintro _ existing w₁ ⟨rfl, hw, hlisted⟩
    obtain rfl : w = w₁ := hw.symm
    refine Solo.lift_bind (fun _ _ => trivial) fun _ hfound => ?_
    refine Solo.lift_bind (fun _ _ => trivial) fun reviewed hreview => ?_
    have hrows : Rows w.db existing selected := fun item _ prior hprior => hlisted _ prior hprior
    -- the review alone decides the report, or every row it saw lets the run go on
    cases reviewed with
    | stopped result =>
      have hall : ∀ item ∈ selected, ∃ prior, find_record existing item.attempt_id = some prior := by
        intro item hitem
        have hnone := raise_if_ok.mp hfound
        push Not at hnone
        exact Option.ne_none_iff_exists'.mp (hnone item hitem)
      show Reported w.db selected result ↔ _
      rw [stopped_reported hrows hall hnodup hreview]
      simp
    | go saw =>
      have hgo := review_go_rows hrows hreview
      have horder : InOrder w.db continue_after_failed selected := by
        rintro before item after rfl hstops
        rw [hgo item (by simp)] at hstops
        cases hstops
      refine Solo.lift_bind (fun _ _ => trivial) fun _ _ => ?_
      have hstart : Progress w.db existing [] selected [] saw :=
        ⟨.nil, hrows, hnodup, by simp [(review_go hreview).2]⟩
      refine (run_attempts_alone hopen hstart).mono ?_ fun _ _ _ h => h
      rintro m' result w' ⟨haccounted, hmistold⟩
      cases m' with
      | true => simp [show ¬ Reported w'.db selected result from hmistold rfl]
      | false => simp [horder, show Reported w'.db selected result from (haccounted rfl).reported hnodup]
  · by_cases he : e.cls = .R5BatchRunnerError
    · rw [if_pos he]
      trivial
    · rw [if_neg he]
      trivial

/-- A read of the ledger that failed. -/
def Executed.ReadFailed (e : Executed) : Prop :=
  ∃ op x before after, e = ⟨.ledger op, .error x, before, after⟩

theorem failed_read_known {past : List Executed} {m : Bool} :
    past.foldl (fun m e => failed_read m e.op e.res) m = true ↔
      m = true ∨ ∃ e ∈ past, e.ReadFailed := by
  induction past generalizing m with
  | nil => simp
  | cons e past ih =>
    have hstep : failed_read m e.op e.res = true ↔ m = true ∨ e.ReadFailed := by
      obtain ⟨op, r, before, after⟩ := e
      cases op with
      | ledger op =>
        rcases r with x | r
        · exact ⟨fun _ => .inr ⟨op, x, before, after, rfl⟩, fun _ => rfl⟩
        · exact ⟨.inl, fun h => h.resolve_right fun ⟨_, _, _, _, heq⟩ => by cases heq⟩
      | worker_factory item => exact ⟨.inl,
        fun h => h.resolve_right fun ⟨_, _, _, _, heq⟩ => by cases heq⟩
      | attempt_executor item worker =>
        exact ⟨.inl, fun h => h.resolve_right fun ⟨_, _, _, _, heq⟩ => by cases heq⟩
    rw [List.foldl_cons, ih, hstep, List.exists_mem_cons_iff, or_assoc]

/-- **What is printed is the ledger's.** A call that runs alone and returns has its result
accepted by the printer, with records that are those of the first selected attempts in the
ledger, exactly if no pending attempt is selected before a row that stops the batch, this row
is not unknown with a result digest, and no read of the ledger failed. -/
theorem reported_iff {c : Call} {selected : List R5SelectedAttempt} {continue_after_failed : Bool}
    {w w' : World} {past : List Executed} {result : R5BatchResult}
    (hselection : c.selection = .ok (selected, continue_after_failed))
    (hrun : Follows (run_first_five_r5_attempts c) past (.ret result)) (hpast : Chain sem w past w') :
    Reported w'.db selected result ↔
      InOrder w.db continue_after_failed selected ∧ ∀ e ∈ past, ¬ e.ReadFailed := by
  have h := (batch_alone hselection w).returned hrun hpast
  rw [h, ← Bool.not_eq_true, failed_read_known]
  simp

/-! ### A row that was claimed before -/

/-- A call that selects two attempts. -/
def two_attempts : Call :=
  ⟨some sample_schedule, false, true,
    some (.of [sample_schedule "R5-001", sample_schedule "R5-002"]), .of false⟩

/-- A ledger with one claimed attempt. -/
def claimed_before (id : String) : World :=
  ⟨(Db.created.claim id (R5AttemptLedger.digest_of 'a')).2, []⟩

/-- What the two attempts report when one of them was claimed. -/
theorem two_attempts_stopped (id : String) (hid : id = "R5-001" ∨ id = "R5-002") :
    ∃ past : List Executed, Follows (run_first_five_r5_attempts two_attempts) past
      (.ret ⟨.stopped_unknown, [⟨id, .CLAIMED, R5AttemptLedger.digest_of 'a', none, none, none⟩]⟩) ∧
      Chain sem (claimed_before id) past (claimed_before id) ∧ ∀ e ∈ past, ¬ e.ReadFailed := by
  obtain ⟨past, hfollows, hchain, hanswers⟩ :=
    Follows.answered calm_sem (run_first_five_r5_attempts two_attempts) (claimed_before id)
  have hrun : ((run_first_five_r5_attempts two_attempts).exec calm_answer (claimed_before id)).1 =
        .ok ⟨.stopped_unknown, [⟨id, .CLAIMED, R5AttemptLedger.digest_of 'a', none, none, none⟩]⟩ ∧
      ((run_first_five_r5_attempts two_attempts).exec calm_answer (claimed_before id)).2 =
        claimed_before id := by
    rcases hid with rfl | rfl <;> decide +kernel
  rw [Prog.finished, hrun.1] at hfollows
  rw [hrun.2] at hchain
  refine ⟨past, hfollows, hchain, ?_⟩
  rintro _ he ⟨op, x, before, after, rfl⟩
  cases hanswers _ he

theorem two_attempts_selection : two_attempts.selection =
    .ok ([sample_schedule "R5-001", sample_schedule "R5-002"], false) := rfl

/-- The second attempt was claimed: the report is refused. -/
theorem claimed_row_misplaced : ∃ (past : List Executed) (result : R5BatchResult),
    Follows (run_first_five_r5_attempts two_attempts) past (.ret result) ∧
      Chain sem (claimed_before "R5-002") past (claimed_before "R5-002") ∧
      ¬ Reported (claimed_before "R5-002").db
        [sample_schedule "R5-001", sample_schedule "R5-002"] result := by
  obtain ⟨past, hfollows, hchain, -⟩ := two_attempts_stopped "R5-002" (.inr rfl)
  refine ⟨past, _, hfollows, hchain, fun ⟨hprinted, _⟩ => ?_⟩
  obtain ⟨line, hline⟩ := hprinted false
  cases hline

/-- The first attempt was claimed: the report is printed. -/
theorem claimed_row_reported : ∃ (past : List Executed) (result : R5BatchResult),
    Follows (run_first_five_r5_attempts two_attempts) past (.ret result) ∧
      Chain sem (claimed_before "R5-001") past (claimed_before "R5-001") ∧
      Reported (claimed_before "R5-001").db
        [sample_schedule "R5-001", sample_schedule "R5-002"] result := by
  obtain ⟨past, hfollows, hchain, hread⟩ := two_attempts_stopped "R5-001" (.inl rfl)
  refine ⟨past, _, hfollows, hchain,
    (reported_iff two_attempts_selection hfollows hchain).mpr ⟨?_, hread⟩⟩
  intro before item after hsplit hstops hbefore
  have hclaimed : stops false (record_in (claimed_before "R5-001").db "R5-001") = true := rfl
  obtain ⟨rfl, rfl⟩ := first_unique
    (p := fun item => stops false (record_in (claimed_before "R5-001").db item.attempt_id))
    (show before ++ item :: after = [] ++ sample_schedule "R5-001" :: [sample_schedule "R5-002"] from
      hsplit.symm) hbefore hstops (by simp) hclaimed
  exact ⟨by simp, fun hunknown => nomatch hunknown⟩

end AppContracts.R5Batch
