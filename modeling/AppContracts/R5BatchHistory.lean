/-
No replay in a batch: over any interleaving of batch calls on one ledger, an
attempt is executed at most once, and a call that returns as complete has told
what the ledger holds.

A `Monitor` is what a call's own answers tell it. Every operation of a call is
allowed by its monitor (`body_obeys`): an executor runs only for an attempt this
call has just claimed. The rest is about the ledger: a claim is unique, and what
is recorded stays.

What a call returns is tied to its executors by `Executed.Answered`: a completion is the
outcome and the digest that `classify_result` and `result_digest` give of the record the
executor answered with, in this call. That an executor runs once for an attempt is a
matter of all calls, and is a count: a claim that is committed earns a token, an execution
spends one, and every call can pay (`body_paid`), while the ledger commits one claim at most.
-/
import AppContracts.R5Batch

set_option autoImplicit false

namespace AppContracts.R5Batch

open Interleave
open R5AttemptLedger (Db EventRow EventState)

/-! ## What a call has done so far -/

/-- What the answers so far tell: the last events listed before the first claim,
newest first; the attempt claimed and not yet executed; the last record that an
executor returned, and for which attempt; whether an executor raised, whether a
failure was recorded, and the completions. -/
structure Monitor : Type where
  listing : List (String × Option EventRow)
  begun : Bool
  held : Option (String × String)
  answered : Option (R5SelectedAttempt × R5ExecutionRecord)
  raised : Bool
  failed : Bool
  completed : List (String × String × String × String)

/-- Nothing is known of a new call. -/
def Monitor.start : Monitor := ⟨[], false, none, none, false, false, []⟩

/-- What one more answer tells. -/
def watch (m : Monitor) : (op : Op) → op.Res → Monitor
  | .ledger (.read_events id), .ok events =>
    if m.begun then m else { m with listing := (id, List.getLast? events) :: m.listing }
  | .ledger (.claim id digest), .ok R5AttemptLedger.Outcome.committed =>
    { m with begun := true, held := some (id, digest) }
  | .ledger (.transition id .COMPLETED (some digest) (some outcome) reason),
      .ok R5AttemptLedger.Outcome.committed =>
    { m with completed := (id, digest, outcome, reason) :: m.completed,
             failed := m.failed || outcome == "failed" }
  | .attempt_executor _ _, .error _ => { m with held := none, raised := true }
  | .attempt_executor item _, .ok (.of record) =>
    { m with held := none, answered := some (item, record) }
  | .attempt_executor _ _, .ok .other => { m with held := none }
  | _, _ => m

/-- A transaction whose event the ledger's invariant admits. -/
def Lawful : R5AttemptLedger.Op → Prop
  | .claim _ digest => R5AttemptLedger.is_digest digest = true
  | .transition id state digest outcome reason => (state = .COMPLETED ∨ state = .UNKNOWN) ∧
      ∀ n input, R5AttemptLedger.is_digest input = true →
        R5AttemptLedger.valid_record ⟨n, id, state, input, digest, outcome, some reason⟩ = true
  | .extend _ => False
  | _ => True

/-- A listed event that records a failure. -/
def failed_event (event : Option EventRow) : Bool :=
  event.any fun e => e.state = .COMPLETED && e.outcome = some "failed"

/-- The executor may run: its attempt is selected and was claimed by this call
with the selected digest, no executor of this call raised, and without the opt-in
no selected attempt was recorded as failed. -/
def MayExecute (c : Call) (m : Monitor) (item : R5SelectedAttempt) : Prop :=
  (∃ selected continue_after_failed, c.selection = .ok (selected, continue_after_failed) ∧
    item ∈ selected) ∧
  m.held = some (item.attempt_id, item.input_digest) ∧ m.raised = false ∧
    ∀ selected, c.selection = .ok (selected, false) → m.failed = false ∧
      ∀ other ∈ selected, ∀ event, m.listing.lookup other.attempt_id = some event →
        failed_event event = false

/-- The outcome, its reason and the digest are those of the executor's record, which names the
attempt and its input. -/
structure Result (item : R5SelectedAttempt) (record : R5ExecutionRecord)
    (id digest outcome reason : String) : Prop where
  attempt : item.attempt_id = id ∧ record.attempt_id = .text id
  input : record.input_digest = .text item.input_digest
  outcome : classify_result record.result = .ok (outcome, reason)
  digest : result_digest record reason = .ok digest

/-- A completion is what the last executor returned. -/
def Justified (m : Monitor) : R5AttemptLedger.Op → Prop
  | .transition id .COMPLETED (some digest) (some outcome) reason =>
    ∃ item record, m.answered = some (item, record) ∧ Result item record id digest outcome reason
  | _ => True

/-- What a call may do. -/
def allowed (c : Call) (m : Monitor) : Op → Prop
  | .ledger op => Lawful op ∧ Justified m op
  | .worker_factory _ => True
  | .attempt_executor item _ => MayExecute c m item

/-! ### The ledger's methods -/

section Methods

variable {c : Call} {m : Monitor} {α β : Type}

@[simp] theorem on_ledger_ret (a : α) : on_ledger (.ret a) = .ret a := rfl

@[simp] theorem on_ledger_lift (x : Except Exn α) : on_ledger (Prog.lift x) = Prog.lift x := by
  cases x <;> rfl

theorem on_ledger_bind (p : R5AttemptLedger.Program α) (f : α → R5AttemptLedger.Program β) :
    on_ledger (p.bind f) = (on_ledger p).bind fun a => on_ledger (f a) := by
  induction p with
  | ret a => rfl
  | raise e => rfl
  | call op next ih =>
    rw [Prog.call_bind, on_ledger, on_ledger, Prog.call_bind]
    congr 1
    funext r
    cases r with
    | ok r => exact ih r
    | error e => rfl

/-- A pure check, whose error is raised. -/
theorem lift_obeys {Q : Monitor → β → Prop} {X : Monitor → Exn → Prop} {x : Except Exn α}
    {f : α → Program β} (hok : ∀ a, x = .ok a → Obeys watch (allowed c) Q X m (f a))
    (herr : ∀ e, X m e) : Obeys watch (allowed c) Q X m ((Prog.lift x).bind f) := by
  cases x with
  | ok a => exact hok a rfl
  | error e => exact herr e

/-- One operation of the ledger in a sequence: its error is raised. -/
theorem on_ledger_perform (op : R5AttemptLedger.Op) (f : R5AttemptLedger.Res op → Program β) :
    (on_ledger (Prog.perform op)).bind f = .call (.ledger op) fun r => (match r with
      | .ok r => .ret r
      | .error e => .raise e : Program (R5AttemptLedger.Res op)).bind f := by
  rw [Prog.perform, on_ledger, Prog.call_bind]
  congr 1

/-- One operation of the ledger, and what follows each of its answers. -/
theorem ledger_obeys {Q : Monitor → β → Prop} {X : Monitor → Exn → Prop} {op : R5AttemptLedger.Op}
    {f : R5AttemptLedger.Res op → Program β} (hop : Lawful op) (hjustified : Justified m op)
    (hok : ∀ r, Obeys watch (allowed c) Q X (watch m (.ledger op) (.ok r)) (f r))
    (herr : ∀ e, X (watch m (.ledger op) (.error e)) e) :
    Obeys watch (allowed c) Q X m ((on_ledger (Prog.perform op)).bind f) := by
  rw [on_ledger_perform]
  refine ⟨⟨hop, hjustified⟩, fun r => ?_⟩
  rcases r with e | r
  · exact herr e
  · exact hok r

/-- Claiming an attempt. -/
theorem claim_obeys {Q : Monitor → Unit → Prop} {X : Monitor → Exn → Prop} {closed : Bool}
    {id digest : String} (hQ : Q { m with begun := true, held := some (id, digest) } ())
    (hX : ∀ e, X m e) : Obeys watch (allowed c) Q X m
      (on_ledger (R5AttemptLedger.claim closed (.text id) (.of (.text digest)))) := by
  simp only [R5AttemptLedger.claim, Prog.bind_eq, on_ledger_bind, on_ledger_lift]
  refine lift_obeys (fun d hd => ?_) hX
  refine lift_obeys (fun _ _ => ?_) hX
  refine lift_obeys (fun i hi => ?_) hX
  obtain ⟨heq, hvalid⟩ := R5AttemptLedger.validate_digest_ok hd
  obtain rfl : digest = d := PyStr.text.inj (Arg.of.inj heq)
  obtain rfl : id = i := PyStr.text.inj (R5AttemptLedger.bind_id_ok hi)
  have hlawful : Lawful (.claim id digest) := hvalid
  refine ledger_obeys hlawful trivial (fun r => ?_) hX
  cases r with
  | committed => exact hQ
  | unavailable => exact hX _
  | failed => exact hX _

theorem one_of_text {texts : List String} {value text : String}
    (h : R5AttemptLedger.one_of texts (.of (.text value)) = .ok text) : value = text := by
  simp only [R5AttemptLedger.one_of] at h
  split_ifs at h
  exact Except.ok.inj h

/-- A transition that did not commit tells nothing. -/
theorem watch_refused (m : Monitor) (id : String) (state : EventState) (digest outcome : Option String)
    (reason : String) {r : R5AttemptLedger.Outcome} (hr : r ≠ .committed) :
    watch m (.ledger (.transition id state digest outcome reason)) (.ok r) = m := by
  cases r with
  | committed => exact absurd rfl hr
  | unavailable => cases state <;> cases digest <;> cases outcome <;> rfl
  | failed => cases state <;> cases digest <;> cases outcome <;> rfl

theorem watch_error (m : Monitor) (op : R5AttemptLedger.Op) (e : Exn) :
    watch m (.ledger op) (.error e) = m := by
  cases op with
  | transition id state digest outcome reason =>
    cases state <;> cases digest <;> cases outcome <;> rfl
  | _ => rfl

/-- Ending an attempt. -/
theorem transition_obeys {Q : Monitor → Unit → Prop} {X : Monitor → Exn → Prop} {closed : Bool}
    {id : String} {state : EventState} {digest outcome : Option String} {reason : String}
    (hlawful : Lawful (.transition id state digest outcome reason))
    (hjustified : Justified m (.transition id state digest outcome reason))
    (hQ : Q (watch m (.ledger (.transition id state digest outcome reason))
      (.ok R5AttemptLedger.Outcome.committed)) ())
    (hX : ∀ e, X m e) : Obeys watch (allowed c) Q X m
      (on_ledger (R5AttemptLedger.transition closed (.text id) state digest outcome reason)) := by
  simp only [R5AttemptLedger.transition, Prog.bind_eq, on_ledger_bind, on_ledger_lift]
  refine lift_obeys (fun _ _ => ?_) hX
  refine lift_obeys (fun i hi => ?_) hX
  obtain rfl : id = i := PyStr.text.inj (R5AttemptLedger.bind_id_ok hi)
  refine ledger_obeys hlawful hjustified (fun r => ?_) fun e => by rw [watch_error]; exact hX e
  cases r with
  | committed => exact hQ
  | unavailable =>
    rw [watch_refused m _ _ _ _ _ (by decide)]
    exact hX _
  | failed =>
    rw [watch_refused m _ _ _ _ _ (by decide)]
    exact hX _

/-- Completing an attempt with what the last executor returned. -/
theorem complete_obeys {Q : Monitor → Unit → Prop} {X : Monitor → Exn → Prop} {closed : Bool}
    {item : R5SelectedAttempt} {record : R5ExecutionRecord} {id digest outcome reason : String}
    (hanswered : m.answered = some (item, record)) (hresult : Result item record id digest outcome reason)
    (hQ : Q { m with completed := (id, digest, outcome, reason) :: m.completed,
                     failed := m.failed || outcome == "failed" } ())
    (hX : ∀ e, X m e) : Obeys watch (allowed c) Q X m
      (on_ledger (R5AttemptLedger.complete closed (.text id) (.of (.text digest)) (.of (.text outcome))
        (.of (.text reason)))) := by
  simp only [R5AttemptLedger.complete, Prog.bind_eq, on_ledger_bind, on_ledger_lift]
  refine lift_obeys (fun d hd => ?_) hX
  refine lift_obeys (fun o ho => ?_) hX
  refine lift_obeys (fun r hr => ?_) hX
  obtain ⟨heq, hvalid⟩ := R5AttemptLedger.validate_digest_ok hd
  obtain rfl : digest = d := PyStr.text.inj (Arg.of.inj heq)
  obtain rfl : outcome = o := one_of_text ho
  obtain rfl : reason = r := one_of_text hr
  refine transition_obeys ⟨.inl rfl, fun n input hinput => ?_⟩ ⟨item, record, hanswered, hresult⟩ hQ hX
  simp [R5AttemptLedger.valid_record, hinput, hvalid, R5AttemptLedger.one_of_ok ho,
    R5AttemptLedger.one_of_ok hr]

/-- Marking an attempt unknown tells nothing of its result. -/
theorem mark_unknown_obeys {closed : Bool} {id : String} {reason : Arg PyStr} :
    Obeys watch (allowed c) (fun m' _ => m' = m) (fun m' _ => m' = m) m
      (on_ledger (R5AttemptLedger.mark_unknown closed (.text id) reason none)) := by
  simp only [R5AttemptLedger.mark_unknown, Prog.bind_eq, on_ledger_bind, on_ledger_lift]
  refine lift_obeys (fun r hr => ?_) fun _ => rfl
  refine lift_obeys (fun d hd => ?_) fun _ => rfl
  obtain rfl : none = d := Except.ok.inj hd
  refine transition_obeys ⟨.inr rfl, fun n input hinput => ?_⟩ trivial rfl fun _ => rfl
  simp [R5AttemptLedger.valid_record, hinput, R5AttemptLedger.one_of_ok hr]

/-- What reading the last event of an attempt tells. -/
def Monitor.read (m : Monitor) (id : String) (event : Option EventRow) : Monitor :=
  if m.begun then m else { m with listing := (id, event) :: m.listing }

/-- Reading a record. -/
theorem read_record_obeys {Q : Monitor → R5AttemptRecord → Prop} {X : Monitor → Exn → Prop} {id : String}
    (hQ : ∀ event, Q (m.read id event) (record_of id event))
    (hX : ∀ m' e, (m' = m ∨ ∃ event, m' = m.read id event) → X m' e) :
    Obeys watch (allowed c) Q X m (on_ledger (read_record id)) := by
  simp only [read_record, Prog.bind_eq, on_ledger_bind, on_ledger_lift]
  refine ledger_obeys trivial trivial (fun found => ?_) fun e => hX _ e (.inl rfl)
  refine lift_obeys (fun _ _ => ?_) fun e => hX _ e (.inl rfl)
  refine ledger_obeys trivial trivial (fun events => ?_) fun e => hX _ e (.inl rfl)
  have hwatch : watch m (.ledger (.read_events id)) (.ok events) = m.read id events.getLast? := rfl
  exact lift_obeys (fun _ _ => hwatch ▸ hQ events.getLast?) fun e => hX _ e (.inr ⟨_, hwatch⟩)

/-- Reading records one after the other, before the first claim. -/
theorem read_records_obeys {ids : List String} (hbegun : m.begun = false) :
    Obeys watch (allowed c) (fun m' records => ∃ events : List (String × Option EventRow),
        records = events.map (fun p => record_of p.1 p.2) ∧
        m' = { m with listing := events.reverse ++ m.listing }) (fun _ _ => True) m
      (on_ledger (read_records ids)) := by
  induction ids generalizing m with
  | nil => exact ⟨[], rfl, rfl⟩
  | cons id ids ih =>
    simp only [read_records, Prog.bind_eq, on_ledger_bind]
    refine Obeys.bind (read_record_obeys (fun event => ?_) fun _ _ _ => trivial)
    have hread : m.read id event = { m with listing := (id, event) :: m.listing } := by
      rw [Monitor.read, hbegun]
      rfl
    have hrest := ih (m := { m with listing := (id, event) :: m.listing }) hbegun
    rw [hread]
    refine Obeys.bind (hrest.mono ?_ fun _ _ _ => trivial)
    rintro m' records ⟨events, rfl, rfl⟩
    exact ⟨(id, event) :: events, rfl, by simp⟩

/-- `ledger.records()` of a call that has not claimed yet. -/
theorem records_obeys {closed : Bool} (hbegun : m.begun = false) :
    Obeys watch (allowed c) (fun m' records => ∃ events : List (String × Option EventRow),
        records = events.map (fun p => record_of p.1 p.2) ∧
        m' = { m with listing := events.reverse ++ m.listing }) (fun _ _ => True) m
      (records closed) := by
  simp only [records, Prog.bind_eq]
  refine lift_obeys (fun _ _ => ?_) fun _ => trivial
  simp only [on_ledger_bind]
  refine Obeys.handle (ledger_obeys trivial trivial (fun ids => ?_) fun _ => trivial)
  exact (read_records_obeys (m := m) hbegun).mono (fun _ _ h => h) fun _ _ _ => trivial

/-- `ledger.get(..)` after a claim tells nothing new. -/
theorem get_obeys {closed : Bool} {id : String} (hbegun : m.begun = true) :
    Obeys watch (allowed c) (fun m' _ => m' = m) (fun m' _ => m' = m) m (get closed id) := by
  have hread (event : Option EventRow) : m.read id event = m := by
    rw [Monitor.read, hbegun]
    rfl
  simp only [get, Prog.bind_eq]
  refine lift_obeys (fun _ _ => ?_) fun _ => rfl
  refine Obeys.handle (read_record_obeys hread ?_)
  rintro m' e (rfl | ⟨event, rfl⟩)
  · rfl
  · exact hread event

/-- Abandoning an attempt never raises. -/
theorem abandon_obeys {closed : Bool} {item : R5SelectedAttempt} {reason : Arg PyStr}
    (hbegun : m.begun = true) :
    Obeys watch (allowed c) (fun _ attempt => ∃ record, attempt = .uncertain record) (fun _ _ => True) m
      (abandon closed item reason) := by
  refine Obeys.handle (Obeys.bind (mark_unknown_obeys.mono ?_ fun _ _ _ => ⟨_, rfl⟩))
  rintro _ _ rfl
  refine Obeys.bind ((get_obeys hbegun).mono ?_ fun _ _ _ => ⟨_, rfl⟩)
  rintro _ unknown rfl
  exact lift_obeys (fun record _ => ⟨record, rfl⟩) fun _ => ⟨_, rfl⟩

/-- What a completed attempt leaves. -/
def Completes (m : Monitor) (item : R5SelectedAttempt) (m' : Monitor) (record : R5BatchRecord)
    (outcome : String) : Prop :=
  ∃ digest reason, m' = { m with
      completed := (item.attempt_id, digest, outcome, reason) :: m.completed
      failed := m.failed || outcome == "failed" } ∧
    record = ⟨item.attempt_id, .COMPLETED, item.input_digest, some digest, some outcome, some reason⟩

/-- Completing an attempt with the record of the executor. -/
theorem complete_attempt_obeys {closed : Bool} {item : R5SelectedAttempt} {record : Arg R5ExecutionRecord}
    (hanswered : ∀ answer, record = .of answer → m.answered = some (item, answer)) :
    Obeys watch (allowed c) (fun m' attempt => ∃ record outcome,
        attempt = .completed record outcome ∧ Completes m item m' record outcome)
      (fun m' _ => m' = m) m (complete_attempt closed item record) := by
  cases record with
  | other => rfl
  | of record =>
    rw [complete_attempt]
    refine lift_obeys (fun _ hnamed => ?_) fun _ => rfl
    refine lift_obeys (fun classified hclassified => ?_) fun _ => rfl
    refine lift_obeys (fun digest hdigest => ?_) fun _ => rfl
    obtain ⟨hattempt, hinput⟩ := not_or.mp (raise_if_ok.mp hnamed)
    exact Obeys.bind (complete_obeys (hanswered record rfl)
      ⟨⟨rfl, not_not.mp hattempt⟩, not_not.mp hinput, hclassified, hdigest⟩
      ⟨_, _, rfl, digest, classified.2, rfl, rfl⟩ fun _ => rfl)

/-- Executing an attempt that may be executed. -/
theorem execute_attempt_obeys {closed : Bool} {item : R5SelectedAttempt} {worker : ℕ}
    (hmay : MayExecute c m item) (hbegun : m.begun = true) :
    Obeys watch (allowed c) (fun m' attempt => (∃ record, attempt = .uncertain record) ∨
        ∃ answered record outcome, attempt = .completed record outcome ∧
          Completes { m with held := none, answered := answered } item m' record outcome)
      (fun _ _ => True) m
      (execute_attempt closed item worker) := by
  refine ⟨hmay, fun answer => ?_⟩
  rcases answer with failure | record
  · cases failure with
    | r5_execution_error reason =>
      exact (abandon_obeys (m := { m with held := none, raised := true }) hbegun).mono
        (fun _ _ h => .inl h) fun _ _ h => h
    | exception =>
      exact (abandon_obeys (m := { m with held := none, raised := true }) hbegun).mono
        (fun _ _ h => .inl h) fun _ _ h => h
  -- an answer of the right type is remembered: the completion must be of it
  · have hanswer : ∃ answered, watch m (.attempt_executor item worker) (.ok record) =
        { m with held := none, answered := answered } ∧
        ∀ answer, record = .of answer → answered = some (item, answer) := by
      cases record with
      | of record => exact ⟨_, rfl, fun _ heq => by rw [Arg.of.inj heq]⟩
      | other => exact ⟨m.answered, rfl, fun _ heq => by cases heq⟩
    obtain ⟨answered, hwatch, hanswered⟩ := hanswer
    rw [hwatch]
    refine Obeys.handle ((complete_attempt_obeys hanswered).mono (fun _ _ h => .inr ⟨answered, h⟩) ?_)
    rintro _ _ rfl
    exact (abandon_obeys (m := { m with held := none, answered := answered }) hbegun).mono
      (fun _ _ h => .inl h) fun _ _ h => h

end Methods

/-! ### The loops -/

@[simp] theorem record_of_attempt_id (id : String) (event : Option EventRow) :
    (record_of id event).attempt_id = id := by
  cases event <;> rfl

/-- The dict of the records is the listing. -/
theorem find_record_listing (events : List (String × Option EventRow)) (id : String) :
    find_record (events.map fun p => record_of p.1 p.2) id =
      (events.reverse.lookup id).map (record_of id) := by
  rw [find_record, ← List.map_reverse]
  induction events.reverse with
  | nil => rfl
  | cons p rest ih =>
    rw [List.map_cons, List.find?_cons, List.lookup_cons, record_of_attempt_id]
    by_cases h : p.1 = id
    · subst h
      simp
    · have hne : (id == p.1) = false := beq_eq_false_iff_ne.mpr (Ne.symm h)
      simp [h, hne, ih]

/-- An attempt the listing has as failed. -/
def failing (existing : List R5AttemptRecord) (item : R5SelectedAttempt) : Bool :=
  (find_record existing item.attempt_id).any fun prior =>
    prior.state = .COMPLETED && prior.outcome = some "failed"

/-- **The review of a batch that goes on**: it knows whether a selected attempt
has failed, and without the opt-in none has. -/
theorem review_go {existing : List R5AttemptRecord} {continue_after_failed saw saw' : Bool}
    {items : List R5SelectedAttempt} {output : List R5BatchRecord}
    (h : review existing continue_after_failed items output saw = .ok (.go saw')) :
    (continue_after_failed = false → ∀ item ∈ items, failing existing item = false) ∧
      saw' = (saw || items.any (failing existing)) := by
  -- on the items: a failed row is passed only where the caller goes on after failures
  induction items generalizing output saw with
  | nil =>
    obtain rfl : saw = saw' := Review.go.inj (Except.ok.inj h)
    simp
  | cons item rest ih =>
    rw [review] at h
    rcases hprior : find_record existing item.attempt_id with _ | prior
    · simp [hprior] at h
    · have hfailing : failing existing item =
          (decide (prior.state = .COMPLETED) && decide (prior.outcome = some "failed")) := by
        rw [failing, hprior, Option.any_some]
      simp only [hprior] at h
      split_ifs at h with hcompleted hfailed hcontinue hspent hfresh
      · obtain ⟨-, h⟩ := raise_if_bind.mp h
        obtain ⟨record, -, h⟩ := bind_ok.mp h
        obtain ⟨hrest, hsaw⟩ := ih h
        refine ⟨fun hc => ?_, ?_⟩
        · rw [hcontinue] at hc
          cases hc
        · simp [hsaw, hfailing, hcompleted, hfailed]
      · obtain ⟨-, h⟩ := raise_if_bind.mp h
        obtain ⟨record, -, h⟩ := bind_ok.mp h
        cases h
      · obtain ⟨-, h⟩ := raise_if_bind.mp h
        obtain ⟨record, -, h⟩ := bind_ok.mp h
        obtain ⟨hrest, hsaw⟩ := ih h
        have hno : failing existing item = false := by simp [hfailing, hfailed]
        exact ⟨fun hc => List.forall_mem_cons.mpr ⟨hno, hrest hc⟩, by simp [hsaw, hno]⟩
      · obtain ⟨record, -, h⟩ := bind_ok.mp h
        cases h
      · obtain ⟨hrest, hsaw⟩ := ih h
        have hno : failing existing item = false := by simp [hfailing, hcompleted]
        exact ⟨fun hc => List.forall_mem_cons.mpr ⟨hno, hrest hc⟩, by simp [hsaw, hno]⟩

/-- A batch that stops at its review is not complete. -/
theorem review_stopped {existing : List R5AttemptRecord} {continue_after_failed saw : Bool}
    {items : List R5SelectedAttempt} {output : List R5BatchRecord} {result : R5BatchResult}
    (h : review existing continue_after_failed items output saw = .ok (.stopped result)) :
    result.status = .stopped_failed ∨ result.status = .stopped_unknown := by
  -- on the items: the review stops at a failed row or at one of unknown outcome
  induction items generalizing output saw with
  | nil => cases h
  | cons item rest ih =>
    rw [review] at h
    rcases hprior : find_record existing item.attempt_id with _ | prior
    · simp [hprior] at h
    · simp only [hprior] at h
      split_ifs at h with hcompleted hfailed hcontinue hspent hfresh
      · obtain ⟨-, h⟩ := raise_if_bind.mp h
        obtain ⟨record, -, h⟩ := bind_ok.mp h
        exact ih h
      · obtain ⟨-, h⟩ := raise_if_bind.mp h
        obtain ⟨record, -, h⟩ := bind_ok.mp h
        obtain rfl := Review.stopped.inj (Except.ok.inj h)
        exact .inl rfl
      · obtain ⟨-, h⟩ := raise_if_bind.mp h
        obtain ⟨record, -, h⟩ := bind_ok.mp h
        exact ih h
      · obtain ⟨record, -, h⟩ := bind_ok.mp h
        obtain rfl := Review.stopped.inj (Except.ok.inj h)
        exact .inr rfl
      · exact ih h

/-- A record of an attempt the call found completed, or completed itself. -/
def Recorded (m : Monitor) (record : R5BatchRecord) : Prop :=
  record.state = .COMPLETED ∧
    ((∃ e, (record.attempt_id, some e) ∈ m.listing ∧ e.state = EventState.COMPLETED ∧
        e.result_digest = record.result_digest ∧ e.outcome = record.outcome ∧
        e.reason_code = record.reason_code) ∨
      ∃ digest outcome reason, (record.attempt_id, digest, outcome, reason) ∈ m.completed ∧
        record.result_digest = some digest ∧ record.outcome = some outcome ∧
        record.reason_code = some reason)

theorem Recorded.mono {m m' : Monitor} {record : R5BatchRecord} (h : Recorded m record)
    (hlisting : m'.listing = m.listing) (hcompleted : m.completed ⊆ m'.completed) :
    Recorded m' record := by
  obtain ⟨hstate, h | ⟨digest, outcome, reason, hmem, h⟩⟩ := h
  · exact ⟨hstate, .inl (hlisting ▸ h)⟩
  · exact ⟨hstate, .inr ⟨digest, outcome, reason, hcompleted hmem, h⟩⟩

/-- What a batch that returns as complete has established. -/
def Finished (m : Monitor) (attempt_ids : List String) (result : R5BatchResult) : Prop :=
  result.status = .complete ∨ result.status = .complete_with_failures →
    result.records.map R5BatchRecord.attempt_id = attempt_ids ∧
    (∀ record ∈ result.records, Recorded m record) ∧
    (result.status = .complete ↔ ∀ record ∈ result.records, record.outcome ≠ some "failed")

/-- Where the loop over the attempts stands. -/
structure Standing (m : Monitor) (existing : List R5AttemptRecord) (continue_after_failed : Bool)
    (items : List R5SelectedAttempt) (output : List R5BatchRecord) (saw_failure : Bool) : Prop where
  raised : m.raised = false
  failed : continue_after_failed = false → m.failed = false
  listed : ∀ id, find_record existing id = (m.listing.lookup id).map (record_of id)
  recorded : ∀ record ∈ output, Recorded m record
  saw : saw_failure = true ↔
    (∃ record ∈ output, record.outcome = some "failed") ∨ ∃ item ∈ items, failing existing item = true

section Loops

variable {c : Call} {selected : List R5SelectedAttempt} {continue_after_failed : Bool}
  {existing : List R5AttemptRecord}

/-- A completed row of the listing, as the record the runner returns. -/
theorem Standing.prior {m : Monitor} {items : List R5SelectedAttempt} {output : List R5BatchRecord}
    {saw : Bool} (h : Standing m existing continue_after_failed items output saw)
    {item : R5SelectedAttempt} {prior : R5AttemptRecord} {record : R5BatchRecord}
    (hprior : find_record existing item.attempt_id = some prior) (hcompleted : prior.state = .COMPLETED)
    (hrecord : batch_record prior = .ok record) :
    record.attempt_id = item.attempt_id ∧ Recorded m record ∧
      (record.outcome = some "failed" ↔ failing existing item = true) := by
  have hlisted := h.listed item.attempt_id
  rw [hprior] at hlisted
  obtain ⟨event, hlookup, hof⟩ := Option.map_eq_some_iff.mp hlisted.symm
  rcases event with _ | e
  · subst hof
    cases hcompleted
  -- only a last event that completed is listed as completed
  · have hstate : e.state = .COMPLETED := by
      subst hof
      rcases he : e.state with _ | _ | _
      · simp [record_of, he] at hcompleted
      · rfl
      · simp [record_of, he] at hcompleted
    have hbatch : record = ⟨item.attempt_id, .COMPLETED, e.input_digest, e.result_digest, e.outcome,
        e.reason_code⟩ := by
      subst hof
      simp only [record_of, hstate, batch_record, Except.ok.injEq] at hrecord
      exact hrecord.symm
    subst hbatch
    refine ⟨rfl, ⟨rfl, .inl ⟨e, mem_of_lookup hlookup, hstate, rfl, rfl, rfl⟩⟩, ?_⟩
    subst hof
    simp [failing, hprior, record_of, hstate]

/-- A failed row of the listing is a failed event. -/
theorem Standing.failing_event {m : Monitor} {items : List R5SelectedAttempt}
    {output : List R5BatchRecord} {saw : Bool}
    (h : Standing m existing continue_after_failed items output saw) {item : R5SelectedAttempt}
    {event : Option EventRow} (hlookup : m.listing.lookup item.attempt_id = some event) :
    failing existing item = failed_event event := by
  rw [failing, h.listed, hlookup]
  rcases event with _ | e
  · rfl
  · rcases he : e.state with _ | _ | _ <;> simp [record_of, failed_event, he]

/-- The next attempt of the loop may be executed once it is claimed. -/
theorem Standing.may_execute {m : Monitor} {items : List R5SelectedAttempt}
    {output : List R5BatchRecord} {saw : Bool}
    (h : Standing m existing continue_after_failed items output saw)
    (hselection : c.selection = .ok (selected, continue_after_failed))
    (hclean : continue_after_failed = false → ∀ item ∈ selected, failing existing item = false)
    {item : R5SelectedAttempt} (hitem : item ∈ selected) :
    MayExecute c { m with begun := true, held := some (item.attempt_id, item.input_digest) } item := by
  refine ⟨⟨selected, continue_after_failed, hselection, hitem⟩, rfl, h.raised,
    fun selected' hselection' => ?_⟩
  rw [hselection] at hselection'
  obtain ⟨rfl, hcontinue⟩ := Prod.mk.inj (Except.ok.inj hselection')
  refine ⟨h.failed hcontinue, fun other hother event hlookup => ?_⟩
  rw [← h.failing_event hlookup]
  exact hclean hcontinue other hother

/-- The loop after an attempt whose row was completed already. -/
theorem Standing.skip {m : Monitor} {item : R5SelectedAttempt} {rest : List R5SelectedAttempt}
    {output : List R5BatchRecord} {saw : Bool} {record : R5BatchRecord}
    (h : Standing m existing continue_after_failed (item :: rest) output saw)
    (hrecorded : Recorded m record)
    (hfailing : record.outcome = some "failed" ↔ failing existing item = true) :
    Standing m existing continue_after_failed rest (output ++ [record]) saw := by
  refine ⟨h.raised, h.failed, h.listed, ?_, ?_⟩
  · intro r hr
    rcases List.mem_append.mp hr with hr | hr
    · exact h.recorded r hr
    · obtain rfl := List.mem_singleton.mp hr
      exact hrecorded
  · rw [h.saw, List.exists_mem_cons_iff, ← hfailing]
    simp only [List.mem_append, List.mem_singleton, or_and_right, exists_or, exists_eq_left, or_assoc]

/-- The loop after an attempt it completed. -/
theorem Standing.complete {m m' : Monitor} {item : R5SelectedAttempt} {rest : List R5SelectedAttempt}
    {output : List R5BatchRecord} {saw : Bool} {record : R5BatchRecord} {outcome : String}
    {begun : Bool} {held : Option (String × String)}
    {answered : Option (R5SelectedAttempt × R5ExecutionRecord)}
    (h : Standing m existing continue_after_failed (item :: rest) output saw)
    (hpending : failing existing item = false)
    (hcompletes : Completes { m with begun := begun, held := held, answered := answered } item m' record
      outcome)
    (hgo : ¬ (outcome = "failed" ∧ continue_after_failed = false)) :
    Standing m' existing continue_after_failed rest (output ++ [record]) (saw || outcome == "failed") := by
  obtain ⟨digest, reason, rfl, rfl⟩ := hcompletes
  refine ⟨h.raised, fun hcontinue => ?_, h.listed, ?_, ?_⟩
  · have hne : outcome ≠ "failed" := fun heq => hgo ⟨heq, hcontinue⟩
    simp [h.failed hcontinue, hne]
  · intro r hr
    rcases List.mem_append.mp hr with hr | hr
    · exact (h.recorded r hr).mono rfl (List.subset_cons_self _ _)
    · obtain rfl := List.mem_singleton.mp hr
      exact ⟨rfl, .inr ⟨digest, outcome, reason, List.mem_cons_self, rfl, rfl, rfl⟩⟩
  · rw [Bool.or_eq_true, h.saw, List.exists_mem_cons_iff, hpending]
    simp only [Bool.false_eq_true, false_or, List.mem_append, List.mem_singleton, or_and_right,
      exists_or, exists_eq_left, beq_iff_eq, Option.some.injEq]
    grind

/-- **The loop over the attempts**: every executor runs when it may, and a batch
that returns as complete has a record of every attempt. -/
theorem run_attempts_obeys {m : Monitor} {closed : Bool} {items : List R5SelectedAttempt}
    {output : List R5BatchRecord} {seen : List ℕ} {saw : Bool}
    (hselection : c.selection = .ok (selected, continue_after_failed))
    (hclean : continue_after_failed = false → ∀ item ∈ selected, failing existing item = false)
    (hitems : items ⊆ selected) (h : Standing m existing continue_after_failed items output saw) :
    Obeys watch (allowed c)
      (fun m' result => Finished m'
        (output.map R5BatchRecord.attempt_id ++ items.map R5SelectedAttempt.attempt_id) result)
      (fun _ _ => True) m (run_attempts existing closed continue_after_failed items output seen saw) := by
  -- on the attempts that are left; `Standing` is what the monitor knows of those before
  induction items generalizing m output seen saw with
  | nil =>
    intro hstatus
    refine ⟨by simp, h.recorded, ?_⟩
    have hsaw := h.saw
    cases saw with
    | true => simpa using hsaw
    | false => simpa using hsaw
  | cons item rest ih =>
    obtain ⟨hitem, hrest⟩ := List.cons_subset.mp hitems
    rw [run_attempts]
    rcases hprior : find_record existing item.attempt_id with _ | prior
    · trivial
    · by_cases hcompleted : prior.state = .COMPLETED
      · simp only [hcompleted, if_true]
        refine lift_obeys (fun record hrecord => ?_) fun _ => trivial
        obtain ⟨hid, hrecorded, hfailing⟩ := h.prior hprior hcompleted hrecord
        have hskip := h.skip hrecorded hfailing
        refine (ih hrest hskip).mono (fun m' result hresult => ?_) fun _ _ hx => hx
        simpa [hid] using hresult
      · have hpending : failing existing item = false := by simp [failing, hprior, hcompleted]
        simp only [hcompleted, if_false]
        refine ⟨trivial, fun answer => ?_⟩
        rcases answer with e | (worker | _)
        · exact fun hstatus => by simp at hstatus
        · by_cases hseen : worker ∈ seen
          · simp only [Prog.ret_bind, hseen, if_true]
            exact fun hstatus => by simp at hstatus
          · simp only [Prog.ret_bind, hseen, if_false]
            refine Obeys.bind (claim_obeys ?_ fun _ => trivial)
            refine Obeys.bind ((execute_attempt_obeys
              (h.may_execute hselection hclean hitem) rfl).mono ?_ fun _ _ hx => hx)
            rintro m' attempt (⟨record, rfl⟩ | ⟨_, record, outcome, rfl, hcompletes⟩)
            · exact fun hstatus => by simp at hstatus
            · by_cases hstop : outcome = "failed" ∧ continue_after_failed = false
              · simp only [hstop, if_true, and_self]
                exact fun hstatus => by simp at hstatus
              · simp only [hstop, if_false]
                -- a completion does not unmark the beginning
                have hbegun : m'.begun = true := by
                  obtain ⟨digest, reason, rfl, -⟩ := hcompletes
                  rfl
                have hnext := h.complete hpending hcompletes hstop
                refine Obeys.bind ((get_obeys hbegun).mono ?_ fun _ _ _ => trivial)
                rintro _ _ rfl
                refine (ih hrest hnext).mono (fun m'' result hresult => ?_) fun _ _ hx => hx
                obtain ⟨digest, reason, -, rfl⟩ := hcompletes
                simpa using hresult
        · exact fun hstatus => by simp at hstatus

end Loops

/-- What a call that returns has established. -/
def Returned (c : Call) (m : Monitor) (result : R5BatchResult) : Prop :=
  ∃ selected continue_after_failed, c.selection = .ok (selected, continue_after_failed) ∧
    Finished m (selected.map R5SelectedAttempt.attempt_id) result

/-- The `try` of the runner. -/
theorem run_batch_obeys (c : Call) :
    Obeys watch (allowed c) (Returned c) (fun _ _ => True) Monitor.start (run_batch c) := by
  refine lift_obeys (fun selection hselection => ?_) fun _ => trivial
  obtain ⟨selected, continue_after_failed⟩ := selection
  refine Obeys.bind ((records_obeys rfl).mono ?_ fun _ _ _ => trivial)
  rintro m existing ⟨events, rfl, rfl⟩
  refine lift_obeys (fun _ _ => ?_) fun _ => trivial
  refine lift_obeys (fun reviewed hreview => ?_) fun _ => trivial
  cases reviewed with
  | stopped result =>
    refine ⟨selected, continue_after_failed, hselection, fun hstatus => ?_⟩
    rcases review_stopped hreview with h | h <;> rw [h] at hstatus <;> simp at hstatus
  | go saw =>
    obtain ⟨hclean, hsaw⟩ := review_go hreview
    refine lift_obeys (fun _ _ => ?_) fun _ => trivial
    refine (run_attempts_obeys hselection hclean (List.Subset.refl _) ⟨rfl, fun _ => rfl, fun id => ?_, by simp, ?_⟩).mono
      (fun m' result h => ⟨selected, continue_after_failed, hselection, by simpa using h⟩)
      fun _ _ h => h
    · rw [find_record_listing, Monitor.start, List.append_nil]
    · simp [hsaw]

/-- **What a call does**: its transactions are lawful, an executor runs only when
it may, and a complete result has a record of every selected attempt. -/
theorem body_obeys (c : Call) : Obeys watch (allowed c) (Returned c) (fun _ _ => True) Monitor.start
    (run_first_five_r5_attempts c) := by
  refine Obeys.handle ((run_batch_obeys c).mono (fun _ _ h => h) fun m e _ => ?_)
  by_cases he : e.cls = .R5BatchRunnerError
  · rw [if_pos he]
    trivial
  · rw [if_neg he]
    trivial

/-! ## Runs -/

/-- The world of a ledger nobody has executed an attempt of. -/
def World.start (db : Db) : World := ⟨db, []⟩

/-- What the others may do to a ledger. -/
def Grows (w w' : World) : Prop := R5AttemptLedger.Appends w.db w'.db

/-- A lawful transaction keeps the ledger sound. -/
theorem lawful_sound {db db' : Db} {op : R5AttemptLedger.Op} {r : R5AttemptLedger.Res op}
    (hI : R5AttemptLedger.Sound db) (hop : Lawful op) (h : R5AttemptLedger.sem db op r db') :
    R5AttemptLedger.Sound db' ∧ R5AttemptLedger.Appends db db' := by
  rcases h with h | ⟨-, rfl⟩
  · cases op with
    | claim id digest => exact R5AttemptLedger.sound_claim hI id hop h
    | transition id state digest outcome reason =>
      exact R5AttemptLedger.sound_transition hI id hop.1 hop.2 h
    | extend additions => cases hop
    | read_user_version => exact (Prod.mk.inj h).2 ▸ ⟨hI, R5AttemptLedger.Appends.refl db⟩
    | read_meta => exact (Prod.mk.inj h).2 ▸ ⟨hI, R5AttemptLedger.Appends.refl db⟩
    | read_attempts => exact (Prod.mk.inj h).2 ▸ ⟨hI, R5AttemptLedger.Appends.refl db⟩
    | read_attempt id => exact (Prod.mk.inj h).2 ▸ ⟨hI, R5AttemptLedger.Appends.refl db⟩
    | read_events id => exact (Prod.mk.inj h).2 ▸ ⟨hI, R5AttemptLedger.Appends.refl db⟩
  · exact ⟨hI, R5AttemptLedger.Appends.refl _⟩

/-- What an allowed operation does to the world. -/
theorem allowed_sound {c : Call} {m : Monitor} {w w' : World} {op : Op} {r : op.Res}
    (hI : R5AttemptLedger.Sound w.db) (hop : allowed c m op) (h : sem w op r w') :
    R5AttemptLedger.Sound w'.db ∧ Grows w w' := by
  cases h with
  | ledger _ op r db h => exact lawful_sound hI hop.1 h
  | read_failed _ op e _ => exact ⟨hI, R5AttemptLedger.Appends.refl _⟩
  | worker_factory _ item r => exact ⟨hI, R5AttemptLedger.Appends.refl _⟩
  | attempt_executor _ item worker r => exact ⟨hI, R5AttemptLedger.Appends.refl _⟩

/-- A recorded end stays. -/
theorem Grows.ended {w w' : World} (hgo : Relation.ReflTransGen Grows w w')
    (hI : R5AttemptLedger.Sound w'.db) {id : String} {e last : EventRow}
    (h : w.db.history id = [e, last]) : w'.db.history id = [e, last] := by
  have hgrown_events : w.db.events <+: w'.db.events := by
    clear hI h
    induction hgo with
    | refl => exact List.prefix_rfl
    | tail _ hs ih => exact ih.trans hs.1
  have hhistory : w.db.history id <+: w'.db.history id := hgrown_events.filter _
  rw [h] at hhistory
  have hlen := (hI.lifecycles id).length_le
  exact (hhistory.eq_of_length (Nat.le_antisymm hhistory.length_le hlen)).symm

/-- The last event of an ended attempt is the second. -/
theorem ended_history {db : Db} (hI : R5AttemptLedger.Sound db) {id : String} {last : EventRow}
    (hlast : (db.history id).getLast? = some last) (hstate : last.state ≠ .CLAIMED) :
    ∃ e, db.history id = [e, last] := by
  rcases R5AttemptLedger.Lifecycle.four (hI.lifecycles id) with h | ⟨e, h, he⟩ | ⟨e, l, h, -⟩ | ⟨e, l, h, -⟩
  · rw [h] at hlast
    cases hlast
  · rw [h] at hlast
    obtain rfl := Option.some.inj hlast
    exact absurd he hstate
  · rw [h] at hlast
    obtain rfl := Option.some.inj hlast
    exact ⟨e, h⟩
  · rw [h] at hlast
    obtain rfl := Option.some.inj hlast
    exact ⟨e, h⟩

/-! ### Tokens: a claim pays for one execution -/

/-- The tokens an operation earns: a committed claim of the attempt. -/
def gain (id : String) : (op : Op) → op.Res → ℕ
  | .ledger (.claim id' _), .ok R5AttemptLedger.Outcome.committed => if id' = id then 1 else 0
  | _, _ => 0

/-- The tokens an operation costs: an execution of the attempt. -/
def cost (id : String) : (op : Op) → op.Res → ℕ
  | .attempt_executor item _, _ => if item.attempt_id = id then 1 else 0
  | _, _ => 0

/-- A call holds a token for the attempt it claimed and has not executed. -/
def wallet (id : String) (m : Monitor) : ℕ := if m.held.any (·.1 = id) then 1 else 0

/-- Only a claim changes what is held before an execution. -/
theorem wallet_ledger (id : String) (m : Monitor) (op : R5AttemptLedger.Op)
    (r : Except Exn (R5AttemptLedger.Res op)) :
    wallet id (watch m (.ledger op) r) ≤ wallet id m + gain id (.ledger op) r := by
  rcases r with e | r
  · rw [watch_error]
    omega
  · cases op with
    -- only a committed claim puts an attempt into the hand
    | claim id' digest =>
      cases r with
      | committed =>
        have hgain : gain id (.ledger (.claim id' digest)) (.ok R5AttemptLedger.Outcome.committed) =
            if id' = id then 1 else 0 := rfl
        have hwallet : wallet id (watch m (.ledger (.claim id' digest))
            (.ok R5AttemptLedger.Outcome.committed)) = if id' = id then 1 else 0 := by
          simp [wallet, watch]
        omega
      | unavailable => exact Nat.le_add_right _ _
      | failed => exact Nat.le_add_right _ _
    | transition id' state digest outcome reason =>
      have hheld : (watch m (.ledger (.transition id' state digest outcome reason)) (.ok r)).held = m.held := by
        cases r <;> cases state <;> cases digest <;> cases outcome <;> rfl
      rw [wallet, wallet, hheld]
      omega
    | read_events id' =>
      have hheld : (watch m (.ledger (.read_events id')) (.ok r)).held = m.held := by
        show (if m.begun then m else { m with listing := _ :: m.listing }).held = m.held
        split_ifs <;> rfl
      rw [wallet, wallet, hheld]
      omega
    | _ => exact Nat.le_add_right _ _

/-- **Every call can pay** for its executions with its claims. -/
theorem body_paid (id : String) (c : Call) :
    Paid (gain id) (cost id) 0 (run_first_five_r5_attempts c) := by
  suffices hpay : ∀ m op, allowed c m op → ∀ r, cost id op r ≤ wallet id m + gain id op r ∧
      wallet id (watch m op r) ≤ wallet id m + gain id op r - cost id op r from
    Obeys.paid hpay (body_obeys c)
  intro m op hop r
  cases op with
  | ledger op =>
    have hcost : cost id (.ledger op) r = 0 := rfl
    have := wallet_ledger id m op r
    omega
  | worker_factory item => exact ⟨Nat.zero_le _, Nat.le_refl _⟩
  | attempt_executor item worker =>
    have hcost : cost id (.attempt_executor item worker) r =
        if item.attempt_id = id then 1 else 0 := rfl
    have hwallet : wallet id m = if item.attempt_id = id then 1 else 0 := by
      rw [wallet, hop.2.1]
      simp
    have hspent : wallet id (watch m (.attempt_executor item worker) r) = 0 := by
      rcases r with failure | (record | _) <;> rfl
    omega

/-- The executions of an attempt. -/
def executions (id : String) (w : World) : ℕ := w.executed.countP (· = id)

/-- The claims of an attempt. -/
def claims (id : String) (w : World) : ℕ := w.db.claimed.countP (· = id)

/-- What an operation adds to the claims and to the executions of an attempt. -/
theorem sem_counts (id : String) {w w' : World} {op : Op} {r : op.Res} (h : sem w op r w') :
    executions id w' ≤ executions id w + cost id op r ∧
      claims id w + gain id op r ≤ claims id w' := by
  cases h with
  | ledger _ op r db h =>
    refine ⟨Nat.le_refl _, ?_⟩
    show w.db.claimed.countP (· = id) + gain id (.ledger op) (.ok r) ≤ db.claimed.countP (· = id)
    rw [R5AttemptLedger.sem_claims h, List.countP_append]
    cases op with
    | claim id' digest =>
      cases r with
      | committed =>
        simp [gain, R5AttemptLedger.committed, R5AttemptLedger.Op.claims, List.countP_singleton]
      | unavailable => exact Nat.le_add_right _ _
      | failed => exact Nat.le_add_right _ _
    | _ => exact Nat.le_add_right _ _
  | read_failed _ op e hread => cases op <;> exact ⟨Nat.le_refl _, Nat.le_refl _⟩
  | worker_factory _ item r => exact ⟨Nat.le_refl _, Nat.le_refl _⟩
  | attempt_executor _ item worker r =>
    refine ⟨?_, Nat.le_refl _⟩
    show (w.executed ++ [item.attempt_id]).countP (· = id) ≤ _
    rw [List.countP_append]
    simp [cost, executions, List.countP_singleton]

section Runs

variable {cfg₀ : Config R5AttemptLedger.Call R5AttemptLedger.Op R5AttemptLedger.Res Exn Unit Db}
  {cfg : Config Call Op Op.Res Exn R5BatchResult World}

/-- Every run that starts on a ledger keeps it sound, and only appends to it. -/
theorem run_sound (h₀ : R5AttemptLedger.Run cfg₀)
    (h : Reachable run_first_five_r5_attempts sem (World.start cfg₀.shared) cfg) :
    R5AttemptLedger.Sound cfg.shared.db ∧ ∀ t ∈ cfg.pool, ∀ e ∈ t.past,
      R5AttemptLedger.Sound e.before.db ∧ R5AttemptLedger.Sound e.after.db ∧
        Relation.ReflTransGen Grows e.after cfg.shared :=
  h.allowed_since (I := fun w => R5AttemptLedger.Sound w.db) (R5AttemptLedger.run_safe h₀).1
    body_obeys fun _ _ _ _ _ _ hI hop hsem => allowed_sound hI hop hsem

/-- An executed operation of a batch. -/
abbrev Executed : Type := Record Op Op.Res World

/-- The operation committed the claim of an attempt. -/
def Executed.Claimed (e : Executed) (id digest : String) : Prop :=
  ∃ before after, e = ⟨.ledger (.claim id digest), .ok R5AttemptLedger.Outcome.committed, before, after⟩

/-- The operation was an executor that raised. -/
def Executed.Raised (e : Executed) : Prop :=
  ∃ item worker failure before after, e = ⟨.attempt_executor item worker, .error failure, before, after⟩

/-- The operation was an executor that returned a record. -/
def Executed.Answered (e : Executed) (item : R5SelectedAttempt) (record : R5ExecutionRecord) : Prop :=
  ∃ worker before after, e = ⟨.attempt_executor item worker, .ok (.of record), before, after⟩

/-- The operation committed the completion of an attempt. -/
def Executed.Completed (e : Executed) (id digest outcome reason : String) : Prop :=
  ∃ before after, e = ⟨.ledger (.transition id .COMPLETED (some digest) (some outcome) reason),
    .ok R5AttemptLedger.Outcome.committed, before, after⟩

/-- The operation read the last event of an attempt. -/
def Executed.Read (e : Executed) (id : String) (event : Option EventRow) : Prop :=
  ∃ events before after, e = ⟨.ledger (.read_events id), .ok events, before, after⟩ ∧
    List.getLast? events = event

/-- What a call knows after some of its operations. -/
def known (past : List Executed) : Monitor := past.foldl (fun m e => watch m e.op e.res) Monitor.start

/-- What one more operation can add to what a call knows. -/
theorem watch_cases (m : Monitor) (e : Executed) :
    watch m e.op e.res = m ∨
    (∃ id event, e.Read id event ∧ watch m e.op e.res = { m with listing := (id, event) :: m.listing }) ∨
    (∃ id digest, e.Claimed id digest ∧
      watch m e.op e.res = { m with begun := true, held := some (id, digest) }) ∨
    (∃ id digest outcome reason, e.Completed id digest outcome reason ∧ watch m e.op e.res =
      { m with completed := (id, digest, outcome, reason) :: m.completed
               failed := m.failed || outcome == "failed" }) ∨
    (e.Raised ∧ watch m e.op e.res = { m with held := none, raised := true }) ∨
    ∃ answered, watch m e.op e.res = { m with held := none, answered := answered } ∧
      (answered = m.answered ∨ ∃ item record, answered = some (item, record) ∧ e.Answered item record) := by
  obtain ⟨op, r, before, after⟩ := e
  cases op with
  | ledger op =>
    rcases r with x | r
    · exact .inl (watch_error m op x)
    · cases op with
      | claim id digest =>
        cases r with
        | committed => exact .inr (.inr (.inl ⟨id, digest, ⟨before, after, rfl⟩, rfl⟩))
        | unavailable => exact .inl rfl
        | failed => exact .inl rfl
      | transition id state digest outcome reason =>
        by_cases hr : r = R5AttemptLedger.Outcome.committed
        · subst hr
          cases state with
          | COMPLETED =>
            rcases digest with _ | digest
            · exact .inl rfl
            · rcases outcome with _ | outcome
              · exact .inl rfl
              · exact .inr (.inr (.inr (.inl ⟨id, digest, outcome, reason, ⟨before, after, rfl⟩, rfl⟩)))
          | CLAIMED => exact .inl rfl
          | UNKNOWN => exact .inl rfl
        · exact .inl (watch_refused m id state digest outcome reason hr)
      | read_events id =>
        by_cases hbegun : m.begun = true
        · exact .inl (if_pos hbegun)
        · exact .inr (.inl ⟨id, _, ⟨r, before, after, rfl, rfl⟩, if_neg hbegun⟩)
      | _ => exact .inl rfl
  -- the factory is not watched: it may do as it likes
  | worker_factory item => exact .inl rfl
  | attempt_executor item worker =>
    rcases r with failure | (record | _)
    · exact .inr (.inr (.inr (.inr (.inl ⟨⟨item, worker, failure, before, after, rfl⟩, rfl⟩))))
    · exact .inr (.inr (.inr (.inr (.inr ⟨_, rfl, .inr ⟨item, record, rfl, worker, before, after, rfl⟩⟩))))
    · exact .inr (.inr (.inr (.inr (.inr ⟨m.answered, rfl, .inl rfl⟩))))

theorem known_held {past : List Executed} {id digest : String}
    (h : (known past).held = some (id, digest)) : ∃ e ∈ past, e.Claimed id digest := by
  have hstep : ∀ (m : Monitor) (e : Executed), (watch m e.op e.res).held = some (id, digest) →
      m.held = some (id, digest) ∨ e.Claimed id digest := by
    intro m e he
    rcases watch_cases m e with h | ⟨_, _, -, h⟩ | ⟨i, d, hc, h⟩ | ⟨_, _, _, _, -, h⟩ | ⟨-, h⟩ | ⟨_, h, -⟩ <;>
      rw [h] at he
    · exact .inl he
    · exact .inl he
    · obtain ⟨rfl, rfl⟩ := Prod.mk.inj (Option.some.inj he)
      exact .inr hc
    · exact .inl he
    · cases he
    · cases he
  exact (exists_of_foldl (Φ := fun m : Monitor => m.held = some (id, digest)) hstep h).resolve_left
    (by simp [Monitor.start])

theorem known_listing {past : List Executed} {id : String} {event : Option EventRow}
    (h : (id, event) ∈ (known past).listing) : ∃ e ∈ past, e.Read id event := by
  have hstep : ∀ (m : Monitor) (e : Executed), (id, event) ∈ (watch m e.op e.res).listing →
      (id, event) ∈ m.listing ∨ e.Read id event := by
    intro m e he
    rcases watch_cases m e with h | ⟨i, ev, hr, h⟩ | ⟨_, _, -, h⟩ | ⟨_, _, _, _, -, h⟩ | ⟨-, h⟩ | ⟨_, h, -⟩ <;>
      rw [h] at he
    · exact .inl he
    · rcases List.mem_cons.mp he with heq | he
      · obtain ⟨rfl, rfl⟩ := Prod.mk.inj heq
        exact .inr hr
      · exact .inl he
    all_goals exact .inl he
  exact (exists_of_foldl (Φ := fun m : Monitor => (id, event) ∈ m.listing) hstep h).resolve_left
    (by simp [Monitor.start])

theorem known_completed {past : List Executed} {id digest outcome reason : String}
    (h : (id, digest, outcome, reason) ∈ (known past).completed) :
    ∃ e ∈ past, e.Completed id digest outcome reason := by
  have hstep : ∀ (m : Monitor) (e : Executed),
      (id, digest, outcome, reason) ∈ (watch m e.op e.res).completed →
      (id, digest, outcome, reason) ∈ m.completed ∨ e.Completed id digest outcome reason := by
    intro m e he
    rcases watch_cases m e with h | ⟨_, _, -, h⟩ | ⟨_, _, -, h⟩ | ⟨i, d, o, r, hc, h⟩ | ⟨-, h⟩ | ⟨_, h, -⟩ <;>
      rw [h] at he
    · exact .inl he
    · exact .inl he
    · exact .inl he
    · rcases List.mem_cons.mp he with heq | he
      · simp only [Prod.mk.injEq] at heq
        obtain ⟨rfl, rfl, rfl, rfl⟩ := heq
        exact .inr hc
      · exact .inl he
    · exact .inl he
    · exact .inl he
  exact (exists_of_foldl (Φ := fun m : Monitor => (id, digest, outcome, reason) ∈ m.completed)
    hstep h).resolve_left (by simp [Monitor.start])

/-- What a call knows of an executor's record, the executor has returned. -/
theorem known_answered {past : List Executed} {item : R5SelectedAttempt} {record : R5ExecutionRecord}
    (h : (known past).answered = some (item, record)) : ∃ e ∈ past, e.Answered item record := by
  have hstep : ∀ (m : Monitor) (e : Executed), (watch m e.op e.res).answered = some (item, record) →
      m.answered = some (item, record) ∨ e.Answered item record := by
    intro m e he
    rcases watch_cases m e with h | ⟨_, _, -, h⟩ | ⟨_, _, -, h⟩ | ⟨_, _, _, _, -, h⟩ | ⟨-, h⟩ |
      ⟨answered, h, hnew⟩ <;> rw [h] at he
    all_goals try exact .inl he
    rcases hnew with rfl | ⟨item', record', rfl, hanswered⟩
    · exact .inl he
    · obtain ⟨rfl, rfl⟩ := Prod.mk.inj (Option.some.inj he)
      exact .inr hanswered
  exact (exists_of_foldl (Φ := fun m : Monitor => m.answered = some (item, record)) hstep h).resolve_left
    (by simp [Monitor.start])

/-- A call never forgets that its executor raised. -/
theorem known_raised {past : List Executed} {e : Executed} (he : e ∈ past) (hraised : e.Raised) :
    (known past).raised = true := by
  refine foldl_of_mem (Φ := fun m : Monitor => m.raised = true) (Ψ := Executed.Raised) ?_ ?_ he hraised _
  · intro m e hm
    rcases watch_cases m e with h | ⟨_, _, -, h⟩ | ⟨_, _, -, h⟩ | ⟨_, _, _, _, -, h⟩ | ⟨-, h⟩ | ⟨_, h, -⟩ <;>
      rw [h] <;> exact hm
  · rintro m _ ⟨item, worker, failure, before, after, rfl⟩
    rfl

/-- A call never forgets that it recorded a failure. -/
theorem known_failed {past : List Executed} {e : Executed} {id digest reason : String} (he : e ∈ past)
    (hfailed : e.Completed id digest "failed" reason) : (known past).failed = true := by
  refine foldl_of_mem (Φ := fun m : Monitor => m.failed = true)
    (Ψ := fun e => Executed.Completed e id digest "failed" reason) ?_ ?_ he hfailed _
  · intro m e hm
    rcases watch_cases m e with h | ⟨_, _, -, h⟩ | ⟨_, _, -, h⟩ | ⟨_, _, _, _, -, h⟩ | ⟨-, h⟩ | ⟨_, h, -⟩ <;>
      rw [h]
    all_goals first | exact hm | simp [hm]
  · rintro m _ ⟨before, after, rfl⟩
    simp [watch]

/-! ### What the operations leave in the ledger -/

theorem sem_ledger {w w' : World} {op : R5AttemptLedger.Op} {r : R5AttemptLedger.Res op}
    (h : sem w (.ledger op) (.ok r) w') : R5AttemptLedger.sem w.db op r w'.db := by
  generalize hr : (Except.ok r : Except Exn (R5AttemptLedger.Res op)) = x at h
  cases h with
  | ledger _ op r' db h =>
    obtain rfl := Except.ok.inj hr
    exact h
  | read_failed _ op e _ => cases hr

/-- An event that was inserted. -/
theorem insert_committed {db db' : Db} {row : EventRow}
    (h : db.insert_event row = (R5AttemptLedger.Outcome.committed, db')) :
    ∃ n, db'.history row.attempt_id = db.history row.attempt_id ++ [{ row with event_id := n }] := by
  unfold Db.insert_event at h
  split_ifs at h
  · obtain ⟨-, rfl⟩ := Prod.mk.inj h
    refine ⟨db.events.length + 1, ?_⟩
    rw [R5AttemptLedger.history_append, if_pos rfl]
  · cases h

/-- A committed claim is the only event of its attempt. -/
theorem Executed.Claimed.event {e : Executed} {id digest : String} (hclaim : e.Claimed id digest)
    (h : sem e.before e.op e.res e.after) :
    ∃ event, e.after.db.history id = [event] ∧ event.state = .CLAIMED ∧ event.input_digest = digest := by
  obtain ⟨before, after, rfl⟩ := hclaim
  rcases sem_ledger h with h | ⟨h, -⟩
  · simp only [R5AttemptLedger.answer, Db.claim] at h
    split_ifs at h with hc
    · cases h
    · simp only [not_or, not_not, List.getLast?_eq_none_iff] at hc
      obtain ⟨n, hhistory⟩ := insert_committed h
      rw [hc.2, List.nil_append] at hhistory
      exact ⟨_, hhistory, rfl, rfl⟩
  · cases h

/-- A committed completion ends its attempt. -/
theorem Executed.Completed.event {e : Executed} {id digest outcome reason : String}
    (hcompleted : e.Completed id digest outcome reason) (h : sem e.before e.op e.res e.after)
    (hI : R5AttemptLedger.Sound e.after.db) :
    ∃ first last, e.after.db.history id = [first, last] ∧ last.state = .COMPLETED ∧
      last.result_digest = some digest ∧ last.outcome = some outcome ∧ last.reason_code = some reason := by
  obtain ⟨before, after, rfl⟩ := hcompleted
  rcases sem_ledger h with h | ⟨h, -⟩
  · simp only [R5AttemptLedger.answer, Db.transition] at h
    split at h
    · cases h
    · split_ifs at h
      · cases h
      · obtain ⟨n, hhistory⟩ := insert_committed h
        have hlast := congrArg List.getLast? hhistory
        rw [List.getLast?_concat] at hlast
        obtain ⟨first, hended⟩ := ended_history hI hlast (by simp)
        exact ⟨first, _, hended, rfl, rfl, rfl, rfl⟩
  · cases h

/-- What was read was the last event of the attempt. -/
theorem Executed.Read.event {e : Executed} {id : String} {event : Option EventRow}
    (hread : e.Read id event) (h : sem e.before e.op e.res e.after) :
    (e.after.db.history id).getLast? = event := by
  obtain ⟨events, before, after, rfl, rfl⟩ := hread
  rcases sem_ledger h with h | ⟨h, -⟩
  · obtain ⟨hevents, hdb⟩ := Prod.mk.inj h
    rw [← hdb, ← hevents]
  · cases h

/-- **No replay**: the executor is invoked at most once for each attempt. -/
theorem executed_once (h₀ : R5AttemptLedger.Run cfg₀)
    (h : Reachable run_first_five_r5_attempts sem (World.start cfg₀.shared) cfg) :
    cfg.shared.executed.Nodup := by
  refine List.nodup_iff_count_le_one.mpr fun id => ?_
  have h0 : executions id (World.start cfg₀.shared) ≤ claims id (World.start cfg₀.shared) :=
    Nat.zero_le _
  have hpaid : executions id cfg.shared ≤ claims id cfg.shared :=
    h.tokens (I := fun _ => True) h0 (body_paid id) (fun _ _ => trivial)
      fun _ _ _ _ _ hsem => sem_counts id hsem
  have hone : claims id cfg.shared ≤ 1 := by
    rw [claims, R5AttemptLedger.claimed_count]
    exact (((run_sound h₀ h).1).lifecycles id).claims_le
  have hcount : cfg.shared.executed.count id = executions id cfg.shared := by
    rw [List.count, executions]
    exact List.countP_congr fun x _ => by simp
  omega

/-- What a call knows was done before an executor of it ran. -/
theorem executor_allowed {s₀ : World} (h : Reachable run_first_five_r5_attempts sem s₀ cfg)
    {t : Thread Call Op Op.Res Exn R5BatchResult World} (ht : t ∈ cfg.pool) {front back : List Executed}
    {e : Executed} (hpast : t.past = front ++ e :: back) {item : R5SelectedAttempt} {worker : ℕ}
    (hop : e.op = .attempt_executor item worker) : MayExecute t.call (known front) item := by
  have hallowed := h.obeys body_obeys ht hpast
  rw [hop] at hallowed
  exact hallowed

/-- A call completes an attempt with what its executor has returned. -/
theorem completed_answered {s₀ : World} (h : Reachable run_first_five_r5_attempts sem s₀ cfg)
    {t : Thread Call Op Op.Res Exn R5BatchResult World} (ht : t ∈ cfg.pool) {front back : List Executed}
    {e : Executed} (hpast : t.past = front ++ e :: back) {id digest outcome reason : String}
    (hcompleted : e.Completed id digest outcome reason) :
    ∃ answer ∈ front, ∃ item record, answer.Answered item record ∧
      Result item record id digest outcome reason := by
  have hallowed := h.obeys body_obeys ht hpast
  obtain ⟨before, after, rfl⟩ := hcompleted
  obtain ⟨-, item, record, hknown, hresult⟩ := hallowed
  obtain ⟨answer, hanswer, hanswered⟩ := known_answered hknown
  exact ⟨answer, hanswer, item, record, hanswered, hresult⟩

/-- The record of an attempt is what the ledger holds. -/
theorem recorded_ended (h₀ : R5AttemptLedger.Run cfg₀)
    (h : Reachable run_first_five_r5_attempts sem (World.start cfg₀.shared) cfg)
    {t : Thread Call Op Op.Res Exn R5BatchResult World} (ht : t ∈ cfg.pool) {record : R5BatchRecord}
    (hrecorded : Recorded (known t.past) record) :
    ∃ first last, cfg.shared.db.history record.attempt_id = [first, last] ∧ last.state = .COMPLETED ∧
      last.result_digest = record.result_digest ∧ last.outcome = record.outcome ∧
      last.reason_code = record.reason_code := by
  obtain ⟨hsound, hpast⟩ := run_sound h₀ h
  have hsem : ∀ e ∈ t.past, sem e.before e.op e.res e.after := fun e he =>
    (h.records (I := fun _ => True) (fun _ _ => trivial) t ht e he).2
  obtain ⟨-, ⟨row, hlisted, hstate, hdigest, houtcome, hreason⟩ |
    ⟨digest, outcome, reason, hmem, hdigest, houtcome, hreason⟩⟩ := hrecorded
  · obtain ⟨e, he, hread⟩ := known_listing hlisted
    obtain ⟨-, hafter, hgo⟩ := hpast t ht e he
    obtain ⟨first, hended⟩ := ended_history hafter (hread.event (hsem e he)) (by simp [hstate])
    exact ⟨first, row, Grows.ended hgo hsound hended, hstate, hdigest, houtcome, hreason⟩
  · obtain ⟨e, he, hcompleted⟩ := known_completed hmem
    obtain ⟨-, hafter, hgo⟩ := hpast t ht e he
    obtain ⟨first, last, hended, hstate, hd, ho, hr⟩ := hcompleted.event (hsem e he) hafter
    refine ⟨first, last, Grows.ended hgo hsound hended, hstate, ?_, ?_, ?_⟩
    · rw [hd, hdigest]
    · rw [ho, houtcome]
    · rw [hr, hreason]

/-- **A batch never replays.** Whatever any number of batch calls on one ledger
do: the executor is invoked at most once for each attempt; it runs only for a
selected attempt whose claim, with the selected input digest, the same call has
committed before, and not after an executor of the call that raised nor, without
the opt-in, after a recorded failure; a call that returns as complete has
returned, for every selected attempt, what the ledger holds; and an attempt that a
call completes has the outcome, the reason and the digest of the record that its
executor has returned. -/
theorem r5_batch_never_replays (h₀ : R5AttemptLedger.Run cfg₀)
    (h : Reachable run_first_five_r5_attempts sem (World.start cfg₀.shared) cfg) :
    cfg.shared.executed.Nodup ∧
    (∀ t ∈ cfg.pool, ∀ (front back : List Executed) (e : Executed) (item : R5SelectedAttempt)
      (worker : ℕ), t.past = front ++ e :: back → e.op = .attempt_executor item worker →
      (∃ selected continue_after_failed, t.call.selection = .ok (selected, continue_after_failed) ∧
        item ∈ selected) ∧
      (∃ claim ∈ front, claim.Claimed item.attempt_id item.input_digest ∧
        ∃ event, claim.after.db.history item.attempt_id = [event] ∧ event.state = .CLAIMED ∧
          event.input_digest = item.input_digest) ∧
      (∀ other ∈ front, ¬ other.Raised) ∧
      (∀ selected, t.call.selection = .ok (selected, false) →
        (∀ other ∈ front, ∀ id digest reason, ¬ other.Completed id digest "failed" reason) ∧
        ∀ other ∈ selected, ∀ event, (known front).listing.lookup other.attempt_id = some event →
          failed_event event = false)) ∧
    (∀ t ∈ cfg.pool, ∀ result, t.status = .running (.ret result) →
      result.status = .complete ∨ result.status = .complete_with_failures →
      ∃ selected continue_after_failed, t.call.selection = .ok (selected, continue_after_failed) ∧
        result.records.map R5BatchRecord.attempt_id = selected.map R5SelectedAttempt.attempt_id ∧
        (∀ record ∈ result.records, record.state = .COMPLETED ∧
          ∃ first last, cfg.shared.db.history record.attempt_id = [first, last] ∧
            last.state = .COMPLETED ∧ last.result_digest = record.result_digest ∧
            last.outcome = record.outcome ∧ last.reason_code = record.reason_code) ∧
        (result.status = .complete ↔ ∀ record ∈ result.records, record.outcome ≠ some "failed")) ∧
    ∀ t ∈ cfg.pool, ∀ (front back : List Executed) (e : Executed) (id digest outcome reason : String),
      t.past = front ++ e :: back → e.Completed id digest outcome reason →
      ∃ answer ∈ front, ∃ item record, answer.Answered item record ∧
        Result item record id digest outcome reason := by
  refine ⟨executed_once h₀ h, ?_, ?_, fun t ht front back e id digest outcome reason hpast hcompleted =>
    completed_answered h ht hpast hcompleted⟩
  -- before a call of the executor the monitor holds the claim, and knows of no failure
  · intro t ht front back e item worker hpast hop
    obtain ⟨hselected, hheld, hraised, hclean⟩ := executor_allowed h ht hpast hop
    obtain ⟨claim, hclaim, hclaimed⟩ := known_held hheld
    have hsem := (h.records (I := fun _ => True) (fun _ _ => trivial) t ht claim
      (hpast ▸ List.mem_append_left _ hclaim)).2
    refine ⟨hselected, ⟨claim, hclaim, hclaimed, hclaimed.event hsem⟩, ?_, ?_⟩
    · intro other hother hr
      rw [known_raised hother hr] at hraised
      cases hraised
    · intro selected hselection
      obtain ⟨hfailed, hlisted⟩ := hclean selected hselection
      refine ⟨fun other hother id digest reason hcompleted => ?_, hlisted⟩
      rw [known_failed hother hcompleted] at hfailed
      cases hfailed
  -- what a complete batch reports is recorded, and ended histories do not change
  · intro t ht result hret hstatus
    obtain ⟨selected, continue_after_failed, hselection, hfinished⟩ :=
      h.obeys_returned body_obeys ht hret
    obtain ⟨hids, hrecorded, hcomplete⟩ := hfinished hstatus
    exact ⟨selected, continue_after_failed, hselection, hids, fun record hrecord =>
      ⟨(hrecorded record hrecord).1, recorded_ended h₀ h ht (hrecorded record hrecord)⟩, hcomplete⟩

end Runs

/-! ### A batch -/

/-- A schedule for the test below. -/
def sample_schedule : Schedule := fun id =>
  ⟨id, "S1-canonical-repair", "A", 1, R5AttemptLedger.digest_of 'c', R5AttemptLedger.digest_of 'd',
    R5AttemptLedger.digest_of 'e', R5AttemptLedger.digest_of 'a'⟩

/-- A batch of one attempt. -/
def sample_call : Call :=
  ⟨some sample_schedule, false, true,
    some (.of [{ sample_schedule "R5-001" with attempt_id := "R5-001" }]), .of false⟩

/-- An executor that verifies every attempt, on a ledger that does not fail. -/
def calm_answer : (op : Op) → World → op.Res × World
  | .ledger op, w =>
    let answered := R5AttemptLedger.answer op w.db
    (.ok answered.1, { w with db := answered.2 })
  | .worker_factory _, w => (.ok (.of 0), w)
  | .attempt_executor item _, w =>
    (.ok (.of ⟨.text item.attempt_id, .text item.input_digest,
      ⟨.of .VERIFIED, none, none, none, none, none, none, .null⟩⟩),
      { w with executed := w.executed ++ [item.attempt_id] })

theorem calm_sem (w : World) (op : Op) : sem w op (calm_answer op w).1 (calm_answer op w).2 := by
  cases op with
  | ledger op => exact .ledger w op _ _ (R5AttemptLedger.sem_answer w.db op)
  | worker_factory item => exact .worker_factory w item _
  | attempt_executor item worker => exact .attempt_executor w item worker _

/-- A batch that completes, and a second one that executes nothing. -/
theorem r5_batch_never_replays_completed : ∃ cfg : Config Call Op Op.Res Exn R5BatchResult World,
    cfg.shared.executed = ["R5-001"] ∧
    (cfg.shared.db.history "R5-001").map EventRow.state = [.CLAIMED, .COMPLETED] ∧
    cfg.shared.executed.Nodup := by
  obtain ⟨cfg, hcfg, hshared, -⟩ := Reachable.sequence (h := calm_answer) run_first_five_r5_attempts
    (World.start Db.created) calm_sem [sample_call, sample_call]
  have hstates : cfg.shared.executed = ["R5-001"] ∧
      (cfg.shared.db.history "R5-001").map EventRow.state = [.CLAIMED, .COMPLETED] := by
    rw [hshared]
    decide +kernel
  exact ⟨cfg, hstates.1, hstates.2, (@r5_batch_never_replays ⟨Db.created, []⟩ cfg .refl hcfg).1⟩

end AppContracts.R5Batch
