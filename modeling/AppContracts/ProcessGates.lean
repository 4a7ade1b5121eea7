/-
No completion without its gates.

The transition graph is cyclic, so a completed process may have executed many
times. What counts is the log after its last `executing` entry: it is the path
verification, staging, approval, application, with the evidence each of these
steps requires. `Gated` is that suffix for every state it can have reached, and
every state from `executing` on has one (`Recorded.gated`).
-/
import AppContracts.ProcessHistory

set_option autoImplicit false

namespace AppContracts.RuntimeStore

open Interleave StateMachine

/-! ## Recorded flags -/

/-- The evidence an event records has the flag set. -/
def EventRow.has_flag (e : EventRow) (flag : String) : Prop :=
  ∃ j, Json.loads e.evidence_json = some j ∧ j.get? flag = some (.bool true)

/-- A flag of the evidence is a flag of the event. -/
theorem EventRow.records.has_flag {e : EventRow} {ev : TransitionEvidence} (h : e.records ev)
    {flag : String} (hflag : ev.raw.dict.get? flag = some (.bool true)) : e.has_flag flag := by
  have hwf : ev.raw.dict.wf := by
    refine ⟨by simp, ?_⟩
    rw [Json.wf_fields_iff]
    simp [TransitionEvidence.raw, flag_json, Json.wf]
  refine ⟨_, h, ?_⟩
  rw [Json.get?_norm hwf, hflag]
  rfl

section Flags

variable {e : EventRow} {ev : TransitionEvidence}

theorem has_verification_passed (h : e.records ev) (hev : ev.verification_passed = true) :
    e.has_flag "verification_passed" :=
  h.has_flag (by simp [Evidence.dict, TransitionEvidence.raw, flag_json, hev])

theorem has_staged_digest (h : e.records ev) (hev : ev.staged_digest = true) :
    e.has_flag "staged_digest" :=
  h.has_flag (by simp [Evidence.dict, TransitionEvidence.raw, flag_json, hev])

theorem has_approval_valid (h : e.records ev) (hev : ev.approval_valid = true) :
    e.has_flag "approval_valid" :=
  h.has_flag (by simp [Evidence.dict, TransitionEvidence.raw, flag_json, hev])

theorem has_receipt_present (h : e.records ev) (hev : ev.receipt_present = true) :
    e.has_flag "receipt_present" :=
  h.has_flag (by simp [Evidence.dict, TransitionEvidence.raw, flag_json, hev])

theorem has_postcondition_verified (h : e.records ev) (hev : ev.postcondition_verified = true) :
    e.has_flag "postcondition_verified" :=
  h.has_flag (by simp [Evidence.dict, TransitionEvidence.raw, flag_json, hev])

end Flags

/-! ## The gated suffix -/

/-- The log after the last `executing` entry, by the state it has reached. -/
inductive Gated : ProcessState → List EventRow → Prop
  | executing : Gated .executing []
  | verifying (e : EventRow) (hstate : e.state = ProcessState.verifying.value) :
      Gated .verifying [e]
  | staged {log : List EventRow} (e : EventRow) (h : Gated .verifying log)
      (hstate : e.state = ProcessState.staged.value) (hver : e.has_flag "verification_passed")
      (hdig : e.has_flag "staged_digest") : Gated .staged (log ++ [e])
  | waiting_approval {log : List EventRow} (e : EventRow) (h : Gated .staged log)
      (hstate : e.state = ProcessState.waiting_approval.value) :
      Gated .waiting_approval (log ++ [e])
  | applying {log : List EventRow} (e : EventRow) (h : Gated .waiting_approval log)
      (hstate : e.state = ProcessState.applying.value) (happ : e.has_flag "approval_valid") :
      Gated .applying (log ++ [e])
  | reconciliation_required {log : List EventRow} (e : EventRow) (h : Gated .applying log)
      (hstate : e.state = ProcessState.reconciliation_required.value) :
      Gated .reconciliation_required (log ++ [e])
  | completed {s : ProcessState} {log : List EventRow} (e : EventRow) (h : Gated s log)
      (hs : s = .applying ∨ s = .reconciliation_required)
      (hstate : e.state = ProcessState.completed.value) (hrec : e.has_flag "receipt_present")
      (hpost : e.has_flag "postcondition_verified") : Gated .completed (log ++ [e])

/-- The states from `executing` on that a gated suffix leads to. -/
def GATED : List ProcessState :=
  [.executing, .verifying, .staged, .waiting_approval, .applying, .reconciliation_required,
    .completed]

/-- One admitted step into a gated state starts the suffix anew or extends it. -/
theorem Gated.step {s t : ProcessState} {ev : TransitionEvidence} (hadm : Admits s t ev)
    {e : EventRow} (hrec : e.records ev) (hstate : e.state = t.value) (ht : t ∈ GATED)
    (hne : t ≠ .executing) :
    s ∈ GATED ∧ ∀ log, Gated s log → Gated t (log ++ [e]) := by
  obtain ⟨-, hedge, hreq⟩ := hadm
  -- The source of each edge into a gated state, read off the graph.
  cases s <;> cases t <;> simp [NORMAL] at hedge <;> simp [GATED] at ht hne
  case executing.verifying =>
    refine ⟨by simp [GATED], ?_⟩
    rintro log ⟨⟩
    exact .verifying e hstate
  case verifying.staged =>
    simp only [required, Bool.and_eq_true] at hreq
    exact ⟨by simp [GATED], fun log h => .staged e h hstate (has_verification_passed hrec hreq.1)
      (has_staged_digest hrec hreq.2)⟩
  case staged.waiting_approval =>
    exact ⟨by simp [GATED], fun log h => .waiting_approval e h hstate⟩
  case waiting_approval.applying =>
    simp only [required, Bool.and_eq_true] at hreq
    exact ⟨by simp [GATED], fun log h => .applying e h hstate (has_approval_valid hrec hreq.1)⟩
  case applying.completed =>
    simp only [required, Bool.and_eq_true] at hreq
    exact ⟨by simp [GATED], fun log h => .completed e h (.inl rfl) hstate
      (has_receipt_present hrec hreq.1) (has_postcondition_verified hrec hreq.2)⟩
  case applying.reconciliation_required =>
    exact ⟨by simp [GATED], fun log h => .reconciliation_required e h hstate⟩
  case reconciliation_required.completed =>
    simp only [required, Bool.and_eq_true] at hreq
    exact ⟨by simp [GATED], fun log h => .completed e h (.inr rfl) hstate
      (has_receipt_present hrec hreq.1) (has_postcondition_verified hrec hreq.2)⟩

/-- **A log in a gated state has an `executing` entry followed by a gated
suffix.** -/
theorem Recorded.gated {log : List EventRow} {s : ProcessState} {v : ℕ} (h : Recorded log s v)
    (hs : s ∈ GATED) : ∃ before e suffix, log = before ++ e :: suffix ∧
      e.state = ProcessState.executing.value ∧ Gated s suffix := by
  induction h with
  | created e => simp [GATED] at hs
  | @advanced log s v e t ev _ _ _ hstate hrec hadm ih =>
    by_cases ht : t = .executing
    · subst ht
      exact ⟨log, e, [], rfl, hstate, .executing⟩
    · obtain ⟨hin, hstep⟩ := Gated.step hadm hrec hstate hs ht
      obtain ⟨before, x, suffix, rfl, hx, hg⟩ := ih hin
      exact ⟨before, x, suffix ++ [e], by simp, hx, hstep suffix hg⟩

/-! ## Completion -/

/-- The gates of a completed process, in order: the log after its last
`executing` entry. -/
def Gates (suffix : List EventRow) : Prop :=
  ∃ verifying staged waiting applying completed reconciliation,
    suffix = verifying :: staged :: waiting :: applying :: (reconciliation ++ [completed]) ∧
    verifying.state = ProcessState.verifying.value ∧
    staged.state = ProcessState.staged.value ∧
    staged.has_flag "verification_passed" ∧ staged.has_flag "staged_digest" ∧
    waiting.state = ProcessState.waiting_approval.value ∧
    applying.state = ProcessState.applying.value ∧ applying.has_flag "approval_valid" ∧
    (reconciliation = [] ∨ ∃ e, reconciliation = [e] ∧
      e.state = ProcessState.reconciliation_required.value) ∧
    completed.state = ProcessState.completed.value ∧
    completed.has_flag "receipt_present" ∧ completed.has_flag "postcondition_verified"

/-- The suffix of an applying process. -/
theorem Gated.applying_suffix {log : List EventRow} (h : Gated .applying log) :
    ∃ verifying staged waiting applying, log = [verifying, staged, waiting, applying] ∧
      verifying.state = ProcessState.verifying.value ∧
      staged.state = ProcessState.staged.value ∧
      staged.has_flag "verification_passed" ∧ staged.has_flag "staged_digest" ∧
      waiting.state = ProcessState.waiting_approval.value ∧
      applying.state = ProcessState.applying.value ∧ applying.has_flag "approval_valid" := by
  obtain _ | _ | _ | _ | ⟨applying, h, hap, happ⟩ := h
  obtain _ | _ | _ | ⟨waiting, h, hw⟩ := h
  obtain _ | _ | ⟨staged, h, hst, hver, hdig⟩ := h
  obtain _ | ⟨verifying, hv⟩ := h
  exact ⟨verifying, staged, waiting, applying, rfl, hv, hst, hver, hdig, hw, hap, happ⟩

theorem Gated.gates {log : List EventRow} (h : Gated .completed log) : Gates log := by
  obtain _ | _ | _ | _ | _ | _ | ⟨completed, h, hs, hc, hrec, hpost⟩ := h
  rcases hs with rfl | rfl
  · obtain ⟨v, st, w, ap, rfl, hv, hst, hver, hdig, hw, hap, happ⟩ := h.applying_suffix
    exact ⟨v, st, w, ap, completed, [], rfl, hv, hst, hver, hdig, hw, hap, happ, .inl rfl, hc,
      hrec, hpost⟩
  · obtain _ | _ | _ | _ | _ | ⟨rc, h, hrc⟩ := h
    obtain ⟨v, st, w, ap, rfl, hv, hst, hver, hdig, hw, hap, happ⟩ := h.applying_suffix
    exact ⟨v, st, w, ap, completed, [rc], rfl, hv, hst, hver, hdig, hw, hap, happ,
      .inr ⟨rc, rfl, hrc⟩, hc, hrec, hpost⟩

/-- The values of the terminal states. -/
def terminal_values : List String := TERMINAL.map ProcessState.value

/-- Nothing follows a terminal state: an event with a successor is not
terminal. -/
theorem Recorded.not_terminal {log : List EventRow} {s : ProcessState} {v : ℕ}
    (h : Recorded log s v) {before after : List EventRow} {a b : EventRow}
    (hlog : log = before ++ a :: b :: after) : a.state ∉ terminal_values := by
  have hchain := h.linked
  rw [hlog, List.isChain_append_cons_cons] at hchain
  obtain ⟨-, s', t', ev, hs, -, -, htrans⟩ := hchain.2.1
  obtain ⟨-, -, -, hterm, -⟩ := transition_ok.mp htrans
  rw [hs, terminal_values, List.mem_map]
  rintro ⟨u, hu, heq⟩
  exact hterm (ProcessState.value_inj heq ▸ hu)

/-- **No completion without its gates.** In every state any number of
connections can reach, the log of a completed process is its last `executing`
entry followed by verification, staging, approval, application, perhaps
reconciliation, and completion, with the evidence of each gate on record; and
no event of any process follows a terminal state. -/
theorem no_completion_without_gates {cfg : Config Call Op Res Exn (Option ProcessRecord) Db}
    (h : Run cfg) {r : ProcessRow} (hr : r ∈ cfg.shared.processes) :
    (r.state = ProcessState.completed.value →
      ∃ before e suffix, cfg.shared.history r.process_id = before ++ e :: suffix ∧
        e.state = ProcessState.executing.value ∧ Gates suffix) ∧
    ∀ before a b after, cfg.shared.history r.process_id = before ++ a :: b :: after →
      a.state ∉ terminal_values := by
  obtain ⟨s, hs, hrec⟩ := (run_safe h).1.rows r hr
  refine ⟨?_, fun before a b after hlog => hrec.not_terminal hlog⟩
  intro hstate
  obtain rfl := ProcessState.value_inj (hs.symm.trans hstate)
  obtain ⟨before, e, suffix, hlog, he, hg⟩ := hrec.gated (by simp [GATED])
  exact ⟨before, e, suffix, hlog, he, hg.gates⟩

/-- The states of a process that completes without a detour. -/
def straight_path : List ProcessState :=
  [.specified, .authorized, .executing, .verifying, .staged, .waiting_approval, .applying,
    .completed]

/-- A process taken along the straight path with all evidence. -/
def completed_calls : List Call :=
  .create (.of (.text "process-1")) (.at "2026-01-01T00:00:00+00:00") ::
    (straight_path.zipIdx.map fun p => .advance (.of (.text "process-1")) (.of p.1)
      (.of (TransitionEvidence.raw ⟨true, true, true, true, true, true, true, true⟩))
      (.of (p.2 : ℤ)) (.at "2026-01-01T00:01:00+00:00"))

/-- Such a process is completed, through its gates. -/
theorem no_completion_without_gates_straight :
    ∃ cfg : Config Call Op Res Exn (Option ProcessRecord) Db, Run cfg ∧
      ∃ r ∈ cfg.shared.processes, r.state = ProcessState.completed.value ∧
        ∃ before e suffix, cfg.shared.history r.process_id = before ++ e :: suffix ∧
          e.state = ProcessState.executing.value ∧ Gates suffix := by
  obtain ⟨cfg, hr, hs, -⟩ := Reachable.sequence body Db.empty sem_answer
    completed_calls
  have hrow : ∃ r ∈ cfg.shared.processes, r.state = ProcessState.completed.value := by
    rw [hs]
    decide +kernel
  obtain ⟨r, hmem, hstate⟩ := hrow
  exact ⟨cfg, hr, r, hmem, hstate, (no_completion_without_gates hr hmem).1 hstate⟩

end AppContracts.RuntimeStore
