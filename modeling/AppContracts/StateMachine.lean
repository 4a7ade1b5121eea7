/-
Deterministic state transitions for the repository-change workflow:
`state_machine.py`.

`transition` is the guard of every state change. What the stores above need of
it is said once, in `transition_ok`: it returns its target, the target is a
successor of a state that is not terminal, and the evidence the edge requires
is there.
-/
import AppContracts.Python

set_option autoImplicit false

namespace AppContracts.StateMachine

/-! ## States and edges -/

/-- `ProcessState`. -/
inductive ProcessState : Type
  | received
  | specified
  | authorized
  | executing
  | verifying
  | staged
  | waiting_approval
  | applying
  | completed
  | waiting_input
  | quarantined
  | rejected
  | failed
  | reconciliation_required
  | cancelled
  deriving DecidableEq

open ProcessState

namespace ProcessState

/-- The `StrEnum` value. -/
def value : ProcessState → String
  | received => "received"
  | specified => "specified"
  | authorized => "authorized"
  | executing => "executing"
  | verifying => "verifying"
  | staged => "staged"
  | waiting_approval => "waiting_approval"
  | applying => "applying"
  | completed => "completed"
  | waiting_input => "waiting_input"
  | quarantined => "quarantined"
  | rejected => "rejected"
  | failed => "failed"
  | reconciliation_required => "reconciliation_required"
  | cancelled => "cancelled"

/-- The members, in order. -/
def members : List ProcessState :=
  [received, specified, authorized, executing, verifying, staged, waiting_approval, applying,
    completed, waiting_input, quarantined, rejected, failed, reconciliation_required, cancelled]

/-- `ProcessState(text)`, `none` for its `ValueError`. -/
def of_value (text : String) : Option ProcessState :=
  members.find? fun s => s.value = text

/-- Every state is read back from its value. -/
theorem of_value_value (s : ProcessState) : of_value s.value = some s := by
  cases s <;> decide

theorem value_inj {s t : ProcessState} (h : s.value = t.value) : s = t := by
  have hs := of_value_value s
  rw [h, of_value_value] at hs
  exact (Option.some.inj hs).symm

end ProcessState

/-- `_NORMAL`. -/
def NORMAL : ProcessState → List ProcessState
  | received => [specified, waiting_input, rejected, cancelled]
  | specified => [authorized, waiting_input, rejected, cancelled]
  | authorized => [executing, rejected, cancelled]
  | executing => [verifying, quarantined, failed, cancelled]
  | verifying => [executing, staged, quarantined, rejected, failed]
  | staged => [waiting_approval, executing, cancelled]
  | waiting_approval => [applying, executing, rejected, cancelled]
  | applying => [completed, failed, reconciliation_required]
  | waiting_input => [specified, cancelled]
  | quarantined => [executing, rejected, cancelled]
  | reconciliation_required => [completed, failed]
  | _ => []

/-- `_TERMINAL`. -/
def TERMINAL : List ProcessState := [completed, rejected, failed, cancelled]

/-! ## Evidence -/

/-- The fields of `TransitionEvidence`, holding values of `β`. -/
structure Evidence (β : Type) : Type where
  contract_complete : β
  policy_allowed : β
  artifact_digest : β
  verification_passed : β
  staged_digest : β
  approval_valid : β
  receipt_present : β
  postcondition_verified : β
  deriving DecidableEq

/-- `TransitionEvidence` with boolean flags. -/
abbrev TransitionEvidence : Type := Evidence Bool

/-- The flag check: every flag is a `bool`. -/
def checked_flags (ev : Evidence (Arg Bool)) : Option TransitionEvidence :=
  match ev.contract_complete, ev.policy_allowed, ev.artifact_digest, ev.verification_passed,
    ev.staged_digest, ev.approval_valid, ev.receipt_present, ev.postcondition_verified with
  | .of a, .of b, .of c, .of d, .of e, .of f, .of g, .of h => some ⟨a, b, c, d, e, f, g, h⟩
  | _, _, _, _, _, _, _, _ => none

/-- One flag of `evidence.__dict__`. -/
def flag_json : Arg Bool → Json
  | .of b => .bool b
  | .other => .other false none

/-- `evidence.__dict__`. -/
def Evidence.dict (ev : Evidence (Arg Bool)) : Json :=
  .obj [(.text "contract_complete", flag_json ev.contract_complete),
    (.text "policy_allowed", flag_json ev.policy_allowed),
    (.text "artifact_digest", flag_json ev.artifact_digest),
    (.text "verification_passed", flag_json ev.verification_passed),
    (.text "staged_digest", flag_json ev.staged_digest),
    (.text "approval_valid", flag_json ev.approval_valid),
    (.text "receipt_present", flag_json ev.receipt_present),
    (.text "postcondition_verified", flag_json ev.postcondition_verified)]

/-- Evidence as a caller with boolean flags passes it. -/
def TransitionEvidence.raw (ev : TransitionEvidence) : Evidence (Arg Bool) :=
  ⟨.of ev.contract_complete, .of ev.policy_allowed, .of ev.artifact_digest,
    .of ev.verification_passed, .of ev.staged_digest, .of ev.approval_valid,
    .of ev.receipt_present, .of ev.postcondition_verified⟩

theorem checked_flags_iff {raw : Evidence (Arg Bool)} {ev : TransitionEvidence} :
    checked_flags raw = some ev ↔ raw = ev.raw := by
  constructor
  · intro h
    unfold checked_flags at h
    split at h
    · rename_i h1 h2 h3 h4 h5 h6 h7 h8
      cases h
      rw [TransitionEvidence.raw, ← h1, ← h2, ← h3, ← h4, ← h5, ← h6, ← h7, ← h8]
    · cases h
  · rintro rfl
    rfl

/-- `requirements.get((current, target), True)`. -/
def required (current target : ProcessState) (ev : TransitionEvidence) : Bool :=
  match current, target with
  | received, specified => ev.contract_complete
  | specified, authorized => ev.policy_allowed
  | executing, verifying => ev.artifact_digest
  | verifying, staged => ev.verification_passed && ev.staged_digest
  | staged, waiting_approval => ev.staged_digest
  | waiting_approval, applying => ev.approval_valid && ev.staged_digest
  | applying, completed => ev.receipt_present && ev.postcondition_verified
  | reconciliation_required, completed => ev.receipt_present && ev.postcondition_verified
  | _, _ => true

/-! ## `transition` -/

/-- `InvalidTransition(message)`. -/
def invalid_transition (message : String) : Exn := ⟨.InvalidTransition, message⟩

/-- `transition(current, target, evidence)`. -/
def transition (current target : Arg ProcessState) (evidence : Arg (Evidence (Arg Bool))) :
    Except Exn ProcessState :=
  match evidence with
  | .other => .error (invalid_transition "transition evidence is invalid")
  | .of raw =>
    match checked_flags raw, current, target with
    | none, _, _ => .error (invalid_transition "transition evidence flags must be boolean")
    | some _, .other, _ => .error (invalid_transition "transition current state is invalid")
    | some _, .of _, .other => .error (invalid_transition "transition target is invalid")
    | some ev, .of current, .of target =>
      if current ∈ TERMINAL then
        .error (invalid_transition s!"terminal state {current.value} cannot transition")
      else if target ∉ NORMAL current then
        .error (invalid_transition
          s!"transition {current.value} -> {target.value} is not allowed")
      else if required current target ev = false then
        .error (invalid_transition
          s!"transition {current.value} -> {target.value} lacks required evidence")
      else .ok target

/-- The edges of the workflow: what `transition` admits. -/
def Admits (current target : ProcessState) (ev : TransitionEvidence) : Prop :=
  current ∉ TERMINAL ∧ target ∈ NORMAL current ∧ required current target ev = true

instance (current target : ProcessState) (ev : TransitionEvidence) :
    Decidable (Admits current target ev) := by
  unfold Admits
  infer_instance

/-- **What `transition` accepts**, and that it returns its target: well-typed
arguments and an admitted edge. -/
theorem transition_ok {current next : ProcessState} {target : Arg ProcessState}
    {evidence : Arg (Evidence (Arg Bool))} :
    transition (.of current) target evidence = .ok next ↔
      target = .of next ∧ ∃ ev : TransitionEvidence,
        evidence = .of ev.raw ∧ Admits current next ev := by
  constructor
  · intro h
    unfold transition at h
    split at h
    · cases h
    · rename_i raw
      split at h
      · cases h
      · cases h
      · cases h
      · rename_i ev current' target' hf hc
        obtain rfl := Arg.of.inj hc
        by_cases hterm : current ∈ TERMINAL
        · rw [if_pos hterm] at h
          cases h
        -- terminal states first, then the edge, then its evidence, as in `transition`
        by_cases hedge : target' ∈ NORMAL current
        · by_cases hreq : required current target' ev = false
          · rw [if_neg hterm, if_neg (not_not.mpr hedge), if_pos hreq] at h
            cases h
          · rw [if_neg hterm, if_neg (not_not.mpr hedge), if_neg hreq] at h
            obtain rfl := Except.ok.inj h
            exact ⟨rfl, ev, by rw [checked_flags_iff.mp hf], hterm, hedge, by simpa using hreq⟩
        · rw [if_neg hterm, if_pos hedge] at h
          cases h
  · rintro ⟨rfl, ev, rfl, hterm, hedge, hreq⟩
    have hf : checked_flags ev.raw = some ev := checked_flags_iff.mpr rfl
    simp only [transition, hf, if_neg hterm, if_neg (not_not.mpr hedge), hreq, if_false,
      Bool.true_eq_false]

/-- Every failure of `transition` is an `InvalidTransition`. -/
theorem transition_error {current target : Arg ProcessState}
    {evidence : Arg (Evidence (Arg Bool))} {e : Exn}
    (h : transition current target evidence = .error e) : e.cls = .InvalidTransition := by
  unfold transition at h
  split at h
  · obtain rfl := Except.error.inj h
    rfl
  · split at h
    · obtain rfl := Except.error.inj h
      rfl
    · obtain rfl := Except.error.inj h
      rfl
    · obtain rfl := Except.error.inj h
      rfl
    · split_ifs at h <;> obtain rfl := Except.error.inj h <;> rfl

/-- A terminal state has no successors, so the terminal check of `transition`
refuses nothing the graph would admit. -/
theorem terminal_no_edges {current : ProcessState} (h : current ∈ TERMINAL) :
    NORMAL current = [] := by
  cases current <;> simp [TERMINAL] at h <;> rfl

end AppContracts.StateMachine
