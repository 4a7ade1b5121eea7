/-
Sandbox leases: what the journal does to the sandboxes it opens and closes.

A `JournaledSandboxSession` is closed at most once through the journal, and a
sandbox whose creation the journal could not record is to be closed before the
error is raised. Both go through the lifecycle operation of
`JournaledProposalWorker`, which builds its records before it reaches the
sandbox: where they cannot be built, the sandbox stays open.
-/
import AppContracts.JournaledOutcomes

set_option autoImplicit false

namespace AppContracts.ObserverRuntime

open Stateful GatedDispatch

section Lease

variable {ω α β : Type} (env : Environment ω)

/-! ## Closing -/

/-- `JournaledSandboxSession.close()`, by the flag `_closed` before it. The flag
is set first, whatever follows. -/
def session_close {m : Type → Type} [Monad m] [MonadExcept Exn m] (ports : Ports m) (purpose : Purpose)
    (close : Option (m Unit)) (closed : Bool) : m Unit :=
  if closed then return () else invoke_sandbox_close ports purpose close

/-- A run of the program whose exception is the caller's. -/
def passed (p : Prog Exn (Counted (Run ω)) Unit) : Prog Exn (Counted (Run ω)) Unit :=
  tryCatch p fun _ => return ()

/-- A session's first `close`, and further ones each of which comes after
something else. The underlying `close` is counted. -/
def session_closes (purpose : Purpose) (close : Option (Prog Exn (Run ω) Unit)) :
    List (Prog Exn (Run ω) Unit) → Prog Exn (Counted (Run ω)) Unit
  | [] => passed (session_close env.ports purpose (close.map Prog.counted) false)
  | between :: before => do
    session_closes purpose close before
    passed between.silent
    passed (session_close env.ports purpose (close.map Prog.counted) true)

theorem passed_exec (p : Prog Exn (Counted (Run ω)) Unit) (s : Counted (Run ω)) :
    (passed p).exec s = (.ok (), (p.exec s).2) := by
  unfold passed
  rw [Prog.exec_catch]
  rcases p.exec s with ⟨e | ⟨⟩, t⟩ <;> rfl

/-- Only the first `close` of a session counts. -/
theorem session_closes_calls (purpose : Purpose) (close : Option (Prog Exn (Run ω) Unit))
    (others : List (Prog Exn (Run ω) Unit)) (s : Counted (Run ω)) :
    ∃ t, (session_closes env purpose close others).exec s = (.ok (), t) ∧
      t.calls = ((invoke_sandbox_close env.ports purpose (close.map Prog.counted)).exec s).2.calls := by
  induction others with
  | nil => exact ⟨_, passed_exec _ s, rfl⟩
  | cons between before ih =>
    obtain ⟨t, hrun, hcalls⟩ := ih
    refine ⟨{ t with state := (between.exec t.state).2 }, ?_, hcalls⟩
    rw [session_closes, Prog.exec_bind, hrun]
    simp only [Prog.exec_bind, passed_exec, Prog.exec_silent, session_close, if_true, Prog.exec_pure]

/-- What is done after a `close` of the sandbox is not another one. -/
theorem close_conclude_quiet (purpose : Purpose) (close : Prog Exn (Counted (Run ω)) Unit)
    (intention : Intention) (outcome : Except Exn Unit) :
    Quiet ((sandbox_close env.ports purpose close).conclude env.ports intention outcome) := by
  refine .bind (.returns _) fun terminal => .bind (.catches ?_ fun e => .raises e) fun _ => ?_
  · exact .bind (terminal_event_quiet env _ _ _) fun event => append_terminal_quiet env _ _ _
  · cases outcome with
    | ok _ => exact .returns _
    | error _ => exact .raises _

/-- The records of the operation that closes a sandbox can be built. -/
def CanClose (env : Environment ω) (purpose : Purpose) (run : Run ω) : Prop :=
  run.self.has_last_event = true ∧
    ∃ records t, (intention env.ports (lifecycle_labels "close" purpose) (fresh_ids env.ports)).exec
      ⟨run, 0⟩ = (.ok records, t)

theorem require_last_event_exec (refused : Exn) (s : Counted (Run ω)) :
    (require_last_event env.ports refused).exec s =
      (if s.state.self.has_last_event then .ok () else .error refused, s) := by
  have hself : env.ports.self.exec s = (.ok s.state.self, s) := rfl
  rw [require_last_event, Prog.exec_bind, hself]
  cases hlast : s.state.self.has_last_event <;> simp [hlast]

/-- An `except` clause that only raises leaves the state alone. -/
theorem rethrown_exec {σ : Type} (p : Prog Exn σ α) (f : Exn → Exn) (s : σ) :
    ((tryCatch p fun e => throw (f e)).exec s).2 = (p.exec s).2 := by
  rw [Prog.exec_catch]
  rcases p.exec s with ⟨e | a, t⟩ <;> rfl

/-- With its records built, the operation reaches the sandbox once, through the
gate or without it. -/
theorem close_attempt_calls (purpose : Purpose) (close : Prog Exn (Run ω) Unit) (records : Intention)
    (t : Counted (Run ω)) :
    let op := sandbox_close env.ports purpose close.counted
    ((do
      let outcome ← dispatched env.ports records op.once op.reserved op.gate_failed close.counted
      op.conclude env.ports records outcome : Prog Exn (Counted (Run ω)) Unit).exec t).2.calls =
      t.calls + 1 := by
  intro op
  -- a gate that fails closes the sandbox all the same
  have hfailed : ∀ e s, ∃ e' u, (op.gate_failed e).exec s = (.error e', u) ∧ u.calls = s.calls + 1 := by
    intro e s
    simp only [op, sandbox_close, Prog.exec_bind, Prog.exec_catch, Prog.exec_counted]
    rcases close.exec s.state with ⟨e | ⟨⟩, t⟩
    · exact ⟨_, _, rfl, rfl⟩
    · exact ⟨_, _, rfl, rfl⟩
  have hraises : ∀ e s, ∃ e' u, (op.gate_failed e).exec s = (.error e', u) := fun e s => by
    obtain ⟨e', u, hraise, -⟩ := hfailed e s
    exact ⟨e', u, hraise⟩
  have hdispatched := dispatched_runs env _ hraises records close.counted t
  rw [Prog.exec_bind]
  rcases hrun : (dispatched env.ports records op.once op.reserved op.gate_failed close.counted).exec t with
    ⟨e | outcome, u⟩ <;> rw [hrun] at hdispatched
  · obtain ⟨e', v, hv, hraise⟩ := hdispatched
    obtain ⟨e'', w, hraise', hcalls⟩ := hfailed e' v
    obtain ⟨-, rfl⟩ := Prod.mk.inj (hraise.symm.trans hraise')
    rw [hcalls, hv]
  · obtain ⟨v, w, hv, hcall, hu⟩ := hdispatched
    obtain ⟨-, rfl⟩ := Prod.mk.inj hcall
    have hquiet := close_conclude_quiet env purpose close.counted records outcome u
    exact hquiet.trans (hu.trans (congrArg (· + 1) hv))

/-- **A `close` through the journal** reaches the sandbox exactly where its
records can be built, and then once. -/
theorem sandbox_close_calls (purpose : Purpose) (close : Prog Exn (Run ω) Unit) (run : Run ω) :
    ((invoke_sandbox_close env.ports purpose (some close.counted)).exec ⟨run, 0⟩).2.calls = 1 ↔
      CanClose env purpose run := by
  unfold invoke_sandbox_close Operation.behind sandbox_guards CanClose
  rw [Prog.exec_bind, require_last_event_exec]
  cases hlast : run.self.has_last_event with
  | false => simp
  | true =>
    have hquiet := intention_quiet env (lifecycle_labels "close" purpose) (fresh_ids_quiet env) ⟨run, 0⟩
    simp only [if_true, true_and]
    rw [Operation.run, rethrown_exec, Operation.attempt, Prog.exec_bind]
    have hlabels : intention env.ports (sandbox_close env.ports purpose close.counted).labels
        (sandbox_close env.ports purpose close.counted).ids =
        intention env.ports (lifecycle_labels "close" purpose) (fresh_ids env.ports) := rfl
    rw [hlabels]
    rcases hi : (intention env.ports (lifecycle_labels "close" purpose) (fresh_ids env.ports)).exec
        ⟨run, 0⟩ with ⟨e | records, t⟩ <;> rw [hi] at hquiet
    · have hcalls : t.calls = 0 := hquiet
      simp [hcalls]
    · have hcalls : t.calls = 0 := hquiet
      refine iff_of_true ?_ ⟨records, t, rfl⟩
      exact (close_attempt_calls env purpose close records t).trans (by rw [hcalls])

/-! ## Creating -/

/-- A `close` that leaves one open sandbox less, whether it raises or not. -/
def releasing (close : Prog Exn (Run ω) Unit) : Prog Exn (Counted (Run ω)) Unit :=
  .of fun s => ((close.exec s.state).1, ⟨(close.exec s.state).2, s.calls - 1⟩)

/-- A session whose `close` is one that releases it. -/
def SandboxSession.leased (session : SandboxSession (Prog Exn (Run ω))) :
    SandboxSession (Prog Exn (Counted (Run ω))) :=
  ⟨session.close.map releasing⟩

/-- A `create` that counts the sandboxes it leaves open: those that have a
`close` to be called. -/
def opening (create : Prog Exn (Run ω) (SandboxSession (Prog Exn (Run ω)))) :
    Prog Exn (Counted (Run ω)) (SandboxSession (Prog Exn (Counted (Run ω)))) :=
  .of fun s => match create.exec s.state with
    | (.ok session, run) =>
      (.ok session.leased, ⟨run, s.calls + if session.close.isSome then 1 else 0⟩)
    | (.error e, run) => (.error e, ⟨run, s.calls⟩)

/-- No `create` that raises leaves a sandbox open. -/
def LeavesNoneOpen (env : Environment ω) (purpose : Purpose)
    (create : Prog Exn (Run ω) (SandboxSession (Prog Exn (Run ω)))) (run : Run ω) : Prop :=
  ∀ e t, (invoke_sandbox_create env.ports purpose (some (opening create))).exec ⟨run, 0⟩ = (.error e, t) →
    t.calls = 0

/-- Where a session with a `close` was created, its terminal event can be built,
or what stops it is itself the outcome-unknown error. -/
def CanReport (env : Environment ω) (purpose : Purpose)
    (create : Prog Exn (Run ω) (SandboxSession (Prog Exn (Run ω)))) (run : Run ω) : Prop :=
  run.self.has_last_event = true → ∀ records session t e u,
    ((sandbox_create env.ports purpose).made env (opening create)).exec ⟨run, 0⟩ =
      (.ok (records, .ok session), t) → session.close.isSome = true →
    ((sandbox_create env.ports purpose).told env records (.ok session)).exec t = (.error e, u) →
      e.is_any [.SandboxOutcomeUnknownError] = true

theorem discard_leased (session : SandboxSession (Prog Exn (Run ω))) (s : Counted (Run ω)) :
    ∃ t, (discard session.leased).exec s = (.ok (), t) ∧
      t.calls = s.calls - if session.close.isSome then 1 else 0 := by
  unfold discard SandboxSession.leased
  cases session.close with
  | none => exact ⟨s, rfl, rfl⟩
  | some close =>
    simp only [Option.map_some, Prog.exec_catch, releasing, Prog.exec_of]
    rcases close.exec s.state with ⟨e | ⟨⟩, run⟩
    · exact ⟨_, rfl, rfl⟩
    · exact ⟨_, rfl, rfl⟩

/-- What happens after a `create` that raised opens nothing. -/
theorem create_conclude_quiet (purpose : Purpose) (records : Intention) (e : Exn) :
    Quiet ((sandbox_create env.ports purpose).conclude env.ports records (.error e)) := by
  refine .bind (.returns _) fun terminal => .bind (.catches ?_ fun e => .raises e) fun _ => .raises _
  exact .bind (terminal_event_quiet env _ _ _) fun event => append_terminal_quiet env _ _ _

section Given

variable {env} {purpose : Purpose} {records : Intention} {session : SandboxSession (Prog Exn (Run ω))}
  {t : Counted (Run ω)}

/-- Building the terminal event of a session closes nothing. -/
theorem told_calls {r : Except Exn (String × Json)} {u : Counted (Run ω)}
    (h : ((sandbox_create env.ports purpose).told env records (.ok session.leased)).exec t = (r, u)) :
    u.calls = t.calls ∧ ((sandbox_create env.ports purpose).tell env.ports records
      (tool_outcome [] "sandbox-create-failed" (.ok session.leased))).exec t = (r, u) := by
  have htell : ((sandbox_create env.ports purpose).tell env.ports records
      (tool_outcome [] "sandbox-create-failed" (.ok session.leased))).exec t = (r, u) := h
  have hcalls : (((sandbox_create env.ports purpose).tell env.ports records
      (tool_outcome [] "sandbox-create-failed" (.ok session.leased))).exec t).2.calls = t.calls :=
    terminal_event_quiet env _ _ _ t
  rw [htell] at hcalls
  exact ⟨hcalls, htell⟩

variable (env purpose) in
/-- The clause around the terminal record closes the sandbox for one class. -/
theorem unrecorded_exec (session : SandboxSession (Prog Exn (Run ω))) (e : Exn) (u : Counted (Run ω)) :
    ∃ v, ((sandbox_create env.ports purpose).unrecorded (.ok session.leased) e).exec u = (.error e, v) ∧
      v.calls = if e.is_any [.SandboxOutcomeUnknownError] then
        u.calls - (if session.close.isSome then 1 else 0) else u.calls := by
  obtain ⟨v, hdiscard, hv⟩ := discard_leased session u
  cases hunknown : e.is_any [.SandboxOutcomeUnknownError] with
  | true =>
    refine ⟨v, ?_, hv⟩
    simp only [sandbox_create, hunknown, if_true, Prog.exec_bind, hdiscard, Prog.exec_throw]
  | false =>
    refine ⟨u, ?_, rfl⟩
    simp [sandbox_create, hunknown]

/-- After a `create` that gave a session, what stops the terminal event is
raised. Only where that is the outcome-unknown error the sandbox is closed. -/
theorem create_stopped (ht : t.calls = if session.close.isSome then 1 else 0) {e : Exn}
    {u : Counted (Run ω)} (h : ((sandbox_create env.ports purpose).told env records
      (.ok session.leased)).exec t = (.error e, u)) :
    ∃ v, ((sandbox_create env.ports purpose).conclude env.ports records (.ok session.leased)).exec t =
      (.error e, v) ∧ v.calls = if e.is_any [.SandboxOutcomeUnknownError] then 0 else t.calls := by
  obtain ⟨hcalls, htell⟩ := told_calls h
  obtain ⟨v, hunrecorded, hv⟩ := unrecorded_exec env purpose session e u
  have hterminal : ((sandbox_create env.ports purpose).terminal (.ok session.leased)).exec t =
      (.ok (tool_outcome [] "sandbox-create-failed" (.ok session.leased)), t) := rfl
  refine ⟨v, ?_, ?_⟩
  · unfold Operation.conclude
    simp only [Prog.exec_bind, Prog.exec_catch, hterminal, htell, hunrecorded]
  · rw [hv, hcalls, ht, Nat.sub_self]

/-- With the terminal event built, an error leaves no sandbox open. -/
theorem create_told (ht : t.calls = if session.close.isSome then 1 else 0) {event : String × Json}
    {u : Counted (Run ω)}
    (h : ((sandbox_create env.ports purpose).told env records
      (.ok session.leased)).exec t = (.ok event, u)) {e : Exn} {v : Counted (Run ω)}
    (hraise : ((sandbox_create env.ports purpose).conclude env.ports records
      (.ok session.leased)).exec t = (.error e, v)) : v.calls = 0 := by
  obtain ⟨hcalls, htell⟩ := told_calls h
  have hterminal : ((sandbox_create env.ports purpose).terminal (.ok session.leased)).exec t =
      (.ok (tool_outcome [] "sandbox-create-failed" (.ok session.leased)), t) := rfl
  unfold Operation.conclude at hraise
  simp only [Prog.exec_bind, Prog.exec_catch, hterminal, htell] at hraise
  obtain ⟨w, hw, hstored | hlost⟩ := append_terminal_exec env event.1 event.2
    (sandbox_create env.ports purpose).unknown u
  · simp only [hstored] at hraise
    exact nomatch (Prod.mk.inj hraise).1
  · obtain ⟨x, hunrecorded, hx⟩ := unrecorded_exec env purpose session
      (sandbox_create env.ports purpose).unknown w
    simp only [hlost, hunrecorded] at hraise
    obtain ⟨-, rfl⟩ := Prod.mk.inj hraise
    have hunknown : (sandbox_create env.ports purpose).unknown.is_any [.SandboxOutcomeUnknownError] =
        true := rfl
    rw [hx, if_pos hunknown, hw, hcalls, ht, Nat.sub_self]

end Given

/-- What `create` was made with is a session to be released, or nothing is open. -/
theorem opening_runs {create : Prog Exn (Run ω) (SandboxSession (Prog Exn (Run ω)))}
    {u v : Counted (Run ω)} {outcome : Except Exn (SandboxSession (Prog Exn (Counted (Run ω))))}
    (hu : u.calls = 0) (h : (opening create).exec u = (outcome, v)) :
    (∃ session : SandboxSession (Prog Exn (Run ω)), outcome = .ok session.leased ∧
        v.calls = if session.close.isSome then 1 else 0) ∨
      ∃ e, outcome = .error e ∧ v.calls = 0 := by
  simp only [opening, Prog.exec_of] at h
  rcases hrun : create.exec u.state with ⟨e | session, run⟩ <;> rw [hrun] at h
  · obtain ⟨rfl, rfl⟩ := Prod.mk.inj h
    exact .inr ⟨e, rfl, hu⟩
  · obtain ⟨rfl, rfl⟩ := Prod.mk.inj h
    exact .inl ⟨session, rfl, by rw [hu, Nat.zero_add]⟩

/-- **When a `create` that raises leaves no sandbox open.** -/
theorem sandbox_create_leaves_none_open (purpose : Purpose)
    (create : Prog Exn (Run ω) (SandboxSession (Prog Exn (Run ω)))) (run : Run ω) :
    LeavesNoneOpen env purpose create run ↔ CanReport env purpose create run := by
  unfold LeavesNoneOpen CanReport invoke_sandbox_create Operation.behind sandbox_guards
  rw [Prog.exec_bind, require_last_event_exec]
  cases hlast : run.self.has_last_event with
  | false =>
    refine iff_of_true (fun e t h => ?_) (by rintro ⟨⟩)
    obtain ⟨-, rfl⟩ := Prod.mk.inj h
    rfl
  | true =>
    have hraises : ∀ e s, ∃ e' t, ((sandbox_create env.ports purpose).gate_failed e).exec s =
        (.error e', t) := fun e s => ⟨_, s, rfl⟩
    have hmade := made_runs env (sandbox_create env.ports purpose) (fresh_ids_quiet env) hraises
      (opening create) ⟨run, 0⟩
    have hattempt := attempt_exec env (sandbox_create env.ports purpose) (opening create) ⟨run, 0⟩
    simp only [if_true, true_imp_iff, Operation.run, Prog.exec_catch, hattempt]
    rcases hrun : ((sandbox_create env.ports purpose).made env (opening create)).exec ⟨run, 0⟩ with
      ⟨e | ⟨records, outcome⟩, t⟩ <;> rw [hrun] at hmade
    · -- Nothing was created.
      refine iff_of_true (fun e' t' h => ?_) fun _ _ _ _ _ h => by cases (Prod.mk.inj h).1
      obtain ⟨-, rfl⟩ := Prod.mk.inj h
      rcases hmade with hcalls | ⟨e'', u, hu, hraise⟩
      · exact hcalls
      · obtain ⟨-, rfl⟩ := Prod.mk.inj hraise
        exact hu
    · obtain ⟨u, v, hu, hcall, ht⟩ := hmade
      rcases opening_runs hu hcall with ⟨session, rfl, hv⟩ | ⟨e, rfl, hv⟩
      · have hopen := ht.trans hv
        rcases htold : ((sandbox_create env.ports purpose).told env records (.ok session.leased)).exec t
          with ⟨e | event, w⟩
        · -- The terminal event is stopped, and with it the operation.
          obtain ⟨x, hconclude, hx⟩ := create_stopped hopen htold
          simp only [hconclude, Prog.exec_throw]
          constructor
          · intro h records' session' t' e' u' heq hclose htold'
            obtain ⟨hok, rfl⟩ := Prod.mk.inj heq
            obtain ⟨rfl, hsession⟩ := Prod.mk.inj (Except.ok.inj hok)
            obtain rfl := Except.ok.inj hsession
            obtain ⟨he, -⟩ := Prod.mk.inj (htold.symm.trans htold')
            obtain rfl := Except.error.inj he
            by_contra hunknown
            have hzero := h _ x rfl
            rw [hx, if_neg hunknown, hopen] at hzero
            have hsome : session.close.isSome = true := by simpa [SandboxSession.leased] using hclose
            rw [if_pos hsome] at hzero
            exact Nat.one_ne_zero hzero
          · intro h e' x' heq
            obtain ⟨-, rfl⟩ := Prod.mk.inj heq
            rw [hx]
            split_ifs with hunknown
            · rfl
            · rw [hopen]
              split_ifs with hsome
              · have hclose : session.leased.close.isSome = true := by
                  simpa [SandboxSession.leased] using hsome
                exact absurd (h _ _ _ _ _ rfl hclose htold) hunknown
              · rfl
        · -- The terminal event is built.
          constructor
          · intro _ records' session' t' e' u' heq _ htold'
            obtain ⟨hok, rfl⟩ := Prod.mk.inj heq
            obtain ⟨rfl, hsession⟩ := Prod.mk.inj (Except.ok.inj hok)
            obtain rfl := Except.ok.inj hsession
            cases (Prod.mk.inj (htold.symm.trans htold')).1
          · intro _ e' x heq
            simp only at heq
            rcases hconclude : ((sandbox_create env.ports purpose).conclude env.ports records
                (.ok session.leased)).exec t with ⟨e | b, y⟩ <;> rw [hconclude] at heq
            · obtain ⟨-, rfl⟩ := Prod.mk.inj heq
              exact create_told hopen htold hconclude
            · cases (Prod.mk.inj heq).1
      · -- `create` raised.
        refine iff_of_true (fun e' x heq => ?_) fun records' session' t' e' u' heq => ?_
        · have hcalls := create_conclude_quiet env purpose records e t
          simp only at heq
          rcases hconclude : ((sandbox_create env.ports purpose).conclude env.ports records
              (.error e)).exec t with ⟨e'' | b, y⟩ <;> rw [hconclude] at heq hcalls
          · obtain ⟨-, rfl⟩ := Prod.mk.inj heq
            exact hcalls.trans (ht.trans hv)
          · cases (Prod.mk.inj heq).1
        · cases (Prod.mk.inj (Except.ok.inj (Prod.mk.inj heq).1)).2

/-! ## Leases -/

/-- **When no sandbox is leaked.** Any number of calls of a session's `close`
closes the sandbox exactly once where it has a `close` and the records of the
operation can be built. A `create` that raises leaves no sandbox open where the
terminal event of a created one can be built. -/
theorem no_sandbox_is_leaked_iff (env : Environment ω) (purpose : Purpose) (run : Run ω) :
    (∀ (close : Option (Prog Exn (Run ω) Unit)) (others : List (Prog Exn (Run ω) Unit)),
      ((session_closes env purpose close others).exec ⟨run, 0⟩).2.calls = 1 ↔
        close.isSome = true ∧ CanClose env purpose run) ∧
    ∀ create : Prog Exn (Run ω) (SandboxSession (Prog Exn (Run ω))),
      LeavesNoneOpen env purpose create run ↔ CanReport env purpose create run := by
  refine ⟨fun close others => ?_, fun create => sandbox_create_leaves_none_open env purpose create run⟩
  obtain ⟨t, hcloses, hcalls⟩ := session_closes_calls env purpose close others ⟨run, 0⟩
  rw [hcloses]
  simp only [hcalls]
  cases close with
  | none => simp [invoke_sandbox_close]
  | some close => simpa using sandbox_close_calls env purpose close run

end Lease

/-- Without an ID for its records, `close` marks the session closed and the
sandbox stays open, also when it is called again. With no fourth ID, a sandbox
that was created stays open behind the error. -/
theorem sandboxes_are_leaked :
    ((session_closes (sample_environment 0) .target_tests (some (pure ())) [pure ()]).exec
      ⟨⟨sample_worker, 0⟩, 0⟩).2.calls = 0 ∧
    ∃ e t, (invoke_sandbox_create (sample_environment 3).ports .target_tests
      (some (opening (pure ⟨some (pure ())⟩)))).exec ⟨⟨sample_worker, 0⟩, 0⟩ = (.error e, t) ∧
      sandbox_family.refuses e = true ∧ t.calls = 1 :=
  ⟨rfl, _, _, rfl, by decide, rfl⟩

end AppContracts.ObserverRuntime
