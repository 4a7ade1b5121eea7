/-
What the errors of the journaled operations prove.

A caller reads the `.. JournalError` of an operation as the proof that nothing
was started, and its outcome-unknown and call-failed variants as the news that
the call may have happened. An operation runs over an environment: a store, an
id factory and a clock that may do anything. Its calls are counted.

The operation takes one more ID and one more time after its call, for the
terminal event, and an exception there leaves through the clause that names the
refusals. `refusal_proves_no_call_iff` says for which environments the refusal is
a proof, and a failure after the call is told as an unknown outcome: both hang on
the one step between the call and the record, the building of the terminal event.
-/
import AppContracts.ObserverRuntime

set_option autoImplicit false

namespace AppContracts.ObserverRuntime

open Stateful GatedDispatch

/-! ## Environments -/

/-- The state of a run: the worker's attributes, and the rest of the world. -/
structure Run (ω : Type) : Type where
  self : Worker
  world : ω

/-- What a worker is constructed with. -/
structure Environment (ω : Type) : Type where
  store : Store (Prog Exn ω)
  id_factory : Prog Exn ω (Arg String)
  clock : Prog Exn ω Moment

section Counting

variable {ω σ α β : Type}

/-- A program of the world, in a counted run. -/
def on_world (p : Prog Exn ω α) : Prog Exn (Counted (Run ω)) α :=
  .of fun s => ((p.exec s.state.world).1,
    { s with state := { s.state with world := (p.exec s.state.world).2 } })

/-- The ports of a worker in an environment. -/
def Environment.ports (env : Environment ω) : Ports (Prog Exn (Counted (Run ω))) where
  self := .of fun s => (.ok s.state.self, s)
  update := fun f => .of fun s => (.ok (), { s with state := { s.state with self := f s.state.self } })
  id_factory := on_world env.id_factory
  clock := on_world env.clock
  store := env.store.map on_world

/-- The program makes no counted call. -/
def Quiet (p : Prog Exn (Counted σ) α) : Prop := ∀ s, (p.exec s).2.calls = s.calls

namespace Quiet

theorem returns (a : α) : Quiet (pure a : Prog Exn (Counted σ) α) := fun _ => rfl

theorem raises (e : Exn) : Quiet (throw e : Prog Exn (Counted σ) α) := fun _ => rfl

theorem bind {p : Prog Exn (Counted σ) β} {f : β → Prog Exn (Counted σ) α} (hp : Quiet p)
    (hf : ∀ b, Quiet (f b)) : Quiet (p >>= f) := by
  intro s
  have hcalls := hp s
  rw [Prog.exec_bind]
  rcases hrun : p.exec s with ⟨e | b, t⟩ <;> rw [hrun] at hcalls
  · exact hcalls
  · exact (hf b t).trans hcalls

theorem catches {p : Prog Exn (Counted σ) α} {handler : Exn → Prog Exn (Counted σ) α} (hp : Quiet p)
    (hh : ∀ e, Quiet (handler e)) : Quiet (tryCatch p handler) := by
  intro s
  have hcalls := hp s
  rw [Prog.exec_catch]
  rcases hrun : p.exec s with ⟨e | b, t⟩ <;> rw [hrun] at hcalls
  · exact (hh e t).trans hcalls
  · exact hcalls

theorem lift (x : Except Exn α) : Quiet (GatedDispatch.lift x : Prog Exn (Counted σ) α) := by
  cases x with
  | ok a => exact returns a
  | error e => exact raises e

theorem branch {c : Prop} [Decidable c] {p q : Prog Exn (Counted σ) α} (hp : Quiet p) (hq : Quiet q) :
    Quiet (if c then p else q) := by
  split_ifs
  · exact hp
  · exact hq

theorem on_world (p : Prog Exn ω α) : Quiet (ObserverRuntime.on_world p) := fun _ => rfl

end Quiet

/-! ### The parts of an operation make no call -/

variable (env : Environment ω)

theorem self_quiet : Quiet env.ports.self := fun _ => rfl

theorem update_quiet (f : Worker → Worker) : Quiet (env.ports.update f) := fun _ => rfl

theorem next_id_quiet : Quiet (next_id env.ports) := by
  refine Quiet.bind (.on_world _) fun answer => ?_
  cases answer with
  | of value => exact .branch (.returns _) (.raises _)
  | other => exact .raises _

theorem timestamp_quiet : Quiet (timestamp env.ports) := by
  refine Quiet.bind (.on_world _) fun moment => ?_
  rcases moment with _ | _ | isoformat
  · exact .raises _
  · exact .raises _
  · exact .returns _

theorem base_event_quiet (event_type : String) (sequence : ℕ) (event_id agent_id : String) :
    Quiet (base_event env.ports event_type sequence event_id agent_id) := by
  refine Quiet.bind (self_quiet env) fun self => .branch (.raises _) (.branch (.raises _) ?_)
  exact .bind (timestamp_quiet env) fun _ => .returns _

/-- The fields that all events of a worker have. -/
def base_fields (self : Worker) (event_type : String) (sequence : ℕ)
    (event_id agent_id timestamp : String) : List (String × Json) :=
  [("schema_version", .int 1), ("event_id", text event_id), ("event_type", text event_type),
    ("process_id", text self.process_id), ("run_id", text self.run_id),
    ("branch_id", text self.branch_id), ("task_id", text self.task_id),
    ("agent_id", text agent_id), ("sequence", .int sequence), ("occurred_at", text timestamp),
    ("recorded_at", text timestamp), ("classification", text "internal"),
    ("redaction_status", text "complete")]

variable {env} in
/-- What `base_event` returns: the common fields, with the time of the clock. -/
theorem base_event_ok {event_type event_id agent_id : String} {sequence : ℕ}
    {base : List (String × Json)} {t u : Counted (Run ω)}
    (h : (base_event env.ports event_type sequence event_id agent_id).exec t = (.ok base, u)) :
    ∃ timestamp, base = base_fields t.state.self event_type sequence event_id agent_id timestamp := by
  have hself : env.ports.self.exec t = (.ok t.state.self, t) := rfl
  simp only [base_event, Prog.exec_bind, hself] at h
  split_ifs at h
  · cases (Prod.mk.inj h).1
  · cases (Prod.mk.inj h).1
  · rw [Prog.exec_bind] at h
    split at h
    · rename_i timestamp v _
      obtain ⟨hbase, -⟩ := Prod.mk.inj h
      exact ⟨timestamp, (Except.ok.inj hbase).symm⟩
    · cases (Prod.mk.inj h).1

theorem fresh_ids_quiet : Quiet (fresh_ids env.ports) := by
  refine .bind (next_id_quiet env) fun _ => .bind (next_id_quiet env) fun _ => ?_
  exact .bind (next_id_quiet env) fun _ => .returns _

theorem claimed_ids_quiet : Quiet (claimed_ids env.ports) :=
  .bind (self_quiet env) fun _ => .returns _

theorem intention_quiet (labels : Labels) {ids : Prog Exn (Counted (Run ω)) (String × String × String)}
    (hids : Quiet ids) : Quiet (intention env.ports labels ids) := by
  refine .bind hids fun _ => .bind (timestamp_quiet env) fun _ => .bind (self_quiet env) fun _ => ?_
  exact .bind (base_event_quiet env _ _ _ _) fun _ => .returns _

theorem terminal_event_quiet (agent_id event_type : String) (fields : List (String × Json)) :
    Quiet (terminal_event env.ports agent_id event_type fields) := by
  refine .bind (self_quiet env) fun _ => .bind (next_id_quiet env) fun _ => ?_
  exact .bind (base_event_quiet env _ _ _ _) fun _ => .returns _

/-- Appending raises one exception only. -/
theorem append_terminal_exec (event_id : String) (event : Json) (unknown : Exn)
    (s : Counted (Run ω)) : ∃ t, t.calls = s.calls ∧
      ((append_terminal env.ports event_id event unknown).exec s = (.ok (), t) ∨
        (append_terminal env.ports event_id event unknown).exec s = (.error unknown, t)) := by
  have hstored : ∃ t, t.calls = s.calls ∧ ((∃ cursor, (stored env.ports event unknown).exec s = (.ok cursor, t)) ∨
      (stored env.ports event unknown).exec s = (.error unknown, t)) := by
    unfold stored Environment.ports Store.map
    cases env.store.append with
    | none => exact ⟨s, rfl, .inr rfl⟩
    | some append =>
      have hcalls := Quiet.on_world (append event) s
      simp only [Option.map_some, Prog.exec_catch]
      rcases hrun : (on_world (append event)).exec s with ⟨e | cursor, t⟩ <;> rw [hrun] at hcalls
      · exact ⟨t, hcalls, .inr rfl⟩
      · exact ⟨t, hcalls, .inl ⟨cursor, rfl⟩⟩
  obtain ⟨t, hcalls, ⟨cursor, hrun⟩ | hrun⟩ := hstored
  · refine ⟨{ t with state := { t.state with self := t.state.self.advance event_id cursor } }, hcalls,
      .inl ?_⟩
    rw [append_terminal, Prog.exec_bind, hrun]
    rfl
  · refine ⟨t, hcalls, .inr ?_⟩
    rw [append_terminal, Prog.exec_bind, hrun]

/-- **When the terminal event can be built**: neither the run nor the invocation
is finished, the id factory gives a valid ID and the clock a time. -/
theorem terminal_event_returns_iff {event_type : String} (hagent : event_type ≠ "agent_finished")
    (hrun : event_type ≠ "run_finished") (agent_id : String) (fields : List (String × Json))
    (t : Counted (Run ω)) :
    (∃ event u, (terminal_event env.ports agent_id event_type fields).exec t = (.ok event, u)) ↔
      t.state.self.run_finished = false ∧ t.state.self.agent_finished = false ∧
        ∃ value world isoformat, env.id_factory.exec t.state.world = (.ok (.of value), world) ∧
          is_safe_id_part value = true ∧ (env.clock.exec world).1 = .ok (.at isoformat) := by
  have hself : ∀ s, env.ports.self.exec s = (.ok s.state.self, s) := fun _ => rfl
  have hfactory : ∀ s, env.ports.id_factory.exec s = ((env.id_factory.exec s.state.world).1,
      { s with state := { s.state with world := (env.id_factory.exec s.state.world).2 } }) := fun _ => rfl
  have hclock : ∀ s, env.ports.clock.exec s = ((env.clock.exec s.state.world).1,
      { s with state := { s.state with world := (env.clock.exec s.state.world).2 } }) := fun _ => rfl
  simp only [terminal_event, next_id, base_event, timestamp, Prog.exec_bind, hself, hfactory]
  -- the ID first: a factory that raises, one that gives no valid ID, one that does
  rcases env.id_factory.exec t.state.world with ⟨e | ⟨value⟩ | _, world⟩
  · simp
  · by_cases hvalue : is_safe_id_part value = true
    · simp only [hvalue, if_true, Prog.exec_pure]
      cases hfinished : t.state.self.run_finished with
      | true => simp [hrun]
      | false =>
        cases hterminal : t.state.self.agent_finished with
        | true => simp [hrun, hagent]
        | false =>
          simp only [Bool.false_eq_true, false_and, if_false, Prog.exec_bind, hclock]
          rcases hmoment : (env.clock.exec world).1 with e | _ | _ | isoformat <;>
            simp [hvalue, hmoment]
    · simp [hvalue]
  · simp

/-- Nor is recording the terminal event a call. -/
theorem append_terminal_quiet (event_id : String) (event : Json) (unknown : Exn) :
    Quiet (append_terminal env.ports event_id event unknown) := by
  intro s
  obtain ⟨t, hcalls, hrun | hrun⟩ := append_terminal_exec env event_id event unknown s
  · rw [hrun]
    exact hcalls
  · rw [hrun]
    exact hcalls

/-! ### The gate makes the call -/

/-- The guarded call gives an outcome. -/
theorem guarded_exec (call : Prog Exn σ α) (s : σ) :
    (guarded call).exec s = (.ok (call.exec s).1, (call.exec s).2) := by
  unfold guarded
  rw [Prog.exec_catch, Prog.exec_bind]
  rcases call.exec s with ⟨e | a, t⟩ <;> rfl

/-- What a store method records is not a call. -/
theorem persist_quiet (store : Store (Prog Exn ω)) (record_checkpoint append : Json → Prog Exn ω ℕ)
    (checkpoint intent : Json) (once : Bool) :
    Quiet (persist (store.map on_world (n := Prog Exn (Counted (Run ω))))
      (fun doc => on_world (record_checkpoint doc)) (fun doc => on_world (append doc)) checkpoint intent
      once) := by
  unfold persist Store.map
  cases once with
  | true =>
    simp only [if_true]
    cases store.record_checkpoint_and_intent_once with
    | none => exact .raises _
    | some persist_once => exact .on_world _
  | false =>
    simp only [Bool.false_eq_true, if_false]
    cases store.record_checkpoint_and_intent with
    | none => exact .bind (.on_world _) fun _ => .on_world _
    | some persist_pair => exact .on_world _

/-- **The gate makes the call once, or it raises and makes none.** -/
theorem gate_runs (checkpoint intent : Json) (call : Prog Exn (Counted (Run ω)) α) (once : Bool)
    {c : Option (ℕ → Prog Exn (Counted (Run ω)) Unit)}
    (hcallback : ∀ f, c = some f → ∀ cursor, Quiet (f cursor)) (s : Counted (Run ω)) :
    match (run_gated_dispatch env.ports.store checkpoint intent (some (guarded call)) once
      (c.map Arg.of)).exec s with
    | (.ok (_, outcome), t) => ∃ u, u.calls = s.calls ∧ call.exec u = (outcome, t)
    | (.error _, t) => t.calls = s.calls := by
  -- recording calls nothing, and after it the call is made once, with its outcome handed on
  have hdispatch : ∀ recorded : Prog Exn (Counted (Run ω)) ℕ, Quiet recorded →
      match (record_and_dispatch recorded (guarded call) once).exec s with
      | (.ok (_, outcome), t) => ∃ u, u.calls = s.calls ∧ call.exec u = (outcome, t)
      | (.error _, t) => t.calls = s.calls := by
    intro recorded hquiet
    have hcalls := hquiet s
    rw [record_and_dispatch_exec]
    rcases hrun : recorded.exec s with ⟨e | cursor, t⟩ <;> rw [hrun] at hcalls
    · exact hcalls
    · simp only [guarded_exec]
      exact ⟨t, hcalls, rfl⟩
  unfold run_gated_dispatch Environment.ports
  cases hr : env.store.record_checkpoint with
  | none => simp [Store.map, hr]
  | some record_checkpoint =>
    cases ha : env.store.append with
    | none => simp [Store.map, hr, ha]
    | some append =>
      have hquiet := persist_quiet env.store record_checkpoint append checkpoint intent once
      simp only [Store.map, hr, ha, Option.map_some] at hquiet ⊢
      cases c with
      | none => exact hdispatch _ (.bind hquiet fun _ => .returns _)
      | some f =>
        exact hdispatch _ (.bind hquiet fun cursor => .bind (hcallback f rfl cursor) fun _ =>
          .returns _)

/-- An operation up to its call. -/
def Operation.made (op : Operation (Prog Exn (Counted (Run ω))) α β) (env : Environment ω)
    (call : Prog Exn (Counted (Run ω)) α) : Prog Exn (Counted (Run ω)) (Intention × Except Exn α) := do
  let intention ← intention env.ports op.labels op.ids
  let outcome ← dispatched env.ports intention op.once op.reserved op.gate_failed call
  return (intention, outcome)

/-- With its records built, an operation makes its call once, or its gate fails. -/
theorem dispatched_runs (op : Operation (Prog Exn (Counted (Run ω))) α β)
    (hfailed : ∀ e s, ∃ e' t, (op.gate_failed e).exec s = (.error e', t)) (intention : Intention)
    (call : Prog Exn (Counted (Run ω)) α) (s : Counted (Run ω)) :
    match (dispatched env.ports intention op.once op.reserved op.gate_failed call).exec s with
    | (.ok outcome, t) => ∃ u v, u.calls = s.calls ∧ call.exec u = (outcome, v) ∧ t.calls = v.calls
    | (.error e, t) => ∃ e' u, u.calls = s.calls ∧ (op.gate_failed e').exec u = (.error e, t) := by
  have hgate := gate_runs env intention.checkpoint intention.intent call op.once
    (c := if op.reserved then some fun cursor =>
      env.ports.update (Worker.advance intention.intent_id cursor) else none)
    (by
      intro f hf cursor
      split_ifs at hf
      obtain rfl := Option.some.inj hf
      exact update_quiet env _) s
  have hcallback : Option.map Arg.of (if op.reserved then some fun cursor =>
      env.ports.update (Worker.advance intention.intent_id cursor) else none) =
      if op.reserved then some (.of fun cursor =>
        env.ports.update (Worker.advance intention.intent_id cursor)) else none := by
    split_ifs <;> rfl
  rw [hcallback] at hgate
  simp only [dispatched, Prog.exec_bind, Prog.exec_catch]
  split at hgate
  · rename_i cursor outcome u hrun
    obtain ⟨v, hv, hcall⟩ := hgate
    rw [hrun]
    cases op.reserved with
    | true => exact ⟨v, u, hv, hcall, rfl⟩
    | false => exact ⟨v, u, hv, hcall, rfl⟩
  -- the gate raised, so `gate_failed` is asked which error that is
  · rename_i e u hrun
    obtain ⟨e', v, hraise⟩ := hfailed e u
    rw [hrun]
    simp only [hraise]
    exact ⟨e, u, hgate, hraise⟩

/-- **Up to the call** an operation makes its call once, or its gate fails, or
it raises before the gate. -/
theorem made_runs (op : Operation (Prog Exn (Counted (Run ω))) α β) (hids : Quiet op.ids)
    (hfailed : ∀ e s, ∃ e' t, (op.gate_failed e).exec s = (.error e', t))
    (call : Prog Exn (Counted (Run ω)) α) (s : Counted (Run ω)) :
    match (op.made env call).exec s with
    | (.ok (_, outcome), t) =>
      ∃ u v, u.calls = s.calls ∧ call.exec u = (outcome, v) ∧ t.calls = v.calls
    | (.error e, t) => t.calls = s.calls ∨
      ∃ e' u, u.calls = s.calls ∧ (op.gate_failed e').exec u = (.error e, t) := by
  have hintention := intention_quiet env op.labels hids s
  unfold Operation.made
  rw [Prog.exec_bind]
  rcases hi : (intention env.ports op.labels op.ids).exec s with ⟨e | intention, t⟩ <;>
    rw [hi] at hintention
  · exact .inl hintention
  · have hdispatched := dispatched_runs env op hfailed intention call t
    rw [show t.calls = s.calls from hintention] at hdispatched
    simp only [Prog.exec_bind]
    rcases hrun : (dispatched env.ports intention op.once op.reserved op.gate_failed call).exec t with
      ⟨e | outcome, u⟩ <;> rw [hrun] at hdispatched
    · exact .inr hdispatched
    · exact hdispatched

/-- An operation makes its call, and then concludes. -/
theorem attempt_exec (op : Operation (Prog Exn (Counted (Run ω))) α β)
    (call : Prog Exn (Counted (Run ω)) α) (s : Counted (Run ω)) :
    (op.attempt env.ports call).exec s = match (op.made env call).exec s with
      | (.ok (intention, outcome), t) => (op.conclude env.ports intention outcome).exec t
      | (.error e, t) => (.error e, t) := by
  unfold Operation.attempt Operation.made
  simp only [Prog.exec_bind]
  rcases (intention env.ports op.labels op.ids).exec s with ⟨e | intention, t⟩
  · rfl
  · simp only
    rcases (dispatched env.ports intention op.once op.reserved op.gate_failed call).exec t with
      ⟨e | outcome, u⟩ <;> rfl

/-! ## What an operation may raise -/

/-- The error of an operation that stands for a refusal, its variant for a call
whose outcome is unknown, and the one for a call that failed, if it has one. -/
structure Family : Type where
  refused : ExnClass
  unknown : ExnClass
  failed : List ExnClass
  deriving DecidableEq

/-- The variants, for calls that were made. -/
def Family.exempt (family : Family) : List ExnClass := family.unknown :: family.failed

/-- The exception tells that the outcome is unknown. -/
def Family.tells (family : Family) (e : Exn) : Bool := e.is_any [family.unknown]

/-- The exception is the refusal, and none of its variants. -/
def Family.refuses (family : Family) (e : Exn) : Bool := e.is_any [family.refused] && !e.is_any family.exempt

/-- What the proofs need to know of an operation and its call. -/
structure Operation.Sound (op : Operation (Prog Exn (Counted (Run ω))) α β) (family : Family)
    (call : Prog Exn (Run ω) α) : Prop where
  ids : Quiet op.ids
  /-- A failed gate raises, and what it raises is a refusal only where it makes
  no call. -/
  gate_failed : ∀ e s, ∃ e' t, (op.gate_failed e).exec s = (.error e', t) ∧
    (family.refuses (op.outer e') = true → t.calls = s.calls)
  terminal : ∀ outcome, Quiet (op.terminal outcome)
  unknown : family.tells op.unknown = true
  unrecorded : ∀ u e s, ∃ t, (op.unrecorded (call.exec u).1 e).exec s = (.error e, t) ∧
    s.calls ≤ t.calls
  finish : ∀ u s e t, (op.finish (call.exec u).1).exec s = (.error e, t) →
    family.refuses (op.outer e) = false
  /-- The exceptions that leave as a refusal are those that are no variant. -/
  outer : ∀ e, family.refuses (op.outer e) = !e.is_any family.exempt
  /-- And those that leave as an unknown outcome are those that were one. -/
  outer_tells : ∀ e, family.tells (op.outer e) = family.tells e

theorem Family.exempt_of_tells {family : Family} {e : Exn} (h : family.tells e = true) :
    e.is_any family.exempt = true := by
  simp only [Family.tells, Family.exempt, Exn.is_any, List.any_cons, List.any_nil,
    Bool.or_false] at h ⊢
  rw [h, Bool.true_or]

/-- The terminal event of an operation. -/
def Operation.told (op : Operation (Prog Exn (Counted (Run ω))) α β) (env : Environment ω)
    (intention : Intention) (outcome : Except Exn α) : Prog Exn (Counted (Run ω)) (String × Json) := do
  let terminal ← op.terminal outcome
  op.tell env.ports intention terminal

/-- All of an operation between its call and its result: the terminal event is
built, and stored. What fails here fails after the call. -/
def Operation.recorded (op : Operation (Prog Exn (Counted (Run ω))) α β) (env : Environment ω)
    (intention : Intention) (outcome : Except Exn α) : Prog Exn (Counted (Run ω)) Unit := do
  let (event_id, event) ← op.told env intention outcome
  append_terminal env.ports event_id event op.unknown

/-- Where the call is made, the terminal event can be built in the state that it
leaves, or what stops it says itself that the outcome is unknown. -/
def Operation.Tellable (op : Operation (Prog Exn (Counted (Run ω))) α β) (family : Family)
    (env : Environment ω) (call : Prog Exn (Run ω) α) (s : Counted (Run ω)) : Prop :=
  ∀ intention outcome t e u, (op.made env call.counted).exec s = (.ok (intention, outcome), t) →
    (op.told env intention outcome).exec t = (.error e, u) → family.tells e = true

section Sound

variable {op : Operation (Prog Exn (Counted (Run ω))) α β} {family : Family} {env}
  {call : Prog Exn (Run ω) α}

variable (env) in
/-- A counted call counts once, and a refusal without it not at all. -/
theorem made_counts (hop : op.Sound family call) (s : Counted (Run ω)) :
    match (op.made env call.counted).exec s with
    | (.ok (_, outcome), t) => t.calls = s.calls + 1 ∧ ∃ u, outcome = (call.exec u).1
    | (.error e, t) => family.refuses (op.outer e) = true → t.calls = s.calls := by
  have hfailed : ∀ e s, ∃ e' t, (op.gate_failed e).exec s = (.error e', t) := by
    intro e s
    obtain ⟨e', t, hraise, -⟩ := hop.gate_failed e s
    exact ⟨e', t, hraise⟩
  have hmade := made_runs env op hop.ids hfailed call.counted s
  split at hmade
  · rename_i intention outcome t hrun
    obtain ⟨u, v, hu, hcall, ht⟩ := hmade
    obtain ⟨houtcome, rfl⟩ := Prod.mk.inj hcall
    exact ⟨by rw [ht, ← hu], u.state, houtcome.symm⟩
  · rename_i e t hrun
    rcases hmade with hcalls | ⟨e', u, hu, hraise⟩
    · exact fun _ => hcalls
    · obtain ⟨e'', t', hraise', hcalls⟩ := hop.gate_failed e' u
      obtain ⟨he, rfl⟩ := Prod.mk.inj (hraise.symm.trans hraise')
      obtain rfl := Except.error.inj he
      exact fun href => (hcalls href).trans hu

/-- After the call: where the terminal event cannot be built, the operation
raises what stops it. -/
theorem conclude_of_told (hop : op.Sound family call) {intention : Intention} {outcome : Except Exn α}
    (hcall : ∃ u, outcome = (call.exec u).1) {t u : Counted (Run ω)} {e : Exn}
    (h : (op.told env intention outcome).exec t = (.error e, u)) :
    ∃ v, (op.conclude env.ports intention outcome).exec t = (.error e, v) ∧ t.calls ≤ v.calls := by
  obtain ⟨called, rfl⟩ := hcall
  have hterminal := hop.terminal (call.exec called).1 t
  unfold Operation.told at h
  unfold Operation.conclude
  simp only [Prog.exec_bind, Prog.exec_catch] at h ⊢
  rcases hrun : (op.terminal (call.exec called).1).exec t with ⟨e' | terminal, x⟩ <;>
    rw [hrun] at hterminal h
  · obtain ⟨he, rfl⟩ := Prod.mk.inj h
    obtain rfl := Except.error.inj he
    exact ⟨_, rfl, hterminal.ge⟩
  · have htell : ((op.tell env.ports intention terminal).exec x).2.calls = x.calls :=
      terminal_event_quiet env _ _ _ x
    have htold : (op.tell env.ports intention terminal).exec x = (.error e, u) := h
    obtain ⟨w, hunrecorded, hle⟩ := hop.unrecorded called e u
    rw [htold] at htell
    refine ⟨w, by simp only [htold, hunrecorded], ?_⟩
    have hx : x.calls = t.calls := hterminal
    have hu : u.calls = x.calls := htell
    omega

/-- And it raises a refusal only there. -/
theorem told_of_conclude (hop : op.Sound family call) {intention : Intention} {outcome : Except Exn α}
    (hcall : ∃ u, outcome = (call.exec u).1) {t v : Counted (Run ω)} {e : Exn}
    (h : (op.conclude env.ports intention outcome).exec t = (.error e, v))
    (href : family.refuses (op.outer e) = true) :
    ∃ u, (op.told env intention outcome).exec t = (.error e, u) := by
  obtain ⟨called, rfl⟩ := hcall
  unfold Operation.conclude at h
  unfold Operation.told
  simp only [Prog.exec_bind, Prog.exec_catch] at h ⊢
  rcases hrun : (op.terminal (call.exec called).1).exec t with ⟨e' | terminal, x⟩
  · simp only [hrun] at h
    obtain ⟨he, rfl⟩ := Prod.mk.inj h
    obtain rfl := Except.error.inj he
    exact ⟨_, rfl⟩
  · rcases htold : (op.tell env.ports intention terminal).exec x with ⟨e' | ⟨event_id, event⟩, y⟩
    · obtain ⟨w, hunrecorded, -⟩ := hop.unrecorded called e' y
      simp only [hrun, htold, hunrecorded] at h
      obtain ⟨he, -⟩ := Prod.mk.inj h
      obtain rfl := Except.error.inj he
      exact ⟨y, htold⟩
    · -- The event is built; where it is not stored the outcome is unknown.
      obtain ⟨z, -, hstored | hlost⟩ := append_terminal_exec env event_id event op.unknown y
      · simp only [hrun, htold, hstored] at h
        rw [hop.finish called z e v h] at href
        cases href
      · obtain ⟨w, hunrecorded, -⟩ := hop.unrecorded called op.unknown z
        simp only [hrun, htold, hlost, hunrecorded] at h
        obtain ⟨he, -⟩ := Prod.mk.inj h
        rw [← Except.error.inj he, hop.outer, Family.exempt_of_tells hop.unknown] at href
        cases href

/-- What fails after the call is the building of the event, or the outcome is
unknown. -/
theorem conclude_of_recorded (hop : op.Sound family call) {intention : Intention}
    {outcome : Except Exn α} (hcall : ∃ u, outcome = (call.exec u).1) {t u : Counted (Run ω)} {e : Exn}
    (h : (op.recorded env intention outcome).exec t = (.error e, u)) :
    (∃ u, (op.told env intention outcome).exec t = (.error e, u)) ∨
      ∃ v, (op.conclude env.ports intention outcome).exec t = (.error op.unknown, v) := by
  obtain ⟨called, rfl⟩ := hcall
  unfold Operation.recorded at h
  rw [Prog.exec_bind] at h
  rcases htold : (op.told env intention (call.exec called).1).exec t with ⟨e' | ⟨event_id, event⟩, y⟩
  · rw [htold] at h
    obtain ⟨he, rfl⟩ := Prod.mk.inj h
    obtain rfl := Except.error.inj he
    exact .inl ⟨_, rfl⟩
  · rw [htold] at h
    -- the event was built and its append failed: the outcome is unknown
    obtain ⟨z, -, hstored | hlost⟩ := append_terminal_exec env event_id event op.unknown y
    · simp only [hstored] at h
      cases (Prod.mk.inj h).1
    · unfold Operation.told at htold
      unfold Operation.conclude
      rw [Prog.exec_bind] at htold ⊢
      rcases hrun : (op.terminal (call.exec called).1).exec t with ⟨e' | terminal, x⟩
      · rw [hrun] at htold
        cases (Prod.mk.inj htold).1
      · rw [hrun] at htold
        obtain ⟨w, hunrecorded, -⟩ := hop.unrecorded called op.unknown z
        exact .inr ⟨w, by simp only [Prog.exec_bind, Prog.exec_catch, htold, hlost, hunrecorded]⟩

/-- A program that performs an operation says what became of the call: its
refusals prove that none was made, and where something fails after the call it
raises the unknown outcome. -/
structure Operation.Honest {γ : Type} (op : Operation (Prog Exn (Counted (Run ω))) α β)
    (family : Family) (env : Environment ω) (guards : Prog Exn (Counted (Run ω)) Unit)
    (call : Prog Exn (Run ω) α) (p : Prog Exn (Counted (Run ω)) γ) (s : Counted (Run ω)) : Prop where
  refusal : ∀ e t, p.exec s = (.error e, t) → family.refuses e = true → t.calls = s.calls
  failure : ∀ s' intention outcome t e u, guards.exec s = (.ok (), s') →
    (op.made env call.counted).exec s' = (.ok (intention, outcome), t) →
    (op.recorded env intention outcome).exec t = (.error e, u) →
    ∃ e' v, p.exec s = (.error e', v) ∧ family.tells e' = true

/-- An operation, after its guards. -/
theorem run_exec (op : Operation (Prog Exn (Counted (Run ω))) α β)
    (call : Prog Exn (Counted (Run ω)) α) (s : Counted (Run ω)) :
    (op.run env.ports call).exec s = match (op.made env call).exec s with
      | (.ok (intention, outcome), t) => match (op.conclude env.ports intention outcome).exec t with
        | (.ok b, u) => (.ok b, u)
        | (.error e, u) => (.error (op.outer e), u)
      | (.error e, t) => (.error (op.outer e), t) := by
  rw [Operation.run, Prog.exec_catch, attempt_exec]
  rcases (op.made env call).exec s with ⟨e | ⟨intention, outcome⟩, t⟩
  · rfl
  · simp only
    rcases (op.conclude env.ports intention outcome).exec t with ⟨e | b, u⟩ <;> rfl

variable (env) in
/-- Where the terminal event cannot be built, an operation raises what stops it. -/
theorem run_of_told (hop : op.Sound family call) {intention : Intention} {outcome : Except Exn α}
    {s t u : Counted (Run ω)} {e : Exn}
    (hmade : (op.made env call.counted).exec s = (.ok (intention, outcome), t))
    (htold : (op.told env intention outcome).exec t = (.error e, u)) :
    ∃ v, (op.run env.ports call.counted).exec s = (.error (op.outer e), v) ∧ s.calls < v.calls := by
  have hcounts := made_counts env hop s
  rw [hmade] at hcounts
  obtain ⟨hone, hcall⟩ := hcounts
  obtain ⟨v, hconclude, hle⟩ := conclude_of_told hop hcall htold
  refine ⟨v, ?_, by omega⟩
  rw [run_exec, hmade]
  simp only [hconclude]

variable (env) in
/-- **What one step decides.** An operation, after its guards, refuses honestly
and tells its failures where whatever keeps the terminal event from being built
says that the outcome is unknown. -/
theorem run_honest (hop : op.Sound family call) {s : Counted (Run ω)}
    (h : op.Tellable family env call s) :
    op.Honest family env (pure ()) call (op.run env.ports call.counted) s := by
  have hcounts := made_counts env hop s
  constructor
  · intro e t hraise href
    rw [run_exec] at hraise
    rcases hmade : (op.made env call.counted).exec s with ⟨e' | ⟨intention, outcome⟩, t'⟩ <;>
      rw [hmade] at hcounts hraise
    · obtain ⟨he, rfl⟩ := Prod.mk.inj hraise
      obtain rfl := Except.error.inj he
      exact hcounts href
    · obtain ⟨-, hcall⟩ := hcounts
      rcases hconclude : (op.conclude env.ports intention outcome).exec t' with ⟨e' | b, w⟩ <;>
        simp only [hconclude] at hraise
      · obtain ⟨he, rfl⟩ := Prod.mk.inj hraise
        obtain rfl := Except.error.inj he
        -- A refusal after the call could only come from the event.
        obtain ⟨u, htold⟩ := told_of_conclude hop hcall hconclude href
        rw [hop.outer, Family.exempt_of_tells (h _ _ _ _ _ hmade htold)] at href
        cases href
      · cases (Prod.mk.inj hraise).1
  · intro s' intention outcome t e u hguards hmade hrecorded
    obtain rfl : s = s' := (Prod.mk.inj hguards).2
    rw [hmade] at hcounts
    rcases conclude_of_recorded hop hcounts.2 hrecorded with ⟨u', htold⟩ | ⟨v, hconclude⟩
    · obtain ⟨v, hraise, -⟩ := run_of_told env hop hmade htold
      exact ⟨_, v, hraise, (hop.outer_tells e).trans (h _ _ _ _ _ hmade htold)⟩
    · refine ⟨_, v, ?_, (hop.outer_tells op.unknown).trans hop.unknown⟩
      rw [run_exec, hmade]
      simp only [hconclude]

/-- The condition on an operation behind its guards: once they are passed, it
can tell the outcome of its call. -/
def Operation.Told (op : Operation (Prog Exn (Counted (Run ω))) α β) (family : Family)
    (guards : Prog Exn (Counted (Run ω)) Unit) (env : Environment ω) (call : Prog Exn (Run ω) α)
    (s : Counted (Run ω)) : Prop :=
  ∀ t, guards.exec s = (.ok (), t) → op.Tellable family env call t

/-- **When an operation behind its guards is honest**, and with it a program that
raises what the operation raises and refuses only where it does. -/
theorem honest_iff {γ : Type} (hop : op.Sound family call)
    {guards : Prog Exn (Counted (Run ω)) Unit} (hguards : Quiet guards)
    {p : Prog Exn (Counted (Run ω)) γ} {s : Counted (Run ω)}
    (hraises : ∀ e t, (op.behind guards env.ports call.counted).exec s = (.error e, t) →
      p.exec s = (.error e, t))
    (hrefuses : ∀ e t, p.exec s = (.error e, t) → family.refuses e = true →
      (op.behind guards env.ports call.counted).exec s = (.error e, t)) :
    op.Honest family env guards call p s ↔ op.Told family guards env call s := by
  have hquiet := hguards s
  unfold Operation.behind at hraises hrefuses
  constructor
  -- a terminal event that cannot be built raises an error of the gate's own, which has to be
  -- of the class that tells
  · intro hhonest s' hpassed intention outcome t e u hmade htold
    have hrecorded : (op.recorded env intention outcome).exec t = (.error e, u) := by
      rw [Operation.recorded, Prog.exec_bind, htold]
    obtain ⟨e', v, hp, htells⟩ := hhonest.failure _ _ _ _ _ _ hpassed hmade hrecorded
    obtain ⟨v', hraise, -⟩ := run_of_told env hop hmade htold
    have hp' := hraises (op.outer e) v' (by rw [Prog.exec_bind, hpassed]; exact hraise)
    obtain ⟨he, -⟩ := Prod.mk.inj (hp.symm.trans hp')
    rw [← hop.outer_tells, ← Except.error.inj he]
    exact htells
  -- conversely every failure after the call tells, so a refusal can only come before it
  · intro htold
    constructor
    · intro e t hp href
      have hraise := hrefuses e t hp href
      rw [Prog.exec_bind] at hraise
      rcases hpassed : guards.exec s with ⟨e' | ⟨⟩, s'⟩ <;> rw [hpassed] at hraise hquiet
      · obtain ⟨-, rfl⟩ := Prod.mk.inj hraise
        exact hquiet
      · exact ((run_honest env hop (htold s' hpassed)).refusal e t hraise href).trans hquiet
    · intro s' intention outcome t e u hpassed hmade hrecorded
      obtain ⟨e', v, hraise, htells⟩ :=
        (run_honest env hop (htold s' hpassed)).failure _ _ _ _ _ _ rfl hmade hrecorded
      exact ⟨e', v, hraises e' v (by rw [Prog.exec_bind, hpassed]; exact hraise), htells⟩

/-- What an operation returns is what it finishes with for an outcome of its call. -/
theorem behind_returns (hop : op.Sound family call) {guards : Prog Exn (Counted (Run ω)) Unit}
    {s t : Counted (Run ω)} {b : β}
    (h : (op.behind guards env.ports call.counted).exec s = (.ok b, t)) :
    ∃ u v w, (op.finish (call.exec u).1).exec v = (.ok b, w) := by
  unfold Operation.behind Operation.run at h
  simp only [Prog.exec_bind, Prog.exec_catch, attempt_exec] at h
  rcases hguards : guards.exec s with ⟨e | ⟨⟩, s'⟩
  · rw [hguards] at h
    exact nomatch (Prod.mk.inj h).1
  · have hmade := made_counts env hop s'
    simp only [hguards] at h
    rcases hrun : (op.made env call.counted).exec s' with ⟨e | ⟨intention, outcome⟩, t'⟩ <;>
      rw [hrun] at hmade
    · simp only [hrun, Prog.exec_throw] at h
      exact nomatch (Prod.mk.inj h).1
    · obtain ⟨-, u, rfl⟩ := hmade
      simp only [hrun] at h
      rcases hconclude : (op.conclude env.ports intention (call.exec u).1).exec t' with ⟨e | b', w⟩
      · simp only [hconclude, Prog.exec_throw] at h
        exact nomatch (Prod.mk.inj h).1
      · simp only [hconclude] at h
        obtain rfl := Except.ok.inj (Prod.mk.inj h).1
        unfold Operation.conclude at hconclude
        simp only [Prog.exec_bind, Prog.exec_catch] at hconclude
        -- Only the last step returns.
        split at hconclude
        · split at hconclude
          · exact ⟨u, _, w, hconclude⟩
          · exact nomatch (Prod.mk.inj hconclude).1
        · exact nomatch (Prod.mk.inj hconclude).1

end Sound

/-! ### The operations of the source -/

/-- The classes that leave an operation, where those it keeps are the refusal
and its variants. -/
theorem Family.outer_refuses {family : Family} {kept : List ExnClass} {unavailable : Exn}
    (hkept : ∀ e : Exn, e.is_any kept = (e.is_any [family.refused] || e.is_any family.exempt))
    (hunavailable : family.refuses unavailable = true) (e : Exn) :
    family.refuses (if e.is_any kept then e else unavailable) = !e.is_any family.exempt := by
  have he := hkept e
  cases hexempt : e.is_any family.exempt with
  | true =>
    rw [hexempt, Bool.or_true] at he
    rw [if_pos he, Family.refuses, hexempt, Bool.not_true, Bool.and_false]
  | false =>
    rw [hexempt, Bool.or_false] at he
    by_cases hk : e.is_any kept = true
    · rw [if_pos hk, Family.refuses, hexempt, ← he, hk]
      rfl
    · rw [if_neg hk, hunavailable, Bool.not_false]

/-- An unknown outcome is among the classes that are kept, so it leaves as it is. -/
theorem Family.outer_tells_iff {family : Family} {kept : List ExnClass} {unavailable : Exn}
    (hkept : ∀ e : Exn, e.is_any kept = (e.is_any [family.refused] || e.is_any family.exempt))
    (hunavailable : family.tells unavailable = false) (e : Exn) :
    family.tells (if e.is_any kept then e else unavailable) = family.tells e := by
  by_cases hk : e.is_any kept = true
  · rw [if_pos hk]
  · rw [if_neg hk, hunavailable]
    cases htells : family.tells e with
    | false => rfl
    | true =>
      rw [hkept, Family.exempt_of_tells htells, Bool.or_true] at hk
      exact absurd rfl hk

/-- Most operations keep their two variants and the refusal. -/
theorem variants_kept (unknown failed refused : ExnClass) (e : Exn) :
    e.is_any [unknown, failed, refused] = (e.is_any [refused] || e.is_any [unknown, failed]) := by
  simp only [Exn.is_any, List.any_cons, List.any_nil, Bool.or_false]
  ac_rfl

/-- The others keep the refusal and its variant. -/
theorem variant_kept (refused unknown : ExnClass) (e : Exn) :
    e.is_any [refused, unknown] = (e.is_any [refused] || e.is_any [unknown]) := by
  simp only [Exn.is_any, List.any_cons, List.any_nil, Bool.or_false]

theorem returns_or_raises {failed e : Exn} {outcome : Except Exn α} {s t : σ}
    (h : (returns_or failed outcome : Prog Exn σ α).exec s = (.error e, t)) : e = failed := by
  cases outcome with
  | ok value => exact nomatch (Prod.mk.inj h).1
  | error _ => exact (Except.error.inj (Prod.mk.inj h).1).symm

/-- The family of `propose`. -/
def worker_family : Family :=
  ⟨.WorkerJournalError, .WorkerOutcomeUnknownError, [.WorkerProposalFailedError]⟩

theorem proposal_sound (worker_outcome : α → Option String) (call : Prog Exn (Run ω) α) :
    (proposal env.ports worker_outcome).Sound worker_family call where
  ids := fresh_ids_quiet env
  gate_failed _ s := ⟨_, s, rfl, fun _ => rfl⟩
  terminal _ := .returns _
  unknown := rfl
  unrecorded _ _ s := ⟨s, rfl, le_rfl⟩
  finish _ _ _ _ h := by
    rw [returns_or_raises h]
    rfl
  outer := Family.outer_refuses (variants_kept _ _ _) rfl
  outer_tells := Family.outer_tells_iff (variants_kept _ _ _) rfl

/-- The family of the verifier call. -/
def verifier_family : Family :=
  ⟨.VerifierJournalError, .VerifierOutcomeUnknownError, [.VerifierCallFailedError]⟩

theorem verification_sound (call : Prog Exn (Run ω) α) :
    (verification env.ports).Sound verifier_family call where
  ids := fresh_ids_quiet env
  gate_failed _ s := ⟨_, s, rfl, fun _ => rfl⟩
  terminal _ := .returns _
  unknown := rfl
  unrecorded _ _ s := ⟨s, rfl, le_rfl⟩
  finish _ _ _ _ h := by
    rw [returns_or_raises h]
    rfl
  outer := Family.outer_refuses (variants_kept _ _ _) rfl
  outer_tells := Family.outer_tells_iff (variants_kept _ _ _) rfl

/-- The family of the stage operations. -/
def stage_family : Family :=
  ⟨.StageJournalError, .StageOutcomeUnknownError, [.StageCallFailedError]⟩

theorem stage_operation_sound (operation : StageOperation) (call : Prog Exn (Run ω) α) :
    (stage_operation env.ports operation).Sound stage_family call where
  ids := fresh_ids_quiet env
  gate_failed _ s := ⟨_, s, rfl, fun _ => rfl⟩
  terminal _ := .returns _
  unknown := rfl
  unrecorded _ _ s := ⟨s, rfl, le_rfl⟩
  finish _ _ _ _ h := by
    rw [returns_or_raises h]
    rfl
  outer := Family.outer_refuses (variants_kept _ _ _) rfl
  outer_tells := Family.outer_tells_iff (variants_kept _ _ _) rfl

/-- The family of the snapshot sources. -/
def snapshot_family : Family :=
  ⟨.SnapshotJournalError, .SnapshotOutcomeUnknownError, [.SnapshotCallFailedError]⟩

theorem snapshot_source_sound (tool_name : String) (call : Prog Exn (Run ω) α) :
    (snapshot_source env.ports tool_name).Sound snapshot_family call where
  ids := fresh_ids_quiet env
  gate_failed _ s := ⟨_, s, rfl, fun _ => rfl⟩
  terminal _ := .returns _
  unknown := rfl
  unrecorded _ _ s := ⟨s, rfl, le_rfl⟩
  finish _ _ _ _ h := by
    rw [returns_or_raises h]
    rfl
  outer := Family.outer_refuses (variants_kept _ _ _) rfl
  outer_tells := Family.outer_tells_iff (variants_kept _ _ _) rfl

/-- The family of the sandbox operations. -/
def sandbox_family : Family :=
  ⟨.SandboxJournalError, .SandboxOutcomeUnknownError, [.SandboxCallFailedError]⟩

theorem sandbox_run_sound (pinned : List String) (purpose : Purpose) (argv : Arg (List String))
    (call : Prog Exn (Run ω) CommandResult) :
    (sandbox_run env.ports pinned purpose argv).Sound sandbox_family call where
  ids := fresh_ids_quiet env
  gate_failed _ s := ⟨_, s, rfl, fun _ => rfl⟩
  terminal _ := .lift _
  unknown := rfl
  unrecorded _ _ s := ⟨s, rfl, le_rfl⟩
  finish _ _ _ _ h := by
    rw [returns_or_raises h]
    rfl
  outer := Family.outer_refuses (variants_kept _ _ _) rfl
  outer_tells := Family.outer_tells_iff (variants_kept _ _ _) rfl

/-- A session whose `close` is not counted. -/
def SandboxSession.silent (session : SandboxSession (Prog Exn (Run ω))) :
    SandboxSession (Prog Exn (Counted (Run ω))) :=
  ⟨session.close.map Prog.silent⟩

/-- `create` with the sessions it gives not counted. -/
def creating (create : Prog Exn (Run ω) (SandboxSession (Prog Exn (Run ω)))) :
    Prog Exn (Run ω) (SandboxSession (Prog Exn (Counted (Run ω)))) := do
  let session ← create
  return session.silent

theorem creating_exec (create : Prog Exn (Run ω) (SandboxSession (Prog Exn (Run ω)))) (u : Run ω) :
    ((creating create).exec u).1 = (create.exec u).1.map SandboxSession.silent := by
  unfold creating
  rw [Prog.exec_bind]
  rcases create.exec u with ⟨e | session, t⟩ <;> rfl

theorem discard_quiet (session : SandboxSession (Prog Exn (Run ω))) :
    ∀ s, ∃ t, (discard session.silent).exec s = (.ok (), t) ∧ t.calls = s.calls := by
  intro s
  unfold discard SandboxSession.silent
  cases session.close with
  | none => exact ⟨s, rfl, rfl⟩
  | some close =>
    simp only [Option.map_some, Prog.exec_catch, Prog.exec_silent]
    rcases close.exec s.state with ⟨e | ⟨⟩, t⟩
    · exact ⟨_, rfl, rfl⟩
    · exact ⟨_, rfl, rfl⟩

theorem sandbox_create_sound (purpose : Purpose)
    (create : Prog Exn (Run ω) (SandboxSession (Prog Exn (Run ω)))) :
    (sandbox_create env.ports purpose).Sound sandbox_family (creating create) where
  ids := fresh_ids_quiet env
  gate_failed _ s := ⟨_, s, rfl, fun _ => rfl⟩
  terminal _ := .returns _
  unknown := rfl
  unrecorded u e s := by
    rw [creating_exec]
    rcases (create.exec u).1 with _ | session
    · exact ⟨s, rfl, le_rfl⟩
    · -- The session is closed first where the record is lost.
      obtain ⟨t, hdiscard, hcalls⟩ := discard_quiet session s
      simp only [sandbox_create, Except.map]
      split_ifs
      · exact ⟨t, by rw [Prog.exec_bind, hdiscard]; rfl, hcalls.ge⟩
      · exact ⟨s, rfl, le_rfl⟩
  finish _ _ _ _ h := by
    rw [returns_or_raises h]
    rfl
  outer := Family.outer_refuses (variants_kept _ _ _) rfl
  outer_tells := Family.outer_tells_iff (variants_kept _ _ _) rfl

theorem sandbox_close_sound (purpose : Purpose) (close : Prog Exn (Run ω) Unit) :
    (sandbox_close env.ports purpose close.counted).Sound sandbox_family close where
  ids := fresh_ids_quiet env
  gate_failed e s := by
    -- Without the gate the sandbox is closed directly, and the error says so.
    simp only [sandbox_close, Prog.exec_bind, Prog.exec_catch, Prog.exec_counted]
    rcases close.exec s.state with ⟨e | ⟨⟩, t⟩
    · exact ⟨_, _, rfl, fun h => nomatch h⟩
    · exact ⟨_, _, rfl, fun h => nomatch h⟩
  terminal _ := .returns _
  unknown := rfl
  unrecorded _ _ s := ⟨s, rfl, le_rfl⟩
  finish _ _ _ _ h := by
    rw [returns_or_raises h]
    rfl
  outer := Family.outer_refuses (variants_kept _ _ _) rfl
  outer_tells := Family.outer_tells_iff (variants_kept _ _ _) rfl

/-- The family of the controlled steps and of the local mock publication. -/
def publication_family : Family :=
  ⟨.ControlledPublicationJournalError, .ControlledPublicationOutcomeUnknownError,
    [.ControlledPublicationCallFailedError]⟩

/-- Both variants are kept with their common base. -/
theorem publication_kept_iff (e : Exn) : e.is_any publication_kept =
    (e.is_any [publication_family.refused] || e.is_any publication_family.exempt) := by
  obtain ⟨cls, message⟩ := e
  cases cls <;> rfl

theorem controlled_step_sound (step : String) (call : Prog Exn (Run ω) α) :
    (controlled_step env.ports step).Sound publication_family call where
  ids := fresh_ids_quiet env
  gate_failed _ s := ⟨_, s, rfl, fun _ => rfl⟩
  terminal _ := .returns _
  unknown := rfl
  unrecorded _ _ s := ⟨s, rfl, le_rfl⟩
  finish _ _ _ _ h := nomatch (Prod.mk.inj h).1
  outer := Family.outer_refuses publication_kept_iff rfl
  outer_tells := Family.outer_tells_iff publication_kept_iff rfl

theorem local_mock_publication_sound (call : Prog Exn (Run ω) α) :
    (local_mock_publication env.ports).Sound publication_family call where
  ids := claimed_ids_quiet env
  gate_failed _ s := ⟨_, s, rfl, fun _ => rfl⟩
  terminal _ := .returns _
  unknown := rfl
  unrecorded _ _ s := ⟨s, rfl, le_rfl⟩
  finish u s e t h := by
    simp only [local_mock_publication] at h
    split_ifs at h
    · rw [← Except.error.inj (Prod.mk.inj h).1]
      rfl
    · rw [returns_or_raises h]
      rfl
  outer := Family.outer_refuses publication_kept_iff rfl
  outer_tells := Family.outer_tells_iff publication_kept_iff rfl

/-- The family of the pin decision. -/
def pin_family : Family := 
  ⟨.SnapshotPinDecisionError, .SnapshotPinDecisionOutcomeUnknownError, []⟩

theorem pin_decision_sound (call : Prog Exn (Run ω) Bool) :
    (pin_decision env.ports).Sound pin_family call where
  ids := fresh_ids_quiet env
  gate_failed _ s := ⟨_, s, rfl, fun _ => rfl⟩
  terminal _ := .returns _
  unknown := rfl
  unrecorded _ _ s := ⟨s, rfl, le_rfl⟩
  finish _ _ _ _ h := nomatch (Prod.mk.inj h).1
  outer := Family.outer_refuses (variant_kept _ _) rfl
  outer_tells := Family.outer_tells_iff (variant_kept _ _) rfl

/-- The family of the execution authorization. -/
def authorization_family : Family :=
  ⟨.ExecutionAuthorizationJournalError, .ExecutionAuthorizationOutcomeUnknownError, []⟩

theorem authorization_sound (call : Prog Exn (Run ω) Unit) :
    (authorization env.ports).Sound authorization_family call where
  ids := fresh_ids_quiet env
  gate_failed _ s := ⟨_, s, rfl, fun _ => rfl⟩
  terminal _ := .returns _
  unknown := rfl
  unrecorded _ _ s := ⟨s, rfl, le_rfl⟩
  finish _ _ _ _ h := nomatch (Prod.mk.inj h).1
  outer := Family.outer_refuses (variant_kept _ _) rfl
  outer_tells := Family.outer_tells_iff (variant_kept _ _) rfl

end Counting

/-! ## What a refusal proves -/

/-- A call of a journaled operation, with the call that it wraps. -/
inductive JournaledCall (ω α : Type) : Type
  | propose (process_id task_id : Arg String) (worker_outcome : α → Option String)
      (call : Prog Exn (Run ω) α)
  | verifier (verify : Option (Prog Exn (Run ω) α))
  | sandbox_run (pinned : List String) (purpose : Purpose) (argv : Arg (List String))
      (call : Prog Exn (Run ω) CommandResult)
  | sandbox_create (purpose : Purpose)
      (create : Option (Prog Exn (Run ω) (SandboxSession (Prog Exn (Run ω)))))
  | sandbox_close (purpose : Purpose) (close : Option (Prog Exn (Run ω) Unit))
  | stage (operation : StageOperation) (call : Prog Exn (Run ω) α)
  | snapshot (tool_name : String) (dispatch : Option (Prog Exn (Run ω) α))
  | controlled_step (step : Arg String) (dispatch : Option (Prog Exn (Run ω) α))
      (process_id : Arg String)
  | local_mock_publication (dispatch : Option (Prog Exn (Run ω) α)) (process_id : Arg String)
  | pin_decision (accepted : Arg Bool)
  | authorization (consume_permit : Option (Prog Exn (Run ω) Unit))

namespace JournaledCall

variable {ω α : Type}

/-- The operation with its calls counted, its result dropped. -/
def perform (env : Environment ω) : JournaledCall ω α → Prog Exn (Counted (Run ω)) Unit
  | propose process_id task_id worker_outcome call => do
    let _ ← ObserverRuntime.propose env.ports process_id task_id worker_outcome call.counted
  | verifier verify => do
    let _ ← invoke_verifier env.ports (verify.map Prog.counted)
  | sandbox_run pinned purpose argv call => do
    let _ ← invoke_sandbox_run env.ports pinned purpose argv call.counted
  | sandbox_create purpose create => do
    let _ ← invoke_sandbox_create env.ports purpose (create.map fun create => (creating create).counted)
  | sandbox_close purpose close => invoke_sandbox_close env.ports purpose (close.map Prog.counted)
  | stage operation call => do
    let _ ← invoke_stage_operation env.ports operation call.counted
  | snapshot tool_name dispatch => do
    let _ ← invoke_snapshot_source env.ports tool_name (dispatch.map Prog.counted)
  | controlled_step step dispatch process_id => do
    let _ ← run_controlled_step env.ports step (dispatch.map Prog.counted) process_id
  | local_mock_publication dispatch process_id => do
    let _ ← run_local_mock_publication env.ports (dispatch.map Prog.counted) process_id
  | pin_decision accepted => do
    let _ ← record_snapshot_pin_decision env.ports accepted
      fun accepted => (pure accepted : Prog Exn (Run ω) Bool).counted
  | authorization consume_permit => do
    let _ ← record_execution_authorization env.ports (consume_permit.map Prog.counted)

/-- The error classes of the operation. -/
def family : JournaledCall ω α → Family
  | propose .. => worker_family
  | verifier _ => verifier_family
  | sandbox_run .. => sandbox_family
  | sandbox_create .. => sandbox_family
  | sandbox_close .. => sandbox_family
  | stage .. => stage_family
  | snapshot .. => snapshot_family
  | controlled_step .. => publication_family
  | local_mock_publication .. => publication_family
  | pin_decision _ => pin_family
  | authorization _ => authorization_family

/-- A course of an operation: the operation, its guards and its call. -/
structure Course (ω : Type) : Type 1 where
  {α β : Type}
  op : Operation (Prog Exn (Counted (Run ω))) α β
  guards : Prog Exn (Counted (Run ω)) Unit
  call : Prog Exn (Run ω) α

/-- The course that the call takes, unless its arguments are refused at once. -/
def course (env : Environment ω) : JournaledCall ω α → Option (Course ω)
  | propose process_id task_id worker_outcome call =>
    some ⟨proposal env.ports worker_outcome, proposal_guards env.ports process_id task_id, call⟩
  | verifier verify => verify.map fun verify =>
    ⟨verification env.ports, verification_guards env.ports true, verify⟩
  | sandbox_run pinned purpose argv call =>
    some ⟨ObserverRuntime.sandbox_run env.ports pinned purpose argv, sandbox_guards env.ports, call⟩
  | sandbox_create purpose create => create.map fun create =>
    ⟨ObserverRuntime.sandbox_create env.ports purpose, sandbox_guards env.ports, creating create⟩
  | sandbox_close purpose close => close.map fun close =>
    ⟨ObserverRuntime.sandbox_close env.ports purpose close.counted, sandbox_guards env.ports, close⟩
  | stage operation call =>
    some ⟨stage_operation env.ports operation,
      require_last_event env.ports (stage_error "execution run is unavailable"), call⟩
  | snapshot tool_name dispatch => dispatch.map fun dispatch =>
    ⟨snapshot_source env.ports tool_name, snapshot_source_guards env.ports tool_name, dispatch⟩
  | controlled_step (.of step) (some dispatch) process_id =>
    some ⟨ObserverRuntime.controlled_step env.ports step,
      controlled_step_guards env.ports step process_id, dispatch⟩
  -- a step of another type, or nothing to call: the operation stops at its arguments
  | controlled_step _ _ _ => none
  | local_mock_publication dispatch process_id => dispatch.map fun dispatch =>
    ⟨ObserverRuntime.local_mock_publication env.ports,
      local_mock_publication_guards env.ports process_id, dispatch⟩
  | pin_decision (.of accepted) =>
    some ⟨ObserverRuntime.pin_decision env.ports, pin_decision_guards env.ports, pure accepted⟩
  | pin_decision .other => none
  | authorization consume_permit => consume_permit.map fun consume_permit =>
    ⟨ObserverRuntime.authorization env.ports, authorization_guards env.ports, consume_permit⟩

/-- The outcome of the wrapped call can be told in the state that the call
leaves. -/
def CanTell (env : Environment ω) (run : Run ω) (call : JournaledCall ω α) : Prop :=
  ∀ c, call.course env = some c → c.op.Told call.family c.guards env c.call ⟨run, 0⟩

/-- The wrapped call of a controlled step, whose exceptions are raised again,
does not itself raise the step's refusal. -/
def Foreign : JournaledCall ω α → Prop
  | controlled_step _ (some dispatch) _ =>
    ∀ run e, (dispatch.exec run).1 = .error e → publication_family.refuses e = false
  | _ => True

/-- What the errors of an operation prove: a refusal, that it made no call; and
where the call was made, every failure after it is told as an unknown outcome. -/
structure Proves (env : Environment ω) (call : JournaledCall ω α) (run : Run ω) : Prop where
  refusal : ∀ e t, (call.perform env).exec ⟨run, 0⟩ = (.error e, t) →
    call.family.refuses e = true → t.calls = 0
  failure : ∀ c, call.course env = some c → ∀ s intention outcome t e u,
    c.guards.exec ⟨run, 0⟩ = (.ok (), s) →
    (c.op.made env c.call.counted).exec s = (.ok (intention, outcome), t) →
    (c.op.recorded env intention outcome).exec t = (.error e, u) →
    ∃ e' v, (call.perform env).exec ⟨run, 0⟩ = (.error e', v) ∧ call.family.tells e' = true

/-- Dropping the result changes no exception. -/
theorem raises_dropped {β : Type} (p : Prog Exn (Counted (Run ω)) β) (s : Counted (Run ω)) (e : Exn)
    (t : Counted (Run ω)) :
    (do let _ ← p : Prog Exn (Counted (Run ω)) Unit).exec s = (.error e, t) ↔
      p.exec s = (.error e, t) := by
  rw [Prog.exec_bind]
  rcases p.exec s with ⟨e' | b, u⟩ <;> simp

section Courses

variable {env : Environment ω} {call : JournaledCall ω α} {run : Run ω}

/-- A call that is refused at once proves it. -/
theorem proves_at_once (hnone : call.course env = none)
    (hcalls : ∀ e t, (call.perform env).exec ⟨run, 0⟩ = (.error e, t) → t.calls = 0) :
    Proves env call run ↔ call.CanTell env run := by
  refine iff_of_true ⟨fun e t hraise _ => hcalls e t hraise, fun c hc => ?_⟩ fun c hc => ?_
  · rw [hnone] at hc
    cases hc
  · rw [hnone] at hc
    cases hc

/-- A call with a course proves what the course proves. -/
theorem proves_course {c : Course ω} (hc : call.course env = some c)
    (hop : c.op.Sound call.family c.call) (hguards : Quiet c.guards)
    (hraises : ∀ e t, (c.op.behind c.guards env.ports c.call.counted).exec ⟨run, 0⟩ = (.error e, t) →
      (call.perform env).exec ⟨run, 0⟩ = (.error e, t))
    (hrefuses : ∀ e t, (call.perform env).exec ⟨run, 0⟩ = (.error e, t) →
      call.family.refuses e = true →
      (c.op.behind c.guards env.ports c.call.counted).exec ⟨run, 0⟩ = (.error e, t)) :
    Proves env call run ↔ call.CanTell env run := by
  have hiff := honest_iff hop hguards hraises hrefuses
  constructor
  · intro h c' hc'
    obtain rfl := Option.some.inj (hc.symm.trans hc')
    exact hiff.mp ⟨h.refusal, h.failure c hc⟩
  · intro h
    have hhonest := hiff.mpr (h c hc)
    refine ⟨hhonest.refusal, fun c' hc' => ?_⟩
    obtain rfl := Option.some.inj (hc.symm.trans hc')
    exact hhonest.failure

/-- One that only drops the result of its course. -/
theorem proves_dropped {c : Course ω} (hc : call.course env = some c)
    (hop : c.op.Sound call.family c.call) (hguards : Quiet c.guards)
    (hperform : call.perform env = do
      let _ ← c.op.behind c.guards env.ports c.call.counted) :
    Proves env call run ↔ call.CanTell env run := by
  refine proves_course hc hop hguards (fun e t hraise => ?_) fun e t hraise _ => ?_
  · rw [hperform]
    exact (raises_dropped _ _ _ _).mpr hraise
  · rw [hperform] at hraise
    exact (raises_dropped _ _ _ _).mp hraise

end Courses

/-! ### The guards make no call -/

theorem claim_quiet (env : Environment ω) (flag : Worker → Bool) (set : Worker → Worker) (refused : Exn) :
    Quiet (claim env.ports flag set refused) :=
  .bind (self_quiet env) fun _ => .branch (.raises _) (update_quiet env _)

theorem require_last_event_quiet (env : Environment ω) (refused : Exn) :
    Quiet (require_last_event env.ports refused) :=
  .bind (self_quiet env) fun _ => .branch (.returns _) (.raises _)

/-! ### Every operation -/

/-- A controlled step raises again what its call raised. -/
theorem controlled_step_exec (env : Environment ω) (step : String) (dispatch : Prog Exn (Run ω) α)
    (process_id : Arg String) (s : Counted (Run ω)) :
    (run_controlled_step env.ports (.of step) (some dispatch.counted) process_id).exec s =
      match ((ObserverRuntime.controlled_step env.ports step).behind
        (controlled_step_guards env.ports step process_id) env.ports dispatch.counted).exec s with
      | (.ok outcome, t) => (outcome, t)
      | (.error e, t) => (.error e, t) := by
  unfold run_controlled_step
  rw [Prog.exec_bind]
  rcases ((ObserverRuntime.controlled_step env.ports step).behind
    (controlled_step_guards env.ports step process_id) env.ports dispatch.counted).exec s with
    ⟨e | outcome, t⟩
  · rfl
  · cases outcome <;> rfl

/-- The guards of a verifier that cannot be called raise, without a call. -/
theorem verifier_unavailable (env : Environment ω) {run : Run ω} {e : Exn} {t : Counted (Run ω)}
    (h : ((JournaledCall.verifier none : JournaledCall ω α).perform env).exec ⟨run, 0⟩ =
      (.error e, t)) : t.calls = 0 := by
  have hguards : Quiet (verification_guards env.ports false) :=
    .bind (claim_quiet env _ _ _) fun _ => .raises _
  have hcalls := hguards ⟨run, 0⟩
  have hnever : ∀ s u, (verification_guards env.ports false).exec s ≠ (.ok (), u) := by
    intro s u
    unfold verification_guards
    rw [Prog.exec_bind]
    rcases (claim env.ports _ _ _).exec s with ⟨e | ⟨⟩, v⟩
    · exact nofun
    · exact nofun
  have hraise : ((verification env.ports).behind (verification_guards env.ports false) env.ports
      (throw (verifier_error "configuration unavailable") : Prog Exn _ α)).exec ⟨run, 0⟩ =
      (.error e, t) := (raises_dropped _ _ _ _).mp h
  unfold Operation.behind at hraise
  rw [Prog.exec_bind] at hraise
  rcases hrun : (verification_guards env.ports false).exec ⟨run, 0⟩ with ⟨e' | ⟨⟩, u⟩
  · rw [hrun] at hraise hcalls
    obtain ⟨-, rfl⟩ := Prod.mk.inj hraise
    exact hcalls
  · exact absurd hrun (hnever _ _)

/-- A program that raises at once makes no call. -/
theorem raise_at_once {β : Type} {e e' : Exn} {run : Run ω} {t : Counted (Run ω)}
    (h : (throw e : Prog Exn (Counted (Run ω)) β).exec ⟨run, 0⟩ = (.error e', t)) : t.calls = 0 := by
  obtain ⟨-, rfl⟩ := Prod.mk.inj h
  rfl

/-- **What the errors of a journaled operation prove**, and when: a refusal proves
that the call was not made, and a failure after the call is told as an unknown
outcome, exactly where the terminal event can be built in the state that the call
leaves, or what stops it says itself that the outcome is unknown. -/
theorem refusal_proves_no_call_iff (env : Environment ω) (call : JournaledCall ω α)
    (hforeign : call.Foreign) (run : Run ω) :
    Proves env call run ↔ call.CanTell env run := by
  cases call with
  | propose process_id task_id worker_outcome call =>
    refine proves_dropped rfl (proposal_sound env worker_outcome call) ?_ rfl
    exact .bind (claim_quiet env _ _ _) fun _ => .bind (self_quiet env) fun _ =>
      .branch (.raises _) (.returns _)
  | verifier verify =>
    cases verify with
    | none => exact proves_at_once rfl fun e t hraise => verifier_unavailable env hraise
    | some verify =>
      refine proves_dropped rfl (verification_sound env verify) ?_ rfl
      exact .bind (claim_quiet env _ _ _) fun _ => .branch (require_last_event_quiet env _) (.raises _)
  | sandbox_run pinned purpose argv call =>
    exact proves_dropped rfl (sandbox_run_sound env pinned purpose argv call)
      (require_last_event_quiet env _) rfl
  | sandbox_create purpose create =>
    cases create with
    | none =>
      exact proves_at_once rfl fun e t hraise => raise_at_once ((raises_dropped _ _ _ _).mp hraise)
    | some create =>
      exact proves_dropped rfl (sandbox_create_sound env purpose create)
        (require_last_event_quiet env _) rfl
  | sandbox_close purpose close =>
    cases close with
    | none => exact proves_at_once rfl fun e t hraise => raise_at_once hraise
    | some close =>
      exact proves_course rfl (sandbox_close_sound env purpose close)
        (require_last_event_quiet env _) (fun e t hraise => hraise) fun e t hraise _ => hraise
  | stage operation call =>
    exact proves_dropped rfl (stage_operation_sound env operation call)
      (require_last_event_quiet env _) rfl
  | snapshot tool_name dispatch =>
    cases dispatch with
    | none =>
      exact proves_at_once rfl fun e t hraise => raise_at_once ((raises_dropped _ _ _ _).mp hraise)
    | some dispatch =>
      exact proves_dropped rfl (snapshot_source_sound env tool_name dispatch)
        (.branch (.raises _) (require_last_event_quiet env _)) rfl
  | controlled_step step dispatch process_id =>
    cases step with
    | other =>
      cases dispatch <;> exact proves_at_once rfl fun e t hraise =>
        raise_at_once ((raises_dropped _ _ _ _).mp hraise)
    | of step =>
      cases dispatch with
      | none =>
        exact proves_at_once rfl fun e t hraise => raise_at_once ((raises_dropped _ _ _ _).mp hraise)
      | some dispatch =>
        have hexec := controlled_step_exec env step dispatch process_id ⟨run, 0⟩
        refine proves_course rfl (controlled_step_sound env step dispatch) ?_
          (fun e t hraise => (raises_dropped _ _ _ _).mpr ?_) fun e t hraise href => ?_
        · exact .bind (self_quiet env) fun _ => .branch (.raises _)
            (.bind (claim_quiet env _ _ _) fun _ => require_last_event_quiet env _)
        · rw [Option.map_some, hexec, hraise]
        · -- What the step raises again is no refusal.
          have hraise' := (raises_dropped _ _ _ _).mp hraise
          rw [Option.map_some, hexec] at hraise'
          split at hraise'
          · rename_i outcome t' hbehind
            obtain ⟨rfl, rfl⟩ := Prod.mk.inj hraise'
            obtain ⟨u, v, w, hfinish⟩ := behind_returns (controlled_step_sound env step dispatch) hbehind
            have hcaptured : (dispatch.exec u).1 = .error e := Except.ok.inj (Prod.mk.inj hfinish).1
            have hrefuses : publication_family.refuses e = true := href
            rw [hforeign u e hcaptured] at hrefuses
            cases hrefuses
          · rename_i e' t' hbehind
            obtain ⟨he, rfl⟩ := Prod.mk.inj hraise'
            obtain rfl := Except.error.inj he
            exact hbehind
  | local_mock_publication dispatch process_id =>
    cases dispatch with
    | none =>
      exact proves_at_once rfl fun e t hraise => raise_at_once ((raises_dropped _ _ _ _).mp hraise)
    | some dispatch =>
      refine proves_dropped rfl (local_mock_publication_sound env dispatch) ?_ rfl
      exact .bind (self_quiet env) fun _ => .branch (.raises _)
        (.bind (claim_quiet env _ _ _) fun _ => require_last_event_quiet env _)
  | pin_decision accepted =>
    cases accepted with
    | other =>
      exact proves_at_once rfl fun e t hraise => raise_at_once ((raises_dropped _ _ _ _).mp hraise)
    | of accepted =>
      exact proves_dropped rfl (pin_decision_sound env (pure accepted))
        (.bind (claim_quiet env _ _ _) fun _ => require_last_event_quiet env _) rfl
  | authorization consume_permit =>
    cases consume_permit with
    | none =>
      exact proves_at_once rfl fun e t hraise => raise_at_once ((raises_dropped _ _ _ _).mp hraise)
    | some consume_permit =>
      exact proves_dropped rfl (authorization_sound env consume_permit)
        (.bind (claim_quiet env _ _ _) fun _ => require_last_event_quiet env _) rfl

end JournaledCall

/-! ### Samples -/

/-- A fresh worker's attributes. -/
def sample_worker : Worker where
  process_id := "process-1"
  run_id := "run-00000000"
  branch_id := "branch-main"
  task_id := "task-1"
  sequence := 1
  last_event_id := some "event-00000000"
  last_event_cursor := some 0
  agent_finished := false
  run_finished := false
  used := false
  verifier_used := false
  snapshot_pin_decision_used := false
  execution_authorization_used := false
  controlled_publication_used := false
  controlled_steps_used := []

/-- A store that accepts every record, a clock that stands still, and an id
factory that gives its first `ids` answers only. The world counts them. -/
def sample_environment (ids : ℕ) : Environment ℕ where
  store := ⟨some fun _ => pure 0, some fun _ => pure 0, none, none, none⟩
  id_factory := .of fun given => (.ok (if given < ids then .of "0123abcd" else .other), given + 1)
  clock := pure (.at "2026-01-01T00:00:00+00:00")

/-- The verifier is called, and the fourth ID, that of the terminal event, is
missing: the verifier journal says that it refused the call. -/
theorem refusal_hides_a_call :
    ∃ e t, (JournaledCall.perform (sample_environment 3)
        (.verifier (some (pure ())) : JournaledCall ℕ Unit)).exec ⟨⟨sample_worker, 0⟩, 0⟩ = (.error e, t) ∧
      verifier_family.refuses e = true ∧ t.calls = 1 :=
  ⟨_, _, rfl, by decide, rfl⟩

/-- With an ID to spare the refusal of a controlled step is a proof. -/
theorem controlled_step_refusal_proves_no_call :
    JournaledCall.Proves (sample_environment 4) (.controlled_step (.of "Gateway.authorize")
      (some (throw (ObservationStore.contract_error "denied"))) (.of "process-1") :
      JournaledCall ℕ Unit) ⟨sample_worker, 0⟩ := by
  refine (JournaledCall.refusal_proves_no_call_iff _ _ ?_ _).mpr ?_
  · rintro run e h
    obtain rfl := Except.error.inj h
    rfl
  · intro c hc t hguards intention outcome t' e u hmade htold
    obtain rfl := Option.some.inj hc
    cases hguards
    cases hmade
    exact nomatch (Prod.mk.inj htold).1

end AppContracts.ObserverRuntime
