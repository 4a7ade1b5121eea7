/-
The journal gate of the local model preflight: `journal_local_model_preflight` of
`local_model_observer_gate.py`.

The gate records an intent, calls for the metadata, and records a terminal event. Its
errors come in two kinds: one says that the outcome is unknown, the plain one that nothing
was started or that the failure is on record. Between the call and the append the clock is
read once more, and an exception there leaves as the plain error. The append is the other
step that decides: nothing is read back, so a cursor is taken for a record.
-/
import AppContracts.JournaledOutcomes

set_option autoImplicit false

namespace AppContracts.LocalModelGate

open GatedDispatch Stateful
open ObserverRuntime
open Validator (py_eq)

/-! ## The gate of the source -/

/-- `_STEP`. -/
def STEP : String := "LocalOllamaMetadataPreflight.inspect"

/-- `_AGENT_ID`. -/
def AGENT_ID : String := "service-model-channel"

/-- `LocalModelObserverGateError(message)`. -/
def observer_gate_error (message : String) : Exn := ⟨.LocalModelObserverGateError, message⟩

/-- `LocalModelObserverGateError("local model observer gate unavailable")`. -/
def unavailable : Exn := observer_gate_error "local model observer gate unavailable"

/-- `LocalModelObserverOutcomeUnknownError("local model observer outcome unknown")`. -/
def outcome_unknown : Exn :=
  ⟨.LocalModelObserverOutcomeUnknownError, "local model observer outcome unknown"⟩

/-- `_stable_id(kind, process_id, run_id)`. -/
def _stable_id (kind process_id run_id : String) : String :=
  kind ++ "-" ++ ((Sha256.hexdigest (utf8_bytes
    ("\x00".intercalate [process_id, run_id, STEP, kind]))).take 32).toString

/-- The records before the call have the parts of a journaled operation's. -/
def labels : Labels :=
  ⟨"tool_call", "tool_requested", AGENT_ID, "local-model-preflight", STEP,
    "bounded local model identity result"⟩

/-- `event.get("run_id") == run_id and event.get("decision_or_tool") == _STEP`. -/
def claims (run_id : String) (event : Json) : Bool :=
  py_eq ((event.get? "run_id").getD .null) (text run_id) &&
    py_eq ((event.get? "decision_or_tool").getD .null) (text STEP)

section Generic

variable {m : Type → Type} [Monad m] [MonadExcept Exn m] {α : Type}

/-- The checkpoint and the intent. -/
def preflight_intention (ports : Ports m) (self : Worker) : m Intention := do
  let created_at ← timestamp ports
  let checkpoint_id := _stable_id "checkpoint" self.process_id self.run_id
  let invocation_id := _stable_id "invocation" self.process_id self.run_id
  let intent_id := _stable_id "event" self.process_id self.run_id
  let base ← base_event ports labels.intent_type self.sequence intent_id AGENT_ID
  return ⟨invocation_id, intent_id, checkpoint self labels checkpoint_id created_at,
    dict (base ++ intent_fields self labels checkpoint_id invocation_id)⟩

/-- The scan of the events, the records and the call, and the counters after it. -/
def dispatch_once (ports : Ports m) (events : m (List Json)) (self : Worker) (dispatch : m α) :
    m (Intention × Except Exn α) := do
  let known ← events
  if known.any (claims self.run_id) then
    throw (observer_gate_error "local model preflight already claimed")
  else do
    let intention ← preflight_intention ports self
    let (cursor, outcome) ← tryCatch
      (run_gated_dispatch ports.store intention.checkpoint intention.intent (some (guarded dispatch)) true
        none)
      (refuses (observer_gate_error "local model observer pre-dispatch refused"))
    ports.update fun worker =>
      { worker with
        last_event_id := some intention.intent_id, last_event_cursor := some cursor,
        sequence := self.sequence + 1 }
    return (intention, outcome)

/-- The terminal event of an outcome. -/
def terminal (ports : Ports m) (process_id run_id : String) (intention : Intention)
    (outcome : Except Exn α) : m (String × Json) := do
  let told := tool_outcome [("decision_or_tool", text STEP)] "local-model-preflight-failed" outcome
  let event_id := _stable_id "event-terminal" process_id run_id
  let self ← ports.self
  let base ← base_event ports told.event_type self.sequence event_id AGENT_ID
  return (event_id, dict (base ++ ([("invocation_id", text intention.invocation_id),
    ("causal_event_ids", .arr [text intention.intent_id])] ++ told.fields)))

/-- What follows the call. -/
def conclude (ports : Ports m) (self : Worker) (intention : Intention) (outcome : Except Exn α) : m α := do
  let (event_id, event) ← terminal ports self.process_id self.run_id intention outcome
  append_terminal ports event_id event outcome_unknown
  returns_or (observer_gate_error "local model preflight failed") outcome

/-- The outer `except` clauses. -/
def outer (e : Exn) : Exn := if e.is_any [.LocalModelObserverGateError] then e else unavailable

/-- `journal_local_model_preflight(journal, dispatch, process_id=..)`. -/
def journal_local_model_preflight (ports : Ports m) (dispatch : Option (m α)) (process_id : Arg String) :
    m α := do
  let self ← ports.self
  if process_id ≠ .of self.process_id ∨ self.has_last_event = false then throw unavailable
  else
    match dispatch, ports.store.events with
    | some dispatch, some events =>
      tryCatch
        (do
          let (intention, outcome) ← dispatch_once ports events self dispatch
          conclude ports self intention outcome)
        fun e => throw (outer e)
    | _, _ => throw unavailable

end Generic

/-! ## What the store holds -/

/-- The types of terminal events. -/
def terminal_types : List String := ["decision_applied", "tool_completed", "tool_failed", "tool_denied"]

variable {ω α : Type}

/-- The store holds an event of the type for the invocation. What it holds is any function of
the world: no store is trusted to keep what it gives a cursor for. -/
def records (held : ω → List Json) (event_type invocation_id : String) (world : ω) : Prop :=
  ∃ event ∈ held world, event.get? "invocation_id" = some (text invocation_id) ∧
    event.get? "event_type" = some (text event_type)

/-- The invocation of a worker's preflight. -/
def invocation (self : Worker) : String := _stable_id "invocation" self.process_id self.run_id

/-- The outcome of a call is honest: a call whose outcome is not on record raises the error
that says so, and the plain error means that there was no call or that its failure is on record. -/
def Honest (held : ω → List Json) (self : Worker) (answer : Except Exn α)
    (after : Counted (Run ω)) : Prop :=
  (0 < after.calls → (∀ event_type ∈ terminal_types,
      ¬ records held event_type (invocation self) after.state.world) →
    ∃ e, answer = .error e ∧ e.cls = .LocalModelObserverOutcomeUnknownError) ∧
  ∀ e, answer = .error e → e.cls = .LocalModelObserverGateError →
    after.calls = 0 ∨ records held "tool_failed" (invocation self) after.state.world

/-! ## Up to the call -/

variable {env : Environment ω}

theorem preflight_intention_quiet (self : Worker) : Quiet (preflight_intention env.ports self) :=
  .bind (timestamp_quiet env) fun _ => .bind (base_event_quiet env _ _ _ _) fun _ => .returns _

theorem preflight_intention_id {self : Worker} {intention : Intention} {s t : Counted (Run ω)}
    (h : (preflight_intention env.ports self).exec s = (.ok intention, t)) :
    intention.invocation_id = invocation self := by
  obtain ⟨created_at, u, -, h⟩ := Prog.exec_bind_ok.mp h
  obtain ⟨base, v, -, h⟩ := Prog.exec_bind_ok.mp h
  rw [← Except.ok.inj (Prod.mk.inj h).1]
  rfl

/-- **Up to the call**: one call is made, or none and an exception is raised. -/
theorem dispatch_once_runs {events : Prog Exn (Counted (Run ω)) (List Json)} (hevents : Quiet events)
    (self : Worker) (call : Prog Exn (Run ω) α) (s : Counted (Run ω)) :
    match (dispatch_once env.ports events self call.counted).exec s with
    | (.ok (intention, _), t) => t.calls = s.calls + 1 ∧ intention.invocation_id = invocation self
    | (.error _, t) => t.calls = s.calls := by
  unfold dispatch_once
  have hknown := hevents s
  rw [Prog.exec_bind]
  rcases hk : events.exec s with ⟨e | known, t⟩ <;> rw [hk] at hknown
  · exact hknown
  · by_cases hclaimed : known.any (claims self.run_id) = true
    · simp only [hclaimed, if_true]
      exact hknown
    · have hintention := @preflight_intention_quiet _ env self t
      simp only [hclaimed, Bool.false_eq_true, if_false, Prog.exec_bind]
      rcases hi : (preflight_intention env.ports self).exec t with ⟨e | intention, u⟩ <;> rw [hi] at hintention
      · exact hintention.trans hknown
      · have hgate := gate_runs env intention.checkpoint intention.intent call.counted true
          (c := none) nofun u
        rw [Option.map_none] at hgate
        simp only [Prog.exec_catch]
        split at hgate
        · rename_i cursor outcome v hrun
          obtain ⟨w, hw, hcall⟩ := hgate
          rw [hrun]
          refine ⟨?_, preflight_intention_id hi⟩
          -- the counted call adds one, and the counters are no call
          have hv : v.calls = w.calls + 1 := by rw [← (Prod.mk.inj hcall).2]
          show v.calls = s.calls + 1
          rw [hv, hw, hintention, hknown]
        · rename_i e v hrun
          rw [hrun]
          exact (hgate.trans hintention).trans hknown

/-! ## After the call -/

section Conclusion

variable {self : Worker} {intention : Intention} {outcome : Except Exn α}

theorem terminal_quiet : Quiet (terminal env.ports self.process_id self.run_id intention outcome) :=
  .bind (self_quiet env) fun _ => .bind (base_event_quiet env _ _ _ _) fun _ => .returns _

/-- The terminal event of an outcome, by its type. -/
def terminal_type (outcome : Except Exn α) : String :=
  match outcome with
  | .error _ => "tool_failed"
  | .ok _ => "tool_completed"

/-- The terminal event names the invocation and how the call ended. -/
theorem terminal_ok {told : String × Json} {s t : Counted (Run ω)}
    (h : (terminal env.ports self.process_id self.run_id intention outcome).exec s = (.ok told, t)) :
    told.2.get? "invocation_id" = some (text intention.invocation_id) ∧
      told.2.get? "event_type" = some (text (terminal_type outcome)) := by
  obtain ⟨worker, u, -, h⟩ := Prog.exec_bind_ok.mp h
  obtain ⟨base, v, hbase, h⟩ := Prog.exec_bind_ok.mp h
  obtain ⟨timestamp, rfl⟩ := base_event_ok hbase
  rw [← Except.ok.inj (Prod.mk.inj h).1]
  cases outcome with
  | error e => simp [dict, base_fields, tool_outcome, terminal_type]
  | ok value => simp [dict, base_fields, tool_outcome, terminal_type]

/-- **When the terminal event can be built**: neither the run nor the invocation is finished,
and the clock gives a time. -/
theorem terminal_returns_iff {s : Counted (Run ω)} :
    (∃ event t, (terminal env.ports self.process_id self.run_id intention outcome).exec s = (.ok event, t)) ↔
      s.state.self.run_finished = false ∧ s.state.self.agent_finished = false ∧
        ∃ isoformat, (env.clock.exec s.state.world).1 = .ok (.at isoformat) := by
  have hself : ∀ s, env.ports.self.exec s = (.ok s.state.self, s) := fun _ => rfl
  have hclock : ∀ s, env.ports.clock.exec s = ((env.clock.exec s.state.world).1,
      { s with state := { s.state with world := (env.clock.exec s.state.world).2 } }) := fun _ => rfl
  have htype : (tool_outcome [("decision_or_tool", text STEP)] "local-model-preflight-failed" outcome).event_type ≠
      "run_finished" ∧ (tool_outcome [("decision_or_tool", text STEP)] "local-model-preflight-failed"
      outcome).event_type ≠ "agent_finished" := by
    cases outcome <;> simp [tool_outcome]
  simp only [terminal, base_event, timestamp, Prog.exec_bind, hself]
  cases hfinished : s.state.self.run_finished with
  | true => simp [htype.1]
  | false =>
    cases hterminal : s.state.self.agent_finished with
    | true => simp [htype.1, htype.2]
    | false =>
      simp only [Bool.false_eq_true, false_and, if_false, Prog.exec_bind, hclock]
      rcases (env.clock.exec s.state.world).1 with e | _ | _ | isoformat <;> simp

/-- The outcome is on record: a call that failed has its failure there, one that returned
has some terminal event. -/
def OnRecord (held : ω → List Json) (self : Worker) (outcome : Except Exn α) (world : ω) : Prop :=
  match outcome with
  | .error _ => records held "tool_failed" (invocation self) world
  | .ok _ => ∃ event_type ∈ terminal_types, records held event_type (invocation self) world

/-- A store that keeps the terminal event has the outcome on record. -/
theorem on_record_of_kept {held : ω → List Json} (hid : intention.invocation_id = invocation self)
    {told : String × Json} {s t : Counted (Run ω)} {world : ω}
    (htold : (terminal env.ports self.process_id self.run_id intention outcome).exec s = (.ok told, t))
    (hkept : told.2 ∈ held world) : OnRecord held self outcome world := by
  obtain ⟨hinvocation, htype⟩ := terminal_ok htold
  rw [hid] at hinvocation
  cases outcome with
  | error e => exact ⟨told.2, hkept, hinvocation, htype⟩
  | ok value => exact ⟨"tool_completed", by decide, told.2, hkept, hinvocation, htype⟩

/-- Appending the terminal event: the store took it, or the outcome is unknown. -/
theorem append_terminal_takes (event_id : String) (event : Json) (s : Counted (Run ω)) :
    match (append_terminal env.ports event_id event outcome_unknown).exec s with
    | (.ok (), t) => ∃ append cursor, env.store.append = some append ∧
        (append event).exec s.state.world = (.ok cursor, t.state.world)
    | (.error e, _) => e = outcome_unknown ∧ ∀ append, env.store.append = some append →
        ∀ cursor world, (append event).exec s.state.world ≠ (.ok cursor, world) := by
  rw [append_terminal, Prog.exec_bind]
  unfold stored Environment.ports Store.map
  cases happend : env.store.append with
  | none => exact ⟨rfl, fun _ h => by cases h⟩
  | some append =>
    simp only [Option.map_some, Prog.exec_catch]
    rcases hrun : (append event).exec s.state.world with ⟨e | cursor, world⟩
    · rw [show (on_world (append event)).exec s = (.error e, { s with state := { s.state with world := world } }) by
        rw [on_world, Prog.exec_of, hrun]]
      refine ⟨rfl, fun append' h cursor' world' hok => ?_⟩
      obtain rfl := Option.some.inj h
      cases (Prod.mk.inj (hrun.symm.trans hok)).1
    · rw [show (on_world (append event)).exec s = (.ok cursor, { s with state := { s.state with world := world } }) by
        rw [on_world, Prog.exec_of, hrun]]
      exact ⟨append, cursor, rfl, hrun⟩

theorem conclude_quiet : Quiet (conclude env.ports self intention outcome) := by
  refine .bind terminal_quiet fun told => .bind (append_terminal_quiet env _ _ _) fun _ => ?_
  cases outcome with
  | error e => exact .raises _
  | ok value => exact .returns _

/-- What the conclusion makes of a terminal event that could be built: where the store gives a
cursor for it, the outcome of the call is told, and else that it is unknown. -/
theorem conclude_told {s t : Counted (Run ω)} {told : String × Json}
    (htold : (terminal env.ports self.process_id self.run_id intention outcome).exec s = (.ok told, t)) :
    match (conclude env.ports self intention outcome).exec s with
    | (.ok _, u) => outcome.isOk = true ∧ ∃ append cursor, env.store.append = some append ∧
        (append told.2).exec t.state.world = (.ok cursor, u.state.world)
    | (.error e, u) =>
      (e = outcome_unknown ∧ ∀ append, env.store.append = some append →
        ∀ cursor world, (append told.2).exec t.state.world ≠ (.ok cursor, world)) ∨
      (e = observer_gate_error "local model preflight failed" ∧ outcome.isOk = false ∧
        ∃ append cursor, env.store.append = some append ∧
          (append told.2).exec t.state.world = (.ok cursor, u.state.world)) := by
  obtain ⟨event_id, event⟩ := told
  have htaken := @append_terminal_takes _ env event_id event t
  rw [conclude, Prog.exec_bind, htold]
  simp only [Prog.exec_bind]
  rcases hrun : (append_terminal env.ports event_id event outcome_unknown).exec t with ⟨e | _, u⟩ <;>
    rw [hrun] at htaken
  · exact .inl htaken
  · cases outcome with
    | error e => exact .inr ⟨rfl, rfl, htaken⟩
    | ok value => exact ⟨rfl, htaken⟩

end Conclusion

/-! ## Which errors are honest -/

/-- The outer clauses raise one of the two errors. -/
theorem outer_cls (e : Exn) :
    (outer e).cls = .LocalModelObserverOutcomeUnknownError ∧ e.cls = .LocalModelObserverOutcomeUnknownError ∨
      (outer e).cls = .LocalModelObserverGateError ∧ e.cls ≠ .LocalModelObserverOutcomeUnknownError := by
  obtain ⟨cls, message⟩ := e
  cases cls <;> first | exact .inr ⟨rfl, nofun⟩ | exact .inl ⟨rfl, rfl⟩

/-- A call that left no state behind is honest whatever it raised. -/
theorem honest_of_no_call {held : ω → List Json} {self : Worker} {answer : Except Exn α}
    {after : Counted (Run ω)} (h : after.calls = 0) : Honest held self answer after :=
  ⟨fun hpos => absurd hpos (by omega), fun _ _ _ => .inl h⟩

/-- After a call an error that leaves the terminal event out is honest where it says that the
outcome is unknown, or where the failure is on record anyway. -/
theorem honest_outer_iff {held : ω → List Json} {self : Worker} {e : Exn} {after : Counted (Run ω)}
    (hcalls : after.calls = 1) : Honest held self (.error (outer e) : Except Exn α) after ↔
      e.cls = .LocalModelObserverOutcomeUnknownError ∨
        records held "tool_failed" (invocation self) after.state.world := by
  constructor
  · rintro ⟨-, hplain⟩
    rcases outer_cls e with ⟨-, hunknown⟩ | ⟨hgate, -⟩
    · exact .inl hunknown
    · rcases hplain _ rfl hgate with hnone | hfailed
      · omega
      · exact .inr hfailed
  · intro h
    refine ⟨fun _ hempty => ⟨_, rfl, ?_⟩, fun e' he' hcls => ?_⟩
    · rcases outer_cls e with ⟨hunknown, -⟩ | ⟨-, hne⟩
      · exact hunknown
      · exact absurd (h.resolve_left hne) (hempty _ (by decide))
    · obtain rfl := Except.error.inj he'
      rcases outer_cls e with ⟨hunknown, -⟩ | ⟨-, hne⟩
      · exact absurd (hunknown.symm.trans hcls) (by decide)
      · exact .inr (h.resolve_left hne)

/-- In a state that the call left, the terminal event can be built (neither the run nor the
invocation is finished, and the clock gives a time), and a store that gives a cursor for it has
the outcome on record. Failing the first, the clock itself raises the error for an unknown
outcome, or the store holds that the call failed. -/
def RecordableIn (env : Environment ω) (held : ω → List Json) (self : Worker) (intention : Intention)
    (outcome : Except Exn α) (t : Counted (Run ω)) : Prop :=
  ((t.state.self.run_finished = false ∧ t.state.self.agent_finished = false ∧
      ∃ isoformat, (env.clock.exec t.state.world).1 = .ok (.at isoformat)) ∧
    ∀ told u append cursor world,
      (terminal env.ports self.process_id self.run_id intention outcome).exec t = (.ok told, u) →
      env.store.append = some append → (append told.2).exec u.state.world = (.ok cursor, world) →
      OnRecord held self outcome world) ∨
  ∃ e u, (terminal env.ports self.process_id self.run_id intention outcome).exec t = (.error e, u) ∧
    (e.cls = .LocalModelObserverOutcomeUnknownError ∨
      records held "tool_failed" (invocation self) u.state.world)

/-- What is told of a call is honest exactly where the outcome is on record. -/
theorem honest_told_iff {held : ω → List Json} {self : Worker} {outcome : Except Exn α}
    {after : Counted (Run ω)} (hcalls : after.calls = 1) :
    (match outcome with
      | .ok value => Honest held self (.ok value : Except Exn α) after
      | .error _ => Honest held self
          (.error (outer (observer_gate_error "local model preflight failed")) : Except Exn α) after) ↔
      OnRecord held self outcome after.state.world := by
  cases outcome with
  | ok value =>
    constructor
    · rintro ⟨hunknown, -⟩
      by_contra hnone
      obtain ⟨e, he, -⟩ := hunknown (by omega) fun event_type hmem hheld =>
        hnone ⟨event_type, hmem, hheld⟩
      cases he
    · rintro ⟨event_type, hmem, hheld⟩
      exact ⟨fun _ hempty => absurd hheld (hempty _ hmem), fun _ h => nomatch h⟩
  | error e =>
    refine (honest_outer_iff hcalls).trans ⟨fun h => h.resolve_left (by decide), .inr⟩

/-- After the call, the errors are honest where the outcome can be put on record. -/
theorem conclude_honest_iff (held : ω → List Json) {self : Worker} {intention : Intention}
    {outcome : Except Exn α} {t : Counted (Run ω)} (hcalls : t.calls = 1) :
    Honest held self
        ((tryCatch (conclude env.ports self intention outcome) fun e => throw (outer e)).exec t).1
        ((tryCatch (conclude env.ports self intention outcome) fun e => throw (outer e)).exec t).2 ↔
      RecordableIn env held self intention outcome t := by
  rw [Prog.exec_catch]
  have hone : ((conclude env.ports self intention outcome).exec t).2.calls = 1 :=
    (conclude_quiet t).trans hcalls
  rcases htold : (terminal env.ports self.process_id self.run_id intention outcome).exec t with ⟨e | told, u⟩
  · -- the terminal event is not built, and the exception leaves
    have hconclude : (conclude env.ports self intention outcome).exec t = (.error e, u) := by
      rw [conclude, Prog.exec_bind, htold]
    rw [hconclude] at hone ⊢
    refine (honest_outer_iff hone).trans ⟨fun h => .inr ⟨e, u, htold, h⟩, fun h => ?_⟩
    rcases h with ⟨hbuilt, -⟩ | ⟨e', u', hraised, h⟩
    · obtain ⟨told, v, hok⟩ := terminal_returns_iff.mpr hbuilt
      exact nomatch (Prod.mk.inj (htold.symm.trans hok)).1
    · obtain ⟨he, rfl⟩ := Prod.mk.inj (htold.symm.trans hraised)
      obtain rfl := Except.error.inj he
      exact h
  · -- it is built: what the store makes of it decides
    have hbuilt := terminal_returns_iff.mp ⟨told, u, htold⟩
    have hrecordable : RecordableIn env held self intention outcome t ↔
        ∀ append cursor world, env.store.append = some append →
          (append told.2).exec u.state.world = (.ok cursor, world) → OnRecord held self outcome world := by
      constructor
      · rintro (⟨-, h⟩ | ⟨e, u', hraised, -⟩) append cursor world happend htaken
        · exact h told u append cursor world htold happend htaken
        · cases (Prod.mk.inj (htold.symm.trans hraised)).1
      · intro h
        refine .inl ⟨hbuilt, fun told' u' append cursor world htold' happend htaken => ?_⟩
        obtain ⟨hok, rfl⟩ := Prod.mk.inj (htold.symm.trans htold')
        obtain rfl := Except.ok.inj hok
        exact h append cursor world happend htaken
    rw [hrecordable]
    have hconclude := conclude_told htold
    rcases hrun : (conclude env.ports self intention outcome).exec t with ⟨e | value, v⟩ <;>
      rw [hrun] at hconclude hone
    · rcases hconclude with ⟨rfl, hnever⟩ | ⟨rfl, hfailed, append, cursor, happend, htaken⟩
      · refine iff_of_true ((honest_outer_iff hone).mpr (.inl rfl)) ?_
        exact fun append cursor world happend htaken => absurd htaken (hnever append happend cursor world)
      · cases outcome with
        | ok value => cases hfailed
        | error e =>
          refine (@honest_told_iff _ _ held self (.error e) _ hone).trans
            ⟨fun h append' cursor' world happend' htaken' => ?_, fun h => h append cursor _ happend htaken⟩
          obtain rfl := Option.some.inj (happend.symm.trans happend')
          obtain ⟨-, rfl⟩ := Prod.mk.inj (htaken.symm.trans htaken')
          exact h
    · obtain ⟨hreturned, append, cursor, happend, htaken⟩ := hconclude
      cases outcome with
      | error e => cases hreturned
      | ok value' =>
        refine (@honest_told_iff _ _ held self (.ok value) _ hone).trans
          ⟨fun h append' cursor' world happend' htaken' => ?_, fun h => h append cursor _ happend htaken⟩
        obtain rfl := Option.some.inj (happend.symm.trans happend')
        obtain ⟨-, rfl⟩ := Prod.mk.inj (htaken.symm.trans htaken')
        exact h

/-- Where the call leaves a state, its outcome can be put on record. -/
def Recordable (env : Environment ω) (held : ω → List Json) (call : Prog Exn (Run ω) α) (run : Run ω) : Prop :=
  ∀ events intention outcome t, env.ports.store.events = some events →
    (dispatch_once env.ports events run.self call.counted).exec ⟨run, 0⟩ = (.ok (intention, outcome), t) →
    RecordableIn env held run.self intention outcome t

/-- Reading the events is no call. -/
theorem events_quiet {events : Prog Exn (Counted (Run ω)) (List Json)}
    (h : env.ports.store.events = some events) : Quiet events := by
  simp only [Environment.ports, Store.map] at h
  obtain ⟨read, -, rfl⟩ := Option.map_eq_some_iff.mp h
  exact .on_world read

/-- Over a store that keeps what it gives a cursor for, the building of the event decides. -/
theorem recordable_of_keeping {held : ω → List Json} {call : Prog Exn (Run ω) α} {run : Run ω}
    (hkeeps : ∀ append event world cursor after, env.store.append = some append →
      (append event).exec world = (.ok cursor, after) → event ∈ held after)
    (hbuilt : ∀ events intention outcome t, env.ports.store.events = some events →
      (dispatch_once env.ports events run.self call.counted).exec ⟨run, 0⟩ =
        (.ok (intention, outcome), t) →
      t.state.self.run_finished = false ∧ t.state.self.agent_finished = false ∧
        ∃ isoformat, (env.clock.exec t.state.world).1 = .ok (.at isoformat)) :
    Recordable env held call run := by
  intro events intention outcome t hevents hdispatch
  have hruns := @dispatch_once_runs _ _ env _ (events_quiet hevents) run.self call ⟨run, 0⟩
  rw [hdispatch] at hruns
  refine .inl ⟨hbuilt _ _ _ _ hevents hdispatch, fun told u append cursor world htold happend htaken => ?_⟩
  exact on_record_of_kept hruns.2 htold (hkeeps _ _ _ _ _ happend htaken)

/-- A call of the gate in a run, with the calls of `dispatch` counted. -/
def preflight_run (env : Environment ω) (dispatch : Option (Prog Exn (Run ω) α)) (process_id : Arg String)
    (run : Run ω) : Except Exn α × Counted (Run ω) :=
  (journal_local_model_preflight env.ports (dispatch.map Prog.counted) process_id).exec ⟨run, 0⟩

/-- **When the errors of the gate are honest**: where it reaches its call, the terminal event
can be built afterwards, and a store that gives a cursor for it has kept it. -/
theorem preflight_honest_iff (held : ω → List Json) (dispatch : Option (Prog Exn (Run ω) α))
    (process_id : Arg String) (run : Run ω) :
    Honest held run.self (preflight_run env dispatch process_id run).1
        (preflight_run env dispatch process_id run).2 ↔
      ∀ call, dispatch = some call → process_id = .of run.self.process_id →
        run.self.has_last_event = true → Recordable env held call run := by
  rw [preflight_run, journal_local_model_preflight, Prog.exec_bind,
    show env.ports.self.exec (⟨run, 0⟩ : Counted (Run ω)) = (.ok run.self, ⟨run, 0⟩) from rfl]
  dsimp only
  -- where a guard refuses, or the store has no `events`, nothing was called
  by_cases hguards : process_id ≠ .of run.self.process_id ∨ run.self.has_last_event = false
  · rw [if_pos hguards]
    refine iff_of_true (honest_of_no_call rfl) fun call _ hprocess hlast => ?_
    rcases hguards with hne | hnone
    · exact absurd hprocess hne
    · rw [hnone] at hlast
      cases hlast
  · rw [if_neg hguards]
    obtain ⟨hprocess, hlast⟩ := not_or.mp hguards
    cases dispatch with
    | none => exact iff_of_true (honest_of_no_call rfl) fun _ h => by cases h
    | some call =>
      rw [Option.map_some]
      cases hevents : env.ports.store.events with
      | none =>
        refine iff_of_true (honest_of_no_call rfl) fun call _ _ _ events _ _ _ h => ?_
        cases hevents.symm.trans h
      | some events =>
        have hruns := @dispatch_once_runs _ _ env _ (events_quiet hevents) run.self call ⟨run, 0⟩
        simp only [Prog.exec_catch, Prog.exec_bind]
        rcases hdispatch : (dispatch_once env.ports events run.self call.counted).exec ⟨run, 0⟩ with
          ⟨e | ⟨intention, outcome⟩, t⟩ <;> rw [hdispatch] at hruns
        · refine iff_of_true (honest_of_no_call hruns) fun call' hcall _ _ events' _ _ _ h hok => ?_
          obtain rfl := Option.some.inj hcall
          obtain rfl := Option.some.inj (hevents.symm.trans h)
          cases (Prod.mk.inj (hdispatch.symm.trans hok)).1
        · obtain ⟨hcalls, -⟩ := hruns
          -- the gate is a function of the run, so the dispatch that happened is the one to speak of
          have hrecordable : (∀ call', some call = some call' → process_id = .of run.self.process_id →
              run.self.has_last_event = true → Recordable env held call' run) ↔
              RecordableIn env held run.self intention outcome t := by
            constructor
            · intro h
              exact h call rfl (not_not.mp hprocess) (by simpa using hlast) events _ _ _ hevents hdispatch
            · intro h call' hcall _ _ events' intention' outcome' t' hevents' hdispatch'
              obtain rfl := Option.some.inj hcall
              obtain rfl := Option.some.inj (hevents.symm.trans hevents')
              obtain ⟨hok, rfl⟩ := Prod.mk.inj (hdispatch.symm.trans hdispatch')
              obtain ⟨rfl, rfl⟩ := Prod.mk.inj (Except.ok.inj hok)
              exact h
          have hconclude := @conclude_honest_iff _ _ env held run.self intention outcome t hcalls
          rw [Prog.exec_catch] at hconclude
          rw [hrecordable]
          exact hconclude

/-! ### Samples -/

/-- A store that keeps every event, and a clock that gives its first `readings` answers only.
The world is the events and the number of readings. -/
def sample_journal (readings : ℕ) : Environment (List Json × ℕ) where
  store :=
    { record_checkpoint := some fun _ => pure 0
      append := some fun event => .of fun world => (.ok world.1.length, world.1 ++ [event], world.2)
      record_checkpoint_and_intent := none
      record_checkpoint_and_intent_once := some fun _ intent =>
        .of fun world => (.ok world.1.length, world.1 ++ [intent], world.2)
      events := some (.of fun world => (.ok world.1, world)) }
  id_factory := pure .other
  clock := .of fun world =>
    (.ok (if world.2 < readings then .at "2026-01-01T00:00:00+00:00" else .invalid), world.1, world.2 + 1)

/-- A preflight of the sample worker, whose call returns. -/
def sample_run (readings : ℕ) : Except Exn Unit × Counted (Run (List Json × ℕ)) :=
  preflight_run (sample_journal readings) (some (pure ())) (.of "process-1") ⟨sample_worker, [], 0⟩

/-- The call returns, and the clock fails at its third reading: the plain error, and nothing is
on record. -/
theorem clock_failure_hides_the_call :
    ¬ Honest Prod.fst sample_worker (sample_run 2).1 (sample_run 2).2 := by
  rintro ⟨hunknown, -⟩
  obtain ⟨e, he, hcls⟩ := hunknown (Nat.zero_lt_one) (by
    rintro event_type htype ⟨held, hmem, -, hheld⟩
    -- the only event is the intent
    obtain rfl := List.mem_singleton.mp hmem
    have hintent : event_type = "tool_requested" := by
      simpa [text, dict, labels] using hheld.symm
    exact absurd (hintent ▸ htype) (by decide))
  obtain rfl : unavailable = e := Except.error.inj he
  exact nomatch hcls

/-- With one more reading the same call is recorded. -/
theorem recorded_call_honest :
    Honest Prod.fst sample_worker (sample_run 3).1 (sample_run 3).2 := by
  refine (@preflight_honest_iff _ _ (sample_journal 3) Prod.fst (some (pure ())) (.of "process-1")
    ⟨sample_worker, [], 0⟩).mpr ?_
  intro call hcall _ _
  obtain rfl := Option.some.inj hcall
  refine recordable_of_keeping (fun append event world cursor after happend htaken => ?_)
    fun events intention outcome t hevents hdispatch => ?_
  · cases happend
    cases htaken
    exact List.mem_append_right _ (List.mem_singleton.mpr rfl)
  · cases hevents
    cases hdispatch
    exact ⟨rfl, rfl, _, rfl⟩

end AppContracts.LocalModelGate
