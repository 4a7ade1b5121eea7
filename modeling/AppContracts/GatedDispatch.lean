/-
The gate in front of every journaled effect: `run_gated_dispatch` of
`observation_store.py`, and the store that captures checkpoint artifacts of
`observer_checkpoint_artifacts.py`.

The gate is code over any monad that raises, so that it runs on a state and
inside an interleaving alike. A store is what the gate reads of it with
`getattr`: its methods, where they are callable.

Callers read `PreDispatchError` as the proof that nothing was started. In
one-shot mode the call itself stands inside the `try` of the recording, so the
store's own exceptions, raised by the call, are reported that way too:
`pre_dispatch_error_iff` (in `GateRefusal`) says for which calls the error is a proof.
-/
import AppContracts.ObservationEquivalence
import AppContracts.Lib.Triple

set_option autoImplicit false

namespace AppContracts.GatedDispatch

open Stateful

/-! ## Stores -/

/-- A store, by the attributes its callers look up; `none` where an attribute is
missing or not callable. -/
structure Store (m : Type → Type) : Type where
  record_checkpoint : Option (Json → m ℕ)
  append : Option (Json → m ℕ)
  record_checkpoint_and_intent : Option (Json → Json → m ℕ)
  record_checkpoint_and_intent_once : Option (Json → Json → m ℕ)
  events : Option (m (List Json))

/-- The store whose methods run in another monad. -/
def Store.map {m n : Type → Type} (f : {α : Type} → m α → n α) (store : Store m) : Store n where
  record_checkpoint := store.record_checkpoint.map fun method checkpoint => f (method checkpoint)
  append := store.append.map fun method event => f (method event)
  record_checkpoint_and_intent :=
    store.record_checkpoint_and_intent.map fun method checkpoint intent_event =>
      f (method checkpoint intent_event)
  record_checkpoint_and_intent_once :=
    store.record_checkpoint_and_intent_once.map fun method checkpoint intent_event =>
      f (method checkpoint intent_event)
  events := store.events.map f

/-- `ObservationStore`: it has no method that records a pair. -/
def memory_store : Store (Prog Exn ObservationStore.Memory) where
  record_checkpoint := some fun checkpoint => .of (·.record_checkpoint checkpoint)
  append := some fun event => .of (·.append event)
  record_checkpoint_and_intent := none
  record_checkpoint_and_intent_once := some fun checkpoint intent_event =>
    .of (·.record_checkpoint_and_intent_once checkpoint intent_event)
  events := some (.of fun store => (.ok store.events.docs, store))

/-- A statement on a database that follows a list of refusals: the next write
fails where the list says so. -/
def answer_or_refuse (op : ObservationStore.Op) :
    ObservationStore.Db × List Bool → ObservationStore.Res op × (ObservationStore.Db × List Bool)
  | (db, refusals) =>
    match ObservationStore.refused op, refusals with
    | some answer, true :: rest => (answer, db, rest)
    | some _, false :: rest =>
      ((ObservationStore.answer op db).1, (ObservationStore.answer op db).2, rest)
    | _, refusals => ((ObservationStore.answer op db).1, (ObservationStore.answer op db).2, refusals)

/-- A method of the durable store on a database that refuses some writes. -/
def durable {α : Type} (program : ObservationStore.Program α) :
    Prog Exn (ObservationStore.Db × List Bool) α :=
  .of (program.exec answer_or_refuse)

/-- `SQLiteObservationStore`. -/
def sqlite_store : Store (Prog Exn (ObservationStore.Db × List Bool)) where
  record_checkpoint := some fun checkpoint =>
    durable (ObservationStore.record_checkpoint checkpoint)
  append := some fun event => durable (ObservationStore.append event)
  record_checkpoint_and_intent := some fun checkpoint intent_event =>
    durable (ObservationStore.record_checkpoint_and_intent checkpoint intent_event)
  record_checkpoint_and_intent_once := some fun checkpoint intent_event =>
    durable (ObservationStore.record_checkpoint_and_intent_once checkpoint intent_event)
  events := some (durable (ObservationStore.documents .observation_events))

/-! ## Checkpoint artifacts -/

/-- `ArtifactResolution`. -/
structure ArtifactResolution : Type where
  artifact_ref : String
  content_digest : String
  content_bytes : ℕ
  deriving DecidableEq

/-- What `artifact_store.put_json` and `artifact_store.resolve` give: an
exception, an object of another type, or a resolution. -/
structure ArtifactStore : Type where
  put_json : List ℕ → Except Exn (Arg ArtifactResolution)
  resolve : String → Except Exn (Arg ArtifactResolution)

/-- `_CHECKPOINT_FIELDS`. -/
def CHECKPOINT_FIELDS : List String :=
  ["schema_version", "checkpoint_id", "kind", "process_id", "run_id", "branch_id", "agent_id",
    "trigger_event_id", "event_cursor", "completeness", "restore_mode", "created_at"]

/-- `_INTENT_FIELDS`. -/
def INTENT_FIELDS : List String := ["event_id", "event_type", "sequence", "decision_or_tool"]

/-- `_UNAVAILABLE_STATE_COMPONENTS`. -/
def UNAVAILABLE_STATE_COMPONENTS : List String := ["process_memory", "model_internal_state"]

/-- `_OPTIONAL_STATE_REFERENCES`. -/
def OPTIONAL_STATE_REFERENCES : List (String × String) :=
  [("context_manifest_ref", "context_manifest"), ("workspace_manifest_ref", "workspace_manifest"),
    ("configuration_refs", "configuration_refs"), ("authority_refs", "authority_refs"),
    ("in_flight_invocation_ids", "in_flight_invocation_state"),
    ("external_effect_refs", "external_effect_state")]

/-- `MAX_ARTIFACT_BYTES`. -/
def MAX_ARTIFACT_BYTES : ℕ := 1024 * 1024

/-- A character of `_OPERATION` after the first. -/
def is_operation_char (c : Char) : Bool :=
  c.isAlphanum || c = '_' || c = '.' || c = ':' || c = '-'

/-- `_OPERATION.fullmatch(operation)`. -/
def is_operation (operation : String) : Bool :=
  match operation.toList with
  | [] => false
  | c :: rest => c.isAlpha && rest.length ≤ 127 && rest.all is_operation_char

/-- A value of type `int` that is not negative. -/
def is_count : Option Json → Bool
  | some (.int n) => 0 ≤ n
  | _ => false

/-- A value of type `str`. -/
def is_str : Option Json → Bool
  | some (.str _) => true
  | _ => false

/-- A value of type `str` that `_OPERATION` matches. -/
def names_operation : Option Json → Bool
  | some (.str (.text operation)) => is_operation operation
  | _ => false

/-- `{key: doc[key] for key in fields if key in doc}`. -/
def select_fields (doc : Json) (fields : List String) : List (PyStr × Json) :=
  fields.filterMap fun key => (doc.get? key).map fun v => (.text key, v)

/-- `_metadata(checkpoint, intent_event)`. -/
def metadata (checkpoint intent_event : Json) :
    Except Exn (List (PyStr × Json) × List (PyStr × Json)) :=
  let unavailable := ObservationStore.store_error "pending-action metadata unavailable"
  match checkpoint, intent_event with
  | .obj _, .obj _ => do
    raise_if (¬ (names_operation (intent_event.get? "decision_or_tool") ∧
      ObservationStore.is_intent intent_event ∧ is_str (intent_event.get? "event_id") ∧
      is_count (intent_event.get? "sequence") ∧ is_str (checkpoint.get? "checkpoint_id") ∧
      is_count (checkpoint.get? "event_cursor") ∧
      (checkpoint.get? "pending_action_ref").isNone)) unavailable
    let checkpoint_metadata := select_fields checkpoint CHECKPOINT_FIELDS
    let intent_metadata := select_fields intent_event INTENT_FIELDS
    raise_if (checkpoint_metadata.length ≠ CHECKPOINT_FIELDS.length ∨
      intent_metadata.length ≠ INTENT_FIELDS.length) unavailable
    return (checkpoint_metadata, intent_metadata)
  | _, _ => .error unavailable

/-- `_store_artifact(payload)`. -/
def store_artifact (artifacts : ArtifactStore) (payload : Json) : Except Exn String := do
  let encoded ← canonical_json payload
  raise_if (MAX_ARTIFACT_BYTES < encoded.length) ⟨.ValueError, ""⟩
  let digest := sha256_bytes encoded
  let expected_ref := "artifact://sha256/" ++ Sha256.hexdigest encoded
  let expected : ArtifactResolution := ⟨expected_ref, digest, encoded.length⟩
  let stored ← artifacts.put_json encoded
  raise_if (stored ≠ .of expected) ⟨.ValueError, ""⟩
  let resolved ← artifacts.resolve expected_ref
  raise_if (resolved ≠ .of expected) ⟨.ValueError, ""⟩
  return expected_ref

/-- A string constant. -/
def text (s : String) : Json := .str (.text s)

/-- A dict. -/
def dict (fields : List (String × Json)) : Json :=
  .obj (fields.map fun field => (.text field.1, field.2))

/-- `d[key] = v`. -/
def with_field (doc : Json) (key : String) (v : Json) : Json :=
  match doc with
  | .obj fields => .obj (Json.set_field (.text key) v fields)
  | doc => doc

/-- A dict with one more item is a dict. -/
theorem wf_with_field {doc v : Json} (hd : doc.wf) (hv : v.wf) (key : String) :
    (with_field doc key v).wf := by
  cases doc with
  | obj fields =>
    obtain ⟨hnodup, hfields⟩ := hd
    -- setting a field replaces the one of its key, or adds it at the end
    have hkeys : ∀ fields : List (PyStr × Json), ∀ p ∈ Json.set_field (.text key) v fields,
        p = (.text key, v) ∨ p ∈ fields := by
      intro fields
      induction fields with
      | nil => simp [Json.set_field]
      | cons p rest ih =>
        rw [Json.set_field]
        split_ifs <;> grind
    refine ⟨?_, Json.wf_fields_iff.mpr fun f hf => ?_⟩
    · clear hfields
      induction fields with
      | nil => simp [Json.set_field]
      | cons p rest ih =>
        rw [List.map_cons, List.nodup_cons] at hnodup
        rw [Json.set_field]
        split_ifs with heq
        · rw [List.map_cons, List.nodup_cons, ← heq]
          exact hnodup
        · rw [List.map_cons, List.nodup_cons]
          refine ⟨fun hmem => ?_, ih hnodup.2⟩
          obtain ⟨q, hq, hfst⟩ := List.mem_map.mp hmem
          rcases hkeys rest q hq with rfl | hq
          · exact heq hfst.symm
          · exact hnodup.1 (hfst ▸ List.mem_map_of_mem hq)
    · rcases hkeys fields f hf with rfl | hmem
      · exact hv
      · exact Json.wf_fields_iff.mp hfields f hmem
  | _ => exact hd

/-- The `try` of `_capture`: the checkpoint with references to its artifacts. -/
def enrich (artifacts : ArtifactStore) (checkpoint : Json)
    (checkpoint_metadata intent_metadata : List (PyStr × Json)) : Except Exn Json := do
  let artifact_ref ← store_artifact artifacts (dict
    [("schema", text "observer-pending-action/v1"),
      ("scope", text "checkpoint-metadata-and-intent-only"),
      ("checkpoint", .obj checkpoint_metadata), ("intent", .obj intent_metadata)])
  let unavailable_components := UNAVAILABLE_STATE_COMPONENTS ++
    OPTIONAL_STATE_REFERENCES.filterMap fun reference =>
      if (checkpoint.get? reference.1).isNone then some reference.2 else none
  let state_ref ← store_artifact artifacts (dict
    [("schema", text "observer-logical-state/v1"), ("scope", text "checkpoint-metadata-only"),
      ("capture_mode", text "metadata_only"), ("restorable", .bool false),
      ("checkpoint", .obj checkpoint_metadata), ("pending_action_ref", text artifact_ref),
      ("unavailable_components", .arr (unavailable_components.map text))])
  return with_field (with_field checkpoint "state_ref" (text state_ref)) "pending_action_ref"
    (text artifact_ref)

/-- `_capture(checkpoint, intent_event)`. -/
def capture (artifacts : ArtifactStore) (checkpoint intent_event : Json) : Except Exn Json := do
  let (checkpoint_metadata, intent_metadata) ← metadata checkpoint intent_event
  match enrich artifacts checkpoint checkpoint_metadata intent_metadata with
  | .ok enriched => .ok enriched
  | .error e =>
    .error (if e.is_any [.ObservationStoreError] then e
      else ObservationStore.store_error "checkpoint artifact unavailable")

/-- Capturing keeps a dict a dict. -/
theorem wf_capture {artifacts : ArtifactStore} {checkpoint intent_event enriched : Json}
    (hw : checkpoint.wf) (h : capture artifacts checkpoint intent_event = .ok enriched) :
    enriched.wf := by
  simp only [capture, bind_ok] at h
  obtain ⟨⟨checkpoint_metadata, intent_metadata⟩, -, h⟩ := h
  simp only at h
  split at h
  · rename_i enriched' henrich
    obtain rfl := Except.ok.inj h
    simp only [enrich, bind_ok, pure, Except.pure, Except.ok.injEq] at henrich
    obtain ⟨artifact_ref, -, state_ref, -, rfl⟩ := henrich
    have htext : ∀ s, (text s).wf := fun _ => trivial
    exact wf_with_field (wf_with_field hw (htext _) _) (htext _) _
  · exact nomatch h

section Generic

variable {m : Type → Type} [Monad m] [MonadExcept Exn m] {α : Type}

/-- The outcome of code that touches no state. -/
def lift : Except Exn α → m α
  | .ok a => pure a
  | .error e => throw e

/-- `ArtifactCapturingObservationStore(journal, artifact_store)`. -/
def capturing (artifacts : ArtifactStore) (journal : Store m) : Store m where
  record_checkpoint := journal.record_checkpoint
  append := journal.append
  record_checkpoint_and_intent := some fun checkpoint intent_event => do
    let enriched ← lift (capture artifacts checkpoint intent_event)
    match journal.record_checkpoint_and_intent, journal.record_checkpoint, journal.append with
    | some persist_pair, _, _ => persist_pair enriched intent_event
    | none, some record_checkpoint, some append => do
      let _ ← record_checkpoint enriched
      append intent_event
    | _, _, _ => throw ⟨.TypeError, "object is not callable"⟩
  record_checkpoint_and_intent_once := some fun checkpoint intent_event =>
    match journal.record_checkpoint_and_intent_once with
    | none => throw (ObservationStore.store_error "one-shot artifact write unavailable")
    | some persist_once => do
      let enriched ← lift (capture artifacts checkpoint intent_event)
      persist_once enriched intent_event
  events := journal.events

/-! ## The gate -/

/-- `PreDispatchError("pre-dispatch gate refused: " + message)`. -/
def refusal (message : String) : Exn := ⟨.PreDispatchError, "pre-dispatch gate refused: " ++ message⟩

/-- The classes the gate turns into refusals. -/
def store_classes : List ExnClass :=
  [.ContractValidationError, .EventConflictError, .ObservationStoreError]

/-- `except (ContractValidationError, EventConflictError, ObservationStoreError)`. -/
def gate_error (e : Exn) : Exn := if e.is_any store_classes then refusal e.message else e

/-- The store methods the gate calls to record the checkpoint and the intent. -/
def persist (store : Store m) (record_checkpoint append : Json → m ℕ)
    (checkpoint intent_event : Json) (once : Bool) : m ℕ :=
  if once then
    match store.record_checkpoint_and_intent_once with
    | none => throw ⟨.ObservationStoreError, "one-shot journal insertion unavailable"⟩
    | some persist_once => persist_once checkpoint intent_event
  else
    match store.record_checkpoint_and_intent with
    | some persist_pair => persist_pair checkpoint intent_event
    | none => do
      let _ ← record_checkpoint checkpoint
      append intent_event

/-- The gate up to the call: both records, then the callback. -/
def recorded (store : Store m) (record_checkpoint append : Json → m ℕ)
    (checkpoint intent_event : Json) (once : Bool) (on_intent_recorded : Option (ℕ → m Unit)) :
    m ℕ := do
  let cursor ← persist store record_checkpoint append checkpoint intent_event once
  match on_intent_recorded with
  | none => return cursor
  | some callback => do
    callback cursor
    return cursor

/-- The gate once its collaborators are known to be callable. Only in one-shot
mode does the `try` reach over the call. -/
def record_and_dispatch (recorded : m ℕ) (dispatch : m α) (once : Bool) : m (ℕ × α) :=
  if once then
    tryCatch
      (do
        let cursor ← recorded
        let value ← dispatch
        return (cursor, value))
      fun e => throw (gate_error e)
  else do
    let cursor ← tryCatch recorded fun e => throw (gate_error e)
    let value ← dispatch
    return (cursor, value)

/-- `run_gated_dispatch(store, checkpoint=.., intent_event=.., dispatch=..,
once=.., on_intent_recorded=..)`. -/
def run_gated_dispatch (store : Store m) (checkpoint intent_event : Json) (dispatch : Option (m α))
    (once : Bool) (on_intent_recorded : Option (Arg (ℕ → m Unit))) : m (ℕ × α) :=
  match store.record_checkpoint, store.append with
  | some record_checkpoint, some append =>
    match dispatch, on_intent_recorded with
    | none, _ => throw (refusal "dispatch is not callable")
    | some _, some .other => throw (refusal "intent callback is invalid")
    | some dispatch, none =>
      record_and_dispatch
        (recorded store record_checkpoint append checkpoint intent_event once none) dispatch once
    | some dispatch, some (.of callback) =>
      record_and_dispatch
        (recorded store record_checkpoint append checkpoint intent_event once (some callback))
        dispatch once
  | _, _ => throw (refusal "store is invalid")

end Generic

/-! ## Runs of the gate -/

section Runs

variable {σ α β : Type}

/-- A gate that records and then calls: an exception of the call is read as one
of the recording in one-shot mode. -/
theorem record_and_dispatch_exec (recorded : Prog Exn σ ℕ) (dispatch : Prog Exn σ α) (once : Bool)
    (s : σ) :
    (record_and_dispatch recorded dispatch once).exec s = match recorded.exec s with
      | (.error e, t) => (.error (gate_error e), t)
      | (.ok cursor, t) => match dispatch.exec t with
        | (.ok value, u) => (.ok (cursor, value), u)
        | (.error e, u) => (.error (if once then gate_error e else e), u) := by
  unfold record_and_dispatch
  cases once with
  | true =>
    simp only [if_true, Prog.exec_catch, Prog.exec_bind]
    rcases recorded.exec s with ⟨e | cursor, t⟩
    · simp
    · simp only
      rcases dispatch.exec t with ⟨e | value, u⟩ <;> simp
  | false =>
    simp only [Bool.false_eq_true, if_false, Prog.exec_catch, Prog.exec_bind]
    rcases recorded.exec s with ⟨e | cursor, t⟩
    · simp
    · simp only
      rcases dispatch.exec t with ⟨e | value, u⟩ <;> simp

theorem silent_bind (p : Prog Exn σ β) (f : β → Prog Exn σ α) :
    (p >>= f).silent = p.silent >>= fun b => (f b).silent := by
  refine Prog.ext fun s => ?_
  simp only [Prog.exec_silent, Prog.exec_bind]
  rcases p.exec s.state with ⟨e | b, t⟩ <;> rfl

theorem silent_throw (e : Exn) : (throw e : Prog Exn σ α).silent = throw e := rfl

theorem silent_return (a : α) : (pure a : Prog Exn σ α).silent = pure a := rfl

/-- Recording does not count. -/
theorem persist_silent (store : Store (Prog Exn σ)) (record_checkpoint append : Json → Prog Exn σ ℕ)
    (checkpoint intent_event : Json) (once : Bool) :
    persist (store.map Prog.silent) (fun doc => (record_checkpoint doc).silent)
        (fun doc => (append doc).silent) checkpoint intent_event once =
      (persist store record_checkpoint append checkpoint intent_event once).silent := by
  unfold persist
  cases once with
  | true => cases hm : store.record_checkpoint_and_intent_once <;> simp [Store.map, hm, silent_throw]
  | false =>
    cases hm : store.record_checkpoint_and_intent <;> simp [Store.map, hm, silent_bind]

theorem recorded_silent (store : Store (Prog Exn σ)) (record_checkpoint append : Json → Prog Exn σ ℕ)
    (checkpoint intent_event : Json) (once : Bool) (callback : Option (ℕ → Prog Exn σ Unit)) :
    recorded (store.map Prog.silent) (fun doc => (record_checkpoint doc).silent)
        (fun doc => (append doc).silent) checkpoint intent_event once
        (callback.map fun f cursor => (f cursor).silent) =
      (recorded store record_checkpoint append checkpoint intent_event once callback).silent := by
  unfold recorded
  rw [persist_silent, silent_bind]
  refine congrArg _ (funext fun cursor => ?_)
  cases callback with
  | none => rfl
  | some f => rw [Option.map_some, silent_bind, silent_return]

/-- The gate over a state, with the calls of `dispatch` counted. -/
def gate (store : Store (Prog Exn σ)) (checkpoint intent_event : Json) (dispatch : Option (Prog Exn σ α))
    (once : Bool) (on_intent_recorded : Option (Arg (ℕ → Prog Exn σ Unit))) :
    Prog Exn (Counted σ) (ℕ × α) :=
  run_gated_dispatch (store.map Prog.silent) checkpoint intent_event (dispatch.map Prog.counted) once
    (on_intent_recorded.map fun callback => match callback with
      | .of callback => .of fun cursor => (callback cursor).silent
      | .other => .other)

/-- A gate with all its collaborators records, and then calls. -/
theorem gate_present (store : Store (Prog Exn σ)) {record_checkpoint append : Json → Prog Exn σ ℕ}
    (hr : store.record_checkpoint = some record_checkpoint) (ha : store.append = some append)
    (checkpoint intent_event : Json) (call : Prog Exn σ α) (once : Bool)
    (callback : Option (ℕ → Prog Exn σ Unit)) :
    gate store checkpoint intent_event (some call) once (callback.map Arg.of) =
      record_and_dispatch (recorded store record_checkpoint append checkpoint intent_event once
        callback).silent call.counted once := by
  unfold gate run_gated_dispatch
  rw [← recorded_silent]
  cases callback <;> simp [Store.map, hr, ha]

/-- **A gate refuses at once, or records and then calls once.** -/
theorem gate_cases (store : Store (Prog Exn σ)) (checkpoint intent_event : Json)
    (dispatch : Option (Prog Exn σ α)) (once : Bool)
    (on_intent_recorded : Option (Arg (ℕ → Prog Exn σ Unit))) :
    (∃ message, gate store checkpoint intent_event dispatch once on_intent_recorded =
        throw (refusal message)) ∨
      ∃ record_checkpoint append call, ∃ callback : Option (ℕ → Prog Exn σ Unit),
        store.record_checkpoint = some record_checkpoint ∧ store.append = some append ∧
        dispatch = some call ∧ on_intent_recorded = callback.map Arg.of := by
  unfold gate run_gated_dispatch
  cases hr : store.record_checkpoint with
  | none => exact .inl ⟨_, by simp [Store.map, hr]; rfl⟩
  | some record_checkpoint =>
    cases ha : store.append with
    | none => exact .inl ⟨_, by simp [Store.map, hr, ha]; rfl⟩
    | some append =>
      cases dispatch with
      | none => exact .inl ⟨_, by simp [Store.map, hr, ha]; rfl⟩
      | some call =>
        cases on_intent_recorded with
        | none => exact .inr ⟨record_checkpoint, append, call, none, rfl, rfl, rfl, rfl⟩
        | some callback =>
          cases callback with
          | other => exact .inl ⟨_, by simp [Store.map, hr, ha]; rfl⟩
          | of callback =>
            exact .inr ⟨record_checkpoint, append, call, some callback, rfl, rfl, rfl, rfl⟩

end Runs

end AppContracts.GatedDispatch
