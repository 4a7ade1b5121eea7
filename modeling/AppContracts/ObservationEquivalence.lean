/-
The two observation stores, side by side.

`ObservationStore` and `SQLiteObservationStore` serve the same sequence of
calls. They mirror one journal: the memory holds its documents as they were
passed, the database the same documents with their keys sorted. Every call but
one answers alike in mirrored stores and leaves them mirrored.

The exception is `record_checkpoint_and_intent_once`. The memory looks for a
repeated intent first and writes the checkpoint before it digests the intent;
the database digests both records first, checks the checkpoint next, and rolls
back. `Agreeable` is what a call must meet for this not to show.
-/
import AppContracts.ObservationHistory

set_option autoImplicit false

namespace AppContracts.ObservationStore

open Interleave Validator

/-! ## Calls on both stores -/

/-- A call that both stores serve. -/
inductive StoreCall : Type
  | append (event : PyValue)
  | record_checkpoint (checkpoint : PyValue)
  | record_checkpoint_and_intent_once (checkpoint intent_event : PyValue)
  | check_result_causality (result_event : PyValue)

/-- The in-memory store serves a call. -/
def Memory.serve (store : Memory) : StoreCall → Except Exn ℕ × Memory
  | .append event => store.append event.val
  | .record_checkpoint checkpoint => store.record_checkpoint checkpoint.val
  | .record_checkpoint_and_intent_once checkpoint intent =>
    store.record_checkpoint_and_intent_once checkpoint.val intent.val
  | .check_result_causality result => (store.check_result_causality result.val, store)

/-- The method of the durable store. -/
def StoreCall.program : StoreCall → Program ℕ
  | .append event => ObservationStore.append event.val
  | .record_checkpoint checkpoint => ObservationStore.record_checkpoint checkpoint.val
  | .record_checkpoint_and_intent_once checkpoint intent =>
    ObservationStore.record_checkpoint_and_intent_once checkpoint.val intent.val
  | .check_result_causality result => ObservationStore.check_result_causality result.val

/-- The durable store serves a call. -/
def Db.serve (db : Db) (c : StoreCall) : Except Exn ℕ × Db := c.program.exec answer db

/-- The documents the in-memory store exposes. -/
def Memory.docs (store : Memory) : TableName → List Json
  | .observation_events => store.events.docs
  | .observation_checkpoints => store.checkpoints.docs

/-- What a caller sees of a result: the cursor or the error class. -/
def outcome (result : Except Exn ℕ) : Except ExnClass ℕ := result.mapError Exn.cls

/-- Both stores expose the same documents, as dicts compare: without regard to
the order of keys. -/
def SameDocuments (store : Memory) (db : Db) : Prop :=
  ∀ name, ((documents name).exec answer db).1 = .ok ((store.docs name).map Json.norm)

/-- Both stores serve a sequence of calls alike: after each call the outcomes
and the exposed documents are the same. -/
def Agree : List StoreCall → Memory → Db → Prop
  | [], _, _ => True
  | c :: rest, store, db =>
    outcome (store.serve c).1 = outcome (db.serve c).1 ∧
      SameDocuments (store.serve c).2 (db.serve c).2 ∧
      Agree rest (store.serve c).2 (db.serve c).2

/-- The intent of a one-shot call is already recorded. -/
def Repeated (store : Memory) (intent : Json) : Prop :=
  ∃ id, str_item intent "event_id" = .ok id ∧ (store.events.digests.lookup id).isSome = true

/-- The checkpoint of a one-shot call is already recorded, with its digest. -/
def SameCheckpoint (store : Memory) (checkpoint : Json) : Prop :=
  ∃ id, str_item checkpoint "checkpoint_id" = .ok id ∧
    store.checkpoints.digests.lookup id = some (digest checkpoint)

/-- What a call must meet for both stores to serve it alike: a condition on its
arguments and on the store before it. With records that can be digested, a
repeated intent must come with a checkpoint that passes its check. Otherwise the
intent must be new, the checkpoint must pass its check, and it must itself be
the record that cannot be digested or be recorded already. -/
def Agreeable (store : Memory) : StoreCall → Prop
  | .record_checkpoint_and_intent_once checkpoint intent =>
    validate intent.val EVENT_SCHEMA = .ok () →
      let digestible := checkpoint.val.is_dict = true → checkpoint.val.encodable false = true
      let checked := ∃ cursor, check_checkpoint store.events.docs checkpoint.val = .ok cursor
      if intent.val.encodable false = true ∧ digestible then Repeated store intent.val → checked
      else ¬ Repeated store intent.val ∧ checked ∧
        (digestible → SameCheckpoint store checkpoint.val)
  | _ => True

/-- Every call of a sequence meets the condition in the store before it. -/
def AllAgreeable : List StoreCall → Memory → Prop
  | [], _ => True
  | c :: rest, store => Agreeable store c ∧ AllAgreeable rest (store.serve c).2

/-! ## Checks on documents with sorted keys -/

theorem item_norm_map {doc : Json} (hw : doc.wf) (key : String) :
    item doc.norm key = (item doc key).map Json.norm := by
  rw [item, item, Json.get?_norm hw]
  cases doc.get? key <;> rfl

/-- The search finds the same event. -/
theorem find_event_norm {events : List Json} (hw : ∀ e ∈ events, e.wf) (trigger : Json) (i : ℕ) :
    find_event trigger (events.map Json.norm) i =
      (find_event trigger events i).map (Option.map fun p => (p.1, p.2.norm)) := by
  induction events generalizing i with
  | nil => rfl
  | cons e rest ih =>
    rw [List.map_cons, find_event, find_event, item_norm_map (hw e (by simp))]
    cases item e "event_id" with
    | error x => rfl
    | ok id =>
      simp only [Except.map, ok_bind, py_eq_norm]
      by_cases heq : py_eq id trigger = true
      · simp [heq]
      · simp only [heq, if_false, Bool.false_eq_true]
        exact ih (fun e he => hw e (by simp [he])) (i + 1)

theorem check_trigger_field_norm {event : Json} (hw : event.wf) (checkpoint : Json)
    (field : String) :
    check_trigger_field event.norm checkpoint field = check_trigger_field event checkpoint field := by
  rw [check_trigger_field, check_trigger_field, item_norm_map hw]
  cases item event field with
  | error x => rfl
  | ok a => simp only [Except.map, ok_bind, py_eq_norm]

theorem check_trigger_events_norm {events : List Json} (hw : ∀ e ∈ events, e.wf)
    (checkpoint : Json) :
    check_trigger (events.map Json.norm) checkpoint = check_trigger events checkpoint := by
  unfold check_trigger
  refine congrArg _ (funext fun trigger => ?_)
  rw [find_event_norm hw]
  cases hfind : find_event trigger events 0 with
  | error x => rfl
  | ok found =>
    cases found with
    | none => rfl
    | some p =>
      obtain ⟨position, event⟩ := p
      obtain ⟨n, _, -, hget, -⟩ := find_event_get hfind
      have hevent := hw event (List.mem_of_getElem? hget)
      simp only [Except.map, Option.map, ok_bind, check_trigger_field_norm hevent, List.length_map]

theorem is_intent_norm {event : Json} (hw : event.wf) : is_intent event.norm = is_intent event := by
  rw [is_intent, is_intent, Json.get?_norm hw]
  cases event.get? "event_type" with
  | none => rfl
  | some v => cases v <;> rfl

theorem has_invocation_norm {event : Json} (hw : event.wf) (invocation_id : Json) :
    has_invocation event.norm invocation_id = has_invocation event invocation_id := by
  rw [has_invocation, has_invocation, Json.get?_norm hw]
  cases event.get? "invocation_id" with
  | none => rfl
  | some v => exact py_eq_norm v invocation_id

theorem scan_events_norm {events : List Json} (hw : ∀ e ∈ events, e.wf)
    (invocation_id event_id : Json) (own : Option ℕ) (i : ℕ) (seen : Seen) :
    scan_events invocation_id event_id own (events.map Json.norm) i seen =
      scan_events invocation_id event_id own events i seen := by
  induction events generalizing i seen with
  | nil => rfl
  | cons e rest ih =>
    have he := hw e (by simp)
    rw [List.map_cons]
    unfold scan_events
    rw [item_norm_map he]
    cases item e "event_id" with
    | error x => rfl
    | ok id =>
      simp only [Except.map, ok_bind, py_eq_norm, is_intent_norm he, has_invocation_norm he]
      exact ih (fun e he => hw e (by simp [he])) _ _

theorem result_causality_norm {events : List Json} (hw : ∀ e ∈ events, e.wf)
    (invocation_id result_event : Json) :
    result_causality (events.map Json.norm) invocation_id result_event =
      result_causality events invocation_id result_event := by
  unfold result_causality
  refine congrArg _ (funext fun event_id => ?_)
  rw [find_event_norm hw]
  cases find_event event_id events 0 with
  | error x => rfl
  | ok found =>
    have hfst : (Option.map (fun p : ℕ × Json => (p.1, p.2.norm)) found).map Prod.fst =
        found.map Prod.fst := by
      cases found <;> rfl
    simp only [Except.map, ok_bind, hfst, scan_events_norm hw]

/-! ## Mirrored stores -/

/-- A shelf of the memory and a log of the journal hold the same documents. -/
structure Shelf.Mirrors {k : Kind} (shelf : Shelf) (l : Log k) : Prop where
  checked : ∀ doc ∈ shelf.docs, Checked k doc
  docs : shelf.docs.map Json.norm = l.docs
  digests : shelf.digests = shelf.docs.map fun doc => (PyStr.text (k.id doc), digest doc)

namespace Shelf

variable {k : Kind} {shelf : Shelf} {l : Log k}

theorem Mirrors.ids (h : shelf.Mirrors l) : l.docs.map k.id = shelf.docs.map k.id := by
  rw [← h.docs, List.map_map]
  exact List.map_congr_left fun doc hdoc => (h.checked doc hdoc).id_norm

theorem Mirrors.length (h : shelf.Mirrors l) : l.docs.length = shelf.docs.length := by
  rw [← h.docs, List.length_map]

/-- A known ID is known to both, at one cursor and with one digest. -/
theorem Mirrors.known (h : shelf.Mirrors l) {i : ℕ} {doc : Json} (hi : shelf.docs[i]? = some doc) :
    shelf.digests.lookup (.text (k.id doc)) = some (digest doc) ∧
      position k.key (.text (k.id doc)) shelf.docs 0 = .ok i ∧
      l.table.find (k.id doc) = some (i, digest doc) := by
  have hlog : l.docs[i]? = some doc.norm := by
    rw [← h.docs, List.getElem?_map, hi]
    rfl
  have hd := h.checked doc (List.mem_of_getElem? hi)
  have hfind := Log.find_table hlog
  rw [hd.id_norm, digest_norm] at hfind
  refine ⟨?_, ?_, hfind⟩
  · -- An ID has one document, so the lookup meets no other one first.
    have hnodup : (shelf.docs.map k.id).Nodup := h.ids ▸ l.ids
    rw [h.digests]
    clear h hlog hfind hd
    generalize shelf.docs = docs at hi hnodup
    induction docs generalizing i with
    | nil => simp at hi
    | cons a rest ih =>
      rw [List.map_cons, List.nodup_cons] at hnodup
      cases i with
      | zero =>
        obtain rfl : a = doc := by simpa using hi
        simp
      | succ i =>
        rw [List.getElem?_cons_succ] at hi
        have hne : ¬ k.id doc = k.id a := fun heq =>
          hnodup.1 (heq ▸ List.mem_map_of_mem (List.mem_of_getElem? hi))
        have hb : (PyStr.text (k.id doc) == PyStr.text (k.id a)) = false := by simpa using hne
        rw [List.map_cons, List.lookup_cons, hb]
        exact ih hi hnodup.2
  · have hnodup : (shelf.docs.map k.id).Nodup := h.ids ▸ l.ids
    have hgen : ∀ (docs : List Json) (i start : ℕ), (∀ d ∈ docs, Checked k d) →
        (docs.map k.id).Nodup → docs[i]? = some doc →
        position k.key (.text (k.id doc)) docs start = .ok (start + i) := by
      intro docs
      induction docs with
      | nil => simp
      | cons a rest ih =>
        intro i start hchecked hnodup hi
        rw [List.map_cons, List.nodup_cons] at hnodup
        rw [position, (hchecked a (by simp)).item_id, ok_bind]
        cases i with
        | zero =>
          obtain rfl : a = doc := by simpa using hi
          simp [py_eq]
        | succ i =>
          rw [List.getElem?_cons_succ] at hi
          have hne : ¬ k.id a = k.id doc := fun heq =>
            hnodup.1 (heq ▸ List.mem_map_of_mem (List.mem_of_getElem? hi))
          rw [if_neg (by simpa [py_eq] using hne),
            ih i (start + 1) (fun d hd => hchecked d (by simp [hd])) hnodup.2 hi]
          exact congrArg _ (by omega)
    simpa using hgen shelf.docs i 0 h.checked hnodup hi

/-- An ID without a document is unknown to both. -/
theorem Mirrors.unknown (h : shelf.Mirrors l) {id : String} (hid : id ∉ shelf.docs.map k.id) :
    shelf.digests.lookup (.text id) = none ∧ l.table.find id = none := by
  constructor
  · rw [h.digests, List.lookup_eq_none_iff]
    rintro _ hp
    obtain ⟨doc, hdoc, rfl⟩ := List.mem_map.mp hp
    have hne : ¬ id = k.id doc := fun heq => hid (heq ▸ List.mem_map_of_mem hdoc)
    simpa using hne
  · rw [Log.find_table_none, h.ids]
    exact hid

/-- An ID has a document or not. -/
theorem known_or_unknown (k : Kind) (shelf : Shelf) (id : String) :
    (∃ (i : ℕ) (doc : Json), shelf.docs[i]? = some doc ∧ k.id doc = id) ∨
      id ∉ shelf.docs.map k.id := by
  by_cases hid : id ∈ shelf.docs.map k.id
  · obtain ⟨doc, hdoc, heq⟩ := List.mem_map.mp hid
    obtain ⟨i, hi⟩ := List.mem_iff_getElem?.mp hdoc
    exact .inl ⟨i, doc, hi, heq⟩
  · exact .inr hid

/-- Both logs with one more document. -/
theorem Mirrors.add (h : shelf.Mirrors l) {doc : Json} (hd : Checked k doc)
    (hf : k.id doc.norm ∉ l.docs.map k.id) :
    Mirrors ⟨shelf.docs ++ [doc], shelf.digests ++ [(.text (k.id doc), digest doc)]⟩
      (l.add doc.norm hd.stored hf) where
  checked := List.forall_mem_append.mpr ⟨h.checked, by simpa using hd⟩
  docs := by simp [Log.add, h.docs]
  digests := by simp [h.digests]

end Shelf

/-- The shelf of a table. -/
def Memory.shelf (store : Memory) : TableName → Shelf
  | .observation_events => store.events
  | .observation_checkpoints => store.checkpoints

/-- The memory mirrors a journal. -/
def Mirrors (store : Memory) (j : Journal) : Prop := ∀ name, (store.shelf name).Mirrors (j.log name)

/-- Mirrored stores expose the same documents. -/
theorem Mirrors.same_documents {store : Memory} {j : Journal} (h : Mirrors store j) :
    SameDocuments store j.db := by
  intro name
  have hdocs := (h name).docs
  simp only [documents, Prog.bind_eq, Prog.perform_bind, Prog.exec, answer, Journal.table_db,
    Log.in_order_table, Log.load_table, Prog.lift_ok, ← hdocs]
  cases name <;> rfl

theorem mirrors_empty : Mirrors Memory.empty Journal.empty := by
  intro name
  cases name <;> exact ⟨by simp [Memory.empty, Memory.shelf], rfl, rfl⟩

/-! ## Calls on mirrored stores -/

section Calls

variable {store : Memory} {j : Journal}

/-- The memory with another shelf. -/
def Memory.set_shelf (store : Memory) : TableName → Shelf → Memory
  | .observation_events, shelf => { store with events := shelf }
  | .observation_checkpoints, shelf => { store with checkpoints := shelf }

/-- The journal with one more document. -/
def Journal.add (j : Journal) : (name : TableName) → (doc : Json) → Stored (kind name) doc →
    (kind name).id doc ∉ (j.log name).docs.map (kind name).id → Insertable j name doc → Journal
  | .observation_events, doc, hs, hf, _ => j.add_event doc hs hf
  | .observation_checkpoints, doc, hs, hf, ha => j.add_checkpoint doc hs hf ha

theorem Journal.add_db {name : TableName} {doc : Json} (hs : Stored (kind name) doc)
    (hf : (kind name).id doc ∉ (j.log name).docs.map (kind name).id) (hi : Insertable j name doc) :
    (j.add name doc hs hf hi).db = j.db.set_table name ((j.log name).add doc hs hf).table := by
  cases name <;> rfl

/-- Recording one document in both. -/
theorem Mirrors.add (h : Mirrors store j) (name : TableName) {doc : Json}
    (hd : Checked (kind name) doc)
    (hf : (kind name).id doc.norm ∉ (j.log name).docs.map (kind name).id)
    (hi : Insertable j name doc.norm) :
    Mirrors (store.set_shelf name ⟨(store.shelf name).docs ++ [doc],
        (store.shelf name).digests ++ [(.text ((kind name).id doc), digest doc)]⟩)
      (j.add name doc.norm hd.stored hf hi) := by
  intro other
  cases name <;> cases other
  · exact (h .observation_events).add hd hf
  · exact h .observation_checkpoints
  · exact h .observation_events
  · exact (h .observation_checkpoints).add hd hf

theorem Memory.set_shelf_self (store : Memory) (name : TableName) :
    store.set_shelf name (store.shelf name) = store := by
  cases name <;> rfl

/-- **Both stores record a checked document alike.** -/
theorem store_record_mirrors (h : Mirrors store j) (name : TableName) {doc : Json}
    (hd : Checked (kind name) doc) (hi : Insertable j name doc.norm) (message failure : String) :
    ∃ j' : Journal,
      (store_record name doc ((kind name).id doc) (digest doc) message failure).exec answer j.db =
        (((store.shelf name).record doc (kind name).key (.text ((kind name).id doc)) (digest doc)
          message).1, j'.db) ∧
      Mirrors (store.set_shelf name ((store.shelf name).record doc (kind name).key
        (.text ((kind name).id doc)) (digest doc) message).2) j' := by
  have hm := h name
  unfold store_record Shelf.record
  simp only [Prog.bind_eq, Prog.perform_bind, Prog.exec, answer, Journal.table_db]
  -- a known ID returns its position or conflicts, in both stores alike; a new one is appended
  -- to the list and inserted under the next cursor
  rcases Shelf.known_or_unknown (kind name) (store.shelf name) ((kind name).id doc) with
    ⟨i, known, hget, hid⟩ | hid
  · obtain ⟨hlookup, hposition, hfind⟩ := hm.known hget
    rw [hid] at hlookup hposition hfind
    refine ⟨j, ?_, ?_⟩
    · rw [hfind, hlookup]
      by_cases heq : digest known = digest doc
      · simp [heq, hposition, Prog.exec]
      · simp [heq, Prog.exec]
    · rw [hlookup]
      by_cases heq : digest known = digest doc
      · simpa only [heq, if_true, Memory.set_shelf_self] using h
      · simpa only [heq, if_false, Memory.set_shelf_self] using h
  · obtain ⟨hlookup, hfind⟩ := hm.unknown hid
    have hf : (kind name).id doc.norm ∉ (j.log name).docs.map (kind name).id := by
      rw [hd.id_norm, hm.ids]
      exact hid
    refine ⟨j.add name doc.norm hd.stored hf hi, ?_, ?_⟩
    · have hinsert := Log.insert_table_fresh hd.stored hf
      rw [← checked_row hd, hm.length] at hinsert
      rw [hfind, hlookup]
      simp only [Prog.exec, answer, Journal.table_db, Log.next_cursor_table, hd.dumped,
        Prog.lift_ok, Prog.ret_bind, hinsert, cond_true, Journal.add_db, hm.length]
    · rw [hlookup]
      exact h.add name hd hf hi

/-- A document is checked, or one of its two checks fails. -/
theorem checked_or_error (k : Kind) {doc : Json} (hw : doc.wf) :
    Checked k doc ∨ (∃ e, validate doc k.schema = .error e) ∨
      (validate doc k.schema = .ok () ∧ doc.encodable false = false) := by
  cases hv : validate doc k.schema with
  | error e => exact .inr (.inl ⟨e, rfl⟩)
  | ok u =>
    cases he : doc.encodable false with
    | false => exact .inr (.inr ⟨rfl, rfl⟩)
    | true => exact .inl ⟨hw, hv, he⟩

theorem Memory.append_checked (store : Memory) {event : Json} (hd : Checked event_kind event) :
    store.append event =
      ((store.events.record event event_kind.key (.text (event_kind.id event)) (digest event)
        "event id conflict").1,
      store.set_shelf .observation_events (store.events.record event event_kind.key
        (.text (event_kind.id event)) (digest event) "event id conflict").2) := by
  have hv : validate event EVENT_SCHEMA = .ok () := hd.valid
  have hid : str_item event "event_id" = _ := hd.str_item_id
  simp only [Memory.append, hv, hd.sha256, hid, ok_bind, pure, Except.pure]
  rfl

/-- `append` on mirrored stores. -/
theorem append_mirrors (h : Mirrors store j) {event : Json} (hw : event.wf) :
    ∃ j' : Journal, (append event).exec answer j.db = ((store.append event).1, j'.db) ∧
      Mirrors (store.append event).2 j' := by
  unfold append
  simp only [Prog.bind_eq, Prog.exec_lift_bind]
  rcases checked_or_error event_kind hw with hd | ⟨e, hv⟩ | ⟨hv, he⟩
  · have hv : validate event EVENT_SCHEMA = .ok () := hd.valid
    have hp : prepare event "event_id" = _ := hd.prepared
    obtain ⟨j', hexec, hm⟩ := store_record_mirrors h .observation_events hd trivial
      "event id conflict" "event could not be stored"
    rw [store.append_checked hd]
    refine ⟨j', ?_, hm⟩
    simp only [hv, hp]
    exact hexec
  · have hv : validate event EVENT_SCHEMA = .error e := hv
    refine ⟨j, ?_, ?_⟩
    · simp only [hv, Memory.append, error_bind]
    · simpa only [hv, Memory.append, error_bind] using h
  · have hv : validate event EVENT_SCHEMA = .ok () := hv
    refine ⟨j, ?_, ?_⟩
    · simp only [hv, prepare, sha256_digest_error he, Memory.append, ok_bind, error_bind]
    · simpa only [hv, sha256_digest_error he, Memory.append, ok_bind, error_bind] using h

/-- `check_checkpoint` of the durable store, alone. -/
theorem check_recorded_exec (j : Journal) (checkpoint : Json) :
    (check_recorded checkpoint).exec answer j.db =
      (check_checkpoint j.events.docs checkpoint, j.db) := by
  have hrows : (j.db.table .observation_events).in_order = j.events.table := Log.in_order_table _
  unfold check_recorded check_checkpoint documents
  simp only [Prog.bind_eq, Prog.exec_lift_bind, Prog.perform_bind]
  cases check_checkpoint_shape checkpoint with
  | error e => rfl
  | ok u =>
    simp only [Prog.call_bind, Prog.exec, answer, hrows, Log.load_table, Prog.lift_ok,
      Prog.ret_bind, Prog.exec_lift, ok_bind]

/-- The events of mirrored stores. -/
theorem Mirrors.events (h : Mirrors store j) :
    store.events.docs.map Json.norm = j.events.docs ∧ ∀ e ∈ store.events.docs, e.wf :=
  ⟨(h .observation_events).docs, fun e he => ((h .observation_events).checked e he).wf⟩

/-- Both stores check a checkpoint against the same events. -/
theorem Mirrors.check_checkpoint (h : Mirrors store j) (checkpoint : Json) :
    check_checkpoint j.events.docs checkpoint = check_checkpoint store.events.docs checkpoint := by
  unfold ObservationStore.check_checkpoint
  rw [← h.events.1, check_trigger_events_norm h.events.2]

theorem Memory.record_checkpoint_checked (store : Memory) {checkpoint : Json} {cursor : ℤ}
    (hc : check_checkpoint store.events.docs checkpoint = .ok cursor)
    (hd : Checked checkpoint_kind checkpoint) :
    store.record_checkpoint checkpoint =
      ((store.checkpoints.record checkpoint checkpoint_kind.key
        (.text (checkpoint_kind.id checkpoint)) (digest checkpoint) "checkpoint id conflict").1,
      store.set_shelf .observation_checkpoints (store.checkpoints.record checkpoint
        checkpoint_kind.key (.text (checkpoint_kind.id checkpoint)) (digest checkpoint)
        "checkpoint id conflict").2) := by
  have hid : str_item checkpoint "checkpoint_id" = _ := hd.str_item_id
  simp only [Memory.record_checkpoint, hc, hd.sha256, hid, ok_bind, pure, Except.pure]
  rfl

/-- A checkpoint that passed its check is valid, and anchored in the journal. -/
theorem Mirrors.anchored (h : Mirrors store j) {checkpoint : Json} (hw : checkpoint.wf) {cursor : ℤ}
    (hc : ObservationStore.check_checkpoint store.events.docs checkpoint = .ok cursor) :
    validate checkpoint CHECKPOINT_SCHEMA = .ok () ∧ j.Anchors checkpoint.norm := by
  rw [← h.check_checkpoint] at hc
  obtain ⟨u, hshape, htrigger⟩ := bind_ok.mp hc
  exact ⟨check_checkpoint_shape_ok.mp hshape, anchors_norm hw hshape ⟨cursor, htrigger⟩⟩

/-- `record_checkpoint` on mirrored stores. -/
theorem record_checkpoint_mirrors (h : Mirrors store j) {checkpoint : Json} (hw : checkpoint.wf) :
    ∃ j' : Journal, (record_checkpoint checkpoint).exec answer j.db =
        ((store.record_checkpoint checkpoint).1, j'.db) ∧
      Mirrors (store.record_checkpoint checkpoint).2 j' := by
  unfold record_checkpoint
  simp only [Prog.bind_eq, Prog.exec_bind, check_recorded_exec, h.check_checkpoint]
  cases hc : check_checkpoint store.events.docs checkpoint with
  | error e =>
    refine ⟨j, ?_, ?_⟩
    · simp only [Memory.record_checkpoint, hc, error_bind]
    · simpa only [Memory.record_checkpoint, hc, error_bind] using h
  | ok cursor =>
    obtain ⟨hv, hanchor⟩ := h.anchored hw hc
    simp only [Prog.exec_lift]
    rcases checked_or_error checkpoint_kind hw with hd | ⟨e, hv'⟩ | ⟨-, he⟩
    · have hp : prepare checkpoint "checkpoint_id" = _ := hd.prepared
      obtain ⟨j', hexec, hm⟩ := store_record_mirrors h .observation_checkpoints hd
        hanchor "checkpoint id conflict" "checkpoint could not be stored"
      rw [store.record_checkpoint_checked hc hd]
      refine ⟨j', ?_, hm⟩
      simp only [hp]
      exact hexec
    · exact nomatch hv.symm.trans hv'
    · refine ⟨j, ?_, ?_⟩
      · simp only [prepare, sha256_digest_error he, Memory.record_checkpoint, hc, ok_bind,
          error_bind]
      · simpa only [sha256_digest_error he, Memory.record_checkpoint, hc, ok_bind, error_bind]
          using h

/-- `check_result_causality` on mirrored stores. -/
theorem check_result_causality_mirrors (h : Mirrors store j) (result_event : Json) :
    (check_result_causality result_event).exec answer j.db =
      (store.check_result_causality result_event, j.db) := by
  have hrows : (j.db.table .observation_events).in_order = j.events.table := Log.in_order_table _
  unfold check_result_causality Memory.check_result_causality documents
  simp only [Prog.bind_eq, Prog.exec_lift_bind, Prog.perform_bind]
  cases result_invocation result_event with
  | error e => rfl
  | ok invocation_id =>
    simp only [Prog.call_bind, Prog.exec, answer, hrows, Log.load_table, Prog.lift_ok,
      Prog.ret_bind, Prog.exec_lift, ok_bind, ← h.events.1, result_causality_norm h.events.2]

/-! ### The one-shot call -/

/-- The classes of a checkpoint check. -/
def CheckClass (c : ExnClass) : Prop :=
  c = .ContractValidationError ∨ c = .KeyError ∨ c = .TypeError

theorem item_raises (doc : Json) (key : String) : Raises CheckClass (item doc key) := by
  unfold item
  cases doc.get? key with
  | some v => exact Raises.ok v
  | none => exact Raises.error (.inr (.inl rfl))

theorem find_event_raises (trigger : Json) (events : List Json) (i : ℕ) :
    Raises CheckClass (find_event trigger events i) := by
  induction events generalizing i with
  | nil => exact Raises.ok none
  | cons stored rest ih =>
    refine (item_raises stored "event_id").bind fun id _ => ?_
    split_ifs
    · exact Raises.ok _
    · exact ih (i + 1)

theorem check_trigger_field_raises (event checkpoint : Json) (field : String) :
    Raises CheckClass (check_trigger_field event checkpoint field) := by
  refine (item_raises _ _).bind fun a _ => (item_raises _ _).bind fun b _ => ?_
  split_ifs
  · exact Raises.ok ()
  · exact Raises.error (.inl rfl)

theorem cursor_item_raises (checkpoint : Json) : Raises CheckClass (cursor_item checkpoint) := by
  refine (item_raises _ _).bind fun v _ => ?_
  split
  · exact Raises.ok _
  · exact Raises.error (.inr (.inr rfl))

/-- **A refused checkpoint is neither a conflict nor an encoding error.** -/
theorem check_checkpoint_raises (events : List Json) (checkpoint : Json) :
    Raises CheckClass (check_checkpoint events checkpoint) := by
  have hshape : Raises CheckClass (check_checkpoint_shape checkpoint) := by
    unfold check_checkpoint_shape
    split_ifs
    · exact (Refuses.validate checkpoint CHECKPOINT_SCHEMA).mono fun _ => .inl
    · exact Raises.error (.inl rfl)
  refine hshape.bind fun _ _ => (item_raises _ _).bind fun trigger _ =>
    (find_event_raises _ _ _).bind fun found _ => ?_
  cases found with
  | none => exact Raises.error (.inl rfl)
  | some p =>
    refine (check_trigger_field_raises _ _ _).bind fun _ _ =>
      (check_trigger_field_raises _ _ _).bind fun _ _ =>
        (check_trigger_field_raises _ _ _).bind fun _ _ =>
          (cursor_item_raises _).bind fun cursor _ => ?_
    split_ifs
    · exact Raises.error (.inl rfl)
    · exact Raises.error (.inl rfl)
    · exact Raises.ok cursor

/-- The intent's ID is known to the memory exactly when the journal has it. -/
theorem repeated_iff (h : Mirrors store j) {intent : Json} (hd : Checked event_kind intent) :
    Repeated store intent ↔ (j.events.table.find (event_kind.id intent)).isSome = true := by
  have hm := h .observation_events
  have hid : str_item intent "event_id" = _ := hd.str_item_id
  have hlookup : Repeated store intent ↔
      (store.events.digests.lookup (.text (event_kind.id intent))).isSome = true := by
    simp [Repeated, hid]
  rw [hlookup]
  rcases Shelf.known_or_unknown event_kind store.events (event_kind.id intent) with
    ⟨i, known, hget, heq⟩ | hid
  · obtain ⟨hlook, -, hfind⟩ := hm.known hget
    have hlook : store.events.digests.lookup (.text (event_kind.id known)) = _ := hlook
    have hfind : j.events.table.find (event_kind.id known) = _ := hfind
    rw [← heq, hlook, hfind]
    simp
  · obtain ⟨hlook, hfind⟩ := hm.unknown hid
    have hlook : store.events.digests.lookup (.text (event_kind.id intent)) = _ := hlook
    have hfind : j.events.table.find (event_kind.id intent) = _ := hfind
    rw [hlook, hfind]
    simp

/-- The insert of a new intent. -/
theorem insert_intent_fresh {intent : Json} (hs : Stored event_kind intent)
    (hf : event_kind.id intent ∉ j.events.docs.map event_kind.id) :
    j.db.insert_intent (event_kind.parameters intent) =
      some (j.events.docs.length, (j.add_event intent hs hf).db) := by
  have hnext : j.db.events.next_cursor = j.events.docs.length := Log.next_cursor_table _
  have hinsert : j.db.events.insert ((event_kind.parameters intent).at_cursor
      j.events.docs.length) = _ := Log.insert_table_fresh hs hf
  rw [Db.insert_intent, hnext, hinsert]
  rfl

/-- The insert of a new checkpoint and a new intent. -/
theorem insert_pair_fresh {checkpoint intent : Json} (hc : Stored checkpoint_kind checkpoint)
    (hf : checkpoint_kind.id checkpoint ∉ j.checkpoints.docs.map checkpoint_kind.id)
    (ha : j.Anchors checkpoint) (hi : Stored event_kind intent)
    (hf' : event_kind.id intent ∉ j.events.docs.map event_kind.id) :
    j.db.insert_pair (checkpoint_kind.row j.checkpoints.docs.length checkpoint)
        (event_kind.parameters intent) =
      some (j.events.docs.length, ((j.add_checkpoint checkpoint hc hf ha).add_event intent hi hf').db) := by
  have hinsert : j.db.checkpoints.insert
      (checkpoint_kind.row j.checkpoints.docs.length checkpoint) = _ := Log.insert_table_fresh hc hf
  rw [Db.insert_pair, hinsert]
  exact insert_intent_fresh (j := j.add_checkpoint checkpoint hc hf ha) hi hf'

/-- What the durable one-shot call does once both records are digested: it
answers for its transaction. -/
theorem once_exec {checkpoint intent : Json} (hi : Checked event_kind intent) {d : String}
    (hd : dict_digest checkpoint = .ok d) (j : Journal) :
    (record_checkpoint_and_intent_once checkpoint intent).exec answer j.db =
      match j.db.insert_once checkpoint d intent (event_kind.id intent) (digest intent) with
      | .ok (some (cursor, db')) => (.ok cursor, db')
      | .ok none => (.error (store_error "one-shot intent could not be stored"), j.db)
      | .error e => (.error e, j.db) := by
  have hp : prepare_intent intent = .ok (digest intent, event_kind.id intent) := by
    have hv : validate intent EVENT_SCHEMA = .ok () := hi.valid
    have hprepared : prepare intent "event_id" = _ := hi.prepared
    rw [prepare_intent, hv, hprepared, ok_bind]
  unfold record_checkpoint_and_intent_once
  simp only [Prog.bind_eq, Prog.exec_lift_bind, hp, hd, Prog.perform_bind, Prog.exec, answer]
  rcases j.db.insert_once checkpoint d intent (event_kind.id intent) (digest intent) with
    e | _ | ⟨cursor, db'⟩ <;> rfl

/-- The transaction begins with the check of the checkpoint. -/
theorem insert_once_refused {checkpoint : Json} {e : Exn}
    (he : check_checkpoint j.events.docs checkpoint = .error e) (d : String) (intent : Json)
    (id digest : String) : j.db.insert_once checkpoint d intent id digest = .error e := by
  have hrows : j.db.events.in_order = j.events.table := Log.in_order_table _
  unfold check_checkpoint at he
  unfold Db.insert_once
  rw [hrows, Log.load_table]
  cases hs : check_checkpoint_shape checkpoint with
  | error e' =>
    rw [hs, error_bind] at he
    rw [error_bind, Except.error.inj he]
  | ok u =>
    rw [hs, ok_bind] at he
    rw [ok_bind, ok_bind, he, error_bind]

/-- Next it looks the intent up. -/
theorem insert_once_repeated {checkpoint : Json} {cursor : ℤ}
    (hc : check_checkpoint j.events.docs checkpoint = .ok cursor) {id : String}
    (hid : (j.events.table.find id).isSome = true) (d : String) (intent : Json) (digest : String) :
    j.db.insert_once checkpoint d intent id digest =
      .error (conflict "one-shot intent already recorded") := by
  have hrows : j.db.events.in_order = j.events.table := Log.in_order_table _
  have hfind : (j.db.events.find id).isSome = true := hid
  obtain ⟨u, hshape, htrigger⟩ := bind_ok.mp hc
  unfold Db.insert_once
  simp only [hrows, Log.load_table, hshape, htrigger, ok_bind, hfind, if_true]

/-- With the intent new, it records the checkpoint unless it is known, and then
the intent. -/
theorem insert_once_new {checkpoint intent : Json} {cursor : ℤ}
    (hc : check_checkpoint j.events.docs checkpoint = .ok cursor)
    (hk : Checked checkpoint_kind checkpoint) (hi : Checked event_kind intent)
    (hnew : j.events.table.find (event_kind.id intent) = none) :
    j.db.insert_once checkpoint (digest checkpoint) intent (event_kind.id intent) (digest intent) =
      match j.checkpoints.table.find (checkpoint_kind.id checkpoint) with
      | some known =>
        if known.2 ≠ digest checkpoint then .error (conflict "checkpoint id conflict")
        else .ok (j.db.insert_intent (event_kind.parameters intent.norm))
      | none => .ok (j.db.insert_pair
          (checkpoint_kind.row j.checkpoints.docs.length checkpoint.norm)
          (event_kind.parameters intent.norm)) := by
  have hrows : j.db.events.in_order = j.events.table := Log.in_order_table _
  have hfind : j.db.events.find (event_kind.id intent) = none := hnew
  have hnext : j.db.checkpoints.next_cursor = j.checkpoints.docs.length := Log.next_cursor_table _
  have hbound : bound_item checkpoint "checkpoint_id" = .ok (checkpoint_kind.id checkpoint) := by
    have hid : str_item checkpoint "checkpoint_id" = _ := hk.str_item_id
    rw [bound_item, hid]
    rfl
  obtain ⟨u, hshape, htrigger⟩ := bind_ok.mp hc
  -- one transaction: the checks of the code in its order, over the rows that it reads again
  unfold Db.insert_once
  simp only [hrows, Log.load_table, hshape, htrigger, ok_bind, hfind, Option.isSome_none,
    Bool.false_eq_true, if_false, hbound, hk.dumped, hi.dumped, hnext, checked_row hk,
    checked_parameters hi]
  rfl

/-- The memory's one-shot call with a new intent: the checkpoint, then the
intent. -/
theorem Memory.once_new (store : Memory) (checkpoint : Json) {intent : Json}
    (hv : validate intent EVENT_SCHEMA = .ok ()) (hnew : ¬ Repeated store intent) :
    store.record_checkpoint_and_intent_once checkpoint intent =
      match store.record_checkpoint checkpoint with
      | (.error e, store) => (.error e, store)
      | (.ok _, store) => store.append intent := by
  obtain ⟨id, hid⟩ : ∃ id, str_item intent "event_id" = .ok id := by
    have hrequired : "event_id" ∈ EVENT_SCHEMA.required := by simp [EVENT_SCHEMA]
    obtain ⟨s, hs⟩ := string_field rfl hv hrequired rfl rfl
    exact ⟨s, by simp [str_item, hs]⟩
  have hlookup : ¬ (store.events.digests.lookup id).isSome = true :=
    fun h => hnew ⟨id, hid, h⟩
  unfold Memory.record_checkpoint_and_intent_once
  simp only [hv, hid, ok_bind, hlookup]
  rfl

/-- A new event is appended at the next cursor. -/
theorem append_new (h : Mirrors store j) {event : Json} (hd : Checked event_kind event)
    (hf : event_kind.id event.norm ∉ j.events.docs.map event_kind.id) :
    (store.append event).1 = .ok j.events.docs.length ∧
      Mirrors (store.append event).2 (j.add_event event.norm hd.stored hf) := by
  have hm : store.events.Mirrors j.events := h .observation_events
  have hlen : j.events.docs.length = store.events.docs.length := hm.length
  have hlookup : store.events.digests.lookup (.text (event_kind.id event)) = none := by
    refine (hm.unknown (k := event_kind) ?_).1
    rw [← hd.id_norm, ← hm.ids]
    exact hf
  rw [store.append_checked hd, Shelf.record, hlookup, hlen]
  exact ⟨rfl, h.add .observation_events hd hf trivial⟩

/-- **With checked records, a checkpoint that passes and a new intent**, the
transaction does what recording the checkpoint and then the intent does. -/
theorem insert_once_checked (h : Mirrors store j) {checkpoint intent : Json}
    (hc : Checked checkpoint_kind checkpoint) (hi : Checked event_kind intent) {cursor : ℤ}
    (hcheck : check_checkpoint store.events.docs checkpoint = .ok cursor)
    (hnew : j.events.table.find (event_kind.id intent) = none) :
    ∃ j' : Journal, (record_checkpoint_and_intent_once checkpoint intent).exec answer j.db =
        ((store.record_checkpoint_and_intent_once checkpoint intent).1, j'.db) ∧
      Mirrors (store.record_checkpoint_and_intent_once checkpoint intent).2 j' := by
  have hv : validate intent EVENT_SCHEMA = .ok () := hi.valid
  have hnew' : ¬ Repeated store intent := by rw [repeated_iff h hi, hnew]; simp
  have hdict : dict_digest checkpoint = .ok (digest checkpoint) := by
    obtain ⟨fields, rfl⟩ := object_valid checkpoint_kind.object hc.valid
    exact hc.sha256
  have hcheck' := (h.check_checkpoint checkpoint).trans hcheck
  have hanchor := (h.anchored hc.wf hcheck).2
  have hfresh : event_kind.id intent.norm ∉ j.events.docs.map event_kind.id := by
    rw [hi.id_norm]
    exact Log.find_table_none.mp hnew
  have hm : store.checkpoints.Mirrors j.checkpoints := h .observation_checkpoints
  have hrecord := store.record_checkpoint_checked hcheck hc
  rw [Shelf.record] at hrecord
  rw [once_exec hi hdict, insert_once_new hcheck' hc hi hnew, Memory.once_new store _ hv hnew']
  rcases Shelf.known_or_unknown checkpoint_kind store.checkpoints (checkpoint_kind.id checkpoint)
    with ⟨i, known, hget, hid⟩ | hid
  · obtain ⟨hlookup, hposition, hfind⟩ := hm.known hget
    rw [hid] at hlookup hposition hfind
    rw [hlookup] at hrecord
    by_cases heq : digest known = digest checkpoint
    · -- The checkpoint is known: only the intent is written.
      have hself : store.set_shelf .observation_checkpoints store.checkpoints = store := rfl
      obtain ⟨happend, hmirrors⟩ := append_new h hi hfresh
      simp only [heq, if_true, hposition, hself] at hrecord
      refine ⟨_, ?_, by rw [hrecord]; exact hmirrors⟩
      rw [hrecord, hfind, insert_intent_fresh hi.stored hfresh]
      simp only [heq, ne_eq, not_true, if_false, happend]
    · have hself : store.set_shelf .observation_checkpoints store.checkpoints = store := rfl
      simp only [heq, if_false, hself] at hrecord
      refine ⟨j, ?_, by rw [hrecord]; exact h⟩
      rw [hrecord, hfind]
      simp only [heq, ne_eq, not_false_eq_true, if_true]
  · obtain ⟨hlookup, hfind⟩ := hm.unknown hid
    have hf : checkpoint_kind.id checkpoint.norm ∉ j.checkpoints.docs.map checkpoint_kind.id := by
      rw [hc.id_norm]
      exact Log.find_table_none.mp hfind
    have hadded := h.add .observation_checkpoints hc hf hanchor
    obtain ⟨happend, hmirrors⟩ := append_new hadded hi hfresh
    simp only [hlookup] at hrecord
    refine ⟨_, ?_, by rw [hrecord]; exact hmirrors⟩
    rw [hrecord, hfind, insert_pair_fresh hc.stored hf hanchor hi.stored hfresh]
    exact congrArg₂ Prod.mk happend.symm rfl

/-- What both stores raise for a record that cannot be digested. -/
def undigestible : Exn := ⟨.ValueError, "canonical JSON is not encodable"⟩

/-- The memory's one-shot call with a repeated intent. -/
theorem Memory.once_repeated (store : Memory) (checkpoint : Json) {intent : Json}
    (hv : validate intent EVENT_SCHEMA = .ok ()) (hr : Repeated store intent) :
    store.record_checkpoint_and_intent_once checkpoint intent =
      (.error (conflict "one-shot intent already recorded"), store) := by
  obtain ⟨id, hid, hlookup⟩ := hr
  unfold Memory.record_checkpoint_and_intent_once
  simp only [hv, hid, ok_bind, hlookup]
  rfl

/-- A checkpoint that does not pass its check. -/
theorem Memory.record_checkpoint_refused (store : Memory) {checkpoint : Json} {e : Exn}
    (he : ObservationStore.check_checkpoint store.events.docs checkpoint = .error e) :
    store.record_checkpoint checkpoint = (.error e, store) := by
  simp only [Memory.record_checkpoint, he, error_bind]

/-- A checkpoint that passes and cannot be digested. -/
theorem Memory.record_checkpoint_undigestible (store : Memory) {checkpoint : Json} {cursor : ℤ}
    (hc : ObservationStore.check_checkpoint store.events.docs checkpoint = .ok cursor)
    (he : checkpoint.encodable false = false) :
    store.record_checkpoint checkpoint = (.error undigestible, store) := by
  simp only [Memory.record_checkpoint, hc, sha256_digest_error he, ok_bind, error_bind]
  rfl

/-- A checked checkpoint is known with its digest and nothing is written, or it
is known with another one, or it is new and written. -/
theorem record_checkpoint_cases (h : Mirrors store j) {checkpoint : Json} {cursor : ℤ}
    (hc : check_checkpoint store.events.docs checkpoint = .ok cursor)
    (hd : Checked checkpoint_kind checkpoint) :
    (SameCheckpoint store checkpoint ∧ ∃ i, store.record_checkpoint checkpoint = (.ok i, store)) ∨
      ¬ SameCheckpoint store checkpoint ∧
        (store.record_checkpoint checkpoint = (.error (conflict "checkpoint id conflict"), store) ∨
          ∃ i digests, store.record_checkpoint checkpoint = (.ok i,
            { store with checkpoints := ⟨store.checkpoints.docs ++ [checkpoint], digests⟩ })) := by
  have hm : store.checkpoints.Mirrors j.checkpoints := h .observation_checkpoints
  have hid : str_item checkpoint "checkpoint_id" = _ := hd.str_item_id
  have hsame : SameCheckpoint store checkpoint ↔
      store.checkpoints.digests.lookup (.text (checkpoint_kind.id checkpoint)) =
        some (digest checkpoint) := by
    simp [SameCheckpoint, hid]
  rw [store.record_checkpoint_checked hc hd, hsame, Shelf.record]
  rcases Shelf.known_or_unknown checkpoint_kind store.checkpoints (checkpoint_kind.id checkpoint)
    with ⟨i, known, hget, heq⟩ | hnew
  · obtain ⟨hlookup, hposition, -⟩ := hm.known hget
    rw [heq] at hlookup hposition
    rw [hlookup]
    by_cases hdigest : digest known = digest checkpoint
    · refine .inl ⟨by rw [hdigest], i, ?_⟩
      simp only [hdigest, if_true, hposition]
      rfl
    · refine .inr ⟨by simpa using hdigest, .inl ?_⟩
      simp only [hdigest, if_false]
      rfl
  · rw [(hm.unknown hnew).1]
    exact .inr ⟨by simp, .inr ⟨_, _, rfl⟩⟩

/-- Either record cannot be digested: the durable store raises before it looks
at anything else. -/
theorem once_exec_undigestible {checkpoint intent : Json}
    (hv : validate intent EVENT_SCHEMA = .ok ()) (hw : intent.wf)
    (hn : ¬ (intent.encodable false = true ∧
      (checkpoint.is_dict = true → checkpoint.encodable false = true))) (j : Journal) :
    (record_checkpoint_and_intent_once checkpoint intent).exec answer j.db =
      (.error undigestible, j.db) := by
  unfold record_checkpoint_and_intent_once
  simp only [Prog.bind_eq, Prog.exec_lift_bind, prepare_intent, hv, ok_bind]
  cases he : intent.encodable false with
  | false =>
    simp only [prepare, sha256_digest_error he, error_bind]
    rfl
  | true =>
    have hp : prepare intent "event_id" = _ := Checked.prepared (k := event_kind) ⟨hw, hv, he⟩
    simp only [he, true_and, Classical.not_imp, Bool.not_eq_true] at hn
    simp only [hp, dict_digest, hn.1, if_true, sha256_digest_error hn.2]
    rfl

open scoped Classical in
/-- The memory's one-shot call when a record cannot be digested: it raises what
the durable store raises and writes nothing just when it gets to the record,
having written nothing before. -/
theorem once_undigestible (h : Mirrors store j) {checkpoint intent : Json} (hw : checkpoint.wf)
    (hv : validate intent EVENT_SCHEMA = .ok ())
    (hn : ¬ (intent.encodable false = true ∧
      (checkpoint.is_dict = true → checkpoint.encodable false = true))) :
    if ¬ Repeated store intent ∧
        (∃ cursor, check_checkpoint store.events.docs checkpoint = .ok cursor) ∧
        ((checkpoint.is_dict = true → checkpoint.encodable false = true) →
          SameCheckpoint store checkpoint)
    then store.record_checkpoint_and_intent_once checkpoint intent = (.error undigestible, store)
    else
      outcome (store.record_checkpoint_and_intent_once checkpoint intent).1 ≠ .error .ValueError ∨
        (store.record_checkpoint_and_intent_once checkpoint intent).2.checkpoints.docs.length ≠
          store.checkpoints.docs.length := by
  by_cases hr : Repeated store intent
  · rw [if_neg (fun h => h.1 hr), Memory.once_repeated store _ hv hr]
    exact .inl (by simp [outcome, Except.mapError, conflict])
  cases hc : check_checkpoint store.events.docs checkpoint with
  | error e =>
    rw [if_neg (by simp), Memory.once_new store _ hv hr, store.record_checkpoint_refused hc]
    refine .inl ?_
    have hclass := check_checkpoint_raises _ _ e hc
    simp only [outcome, Except.mapError, ne_eq, Except.error.injEq]
    rintro heq
    simp [CheckClass, heq] at hclass
  | ok cursor =>
    obtain ⟨hvalid, -⟩ := h.anchored hw hc
    have hdict : checkpoint.is_dict = true := by
      obtain ⟨fields, rfl⟩ := object_valid checkpoint_kind.object hvalid
      rfl
    rw [Memory.once_new store _ hv hr]
    cases he : checkpoint.encodable false with
    | false =>
      rw [if_pos ⟨hr, ⟨cursor, rfl⟩, fun h => by cases h hdict⟩,
        store.record_checkpoint_undigestible hc he]
    | true =>
      -- The intent is the record that cannot be digested.
      have hintent : intent.encodable false = false := by simpa [he] using hn
      have happend : ∀ store' : Memory, store'.append intent = (.error undigestible, store') := by
        intro store'
        simp only [Memory.append, hv, sha256_digest_error hintent, ok_bind, error_bind]
        rfl
      rcases record_checkpoint_cases h hc ⟨hw, hvalid, he⟩ with
        ⟨hsame, i, hrecord⟩ | ⟨hsame, hrecord | ⟨i, digests, hrecord⟩⟩
      · rw [if_pos ⟨hr, ⟨cursor, rfl⟩, fun _ => hsame⟩, hrecord]
        exact happend store
      · rw [if_neg (fun h => hsame (h.2.2 fun _ => rfl)), hrecord]
        exact .inl (by simp [outcome, Except.mapError, conflict])
      · rw [if_neg (fun h => hsame (h.2.2 fun _ => rfl)), hrecord]
        refine .inr ?_
        simp only [happend]
        simp

open scoped Classical in
/-- **The one-shot call on mirrored stores**: under its condition both answer
alike and stay mirrored; otherwise an outcome or a document shows the
difference. -/
theorem once_mirrors (h : Mirrors store j) (checkpoint intent : PyValue) :
    if Agreeable store (.record_checkpoint_and_intent_once checkpoint intent) then
      ∃ j' : Journal, (record_checkpoint_and_intent_once checkpoint.val intent.val).exec answer j.db =
          ((store.record_checkpoint_and_intent_once checkpoint.val intent.val).1, j'.db) ∧
        Mirrors (store.record_checkpoint_and_intent_once checkpoint.val intent.val).2 j'
    else
      outcome (store.record_checkpoint_and_intent_once checkpoint.val intent.val).1 ≠
          outcome ((record_checkpoint_and_intent_once checkpoint.val intent.val).exec answer j.db).1 ∨
        ¬ SameDocuments (store.record_checkpoint_and_intent_once checkpoint.val intent.val).2
          ((record_checkpoint_and_intent_once checkpoint.val intent.val).exec answer j.db).2 := by
  obtain ⟨checkpoint, hw⟩ := checkpoint
  obtain ⟨intent, hwi⟩ := intent
  simp only [Agreeable]
  cases hv : validate intent EVENT_SCHEMA with
  | error e =>
    rw [if_pos (by simp)]
    refine ⟨j, ?_, ?_⟩
    · unfold record_checkpoint_and_intent_once
      simp only [Prog.bind_eq, Prog.exec_lift_bind, prepare_intent, hv, error_bind,
        Memory.record_checkpoint_and_intent_once]
    · simpa only [Memory.record_checkpoint_and_intent_once, hv, error_bind] using h
  | ok u =>
    simp only [true_imp_iff]
    by_cases hn : intent.encodable false = true ∧
        (checkpoint.is_dict = true → checkpoint.encodable false = true)
    · -- Both records can be digested.
      simp only [if_pos hn]
      have hi : Checked event_kind intent := ⟨hwi, hv, hn.1⟩
      obtain ⟨d, hd⟩ : ∃ d, dict_digest checkpoint = .ok d := by
        unfold dict_digest
        split_ifs with hdict
        · exact ⟨_, sha256_digest_ok.mpr ⟨hn.2 hdict, rfl⟩⟩
        · exact ⟨"", rfl⟩
      cases hc : check_checkpoint store.events.docs checkpoint with
      | error e =>
        have hexec : (record_checkpoint_and_intent_once checkpoint intent).exec answer j.db =
            (.error e, j.db) := by
          rw [once_exec hi hd, insert_once_refused ((h.check_checkpoint checkpoint).trans hc)]
        rw [hexec]
        by_cases hr : Repeated store intent
        · rw [if_neg (by simpa using hr), Memory.once_repeated store _ hv hr]
          refine .inl ?_
          have hclass := check_checkpoint_raises _ _ e hc
          simp only [outcome, Except.mapError, ne_eq, Except.error.injEq]
          rintro heq
          simp [CheckClass, ← heq, conflict] at hclass
        · rw [if_pos (by simpa using hr), Memory.once_new store _ hv hr,
            store.record_checkpoint_refused hc]
          exact ⟨j, rfl, h⟩
      | ok cursor =>
        rw [if_pos (fun _ => ⟨cursor, rfl⟩)]
        by_cases hr : Repeated store intent
        · rw [Memory.once_repeated store _ hv hr, once_exec hi hd,
            insert_once_repeated ((h.check_checkpoint checkpoint).trans hc)
              ((repeated_iff h hi).mp hr)]
          exact ⟨j, rfl, h⟩
        · obtain ⟨hvalid, -⟩ := h.anchored hw hc
          have hdict : checkpoint.is_dict = true := by
            obtain ⟨fields, rfl⟩ := object_valid checkpoint_kind.object hvalid
            rfl
          refine insert_once_checked h ⟨hw, hvalid, hn.2 hdict⟩ hi hc ?_
          simpa [repeated_iff h hi] using hr
    · -- The durable store raises at once.
      simp only [if_neg hn]
      rw [once_exec_undigestible hv hwi hn]
      have hmemory := once_undigestible h hw hv hn
      split_ifs at hmemory ⊢ with hcond
      · rw [hmemory]
        exact ⟨j, rfl, h⟩
      · refine hmemory.imp id fun hlength hsame => hlength ?_
        have hdocs := hsame .observation_checkpoints
        rw [h.same_documents .observation_checkpoints] at hdocs
        have hlist := congrArg List.length (Except.ok.inj hdocs)
        simpa [Memory.docs] using hlist.symm

/-- A call that meets its condition keeps the stores mirrored and is answered
alike. -/
theorem serve_mirrors (h : Mirrors store j) {c : StoreCall} (hc : Agreeable store c) :
    ∃ j' : Journal, j.db.serve c = ((store.serve c).1, j'.db) ∧ Mirrors (store.serve c).2 j' := by
  cases c with
  | append event => exact append_mirrors h event.property
  | record_checkpoint checkpoint => exact record_checkpoint_mirrors h checkpoint.property
  | record_checkpoint_and_intent_once checkpoint intent =>
    have hone := once_mirrors h checkpoint intent
    rwa [if_pos hc] at hone
  | check_result_causality result =>
    exact ⟨j, check_result_causality_mirrors h result.val, h⟩

/-- A call that does not meet its condition shows the difference. -/
theorem serve_differs (h : Mirrors store j) {c : StoreCall} (hc : ¬ Agreeable store c) :
    ¬ (outcome (store.serve c).1 = outcome (j.db.serve c).1 ∧
      SameDocuments (store.serve c).2 (j.db.serve c).2) := by
  cases c with
  | record_checkpoint_and_intent_once checkpoint intent =>
    have hone := once_mirrors h checkpoint intent
    rw [if_neg hc] at hone
    rintro ⟨houtcome, hdocs⟩
    exact hone.elim (fun hne => hne houtcome) (fun hne => hne hdocs)
  | append event => exact absurd trivial hc
  | record_checkpoint checkpoint => exact absurd trivial hc
  | check_result_causality result => exact absurd trivial hc

end Calls

/-- Mirrored stores serve a sequence of calls alike exactly when every call
meets its condition. -/
theorem agree_iff (calls : List StoreCall) {store : Memory} {j : Journal} (h : Mirrors store j) :
    Agree calls store j.db ↔ AllAgreeable calls store := by
  induction calls generalizing store j with
  | nil => exact Iff.rfl
  | cons c rest ih =>
    by_cases hc : Agreeable store c
    · obtain ⟨j', hserve, hm⟩ := serve_mirrors h hc
      rw [Agree, AllAgreeable, hserve]
      simp only [hc, hm.same_documents, true_and, ih hm]
    · have hdiffer := serve_differs h hc
      rw [Agree, AllAgreeable]
      exact ⟨fun ⟨houtcome, hdocs, _⟩ => absurd ⟨houtcome, hdocs⟩ hdiffer, fun ⟨hc', _⟩ =>
        absurd hc' hc⟩

/-- **The two stores are observationally equal on exactly the sequences whose
calls meet their conditions.** -/
theorem stores_agree_exactly_when (calls : List StoreCall) :
    Agree calls Memory.empty Db.empty ↔ AllAgreeable calls Memory.empty := by
  rw [← Journal.db_empty]
  exact agree_iff calls mirrors_empty

/-! ## Where they differ -/

/-- An intent whose rationale the schema accepts and UTF-8 does not. -/
def surrogate_intent : PyValue :=
  ⟨.obj
    [(.text "schema_version", .int 1), (.text "event_id", .str (.text "event-2")),
      (.text "event_type", .str (.text "decision_proposed")),
      (.text "process_id", .str (.text "process-1")), (.text "run_id", .str (.text "run-1")),
      (.text "branch_id", .str (.text "branch-1")), (.text "task_id", .str (.text "task-1")),
      (.text "agent_id", .str (.text "agent-1")), (.text "sequence", .int 1),
      (.text "occurred_at", .str (.text "2026-01-01T00:00:00Z")),
      (.text "recorded_at", .str (.text "2026-01-01T00:00:00Z")),
      (.text "rationale", .str (.surrogates [0xd800] (by decide))),
      (.text "classification", .str (.text "internal")),
      (.text "redaction_status", .str (.text "complete"))],
    by simp [Json.wf, Json.wf_fields]⟩

/-- A checkpoint triggered by the sample event. -/
def sample_checkpoint : PyValue :=
  ⟨.obj
    [(.text "schema_version", .int 1), (.text "checkpoint_id", .str (.text "checkpoint-1")),
      (.text "kind", .str (.text "decision")), (.text "process_id", .str (.text "process-1")),
      (.text "run_id", .str (.text "run-1")), (.text "branch_id", .str (.text "branch-1")),
      (.text "agent_id", .str (.text "agent-1")), (.text "trigger_event_id", .str (.text "event-1")),
      (.text "event_cursor", .int 0), (.text "state_ref", .str (.text "artifact://observer-state/run-1")),
      (.text "completeness", .str (.text "complete")), (.text "restore_mode", .str (.text "none")),
      (.text "created_at", .str (.text "2026-01-01T00:00:00Z"))],
    by simp [Json.wf, Json.wf_fields]⟩

theorem Memory.append_checkpoints (store : Memory) (event : Json) :
    (store.append event).2.checkpoints = store.checkpoints := by
  simp only [Memory.append]
  split <;> rfl

/-- After a one-shot call that raised, the memory holds the checkpoint and the
database does not. -/
theorem stores_differ_on_surrogate_intent :
    ¬ Agree [.append sample_event,
      .record_checkpoint_and_intent_once sample_checkpoint surrogate_intent]
      Memory.empty Db.empty := by
  rw [← Journal.db_empty, agree_iff _ mirrors_empty]
  rintro ⟨-, hcall, -⟩
  have hvalid : validate surrogate_intent.val EVENT_SCHEMA = .ok () := by decide +kernel
  have hintent : surrogate_intent.val.encodable false = false := by decide +kernel
  have hcheckpoint : sample_checkpoint.val.encodable false = true := by decide +kernel
  have hcall := hcall hvalid
  simp only [hintent, Bool.false_eq_true, false_and, if_false] at hcall
  obtain ⟨id, -, hlookup⟩ := hcall.2.2 fun _ => hcheckpoint
  rw [Memory.serve, Memory.append_checkpoints] at hlookup
  exact nomatch hlookup

end AppContracts.ObservationStore
