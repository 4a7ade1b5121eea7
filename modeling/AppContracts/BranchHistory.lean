/-
Runs of concurrent branch declarations.

The declaration reads the events, appends its own, and reads the events again.
It is correct where nothing is recorded in between: then the second read shows
exactly one event more, its own. Where another call records the same event in
between, the append is taken for a repetition, and both calls succeed.

A declaration is proved to obey its monitor (`create_obeys`), so that what a call remembers
when it has returned or raised is known: its reads and its append (`exchange_of_asked`). Two
calls are then compared through the states they acted on, one of which has grown from the
other: what grew from the event of one call shows this event to the next one
(`Declares.distinct`).
-/
import AppContracts.SimulationBranch

set_option autoImplicit false

namespace AppContracts.SimulationBranch

open Interleave Validator ObservationStore

/-! ## What a call has been answered -/

/-- An operation and its answer. -/
abbrev Answer : Type := (op : Op) × Res op

/-- The answers, with one more. -/
def noted (m : List Answer) (op : Op) (r : Res op) : List Answer := m ++ [⟨op, r⟩]

/-- Any operation may come next. -/
def any (_ : List Answer) (_ : Op) : Prop := True

/-- The answers that lead to the append of `event`: `before` was read, and the
event declared from it. -/
structure Asked (request : Request) (ids : Identifiers) (before : List Json) (event : Json)
    (m : List Answer) : Prop where
  identified : identifiers request = .ok ids
  reads : ∃ checkpoints checkpoint cursor declared,
    m = [⟨.events, .ok before⟩, ⟨.checkpoints, .ok checkpoints⟩,
      ⟨.check_checkpoint checkpoint, .ok cursor⟩] ∧
    validate checkpoint CHECKPOINT_SCHEMA = .ok () ∧
    declare request ids ⟨before, checkpoint, cursor⟩ = .ok declared ∧ declared.event = event
  valid : validate event EVENT_SCHEMA = .ok ()

/-- What a call that returns was answered. -/
def Succeeded (request : Request) (m : List Answer) : Prop :=
  ∃ ids before event reads n after, Asked request ids before event reads ∧
    m = reads ++ [⟨.append event, .ok n⟩, ⟨.events, .ok after⟩] ∧
    check_recorded_last ids before after = .ok ()

/-- What a call that raises was answered: no event was accepted, or the second
read did not show it as the only new one. -/
def Failed (request : Request) (m : List Answer) : Prop :=
  (∀ event n, (⟨.append event, .ok n⟩ : Answer) ∉ m) ∨
    ∃ ids before event reads n after, Asked request ids before event reads ∧
      m = reads ++ [⟨.append event, .ok n⟩, ⟨.events, after⟩] ∧
      ∀ docs, after = .ok docs → check_recorded_last ids before docs ≠ .ok ()

variable {request : Request}

/-- The rule for a call of a method. -/
theorem ask_obeys {β : Type} {Q : List Answer → β → Prop} {X : List Answer → Exn → Prop}
    {m : List Answer} {op : Op} {f : Val op → Program β}
    (hok : ∀ v, Obeys noted any Q X (noted m op (.ok v)) (f v))
    (herr : ∀ e, X (noted m op (.error e)) e) : Obeys noted any Q X m ((ask op).bind f) := by
  refine ⟨trivial, fun r => ?_⟩
  cases r with
  | ok v => exact hok v
  | error e => exact herr e

/-- The rule for a check. -/
theorem check_obeys {α β : Type} {Q : List Answer → β → Prop} {X : List Answer → Exn → Prop}
    {m : List Answer} {x : Except Exn α} {f : α → Program β}
    (hok : ∀ a, x = .ok a → Obeys noted any Q X m (f a)) (herr : ∀ e, x = .error e → X m e) :
    Obeys noted any Q X m ((Prog.lift x).bind f) :=
  Obeys.bind (Obeys.lift hok herr)

/-- Answers without an append. -/
def Reads (m : List Answer) : Prop := ∀ event r, (⟨.append event, r⟩ : Answer) ∉ m

theorem Reads.failed {m : List Answer} (h : Reads m) : Failed request m :=
  .inl fun event n => h event (.ok n)

/-- The answers of `read_source`. -/
theorem read_source_obeys (checkpoint_id : String) (correction : Json) :
    Obeys noted any
      (fun m source => ∃ checkpoints, m = [⟨.events, .ok source.events⟩, ⟨.checkpoints, .ok checkpoints⟩,
        ⟨.check_checkpoint source.checkpoint, .ok source.cursor⟩] ∧
        validate source.checkpoint CHECKPOINT_SCHEMA = .ok ())
      (fun m _ => Reads m) [] (read_source checkpoint_id correction) := by
  refine Obeys.handle (check_obeys (fun _ _ => ?_) fun _ _ => by simp [Obeys, Reads])
  refine ask_obeys (fun events => ?_) fun _ => by simp [Obeys, Reads, noted]
  refine ask_obeys (fun checkpoints => ?_) fun _ => by simp [Obeys, Reads, noted]
  refine check_obeys (fun checkpoint _ => ?_) fun _ _ => by simp [Obeys, Reads, noted]
  refine check_obeys (fun _ hvalid => ?_) fun _ _ => by simp [Obeys, Reads, noted]
  refine ask_obeys (fun cursor => ?_) fun _ => by simp [Obeys, Reads, noted]
  exact ⟨checkpoints, rfl, hvalid⟩

/-- The answers of `record`. -/
theorem record_obeys {m : List Answer} {event : Json} (hm : Reads m) :
    Obeys noted any
      (fun m' result => m' = m ++ [⟨.append event, .ok result.1⟩, ⟨.events, .ok result.2⟩] ∧
        validate event EVENT_SCHEMA = .ok ())
      (fun m' _ => (∀ event n, (⟨.append event, .ok n⟩ : Answer) ∉ m') ∨
        validate event EVENT_SCHEMA = .ok () ∧
          ∃ n e, m' = m ++ [⟨.append event, .ok n⟩, ⟨.events, .error e⟩])
      m (record event) := by
  have hnone : ∀ event' n, (⟨.append event', .ok n⟩ : Answer) ∉ m := fun event' n => hm event' (.ok n)
  refine Obeys.handle (check_obeys (fun _ hvalid => ?_) fun _ _ => .inl hnone)
  refine ask_obeys (fun n => ?_) fun e => .inl ?_
  · refine ask_obeys (fun after => ?_) fun e => .inr ⟨hvalid, n, e, by simp [noted]⟩
    exact ⟨by simp [noted], hvalid⟩
  · intro event' n hmem
    rcases List.mem_append.mp hmem with hmem | hmem
    · exact hnone event' n hmem
    · rw [List.mem_singleton, Sigma.mk.injEq] at hmem
      obtain ⟨hop, hres⟩ := hmem
      obtain rfl := Op.append.inj hop
      cases eq_of_heq hres

/-- The locator of a valid checkpoint exists. -/
theorem locate_ok {ids : Identifiers} {source : Source} {source_id : Json} {n : ℕ}
    (h : validate source.checkpoint CHECKPOINT_SCHEMA = .ok ()) :
    ∃ locator, locate ids source source_id n = .ok locator := by
  have hitem : ∀ name, name ∈ CHECKPOINT_SCHEMA.required → ∃ v, item source.checkpoint name = .ok v := by
    intro name hname
    obtain ⟨v, hv⟩ := required_field rfl h hname
    exact ⟨v, item_ok.mpr hv⟩
  obtain ⟨process_id, hprocess⟩ := hitem "process_id" (by decide)
  obtain ⟨run_id, hrun⟩ := hitem "run_id" (by decide)
  obtain ⟨branch_id, hbranch⟩ := hitem "branch_id" (by decide)
  rw [locate, hprocess, ok_bind, hrun, ok_bind, hbranch, ok_bind]
  exact ⟨_, rfl⟩

/-- **What a call was answered when it ends.** -/
theorem create_obeys (request : Request) :
    Obeys noted any (fun m _ => Succeeded request m) (fun m _ => Failed request m) []
      (create_simulation_branch request) := by
  -- each stage of the call has made one more exchange; a failure says which
  have hempty : Reads [] := by simp [Reads]
  refine check_obeys (fun ids hids => ?_) fun _ _ => hempty.failed
  refine Obeys.bind ((read_source_obeys _ _).mono ?_ fun m _ h => h.failed)
  rintro _ source ⟨checkpoints, rfl, hcheckpoint⟩
  have hreads : Reads [⟨.events, .ok source.events⟩, ⟨.checkpoints, .ok checkpoints⟩,
      ⟨.check_checkpoint source.checkpoint, .ok source.cursor⟩] := by simp [Reads]
  refine check_obeys (fun declared hdeclared => ?_) fun _ _ => hreads.failed
  have hasked : validate declared.event EVENT_SCHEMA = .ok () →
      Asked request ids source.events declared.event _ := fun hvalid =>
    ⟨hids, ⟨checkpoints, source.checkpoint, source.cursor, declared, rfl, hcheckpoint, hdeclared, rfl⟩,
      hvalid⟩
  refine Obeys.bind ((record_obeys hreads).mono ?_ ?_)
  · rintro _ ⟨n, after⟩ ⟨rfl, hvalid⟩
    refine check_obeys (fun _ hlast => ?_) fun e hlast => ?_
    · obtain ⟨locator, hlocator⟩ := @locate_ok ids source declared.source_id n hcheckpoint
      rw [hlocator]
      exact ⟨ids, _, _, _, n, after, hasked hvalid, rfl, hlast⟩
    · refine .inr ⟨ids, _, _, _, n, .ok after, hasked hvalid, rfl, fun docs hdocs => ?_⟩
      rw [← Except.ok.inj hdocs, hlast]
      exact nofun
  -- the recording failed before the append, or at the reading after it
  · rintro m e (hnone | ⟨hvalid, n, e', rfl⟩)
    · exact .inl hnone
    · exact .inr ⟨ids, _, _, _, n, .error e', hasked hvalid, rfl, nofun⟩

/-! ## What the operations do -/

/-- The events of a database, as they are read. -/
def stored_events (db : Db) : Except Exn (List Json) := load_all (db.events.in_order.map Row.json)

/-- Reading a table. -/
theorem documents_exec (name : TableName) (db : Db) :
    (documents name).exec answer db = (load_all ((db.table name).in_order.map Row.json), db) := by
  rw [documents, Prog.bind_eq, Prog.perform_bind, Prog.exec, Prog.exec_lift]
  rfl

theorem events_method (db : Db) : method .events db = (stored_events db, db) :=
  documents_exec .observation_events db

/-- Checking a checkpoint. -/
theorem check_method (checkpoint : Json) (db : Db) : method (.check_checkpoint checkpoint) db =
    ((do check_checkpoint_shape checkpoint; check_trigger (← stored_events db) checkpoint), db) := by
  rw [method, check_recorded, Prog.bind_eq, Prog.exec_lift_bind]
  cases check_checkpoint_shape checkpoint with
  | error e => rfl
  | ok _ =>
    dsimp only
    rw [Prog.bind_eq, Prog.exec_bind, documents_exec, ok_bind]
    have hload : load_all ((db.table .observation_events).in_order.map Row.json) = stored_events db := rfl
    rw [hload]
    cases stored_events db with
    | error e => rfl
    | ok docs => exact Prog.exec_lift _ _ _

/-- An operation other than an append reads. -/
theorem method_reads {op : Op} (h : ∀ event, op ≠ .append event) (db : Db) : (method op db).2 = db := by
  cases op with
  | events => rw [events_method]
  | checkpoints => rw [method, documents_exec]
  | check_checkpoint checkpoint => rw [check_method]
  | append event => exact absurd rfl (h event)

theorem method_keeps {op : Op} {r : Res op} {db db' : Db} (h : method op db = (r, db'))
    (hop : ∀ event, op ≠ .append event) : db' = db := by
  have hreads := method_reads hop db
  rwa [h] at hreads

/-- The row of an event that is inserted next. -/
def next_row (db : Db) (id text digest : String) : Row := ⟨id, db.events.next_cursor, text, digest⟩

/-- The database with one more event row. -/
def add_row (db : Db) (row : Row) : Db := { db with events := db.events ++ [row] }

/-- **What an append does**: nothing, or it puts the event's text in a new row at
the end. -/
theorem append_method {event : Json} {db db' : Db} {r : Res (.append event)}
    (h : method (.append event) db = (r, db')) :
    db' = db ∨ ∃ digest id text, prepare event "event_id" = .ok (digest, id) ∧
      dump event = .ok text ∧ (∃ n, r = .ok n) ∧ db' = add_row db (next_row db id text digest) := by
  rw [method, append, Prog.bind_eq, Prog.exec_lift_bind] at h
  cases hvalid : validate event EVENT_SCHEMA with
  | error e => rw [hvalid] at h; exact .inl (Prod.mk.inj h).2.symm
  | ok _ =>
    rw [hvalid] at h
    dsimp only at h
    rw [Prog.bind_eq, Prog.exec_lift_bind] at h
    rcases hprepare : prepare event "event_id" with e | ⟨digest, id⟩
    · rw [hprepare] at h
      exact .inl (Prod.mk.inj h).2.symm
    rw [hprepare] at h
    dsimp only at h
    rw [store_record, Prog.bind_eq, Prog.perform_bind, Prog.exec] at h
    -- a known ID is looked up and its cursor returned; only an unknown one writes
    rcases hfind : db.events.find id with _ | ⟨cursor, known⟩
    · simp only [answer, Db.table, hfind, Prog.bind_eq, Prog.perform_bind, Prog.exec] at h
      rw [Prog.exec_lift_bind] at h
      rcases hdump : dump event with e | text
      · rw [hdump] at h
        exact .inl (Prod.mk.inj h).2.symm
      rw [hdump] at h
      dsimp only at h
      rw [Prog.exec, Prog.exec_lift] at h
      unfold answer at h
      dsimp only [Db.table] at h
      cases hinsert : db.events.insert ⟨id, db.events.next_cursor, text, digest⟩ with
      | none =>
        rw [hinsert] at h
        exact .inl (Prod.mk.inj h).2.symm
      | some table =>
        simp only [hinsert, cond_true, Prod.mk.injEq, Db.set_table] at h
        unfold Table.insert at hinsert
        split_ifs at hinsert
        refine .inr ⟨digest, id, text, rfl, rfl, ⟨_, h.1.symm⟩, ?_⟩
        rw [← h.2, ← Option.some.inj hinsert]
        rfl
    · simp only [answer, Db.table, hfind, Prog.exec_lift, Prod.mk.injEq] at h
      exact .inl h.2.symm

/-! ## Reading a row back -/

theorem load_all_append {texts : List String} {docs : List Json} (h : load_all texts = .ok docs)
    (more : List String) : load_all (texts ++ more) = (load_all more).map (docs ++ ·) := by
  induction texts generalizing docs with
  | nil =>
    obtain rfl := Except.ok.inj h
    rw [List.nil_append]
    cases load_all more <;> rfl
  | cons text texts ih =>
    rw [load_all] at h
    rw [List.cons_append, load_all]
    cases hload : Json.loads text with
    | none => rw [hload] at h; cases h
    | some doc =>
      rw [hload] at h
      dsimp only at h ⊢
      obtain ⟨rest, hrest, hdocs⟩ := bind_ok.mp h
      obtain rfl := Except.ok.inj hdocs
      rw [ih hrest]
      cases load_all more <;> rfl

/-- Every text that was loaded is that of a document. -/
theorem mem_load_all {texts : List String} {docs : List Json} (h : load_all texts = .ok docs)
    {text : String} {doc : Json} (htext : text ∈ texts) (hload : Json.loads text = some doc) :
    doc ∈ docs := by
  obtain ⟨front, back, rfl⟩ := List.append_of_mem htext
  induction front generalizing docs with
  | nil =>
    rw [List.nil_append, load_all, hload] at h
    obtain ⟨rest, -, hdocs⟩ := bind_ok.mp h
    obtain rfl := Except.ok.inj hdocs
    exact List.mem_cons_self
  | cons first front ih =>
    rw [List.cons_append, load_all] at h
    cases hfirst : Json.loads first with
    | none => rw [hfirst] at h; cases h
    | some _ =>
      rw [hfirst] at h
      obtain ⟨rest, hrest, hdocs⟩ := bind_ok.mp h
      obtain rfl := Except.ok.inj hdocs
      exact List.mem_cons_of_mem _ (ih hrest (by simp))

/-- Every cursor is below the next one. -/
theorem cursor_lt_next {table : Table} {row : Row} (h : row ∈ table) : row.cursor < table.next_cursor := by
  have hmono : ∀ (rows : List Row) (n : ℕ), n ≤ rows.foldl (fun n row => max n (row.cursor + 1)) n := by
    intro rows
    induction rows with
    | nil => exact fun n => le_refl n
    | cons first rows ih => exact fun n => le_trans (le_max_left _ _) (ih _)
  obtain ⟨front, back, rfl⟩ := List.append_of_mem h
  rw [Table.next_cursor, List.foldl_append, List.foldl_cons]
  exact lt_of_lt_of_le (lt_of_lt_of_le (Nat.lt_succ_self _) (le_max_right _ _)) (hmono back _)

/-- A row at the next cursor comes last. -/
theorem in_order_add {table : Table} {row : Row} (h : row.cursor = table.next_cursor) :
    (table ++ [row] : Table).in_order = table.in_order ++ [row] := by
  have hinsert : ∀ (first : Row) (rows : List Row), first.cursor ≤ row.cursor →
      (rows ++ [row]).orderedInsert (fun a b => a.cursor ≤ b.cursor) first =
        rows.orderedInsert (fun a b => a.cursor ≤ b.cursor) first ++ [row] := by
    intro first rows hfirst
    induction rows with
    | nil => simp [hfirst]
    | cons second rows ih =>
      rw [List.cons_append, List.orderedInsert_cons, List.orderedInsert_cons, ih]
      split_ifs <;> rfl
  have hlast : ∀ rows : List Row, (∀ r ∈ rows, r.cursor < row.cursor) →
      (rows ++ [row]).insertionSort (fun a b => a.cursor ≤ b.cursor) =
        rows.insertionSort (fun a b => a.cursor ≤ b.cursor) ++ [row] := by
    intro rows hrows
    induction rows with
    | nil => rfl
    | cons first rows ih =>
      rw [List.cons_append, List.insertionSort_cons, List.insertionSort_cons,
        ih fun r hr => hrows r (List.mem_cons_of_mem _ hr),
        hinsert _ _ (hrows first List.mem_cons_self).le]
  exact hlast table fun r hr => h ▸ cursor_lt_next hr

/-- The event of a call, as it is read back. -/
structure Readable (ids : Identifiers) (event doc : Json) : Prop where
  loads : ∀ text, dump event = .ok text → Json.loads text = some doc
  is_dict : doc.is_dict = true
  event_id : doc.get? "event_id" = some (.str (.text (event_id ids.branch_id)))
  run_id : doc.get? "run_id" = some (.str (.text ids.run_id))
  branch_id : doc.get? "branch_id" = some (.str (.text ids.branch_id))

/-- A branch event that passed its schema is well formed. -/
theorem branch_event_wf {ids : Identifiers} {process_id task_id source_id : Json} {timestamp : String}
    (h : validate (branch_event ids process_id task_id source_id timestamp) EVENT_SCHEMA = .ok ()) :
    (branch_event ids process_id task_id source_id timestamp).wf := by
  have hstring : ∀ {name : String} {v : Json} {sub : Schema},
      (branch_event ids process_id task_id source_id timestamp).get? name = some v →
      EVENT_SCHEMA.properties.lookup name = some sub → sub.type = some .string → v.wf := by
    intro name v sub hget hsub htype
    obtain ⟨s, rfl, -⟩ := string_valid htype (field_valid h hget hsub)
    trivial
  have hprocess : process_id.wf := @hstring "process_id" _ _ rfl rfl rfl
  have htask : task_id.wf := @hstring "task_id" _ _ rfl rfl rfl
  have hcauses := @field_valid _ (.arr [source_id]) EVENT_SCHEMA _ "causal_event_ids" h rfl rfl
  have hsource : source_id.wf := by
    obtain ⟨s, rfl, -⟩ := string_valid rfl
      ((validate_arr_ok.mp hcauses).2.2.2.2 _ rfl source_id List.mem_cons_self)
    trivial
  simp [branch_event, Json.wf, Json.wf_fields, Json.wf_items, hprocess, htask, hsource]

/-- The declared event is the branch event. -/
theorem declare_event {request : Request} {ids : Identifiers} {source : Source} {declared : Declared}
    (h : declare request ids source = .ok declared) :
    check_new ids source.events = .ok () ∧ ∃ process_id task_id source_id timestamp,
      declared.event = branch_event ids process_id task_id source_id timestamp := by
  simp only [declare, bind_ok] at h
  obtain ⟨_, -, target, -, _, hnew, timestamp, -, process_id, -, task_id, -, source_id, -, h⟩ := h
  obtain rfl := Except.ok.inj h
  exact ⟨hnew, process_id, task_id, source_id, timestamp, rfl⟩

/-- A declared event that the store can take. -/
theorem checked_of_declared {request : Request} {ids : Identifiers} {source : Source}
    {declared : Declared} (h : declare request ids source = .ok declared)
    (hvalid : validate declared.event EVENT_SCHEMA = .ok ())
    (hencodable : declared.event.encodable false = true) : Checked event_kind declared.event := by
  obtain ⟨-, process_id, task_id, source_id, timestamp, hevent⟩ := declare_event h
  refine ⟨?_, hvalid, hencodable⟩
  rw [hevent] at hvalid ⊢
  exact branch_event_wf hvalid

/-- The event that a call declares reads back with its identifiers. -/
theorem readable_of_declared {request : Request} {ids : Identifiers} {source : Source}
    {declared : Declared} (h : declare request ids source = .ok declared)
    (hc : Checked event_kind declared.event) : Readable ids declared.event declared.event.norm := by
  obtain ⟨-, process_id, task_id, source_id, timestamp, hevent⟩ := declare_event h
  refine ⟨fun text htext => ?_, ?_, ?_, ?_, ?_⟩
  · rw [hc.dumped] at htext
    rw [← Except.ok.inj htext]
    exact Json.loads_print true hc.wf hc.plain hc.encodable
  · rw [hevent]
    rfl
  all_goals
    rw [Json.get?_norm hc.wf, hevent]
    rfl

/-- The event of an accepted append reads back. -/
theorem Asked.readable {request : Request} {ids : Identifiers} {before : List Json} {event : Json}
    {m : List Answer} (h : Asked request ids before event m) {digest id : String}
    (hprepare : prepare event "event_id" = .ok (digest, id)) : Readable ids event event.norm := by
  obtain ⟨_, _, _, declared, -, -, hdeclared, rfl⟩ := h.reads
  obtain ⟨-, process_id, task_id, source_id, timestamp, hevent⟩ := declare_event hdeclared
  have hwf : declared.event.wf := by
    have hvalid := h.valid
    rw [hevent] at hvalid ⊢
    exact branch_event_wf hvalid
  exact readable_of_declared hdeclared (@prepare_ok event_kind _ _ _ hwf h.valid hprepare).1

/-! ## Runs -/

/-- A call in progress. -/
abbrev Caller : Type := Thread Request Op Res Exn Locator Db

/-- What a call has been answered. -/
def answers (t : Caller) : List Answer := t.past.map fun e => ⟨e.op, e.res⟩

theorem monitor_answers (t : Caller) : t.monitor noted [] = answers t := by
  rw [answers, List.map_eq_flatMap]
  exact Thread.monitor_append (fun op r => [(⟨op, r⟩ : Answer)]) t

/-- **Nothing comes in between**: when the store accepts the event of a call, its
events are those the call read first; when the call reads them again, the read is
answered, and they are those that the append left. -/
structure Undisturbed (t : Caller) : Prop where
  accepted : ∀ read e, t.past[0]? = some read → t.past[3]? = some e → (∃ v, e.res = .ok v) →
    e.before.events = read.before.events
  reread : ∀ e again, t.past[3]? = some e → t.past[4]? = some again → (∃ v, e.res = .ok v) →
    again.before.events = e.after.events ∧ ∃ v, again.res = .ok v

/-- At most one call succeeds for each branch ID, and at most one for each run
ID. -/
def AtMostOne (cfg : Config Request Op Res Exn Locator Db) : Prop :=
  cfg.pool.Pairwise fun t u => ∀ a b, t.status = .running (.ret a) → u.status = .running (.ret b) →
    t.call.branch_id ≠ u.call.branch_id ∧ t.call.run_id ≠ u.call.run_id

/-- A call that raises has left no event in the store. -/
def NoneLeft (cfg : Config Request Op Res Exn Locator Db) : Prop :=
  ∀ t ∈ cfg.pool, ∀ e, t.status = .running (.raise e) → t.appended Db.events = []

/-- The events only grow. -/
def Grows (db db' : Db) : Prop := db.events <+: db'.events

theorem sem_grows (db : Db) (op : Op) (r : Res op) (db' : Db) (h : sem db op r db') : Grows db db' := by
  rcases h with h | ⟨-, rfl⟩
  · cases op with
    | append event =>
      rcases append_method h with rfl | ⟨digest, id, text, -, -, -, rfl⟩
      · exact List.prefix_rfl
      · exact List.prefix_append _ _
    | _ =>
      rw [method_keeps h fun _ heq => nomatch heq]
      exact List.prefix_rfl
  · exact List.prefix_rfl

/-- An operation that was not an accepted append changed nothing. -/
theorem sem_keeps {db db' : Db} {op : Op} {r : Res op} (h : sem db op r db')
    (hno : ∀ event n, (⟨op, r⟩ : Answer) ≠ ⟨.append event, .ok n⟩) : db' = db := by
  rcases h with h | ⟨-, rfl⟩
  · cases op with
    | append event =>
      rcases append_method h with rfl | ⟨-, -, -, -, -, ⟨n, rfl⟩, -⟩
      · rfl
      · exact absurd rfl (hno event n)
    | _ => exact method_keeps h fun _ heq => nomatch heq
  · rfl

/-- An answered read shows the stored events. -/
theorem sem_events {db db' : Db} {docs : List Json} (h : sem db .events (.ok docs) db') :
    stored_events db = .ok docs := by
  rcases h with h | ⟨⟨e, he⟩, -⟩
  · rw [events_method] at h
    exact (Prod.mk.inj h).1
  · cases he

/-- The steps of a recorded operation. -/
theorem record_sem {e : Record Op Res Db} (h : sem e.before e.op e.res e.after) {op : Op} {r : Res op}
    (heq : (⟨e.op, e.res⟩ : Answer) = ⟨op, r⟩) : sem e.before op r e.after := by
  obtain ⟨op', r', before, after⟩ := e
  cases heq
  exact h

variable {db : Db} {cfg : Config Request Op Res Exn Locator Db} {t : Caller}

theorem records_sem (h : Run db cfg) (ht : t ∈ cfg.pool) {e : Record Op Res Db} (he : e ∈ t.past) :
    sem e.before e.op e.res e.after :=
  (h.records (I := fun _ => True) (fun _ _ => trivial) t ht e he).2

/-- A call without an accepted append has left no event. -/
theorem appended_nil (h : Run db cfg) (ht : t ∈ cfg.pool)
    (hno : ∀ event n, (⟨.append event, .ok n⟩ : Answer) ∉ answers t) : t.appended Db.events = [] := by
  refine List.flatMap_eq_nil_iff.mpr fun e he => ?_
  have hkeeps := sem_keeps (records_sem h ht he) fun event n heq =>
    hno event n (heq ▸ List.mem_map_of_mem he)
  rw [Record.appended, hkeeps, List.drop_length]

/-- The events of a database with one more row. -/
theorem stored_events_add {db : Db} {row : Row} {docs : List Json} {doc : Json}
    (hcursor : row.cursor = db.events.next_cursor) (hdocs : stored_events db = .ok docs)
    (hload : Json.loads row.json = some doc) : stored_events (add_row db row) = .ok (docs ++ [doc]) := by
  have hone : load_all [row.json] = .ok [doc] := by
    rw [load_all, hload]
    rfl
  have horder : (add_row db row).events.in_order = db.events.in_order ++ [row] := in_order_add hcursor
  rw [stored_events, horder, List.map_append, load_all_append hdocs, List.map_singleton, hone]
  rfl

/-- What an undisturbed call whose event was accepted has done: it appended
nothing and read the same events again, or its event's row, and read that too. -/
structure Exchange (ids : Identifiers) (before : List Json) (event : Json) (t : Caller)
    (again : Except Exn (List Json)) : Prop where
  exchange : ∃ read checkpoints checked e reread, t.past = [read, checkpoints, checked, e, reread] ∧
    read.after = read.before ∧ checkpoints.after = checkpoints.before ∧ checked.after = checked.before ∧
    reread.after = reread.before ∧ stored_events e.before = .ok before ∧
    again = stored_events e.after ∧
    (e.after = e.before ∨ ∃ row doc, e.after = add_row e.before row ∧
      row.cursor = e.before.events.next_cursor ∧ Json.loads row.json = some doc ∧
      Readable ids event doc)

theorem exchange_of_asked (h : Run db cfg) (ht : t ∈ cfg.pool) (hu : Undisturbed t)
    {ids : Identifiers} {before : List Json} {event : Json} {reads : List Answer} {n : ℕ}
    {again : Res .events} (hasked : Asked t.call ids before event reads)
    (hanswers : answers t = reads ++ [⟨.append event, .ok n⟩, ⟨.events, again⟩]) :
    Exchange ids before event t again := by
  obtain ⟨checkpoints, checkpoint, cursor, declared, rfl, -⟩ := hasked.reads
  simp only [answers, List.cons_append, List.nil_append, List.map_eq_cons_iff, List.map_eq_nil_iff]
    at hanswers
  obtain ⟨read, _, hpast, hread, listed, _, rfl, hlisted, checked, _, rfl, hchecked, e, _, rfl, he,
    reread, _, rfl, hreread, rfl⟩ := hanswers
  have hsem : ∀ r ∈ t.past, sem r.before r.op r.res r.after := fun r hr => records_sem h ht hr
  simp only [hpast, List.forall_mem_cons] at hsem
  obtain ⟨hs₁, hs₂, hs₃, hs₄, hs₅, -⟩ := hsem
  have hkeep : ∀ {r : Record Op Res Db} {op : Op} {v : Res op},
      sem r.before r.op r.res r.after → (⟨r.op, r.res⟩ : Answer) = ⟨op, v⟩ →
      (∀ event, op ≠ .append event) → r.after = r.before := by
    intro r op v hr heq hop
    refine sem_keeps hr fun event n hevent => hop event ?_
    rw [heq] at hevent
    exact congrArg Sigma.fst hevent
  have haccepted : ∃ v, e.res = .ok v := by
    obtain ⟨op, res, _, _⟩ := e
    cases he
    exact ⟨n, rfl⟩
  have hsame := hu.accepted read e (by rw [hpast]; rfl) (by rw [hpast]; rfl) haccepted
  obtain ⟨hsame', hanswered⟩ := hu.reread e reread (by rw [hpast]; rfl) (by rw [hpast]; rfl) haccepted
  have hbefore : stored_events e.before = .ok before := by
    rw [stored_events, hsame]
    exact sem_events (record_sem hs₁ hread)
  refine ⟨read, listed, checked, e, reread, hpast, hkeep hs₁ hread (by rintro _ ⟨⟩),
    hkeep hs₂ hlisted (by rintro _ ⟨⟩), hkeep hs₃ hchecked (by rintro _ ⟨⟩),
    hkeep hs₅ hreread (by rintro _ ⟨⟩), hbefore, ?_, ?_⟩
  · -- The second read is answered, from the database that the append left.
    obtain ⟨docs, rfl⟩ : ∃ docs, again = .ok docs := by
      obtain ⟨op, res, _, _⟩ := reread
      cases hreread
      exact hanswered
    rw [← sem_events (record_sem hs₅ hreread), stored_events, stored_events, hsame']
  · rcases record_sem hs₄ he with hmethod | ⟨⟨_, herr⟩, -⟩
    · rcases append_method hmethod with hkept | ⟨digest, id, text, hprepare, hdump, -, hadded⟩
      · exact .inl hkept
      · have hreadable := hasked.readable hprepare
        exact .inr ⟨_, event.norm, hadded, rfl, hreadable.loads text hdump, hreadable⟩
    · cases herr

/-! ## At most one success -/

/-- New identifiers are used by no event. -/
theorem check_new_ok {ids : Identifiers} {events : List Json} (h : check_new ids events = .ok ()) :
    ∀ event ∈ events, uses ids event = .ok false := by
  induction events with
  | nil => simp
  | cons event rest ih =>
    rw [check_new, bind_ok] at h
    obtain ⟨used, hused, h⟩ := h
    rw [raise_if_bind] at h
    refine List.forall_mem_cons.mpr ⟨?_, ih h.2⟩
    rw [hused, Bool.eq_false_iff.mpr h.1]

/-- The event of one call uses the identifiers of another only if they are not its
own. -/
theorem Readable.distinct {ids other : Identifiers} {event doc : Json} (h : Readable ids event doc)
    (hnew : uses other doc = .ok false) :
    ids.branch_id ≠ other.branch_id ∧ ids.run_id ≠ other.run_id := by
  simp only [uses, get, h.is_dict, h.branch_id, h.run_id, if_true, ok_bind, Option.getD_some, pure,
    Except.pure, Except.ok.injEq, Bool.or_eq_false_iff, py_eq, beq_eq_false_iff_ne, ne_eq,
    PyStr.text.injEq] at hnew
  exact hnew

theorem identifier_of_ok {kind id : String} {value : Arg PyStr} (h : identifier_of kind value = .ok id) :
    value = .of (.text id) := by
  unfold identifier_of at h
  split at h
  · split_ifs at h
    rw [Except.ok.inj h]
  · cases h

theorem identifiers_ok {request : Request} {ids : Identifiers} (h : identifiers request = .ok ids) :
    request.branch_id = .of (.text ids.branch_id) ∧ request.run_id = .of (.text ids.run_id) := by
  simp only [identifiers, bind_ok] at h
  obtain ⟨checkpoint_id, -, run_id, hrun, branch_id, hbranch, h⟩ := h
  obtain rfl := Except.ok.inj h
  exact ⟨identifier_of_ok hbranch, identifier_of_ok hrun⟩

/-- The second read shows the one new event. -/
theorem recorded_last_ok {ids : Identifiers} {before : List Json} {event doc : Json}
    (h : Readable ids event doc) : check_recorded_last ids before (before ++ [doc]) = .ok () := by
  simp [check_recorded_last, raise_if, get, h.is_dict, h.event_id, py_eq, bind, Except.bind]

/-- The second read shows nothing new. -/
theorem recorded_last_same {ids : Identifiers} {before : List Json} :
    check_recorded_last ids before before ≠ .ok () := by
  simp [check_recorded_last, raise_if, bind, Except.bind]

/-- A call that returned: its event is in a new row, and its identifiers were
new to the events before it. -/
structure Declares (t : Caller) (ids : Identifiers) (e : Record Op Res Db) : Prop where
  mem : e ∈ t.past
  identified : identifiers t.call = .ok ids
  row : ∃ row doc event, e.after = add_row e.before row ∧ Json.loads row.json = some doc ∧
    Readable ids event doc
  fresh : ∃ before, stored_events e.before = .ok before ∧ check_new ids before = .ok ()

theorem declares_of_returned (h : Run db cfg) (ht : t ∈ cfg.pool) (hu : Undisturbed t) {a : Locator}
    (hret : t.status = .running (.ret a)) : ∃ ids e, Declares t ids e := by
  have hend := h.obeys_returned create_obeys ht hret
  rw [monitor_answers] at hend
  obtain ⟨ids, before, event, reads, n, after, hasked, hanswers, hlast⟩ := hend
  obtain ⟨read, listed, checked, e, reread, hpast, -, -, -, -, hbefore, hagain, heffect⟩ :=
    (exchange_of_asked h ht hu hasked hanswers).exchange
  have hnew : check_new ids before = .ok () := by
    obtain ⟨_, _, _, declared, -, -, hdeclared, -⟩ := hasked.reads
    exact (declare_event hdeclared).1
  refine ⟨ids, e, by simp [hpast], hasked.identified, ?_, before, hbefore, hnew⟩
  rcases heffect with hkept | ⟨row, doc, hadded, -, hload, hreadable⟩
  · -- A repetition is not a success.
    rw [hkept, hbefore, Except.ok.injEq] at hagain
    rw [hagain] at hlast
    exact absurd hlast recorded_last_same
  · exact ⟨row, doc, event, hadded, hload, hreadable⟩

theorem prefix_of_grows {db db' : Db} (h : Relation.ReflTransGen Grows db db') :
    db.events <+: db'.events := by
  induction h with
  | refl => exact List.prefix_rfl
  | tail _ hstep ih => exact ih.trans hstep

/-- What grew from the event of one call shows it to the next. -/
theorem Declares.distinct {t u : Caller} {ids ids' : Identifiers} {e f : Record Op Res Db}
    (he : Declares t ids e) (hf : Declares u ids' f)
    (hgrown : Relation.ReflTransGen Grows e.after f.before) :
    ids.branch_id ≠ ids'.branch_id ∧ ids.run_id ≠ ids'.run_id := by
  obtain ⟨row, doc, event, hadded, hload, hreadable⟩ := he.row
  obtain ⟨before, hbefore, hnew⟩ := hf.fresh
  have hsub : e.after.events <+: f.before.events := prefix_of_grows hgrown
  have hrow : row ∈ f.before.events.in_order := by
    refine (List.mem_insertionSort _).mpr (hsub.subset ?_)
    rw [hadded]
    exact List.mem_append_right _ List.mem_cons_self
  exact hreadable.distinct
    (check_new_ok hnew doc (mem_load_all hbefore (List.mem_map_of_mem hrow) hload))

/-- **Undisturbed declarations.** In every run in which nothing comes between the
first read of a call, its append and its second read, at most one call succeeds
for each branch ID and at most one for each run ID, and a call that raises has
left no event. -/
theorem branch_creation_undisturbed (h : Run db cfg) (hu : ∀ t ∈ cfg.pool, Undisturbed t) :
    AtMostOne cfg ∧ NoneLeft cfg := by
  constructor
  -- the events only grow, so of two successes the later one's exchange saw the row of the
  -- earlier
  · refine (h.apart sem_grows).2.imp_of_mem fun {t u} ht hu' hapart a b hret hret' => ?_
    obtain ⟨ids, e, he⟩ := declares_of_returned h ht (hu t ht) hret
    obtain ⟨ids', f, hf⟩ := declares_of_returned h hu' (hu u hu') hret'
    have hdistinct : ids.branch_id ≠ ids'.branch_id ∧ ids.run_id ≠ ids'.run_id := by
      rcases hapart e he.mem f hf.mem with hgrown | hgrown
      · exact he.distinct hf hgrown
      · exact (hf.distinct he hgrown).imp Ne.symm Ne.symm
    obtain ⟨hbranch, hrun⟩ := identifiers_ok he.identified
    obtain ⟨hbranch', hrun'⟩ := identifiers_ok hf.identified
    rw [hbranch, hbranch', hrun, hrun']
    simpa using hdistinct
  -- a call that raises has either appended nothing, or read back what it appended
  · intro t ht e hraise
    have hend := h.obeys_raised create_obeys ht hraise
    rw [monitor_answers] at hend
    rcases hend with hnone | ⟨ids, before, event, reads, n, after, hasked, hanswers, hlast⟩
    · exact appended_nil h ht hnone
    · obtain ⟨read, listed, checked, e, reread, hpast, h₁, h₂, h₃, h₅, hbefore, hagain, heffect⟩ :=
        (exchange_of_asked h ht (hu t ht) hasked hanswers).exchange
      rcases heffect with hkept | ⟨row, doc, hadded, hcursor, hload, hreadable⟩
      · simp [Thread.appended, hpast, Record.appended, h₁, h₂, h₃, h₅, hkept]
      · rw [hadded, stored_events_add hcursor hbefore hload] at hagain
        exact absurd (recorded_last_ok hreadable) (hlast _ hagain)

/-! ## Two identical calls -/

/-- A call that gets the answers it needs. -/
theorem create_follows {request : Request} {ids : Identifiers} {docs checkpoints after : List Json}
    {checkpoint : Json} {cursor : ℤ} {declared : Declared} {n : ℕ} {locator : Locator}
    (hids : identifiers request = .ok ids)
    (hcorrection : validate request.correction.val LEARNING_CORRECTION_SCHEMA = .ok ())
    (hfind : find_checkpoint ids.checkpoint_id checkpoints = .ok checkpoint)
    (hvalid : validate checkpoint CHECKPOINT_SCHEMA = .ok ())
    (hdeclared : declare request ids ⟨docs, checkpoint, cursor⟩ = .ok declared)
    (hevent : validate declared.event EVENT_SCHEMA = .ok ())
    (hlast : check_recorded_last ids docs after = .ok ())
    (hlocated : locate ids ⟨docs, checkpoint, cursor⟩ declared.source_id n = .ok locator) (db db₁ db₂ : Db) :
    Follows (create_simulation_branch request)
      ([⟨.events, .ok docs, db, db⟩, ⟨.checkpoints, .ok checkpoints, db, db⟩,
        ⟨.check_checkpoint checkpoint, .ok cursor, db, db⟩] ++
        [⟨.append declared.event, .ok n, db₁, db₂⟩, ⟨.events, .ok after, db₂, db₂⟩]) (.ret locator) := by
  unfold create_simulation_branch read_source record ask
  simp only [hids, hcorrection, Prog.bind_eq, Prog.lift_ok, Prog.ret_bind, Prog.perform_bind,
    Prog.call_bind, Prog.tryCatch_eq, Prog.call_handle]
  refine .step _ _ (.step _ _ ?_)
  simp only [hfind, hvalid, Prog.lift_ok, Prog.ret_bind, Prog.call_bind, Prog.call_handle]
  refine .step _ _ ?_
  simp only [hdeclared, hevent, Prog.lift_ok, Prog.ret_bind, Prog.call_bind, Prog.call_handle,
    Prog.ret_handle, Prog.pure_eq]
  refine .step _ _ (.step _ _ ?_)
  simp only [hlast, hlocated, Prog.lift_ok, Prog.ret_bind, Prog.ret_handle]
  exact .done _

/-- The append of a fresh event, and of the same event again. -/
theorem append_log {l : Log event_kind} {event : Json} (hc : Checked event_kind event)
    (hf : event_kind.id event.norm ∉ l.docs.map event_kind.id) (checkpoints : Table) :
    method (.append event) ⟨l.table, checkpoints⟩ =
        (.ok l.docs.length, ⟨(l.add event.norm hc.stored hf).table, checkpoints⟩) ∧
      method (.append event) ⟨(l.add event.norm hc.stored hf).table, checkpoints⟩ =
        (.ok l.docs.length, ⟨(l.add event.norm hc.stored hf).table, checkpoints⟩) := by
  have hv : validate event EVENT_SCHEMA = .ok () := hc.valid
  have hp : prepare event "event_id" = .ok (digest event, event_kind.id event) := hc.prepared
  -- the first append adds the row, the second finds it and returns the same cursor
  constructor
  · have hfind : l.table.find (event_kind.id event) = none := by
      rw [Log.find_table_none, ← hc.id_norm]
      exact hf
    have hrow : (⟨event_kind.id event, l.docs.length, String.ofList (event.norm.print true),
        digest event⟩ : Row) = event_kind.row l.docs.length event.norm := by
      rw [Kind.row, hc.id_norm, digest_norm]
    have hinsert := Log.insert_table_fresh hc.stored hf
    rw [← hrow] at hinsert
    unfold method append store_record
    simp only [Prog.bind_eq, Prog.perform_bind, Prog.exec, hv, hp, answer, Db.table, hfind,
      Log.next_cursor_table, hc.dumped, Prog.lift_ok, Prog.ret_bind, hinsert, cond_true, Db.set_table]
  · have hget : (l.add event.norm hc.stored hf).docs[l.docs.length]? = some event.norm := by
      simp [Log.add]
    have hfind := Log.find_table hget
    rw [hc.id_norm, digest_norm] at hfind
    unfold method append store_record
    simp only [Prog.bind_eq, Prog.perform_bind, Prog.exec, hv, hp, answer, Db.table, hfind,
      Prog.lift_ok, Prog.ret_bind, if_true]

/-- Reading the events of a log. -/
theorem stored_events_log (l : Log event_kind) (checkpoints : Table) :
    stored_events ⟨l.table, checkpoints⟩ = .ok l.docs := by
  rw [stored_events, Log.in_order_table, Log.load_table]

/-- The fields of a recorded event. -/
def source_fields : List (PyStr × Json) :=
  [(.text "schema_version", .int 1), (.text "event_id", .str (.text "event-1")),
    (.text "event_type", .str (.text "decision_proposed")),
    (.text "process_id", .str (.text "process-1")), (.text "run_id", .str (.text "run-1")),
    (.text "branch_id", .str (.text "branch-1")), (.text "task_id", .str (.text "task-1")),
    (.text "agent_id", .str (.text "agent-1")), (.text "sequence", .int 0),
    (.text "occurred_at", .str (.text "2026-01-01T00:00:00Z")),
    (.text "recorded_at", .str (.text "2026-01-01T00:00:00Z")),
    (.text "classification", .str (.text "internal")),
    (.text "redaction_status", .str (.text "complete"))]

theorem source_fields_wf : (Json.obj source_fields).wf := by
  simp [source_fields, Json.wf, Json.wf_fields]

/-- A recorded event. -/
def source : PyValue := ⟨.obj source_fields, source_fields_wf⟩

/-- A recorded checkpoint of the event. -/
def source_checkpoint : PyValue :=
  ⟨.obj
    [(.text "schema_version", .int 1), (.text "checkpoint_id", .str (.text "checkpoint-00000001")),
      (.text "kind", .str (.text "decision")), (.text "process_id", .str (.text "process-1")),
      (.text "run_id", .str (.text "run-1")), (.text "branch_id", .str (.text "branch-1")),
      (.text "agent_id", .str (.text "agent-1")), (.text "trigger_event_id", .str (.text "event-1")),
      (.text "event_cursor", .int 0), (.text "state_ref", .str (.text "artifact://state-1")),
      (.text "completeness", .str (.text "complete")),
      (.text "restore_mode", .str (.text "simulation")),
      (.text "created_at", .str (.text "2026-01-01T00:00:00Z"))],
    by simp [Json.wf, Json.wf_fields]⟩

/-- A request to branch from the checkpoint. -/
def request_one : Request where
  checkpoint_id := .of (.text "checkpoint-00000001")
  correction :=
    ⟨.obj
      [(.text "schema_version", .int 1), (.text "correction_id", .str (.text "correction-1")),
        (.text "version", .int 1), (.text "checkpoint_id", .str (.text "checkpoint-00000001")),
        (.text "target_event_id", .str (.text "event-1")), (.text "author_id", .str (.text "human-1")),
        (.text "created_at", .str (.text "2026-01-01T00:00:00Z")),
        (.text "error_description", .str (.text "wrong")), (.text "explanation", .str (.text "why")),
        (.text "expected_action", .str (.text "right")), (.text "applicability", .str (.text "here")),
        (.text "evidence_refs", .arr [.str (.text "artifact://evidence-1")]),
        (.text "review_status", .str (.text "approved"))],
      by simp [Json.wf, Json.wf_fields, Json.wf_items]⟩
  run_id := .of (.text "run-00000001")
  branch_id := .of (.text "branch-00000001")
  clock := .ok (.at "2026-01-01T00:00:00+00:00")

/-- Its identifiers. -/
def ids_one : Identifiers := ⟨"checkpoint-00000001", "run-00000001", "branch-00000001"⟩

/-- The event it declares can be recorded, under a new ID. -/
def recordable : Except Exn Declared → Bool
  | .ok declared => decide (validate declared.event EVENT_SCHEMA = .ok ()) &&
      declared.event.encodable false && event_kind.id declared.event != "event-1"
  | .error _ => false

theorem source_checked : Checked event_kind source.val :=
  ⟨source.property, by decide +kernel, by decide +kernel⟩

theorem checkpoint_checked : Checked checkpoint_kind source_checkpoint.val :=
  ⟨source_checkpoint.property, by decide +kernel, by decide +kernel⟩

theorem request_one_recordable :
    recordable (declare request_one ids_one ⟨[source.val.norm], source_checkpoint.val.norm, 0⟩) = true := by
  decide +kernel

theorem request_one_correction :
    validate request_one.correction.val LEARNING_CORRECTION_SCHEMA = .ok () := by decide +kernel

theorem request_one_trigger :
    check_trigger [source.val.norm] source_checkpoint.val.norm = .ok 0 := by decide +kernel

theorem request_one_ids : identifiers request_one = .ok ids_one := by
  have hcheckpoint : is_identifier "checkpoint" "checkpoint-00000001" = true := by decide
  have hrun : is_identifier "run" "run-00000001" = true := by decide
  have hbranch : is_identifier "branch" "branch-00000001" = true := by decide
  simp only [identifiers, request_one, identifier_of, hcheckpoint, hrun, hbranch, if_true, ok_bind]
  rfl

/-- The table of the checkpoint. -/
def checkpoint_table : Table := (Log.empty.add _ checkpoint_checked.stored List.not_mem_nil).table

/-- The log of the source event. -/
def source_log : Log event_kind := Log.empty.add _ source_checked.stored List.not_mem_nil

/-- The source event and its checkpoint. -/
def source_db : Db := ⟨source_log.table, checkpoint_table⟩

theorem checkpoints_read {db : Db} (hdb : db.checkpoints = checkpoint_table) :
    sem db .checkpoints (.ok [source_checkpoint.val.norm]) db := by
  refine .inl ?_
  rw [method, documents_exec]
  change (load_all (db.checkpoints.in_order.map Row.json), db) = _
  rw [hdb, checkpoint_table, Log.in_order_table, Log.load_table]
  rfl

theorem request_one_checkpoint :
    find_checkpoint ids_one.checkpoint_id [source_checkpoint.val.norm] = .ok source_checkpoint.val.norm := by
  have hget : source_checkpoint.val.norm.get? "checkpoint_id" =
      some (.str (.text (checkpoint_kind.id source_checkpoint.val.norm))) :=
    checkpoint_checked.stored.get_id
  rw [checkpoint_checked.id_norm] at hget
  have hdict : source_checkpoint.val.norm.is_dict = true := rfl
  rw [find_checkpoint, get, if_pos hdict, hget]
  rfl

/-- The answers of the call: its append is accepted, and accepted again where its
event is already recorded. -/
theorem request_one_follows : ∃ event cursor after db locator,
    sem source_db .events (.ok [source.val.norm]) source_db ∧
    sem source_db .checkpoints (.ok [source_checkpoint.val.norm]) source_db ∧
    sem source_db (.check_checkpoint source_checkpoint.val.norm) (.ok 0) source_db ∧
    sem source_db (.append event) (.ok cursor) db ∧ sem db (.append event) (.ok cursor) db ∧
    sem db .events (.ok after) db ∧
    (db.checkpoints = checkpoint_table ∧ check_new ids_one after ≠ .ok ()) ∧
    ∀ db₁ db₂, Follows (create_simulation_branch request_one)
      ([⟨.events, .ok [source.val.norm], source_db, source_db⟩,
        ⟨.checkpoints, .ok [source_checkpoint.val.norm], source_db, source_db⟩,
        ⟨.check_checkpoint source_checkpoint.val.norm, .ok 0, source_db, source_db⟩] ++
        [⟨.append event, .ok cursor, db₁, db₂⟩, ⟨.events, .ok after, db₂, db₂⟩]) (.ret locator) := by
  have hrecordable := request_one_recordable
  -- the declared event is too large to write out, so it is kept as `declared`
  rcases hdeclared : declare request_one ids_one ⟨[source.val.norm], source_checkpoint.val.norm, 0⟩ with
    e | declared
  · rw [hdeclared] at hrecordable
    cases hrecordable
  rw [hdeclared] at hrecordable
  simp only [recordable, Bool.and_eq_true, decide_eq_true_eq, bne_iff_ne] at hrecordable
  obtain ⟨⟨hvalid, hencodable⟩, hid⟩ := hrecordable
  have hc := checked_of_declared hdeclared hvalid hencodable
  have hf : event_kind.id declared.event.norm ∉ source_log.docs.map event_kind.id := by
    have hsource : event_kind.id source.val.norm = "event-1" := by
      rw [source_checked.id_norm]
      rfl
    have hids : source_log.docs.map event_kind.id = ["event-1"] := by
      rw [← hsource]
      rfl
    rw [hids, hc.id_norm, List.mem_singleton]
    exact hid
  obtain ⟨hfirst, hagain⟩ := append_log hc hf checkpoint_table
  obtain ⟨locator, hlocator⟩ := @locate_ok ids_one ⟨[source.val.norm], source_checkpoint.val.norm, 0⟩
    declared.source_id source_log.docs.length checkpoint_checked.stored.valid
  have hevents : stored_events source_db = .ok [source.val.norm] := stored_events_log _ _
  refine ⟨declared.event, _, [source.val.norm] ++ [declared.event.norm], _, locator, .inl ?_, checkpoints_read rfl, .inl ?_,
    .inl hfirst, .inl hagain, .inl ?_, ⟨rfl, fun hnew => ?_⟩,
    fun db₁ db₂ => create_follows request_one_ids request_one_correction request_one_checkpoint
      checkpoint_checked.stored.valid hdeclared hvalid ?_ hlocator source_db db₁ db₂⟩
  · rw [events_method, hevents]
  · rw [check_method, hevents, check_checkpoint_shape_ok.mpr checkpoint_checked.stored.valid, ok_bind,
      ok_bind, request_one_trigger]
  · rw [events_method, stored_events_log]
    rfl
  · exact ((readable_of_declared hdeclared hc).distinct
      (check_new_ok hnew _ (List.mem_append_right _ List.mem_cons_self))).1 rfl
  · exact recorded_last_ok (readable_of_declared hdeclared hc)

/-- The operations of the call after its event is recorded: it reads, and raises. -/
theorem request_one_refused {after : List Json} (hused : check_new ids_one after ≠ .ok ()) (db : Db)
    (r : Res (.check_checkpoint source_checkpoint.val.norm)) :
    ∃ e, Follows (create_simulation_branch request_one)
      [⟨.events, .ok after, db, db⟩, ⟨.checkpoints, .ok [source_checkpoint.val.norm], db, db⟩,
        ⟨.check_checkpoint source_checkpoint.val.norm, r, db, db⟩] (.raise e) := by
  unfold create_simulation_branch read_source ask
  simp only [request_one_ids, request_one_correction, Prog.bind_eq, Prog.lift_ok, Prog.ret_bind,
    Prog.perform_bind, Prog.call_bind, Prog.tryCatch_eq, Prog.call_handle]
  rcases r with error | cursor
  · refine ⟨source_error error, .step _ _ (.step _ _ ?_)⟩
    simp only [request_one_checkpoint, Prog.lift_ok, Prog.ret_bind]
    exact .step _ _ (.done _)
  · -- The identifiers are those of the recorded event.
    obtain ⟨e, hdeclared⟩ : ∃ e, declare request_one ids_one
        ⟨after, source_checkpoint.val.norm, cursor⟩ = .error e := by
      rcases hdeclared : declare request_one ids_one ⟨after, source_checkpoint.val.norm, cursor⟩ with
        e | declared
      · exact ⟨e, rfl⟩
      · obtain ⟨_, -, h⟩ := bind_ok.mp hdeclared
        obtain ⟨_, -, h⟩ := bind_ok.mp h
        obtain ⟨_, hnew, -⟩ := bind_ok.mp h
        exact absurd hnew hused
    refine ⟨e, .step _ _ (.step _ _ ?_)⟩
    simp only [request_one_checkpoint, Prog.lift_ok, Prog.ret_bind]
    refine .step _ _ ?_
    simp only [hdeclared, Prog.lift_error, Prog.lift_ok, Prog.ret_bind, Prog.ret_handle, Prog.pure_eq]
    exact .done _

/-- Two undisturbed calls for one branch, one after the other: the first succeeds, the second
raises. -/
theorem branch_creation_undisturbed_alone : ∃ cfg : Config Request Op Res Exn Locator Db,
    (∃ locator e, cfg.pool.map Thread.status = [.running (.ret locator), .running (.raise e)]) ∧
      AtMostOne cfg ∧ NoneLeft cfg := by
  obtain ⟨event, cursor, after, db, locator, h₁, h₂, h₃, h₄, -, h₅, ⟨hdb, hused⟩, hfollows⟩ :=
    request_one_follows
  have hstart : Run source_db
      ⟨source_db, [⟨request_one, [], .running (create_simulation_branch request_one)⟩,
        ⟨request_one, [], .running (create_simulation_branch request_one)⟩]⟩ :=
    (Reachable.start .refl request_one).start request_one
  have hfirst := hstart.follow (i := 0) rfl rfl (hfollows source_db db)
    (show Chain sem source_db _ db from ⟨rfl, h₁, rfl, h₂, rfl, h₃, rfl, h₄, rfl, h₅, rfl⟩)
  -- the second call finds the identifiers of the first and stops at its reading
  obtain ⟨e, hrefused⟩ := request_one_refused hused db
    (method (.check_checkpoint source_checkpoint.val.norm) db).1
  have hsecond := hfirst.follow (i := 1) rfl rfl hrefused
    (show Chain sem db _ db from
      ⟨rfl, h₅, rfl, checkpoints_read hdb, rfl, .inl (by rw [check_method]), rfl⟩)
  refine ⟨_, ⟨locator, e, rfl⟩, branch_creation_undisturbed hsecond fun t ht => ?_⟩
  rcases List.mem_cons.mp ht with rfl | ht
  · constructor
    · rintro read e ⟨⟩ ⟨⟩ -
      rfl
    · rintro e again ⟨⟩ ⟨⟩ -
      exact ⟨rfl, after, rfl⟩
  · obtain rfl := List.mem_singleton.mp ht
    constructor
    · rintro read e ⟨⟩ ⟨⟩
    · rintro e again ⟨⟩

/-- **The declaration is not unique**: two identical calls both succeed, if one of
them records its event between the reads and the append of the other. -/
theorem identical_declarations_both_succeed :
    ∃ (db : Db) (cfg : Config Request Op Res Exn Locator Db), Run db cfg ∧
      ¬ (AtMostOne cfg ∧ NoneLeft cfg) := by
  obtain ⟨event, cursor, after, db, locator, h₁, h₂, h₃, h₄, h₄', h₅, -, hfollows⟩ := request_one_follows
  have hstart : Run source_db ⟨source_db,
      [] ++ [⟨request_one, [], .running (create_simulation_branch request_one)⟩] ++
        [⟨request_one, [], .running (create_simulation_branch request_one)⟩]⟩ :=
    (Reachable.start .refl request_one).start request_one
  -- The second call reads; the first runs to its end; the second goes on.
  obtain ⟨mid, hreads, hrest⟩ := (hfollows db db).split
  have hread := hstart.follow (i := 1) rfl rfl hreads
    (show Chain sem source_db _ source_db from ⟨rfl, h₁, rfl, h₂, rfl, h₃, rfl⟩)
  have hfirst := hread.follow (i := 0) rfl rfl (hfollows source_db db)
    (show Chain sem source_db _ db from ⟨rfl, h₁, rfl, h₂, rfl, h₃, rfl, h₄, rfl, h₅, rfl⟩)
  have hsecond := hfirst.follow (i := 1) rfl rfl hrest
    (show Chain sem db _ db from ⟨rfl, h₄', rfl, h₅, rfl⟩)
  refine ⟨source_db, _, hsecond, fun hclaim => ?_⟩
  have hpair := List.rel_of_pairwise_cons hclaim.1 (List.mem_singleton.mpr rfl) locator locator rfl rfl
  exact hpair.1 rfl

end AppContracts.SimulationBranch
