/-
What the observation store is for: a journal of documents.

A `Log` is a list of checked, sorted documents with unique IDs; its position is
a document's cursor. A `Journal` is a log of events and a log of checkpoints,
each naming an event of the first. `Journal.db` is the database that represents
it: every table is the image of a log, so what the reopening validation
re-derives from the JSON texts holds by construction.

Each statement of the store is described once, on the database of a journal.
-/
import AppContracts.ObservationStore

set_option autoImplicit false

namespace AppContracts.ObservationStore

open Interleave Validator

/-! ## Kinds of records -/

/-- A kind of stored document: its schema, and the field that holds its ID. -/
structure Kind : Type where
  schema : Schema
  key : String
  id_schema : Schema
  closed : Closed schema
  object : schema.type = some .object
  required : key ∈ schema.required
  property : schema.properties.lookup key = some id_schema
  id_string : id_schema.type = some .string

/-- Events. -/
def event_kind : Kind :=
  { schema := EVENT_SCHEMA
    key := "event_id"
    id_schema := Schemas.identifier "event"
    closed := closed_EVENT_SCHEMA
    object := rfl
    required := by simp [EVENT_SCHEMA]
    property := rfl
    id_string := rfl }

/-- Checkpoints. -/
def checkpoint_kind : Kind :=
  { schema := CHECKPOINT_SCHEMA
    key := "checkpoint_id"
    id_schema := Schemas.identifier "checkpoint"
    closed := closed_CHECKPOINT_SCHEMA
    object := rfl
    required := by simp [CHECKPOINT_SCHEMA]
    property := rfl
    id_string := rfl }

/-- The kind of a table's records. -/
def kind : TableName → Kind
  | .observation_events => event_kind
  | .observation_checkpoints => checkpoint_kind

variable {k : Kind}

/-- The ID of a document. -/
def Kind.id (k : Kind) (doc : Json) : String :=
  match doc.get? k.key with
  | some (.str (.text s)) => s
  | _ => ""

/-- A document that passed the checks of its kind. -/
structure Checked (k : Kind) (doc : Json) : Prop where
  wf : doc.wf
  valid : validate doc k.schema = .ok ()
  encodable : doc.encodable false = true

/-- The digest of a checked document. -/
def digest (doc : Json) : String := sha256_bytes (canonical_bytes doc)

theorem encodable_get {ascii : Bool} {doc v : Json} {key : String}
    (he : doc.encodable ascii = true) (hg : doc.get? key = some v) : v.encodable ascii = true := by
  cases doc with
  | obj fields => exact (Json.encodable_fields_iff.mp he _ (mem_of_lookup hg)).2
  | _ => simp [Json.get?] at hg

namespace Checked

variable {doc : Json}

theorem plain (h : Checked k doc) : doc.plain := k.closed.plain h.valid h.encodable

/-- The ID field holds the ID. -/
theorem get_id (h : Checked k doc) : doc.get? k.key = some (.str (.text (k.id doc))) := by
  obtain ⟨v, hv⟩ := required_field k.object h.valid k.required
  obtain ⟨s, rfl, -⟩ := string_valid k.id_string (field_valid h.valid hv k.property)
  have he := encodable_get h.encodable hv
  cases s with
  | text s => simp [Kind.id, hv]
  | surrogates codes lone => simp [Json.encodable, Json.encodable_str] at he

theorem item_id (h : Checked k doc) : item doc k.key = .ok (.str (.text (k.id doc))) := by
  simp [item, h.get_id]

theorem str_item_id (h : Checked k doc) : str_item doc k.key = .ok (.text (k.id doc)) := by
  simp [str_item, h.get_id]

theorem sha256 (h : Checked k doc) : sha256_digest doc = .ok (digest doc) :=
  sha256_digest_ok.mpr ⟨h.encodable, rfl⟩

theorem prepared (h : Checked k doc) : prepare doc k.key = .ok (digest doc, k.id doc) := by
  simp [prepare, h.sha256, bound_item, h.str_item_id, bind_text, bind, Except.bind, pure,
    Except.pure]

theorem norm (h : Checked k doc) : Checked k doc.norm :=
  ⟨Json.wf_norm h.wf, (validate_norm doc k.schema).mpr h.valid,
    Json.encodable_norm.trans h.encodable⟩

/-- Sorting the keys keeps the ID. -/
theorem id_norm (h : Checked k doc) : k.id doc.norm = k.id doc := by
  have hget := Json.get?_norm h.wf k.key
  rw [h.get_id, h.norm.get_id] at hget
  simpa [Json.norm] using hget

end Checked

theorem digest_norm (doc : Json) : digest doc.norm = digest doc := by
  rw [digest, digest, canonical_bytes, canonical_bytes, Json.norm_norm]

/-- A prepared document was checked, and `prepare` gave its digest and ID. -/
theorem prepare_ok {doc : Json} {d id : String} (hw : doc.wf)
    (hv : validate doc k.schema = .ok ()) (h : prepare doc k.key = .ok (d, id)) :
    Checked k doc ∧ d = digest doc ∧ id = k.id doc := by
  have hc : Checked k doc := by
    refine ⟨hw, hv, ?_⟩
    cases he : doc.encodable false with
    | true => rfl
    | false => simp [prepare, sha256_digest_error he, bind, Except.bind] at h
  rw [hc.prepared] at h
  simp only [Except.ok.injEq, Prod.mk.injEq] at h
  exact ⟨hc, h.1.symm, h.2.symm⟩

/-- A document with its keys sorted, as it is read back. -/
structure Stored (k : Kind) (doc : Json) : Prop extends Checked k doc where
  sorted : doc.norm = doc

theorem Checked.stored {doc : Json} (h : Checked k doc) : Stored k doc.norm :=
  ⟨h.norm, Json.norm_norm doc⟩

/-- The text of a stored document reads back. -/
theorem Stored.loads {doc : Json} (h : Stored k doc) :
    Json.loads (String.ofList (doc.print true)) = some doc := by
  have hload := Json.loads_print true h.wf h.plain h.encodable
  rwa [h.sorted] at hload

/-- The text an insert writes is that of the stored document. -/
theorem Checked.dumped {doc : Json} (h : Checked k doc) :
    dump doc = .ok (String.ofList (doc.norm.print true)) := by
  simp [dump, Json.dumps, Json.encodable_ascii h.encodable]

/-! ## Logs -/

/-- An append-only list of stored documents with unique IDs. -/
structure Log (k : Kind) : Type where
  docs : List Json
  stored : ∀ doc ∈ docs, Stored k doc
  ids : (docs.map k.id).Nodup

/-- The row of a document at a cursor. -/
def Kind.row (k : Kind) (cursor : ℕ) (doc : Json) : Row :=
  ⟨k.id doc, cursor, String.ofList (doc.print true), digest doc⟩

namespace Log

/-- The log without documents. -/
def empty : Log k := ⟨[], by simp, by simp⟩

/-- The log with one more document. -/
def add (l : Log k) (doc : Json) (hs : Stored k doc) (hf : k.id doc ∉ l.docs.map k.id) : Log k where
  docs := l.docs ++ [doc]
  stored := List.forall_mem_append.mpr ⟨l.stored, by simpa using hs⟩
  ids := by
    rw [List.map_append, List.map_singleton, List.nodup_append]
    refine ⟨l.ids, List.nodup_singleton _, ?_⟩
    rintro a ha b hb rfl
    exact hf (List.mem_singleton.mp hb ▸ ha)

/-- The table that represents a log: a document's position is its cursor. -/
def table (l : Log k) : Table := l.docs.mapIdx k.row

theorem length_table (l : Log k) : l.table.length = l.docs.length := List.length_mapIdx

theorem table_getElem? (l : Log k) (i : ℕ) : l.table[i]? = (l.docs[i]?).map (k.row i) :=
  List.getElem?_mapIdx

theorem mem_table {l : Log k} {row : Row} :
    row ∈ l.table ↔ ∃ i doc, l.docs[i]? = some doc ∧ k.row i doc = row := by
  rw [List.mem_iff_getElem?]
  simp only [table_getElem?, Option.map_eq_some_iff]

theorem cursors (l : Log k) : l.table.map Row.cursor = List.range l.docs.length := by
  refine List.ext_getElem? fun i => ?_
  rw [List.getElem?_map, table_getElem?, Option.map_map]
  rcases Nat.lt_or_ge i l.docs.length with h | h
  · simp [h, Kind.row]
  · simp [h]

theorem row_ids (l : Log k) : l.table.map Row.id = l.docs.map k.id := by
  refine List.ext_getElem? fun i => ?_
  rw [List.getElem?_map, table_getElem?, Option.map_map, List.getElem?_map]
  rfl

/-- `ORDER BY cursor` is the order of the log. -/
theorem in_order_table (l : Log k) : l.table.in_order = l.table := by
  have hsorted : List.Pairwise (fun a b : Row => a.cursor ≤ b.cursor) l.table := by
    have hrange : List.Pairwise (· ≤ ·) (l.table.map Row.cursor) := by
      rw [cursors]
      exact List.pairwise_le_range
    exact List.pairwise_map.mp hrange
  exact hsorted.insertionSort_eq

theorem next_cursor_table (l : Log k) : l.table.next_cursor = l.docs.length := by
  have hmax : ∀ n, (List.range n).foldl (fun m c => max m (c + 1)) 0 = n := by
    intro n
    induction n with
    | zero => rfl
    | succ n ih =>
      rw [List.range_succ, List.foldl_append, ih]
      simp
  rw [Table.next_cursor, ← List.foldl_map (f := Row.cursor) (g := fun m c => max m (c + 1)),
    cursors, hmax]

/-- The texts of a log read back as its documents. -/
theorem load_table (l : Log k) : load_all (l.table.map Row.json) = .ok l.docs := by
  have htexts : l.table.map Row.json = l.docs.map fun doc => String.ofList (doc.print true) := by
    refine List.ext_getElem? fun i => ?_
    rw [List.getElem?_map, table_getElem?, Option.map_map, List.getElem?_map]
    rfl
  have hload : ∀ docs : List Json, (∀ doc ∈ docs, Stored k doc) →
      load_all (docs.map fun doc => String.ofList (doc.print true)) = .ok docs := by
    intro docs
    induction docs with
    | nil => exact fun _ => rfl
    | cons doc docs ih =>
      intro h
      rw [List.map_cons, load_all, (h doc (by simp)).loads]
      simp only [ih fun d hd => h d (by simp [hd])]
      rfl
  rw [htexts, hload l.docs l.stored]

/-- Looking an ID up finds the document that has it, at its position. -/
theorem find_table {l : Log k} {i : ℕ} {doc : Json} (h : l.docs[i]? = some doc) :
    l.table.find (k.id doc) = some (i, digest doc) := by
  have hmem : k.row i doc ∈ l.table := mem_table.mpr ⟨i, doc, h, rfl⟩
  have hids : (l.table.map Row.id).Nodup := by
    rw [row_ids]
    exact l.ids
  have hfind : l.table.find? (fun row => row.id = k.id doc) = some (k.row i doc) := by
    cases hr : l.table.find? (fun row => row.id = k.id doc) with
    | none => simpa [Kind.row] using List.find?_eq_none.mp hr _ hmem
    | some row =>
      have hid : row.id = k.id doc := by simpa using List.find?_some hr
      rw [List.inj_on_of_nodup_map hids (List.mem_of_find?_eq_some hr) hmem hid]
  rw [Table.find, hfind]
  rfl

/-- Looking up an ID that no document has finds nothing. -/
theorem find_table_none {l : Log k} {id : String} :
    l.table.find id = none ↔ id ∉ l.docs.map k.id := by
  rw [Table.find, Option.map_eq_none_iff, List.find?_eq_none, ← row_ids, List.mem_map]
  simp

/-- An insert at a cursor that was free when it was read: it appends the
document at that cursor, or ID or cursor are taken. -/
theorem insert_table {l : Log k} {doc : Json} (hs : Stored k doc) {cursor : ℕ}
    (hc : cursor ≤ l.docs.length) {table : Table}
    (h : l.table.insert (k.row cursor doc) = some table) :
    cursor = l.docs.length ∧ ∃ hf : k.id doc ∉ l.docs.map k.id, table = (l.add doc hs hf).table := by
  unfold Table.insert at h
  split_ifs at h with htaken
  simp only [List.any_eq_true, decide_eq_true_eq, not_exists, not_and, not_or] at htaken
  have hcursor : cursor = l.docs.length := by
    by_contra hne
    have hlt : cursor ∈ l.table.map Row.cursor := by
      rw [cursors, List.mem_range]
      omega
    obtain ⟨row, hrow, heq⟩ := List.mem_map.mp hlt
    exact (htaken row hrow).2 heq
  subst hcursor
  refine ⟨rfl, ?_, ?_⟩
  · rw [← row_ids, List.mem_map]
    rintro ⟨row, hrow, heq⟩
    exact (htaken row hrow).1 heq
  · obtain rfl := Option.some.inj h
    simp [table, add, List.mapIdx_append]

/-- The insert of a fresh document at the next cursor succeeds. -/
theorem insert_table_fresh {l : Log k} {doc : Json} (hs : Stored k doc)
    (hf : k.id doc ∉ l.docs.map k.id) :
    l.table.insert (k.row l.docs.length doc) = some (l.add doc hs hf).table := by
  have hfree : ¬ l.table.any (fun r => r.id = k.id doc ∨ r.cursor = l.docs.length) = true := by
    simp only [List.any_eq_true, decide_eq_true_eq, not_exists, not_and, not_or]
    intro row hrow
    have hcursor : row.cursor ∈ l.table.map Row.cursor := List.mem_map_of_mem hrow
    rw [cursors, List.mem_range] at hcursor
    refine ⟨fun heq => hf ?_, by omega⟩
    rw [← row_ids, ← heq]
    exact List.mem_map_of_mem hrow
  have htable : (l.add doc hs hf).table = l.table ++ [k.row l.docs.length doc] := by
    simp [table, add, List.mapIdx_append]
  rw [Table.insert, htable]
  exact if_neg hfree

/-- The table determines the log. -/
theorem table_inj {l l' : Log k} (h : l.table = l'.table) : l.docs = l'.docs := by
  have hload := l.load_table
  rw [h, l'.load_table] at hload
  exact (Except.ok.inj hload).symm

end Log

/-! ## Journals -/

/-- A log of events and a log of checkpoints, each checked against the
events. -/
structure Journal : Type where
  events : Log event_kind
  checkpoints : Log checkpoint_kind
  anchored : ∀ c ∈ checkpoints.docs, ∃ cursor, check_trigger events.docs c = .ok cursor

namespace Journal

/-- The database that represents a journal. -/
def db (j : Journal) : Db := ⟨j.events.table, j.checkpoints.table⟩

/-- The log of a table. -/
def log (j : Journal) : (name : TableName) → Log (kind name)
  | .observation_events => j.events
  | .observation_checkpoints => j.checkpoints

@[simp] theorem table_db (j : Journal) (name : TableName) :
    j.db.table name = (j.log name).table := by
  cases name <;> rfl

/-- The journal of a fresh database. -/
def empty : Journal := ⟨Log.empty, Log.empty, by simp [Log.empty]⟩

theorem db_empty : empty.db = Db.empty := rfl

theorem db_inj {j j' : Journal} (h : j.db = j'.db) (name : TableName) :
    (j.log name).docs = (j'.log name).docs := by
  refine Log.table_inj ?_
  rw [← table_db, ← table_db, h]

/-- A journal that extends another: both logs only grew. -/
def Extends (j j' : Journal) : Prop := ∀ name, (j.log name).docs <+: (j'.log name).docs

theorem Extends.refl (j : Journal) : j.Extends j := fun _ => List.prefix_rfl

theorem Extends.trans {a b c : Journal} (h₁ : a.Extends b) (h₂ : b.Extends c) : a.Extends c :=
  fun name => (h₁ name).trans (h₂ name)

/-- A document keeps its position. -/
theorem Extends.get {j j' : Journal} (h : j.Extends j') {name : TableName} {i : ℕ} {doc : Json}
    (hi : (j.log name).docs[i]? = some doc) : (j'.log name).docs[i]? = some doc := by
  obtain ⟨rest, hrest⟩ := h name
  obtain ⟨hlt, -⟩ := List.getElem?_eq_some_iff.mp hi
  rw [← hrest, List.getElem?_append_left hlt]
  exact hi

end Journal

/-! ## Checks against a growing journal -/

/-- The search finds the first event with the ID. -/
theorem find_event_append {trigger : Json} {events more : List Json} {start : ℕ}
    {found : ℕ × Json} (h : find_event trigger events start = .ok (some found)) :
    find_event trigger (events ++ more) start = .ok (some found) := by
  induction events generalizing start with
  | nil => simp [find_event] at h
  | cons stored rest ih =>
    rw [List.cons_append]
    unfold find_event at h ⊢
    cases hid : item stored "event_id" with
    | error e => simp [hid, bind, Except.bind] at h
    | ok id =>
      simp only [hid, bind, Except.bind] at h ⊢
      split_ifs at h ⊢ with heq
      · exact h
      · exact ih h

/-- The event a search finds, at its position, with the ID that was looked
for. -/
theorem find_event_get {trigger : Json} {events : List Json} {start position : ℕ} {event : Json}
    (h : find_event trigger events start = .ok (some (position, event))) :
    ∃ i id, position = start + i ∧ events[i]? = some event ∧ item event "event_id" = .ok id ∧
      py_eq id trigger = true := by
  induction events generalizing start with
  | nil => simp [find_event] at h
  | cons stored rest ih =>
    unfold find_event at h
    obtain ⟨id, hid, h⟩ := bind_ok.mp h
    split_ifs at h with heq
    · simp only [Except.ok.injEq, Option.some.injEq, Prod.mk.injEq] at h
      obtain ⟨rfl, rfl⟩ := h
      exact ⟨0, id, rfl, rfl, hid, heq⟩
    · obtain ⟨i, id', rfl, hget, hrest⟩ := ih h
      exact ⟨i + 1, id', by omega, hget, hrest⟩

theorem item_ok {doc v : Json} {key : String} : item doc key = .ok v ↔ doc.get? key = some v := by
  unfold item
  cases doc.get? key <;> simp

/-- What a passed check says: the trigger is the event at the checkpoint's
cursor, and they agree on process, run and branch. -/
theorem check_trigger_ok {events : List Json} {checkpoint : Json} {cursor : ℤ} :
    check_trigger events checkpoint = .ok cursor ↔
      ∃ trigger position trigger_event,
        item checkpoint "trigger_event_id" = .ok trigger ∧
        find_event trigger events 0 = .ok (some (position, trigger_event)) ∧
        check_trigger_field trigger_event checkpoint "process_id" = .ok () ∧
        check_trigger_field trigger_event checkpoint "run_id" = .ok () ∧
        check_trigger_field trigger_event checkpoint "branch_id" = .ok () ∧
        cursor_item checkpoint = .ok cursor ∧ cursor < events.length ∧ cursor = position := by
  unfold check_trigger
  rw [bind_ok]
  refine exists_congr fun trigger => ?_
  cases htrigger : item checkpoint "trigger_event_id" with
  | error e => simp
  | ok t =>
    cases hfind : find_event trigger events 0 with
    | error e => simp [bind, Except.bind]
    | ok found =>
      cases found with
      | none => simp [bind, Except.bind]
      | some found =>
        obtain ⟨position, trigger_event⟩ := found
        simp only [bind_ok, Except.ok.injEq, exists_eq_left', Option.some.injEq,
          Prod.mk.injEq]
        constructor
        · rintro ⟨rfl, u, h₁, u', h₂, u'', h₃, n, h₄, h₅⟩
          -- the cursor is compared with the length first, then with the position found
          split_ifs at h₅ with hlen hpos
          obtain rfl := Except.ok.inj h₅
          exact ⟨position, trigger_event, rfl, ⟨rfl, rfl⟩, h₁, h₂, h₃, h₄, by omega,
            by simpa using hpos⟩
        · rintro ⟨_, _, rfl, ⟨rfl, rfl⟩, h₁, h₂, h₃, h₄, h₅, h₆⟩
          refine ⟨rfl, (), h₁, (), h₂, (), h₃, cursor, h₄, ?_⟩
          rw [if_neg (by omega), if_neg (by simpa using h₆)]

/-- **What a checkpoint was checked against stays true of a longer journal.** -/
theorem check_trigger_append {checkpoint : Json} {events more : List Json} {cursor : ℤ}
    (h : check_trigger events checkpoint = .ok cursor) :
    check_trigger (events ++ more) checkpoint = .ok cursor := by
  obtain ⟨trigger, position, trigger_event, ht, hfind, h₁, h₂, h₃, hc, hlt, hpos⟩ :=
    check_trigger_ok.mp h
  refine check_trigger_ok.mpr ⟨trigger, position, trigger_event, ht, find_event_append hfind,
    h₁, h₂, h₃, hc, ?_, hpos⟩
  rw [List.length_append]
  omega

/-! ## Checks and key order -/

/-- A checkpoint that passed the first checks. -/
theorem check_checkpoint_shape_ok {checkpoint : Json} :
    check_checkpoint_shape checkpoint = .ok () ↔ validate checkpoint CHECKPOINT_SCHEMA = .ok () := by
  unfold check_checkpoint_shape
  constructor
  · intro h
    split_ifs at h with hd
    exact h
  · intro h
    obtain ⟨fields, rfl⟩ := object_valid rfl h
    exact h

/-- A leaf under a key stays there when the keys are sorted. -/
theorem item_norm {doc v : Json} {key : String} (hw : doc.wf) (hg : doc.get? key = some v)
    (hv : v.norm = v) : item doc.norm key = item doc key := by
  simp [item, Json.get?_norm hw, hg, hv]

/-- Sorting the keys of a checkpoint does not change its check. -/
theorem check_trigger_norm {events : List Json} {checkpoint : Json} (hw : checkpoint.wf)
    (hs : check_checkpoint_shape checkpoint = .ok ()) :
    check_trigger events checkpoint.norm = check_trigger events checkpoint := by
  have hv := check_checkpoint_shape_ok.mp hs
  have hstr : ∀ key sub, key ∈ CHECKPOINT_SCHEMA.required →
      CHECKPOINT_SCHEMA.properties.lookup key = some sub → sub.type = some .string →
      item checkpoint.norm key = item checkpoint key := by
    intro key sub hr hp ht
    obtain ⟨s, hg⟩ := string_field rfl hv hr hp ht
    exact item_norm hw hg rfl
  obtain ⟨n, hn⟩ : ∃ n, checkpoint.get? "event_cursor" = some (.int n) :=
    integer_field rfl hv (by simp [CHECKPOINT_SCHEMA]) rfl rfl
  have hcursor : cursor_item checkpoint.norm = cursor_item checkpoint := by
    rw [cursor_item, cursor_item, item_norm hw hn rfl]
  have htrigger := hstr "trigger_event_id" _ (by simp [CHECKPOINT_SCHEMA]) rfl rfl
  have hprocess := hstr "process_id" _ (by simp [CHECKPOINT_SCHEMA]) rfl rfl
  have hrun := hstr "run_id" _ (by simp [CHECKPOINT_SCHEMA]) rfl rfl
  have hbranch := hstr "branch_id" _ (by simp [CHECKPOINT_SCHEMA]) rfl rfl
  simp only [check_trigger, check_trigger_field, htrigger, hprocess, hrun, hbranch, hcursor]

end AppContracts.ObservationStore
