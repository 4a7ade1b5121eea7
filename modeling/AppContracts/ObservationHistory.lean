/-
The integrity of the observation journal under any interleaving.

Every database a run reaches represents a `Journal`, and runs only extend it
(`Sound`, `Grows`). The methods are described by the record they leave: a call
that returns a cursor has its record there, a call that raises wrote nothing.
The monitor counts the writes a worker committed.

Most of the module is `body_safe`, one lemma for each method, each put together from
`insert_spec`: a statement that inserts is refused, or adds one row at the cursor that was
read. Opening is the method that needs care. Its validation reads one table after the
other while others write, so that it never sees one state of the journal: the rows of
the first table are checked by themselves, and those of the second one against a journal
that has grown since, by induction on the rows for every later journal
(`check_checkpoint_rows_safe`).
-/
import AppContracts.ObservationJournal

set_option autoImplicit false

namespace AppContracts.ObservationStore

open Interleave Validator

namespace Journal

/-- The journal with one more event. -/
def add_event (j : Journal) (doc : Json) (hs : Stored event_kind doc)
    (hf : event_kind.id doc ∉ j.events.docs.map event_kind.id) : Journal where
  events := j.events.add doc hs hf
  checkpoints := j.checkpoints
  anchored c hc := by
    obtain ⟨cursor, hcursor⟩ := j.anchored c hc
    exact ⟨cursor, check_trigger_append hcursor⟩

/-- The journal with one more checkpoint. -/
def add_checkpoint (j : Journal) (doc : Json) (hs : Stored checkpoint_kind doc)
    (hf : checkpoint_kind.id doc ∉ j.checkpoints.docs.map checkpoint_kind.id)
    (ha : ∃ cursor, check_trigger j.events.docs doc = .ok cursor) : Journal where
  events := j.events
  checkpoints := j.checkpoints.add doc hs hf
  anchored := List.forall_mem_append.mpr ⟨j.anchored, by simpa using ha⟩

theorem extends_add_event (j : Journal) {doc : Json} (hs : Stored event_kind doc)
    (hf : event_kind.id doc ∉ j.events.docs.map event_kind.id) :
    j.Extends (j.add_event doc hs hf) := by
  intro name
  cases name with
  | observation_events => exact List.prefix_append _ _
  | observation_checkpoints => exact List.prefix_rfl

theorem extends_add_checkpoint (j : Journal) {doc : Json} (hs : Stored checkpoint_kind doc)
    (hf : checkpoint_kind.id doc ∉ j.checkpoints.docs.map checkpoint_kind.id)
    (ha : ∃ cursor, check_trigger j.events.docs doc = .ok cursor) :
    j.Extends (j.add_checkpoint doc hs hf ha) := by
  intro name
  cases name with
  | observation_events => exact List.prefix_rfl
  | observation_checkpoints => exact List.prefix_append _ _

/-- A checkpoint the events of a journal bear out. -/
def Anchors (j : Journal) (checkpoint : Json) : Prop :=
  ∃ cursor, check_trigger j.events.docs checkpoint = .ok cursor

theorem Anchors.mono {j j' : Journal} {checkpoint : Json} (h : j.Anchors checkpoint)
    (hj : j.Extends j') : j'.Anchors checkpoint := by
  obtain ⟨cursor, hc⟩ := h
  obtain ⟨more, hmore⟩ := hj .observation_events
  refine ⟨cursor, ?_⟩
  change check_trigger (j'.log .observation_events).docs checkpoint = _
  rw [← hmore]
  exact check_trigger_append hc

/-- The record of a document under its ID: the cursor, and the same digest. -/
def Recorded (j : Journal) (name : TableName) (doc : Json) (cursor : ℕ) : Prop :=
  ∃ stored, (j.log name).docs[cursor]? = some stored ∧
    (kind name).id stored = (kind name).id doc ∧ digest stored = digest doc

theorem Recorded.mono {j j' : Journal} {name : TableName} {doc : Json} {cursor : ℕ}
    (h : j.Recorded name doc cursor) (hj : j.Extends j') : j'.Recorded name doc cursor := by
  obtain ⟨stored, hs, hrest⟩ := h
  exact ⟨stored, hj.get hs, hrest⟩

end Journal

/-! ## The invariant -/

/-- The database represents a journal. -/
def Sound (db : Db) : Prop := ∃ j : Journal, db = j.db

/-- The journal only grows. -/
def Grows (db db' : Db) : Prop := ∃ j j' : Journal, db = j.db ∧ db' = j'.db ∧ j.Extends j'

theorem Grows.run {j : Journal} {db : Db} (h : Relation.ReflTransGen Grows j.db db) :
    ∃ j' : Journal, db = j'.db ∧ j.Extends j' := by
  induction h with
  | refl => exact ⟨j, rfl, .refl j⟩
  | tail _ hs ih =>
    obtain ⟨a, rfl, ha⟩ := ih
    obtain ⟨b, c, hb, rfl, hbc⟩ := hs
    refine ⟨c, rfl, fun name => ?_⟩
    have hsame := Journal.db_inj hb name
    exact (ha name).trans (hsame ▸ hbc name)

/-- The writes an operation committed. -/
def writes : (op : Op) → Res op → ℕ
  | .insert _ _, true => 1
  | .insert_pair _ _, some _ => 1
  | .insert_once _ _ _ _ _, .ok (some _) => 1
  | _, _ => 0

/-- The monitor of a worker's writes. -/
def count_writes (n : ℕ) (op : Op) (r : Res op) : ℕ := n + writes op r

/-- An operation that committed no write changed nothing. -/
theorem unchanged_of_no_write {db db' : Db} {op : Op} {r : Res op} (h : sem db op r db')
    (hw : writes op r = 0) : db' = db := by
  rcases h with h | ⟨-, rfl⟩
  -- only the three insertions write, and each says in its answer whether it did
  · cases op with
    | rows name => exact (Prod.mk.inj h).2.symm
    | find name id => exact (Prod.mk.inj h).2.symm
    | next_cursor name => exact (Prod.mk.inj h).2.symm
    | insert name row =>
      simp only [answer] at h
      split at h
      · obtain ⟨rfl, rfl⟩ := Prod.mk.inj h
        simp [writes] at hw
      · exact (Prod.mk.inj h).2.symm
    | insert_pair checkpoint intent =>
      simp only [answer] at h
      split at h
      · obtain ⟨rfl, rfl⟩ := Prod.mk.inj h
        simp [writes] at hw
      · exact (Prod.mk.inj h).2.symm
    | insert_once checkpoint d intent id d' =>
      simp only [answer] at h
      split at h
      · obtain ⟨rfl, rfl⟩ := Prod.mk.inj h
        simp [writes] at hw
      · exact (Prod.mk.inj h).2.symm
      · exact (Prod.mk.inj h).2.symm
  · rfl

/-! ## Rules for code of the store -/

section Rules

variable {α β : Type} {m n : ℕ} {j : Journal}

/-- A postcondition about the journal at the end. -/
def Ends (P : ℕ → α → Journal → Prop) (m : ℕ) (a : α) (db : Db) : Prop :=
  ∃ j : Journal, db = j.db ∧ P m a j

/-- Code of the store, run from a journal among connections that extend it. -/
abbrev StoreSafe (Q : ℕ → α → Journal → Prop) (X : ℕ → Exn → Journal → Prop) (m : ℕ)
    (p : Program α) (j : Journal) : Prop :=
  Safe sem Sound Grows count_writes (Ends Q) (Ends X) m p j.db

variable {Q : ℕ → α → Journal → Prop} {X : ℕ → Exn → Journal → Prop}

theorem ret_safe {a : α} (h : ∀ j', j.Extends j' → Q m a j') : StoreSafe Q X m (.ret a) j := by
  intro db _ hg
  obtain ⟨j', rfl, hj⟩ := Grows.run hg
  exact ⟨j', rfl, h j' hj⟩

theorem raise_safe {e : Exn} (h : ∀ j', j.Extends j' → X m e j') :
    StoreSafe Q X m (.raise e : Program α) j := by
  intro db _ hg
  obtain ⟨j', rfl, hj⟩ := Grows.run hg
  exact ⟨j', rfl, h j' hj⟩

/-- A pure check before more code. -/
theorem check_safe {x : Except Exn β} {f : β → Program α}
    (herr : ∀ e, x = .error e → ∀ j', j.Extends j' → X m e j')
    (hok : ∀ b, x = .ok b → StoreSafe Q X m (f b) j) :
    StoreSafe Q X m ((Prog.lift x).bind f) j := by
  cases x with
  | error e => exact raise_safe (herr e rfl)
  | ok b => exact hok b rfl

/-- An operation: what it can answer on the journal of the moment, and the
journal it leaves. -/
theorem call_safe {op : Op} {next : Res op → Program α}
    (h : ∀ j₁, j.Extends j₁ → ∀ r db, sem j₁.db op r db → ∃ j₂ : Journal,
      db = j₂.db ∧ j₁.Extends j₂ ∧ StoreSafe Q X (m + writes op r) (next r) j₂) :
    StoreSafe Q X m (.call op next) j := by
  intro db _ hg r db' hs
  obtain ⟨j₁, rfl, hj⟩ := Grows.run hg
  obtain ⟨j₂, rfl, hj₂, hnext⟩ := h j₁ hj r db' hs
  exact ⟨⟨j₂, rfl⟩, ⟨j₁, j₂, rfl, rfl, hj₂⟩, hnext⟩

/-- A statement that reads. -/
theorem read_safe {op : Op} {next : Res op → Program α} (hr : refused op = none)
    (hw : ∀ r, writes op r = 0) (hread : ∀ db, (answer op db).2 = db)
    (h : ∀ j₁, j.Extends j₁ → StoreSafe Q X m (next (answer op j₁.db).1) j₁) :
    StoreSafe Q X m (.call op next) j := by
  refine call_safe fun j₁ hj r db hs => ?_
  rcases hs with hs | ⟨hs, -⟩
  · have hdb : db = j₁.db := by rw [← hread j₁.db, hs]
    have hr : r = (answer op j₁.db).1 := by rw [hs]
    subst hdb hr
    refine ⟨j₁, rfl, .refl j₁, ?_⟩
    rw [hw, Nat.add_zero]
    exact h j₁ hj
  · rw [hr] at hs
    cases hs

/-- Sequencing: the rest runs from a journal that extends the first one. -/
theorem bind_safe {p : Program β} {f : β → Program α} {R : ℕ → β → Journal → Prop}
    (hp : StoreSafe R X m p j) (hf : ∀ n b j', j.Extends j' → R n b j' → StoreSafe Q X n (f b) j') :
    StoreSafe Q X m (p.bind f) j := by
  refine Safe.bind (hp.along.mono ?_ fun _ _ _ h => h.1)
  rintro n b _ ⟨⟨j', rfl, hR⟩, hg⟩
  obtain ⟨j'', heq, hj⟩ := Grows.run hg
  refine hf n b j' (fun name => ?_) hR
  rw [Journal.db_inj heq name]
  exact hj name

end Rules

/-! ## The methods -/

section Methods

variable {m : ℕ} {j : Journal}

/-- A failed call wrote nothing. -/
abbrev Untouched (m : ℕ) (n : ℕ) (_ : Exn) (_ : Journal) : Prop := n = m

/-- `events()` and `checkpoints()` return the documents of the moment. -/
theorem documents_safe (name : TableName) {X : ℕ → Exn → Journal → Prop} :
    StoreSafe (fun n docs j' => n = m ∧ (j.log name).docs <+: docs ∧ docs <+: (j'.log name).docs)
      X m (documents name) j := by
  unfold documents
  simp only [Prog.bind_eq, Prog.perform_bind]
  refine read_safe rfl (fun _ => rfl) (fun _ => rfl) fun j₁ hj => ?_
  simp only [answer, Journal.table_db, Log.in_order_table, Log.load_table, Prog.lift_ok]
  exact ret_safe fun j₂ hj₂ => ⟨rfl, hj name, hj₂ name⟩

/-- A checkpoint that passes `check_checkpoint` is anchored; one that is
anchored passes. -/
theorem check_recorded_safe (checkpoint : Json) :
    StoreSafe (fun n _ j' => n = m ∧ check_checkpoint_shape checkpoint = .ok () ∧
        j'.Anchors checkpoint)
      (fun n _ _ => n = m ∧ ¬ (check_checkpoint_shape checkpoint = .ok () ∧ j.Anchors checkpoint))
      m (check_recorded checkpoint) j := by
  unfold check_recorded
  simp only [Prog.bind_eq]
  refine check_safe (fun e he j' _ => ⟨rfl, fun h => by simp [he] at h⟩) fun _ hshape => ?_
  refine bind_safe (documents_safe .observation_events) ?_
  rintro _ docs j' - ⟨rfl, hold, hnew⟩
  cases hcheck : check_trigger docs checkpoint with
  | error e =>
    refine raise_safe fun _ _ => ⟨rfl, ?_⟩
    rintro ⟨-, cursor, hc⟩
    obtain ⟨more, rfl⟩ := hold
    have hlonger := @check_trigger_append _ _ more _ hc
    exact nomatch hlonger.symm.trans hcheck
  | ok cursor =>
    refine ret_safe fun j'' hj => ⟨rfl, hshape, cursor, ?_⟩
    obtain ⟨more, hmore⟩ := hnew.trans (hj .observation_events)
    change check_trigger (j''.log .observation_events).docs checkpoint = _
    rw [← hmore]
    exact check_trigger_append hcheck

/-- What an insert of a checked document needs of the journal. -/
def Insertable (j : Journal) : (name : TableName) → Json → Prop
  | .observation_events, _ => True
  | .observation_checkpoints, doc => j.Anchors doc

theorem Insertable.mono {j' : Journal} {name : TableName} {doc : Json} (h : Insertable j name doc)
    (hj : j.Extends j') : Insertable j' name doc := by
  cases name with
  | observation_events => trivial
  | observation_checkpoints => exact Journal.Anchors.mono h hj

/-- **An insert of a checked document** at a cursor read before: refused, or the
journal has the document at that cursor. -/
theorem insert_spec (name : TableName) {doc : Json} (hs : Stored (kind name) doc)
    (hi : Insertable j name doc) {cursor : ℕ} (hc : cursor ≤ (j.log name).docs.length) {r : Bool}
    {db : Db} (h : sem j.db (.insert name ((kind name).row cursor doc)) r db) :
    (r = false ∧ db = j.db) ∨ (r = true ∧ ∃ j' : Journal, db = j'.db ∧ j.Extends j' ∧
      (j'.log name).docs[cursor]? = some doc) := by
  rcases h with h | ⟨h, rfl⟩
  · simp only [answer, Journal.table_db] at h
    split at h
    · rename_i table htable
      obtain ⟨rfl, rfl⟩ := Prod.mk.inj h
      obtain ⟨rfl, hf, rfl⟩ := Log.insert_table hs hc htable
      right
      cases name with
      | observation_events =>
        exact ⟨rfl, j.add_event doc hs hf, rfl, j.extends_add_event hs hf, by
          simp [Journal.log, Journal.add_event, Log.add]⟩
      | observation_checkpoints =>
        exact ⟨rfl, j.add_checkpoint doc hs hf hi, rfl, j.extends_add_checkpoint hs hf hi, by
          simp [Journal.log, Journal.add_checkpoint, Log.add]⟩
    · obtain ⟨rfl, rfl⟩ := Prod.mk.inj h
      exact .inl ⟨rfl, rfl⟩
  · exact .inl ⟨(Option.some.inj h).symm, rfl⟩

theorem next_cursor_answer (j : Journal) (name : TableName) :
    (answer (.next_cursor name) j.db).1 = (j.log name).docs.length := by
  simp only [answer, Journal.table_db, Log.next_cursor_table]

/-- The row an insert of a checked document writes. -/
theorem checked_row {k : Kind} {doc : Json} (h : Checked k doc) (cursor : ℕ) :
    (⟨k.id doc, cursor, String.ofList (doc.norm.print true), digest doc⟩ : Row) =
      k.row cursor doc.norm := by
  rw [Kind.row, h.id_norm, digest_norm]

/-- The new record is the document's. -/
theorem recorded_new (name : TableName) {j' : Journal} {doc : Json} (h : Checked (kind name) doc)
    {cursor : ℕ} (hget : (j'.log name).docs[cursor]? = some doc.norm) :
    j'.Recorded name doc cursor := ⟨_, hget, h.id_norm, digest_norm doc⟩

/-- A record found by the ID of a document, with its digest. -/
theorem recorded_found (name : TableName) {doc : Json} {cursor : ℕ} {d : String}
    (h : (j.log name).table.find ((kind name).id doc) = some (cursor, d)) :
    ∃ stored, (j.log name).docs[cursor]? = some stored ∧
      (kind name).id stored = (kind name).id doc ∧ d = digest stored := by
  by_cases hid : (kind name).id doc ∈ (j.log name).docs.map (kind name).id
  · obtain ⟨stored, hmem, heq⟩ := List.mem_map.mp hid
    obtain ⟨i, hi⟩ := List.mem_iff_getElem?.mp hmem
    have hfind := Log.find_table hi
    rw [heq, h] at hfind
    simp only [Option.some.injEq, Prod.mk.injEq] at hfind
    obtain ⟨rfl, rfl⟩ := hfind
    exact ⟨stored, hi, heq, rfl⟩
  · rw [Log.find_table_none.mpr hid] at h
    cases h

/-- **One record is stored**: the cursor that is returned is that of a record
with the document's ID and digest, and a failure writes nothing. -/
theorem store_record_safe (name : TableName) {doc : Json} (hd : Checked (kind name) doc)
    (hi : Insertable j name doc.norm) (message failure : String) :
    StoreSafe (fun _ cursor j' => j'.Recorded name doc cursor) (Untouched m) m
      (store_record name doc ((kind name).id doc) (digest doc) message failure) j := by
  unfold store_record
  simp only [Prog.bind_eq, Prog.perform_bind]
  refine read_safe rfl (fun _ => rfl) (fun _ => rfl) fun j₁ hj₁ => ?_
  simp only [answer, Journal.table_db]
  -- between the lookup and the insertion another connection may have inserted the same ID;
  -- the insertion then fails
  cases hfound : (j₁.log name).table.find ((kind name).id doc) with
  | some known =>
    obtain ⟨cursor, known_digest⟩ := known
    obtain ⟨stored, hget, hid, rfl⟩ := recorded_found name hfound
    simp only
    split_ifs with heq
    · exact ret_safe fun j' hj' => Journal.Recorded.mono ⟨stored, hget, hid, heq⟩ hj'
    · exact raise_safe fun _ _ => rfl
  | none =>
    refine read_safe rfl (fun _ => rfl) (fun _ => rfl) fun j₂ hj₂ => ?_
    rw [next_cursor_answer]
    simp only [hd.dumped, Prog.lift_ok, Prog.ret_bind]
    rw [checked_row hd]
    refine call_safe fun j₃ hj₃ r db hs => ?_
    rcases insert_spec name hd.stored (hi.mono ((hj₁.trans hj₂).trans hj₃)) (hj₃ name).length_le hs with
      ⟨rfl, rfl⟩ | ⟨rfl, j₄, rfl, hj₄, hget⟩
    · exact ⟨j₃, rfl, .refl j₃, raise_safe fun _ _ => rfl⟩
    · exact ⟨j₄, rfl, hj₄, ret_safe fun j' hj' => (recorded_new name hd hget).mono hj'⟩

/-- The values of the insert of a document. -/
def Kind.parameters (k : Kind) (doc : Json) : Parameters :=
  ⟨k.id doc, String.ofList (doc.print true), digest doc⟩

theorem checked_parameters {doc : Json} (h : Checked event_kind doc) :
    (⟨event_kind.id doc, String.ofList (doc.norm.print true), digest doc⟩ : Parameters) =
      event_kind.parameters doc.norm := by
  rw [Kind.parameters, h.id_norm, digest_norm]

/-- The insert of an intent goes to the next cursor. -/
theorem insert_intent_spec {doc : Json} (hs : Stored event_kind doc) {cursor : ℕ} {db : Db}
    (h : j.db.insert_intent (event_kind.parameters doc) = some (cursor, db)) :
    ∃ j' : Journal, db = j'.db ∧ j.Extends j' ∧ j'.checkpoints = j.checkpoints ∧
      j'.events.docs[cursor]? = some doc := by
  simp only [Db.insert_intent, Option.map_eq_some_iff, Prod.mk.injEq] at h
  obtain ⟨events, hinsert, rfl, rfl⟩ := h
  have hnext : j.db.events.next_cursor = j.events.docs.length := Log.next_cursor_table _
  rw [hnext] at hinsert ⊢
  obtain ⟨-, hf, rfl⟩ := Log.insert_table hs le_rfl hinsert
  exact ⟨j.add_event doc hs hf, rfl, j.extends_add_event hs hf, rfl, by
    simp [Journal.add_event, Log.add]⟩

/-- The transaction of both inserts. -/
theorem insert_pair_spec {c e : Json} (hc : Stored checkpoint_kind c) (ha : j.Anchors c)
    (he : Stored event_kind e) {position cursor : ℕ} (hp : position ≤ j.checkpoints.docs.length)
    {db : Db} (h : j.db.insert_pair (checkpoint_kind.row position c) (event_kind.parameters e) =
      some (cursor, db)) :
    ∃ j' : Journal, db = j'.db ∧ j.Extends j' ∧ j'.checkpoints.docs[position]? = some c ∧
      j'.events.docs[cursor]? = some e := by
  simp only [Db.insert_pair, Option.bind_eq_some_iff] at h
  obtain ⟨checkpoints, hinsert, h⟩ := h
  obtain ⟨rfl, hf, rfl⟩ := Log.insert_table hc hp hinsert
  obtain ⟨j', rfl, hj', hsame, hget⟩ :=
    insert_intent_spec (j := j.add_checkpoint c hc hf ha) he h
  refine ⟨j', rfl, (j.extends_add_checkpoint hc hf ha).trans hj', ?_, hget⟩
  rw [hsame]
  simp [Journal.add_checkpoint, Log.add]

/-- A checked pair: a valid intent and a checkpoint. -/
structure CheckedPair (checkpoint intent : Json) : Prop where
  intent : Checked event_kind intent
  checkpoint : Checked checkpoint_kind checkpoint

/-- What a gated write leaves: both records. -/
def RecordedPair (checkpoint intent : Json) (_ cursor : ℕ) (j : Journal) : Prop :=
  j.Recorded .observation_events intent cursor ∧
    ∃ position, j.Recorded .observation_checkpoints checkpoint position

theorem RecordedPair.mono {checkpoint intent : Json} {n cursor : ℕ} {j' : Journal}
    (h : RecordedPair checkpoint intent n cursor j) (hj : j.Extends j') :
    RecordedPair checkpoint intent n cursor j' := by
  obtain ⟨he, position, hc⟩ := h
  exact ⟨he.mono hj, position, hc.mono hj⟩

/-- A lookup that found the digest that was looked for. -/
def Known (j : Journal) (name : TableName) (doc : Json) (known : Option (ℕ × String)) : Prop :=
  ∀ p ∈ known, j.Recorded name doc p.1

/-- A lookup by ID that passed `check_known`. -/
theorem check_known_ok (name : TableName) {doc : Json} {message : String}
    (h : check_known ((j.log name).table.find ((kind name).id doc)) (digest doc) message = .ok ()) :
    Known j name doc ((j.log name).table.find ((kind name).id doc)) := by
  rintro ⟨cursor, d⟩ hfound
  obtain ⟨stored, hget, hid, rfl⟩ := recorded_found name hfound
  rw [hfound] at h
  simp only [check_known] at h
  split_ifs at h with heq
  exact ⟨stored, hget, hid, heq⟩

theorem Known.mono {j' : Journal} {name : TableName} {doc : Json} {known : Option (ℕ × String)}
    (h : Known j name doc known) (hj : j.Extends j') : Known j' name doc known :=
  fun p hp => (h p hp).mono hj

/-- The writes of a gated pair. -/
theorem write_pair_safe {checkpoint intent : Json} (hp : CheckedPair checkpoint intent)
    (ha : j.Anchors checkpoint.norm) {known_checkpoint known_event : Option (ℕ × String)}
    (hkc : Known j .observation_checkpoints checkpoint known_checkpoint)
    (hke : Known j .observation_events intent known_event) :
    StoreSafe (RecordedPair checkpoint intent) (Untouched m) m
      (write_pair checkpoint intent (checkpoint_kind.id checkpoint) (digest checkpoint)
        (event_kind.id intent) (digest intent) known_checkpoint known_event) j := by
  unfold write_pair
  simp only [Prog.bind_eq, Prog.perform_bind]
  -- what is known already was recorded before, and a journal only grows
  cases known_checkpoint with
  | some c =>
    cases known_event with
    | some e => exact ret_safe fun j' hj' => ⟨(hke e rfl).mono hj', c.1, (hkc c rfl).mono hj'⟩
    | none =>
      refine read_safe rfl (fun _ => rfl) (fun _ => rfl) fun j₁ hj₁ => ?_
      rw [next_cursor_answer]
      simp only [hp.intent.dumped, Prog.lift_ok, Prog.ret_bind]
      rw [checked_row hp.intent]
      refine call_safe fun j₂ hj₂ r db hs => ?_
      rcases insert_spec .observation_events hp.intent.stored trivial
        (hj₂ .observation_events).length_le hs with ⟨rfl, rfl⟩ | ⟨rfl, j₃, rfl, hj₃, hget⟩
      · exact ⟨j₂, rfl, .refl j₂, raise_safe fun _ _ => rfl⟩
      · refine ⟨j₃, rfl, hj₃, ret_safe fun j' hj' => ?_⟩
        have hj : j.Extends j' := ((hj₁.trans hj₂).trans hj₃).trans hj'
        exact ⟨(recorded_new .observation_events hp.intent hget).mono hj', c.1,
          (hkc c rfl).mono hj⟩
  | none =>
    cases known_event with
    | some e =>
      refine read_safe rfl (fun _ => rfl) (fun _ => rfl) fun j₁ hj₁ => ?_
      rw [next_cursor_answer]
      simp only [hp.checkpoint.dumped, Prog.lift_ok, Prog.ret_bind]
      rw [checked_row hp.checkpoint]
      refine call_safe fun j₂ hj₂ r db hs => ?_
      rcases insert_spec .observation_checkpoints hp.checkpoint.stored
        (ha.mono (hj₁.trans hj₂)) (hj₂ .observation_checkpoints).length_le hs with
        ⟨rfl, rfl⟩ | ⟨rfl, j₃, rfl, hj₃, hget⟩
      · exact ⟨j₂, rfl, .refl j₂, raise_safe fun _ _ => rfl⟩
      · refine ⟨j₃, rfl, hj₃, ret_safe fun j' hj' => ?_⟩
        have hj : j.Extends j' := ((hj₁.trans hj₂).trans hj₃).trans hj'
        exact ⟨(hke e rfl).mono hj, _,
          (recorded_new .observation_checkpoints hp.checkpoint hget).mono hj'⟩
    | none =>
      refine read_safe rfl (fun _ => rfl) (fun _ => rfl) fun j₁ hj₁ => ?_
      rw [next_cursor_answer]
      simp only [hp.checkpoint.dumped, hp.intent.dumped, Prog.lift_ok, Prog.ret_bind]
      rw [checked_row hp.checkpoint, checked_parameters hp.intent]
      refine call_safe fun j₂ hj₂ r db hs => ?_
      rcases hs with hs | ⟨hs, rfl⟩
      · simp only [answer] at hs
        split at hs
        -- both rows in one statement, so no state has one of them without the other
        · rename_i cursor db' hpair
          obtain ⟨rfl, rfl⟩ := Prod.mk.inj hs
          obtain ⟨j₃, rfl, hj₃, hgc, hge⟩ := insert_pair_spec hp.checkpoint.stored
            (ha.mono (hj₁.trans hj₂)) hp.intent.stored (hj₂ .observation_checkpoints).length_le hpair
          refine ⟨j₃, rfl, hj₃, ret_safe fun j' hj' => ?_⟩
          exact ⟨(recorded_new .observation_events hp.intent hge).mono hj', _,
            (recorded_new .observation_checkpoints hp.checkpoint hgc).mono hj'⟩
        · obtain ⟨rfl, rfl⟩ := Prod.mk.inj hs
          exact ⟨j₂, rfl, .refl j₂, raise_safe fun _ _ => rfl⟩
      · obtain rfl := Option.some.inj hs
        exact ⟨j₂, rfl, .refl j₂, raise_safe fun _ _ => rfl⟩

/-- A checkpoint that passed `check_checkpoint` can be prepared. -/
theorem anchors_norm {checkpoint : Json} (hw : checkpoint.wf)
    (hs : check_checkpoint_shape checkpoint = .ok ()) (h : j.Anchors checkpoint) :
    j.Anchors checkpoint.norm := by
  obtain ⟨cursor, hc⟩ := h
  exact ⟨cursor, (check_trigger_norm hw hs).trans hc⟩

/-- `append`: the event is checked, and recorded at the cursor returned. -/
theorem append_safe {event : Json} (hw : event.wf) :
    StoreSafe (fun _ cursor j' => Checked event_kind event ∧
        j'.Recorded .observation_events event cursor)
      (Untouched m) m (append event) j := by
  unfold append
  simp only [Prog.bind_eq]
  refine check_safe (fun _ _ _ _ => rfl) fun _ hv => ?_
  refine check_safe (fun _ _ _ _ => rfl) fun p hp => ?_
  obtain ⟨d, id⟩ := p
  obtain ⟨hd, rfl, rfl⟩ := prepare_ok (k := event_kind) hw hv hp
  refine (store_record_safe .observation_events hd trivial _ _).mono ?_ fun _ _ _ h => h
  rintro n cursor _ ⟨j', rfl, hrec⟩
  exact ⟨j', rfl, hd, hrec⟩

/-- `record_checkpoint`. -/
theorem record_checkpoint_safe {checkpoint : Json} (hw : checkpoint.wf) :
    StoreSafe (fun _ cursor j' => Checked checkpoint_kind checkpoint ∧
        j'.Recorded .observation_checkpoints checkpoint cursor)
      (Untouched m) m (record_checkpoint checkpoint) j := by
  unfold record_checkpoint
  simp only [Prog.bind_eq]
  refine bind_safe ((check_recorded_safe checkpoint).mono (fun _ _ _ h => h) ?_) ?_
  · rintro n e _ ⟨j', rfl, hn, -⟩
    exact ⟨j', rfl, hn⟩
  · rintro n _ j₁ - ⟨rfl, hshape, hanchor⟩
    refine check_safe (fun _ _ _ _ => rfl) fun p hp => ?_
    obtain ⟨d, id⟩ := p
    obtain ⟨hd, rfl, rfl⟩ := prepare_ok (k := checkpoint_kind) hw
      (check_checkpoint_shape_ok.mp hshape) hp
    refine (store_record_safe .observation_checkpoints hd
      (anchors_norm hw hshape hanchor) _ _).mono ?_ fun _ _ _ h => h
    rintro n cursor _ ⟨j', rfl, hrec⟩
    exact ⟨j', rfl, hd, hrec⟩

/-- `check_result_causality` only reads. -/
theorem check_result_causality_safe (result_event : Json) :
    StoreSafe (fun n _ _ => n = m) (Untouched m) m (check_result_causality result_event) j := by
  unfold check_result_causality
  simp only [Prog.bind_eq]
  refine check_safe (fun _ _ _ _ => rfl) fun _ _ => ?_
  refine bind_safe (documents_safe .observation_events) ?_
  rintro n docs j' - ⟨rfl, -, -⟩
  cases result_causality docs _ result_event with
  | error e => exact raise_safe fun _ _ => rfl
  | ok position => exact ret_safe fun _ _ => rfl

/-- A prepared intent was checked. -/
theorem prepare_intent_ok {intent : Json} {d id : String} (hw : intent.wf)
    (h : prepare_intent intent = .ok (d, id)) :
    Checked event_kind intent ∧ d = digest intent ∧ id = event_kind.id intent := by
  obtain ⟨_, hv, hp⟩ := bind_ok.mp h
  exact prepare_ok (k := event_kind) hw hv hp

/-- A valid checkpoint with a digest was checked. -/
theorem dict_digest_ok {checkpoint : Json} {d : String} (hw : checkpoint.wf)
    (hs : check_checkpoint_shape checkpoint = .ok ()) (h : dict_digest checkpoint = .ok d) :
    Checked checkpoint_kind checkpoint ∧ d = digest checkpoint := by
  have hv := check_checkpoint_shape_ok.mp hs
  obtain ⟨fields, rfl⟩ := object_valid rfl hv
  obtain ⟨he, rfl⟩ := sha256_digest_ok.mp h
  exact ⟨⟨hw, hv, he⟩, rfl⟩

/-- `record_checkpoint_and_intent`: both are checked and recorded. -/
theorem record_checkpoint_and_intent_safe {checkpoint intent : Json} (hc : checkpoint.wf)
    (hi : intent.wf) :
    StoreSafe (fun n cursor j' => CheckedPair checkpoint intent ∧
        RecordedPair checkpoint intent n cursor j')
      (Untouched m) m (record_checkpoint_and_intent checkpoint intent) j := by
  unfold record_checkpoint_and_intent
  simp only [Prog.bind_eq, Prog.perform_bind]
  refine check_safe (fun _ _ _ _ => rfl) fun p hp => ?_
  obtain ⟨d, id⟩ := p
  obtain ⟨hintent, rfl, rfl⟩ := prepare_intent_ok hi hp
  refine check_safe (fun _ _ _ _ => rfl) fun d hd => ?_
  refine bind_safe ((check_recorded_safe checkpoint).mono (fun _ _ _ h => h) ?_) ?_
  · rintro n e _ ⟨j', rfl, hn, -⟩
    exact ⟨j', rfl, hn⟩
  · rintro n _ j₁ - ⟨rfl, hshape, hanchor⟩
    obtain ⟨hcheckpoint, rfl⟩ := dict_digest_ok hc hshape hd
    have hid : bound_item checkpoint "checkpoint_id" = .ok (checkpoint_kind.id checkpoint) := by
      have hget : str_item checkpoint "checkpoint_id" = _ := hcheckpoint.str_item_id
      simp [bound_item, hget, bind_text, bind, Except.bind]
    simp only [hid, Prog.lift_ok, Prog.ret_bind]
    refine read_safe rfl (fun _ => rfl) (fun _ => rfl) fun j₂ hj₂ => ?_
    simp only [answer, Journal.table_db]
    refine check_safe (fun _ _ _ _ => rfl) fun _ hkc => ?_
    refine read_safe rfl (fun _ => rfl) (fun _ => rfl) fun j₃ hj₃ => ?_
    simp only [answer, Journal.table_db]
    refine check_safe (fun _ _ _ _ => rfl) fun _ hke => ?_
    refine (write_pair_safe ⟨hintent, hcheckpoint⟩
      ((anchors_norm hc hshape hanchor).mono (hj₂.trans hj₃))
      ((check_known_ok .observation_checkpoints hkc).mono hj₃)
      (check_known_ok .observation_events hke)).mono ?_ fun _ _ _ h => h
    rintro n cursor _ ⟨j', rfl, hrec⟩
    exact ⟨j', rfl, ⟨hintent, hcheckpoint⟩, hrec⟩

/-- The transaction of the one-shot insert. -/
theorem insert_once_spec {checkpoint intent : Json} (hc : checkpoint.wf)
    (hi : Checked event_kind intent) {d : String} (hd : dict_digest checkpoint = .ok d) {cursor : ℕ}
    {db : Db}
    (h : j.db.insert_once checkpoint d intent (event_kind.id intent) (digest intent) =
      .ok (some (cursor, db))) :
    Checked checkpoint_kind checkpoint ∧
      ∃ j' : Journal, db = j'.db ∧ j.Extends j' ∧ RecordedPair checkpoint intent 0 cursor j' := by
  have hload : load_all (j.db.events.in_order.map Row.json) = .ok j.events.docs := by
    change load_all ((j.events.table.in_order).map Row.json) = _
    rw [Log.in_order_table, Log.load_table]
  simp only [Db.insert_once, bind_ok, hload, Except.ok.injEq] at h
  obtain ⟨_, hshape, _, rfl, position, htrigger, h⟩ := h
  have hanchor : j.Anchors checkpoint := ⟨position, htrigger⟩
  obtain ⟨hchecked, rfl⟩ := dict_digest_ok hc hshape hd
  refine ⟨hchecked, ?_⟩
  split_ifs at h with hknown
  have hid : bound_item checkpoint "checkpoint_id" = .ok (checkpoint_kind.id checkpoint) := by
    have hget : str_item checkpoint "checkpoint_id" = _ := hchecked.str_item_id
    simp [bound_item, hget, bind_text, bind, Except.bind]
  simp only [hid, ok_bind, hchecked.dumped, hi.dumped] at h
  rw [checked_parameters hi] at h
  have hfind : j.db.checkpoints = (j.log .observation_checkpoints).table := rfl
  rw [hfind] at h
  -- a known checkpoint leaves the intent alone to insert; a new one is inserted with it
  split at h
  · rename_i known hk
    obtain ⟨known_cursor, known_digest⟩ := known
    obtain ⟨stored, hget, hsame, rfl⟩ := recorded_found .observation_checkpoints hk
    split_ifs at h with hdigest
    obtain ⟨j', rfl, hj', -, he⟩ := insert_intent_spec hi.stored (Except.ok.inj h)
    refine ⟨j', rfl, hj', recorded_new .observation_events hi he, known_cursor, ?_⟩
    exact Journal.Recorded.mono ⟨stored, hget, hsame, by simpa using hdigest⟩ hj'
  · rw [Log.next_cursor_table, checked_row hchecked] at h
    obtain ⟨j', rfl, hj', hgc, hge⟩ := insert_pair_spec hchecked.stored
      (anchors_norm hc hshape hanchor) hi.stored le_rfl (Except.ok.inj h)
    exact ⟨j', rfl, hj', recorded_new .observation_events hi hge, _,
      recorded_new .observation_checkpoints hchecked hgc⟩

/-- `record_checkpoint_and_intent_once`: both are checked and recorded. -/
theorem record_checkpoint_and_intent_once_safe {checkpoint intent : Json} (hc : checkpoint.wf)
    (hi : intent.wf) :
    StoreSafe (fun n cursor j' => CheckedPair checkpoint intent ∧
        RecordedPair checkpoint intent n cursor j')
      (Untouched m) m (record_checkpoint_and_intent_once checkpoint intent) j := by
  unfold record_checkpoint_and_intent_once
  simp only [Prog.bind_eq, Prog.perform_bind]
  refine check_safe (fun _ _ _ _ => rfl) fun p hp => ?_
  obtain ⟨d, id⟩ := p
  obtain ⟨hintent, rfl, rfl⟩ := prepare_intent_ok hi hp
  refine check_safe (fun _ _ _ _ => rfl) fun d hd => ?_
  refine call_safe fun j₁ hj₁ r db hs => ?_
  rcases hs with hs | ⟨hs, rfl⟩
  · simp only [answer] at hs
    split at hs
    · rename_i cursor db' honce
      obtain ⟨rfl, rfl⟩ := Prod.mk.inj hs
      obtain ⟨hchecked, j₂, rfl, hj₂, hrec⟩ := insert_once_spec hc hintent hd honce
      exact ⟨j₂, rfl, hj₂, ret_safe fun j' hj' =>
        ⟨⟨hintent, hchecked⟩, RecordedPair.mono hrec hj'⟩⟩
    · obtain ⟨rfl, rfl⟩ := Prod.mk.inj hs
      exact ⟨j₁, rfl, .refl j₁, raise_safe fun _ _ => rfl⟩
    · obtain ⟨rfl, rfl⟩ := Prod.mk.inj hs
      exact ⟨j₁, rfl, .refl j₁, raise_safe fun _ _ => rfl⟩
  · obtain rfl := Option.some.inj hs
    exact ⟨j₁, rfl, .refl j₁, raise_safe fun _ _ => rfl⟩

/-! ### Opening a journal -/

/-- A row of a stored document passes the checks of the reopening. -/
theorem check_row_stored {k : Kind} {doc : Json} (h : Stored k doc) (mismatch : String) (i : ℕ) :
    check_row k.schema k.key mismatch (k.row i doc) i = .ok doc := by
  have hsame : py_eq (.str (.text (k.id doc))) (.str (.text (k.id doc))) = true := by simp [py_eq]
  simp [check_row, Kind.row, h.loads, h.valid, h.item_id, h.sha256, hsame]

/-- The event rows of a journal pass. -/
theorem check_event_rows_stored {rows : List Row} {i : ℕ}
    (h : ∀ n row, rows[n]? = some row →
      ∃ doc, Stored event_kind doc ∧ row = event_kind.row (i + n) doc) :
    check_event_rows rows i = .ok () := by
  induction rows generalizing i with
  | nil => rfl
  | cons row rest ih =>
    obtain ⟨doc, hdoc, rfl⟩ := h 0 row rfl
    have hrow : check_row EVENT_SCHEMA "event_id" "event row mismatch" _ i = _ :=
      check_row_stored hdoc "event row mismatch" i
    rw [check_event_rows, Nat.add_zero, hrow, ok_bind]
    refine ih fun n row hn => ?_
    rw [Nat.add_assoc, Nat.add_comm 1 n]
    exact h (n + 1) row hn

/-- The checkpoint rows of a journal pass, however it grows meanwhile. -/
theorem check_checkpoint_rows_safe {rows : List Row} {i : ℕ}
    (h : ∀ n row, rows[n]? = some row →
      ∃ doc, Stored checkpoint_kind doc ∧ row = checkpoint_kind.row (i + n) doc ∧ j.Anchors doc) :
    StoreSafe (fun n _ _ => n = m) (fun _ _ _ => False) m (check_checkpoint_rows rows i) j := by
  induction rows generalizing i j with
  | nil => exact ret_safe fun _ _ => rfl
  | cons row rest ih =>
    obtain ⟨doc, hdoc, rfl, hanchor⟩ := h 0 row rfl
    have hrow : check_row CHECKPOINT_SCHEMA "checkpoint_id" "checkpoint row mismatch" _ i = _ :=
      check_row_stored hdoc "checkpoint row mismatch" i
    unfold check_checkpoint_rows
    simp only [Prog.bind_eq]
    rw [Nat.add_zero, hrow, Prog.lift_ok, Prog.ret_bind]
    refine bind_safe ((check_recorded_safe doc).mono (fun _ _ _ h => h) ?_) ?_
    · rintro n e _ ⟨_, rfl, -, hnot⟩
      exact absurd ⟨check_checkpoint_shape_ok.mpr hdoc.valid, hanchor⟩ hnot
    · rintro n _ j' hj ⟨rfl, -⟩
      refine ih fun n row hn => ?_
      obtain ⟨doc, hdoc, hrow, ha⟩ := h (n + 1) row hn
      refine ⟨doc, hdoc, ?_, ha.mono hj⟩
      rw [Nat.add_assoc, Nat.add_comm 1 n]
      exact hrow

/-- The rows of a log, in order. -/
theorem rows_of_log {k : Kind} (l : Log k) {n : ℕ} {row : Row} (h : l.table.in_order[n]? = some row) :
    ∃ doc, l.docs[n]? = some doc ∧ Stored k doc ∧ row = k.row (0 + n) doc := by
  rw [Log.in_order_table, Log.table_getElem?, Option.map_eq_some_iff] at h
  obtain ⟨doc, hget, rfl⟩ := h
  exact ⟨doc, hget, l.stored doc (List.mem_of_getElem? hget), by rw [Nat.zero_add]⟩

/-- **Opening a journal never fails**, whatever is written meanwhile. -/
theorem validate_persisted_rows_safe :
    StoreSafe (fun n _ _ => n = m) (fun _ _ _ => False) m validate_persisted_rows j := by
  unfold validate_persisted_rows
  simp only [Prog.tryCatch_eq]
  refine Safe.handle (Safe.mono (Q := Ends fun n _ _ => n = m) (X := Ends fun _ _ _ => False) ?_
    (fun _ _ _ h => h) fun _ _ _ ⟨_, _, h⟩ => h.elim)
  simp only [Prog.bind_eq, Prog.perform_bind]
  refine read_safe rfl (fun _ => rfl) (fun _ => rfl) fun j₁ _ => ?_
  have hevents : check_event_rows (j₁.db.table .observation_events).in_order 0 = .ok () := by
    refine check_event_rows_stored fun n row hn => ?_
    obtain ⟨doc, -, hdoc, hrow⟩ := rows_of_log j₁.events hn
    exact ⟨doc, hdoc, hrow⟩
  simp only [answer, hevents, Prog.lift_ok, Prog.ret_bind]
  refine read_safe rfl (fun _ => rfl) (fun _ => rfl) fun j₂ _ => ?_
  refine check_checkpoint_rows_safe fun n row hn => ?_
  obtain ⟨doc, hget, hdoc, hrow⟩ := rows_of_log j₂.checkpoints hn
  exact ⟨doc, hdoc, hrow, j₂.anchored doc (List.mem_of_getElem? hget)⟩

/-! ### Calls -/

/-- What a call that returned has left in the journal. -/
def Returned : Call → ℕ → Option ℕ → Journal → Prop
  | .open_journal, n, _, _ => n = 0
  | .append event, _, cursor, j => ∃ n, cursor = some n ∧ Checked event_kind event.val ∧
      j.Recorded .observation_events event.val n
  | .record_checkpoint checkpoint, _, cursor, j => ∃ n, cursor = some n ∧
      Checked checkpoint_kind checkpoint.val ∧
      j.Recorded .observation_checkpoints checkpoint.val n
  | .record_checkpoint_and_intent checkpoint intent, _, cursor, j => ∃ n, cursor = some n ∧
      CheckedPair checkpoint.val intent.val ∧ RecordedPair checkpoint.val intent.val 0 n j
  | .record_checkpoint_and_intent_once checkpoint intent, _, cursor, j => ∃ n, cursor = some n ∧
      CheckedPair checkpoint.val intent.val ∧ RecordedPair checkpoint.val intent.val 0 n j
  | .check_result_causality _, n, _, _ => n = 0

/-- A call that raised wrote nothing; opening does not raise. -/
def Raised (c : Call) (n : ℕ) (_ : Exn) (_ : Journal) : Prop := n = 0 ∧ c ≠ .open_journal

/-- Mapping the result of a method. -/
theorem map_safe {α β : Type} {p : Program α} {f : α → β} {Q : ℕ → α → Journal → Prop}
    {Q' : ℕ → β → Journal → Prop} {X X' : ℕ → Exn → Journal → Prop} (h : StoreSafe Q X m p j)
    (hQ : ∀ n a j, Q n a j → ∀ j', j.Extends j' → Q' n (f a) j')
    (hX : ∀ n e j, X n e j → X' n e j) : StoreSafe Q' X' m (f <$> p) j := by
  rw [Prog.map_eq]
  refine bind_safe (Safe.mono h (fun _ _ _ h => h) ?_) fun n a j' _ hq => ret_safe (hQ n a j' hq)
  rintro n e _ ⟨j', rfl, hx⟩
  exact ⟨j', rfl, hX n e j' hx⟩

/-- **Every call keeps the journal.** -/
theorem body_safe (c : Call) : StoreSafe (Returned c) (Raised c) 0 (body c) j := by
  cases c with
  | open_journal =>
    exact map_safe validate_persisted_rows_safe (fun _ _ _ h _ _ => h) fun _ _ _ h => h.elim
  | append event =>
    exact map_safe (append_safe event.property)
      (fun _ cursor _ h _ hj => ⟨cursor, rfl, h.1, h.2.mono hj⟩) fun _ _ _ h => ⟨h, nofun⟩
  | record_checkpoint checkpoint =>
    exact map_safe (record_checkpoint_safe checkpoint.property)
      (fun _ cursor _ h _ hj => ⟨cursor, rfl, h.1, h.2.mono hj⟩) fun _ _ _ h => ⟨h, nofun⟩
  | record_checkpoint_and_intent checkpoint intent =>
    exact map_safe (record_checkpoint_and_intent_safe checkpoint.property intent.property)
      (fun _ cursor _ h _ hj => ⟨cursor, rfl, h.1, RecordedPair.mono h.2 hj⟩)
      fun _ _ _ h => ⟨h, nofun⟩
  | record_checkpoint_and_intent_once checkpoint intent =>
    exact map_safe (record_checkpoint_and_intent_once_safe checkpoint.property intent.property)
      (fun _ cursor _ h _ hj => ⟨cursor, rfl, h.1, RecordedPair.mono h.2 hj⟩)
      fun _ _ _ h => ⟨h, nofun⟩
  | check_result_causality result =>
    exact map_safe (check_result_causality_safe result.val) (fun _ _ _ h _ _ => h)
      fun _ _ _ h => ⟨h, nofun⟩

end Methods

/-! ## Runs -/

section Runs

variable {cfg cfg' : Config Call Op Res Exn (Option ℕ) Db}

theorem sound_body (c : Call) (db : Db) (h : Sound db) :
    Safe sem Sound Grows count_writes (Ends (Returned c)) (Ends (Raised c)) 0 (body c) db := by
  obtain ⟨j, rfl⟩ := h
  exact body_safe c

theorem sound_empty : Sound Db.empty := ⟨Journal.empty, rfl⟩

/-- Every database a run reaches represents a journal. -/
theorem run_sound (h : Run cfg) : Sound cfg.shared := (h.safe sound_empty sound_body).1

/-- Cursors count the rows, and IDs are unique. -/
theorem Sound.tables {db : Db} (h : Sound db) (name : TableName) :
    (db.table name).map Row.cursor = List.range (db.table name).length ∧
      ((db.table name).map Row.id).Nodup := by
  obtain ⟨j, rfl⟩ := h
  rw [Journal.table_db, Log.cursors, Log.length_table, Log.row_ids]
  exact ⟨rfl, (j.log name).ids⟩

/-- A growing journal keeps its rows. -/
theorem table_prefix {j j' : Journal} (h : j.Extends j') (name : TableName) :
    j.db.table name <+: j'.db.table name := by
  obtain ⟨rest, hrest⟩ := h name
  rw [Journal.table_db, Journal.table_db, Log.table, Log.table, ← hrest, List.mapIdx_append]
  exact List.prefix_append _ _

theorem rows_grow {db db' : Db} (h : Sound db) (hg : Relation.ReflTransGen Grows db db')
    (name : TableName) : db.table name <+: db'.table name := by
  obtain ⟨j, rfl⟩ := h
  obtain ⟨j', rfl, hj⟩ := Grows.run hg
  exact table_prefix hj name

/-- The row's document is the given one up to key order, unless their canonical
texts are a SHA-256 collision. -/
def Row.Holds (row : Row) (doc : Json) : Prop :=
  Json.loads row.json = some doc.norm ∨
    ∃ stored, Json.loads row.json = some stored ∧
      Collision (canonical_bytes stored) (canonical_bytes doc)

/-- One digest, one document. -/
theorem holds_of_digest {k : Kind} {stored doc : Json} (hs : Stored k stored) (hd : Checked k doc)
    (cursor : ℕ) (h : digest stored = digest doc) : (k.row cursor stored).Holds doc := by
  rcases sha256_digest_inj ⟨hs.wf, hs.plain⟩ ⟨hd.wf, hd.plain⟩ hs.sha256
    (hd.sha256.trans (by rw [h])) with heq | hc
  · left
    rw [← heq, hs.sorted]
    exact hs.loads
  · exact .inr ⟨stored, hs.loads, hc⟩

/-- One document, one digest. -/
theorem digest_of_loads {k : Kind} {stored doc : Json} (hs : Stored k stored) {cursor : ℕ}
    (h : Json.loads (k.row cursor stored).json = some doc.norm) : digest stored = digest doc := by
  have heq : stored = doc.norm := Option.some.inj (hs.loads.symm.trans h)
  rw [heq, digest_norm]

/-- The event a call records. -/
def Call.event : Call → Option PyValue
  | .append event => some event
  | .record_checkpoint_and_intent _ intent => some intent
  | .record_checkpoint_and_intent_once _ intent => some intent
  | _ => none

/-- A call that returned has its event in the journal. -/
theorem returned_event {c : Call} {event : PyValue} {j : Journal} {m : ℕ} {a : Option ℕ}
    (hc : c.event = some event) (h : Returned c m a j) : ∃ n, a = some n ∧
      Checked event_kind event.val ∧ j.Recorded .observation_events event.val n := by
  cases c with
  | append e =>
    obtain rfl := Option.some.inj hc
    exact h
  | record_checkpoint_and_intent checkpoint intent =>
    obtain rfl := Option.some.inj hc
    obtain ⟨n, rfl, hp, hrec, -⟩ := h
    exact ⟨n, rfl, hp.intent, hrec⟩
  | record_checkpoint_and_intent_once checkpoint intent =>
    obtain rfl := Option.some.inj hc
    obtain ⟨n, rfl, hp, hrec, -⟩ := h
    exact ⟨n, rfl, hp.intent, hrec⟩
  | _ => cases hc

/-- **What a returned cursor means**: the row at it is the event's. -/
theorem returned_row (h : Run cfg) {t : Thread Call Op Res Exn (Option ℕ) Db} (ht : t ∈ cfg.pool)
    {event : PyValue} (hc : t.call.event = some event) {a : Option ℕ}
    (hret : t.status = .running (.ret a)) :
    ∃ n row, a = some n ∧ cfg.shared.events[n]? = some row ∧ row.cursor = n ∧
      row.id = event_kind.id event.val ∧ row.digest = digest event.val ∧ row.Holds event.val := by
  obtain ⟨j, hj, hq⟩ := h.returned sound_empty sound_body ht hret
  obtain ⟨n, rfl, hd, stored, hget, hid, hdigest⟩ := returned_event hc hq
  have hrow : cfg.shared.events[n]? = some (event_kind.row n stored) := by
    rw [hj]
    change j.events.table[n]? = _
    rw [Log.table_getElem?]
    exact congrArg _ hget
  have hs := j.events.stored stored (List.mem_of_getElem? hget)
  exact ⟨n, _, rfl, hrow, rfl, hid, hdigest, holds_of_digest hs hd n hdigest⟩

/-- A call that raised left every state it acted on as it was. -/
theorem raised_unchanged (h : Run cfg) {t : Thread Call Op Res Exn (Option ℕ) Db}
    (ht : t ∈ cfg.pool) {e : Exn} (hraise : t.status = .running (.raise e)) :
    ∀ step ∈ t.past, step.after = step.before := by
  obtain ⟨_, -, hm, -⟩ := h.raised sound_empty sound_body ht hraise
  have hsem := h.records fun _ h => run_sound h
  intro step hstep
  refine unchanged_of_no_write (hsem t ht step hstep).2 ?_
  have hsum : ∀ (past : List (Record Op Res Db)) (n : ℕ),
      past.foldl (fun n e => count_writes n e.op e.res) n = 0 →
        n = 0 ∧ ∀ e ∈ past, writes e.op e.res = 0 := by
    intro past
    induction past with
    | nil => exact fun n h => ⟨h, by simp⟩
    | cons e past ih =>
      intro n hn
      obtain ⟨hzero, hrest⟩ := ih _ hn
      have hzero : n + writes e.op e.res = 0 := hzero
      exact ⟨by omega, List.forall_mem_cons.mpr ⟨by omega, hrest⟩⟩
  exact (hsum t.past 0 hm).2 step hstep

/-- **Appending under a known ID.** The first statement finds the row; it is the
only one, and it decides what the call does. -/
theorem append_known (h : Run cfg) {t : Thread Call Op Res Exn (Option ℕ) Db} (ht : t ∈ cfg.pool)
    {event : PyValue} (hc : t.call = .append event) {r : Record Op Res Db}
    (hr : t.past.head? = some r) {row : Row} (hrow : row ∈ r.before.events)
    (hid : row.id = event_kind.id event.val) :
    Checked event_kind event.val ∧ t.past = [r] ∧ r.after = r.before ∧
      ∀ p, t.status = .running p → p =
        if row.digest = digest event.val then .ret (some row.cursor)
        else .raise (conflict "event id conflict") := by
  obtain ⟨q, hq, hlive⟩ := h.follows t ht
  obtain ⟨⟨j, hj⟩, hsem⟩ := h.records (fun _ h => run_sound h) t ht r (List.mem_of_head? hr)
  obtain ⟨rest, hpast⟩ : ∃ rest, t.past = r :: rest := by
    cases hp : t.past with
    | nil => simp [hp] at hr
    | cons a rest => exact ⟨rest, by simpa [hp] using hr⟩
  rw [hc, hpast] at hq
  simp only [body, append, Prog.map_eq, Prog.bind_eq] at hq
  -- The call got as far as its first statement, so its checks passed.
  cases hv : validate event.val EVENT_SCHEMA with
  | error e =>
    rw [hv] at hq
    cases hq
  | ok u =>
    cases hp : prepare event.val "event_id" with
    | error e =>
      rw [hv, hp] at hq
      cases hq
    | ok p =>
      obtain ⟨d, id⟩ := p
      obtain ⟨hd, rfl, rfl⟩ := prepare_ok (k := event_kind) event.property hv hp
      simp only [hv, hp, Prog.lift_ok, Prog.ret_bind, store_record, Prog.bind_eq,
        Prog.perform_bind, Prog.call_bind] at hq
      cases hq with
      | step before after hq =>
        rename_i known
        rcases hsem with hsem | ⟨hsem, -⟩
        · obtain ⟨hknown, hafter⟩ := Prod.mk.inj hsem
          have hfound : known = some (row.cursor, row.digest) := by
            refine hknown.symm.trans ?_
            change before = j.db at hj
            subst hj
            obtain ⟨i, stored, hget, rfl⟩ := Log.mem_table.mp hrow
            change j.events.table.find _ = _
            rw [← hid]
            exact Log.find_table hget
          subst hfound
          simp only at hq
          split_ifs at hq with heq
          · rw [Prog.lift_ok, Prog.ret_bind] at hq
            cases hq
            refine ⟨hd, hpast, hafter.symm, fun p hp => ?_⟩
            rw [if_pos heq]
            exact hlive p hp
          · rw [Prog.lift_error, Prog.raise_bind] at hq
            cases hq
            refine ⟨hd, hpast, hafter.symm, fun p hp => ?_⟩
            rw [if_neg heq]
            exact hlive p hp
        · cases hsem

/-- **A checkpoint names an event** of the journal: the one at its cursor, by
its ID. -/
theorem Sound.checkpoint_named {db : Db} (h : Sound db) {row : Row} (hrow : row ∈ db.checkpoints) :
    ∃ checkpoint n event, Json.loads row.json = some checkpoint ∧
      checkpoint.get? "event_cursor" = some (.int (n : ℕ)) ∧ db.events[n]? = some event ∧
      checkpoint.get? "trigger_event_id" = some (.str (.text event.id)) := by
  obtain ⟨j, rfl⟩ := h
  obtain ⟨i, doc, hget, rfl⟩ := Log.mem_table.mp hrow
  have hmem := List.mem_of_getElem? hget
  have hs := j.checkpoints.stored doc hmem
  obtain ⟨cursor, hcheck⟩ := j.anchored doc hmem
  obtain ⟨trigger, position, event, htrigger, hfind, -, -, -, hcursor, -, rfl⟩ :=
    check_trigger_ok.mp hcheck
  obtain ⟨n, id, hn, hevent, hid, heq⟩ := find_event_get hfind
  rw [Nat.zero_add] at hn
  subst hn
  have he := j.events.stored event (List.mem_of_getElem? hevent)
  -- Both IDs are strings, so the comparison is equality.
  obtain rfl := Except.ok.inj (he.item_id.symm.trans hid)
  obtain ⟨s, hs'⟩ : ∃ s, doc.get? "trigger_event_id" = some (.str s) :=
    string_field rfl hs.valid (by simp [checkpoint_kind, CHECKPOINT_SCHEMA]) rfl rfl
  obtain rfl := Option.some.inj (hs'.symm.trans (item_ok.mp htrigger))
  obtain rfl : PyStr.text (event_kind.id event) = s := by simpa [py_eq] using heq
  have hcur : doc.get? "event_cursor" = some (.int (position : ℕ)) := by
    obtain ⟨v, hv, hint⟩ := bind_ok.mp hcursor
    rw [item_ok.mp hv]
    cases v with
    | int k => rw [Except.ok.inj hint]
    | _ => cases hint
  refine ⟨doc, position, event_kind.row position event, hs.loads, hcur, ?_, hs'⟩
  change j.events.table[position]? = _
  rw [Log.table_getElem?, hevent]
  rfl

/-- The statements that read. -/
def Op.reads : Op → Prop
  | .rows _ => True
  | .find _ _ => True
  | .next_cursor _ => True
  | _ => False

theorem answer_reads (op : Op) (db : Db) (h : op.reads) : (answer op db).2 = db := by
  cases op with
  | rows name => rfl
  | find name id => rfl
  | next_cursor name => rfl
  | _ => cases h

theorem check_checkpoint_rows_reads (rows : List Row) (i : ℕ) :
    (check_checkpoint_rows rows i).All Op.reads := by
  induction rows generalizing i with
  | nil => exact Prog.All.lift _
  | cons row rest ih =>
    unfold check_checkpoint_rows check_recorded documents
    simp only [Prog.bind_eq, Prog.perform_bind]
    refine (Prog.All.lift _).bind fun _ => ((Prog.All.lift _).bind fun _ => ?_).bind fun _ => ih _
    exact ⟨trivial, fun _ => (Prog.All.lift _).bind fun _ => Prog.All.lift _⟩

theorem validate_persisted_rows_reads : validate_persisted_rows.All Op.reads := by
  unfold validate_persisted_rows
  simp only [Prog.tryCatch_eq, Prog.bind_eq, Prog.perform_bind]
  refine Prog.All.handle ⟨trivial, fun _ => (Prog.All.lift _).bind fun _ => ⟨trivial, fun _ => ?_⟩⟩
    fun _ => trivial
  exact check_checkpoint_rows_reads _ _

/-- **Closing and reopening**: the journal of a run opens, and is left as it
was. -/
theorem reopens (h : Run cfg) :
    (body .open_journal).exec answer cfg.shared = (.ok none, cfg.shared) := by
  have hr := h.serve sem_answer .open_journal
  have hstate : (validate_persisted_rows.exec answer cfg.shared).2 = cfg.shared :=
    Prog.exec_reads answer validate_persisted_rows_reads answer_reads _
  have hbody : (body .open_journal).exec answer cfg.shared =
      match validate_persisted_rows.exec answer cfg.shared with
      | (.ok _, db) => (.ok none, db)
      | (.error e, db) => (.error e, db) := by
    rw [body, Prog.map_eq, Prog.exec_bind]
    cases validate_persisted_rows.exec answer cfg.shared with
    | mk result db => cases result <;> rfl
  cases hopen : validate_persisted_rows.exec answer cfg.shared with
  | mk result db =>
    rw [hopen] at hstate hbody
    obtain rfl : db = cfg.shared := hstate
    cases result with
    | ok u => exact hbody
    -- a reopening that failed would be a run in which no reading failed and one raised
    | error e =>
      have hfinished : (body .open_journal).finished answer cfg.shared = .raise e := by
        rw [Prog.finished, hbody]
        rfl
      rw [hfinished] at hr
      obtain ⟨_, -, -, hne⟩ := Reachable.raised sound_empty sound_body hr
        (List.mem_append_right _ (List.mem_singleton_self _)) rfl
      exact absurd rfl hne

/-- The documents of a journal can be read. -/
theorem Sound.documents {db : Db} (h : Sound db) (name : TableName) :
    ∃ docs, (documents name).exec answer db = (.ok docs, db) ∧
      docs.length = (db.table name).length := by
  obtain ⟨j, rfl⟩ := h
  refine ⟨(j.log name).docs, ?_, by rw [Journal.table_db, Log.length_table]⟩
  simp only [ObservationStore.documents, Prog.bind_eq, Prog.perform_bind, Prog.exec, answer,
    Journal.table_db, Log.in_order_table, Log.load_table, Prog.lift_ok]

/-- **The observation store keeps its integrity**, for any interleaving of calls
on any number of connections and any failed writes:

* cursors number the rows of each table in the order they were inserted, and
  IDs are unique;
* the rest of a run only adds rows after those that are there;
* a call that returned a cursor for an event has that event in the row at it;
* an event appended again gets the first cursor and adds nothing; a different
  event under a known ID is refused and nothing is written, as far as SHA-256
  tells the two apart; the gated calls do not return either;
* a call that raised wrote nothing;
* a checkpoint names the event at its cursor;
* the journal can be opened at any point, between calls and among them, and
  reading it gives the same lists afterwards. -/
theorem observation_store_integrity (h : Run cfg) :
    (∀ name, (cfg.shared.table name).map Row.cursor =
        List.range (cfg.shared.table name).length ∧
      ((cfg.shared.table name).map Row.id).Nodup) ∧
    (∀ cfg', Relation.ReflTransGen (Step body sem) cfg cfg' →
      ∀ name, cfg.shared.table name <+: cfg'.shared.table name) ∧
    (∀ t ∈ cfg.pool, ∀ event, t.call.event = some event → ∀ a, t.status = .running (.ret a) →
      ∃ n row, a = some n ∧ cfg.shared.events[n]? = some row ∧ row.cursor = n ∧
        row.id = event_kind.id event.val ∧ row.digest = digest event.val ∧
        row.Holds event.val) ∧
    (∀ t ∈ cfg.pool, ∀ event, t.call = .append event → ∀ r ∈ t.past.head?,
      ∀ row ∈ r.before.events, row.id = event_kind.id event.val →
        t.past = [r] ∧ r.after = r.before ∧
        (Json.loads row.json = some event.val.norm →
          ∀ p, t.status = .running p → p = .ret (some row.cursor)) ∧
        (¬ row.Holds event.val →
          ∀ p, t.status = .running p → p = .raise (conflict "event id conflict"))) ∧
    (∀ t ∈ cfg.pool, ∀ event, t.call.event = some event → ∀ r ∈ t.past,
      ∀ row ∈ r.before.events, row.id = event_kind.id event.val → ¬ row.Holds event.val →
        ∀ a, t.status ≠ .running (.ret a)) ∧
    (∀ t ∈ cfg.pool, ∀ e, t.status = .running (.raise e) →
      t.call ≠ .open_journal ∧ ∀ step ∈ t.past, step.after = step.before) ∧
    (∀ row ∈ cfg.shared.checkpoints, ∃ checkpoint n event,
      Json.loads row.json = some checkpoint ∧
      checkpoint.get? "event_cursor" = some (.int (n : ℕ)) ∧
      cfg.shared.events[n]? = some event ∧
      checkpoint.get? "trigger_event_id" = some (.str (.text event.id))) ∧
    ((body .open_journal).exec answer cfg.shared = (.ok none, cfg.shared) ∧
      ∀ name, ∃ docs, docs.length = (cfg.shared.table name).length ∧
        (documents name).exec answer cfg.shared = (.ok docs, cfg.shared) ∧
        (documents name).exec answer ((body .open_journal).exec answer cfg.shared).2 =
          (.ok docs, cfg.shared)) := by
  have hsound := run_sound h
  refine ⟨fun name => hsound.tables name, ?_, ?_, ?_, ?_, ?_, ?_, ?_⟩
  · exact fun cfg' hrun name =>
      rows_grow hsound (h.guarantees sound_empty sound_body hrun) name
  · exact fun t ht event hc a hret => returned_row h ht hc hret
  · intro t ht event hc r hr row hrow hid
    obtain ⟨hd, hpast, hafter, hp⟩ := append_known h ht hc hr hrow hid
    obtain ⟨⟨j, hj⟩, -⟩ := h.records (fun _ h => run_sound h) t ht r (List.mem_of_head? hr)
    rw [hj] at hrow
    obtain ⟨i, stored, hget, rfl⟩ := Log.mem_table.mp hrow
    have hs := j.events.stored stored (List.mem_of_getElem? hget)
    refine ⟨hpast, hafter, fun hload p hrun => ?_, fun hnot p hrun => ?_⟩
    · rw [hp p hrun]
      exact if_pos (digest_of_loads hs hload)
    · rw [hp p hrun]
      exact if_neg fun hdigest => hnot (holds_of_digest hs hd i hdigest)
  · intro t ht event hc r hr row hrow hid hnot a hret
    obtain ⟨n, row', rfl, hrow', -, hid', -, hholds⟩ := returned_row h ht hc hret
    -- The row is still there, and an ID has one row.
    have hgrow := rows_grow (h.records (fun _ h => run_sound h) t ht r hr).1
      (h.since sound_empty sound_body t ht r hr) .observation_events
    obtain rfl := List.inj_on_of_nodup_map (hsound.tables .observation_events).2
      (hgrow.subset hrow) (List.mem_of_getElem? hrow') (hid.trans hid'.symm)
    exact hnot hholds
  · intro t ht e hraise
    obtain ⟨_, -, -, hne⟩ := h.raised sound_empty sound_body ht hraise
    exact ⟨hne, raised_unchanged h ht hraise⟩
  · exact fun row hrow => hsound.checkpoint_named hrow
  · refine ⟨reopens h, fun name => ?_⟩
    obtain ⟨docs, hdocs, hlen⟩ := hsound.documents name
    refine ⟨docs, hlen, hdocs, ?_⟩
    rw [reopens h]
    exact hdocs

end Runs

/-! ## A run -/

/-- An event of a run. -/
def sample_event : PyValue :=
  ⟨.obj
    [(.text "schema_version", .int 1), (.text "event_id", .str (.text "event-1")),
      (.text "event_type", .str (.text "decision_proposed")),
      (.text "process_id", .str (.text "process-1")), (.text "run_id", .str (.text "run-1")),
      (.text "branch_id", .str (.text "branch-1")), (.text "task_id", .str (.text "task-1")),
      (.text "agent_id", .str (.text "agent-1")), (.text "sequence", .int 0),
      (.text "occurred_at", .str (.text "2026-01-01T00:00:00Z")),
      (.text "recorded_at", .str (.text "2026-01-01T00:00:00Z")),
      (.text "classification", .str (.text "internal")),
      (.text "redaction_status", .str (.text "complete"))],
    by simp [Json.wf, Json.wf_fields]⟩

/-- An event that is appended twice is stored once. -/
theorem observation_store_integrity_repeated :
    ∃ cfg : Config Call Op Res Exn (Option ℕ) Db, Run cfg ∧
      cfg.pool.map Thread.call = [.append sample_event, .append sample_event] ∧
      cfg.shared.events.map Row.id = ["event-1"] ∧
      (body .open_journal).exec answer cfg.shared = (.ok none, cfg.shared) := by
  obtain ⟨cfg, hr, hs, hp⟩ := Reachable.sequence body Db.empty sem_answer
    [.append sample_event, .append sample_event]
  refine ⟨cfg, hr, hp, ?_, (observation_store_integrity hr).2.2.2.2.2.2.2.1⟩
  rw [hs]
  decide +kernel

end AppContracts.ObservationStore
